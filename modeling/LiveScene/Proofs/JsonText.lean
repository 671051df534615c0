import LiveScene.Json.Reader

/-! # Texts that nest too deep

The reader goes through all of a text, whatever its limit is. What the limit does is to put an
invalid value in the place of what nests too deep. A text within the limit is read as if there were
none.
-/

namespace LiveScene.Json

/-! ## Comparing values -/

mutual

/-- Whether two values are the same; doubles are, when they are the same bits. -/
def same : Json → Json → Bool
  | .null, .null => true
  | .bool a, .bool b => a = b
  | .int a, .int b => a = b
  | .float a, .float b => a = b
  | .str a, .str b => a = b
  | .arr items, .arr items' => sameItems items items'
  | .obj fields, .obj fields' => sameFields fields fields'
  | .invalid, .invalid => true
  | _, _ => false

def sameItems : List Json → List Json → Bool
  | [], [] => true
  | a :: rest, b :: rest' => same a b && sameItems rest rest'
  | _, _ => false

def sameFields : List (String × Json) → List (String × Json) → Bool
  | [], [] => true
  | (name, a) :: rest, (name', b) :: rest' => name = name' && (same a b && sameFields rest rest')
  | _, _ => false

end

mutual

theorem same_iff (a b : Json) : same a b = true ↔ a = b := by
  cases a with
  | arr items => cases b <;> simp [same, sameItems_iff items]
  | obj fields => cases b <;> simp [same, sameFields_iff fields]
  | _ => cases b <;> simp [same]

theorem sameItems_iff (items items' : List Json) :
    sameItems items items' = true ↔ items = items' := by
  cases items with
  | nil => cases items' <;> simp [sameItems]
  | cons item rest => cases items' <;> simp [sameItems, same_iff item, sameItems_iff rest]

theorem sameFields_iff (fields fields' : List (String × Json)) :
    sameFields fields fields' = true ↔ fields = fields' := by
  match fields, fields' with
  | [], [] | [], _ :: _ | _ :: _, [] => simp [sameFields]
  | (name, value) :: rest, (name', value') :: rest' =>
      simp [sameFields, same_iff value, sameFields_iff rest, and_assoc]

end

instance : DecidableEq Json := fun a b => decidable_of_iff _ (same_iff a b)

/-! ## Values without what nests too deep -/

mutual

/-- The value with everything made invalid that nests deeper than the limit. -/
def cut : Nat → Json → Json
  | 0, .arr _ => .invalid
  | limit + 1, .arr items => .arr (cutItems limit items)
  | 0, .obj _ => .invalid
  | limit + 1, .obj fields => .obj (cutFields limit fields)
  | _, json => json

def cutItems : Nat → List Json → List Json
  | _, [] => []
  | limit, item :: rest => cut limit item :: cutItems limit rest

def cutFields : Nat → List (String × Json) → List (String × Json)
  | _, [] => []
  | limit, (name, value) :: rest => (name, cut limit value) :: cutFields limit rest

end

theorem cutItems_eq_map (limit : Nat) (items : List Json) :
    cutItems limit items = items.map (cut limit) := by
  induction items with
  | nil => rfl
  | cons item rest ih => rw [cutItems, ih, List.map_cons]

mutual

theorem depth_cut_le (limit : Nat) (json : Json) : (cut limit json).depth ≤ limit := by
  cases json with
  | arr items =>
      cases limit with
      | zero => exact Nat.le_refl 0
      | succ limit => exact Nat.succ_le_succ (itemsDepth_cutItems_le limit items)
  | obj fields =>
      cases limit with
      | zero => exact Nat.le_refl 0
      | succ limit => exact Nat.succ_le_succ (fieldsDepth_cutFields_le limit fields)
  | _ => cases limit <;> exact Nat.zero_le _

theorem itemsDepth_cutItems_le (limit : Nat) (items : List Json) :
    itemsDepth (cutItems limit items) ≤ limit := by
  cases items with
  | nil => exact Nat.zero_le _
  | cons item rest =>
      exact Nat.max_le.mpr ⟨depth_cut_le limit item, itemsDepth_cutItems_le limit rest⟩

theorem fieldsDepth_cutFields_le (limit : Nat) (fields : List (String × Json)) :
    fieldsDepth (cutFields limit fields) ≤ limit := by
  match fields with
  | [] => exact Nat.zero_le _
  | (name, value) :: rest =>
      exact Nat.max_le.mpr ⟨depth_cut_le limit value, fieldsDepth_cutFields_le limit rest⟩

end

mutual

/-- Nothing is lost of a value within the limit. -/
theorem cut_of_depth_le {limit : Nat} {json : Json} (hdepth : json.depth ≤ limit) :
    cut limit json = json := by
  cases json with
  | arr items =>
      rw [depth] at hdepth
      obtain ⟨below, rfl⟩ : ∃ below, limit = below + 1 := ⟨limit - 1, by omega⟩
      rw [cut, cutItems_of_depth_le (Nat.le_of_succ_le_succ hdepth)]
  | obj fields =>
      rw [depth] at hdepth
      obtain ⟨below, rfl⟩ : ∃ below, limit = below + 1 := ⟨limit - 1, by omega⟩
      rw [cut, cutFields_of_depth_le (Nat.le_of_succ_le_succ hdepth)]
  | _ => cases limit <;> rfl

theorem cutItems_of_depth_le {limit : Nat} {items : List Json}
    (hdepth : itemsDepth items ≤ limit) : cutItems limit items = items := by
  cases items with
  | nil => rfl
  | cons item rest =>
      obtain ⟨hfirst, hrest⟩ := Nat.max_le.mp hdepth
      rw [cutItems, cut_of_depth_le hfirst, cutItems_of_depth_le hrest]

theorem cutFields_of_depth_le {limit : Nat} {fields : List (String × Json)}
    (hdepth : fieldsDepth fields ≤ limit) : cutFields limit fields = fields := by
  match fields with
  | [] => rfl
  | (name, value) :: rest =>
      obtain ⟨hfirst, hrest⟩ := Nat.max_le.mp hdepth
      rw [cutFields, cut_of_depth_le hfirst, cutFields_of_depth_le hrest]

end

mutual

/-- What is lost leaves an invalid value behind. -/
theorem cut_of_isValid {limit : Nat} {json : Json} (hvalid : (cut limit json).isValid = true) :
    cut limit json = json := by
  cases json with
  | arr items =>
      cases limit with
      | zero => cases hvalid
      | succ limit => rw [cut, cutItems_of_itemsValid hvalid]
  | obj fields =>
      cases limit with
      | zero => cases hvalid
      | succ limit => rw [cut, cutFields_of_fieldsValid hvalid]
  | _ => cases limit <;> rfl

theorem cutItems_of_itemsValid {limit : Nat} {items : List Json}
    (hvalid : itemsValid (cutItems limit items) = true) : cutItems limit items = items := by
  cases items with
  | nil => rfl
  | cons item rest =>
      obtain ⟨hfirst, hrest⟩ := (Bool.and_eq_true _ _).mp hvalid
      rw [cutItems, cut_of_isValid hfirst, cutItems_of_itemsValid hrest]

theorem cutFields_of_fieldsValid {limit : Nat} {fields : List (String × Json)}
    (hvalid : fieldsValid (cutFields limit fields) = true) : cutFields limit fields = fields := by
  match fields with
  | [] => rfl
  | (name, value) :: rest =>
      obtain ⟨hfirst, hrest⟩ := (Bool.and_eq_true _ _).mp hvalid
      rw [cutFields, cut_of_isValid hfirst, cutFields_of_fieldsValid hrest]

end

/-! ## Reading under two limits -/

section

variable {limit limit' : Nat}

theorem nested_arr (hle : limit ≤ limit') (items : List Json) :
    nested limit (some (.arr (items.map (cut (limit - 1))))) =
      cut limit (nested limit' (some (.arr items))) := by
  cases limit' with
  | zero =>
      obtain rfl : limit = 0 := Nat.le_zero.mp hle
      rfl
  | succ limit' =>
      cases limit with
      | zero => rfl
      | succ limit => rw [← cutItems_eq_map]; rfl

theorem object?_map (limit : Nat) (fields : List (Option String × Json)) :
    object? (fields.map (Prod.map id (cut limit))) = (object? fields).map (cut (limit + 1)) := by
  have hnames : ∀ fields : List (Option String × Json),
      ((fields.map (Prod.map id (cut limit))).mapM fun (field : Option String × Json) =>
          field.1.map (·, field.2)) =
        (fields.mapM fun (field : Option String × Json) => field.1.map (·, field.2)).map
          (cutFields limit) := by
    intro fields
    induction fields with
    | nil => rfl
    | cons field rest ih =>
        rcases field with ⟨_ | name, value⟩
        · rfl
        · rw [List.map_cons, List.mapM_cons, List.mapM_cons, ih]
          cases rest.mapM fun (field : Option String × Json) => field.1.map (·, field.2) <;> rfl
  rw [object?, object?, hnames, Option.map_map, Option.map_map]
  rfl

/-- The object of some fields that were read, if it may nest. -/
theorem nested_object? (hle : limit ≤ limit') (fields : List (Option String × Json)) :
    nested limit (object? (fields.map (Prod.map id (cut (limit - 1))))) =
      cut limit (nested limit' (object? fields)) := by
  cases limit' with
  | zero =>
      obtain rfl : limit = 0 := Nat.le_zero.mp hle
      rfl
  | succ limit' =>
      cases limit with
      | zero =>
          rw [nested, nested, object?]
          cases fields.mapM fun (field : Option String × Json) => field.1.map (·, field.2) <;> rfl
      | succ limit =>
          rw [nested, nested, Nat.add_sub_cancel, object?_map]
          cases object? fields with
          | none => rfl
          | some json => rfl

/-- Reading under the first limit is reading under the second, but for what is lost of the
values. -/
structure Agree (fuel limit limit' : Nat) : Prop where
  value : ∀ text, value? fuel limit text =
    (value? fuel limit' text).map (Prod.map (cut limit) id)
  items : ∀ text, items? fuel limit text =
    (items? fuel limit' text).map (Prod.map (List.map (cut limit)) id)
  fields : ∀ text, fields? fuel limit text =
    (fields? fuel limit' text).map (Prod.map (List.map (Prod.map id (cut limit))) id)

variable {fuel : Nat}

theorem depth_numeral (numeral : Numeral) : (orInvalid numeral.value?).depth = 0 := by
  have hscaled : ∀ negative digits scale,
      (orInvalid ((scaled? negative digits scale).map .float)).depth = 0 := by
    intro negative digits scale
    cases scaled? negative digits scale <;> rfl
  unfold Numeral.value?
  dsimp only
  split
  next => split <;> split <;> first | rfl | exact hscaled _ _ _
  next => exact hscaled _ _ _

theorem Agree.value_succ (h : Agree fuel (limit - 1) (limit' - 1)) (hle : limit ≤ limit')
    (text : List Char) :
    value? (fuel + 1) limit text =
      (value? (fuel + 1) limit' text).map (Prod.map (cut limit) id) := by
  rw [value?, value?]
  generalize skipBlank text = start
  split
  next rest =>
    rcases string? rest with _ | ⟨_ | s, rest⟩
    · rfl
    · cases limit <;> rfl
    · cases limit <;> rfl
  next rest =>
    split
    next => exact congrArg (fun json => some (json, _)) (nested_arr hle [])
    next =>
      rw [h.items]
      rcases items? fuel (limit' - 1) (skipBlank rest) with _ | ⟨items, rest⟩
      · rfl
      · exact congrArg (fun json => some (json, rest)) (nested_arr hle items)
  next rest =>
    split
    next => exact congrArg (fun json => some (json, _)) (nested_object? hle [])
    next =>
      rw [h.fields]
      rcases fields? fuel (limit' - 1) (skipBlank rest) with _ | ⟨fields, rest⟩
      · rfl
      · exact congrArg (fun json => some (json, rest)) (nested_object? hle fields)
  next rest => cases Text.dropLiteral? ['u', 'l', 'l'] rest <;> cases limit <;> rfl
  next rest => cases Text.dropLiteral? ['r', 'u', 'e'] rest <;> cases limit <;> rfl
  next rest => cases Text.dropLiteral? ['a', 'l', 's', 'e'] rest <;> cases limit <;> rfl
  next =>
    rcases numeral? start with _ | ⟨numeral, rest⟩
    · rfl
    · have hflat : cut limit (orInvalid numeral.value?) = orInvalid numeral.value? := by
        refine cut_of_depth_le ?_
        rw [depth_numeral]
        exact Nat.zero_le limit
      exact congrArg (fun json => some (json, rest)) hflat.symm

theorem Agree.items_succ (h : Agree fuel limit limit') (text : List Char) :
    items? (fuel + 1) limit text =
      (items? (fuel + 1) limit' text).map (Prod.map (List.map (cut limit)) id) := by
  rw [items?, items?, h.value]
  rcases value? fuel limit' text with _ | ⟨item, rest⟩
  · rfl
  · simp only [Option.map_some, Option.bind_eq_bind, Option.bind_some, Prod.map, id_eq]
    generalize skipBlank rest = start
    split
    next rest =>
      rw [h.items]
      rcases items? fuel limit' rest with _ | ⟨items, rest⟩ <;> rfl
    next => rfl
    next => rfl

theorem Agree.fields_succ (h : Agree fuel limit limit') (text : List Char) :
    fields? (fuel + 1) limit text =
      (fields? (fuel + 1) limit' text).map
        (Prod.map (List.map (Prod.map id (cut limit))) id) := by
  rw [fields?, fields?]
  generalize skipBlank text = start
  split
  next rest =>
    rcases string? rest with _ | ⟨name, rest⟩
    · rfl
    · simp only [Option.bind_eq_bind, Option.bind_some]
      generalize skipBlank rest = start
      split
      next rest =>
        rw [h.value]
        rcases value? fuel limit' rest with _ | ⟨value, rest⟩
        · rfl
        · simp only [Option.map_some, Option.bind_some, Prod.map, id_eq]
          generalize skipBlank rest = start
          split
          next rest =>
            rw [h.fields]
            rcases fields? fuel limit' rest with _ | ⟨fields, rest⟩ <;> rfl
          next => rfl
          next => rfl
      next => rfl
  next => rfl

theorem agree (hle : limit ≤ limit') (fuel : Nat) : Agree fuel limit limit' := by
  induction fuel generalizing limit limit' with
  | zero => exact ⟨fun _ => rfl, fun _ => rfl, fun _ => rfl⟩
  | succ fuel ih =>
      exact ⟨(ih (Nat.sub_le_sub_right hle 1)).value_succ hle, (ih hle).items_succ,
        (ih hle).fields_succ⟩

/-- A lower limit makes no difference to how a text is read, but for what is lost of the value. -/
theorem read?_cut (hle : limit ≤ limit') (text : String) :
    read? limit text = (read? limit' text).map (cut limit) := by
  rw [read?, read?, (agree hle _).value]
  rcases value? (2 * text.toList.length + 2) limit' text.toList with _ | ⟨value, rest⟩
  · rfl
  · simp only [Option.map_some, Option.bind_eq_bind, Option.bind_some, Prod.map, id_eq]
    split <;> rfl

end

/-! ## What a text says -/

/-- A text spells the value that it is read as when it may nest as deep as it does. -/
def Spells (text : String) (json : Json) : Prop :=
  ∃ enough, ∀ limit, enough ≤ limit → read? limit text = some json

variable {text : String} {json : Json}

theorem Spells.read? (h : Spells text json) (limit : Nat) :
    Json.read? limit text = some (json.cut limit) := by
  obtain ⟨enough, hread⟩ := h
  rw [read?_cut (Nat.le_max_left limit enough), hread _ (Nat.le_max_right limit enough)]
  rfl

end LiveScene.Json
