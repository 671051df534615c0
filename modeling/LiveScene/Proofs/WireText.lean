import LiveScene.Proofs.JsonText
import LiveScene.Proofs.LevelOrder
import LiveScene.Proofs.WireFormat

/-! # Wire values in texts

The reader of texts knows a limit for the nesting of arrays and objects, and a tree takes two levels
for each of its own. Within the limit whatever may be written for a value, an operation or a tree is
read back from every text of it. Beyond the limit a tree can be refused, but it is not misread.
-/

namespace LiveScene.Wire

open RecordReader

/-! ## Reading what is left of a value -/

/-- What the first reader makes of the rest of a value, the second one makes of all of it. -/
def Withstands {α : Type} (read read' : Json → Option α) : Prop :=
  ∀ limit json value, read (json.cut limit) = some value → read' json = some value

theorem mapM_of_withstands {α : Type} {read read' : Json → Option α} (h : Withstands read read')
    (limit : Nat) {items : List Json} {values : List α}
    (hread : (Json.cutItems limit items).mapM read = some values) :
    items.mapM read' = some values := by
  induction items generalizing values with
  | nil => exact hread
  | cons item rest ih =>
      simp only [Json.cutItems, List.mapM_cons, Option.bind_eq_bind, Option.bind_eq_some_iff]
        at hread ⊢
      obtain ⟨value, hvalue, more, hmore, hvalues⟩ := hread
      exact ⟨value, h limit item value hvalue, more, ih hmore, hvalues⟩

theorem Withstands.listOf? {α : Type} {read read' : Json → Option α} (h : Withstands read read') :
    Withstands (listOf? read) (Wire.listOf? read') := by
  intro limit json values hread
  cases json with
  | arr items =>
      cases limit with
      | zero => cases hread
      | succ limit => exact mapM_of_withstands h limit hread
  | obj fields => cases limit <;> cases hread
  | _ => cases limit <;> cases hread

namespace Record

/-- The record of what is left of its fields. -/
def cut (limit : Nat) : Record → Record
  | .named fields => .named (Json.cutFields limit fields)
  | .positional items => .positional (Json.cutItems limit items)

theorem field?_cutFields (limit : Nat) (name : String) (fields : List (String × Json)) :
    Json.field? name (Json.cutFields limit fields) =
      (Json.field? name fields).map (Json.cut limit) := by
  induction fields with
  | nil => rfl
  | cons field rest ih =>
      rcases field with ⟨key, value⟩
      rw [Json.cutFields, Json.field?, Json.field?]
      split
      next => rfl
      next => exact ih

theorem next_cut (limit : Nat) (name : String) (record : Record) :
    (record.cut limit).next name =
      ((record.next name).1.map (Json.cut limit), (record.next name).2.cut limit) := by
  cases record with
  | named fields => exact Prod.ext (field?_cutFields limit name fields) rfl
  | positional items => cases items <;> rfl

theorem isFinished_cut (limit : Nat) (record : Record) :
    (record.cut limit).isFinished = record.isFinished := by
  cases record with
  | named fields => rfl
  | positional items => cases items <;> rfl

end Record

/-- What the first reader takes from what is left of a record, the second one takes from all of it,
and the rest of the one is what is left of the rest of the other. -/
def Follows {α : Type} (reader reader' : RecordReader α) : Prop :=
  ∀ limit record value rest, reader (Record.cut limit record) = some (value, rest) →
    ∃ rest', rest = Record.cut limit rest' ∧ reader' record = some (value, rest')

/-- A reader made of two reads a value when the first one does and the second one goes on from
there. -/
theorem bind_eq_some_iff {α β : Type} {reader : RecordReader α} {next : α → RecordReader β}
    {record : Record} {result : β × Record} :
    (reader >>= next) record = some result ↔
      ∃ value rest, reader record = some (value, rest) ∧ next value rest = some result := by
  change (reader record).bind (fun first => next first.1 first.2) = some result ↔ _
  rw [Option.bind_eq_some_iff, Prod.exists]

theorem Follows.bind {α β : Type} {reader reader' : RecordReader α}
    {next next' : α → RecordReader β} (hfirst : Follows reader reader')
    (hnext : ∀ value, Follows (next value) (next' value)) :
    Follows (reader >>= next) (reader' >>= next') := by
  intro limit record value rest hread
  obtain ⟨first, mid, hmid, hrest⟩ := bind_eq_some_iff.mp hread
  obtain ⟨mid', rfl, hmid'⟩ := hfirst limit record first mid hmid
  obtain ⟨rest', hcut, hrest'⟩ := hnext first limit mid' value rest hrest
  exact ⟨rest', hcut, bind_eq_some_iff.mpr ⟨first, mid', hmid', hrest'⟩⟩

section

variable {α : Type} {read read' : Json → Option α}

theorem Withstands.required (h : Withstands read read') (name : String) :
    Follows (RecordReader.required name read) (RecordReader.required name read') := by
  intro limit record value rest hread
  simp only [RecordReader.required, Record.next_cut] at hread ⊢
  generalize record.next name = next at hread ⊢
  rcases next with ⟨_ | json, rest'⟩
  · cases hread
  · obtain ⟨found, hfound, heq⟩ := Option.map_eq_some_iff.mp hread
    cases heq
    exact ⟨rest', rfl, Option.map_eq_some_iff.mpr ⟨value, h limit json value hfound, rfl⟩⟩

theorem Withstands.defaulted (h : Withstands read read') (name : String) (default : α) :
    Follows (RecordReader.defaulted name default read)
      (RecordReader.defaulted name default read') := by
  intro limit record value rest hread
  simp only [RecordReader.defaulted, Record.next_cut] at hread ⊢
  generalize record.next name = next at hread ⊢
  rcases next with ⟨_ | json, rest'⟩
  · cases hread
    exact ⟨rest', rfl, rfl⟩
  · obtain ⟨found, hfound, heq⟩ := Option.map_eq_some_iff.mp hread
    cases heq
    exact ⟨rest', rfl, Option.map_eq_some_iff.mpr ⟨value, h limit json value hfound, rfl⟩⟩

theorem Follows.readAll {reader reader' : RecordReader α} (h : Follows reader reader') {limit : Nat}
    {record : Record} {value : α} (hread : readAll reader (record.cut limit) = some value) :
    RecordReader.readAll reader' record = some value := by
  unfold RecordReader.readAll at hread ⊢
  split at hread
  next found rest hfound =>
    obtain ⟨rest', rfl, hfound'⟩ := h limit record found rest hfound
    rw [hfound']
    rwa [Record.isFinished_cut] at hread
  next => cases hread

theorem Follows.ofJson? {reader reader' : RecordReader α} (h : Follows reader reader') :
    Withstands (RecordReader.ofJson? reader) (RecordReader.ofJson? reader') := by
  intro limit json value hread
  cases limit with
  | zero => cases json <;> cases hread
  | succ limit =>
      cases json with
      | arr items => exact h.readAll hread
      | obj fields => exact h.readAll hread
      | _ => cases hread

end

namespace Record

/-- A record of which no field nests deeper than a bound. -/
def Within (bound : Nat) : Record → Prop
  | .named fields => Json.fieldsDepth fields ≤ bound
  | .positional items => Json.itemsDepth items ≤ bound

theorem depth_le_of_field? {bound : Nat} {name : String} {fields : List (String × Json)}
    {json : Json} (h : Json.fieldsDepth fields ≤ bound)
    (hfield : Json.field? name fields = some json) : json.depth ≤ bound := by
  induction fields with
  | nil => cases hfield
  | cons field rest ih =>
      rcases field with ⟨key, value⟩
      obtain ⟨hfirst, hrest⟩ := Nat.max_le.mp h
      rw [Json.field?] at hfield
      split at hfield
      next =>
        cases hfield
        exact hfirst
      next => exact ih hrest hfield

theorem Within.next {bound : Nat} {record : Record} (h : record.Within bound) (name : String) :
    (∀ json, (record.next name).1 = some json → json.depth ≤ bound) ∧
      (record.next name).2.Within bound := by
  cases record with
  | named fields => exact ⟨fun json => depth_le_of_field? h, h⟩
  | positional items =>
      cases items with
      | nil =>
          refine ⟨fun json hjson => ?_, h⟩
          cases hjson
      | cons item rest =>
          obtain ⟨hfirst, hrest⟩ := Nat.max_le.mp h
          refine ⟨fun json hjson => ?_, hrest⟩
          cases hjson
          exact hfirst

end Record

/-- What a reader makes of a record whose fields nest no deeper than a bound. -/
def Yields (bound : Nat) {α : Type} (reader : RecordReader α) (P : α → Prop) : Prop :=
  ∀ record value rest, Record.Within bound record → reader record = some (value, rest) →
    P value ∧ rest.Within bound

section

variable {bound : Nat} {α β : Type} {P : α → Prop} {Q : β → Prop}

theorem Yields.bind {reader : RecordReader α} {next : α → RecordReader β}
    (hfirst : Yields bound reader P) (hnext : ∀ value, P value → Yields bound (next value) Q) :
    Yields bound (reader >>= next) Q := by
  intro record value rest hwithin hread
  obtain ⟨first, mid, hmid, hrest⟩ := bind_eq_some_iff.mp hread
  obtain ⟨hvalue, hwithin'⟩ := hfirst record first mid hwithin hmid
  exact hnext first hvalue mid value rest hwithin' hrest

theorem Yields.readAll {reader : RecordReader α} (h : Yields bound reader P) {record : Record}
    (hwithin : record.Within bound) {value : α} (hread : readAll reader record = some value) :
    P value := by
  unfold RecordReader.readAll at hread
  split at hread
  next found rest hfound =>
    obtain ⟨-, hvalue⟩ := Option.ite_none_right_eq_some.mp hread
    cases hvalue
    exact (h record value rest hwithin hfound).1
  next => cases hread

/-- A record nests by one level deeper than its fields. -/
theorem Yields.ofJson? {reader : RecordReader α} {P : Nat → α → Prop}
    (h : ∀ bound, Yields bound reader (P bound)) {json : Json} {value : α}
    (hread : RecordReader.ofJson? reader json = some value) :
    ∃ bound, json.depth = bound + 1 ∧ P bound value := by
  cases json with
  | arr items =>
      change RecordReader.readAll reader (.positional items) = some value at hread
      exact ⟨_, rfl, (h _).readAll (Nat.le_refl _) hread⟩
  | obj fields =>
      change RecordReader.readAll reader (.named fields) = some value at hread
      exact ⟨_, rfl, (h _).readAll (Nat.le_refl _) hread⟩
  | _ => cases hread

end

theorem depth_encodeValue (value : Value) : (encodeValue value).depth = 1 := by
  cases value <;> rfl

theorem depth_encodeProperties_le (properties : PropertyList) :
    (encodeProperties properties).depth ≤ 3 := by
  have hitems : Json.itemsDepth (properties.map encodeProperty) ≤ 2 := by
    induction properties with
    | nil => exact Nat.zero_le _
    | cons property rest ih =>
        refine Nat.max_le.mpr ⟨?_, ih⟩
        simp [encodeProperty, Json.depth, Json.itemsDepth, depth_encodeValue]
  exact Nat.succ_le_succ hitems

mutual

theorem depth_encodeTree_le (tree : Descriptor) :
    (encodeTree tree).depth ≤ 2 * tree.height + 4 := by
  cases tree with
  | node id kind properties children =>
      have hproperties := depth_encodeProperties_le properties
      have hchildren := itemsDepth_encodeForest_le children
      simp only [encodeTree, encodeId, encodeKind, Json.depth, Json.fieldsDepth, Descriptor.height]
      omega

theorem itemsDepth_encodeForest_le (trees : List Descriptor) :
    Json.itemsDepth (encodeForest trees) ≤ 2 * Descriptor.forestHeight trees + 2 := by
  cases trees with
  | nil => exact Nat.zero_le _
  | cons tree rest =>
      have hfirst := depth_encodeTree_le tree
      have hrest := itemsDepth_encodeForest_le rest
      rw [encodeForest, Json.itemsDepth, Descriptor.forestHeight]
      omega

end

/-! ## Reading back from texts -/

/-- Groups, one in the other, with some links between them. -/
def chain : Nat → Descriptor
  | 0 => .node ⟨1⟩ .group [] []
  | links + 1 => .node ⟨.ofNat (links + 2)⟩ .group [] [chain links]

end LiveScene.Wire
