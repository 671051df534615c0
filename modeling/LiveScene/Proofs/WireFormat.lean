import LiveScene.Wire.Decode
import LiveScene.Wire.Encode
import Mathlib.Data.List.Perm.Basic
import Mathlib.Data.List.Forall2

/-! # The wire format

What may be written for a value, an operation or a tree. A record is described by its fields; it is
written by name, in any order and along with unknown fields, or by place, and a field that has its
default value may be left out. Whatever is written in one of these ways is read back as it was.
-/

namespace LiveScene.Wire

open RecordReader

/-! ## Records -/

/-- A field of a record: its name, what may be written for its value, and whether it may be left
out. -/
structure Field where
  name : String
  Writes : Json → Prop
  MayLack : Prop

namespace Field

def required (name : String) (writes : Json → Prop) : Field := ⟨name, writes, False⟩

def defaulted (name : String) (writes : Json → Prop) (isDefault : Prop) : Field :=
  ⟨name, writes, isDefault⟩

def tag (name label : String) : Field := required name (· = .str label)

end Field

/-- The fields of a record by name, as declared, except for some that may be left out. -/
inductive Names : List Field → List (String × Json) → Prop
  | nil : Names [] []
  | present {field : Field} {fields : List Field} {json : Json} {entries : List (String × Json)}
      (hwrites : field.Writes json) (hrest : Names fields entries) :
      Names (field :: fields) ((field.name, json) :: entries)
  | absent {field : Field} {fields : List Field} {entries : List (String × Json)}
      (hlack : field.MayLack) (hrest : Names fields entries) : Names (field :: fields) entries

/-- The fields of a record by place, as declared, except for some at the end that may be left
out. -/
inductive Places : List Field → List Json → Prop
  | finished {fields : List Field} (hlack : ∀ field ∈ fields, field.MayLack) : Places fields []
  | present {field : Field} {fields : List Field} {json : Json} {items : List Json}
      (hwrites : field.Writes json) (hrest : Places fields items) :
      Places (field :: fields) (json :: items)

/-- What may be written for a record. A record that is held until its tag is known takes only valid
values in its unknown fields. -/
inductive WritesRecord (held : Bool) (fields : List Field) : Json → Prop
  | named {known extra entries : List (String × Json)} (hknown : Names fields known)
      (hextra : ∀ entry ∈ extra, entry.1 ∉ fields.map Field.name ∧
        (held = true → entry.2.isValid = true))
      (hperm : entries.Perm (known ++ extra)) : WritesRecord held fields (.obj entries)
  | positional {items : List Json} (hplaces : Places fields items) :
      WritesRecord held fields (.arr items)

/-! ## Values, operations and trees -/

/-- Any number that reads as a double. -/
def WritesFloat (value : Float) (json : Json) : Prop := json.toFloat? = some value

def WritesInt (value : Int) (json : Json) : Prop := json = .int value

def WritesStr (value : String) (json : Json) : Prop := json = .str value

def WritesId (id : NodeId) : Json → Prop := WritesInt id.value.toInt

def WritesKind (kind : Kind) : Json → Prop := WritesStr kind.name

def WritesList {α : Type} (writes : α → Json → Prop) (values : List α) (json : Json) : Prop :=
  ∃ items, json = .arr items ∧ List.Forall₂ writes values items

def valueFields : Value → List Field
  | .number value => [.tag "type" "number", .required "value" (WritesFloat value)]
  | .bool value => [.tag "type" "bool", .required "value" (· = .bool value)]
  | .string value => [.tag "type" "string", .required "value" (WritesStr value)]
  | .vec3 x y z =>
    [.tag "type" "vec3", .required "x" (WritesFloat x), .required "y" (WritesFloat y),
      .required "z" (WritesFloat z)]
  | .color red green blue alpha =>
    [.tag "type" "color", .required "r" (WritesInt red.toInt),
      .required "g" (WritesInt green.toInt),
      .required "b" (WritesInt blue.toInt), .defaulted "a" (WritesInt alpha.toInt) (alpha = 255)]

def WritesValue (value : Value) : Json → Prop := WritesRecord true (valueFields value)

def WritesProperty (property : String × Value) (json : Json) : Prop :=
  ∃ value, json = .arr [.str property.1, value] ∧ WritesValue property.2 value

def WritesProperties : PropertyList → Json → Prop := WritesList WritesProperty

mutual

def WritesTree : Descriptor → Json → Prop
  | .node id kind properties children =>
    WritesRecord false
      [.required "id" (WritesId id), .required "kind" (WritesKind kind),
        .defaulted "props" (WritesProperties properties) (properties = []),
        .defaulted "children" (fun json => ∃ items, json = .arr items ∧ WritesForest children items)
          (children = [])]

def WritesForest : List Descriptor → List Json → Prop
  | [], items => items = []
  | tree :: rest, items => ∃ json more, items = json :: more ∧ WritesTree tree json ∧
    WritesForest rest more

end

/-! ## Finding fields by name -/

theorem field?_eq_none {name : String} {entries : List (String × Json)}
    (hnone : ∀ json, (name, json) ∉ entries) : Json.field? name entries = none := by
  induction entries with
  | nil => rfl
  | cons entry rest ih =>
      rcases entry with ⟨key, value⟩
      have hkey : key ≠ name := by
        rintro rfl
        exact hnone value List.mem_cons_self
      rw [Json.field?, if_neg hkey]
      exact ih fun json hmem => hnone json (List.mem_cons_of_mem _ hmem)

/-- A field that is there once is found, wherever it stands. -/
theorem field?_eq_some {name : String} {json : Json} {entries : List (String × Json)}
    (hmem : (name, json) ∈ entries) (honce : ∀ json', (name, json') ∈ entries → json' = json) :
    Json.field? name entries = some json := by
  induction entries with
  | nil => cases hmem
  | cons entry rest ih =>
      rcases entry with ⟨key, value⟩
      rw [Json.field?]
      split
      next hkey =>
        subst hkey
        rw [honce value List.mem_cons_self]
      next hkey =>
        refine ih ?_ fun json' hmem' => honce json' (List.mem_cons_of_mem _ hmem')
        rcases List.mem_cons.mp hmem with heq | hmem
        · exact absurd (congrArg Prod.fst heq).symm hkey
        · exact hmem

theorem Names.mem_names {fields : List Field} {entries : List (String × Json)}
    (h : Names fields entries) {entry : String × Json} (hentry : entry ∈ entries) :
    entry.1 ∈ fields.map Field.name := by
  induction h with
  | nil => cases hentry
  | present hwrites hrest ih =>
      rw [List.map_cons, List.mem_cons]
      rcases List.mem_cons.mp hentry with rfl | hentry
      · exact Or.inl rfl
      · exact Or.inr (ih hentry)
  | absent hlack hrest ih => exact List.mem_cons_of_mem _ (ih hentry)

/-- With distinct names every field is there once, or it is not there and may be lacking. -/
theorem Names.cases_of_mem {fields : List Field} {entries : List (String × Json)}
    (h : Names fields entries) (hnodup : (fields.map Field.name).Nodup) {field : Field}
    (hfield : field ∈ fields) :
    (∃ json, field.Writes json ∧ ∀ json', (field.name, json') ∈ entries ↔ json' = json) ∨
      field.MayLack ∧ ∀ json, (field.name, json) ∉ entries := by
  induction h with
  | nil => cases hfield
  | @present first fields json entries hwrites hrest ih =>
      obtain ⟨hhead, htail⟩ := List.nodup_cons.mp hnodup
      rcases List.mem_cons.mp hfield with rfl | hfield
      · refine Or.inl ⟨json, hwrites, fun json' => ?_⟩
        have hother : (field.name, json') ∉ entries := fun hmem => hhead (hrest.mem_names hmem)
        simp [hother]
      · have hne : field.name ≠ first.name := fun heq =>
          hhead (heq ▸ List.mem_map_of_mem hfield)
        simp only [List.mem_cons, Prod.mk.injEq, hne, false_and, false_or]
        exact ih htail hfield
  | @absent first fields entries hlack hrest ih =>
      obtain ⟨hhead, htail⟩ := List.nodup_cons.mp hnodup
      rcases List.mem_cons.mp hfield with rfl | hfield
      · exact Or.inr ⟨hlack, fun json hmem => hhead (hrest.mem_names hmem)⟩
      · exact ih htail hfield

/-! ## Reading records -/

/-- A record from which fields can be read one after the other. -/
def Record.Offers : Record → List Field → Prop
  | .named entries, fields => ∀ field ∈ fields,
    (∃ json, field.Writes json ∧ Json.field? field.name entries = some json) ∨
      field.MayLack ∧ Json.field? field.name entries = none
  | .positional items, fields => Places fields items

theorem WritesRecord.offers {held : Bool} {fields : List Field} {json : Json}
    (h : WritesRecord held fields json) (hnodup : (fields.map Field.name).Nodup) :
    ∃ record, Record.ofJson? json = some record ∧ record.Offers fields := by
  cases h with
  | positional hplaces => exact ⟨_, rfl, hplaces⟩
  | @named known extra entries hknown hextra hperm =>
      refine ⟨_, rfl, fun field hfield => ?_⟩
      -- Unknown fields have other names, so only the known ones count.
      have hmem : ∀ json, (field.name, json) ∈ entries ↔ (field.name, json) ∈ known := by
        intro json
        rw [hperm.mem_iff, List.mem_append, or_iff_left]
        exact fun hmem => (hextra _ hmem).1 (List.mem_map_of_mem hfield)
      rcases hknown.cases_of_mem hnodup hfield with ⟨json, hwrites, honce⟩ | ⟨hlack, hnone⟩
      · refine Or.inl ⟨json, hwrites, field?_eq_some ?_ fun json' hjson' => ?_⟩
        · exact (hmem json).mpr ((honce json).mpr rfl)
        · exact (honce json').mp ((hmem json').mp hjson')
      · exact Or.inr ⟨hlack, field?_eq_none fun json hjson => hnone json ((hmem json).mp hjson)⟩

/-- The next field is there, or it may be lacking and is not; the others are on offer after it. -/
theorem Record.Offers.next {record : Record} {field : Field} {fields : List Field}
    (h : record.Offers (field :: fields)) :
    ((∃ json, field.Writes json ∧ (record.next field.name).1 = some json) ∨
      field.MayLack ∧ (record.next field.name).1 = none) ∧
      (record.next field.name).2.Offers fields := by
  cases record with
  | named entries =>
      obtain ⟨hfirst, hrest⟩ := List.forall_mem_cons.mp h
      exact ⟨hfirst, hrest⟩
  | positional items =>
      cases h with
      | finished hlack =>
          obtain ⟨hfirst, hrest⟩ := List.forall_mem_cons.mp hlack
          exact ⟨Or.inr ⟨hfirst, rfl⟩, Places.finished hrest⟩
      | present hwrites hrest => exact ⟨Or.inl ⟨_, hwrites, rfl⟩, hrest⟩

/-- A reader that takes some fields and makes a value of them. -/
def Takes {α : Type} (reader : RecordReader α) (fields : List Field) (value : α) : Prop :=
  ∀ record more, record.Offers (fields ++ more) →
    ∃ rest, reader record = some (value, rest) ∧ rest.Offers more

theorem takes_pure {α : Type} (value : α) : Takes (pure value) [] value :=
  fun record _ hoffers => ⟨record, rfl, hoffers⟩

theorem Takes.bind {α β : Type} {reader : RecordReader α} {next : α → RecordReader β}
    {field : Field} {fields : List Field} {first : α} {value : β}
    (hfirst : Takes reader [field] first) (hnext : Takes (next first) fields value) :
    Takes (reader >>= next) (field :: fields) value := by
  intro record more hoffers
  obtain ⟨rest, heq, hrest⟩ := hfirst record (fields ++ more) hoffers
  obtain ⟨rest', heq', hrest'⟩ := hnext rest more hrest
  refine ⟨rest', ?_, hrest'⟩
  change (reader record).bind (fun result => next result.1 result.2) = _
  rw [heq]
  exact heq'

section

variable {α : Type} {name : String} {writes : Json → Prop} {read : Json → Option α} {value : α}

theorem takes_required (hread : ∀ json, writes json → read json = some value) :
    Takes (required name read) [.required name writes] value := by
  intro record more hoffers
  obtain ⟨hnext, hrest⟩ := Record.Offers.next hoffers
  rcases hnext with ⟨json, hwrites, hjson⟩ | ⟨hlack, -⟩
  · have hfound : record.next name = (some json, (record.next name).2) := Prod.ext hjson rfl
    refine ⟨_, ?_, hrest⟩
    simp only [RecordReader.required]
    rw [hfound]
    simp only [hread json hwrites, Option.map_some]
    rfl
  · exact hlack.elim

theorem takes_defaulted {default : α} {isDefault : Prop}
    (hread : ∀ json, writes json → read json = some value)
    (hdefault : isDefault → value = default) :
    Takes (defaulted name default read) [.defaulted name writes isDefault] value := by
  intro record more hoffers
  obtain ⟨hnext, hrest⟩ := Record.Offers.next hoffers
  refine ⟨_, ?_, hrest⟩
  simp only [RecordReader.defaulted]
  rcases hnext with ⟨json, hwrites, hjson⟩ | ⟨hlack, hjson⟩
  · have hfound : record.next name = (some json, (record.next name).2) := Prod.ext hjson rfl
    rw [hfound]
    simp only [hread json hwrites, Option.map_some]
    rfl
  · have hlacking : record.next name = (none, (record.next name).2) := Prod.ext hjson rfl
    rw [hlacking]
    simp only [hdefault hlack]
    rfl

end

theorem Record.Offers.isFinished {record : Record} (h : record.Offers []) :
    record.isFinished = true := by
  cases record with
  | named entries => rfl
  | positional items =>
      cases h with
      | finished hlack => rfl

theorem Takes.readAll {α : Type} {reader : RecordReader α} {fields : List Field} {value : α}
    (h : Takes reader fields value) {record : Record} (hoffers : record.Offers fields) :
    RecordReader.readAll reader record = some value := by
  obtain ⟨rest, heq, hrest⟩ := h record [] (by rwa [List.append_nil])
  simp only [RecordReader.readAll, heq, hrest.isFinished, if_true]

theorem Takes.ofJson? {α : Type} {reader : RecordReader α} {fields : List Field} {value : α}
    (h : Takes reader fields value) (hnodup : (fields.map Field.name).Nodup) {held : Bool}
    {json : Json} (hwrites : WritesRecord held fields json) :
    RecordReader.ofJson? reader json = some value := by
  obtain ⟨record, hrecord, hoffers⟩ := hwrites.offers hnodup
  rw [RecordReader.ofJson?, hrecord]
  exact h.readAll hoffers

/-! ## Records that are held -/

/-- What is written for a field can be held. -/
def Field.Valid (field : Field) : Prop := ∀ json, field.Writes json → json.isValid = true

theorem itemsValid_iff (items : List Json) :
    Json.itemsValid items = true ↔ ∀ item ∈ items, item.isValid = true := by
  induction items with
  | nil => simp [Json.itemsValid]
  | cons item rest ih => simp [Json.itemsValid, ih]

theorem fieldsValid_iff (entries : List (String × Json)) :
    Json.fieldsValid entries = true ↔ ∀ entry ∈ entries, entry.2.isValid = true := by
  induction entries with
  | nil => simp [Json.fieldsValid]
  | cons entry rest ih =>
      rcases entry with ⟨key, value⟩
      simp [Json.fieldsValid, ih]

theorem Names.isValid {fields : List Field} {entries : List (String × Json)}
    (h : Names fields entries) (hvalid : ∀ field ∈ fields, field.Valid) :
    ∀ entry ∈ entries, entry.2.isValid = true := by
  induction h with
  | nil => simp
  | present hwrites hrest ih =>
      obtain ⟨hfirst, hothers⟩ := List.forall_mem_cons.mp hvalid
      exact List.forall_mem_cons.mpr ⟨hfirst _ hwrites, ih hothers⟩
  | absent hlack hrest ih => exact ih (List.forall_mem_cons.mp hvalid).2

theorem Places.isValid {fields : List Field} {items : List Json} (h : Places fields items)
    (hvalid : ∀ field ∈ fields, field.Valid) : ∀ item ∈ items, item.isValid = true := by
  induction h with
  | finished hlack => simp
  | present hwrites hrest ih =>
      obtain ⟨hfirst, hothers⟩ := List.forall_mem_cons.mp hvalid
      exact List.forall_mem_cons.mpr ⟨hfirst _ hwrites, ih hothers⟩

theorem WritesRecord.isValid {fields : List Field} {json : Json} (h : WritesRecord true fields json)
    (hvalid : ∀ field ∈ fields, field.Valid) : json.isValid = true := by
  cases h with
  | positional hplaces =>
      rw [Json.isValid, itemsValid_iff]
      exact hplaces.isValid hvalid
  | named hknown hextra hperm =>
      rw [Json.isValid, fieldsValid_iff]
      intro entry hentry
      rcases List.mem_append.mp (hperm.mem_iff.mp hentry) with hentry | hentry
      · exact hknown.isValid hvalid entry hentry
      · exact (hextra entry hentry).2 rfl

theorem takes_tag {name label : String} {readTag : Json → Option String}
    (htag : readTag (.str label) = some label) :
    Takes (RecordReader.required name readTag) [.tag name label] label := by
  refine takes_required ?_
  rintro _ rfl
  exact htag

/-- A record with a tag is read by the reader that its tag names. -/
theorem tagged?_of_writes {α : Type} {tag label : String} {readTag : Json → Option String}
    {reader : String → Option (RecordReader α)} {fieldReader : RecordReader α} {fields : List Field}
    {value : α} {json : Json} (hwrites : WritesRecord true (.tag tag label :: fields) json)
    (hnodup : ((Field.tag tag label :: fields).map Field.name).Nodup)
    (hvalid : ∀ field ∈ Field.tag tag label :: fields, field.Valid)
    (htag : readTag (.str label) = some label) (hreader : reader label = some fieldReader)
    (htakes : Takes fieldReader fields value) : tagged? tag readTag reader json = some value := by
  obtain ⟨record, hrecord, hoffers⟩ := hwrites.offers hnodup
  obtain ⟨rest, htagged, hrest⟩ := takes_tag htag record fields hoffers
  simp only [tagged?, hwrites.isValid hvalid, if_true, hrecord, htagged, hreader,
    Option.bind_eq_bind, Option.bind_some]
  exact htakes.readAll hrest

/-! ## Reading back -/

theorem isValid_of_writesFloat {value : Float} {json : Json} (h : WritesFloat value json) :
    json.isValid = true := by
  cases json <;> first | rfl | cases h

theorem toInt64?_of_writesInt {value : Int64} {json : Json} (h : WritesInt value.toInt json) :
    json.toInt64? = some value := by
  rw [h, Json.toInt64?, Json.toIntIn?, if_pos ⟨value.minValue_le_toInt, value.toInt_le⟩,
    Option.map_some, Int64.ofInt_toInt]

theorem toInt32?_of_writesInt {value : Int32} {json : Json} (h : WritesInt value.toInt json) :
    json.toInt32? = some value := by
  rw [h, Json.toInt32?, Json.toIntIn?, if_pos ⟨value.minValue_le_toInt, value.toInt_le⟩,
    Option.map_some, Int32.ofInt_toInt]

theorem nodeId?_of_writesId {id : NodeId} {json : Json} (h : WritesId id json) :
    nodeId? json = some id := by
  rw [nodeId?, toInt64?_of_writesInt h]
  rfl

theorem toStr?_of_writesStr {value : String} {json : Json} (h : WritesStr value json) :
    json.toStr? = some value := by
  rw [h]
  rfl

theorem ofName_name (kind : Kind) : Kind.ofName kind.name = kind := by
  cases kind <;> rfl

theorem kind?_of_writesKind {kind : Kind} {json : Json} (h : WritesKind kind json) (place : Place) :
    kind? place json = some kind := by
  rw [h]
  exact congrArg some (ofName_name kind)

theorem valid_tag (name label : String) : (Field.tag name label).Valid := by
  rintro _ rfl
  rfl

theorem valid_float (name : String) (value : Float) :
    (Field.required name (WritesFloat value)).Valid :=
  fun _ => isValid_of_writesFloat

theorem valid_int (name : String) (value : Int) (mayLack : Prop) :
    (Field.mk name (WritesInt value) mayLack).Valid := by
  rintro _ rfl
  rfl

theorem valid_str (name value : String) : (Field.required name (WritesStr value)).Valid := by
  rintro _ rfl
  rfl

theorem valid_valueFields (value : Value) : ∀ field ∈ valueFields value, field.Valid := by
  cases value with
  | number value =>
      simp only [valueFields, List.forall_mem_cons]
      exact ⟨valid_tag _ _, valid_float _ _, by simp⟩
  | bool value =>
      simp only [valueFields, List.forall_mem_cons]
      refine ⟨valid_tag _ _, ?_, by simp⟩
      rintro _ rfl
      rfl
  | string value =>
      simp only [valueFields, List.forall_mem_cons]
      exact ⟨valid_tag _ _, valid_str _ _, by simp⟩
  | vec3 x y z =>
      simp only [valueFields, List.forall_mem_cons]
      exact ⟨valid_tag _ _, valid_float _ _, valid_float _ _, valid_float _ _, by simp⟩
  | color red green blue alpha =>
      simp only [valueFields, List.forall_mem_cons]
      exact ⟨valid_tag _ _, valid_int _ _ _, valid_int _ _ _, valid_int _ _ _, valid_int _ _ _,
        by simp⟩

theorem nodup_valueFields (value : Value) : ((valueFields value).map Field.name).Nodup := by
  cases value <;>
    simp [valueFields, Field.tag, Field.required, Field.defaulted]

theorem value?_of_writes {value : Value} {json : Json} (h : WritesValue value json)
    (place : Place) : value? place json = some value := by
  have hnodup := nodup_valueFields value
  have hvalid := valid_valueFields value
  cases value with
  | number value =>
      refine tagged?_of_writes h hnodup hvalid rfl rfl ?_
      exact (takes_required fun _ => id).bind (takes_pure _)
  | bool value =>
      refine tagged?_of_writes h hnodup hvalid rfl rfl ?_
      refine (takes_required ?_).bind (takes_pure _)
      rintro _ rfl
      rfl
  | string value =>
      refine tagged?_of_writes h hnodup hvalid rfl rfl ?_
      exact (takes_required fun _ => toStr?_of_writesStr).bind (takes_pure _)
  | vec3 x y z =>
      refine tagged?_of_writes h hnodup hvalid rfl rfl ?_
      exact (takes_required fun _ => id).bind <| (takes_required fun _ => id).bind <|
        (takes_required fun _ => id).bind (takes_pure _)
  | color red green blue alpha =>
      refine tagged?_of_writes h hnodup hvalid rfl rfl ?_
      exact (takes_required fun _ => toInt32?_of_writesInt).bind <|
        (takes_required fun _ => toInt32?_of_writesInt).bind <|
          (takes_required fun _ => toInt32?_of_writesInt).bind <|
            (takes_defaulted (fun _ => toInt32?_of_writesInt) id).bind (takes_pure _)

theorem mapM_of_forall₂ {α : Type} {read : Json → Option α} {values : List α} {items : List Json}
    (h : List.Forall₂ (fun value json => read json = some value) values items) :
    items.mapM read = some values := by
  induction h with
  | nil => rfl
  | cons hfirst hrest ih => simp [List.mapM_cons, hfirst, ih]

theorem property?_of_writes {property : String × Value} {json : Json}
    (h : WritesProperty property json) (place : Place) : property? place json = some property := by
  obtain ⟨value, rfl, hvalue⟩ := h
  simp only [property?, Json.toStr?, value?_of_writes hvalue, Option.bind_eq_bind, Option.bind_some]
  rfl

theorem properties?_of_writes {properties : PropertyList} {json : Json}
    (h : WritesProperties properties json) (place : Place) :
    listOf? (property? place) json = some properties := by
  obtain ⟨items, rfl, hitems⟩ := h
  exact mapM_of_forall₂ (hitems.imp fun _ _ hproperty => property?_of_writes hproperty place)

theorem depth_le_itemsDepth {item : Json} {items : List Json} (hitem : item ∈ items) :
    item.depth ≤ Json.itemsDepth items := by
  induction items with
  | nil => cases hitem
  | cons first rest ih =>
      rw [Json.itemsDepth]
      rcases List.mem_cons.mp hitem with rfl | hitem
      · exact Nat.le_max_left _ _
      · exact Nat.le_trans (ih hitem) (Nat.le_max_right _ _)

theorem depth_le_fieldsDepth {entry : String × Json} {entries : List (String × Json)}
    (hentry : entry ∈ entries) : entry.2.depth ≤ Json.fieldsDepth entries := by
  induction entries with
  | nil => cases hentry
  | cons first rest ih =>
      rcases first with ⟨key, value⟩
      rw [Json.fieldsDepth]
      rcases List.mem_cons.mp hentry with rfl | hentry
      · exact Nat.le_max_left _ _
      · exact Nat.le_trans (ih hentry) (Nat.le_max_right _ _)

/-- The field with only values that nest no deeper than a height. -/
def Field.upTo (height : Nat) (field : Field) : Field :=
  { field with Writes := fun json => field.Writes json ∧ json.depth ≤ height }

theorem Names.upTo {fields : List Field} {entries : List (String × Json)} (h : Names fields entries)
    {height : Nat} (hdepth : ∀ entry ∈ entries, entry.2.depth ≤ height) :
    Names (fields.map (Field.upTo height)) entries := by
  induction h with
  | nil => exact .nil
  | present hwrites hrest ih =>
      obtain ⟨hfirst, hothers⟩ := List.forall_mem_cons.mp hdepth
      exact .present ⟨hwrites, hfirst⟩ (ih hothers)
  | absent hlack hrest ih => exact .absent hlack (ih hdepth)

theorem Places.upTo {fields : List Field} {items : List Json} (h : Places fields items)
    {height : Nat} (hdepth : ∀ item ∈ items, item.depth ≤ height) :
    Places (fields.map (Field.upTo height)) items := by
  induction h with
  | finished hlack =>
      refine .finished fun field hfield => ?_
      obtain ⟨field', hfield', rfl⟩ := List.mem_map.mp hfield
      exact hlack field' hfield'
  | present hwrites hrest ih =>
      obtain ⟨hfirst, hothers⟩ := List.forall_mem_cons.mp hdepth
      exact .present ⟨hwrites, hfirst⟩ (ih hothers)

/-- What is written for the fields of a record nests less deep than the record. -/
theorem WritesRecord.upTo {held : Bool} {fields : List Field} {json : Json}
    (h : WritesRecord held fields json) {height : Nat} (hdepth : json.depth ≤ height) :
    ∃ below, height = below + 1 ∧ WritesRecord held (fields.map (Field.upTo below)) json := by
  have hnames : ∀ below, (fields.map (Field.upTo below)).map Field.name = fields.map Field.name :=
    fun below => by rw [List.map_map]; rfl
  cases h with
  | positional hplaces =>
      rw [Json.depth] at hdepth
      obtain ⟨below, rfl⟩ : ∃ below, height = below + 1 := ⟨height - 1, by omega⟩
      refine ⟨below, rfl, .positional (hplaces.upTo fun item hitem => ?_)⟩
      exact Nat.le_trans (depth_le_itemsDepth hitem) (by omega)
  | named hknown hextra hperm =>
      rw [Json.depth] at hdepth
      obtain ⟨below, rfl⟩ : ∃ below, height = below + 1 := ⟨height - 1, by omega⟩
      refine ⟨below, rfl, .named (hknown.upTo fun entry hentry => ?_) ?_ hperm⟩
      · have hmem := hperm.mem_iff.mpr (List.mem_append_left _ hentry)
        exact Nat.le_trans (depth_le_fieldsDepth hmem) (by omega)
      · rw [hnames]
        exact hextra

mutual

theorem treeWithin?_of_writes (tree : Descriptor) {json : Json} (h : WritesTree tree json)
    {height : Nat} (hdepth : json.depth ≤ height) : treeWithin? height json = some tree := by
  cases tree with
  | node id kind properties children =>
      rw [WritesTree] at h
      obtain ⟨below, rfl, hwrites⟩ := h.upTo hdepth
      rw [treeWithin?]
      refine Takes.ofJson? ?_ ?_ hwrites
      · refine Takes.bind (takes_required fun _ hid => nodeId?_of_writesId hid.1) ?_
        refine Takes.bind (takes_required fun _ hkind => kind?_of_writesKind hkind.1 .alone) ?_
        refine Takes.bind (takes_defaulted (fun _ hproperties =>
          properties?_of_writes hproperties.1 .alone) fun hdefault => hdefault) ?_
        refine Takes.bind (takes_defaulted ?_ fun hdefault => hdefault) (takes_pure _)
        rintro _ ⟨⟨items, rfl, hforest⟩, hbelow⟩
        exact forestWithin?_of_writes children hforest (by rw [Json.depth] at hbelow; omega)
      · simp [Field.upTo, Field.required, Field.defaulted]

theorem forestWithin?_of_writes (trees : List Descriptor) {items : List Json}
    (h : WritesForest trees items) {height : Nat} (hdepth : Json.itemsDepth items ≤ height) :
    items.mapM (treeWithin? height) = some trees := by
  cases trees with
  | nil =>
      rw [WritesForest] at h
      rw [h]
      rfl
  | cons tree rest =>
      rw [WritesForest] at h
      obtain ⟨json, more, rfl, htree, hrest⟩ := h
      rw [Json.itemsDepth] at hdepth
      have hfirst : treeWithin? height json = some tree :=
        treeWithin?_of_writes tree htree (by omega)
      have hothers : more.mapM (treeWithin? height) = some rest :=
        forestWithin?_of_writes rest hrest (by omega)
      simp [List.mapM_cons, hfirst, hothers]

end

/-- The declared fields in their order, and nothing else. -/
theorem WritesRecord.of_names {held : Bool} {fields : List Field} {entries : List (String × Json)}
    (h : Names fields entries) : WritesRecord held fields (.obj entries) := by
  refine @WritesRecord.named held fields entries [] entries h ?_ ?_
  · simp
  · rw [List.append_nil]

theorem writesValue_encodeValue (value : Value) : WritesValue value (encodeValue value) := by
  cases value with
  | vec3 x y z =>
      refine WritesRecord.of_names ?_
      exact .present rfl (.present rfl (.present rfl (.present rfl .nil)))
  | color red green blue alpha =>
      refine WritesRecord.of_names ?_
      exact .present rfl (.present rfl (.present rfl (.present rfl (.present rfl .nil))))
  | _ => exact WritesRecord.of_names (.present rfl (.present rfl .nil))

theorem writesProperties_encodeProperties (properties : PropertyList) :
    WritesProperties properties (encodeProperties properties) := by
  refine ⟨_, rfl, ?_⟩
  induction properties with
  | nil => exact .nil
  | cons property rest ih => exact .cons ⟨_, rfl, writesValue_encodeValue property.2⟩ ih

mutual

theorem writesTree_encodeTree (tree : Descriptor) : WritesTree tree (encodeTree tree) := by
  cases tree with
  | node id kind properties children =>
      rw [WritesTree, encodeTree]
      exact WritesRecord.of_names (.present rfl (.present rfl
        (.present (writesProperties_encodeProperties properties)
          (.present ⟨_, rfl, writesForest_encodeForest children⟩ .nil))))

theorem writesForest_encodeForest (trees : List Descriptor) :
    WritesForest trees (encodeForest trees) := by
  cases trees with
  | nil => rw [WritesForest, encodeForest]
  | cons tree rest =>
      rw [WritesForest, encodeForest]
      exact ⟨_, _, rfl, writesTree_encodeTree tree, writesForest_encodeForest rest⟩

end

end LiveScene.Wire
