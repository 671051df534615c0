import LiveScene.Json.Basic

/-! # Records in JSON

A record is written either as an object, whose fields may stand in any order and may be joined by
unknown ones, or as an array of its fields in their declared order. A record with variants carries
a tag: a field of the object, or the first item of the array. Fields with a default may be left
out, at the end in the array form.
-/

namespace LiveScene.Wire

inductive Record where
  | named (fields : List (String × Json))
  | positional (items : List Json)

namespace Record

def ofJson? : Json → Option Record
  | .obj fields => some (.named fields)
  | .arr items => some (.positional items)
  | _ => none

/-- The next field, if it is there, and what remains of the record. -/
def next (name : String) : Record → Option Json × Record
  | .named fields => (Json.field? name fields, .named fields)
  | .positional [] => (none, .positional [])
  | .positional (item :: rest) => (some item, .positional rest)

/-- Whether no item is left over. Unknown fields of an object do not count. -/
def isFinished : Record → Bool
  | .named _ => true
  | .positional items => items.isEmpty

end Record

/-- Reads the fields of a record one after the other. -/
abbrev RecordReader := StateT Record Option

namespace RecordReader

def required {α : Type} (name : String) (read : Json → Option α) : RecordReader α := fun record =>
  match record.next name with
  | (some json, rest) => (read json).map (·, rest)
  | (none, _) => none

def defaulted {α : Type} (name : String) (default : α) (read : Json → Option α) :
    RecordReader α := fun record =>
  match record.next name with
  | (some json, rest) => (read json).map (·, rest)
  | (none, rest) => some (default, rest)

/-- Reads a whole record. -/
def readAll {α : Type} (reader : RecordReader α) (record : Record) : Option α :=
  match reader record with
  | some (value, rest) => if rest.isFinished then some value else none
  | none => none

def ofJson? {α : Type} (reader : RecordReader α) (json : Json) : Option α :=
  (Record.ofJson? json).bind (readAll reader)

/-- Reads a record whose fields depend on its tag. All of it is held until the tag is known, so that
unknown fields have to be valid too. -/
def tagged? {α : Type} (tag : String) (readTag : Json → Option String)
    (reader : String → Option (RecordReader α)) (json : Json) : Option α :=
  if json.isValid then do
    let record ← Record.ofJson? json
    let (label, rest) ← required tag readTag record
    readAll (← reader label) rest
  else none

end RecordReader

end LiveScene.Wire
