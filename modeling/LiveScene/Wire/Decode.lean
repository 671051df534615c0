import LiveScene.Wire.Op
import LiveScene.Wire.Record

/-! # Reading wire values from JSON

Inside an operation two more spellings are taken than outside: the type of a property value may be
given by its place in the list of types, and the payload of a kind may be an empty object instead
of `null`.
-/

namespace LiveScene.Wire

open RecordReader

/-- Whether a value stands on its own or inside an operation. -/
inductive Place where
  | alone
  | inOp
deriving DecidableEq

def nodeId? (json : Json) : Option NodeId :=
  json.toInt64?.map NodeId.mk

/-- The payload that a kind written as an object may carry. -/
def isUnit (place : Place) : Json → Bool
  | .null => true
  | .obj [] => place = .inOp
  | _ => false

def kind? (place : Place) : Json → Option Kind
  | .str name => some (Kind.ofName name)
  | .obj [(name, payload)] => if isUnit place payload then some (Kind.ofName name) else none
  | _ => none

/-- The names of the types of values, in the format's order. -/
def typeNames : List String := ["number", "bool", "string", "vec3", "color"]

def typeTag? (place : Place) : Json → Option String
  | .str name => some name
  | .int index => if place = .inOp ∧ 0 ≤ index then typeNames[index.toNat]? else none
  | _ => none

def valueReader? : String → Option (RecordReader Value)
  | "number" => some do
    return .number (← required "value" Json.toFloat?)
  | "bool" => some do
    return .bool (← required "value" Json.toBool?)
  | "string" => some do
    return .string (← required "value" Json.toStr?)
  | "vec3" => some do
    let x ← required "x" Json.toFloat?
    let y ← required "y" Json.toFloat?
    let z ← required "z" Json.toFloat?
    return .vec3 x y z
  | "color" => some do
    let red ← required "r" Json.toInt32?
    let green ← required "g" Json.toInt32?
    let blue ← required "b" Json.toInt32?
    let alpha ← defaulted "a" 255 Json.toInt32?
    return .color red green blue alpha
  | _ => none

def value? (place : Place) : Json → Option Value :=
  tagged? "type" (typeTag? place) valueReader?

def property? (place : Place) : Json → Option (String × Value)
  | .arr [key, value] => do
    let key ← key.toStr?
    let value ← value? place value
    return (key, value)
  | _ => none

def listOf? {α : Type} (read : Json → Option α) : Json → Option (List α)
  | .arr items => items.mapM read
  | _ => none

def opReader? : String → Option (RecordReader Op)
  | "create" => some do
    let id ← required "id" nodeId?
    let kind ← required "kind" (kind? .inOp)
    let properties ← defaulted "props" [] (listOf? (property? .inOp))
    return .create id kind properties
  | "attach" => some do
    let parent ← required "parentId" nodeId?
    let child ← required "childId" nodeId?
    return .attach parent child
  | "detach" => some do
    let parent ← required "parentId" nodeId?
    let child ← required "childId" nodeId?
    return .detach parent child
  | "setProp" => some do
    let id ← required "id" nodeId?
    let key ← required "key" Json.toStr?
    let value ← required "value" (value? .inOp)
    return .setProp id key value
  | "unsetProp" => some do
    let id ← required "id" nodeId?
    let key ← required "key" Json.toStr?
    return .unsetProp id key
  | "delete" => some do
    return .delete (← required "id" nodeId?)
  | _ => none

def op? : Json → Option Op :=
  tagged? "op" Json.toStr? opReader?

def ops? : Json → Option (List Op) :=
  listOf? op?

/-- A tree nested no deeper than the first argument. -/
def treeWithin? : Nat → Json → Option Descriptor
  | 0 => fun _ => none
  | height + 1 => RecordReader.ofJson? do
    let id ← required "id" nodeId?
    let kind ← required "kind" (kind? .alone)
    let properties ← defaulted "props" [] (listOf? (property? .alone))
    let children ← defaulted "children" [] (listOf? (treeWithin? height))
    return .node id kind properties children

/-- A tree; its nesting is bounded by that of the JSON value. -/
def tree? (json : Json) : Option Descriptor :=
  treeWithin? json.depth json

end LiveScene.Wire
