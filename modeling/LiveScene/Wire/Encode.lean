import LiveScene.Json.Basic
import LiveScene.Wire.Op

/-! # Writing wire values as JSON

Every field is written, the ones with a default too.
-/

namespace LiveScene.Wire

def encodeId (id : NodeId) : Json :=
  .int id.value.toInt

def encodeKind (kind : Kind) : Json :=
  .str kind.name

def encodeValue : Value → Json
  | .number value => .obj [("type", .str "number"), ("value", .float value)]
  | .bool value => .obj [("type", .str "bool"), ("value", .bool value)]
  | .string value => .obj [("type", .str "string"), ("value", .str value)]
  | .vec3 x y z => .obj [("type", .str "vec3"), ("x", .float x), ("y", .float y), ("z", .float z)]
  | .color red green blue alpha =>
    .obj [("type", .str "color"), ("r", .int red.toInt), ("g", .int green.toInt),
      ("b", .int blue.toInt), ("a", .int alpha.toInt)]

def encodeProperty (property : String × Value) : Json :=
  .arr [.str property.1, encodeValue property.2]

def encodeProperties (properties : PropertyList) : Json :=
  .arr (properties.map encodeProperty)

def encodeOp : Op → Json
  | .create id kind properties =>
    .obj [("op", .str "create"), ("id", encodeId id), ("kind", encodeKind kind),
      ("props", encodeProperties properties)]
  | .attach parent child =>
    .obj [("op", .str "attach"), ("parentId", encodeId parent), ("childId", encodeId child)]
  | .detach parent child =>
    .obj [("op", .str "detach"), ("parentId", encodeId parent), ("childId", encodeId child)]
  | .setProp id key value =>
    .obj [("op", .str "setProp"), ("id", encodeId id), ("key", .str key),
      ("value", encodeValue value)]
  | .unsetProp id key =>
    .obj [("op", .str "unsetProp"), ("id", encodeId id), ("key", .str key)]
  | .delete id => .obj [("op", .str "delete"), ("id", encodeId id)]

def encodeOps (ops : List Op) : Json :=
  .arr (ops.map encodeOp)

mutual

def encodeTree : Descriptor → Json
  | .node id kind properties children =>
    .obj [("id", encodeId id), ("kind", encodeKind kind), ("props", encodeProperties properties),
      ("children", .arr (encodeForest children))]

def encodeForest : List Descriptor → List Json
  | [] => []
  | tree :: rest => encodeTree tree :: encodeForest rest

end

end LiveScene.Wire
