import LiveScene.Kind
import LiveScene.NodeId

/-! # Why an operation is ignored -/

namespace LiveScene

/-- What is wrong with a link. -/
inductive LinkFlaw where
  | self
  | notAMesh
  | noSlots
  | noChildren
  | cycle
  | notLinked
deriving DecidableEq

def LinkFlaw.message : LinkFlaw → String
  | .self => "a node cannot be its own child"
  | .notAMesh => "only meshes accept geometries and materials"
  | .noSlots => "mesh has no slots"
  | .noChildren => "parent cannot hold scene children"
  | .cycle => "link would form a cycle"
  | .notLinked => "not linked"

inductive Issue where
  | unknownKind (id : NodeId) (kind : Kind)
  | duplicateId (id : NodeId)
  | missingReference (id : NodeId)
  | typeMismatch (key expected found : String)
  | unsupportedProperty (key : String) (kind : Kind)
  | invalidLink (parent child : NodeId) (flaw : LinkFlaw)
deriving DecidableEq

def Issue.message : Issue → String
  | .unknownKind id kind => "node " ++ id.label ++ ": unsupported kind '" ++ kind.name ++ "'"
  | .duplicateId id => "node " ++ id.label ++ " already exists"
  | .missingReference id => "node " ++ id.label ++ " does not exist"
  | .typeMismatch key expected found =>
    "property '" ++ key ++ "' expects " ++ expected ++ ", got " ++ found
  | .unsupportedProperty key kind => "property '" ++ key ++ "' is not supported on " ++ kind.name
  | .invalidLink parent child flaw =>
    "cannot link " ++ child.label ++ " under " ++ parent.label ++ ": " ++ flaw.message

end LiveScene
