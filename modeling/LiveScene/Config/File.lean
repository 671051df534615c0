import LiveScene.Config.Ron
import LiveScene.Config.Toml

/-! # Configuration files

The end of a path says how its file is written. A file is read before its format is looked at; it is
written after its text is made.
-/

namespace LiveScene

/-- A path without the parts that lead nowhere: single dots and empty ones, unless they are the first
or the last. -/
def plainPath (path : String) : String :=
  match (path.toList.splitOn '/').map String.ofList with
  | [] => path
  | first :: rest =>
    let inner := (if first = "." then [] else [first]) ++ rest.dropLast.filter fun part =>
      part ≠ "" ∧ part ≠ "."
    "/".intercalate (inner ++ rest.getLast?.toList)

/-- Files by their plain path. Only the folder itself exists, so a path with a slash leads nowhere
unless its file is there. -/
structure Folder where
  files : List (String × String) := []

namespace Folder

def read? (folder : Folder) (path : String) : Option String :=
  folder.files.lookup (plainPath path)

def write (folder : Folder) (path text : String) : Folder :=
  { folder with files := (plainPath path, text) :: folder.files }

/-- Whether a file can be made at a path. -/
def canHold (folder : Folder) (path : String) : Bool :=
  let path := plainPath path
  (folder.files.lookup path).isSome || !(path.isEmpty || path.toList.contains '/')

end Folder

inductive ConfigError where
  | missing
  | malformed
  /-- The format cannot hold the configuration. -/
  | unwritable
  | unsupported (path : String)
deriving DecidableEq, Repr

def missingFileText : String := "No such file or directory (os error 2)"

def ConfigError.message : ConfigError → String
  | .missing => "IO error: " ++ missingFileText
  | .malformed => "Parse error"
  | .unwritable => "Serialization error"
  | .unsupported path => "Unsupported format: " ++ path

inductive ConfigFormat where
  | toml
  | ron
deriving DecidableEq, Repr

def ConfigFormat.ofPath? (path : String) : Option ConfigFormat :=
  if ".toml".toList.isSuffixOf path.toList then some .toml
  else if ".ron".toList.isSuffixOf path.toList then some .ron
  else none

namespace Config

def ofText? : ConfigFormat → String → Option Config
  | .toml, text => ofTomlText? text
  | .ron, text => ofRonText? text

def toText? : ConfigFormat → Config → Option String
  | .toml, config => config.toTomlText?
  | .ron, config => some config.toRonText

/-- Reads a configuration. -/
def load (folder : Folder) (path : String) : Except ConfigError Config :=
  match folder.read? path, ConfigFormat.ofPath? path with
  | none, _ => .error .missing
  | some _, none => .error (.unsupported path)
  | some text, some format =>
    match ofText? format text with
    | some config => .ok config
    | none => .error .malformed

/-- Writes a configuration. -/
def save (config : Config) (folder : Folder) (path : String) : Except ConfigError Folder :=
  match ConfigFormat.ofPath? path with
  | none => .error (.unsupported path)
  | some format =>
    match config.toText? format with
    | none => .error .unwritable
    | some text => if folder.canHold path then .ok (folder.write path text) else .error .missing

end Config

end LiveScene
