/-! # Where the rendering library comes from

The library is global already, or a module brings it, or a script does. A site says how each of
these goes; scripts are loaded by inserting a tag for them.
-/

namespace LiveScene

structure Library where
  name : String
deriving DecidableEq, Repr

inductive LoadError where
  | importFailed (url reason : String)
  | insertFailed (source reason : String)
  | timeout (source : String) (milliseconds : Nat)
  | exhausted (attempts : List LoadError)

def LoadError.message : LoadError → String
  | .importFailed url reason => "Module import of '" ++ url ++ "' failed: " ++ reason
  | .insertFailed source reason => "Could not insert loader for '" ++ source ++ "': " ++ reason
  | .timeout source milliseconds =>
    "'" ++ source ++ "' did not expose the library within " ++ toString milliseconds ++ " ms"
  | .exhausted attempts => "All " ++ toString attempts.length ++ " library sources failed"

/-- How a state of type `π` answers the requests of a loader. -/
class Site (π : Type) where
  /-- The library, when it is global. -/
  presentLibrary : π → Option Library
  /-- Asks for a module. -/
  startImport : π → String → π
  /-- What became of a module that was asked for; none while it is not known. -/
  importResult : π → String → Option (Except LoadError Library)
  hasTag : π → String → Bool
  insertTag : π → String → Except LoadError Unit × π
  /-- Waits for the library to become global, at most so many milliseconds. -/
  awaitGlobal : π → UInt64 → Option Library × π

/-- A site that follows a script: whether the module arrives, and after which source the library
becomes global. Modules can be held back at a gate. -/
structure Page where
  library : Library := ⟨"headless"⟩
  isGlobal : Bool := false
  moduleArrives : Bool := false
  appearsAfter : Option String := none
  /-- Sources for which no tag can be inserted. -/
  refused : List String := []
  gateClosed : Bool := false
  tags : List String := []
  /-- Sources whose tag was inserted by the loader, in order. -/
  inserted : List String := []
  imports : Nat := 0
  waits : Nat := 0

namespace Page

def openGate (page : Page) : Page :=
  { page with gateClosed := false }

def presentLibrary (page : Page) : Option Library :=
  if page.isGlobal then some page.library else none

/-- Whether the source is there after which the library appears. -/
def hasAppeared (page : Page) : Bool :=
  match page.appearsAfter with
  | some source => page.tags.contains source
  | none => false

instance : Site Page where
  presentLibrary := presentLibrary
  startImport page _ := { page with imports := page.imports + 1 }
  importResult page url :=
    if page.gateClosed then none
    else if page.moduleArrives then some (.ok page.library)
    else some (.error (.importFailed url "module not reachable"))
  hasTag page source := page.tags.contains source
  insertTag page source :=
    if page.refused.contains source then (.error (.insertFailed source "refused"), page)
    else (.ok (), { page with
      tags := page.tags ++ [source], inserted := page.inserted ++ [source] })
  awaitGlobal page _ :=
    let page := { page with waits := page.waits + 1, isGlobal := page.isGlobal || page.hasAppeared }
    (page.presentLibrary, page)

end Page

end LiveScene
