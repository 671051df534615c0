/-! # TOML values and tables

A document is built by adding one entry or one table after the other. How a table came to be decides
whether it may be extended: a table that a header only passed through may still get a header of its
own, a table made by a dotted key may only be extended by dotted keys, and no table is defined
twice.
-/

namespace LiveScene

/-- How a table came to be. -/
inductive TableForm where
  /-- By a header of its own. -/
  | defined
  /-- By the header of a table inside it. -/
  | implied
  /-- By a dotted key. -/
  | dotted
  /-- In braces. -/
  | inline
deriving DecidableEq, Repr

inductive Toml where
  | str (s : String)
  | integer (n : Int)
  | float
  | boolean (b : Bool)
  /-- A date, a time or both. -/
  | moment
  | array (items : List Toml)
  | table (form : TableForm) (entries : List (String × Toml))
  /-- Tables with the same header in double brackets, in order. -/
  | tables (members : List (List (String × Toml)))

namespace Toml

abbrev Table := List (String × Toml)

namespace Table

def get? (t : Table) (key : String) : Option Toml := t.lookup key

/-- Adds an entry or replaces it. -/
def set (t : Table) (key : String) (value : Toml) : Table :=
  if (t.get? key).isSome then t.map fun entry => if entry.1 == key then (key, value) else entry
  else t ++ [(key, value)]

/-- Changes the table at the end of a path. Tables that are missing on the way are made, with the
given form. A dotted key does not enter a table that has a header of its own; nothing enters a table
in braces. Of several tables with one header the last is entered. -/
def modify? (made : TableForm) (change : TableForm → Table → Option Table) :
    List String → TableForm → Table → Option Table
  | [], form, t => change form t
  | key :: path, _, t => do
    match t.get? key with
    | none =>
      let inner ← modify? made change path made []
      return t.set key (.table made inner)
    | some (.table form inner) =>
      if form = .inline ∨ made = .dotted ∧ form = .defined then none
      else
        let inner ← modify? made change path form inner
        return t.set key (.table form inner)
    | some (.tables members) =>
      let last ← members.getLast?
      let last ← modify? made change path .defined last
      return t.set key (.tables (members.dropLast ++ [last]))
    | some _ => none

/-- Adds an entry under a key that may be dotted. The table it goes into was made by dotted keys
exactly when the key is one. -/
def insert? (path : List String) (key : String) (value : Toml) (form : TableForm) (t : Table) :
    Option Table :=
  modify? .dotted (fun form inner =>
    if (form == .dotted) == path.isEmpty then none
    else if (inner.get? key).isSome then none
    else some (inner.set key value)) path form t

/-- Adds an entry to the table whose header names the given parts. -/
def insertAt? (root : Table) (header path : List String) (key : String) (value : Toml) :
    Option Table :=
  modify? .implied (insert? path key value) header .defined root

/-- Defines a table by a header. -/
def define? (path : List String) (key : String) (root : Table) : Option Table :=
  modify? .implied (fun _ inner =>
    match inner.get? key with
    | none => some (inner.set key (.table .defined []))
    | some (.table .implied entries) => some (inner.set key (.table .defined entries))
    | some _ => none) path .defined root

/-- Adds a table to those with the same header in double brackets. -/
def append? (path : List String) (key : String) (root : Table) : Option Table :=
  modify? .implied (fun _ inner =>
    match inner.get? key with
    | none => some (inner.set key (.tables [[]]))
    | some (.tables members) => some (inner.set key (.tables (members ++ [[]])))
    | some _ => none) path .defined root

end Table

/-- A line of a document. Paths come with their last part apart. -/
inductive Statement where
  | header (path : List String) (key : String)
  | memberHeader (path : List String) (key : String)
  | entry (path : List String) (key : String) (value : Toml)

/-- A document as far as it is read: its tables and the path of the one that entries go into. -/
structure Draft where
  root : Table := []
  current : List String := []

def Draft.add? (draft : Draft) : Statement → Option Draft
  | .header path key => do
    return { root := ← draft.root.define? path key, current := path ++ [key] }
  | .memberHeader path key => do
    return { root := ← draft.root.append? path key, current := path ++ [key] }
  | .entry path key value => do
    let root ← draft.root.insertAt? draft.current path key value
    return { draft with root }

/-- The table that the statements of a document describe. -/
def assemble? (statements : List Statement) : Option Table :=
  (statements.foldlM Draft.add? {}).map Draft.root

/-- The table that the entries in a pair of braces describe. -/
def assembleInline? (entries : List (List String × String × Toml)) : Option Table :=
  entries.foldlM (fun t (path, key, value) => t.insert? path key value .inline) []

end Toml

end LiveScene
