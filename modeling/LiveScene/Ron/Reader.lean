import LiveScene.Ron.Value

/-! # Reading RON text

A document is one value, with blanks and comments around it. Attributes in front of it switch on
extensions of the notation.
-/

namespace LiveScene.Ron

open Text

/-- Reads a value at the front of a text and gives the rest. -/
abbrev Reader (α : Type) := Scope → List Char → Option (α × List Char)

namespace Reader

def map {α β : Type} (f : α → β) (read : Reader α) : Reader β := fun scope text =>
  (read scope text).map fun (a, rest) => (f a, rest)

def bool : Reader Bool := fun _ text =>
  match word? "true" text with
  | some rest => some (true, rest)
  | none => (word? "false" text).map (false, ·)

def uint64 : Reader UInt64 := fun _ text =>
  (natural? 0x10000000000000000 text).map fun (n, rest) => (UInt64.ofNat n, rest)

def str : Reader String := fun _ text => string? text

/-- A value that may be absent. Where presence need not be said, it may still be, with or without
parentheses. -/
def option {α : Type} (read : Reader α) : Reader (Option α) := fun scope text =>
  match word? "None" text, word? "Some" text with
  | some rest, _ => some (none, rest)
  | none, some rest => do
    match ← skip? rest with
    | '(' :: rest =>
      let (a, rest) ← read (← scope.enter?) (← skip? rest)
      return (some a, ← close? ')' rest)
    | rest => if scope.implicitPresent then read.map some (← scope.enter?) rest else none
  | none, none => do
    if scope.implicitPresent then read.map some (← scope.enter?) text else none

/-- Items up to a closing bracket. The last one may be followed by a comma. -/
def items {α : Type} (read : Reader α) : Nat → Reader (List α)
  | 0, _, _ => none
  | fuel + 1, scope, text => do
    match ← skip? text with
    | ']' :: rest => some ([], rest)
    | text =>
      let (a, rest) ← read (← scope.enter?) text
      match ← comma? rest with
      | (true, rest) => (items read fuel).map (a :: ·) scope rest
      | (false, ']' :: rest) => some ([a], rest)
      | _ => none

def list {α : Type} (read : Reader α) : Reader (List α) := fun scope text => do
  match text with
  | '[' :: rest => read.items (rest.length + 1) (← scope.enter?) rest
  | _ => none

/-- Fields up to a closing parenthesis. Each changes the value that is being built, and is not given
twice; one without a reader is passed over. -/
def fields {α : Type} (field? : String → Option (α → Reader α)) :
    Nat → List String → α → Reader α
  | 0, _, _, _, _ => none
  | fuel + 1, seen, a, scope, text => do
    match ← skip? text with
    | ')' :: rest => some (a, rest)
    | text =>
      let (name, rest) ← name? text
      match ← skip? rest with
      | ':' :: rest =>
        let rest ← skip? rest
        let (a, rest) ← match field? name with
          | some read => if seen.contains name then none else read a (← scope.enter?) rest
          | none => (pass? (← scope.enter?) rest).map (a, ·)
        match ← comma? rest with
        | (true, rest) => fields field? fuel (name :: seen) a scope rest
        | (false, ')' :: rest) => some (a, rest)
        | _ => none
      | _ => none

/-- The text after the name of a record, which may be missing but not be another one. -/
def dropTitle? (title : String) (text : List Char) : Option (List Char) :=
  if text.head?.any isNameChar then
    (name? text).bind fun (name, rest) => if name = title then some rest else none
  else some text

/-- A record, from what it is when it has no fields. -/
def record {α : Type} (title : String) (field? : String → Option (α → Reader α)) (start : α) :
    Reader α := fun scope text => do
  match ← skip? (← dropTitle? title text) with
  | '(' :: rest => fields field? (rest.length + 1) [] start (← scope.enter?) rest
  | _ => none

end Reader

/-- The names in an attribute, up to its closing parenthesis. -/
def extensionNames? : Nat → List Char → Option (List String × List Char)
  | 0, _ => none
  | fuel + 1, text => do
    let (name, rest) ← name? text
    let (more, rest) ← comma? rest
    if more && rest.head?.any isNameChar then
      let (names, rest) ← extensionNames? fuel rest
      return (name :: names, rest)
    else return ([name], rest)

/-- Literals with blanks and comments between and after them. -/
def literals? : List (List Char) → List Char → Option (List Char)
  | [], text => some text
  | literal :: more, text => do
    literals? more (← skip? (← dropLiteral? literal text))

/-- Attributes in front of a document and the text after them. -/
def attributes? : Nat → Scope → List Char → Option (Scope × List Char)
  | 0, _, _ => none
  | fuel + 1, scope, '#' :: text => do
    let text ← literals? [['!'], ['['], "enable".toList, ['(']] (← skip? text)
    let (names, rest) ← extensionNames? fuel text
    let rest ← literals? [[')'], [']']] rest
    if names.all ["unwrap_newtypes", "implicit_some", "unwrap_variant_newtypes"].contains then
      attributes? fuel
        { scope with
          implicitPresent := scope.implicitPresent || names.contains "implicit_some" } rest
    else none
  | _ + 1, scope, text => some (scope, text)

/-- Reads a document. -/
def Reader.document? {α : Type} (read : Reader α) (text : String) : Option α := do
  let chars := text.toList
  let (scope, rest) ← attributes? (chars.length + 1) {} (← skip? chars)
  let (a, rest) ← read scope rest
  if (← skip? rest).isEmpty then some a else none

end LiveScene.Ron
