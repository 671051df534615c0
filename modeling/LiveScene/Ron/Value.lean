import LiveScene.Ron.Number
import LiveScene.Ron.Quoted

/-! # Passing over a value

A field that means nothing may hold any value: it has to be well formed and is then forgotten.
Values may nest so deep and no deeper, the values around them included.
-/

namespace LiveScene.Ron

/-- What the reading of a value depends on. -/
structure Scope where
  /-- Whether options may be given without saying so. -/
  implicitPresent : Bool := false
  /-- How many steps into values are left. A list, a map and what stands in parentheses take one
  step, each item, key and field in them another. -/
  depth : Nat := 128

namespace Scope

/-- The scope one step further in, if there is one. -/
def enter? (scope : Scope) : Option Scope :=
  match scope.depth with
  | 0 => none
  | depth + 1 => some { scope with depth }

end Scope

/-- Whether a parenthesis closes, or has a comma of its own, before the text ends. Brackets are
counted outside strings and comments, but also between single quotes. -/
def isEnclosed : Nat → Nat → List Char → Bool
  | 0, _, _ => false
  | fuel + 1, inner, text =>
    match skip? text with
    | none => false
    | some text =>
      let text := match string? text, text with
        | some (_, rest), _ => rest
        | none, '"' :: rest => rest
        | none, 'r' :: rest => rest
        | none, text => text
      match text with
      | [] => false
      | c :: rest =>
        if c = '(' ∨ c = '[' ∨ c = '{' then isEnclosed fuel (inner + 1) rest
        else if c = ')' ∨ c = ']' ∨ c = '}' then
          match inner with
          | 0 => true
          | inner + 1 => isEnclosed fuel inner rest
        else (c = ',' ∧ inner = 0) || isEnclosed fuel inner rest

/-- Whether what follows an opening parenthesis starts with a name and a colon, as the fields of a
record do. If it does not, the parenthesis has to be enclosed. -/
def startsField? (text : List Char) : Option Bool := do
  let text ← skip? text
  let rest ← match name? text with
    | some (_, rest) => skip? rest
    | none => some text
  match (name? text).isSome, rest with
  | true, ':' :: _ => some true
  | true, ',' :: _ => some false
  | true, ')' :: _ => some false
  | _, rest => if isEnclosed (rest.length + 1) 0 rest then some false else none

mutual

/-- The text after a value. The fuel bounds the length of the chain of calls. -/
def passValue? : Nat → Scope → List Char → Option (List Char)
  | 0, _, _ => none
  | fuel + 1, scope, text =>
    match oneOf? ["true", "false", "None", "inf", "NaN"] text, word? "Some" text, name? text with
    | some rest, _, _ => some rest
    | none, some rest, _ => do
      match ← skip? rest with
      | '(' :: rest => close? ')' (← passValue? fuel (← scope.enter?) (← skip? rest))
      | rest => if scope.implicitPresent then passValue? fuel (← scope.enter?) rest else none
    | none, none, some (_, rest) => do
      match ← skip? rest with
      | '(' :: rest => passParens? fuel scope rest
      | rest => some rest
    | none, none, none =>
      match text with
      | '(' :: ')' :: rest => some rest
      | '(' :: rest => passParens? fuel scope rest
      | '[' :: rest => do passItems? fuel (← scope.enter?) ']' rest
      | '{' :: rest => do passEntries? fuel (← scope.enter?) '}' rest
      | '\'' :: rest => characterEnd? rest
      | '"' :: _ => (string? text).map Prod.snd
      | 'r' :: _ => (string? text).map Prod.snd
      | text => numberEnd? text

/-- What follows parentheses, from the opening one on. -/
def passParens? : Nat → Scope → List Char → Option (List Char)
  | 0, _, _ => none
  | fuel + 1, scope, text => do
    if ← startsField? text then passEntries? fuel (← scope.enter?) ')' text
    else passItems? fuel (← scope.enter?) ')' text

/-- What follows items and their closing mark. The last one may be followed by a comma. -/
def passItems? : Nat → Scope → Char → List Char → Option (List Char)
  | 0, _, _, _ => none
  | fuel + 1, scope, mark, text => do
    let text ← skip? text
    if text.head? = some mark then some text.tail
    else
      let (more, rest) ← comma? (← passValue? fuel (← scope.enter?) text)
      if more then passItems? fuel scope mark rest else close? mark rest

/-- What follows keys with their values and their closing mark. -/
def passEntries? : Nat → Scope → Char → List Char → Option (List Char)
  | 0, _, _, _ => none
  | fuel + 1, scope, mark, text => do
    let text ← skip? text
    if text.head? = some mark then some text.tail
    else
      match ← skip? (← passValue? fuel (← scope.enter?) text) with
      | ':' :: rest =>
        let (more, rest) ← comma? (← passValue? fuel (← scope.enter?) (← skip? rest))
        if more then passEntries? fuel scope mark rest else close? mark rest
      | _ => none

end

/-- The text after a value. -/
def pass? (scope : Scope) (text : List Char) : Option (List Char) :=
  passValue? (3 * text.length + 3) scope text

end LiveScene.Ron
