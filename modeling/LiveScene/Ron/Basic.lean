import LiveScene.Text.Scan

/-! # Blanks, names and words in RON

Object notation in which records are written with parentheses and options are explicit. Between its
parts stand blanks and comments.
-/

namespace LiveScene.Ron

open Text

/-- What is being skipped. -/
inductive Trivia where
  | blanks
  | lineComment
  /-- The number of comments around the outermost that is open, itself not counted. -/
  | blockComment (outer : Nat)

/-- Skips blanks and comments; comments in slashes and stars nest and must be closed. -/
def skipTrivia? : Trivia → List Char → Option (List Char)
  | .blanks, [] => some []
  | .blanks, c :: rest =>
    if c = ' ' ∨ c = '\n' ∨ c = '\t' ∨ c = '\r' then skipTrivia? .blanks rest
    else if c = '/' then
      match rest with
      | '/' :: rest => skipTrivia? .lineComment rest
      | '*' :: rest => skipTrivia? (.blockComment 0) rest
      | _ => none
    else some (c :: rest)
  | .lineComment, [] => some []
  | .lineComment, c :: rest =>
    if c = '\n' then skipTrivia? .blanks rest else skipTrivia? .lineComment rest
  | .blockComment _, [] => none
  | .blockComment outer, '/' :: '*' :: rest => skipTrivia? (.blockComment (outer + 1)) rest
  | .blockComment 0, '*' :: '/' :: rest => skipTrivia? .blanks rest
  | .blockComment (outer + 1), '*' :: '/' :: rest => skipTrivia? (.blockComment outer) rest
  | .blockComment outer, _ :: rest => skipTrivia? (.blockComment outer) rest

def skip? (text : List Char) : Option (List Char) := skipTrivia? .blanks text

/-- Skips a comma, if there is one, and what is around it; says whether there was one. -/
def comma? (text : List Char) : Option (Bool × List Char) := do
  match ← skip? text with
  | ',' :: rest => return (true, ← skip? rest)
  | rest => return (false, rest)

/-- Skips a comma, if there is one, and a closing mark. -/
def close? (mark : Char) (text : List Char) : Option (List Char) := do
  match ← comma? text with
  | (_, c :: rest) => if c = mark then some rest else none
  | (_, []) => none

def isNameStart (c : Char) : Bool := c.isAlpha || c == '_'

def isNameChar (c : Char) : Bool := c.isAlphanum || c == '_'

/-- Characters of a name after `r#`. -/
def isRawNameChar (c : Char) : Bool := isNameChar c || c == '.' || c == '+' || c == '-'

/-- The text after a word that does not go on as a name. -/
def word? (word : String) (text : List Char) : Option (List Char) := do
  let rest ← dropLiteral? word.toList text
  if rest.head?.any isNameChar then none else some rest

/-- The text after the first of some words that it starts with. -/
def oneOf? (words : List String) (text : List Char) : Option (List Char) :=
  words.findSome? fun word => word? word text

/-- A name that stands for itself; it is not followed by a character of raw names. -/
def plainName? (text : List Char) : Option (String × List Char) :=
  match text.span isNameChar with
  | (c :: cs, rest) =>
    if isNameStart c ∧ !(rest.head?.any isRawNameChar) then some (String.ofList (c :: cs), rest)
    else none
  | _ => none

/-- A name, which may be raw. What starts a raw string is none. -/
def name? : List Char → Option (String × List Char)
  | 'r' :: '#' :: rest =>
    match rest.span isRawNameChar with
    | ([], _) => none
    | (cs, rest) => some (String.ofList cs, rest)
  | 'r' :: '"' :: _ => none
  | ['r'] => none
  | text => plainName? text

end LiveScene.Ron
