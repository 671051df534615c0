import LiveScene.Toml.Quoted
import LiveScene.Toml.Scalar

/-! # Reading TOML text

Version 1.0 of the format. Values nest at most 79 deep, and no key has more than 79 parts.
-/

namespace LiveScene.Toml

/-- How deep values may nest, and how many parts a key may have. -/
def nestingLimit : Nat := 79

def skipSpaces (text : List Char) : List Char :=
  text.dropWhile fun c => c == ' ' || c == '\t'

/-- Skips blanks, line ends and comments. -/
def skipTrivia? : (inComment : Bool) → List Char → Option (List Char)
  | _, [] => some []
  | true, c :: rest =>
    if c = '\n' then skipTrivia? false rest
    else if isPlain c then skipTrivia? true rest
    else none
  | false, c :: rest =>
    if c = ' ' ∨ c = '\t' ∨ c = '\n' then skipTrivia? false rest
    else if c = '#' then skipTrivia? true rest
    else some (c :: rest)

/-- Whether nothing but blanks and a comment stands on the rest of a line. -/
def isLineEnd (text : List Char) : Bool :=
  match skipSpaces text with
  | [] => true
  | c :: _ => c == '\n' || c == '#'

def isBareKeyChar (c : Char) : Bool :=
  c.isAlphanum || c == '_' || c == '-'

/-- One part of a key. -/
def key? : List Char → Option (String × List Char)
  | '"' :: rest => (basicTail? rest).map fun (cs, rest) => (String.ofList cs, rest)
  | '\'' :: rest => (literalTail? rest).map fun (cs, rest) => (String.ofList cs, rest)
  | text =>
    match text.span isBareKeyChar with
    | ([], _) => none
    | (cs, rest) => some (String.ofList cs, rest)

/-- The parts of a key, the last one apart, and the text after it and its blanks. -/
def keyPath? : Nat → List Char → Option ((List String × String) × List Char)
  | 0, _ => none
  | parts + 1, text => do
    let (key, rest) ← key? text
    match skipSpaces rest with
    | '.' :: rest =>
      let ((path, last), rest) ← keyPath? parts (skipSpaces rest)
      return ((key :: path, last), rest)
    | rest => return (([], key), rest)

mutual

/-- A value and the text after it. `depth` is how much deeper values may nest; `fuel` bounds the
length of the chain of calls. -/
def value? : Nat → Nat → List Char → Option (Toml × List Char)
  | 0, _, _ => none
  | fuel + 1, depth, text =>
    let quoted (read : Option (List Char × List Char)) : Option (Toml × List Char) :=
      read.map fun (cs, rest) => (.str (String.ofList cs), rest)
    match text with
    | '"' :: '"' :: '"' :: rest => quoted (longBasicTail? false (dropFirstLineEnd rest))
    | '"' :: rest => quoted (basicTail? rest)
    | '\'' :: '\'' :: '\'' :: rest => quoted (longLiteralTail? (dropFirstLineEnd rest))
    | '\'' :: rest => quoted (literalTail? rest)
    | '[' :: rest =>
      match depth with
      | 0 => none
      | depth + 1 => (items? fuel depth rest).map fun (items, rest) => (.array items, rest)
    | '{' :: rest =>
      match depth with
      | 0 => none
      | depth + 1 => do
        let (entries, rest) ← match skipSpaces rest with
          | '}' :: rest => some ([], rest)
          | rest => entries? fuel depth rest
        let t ← assembleInline? entries
        return (.table .inline t, rest)
    | text => do
      let (token, rest) := spanToken text
      let value ← scalar? token
      return (value, rest)

/-- The items of an array, up to its closing bracket. The last one may be followed by a comma. -/
def items? : Nat → Nat → List Char → Option (List Toml × List Char)
  | 0, _, _ => none
  | fuel + 1, depth, text => do
    match ← skipTrivia? false text with
    | ']' :: rest => return ([], rest)
    | text =>
      let (item, rest) ← value? fuel depth text
      match ← skipTrivia? false rest with
      | ',' :: rest =>
        let (items, rest) ← items? fuel depth rest
        return (item :: items, rest)
      | ']' :: rest => return ([item], rest)
      | _ => none

/-- The entries of a table in braces, up to its closing brace, all on one line. -/
def entries? : Nat → Nat → List Char → Option (List (List String × String × Toml) × List Char)
  | 0, _, _ => none
  | fuel + 1, depth, text => do
    let ((path, key), value, rest) ← entry? fuel depth text
    match skipSpaces rest with
    | ',' :: rest =>
      let (entries, rest) ← entries? fuel depth (skipSpaces rest)
      return ((path, key, value) :: entries, rest)
    | '}' :: rest => return ([(path, key, value)], rest)
    | _ => none

/-- A key and its value. -/
def entry? : Nat → Nat → List Char → Option ((List String × String) × Toml × List Char)
  | 0, _, _ => none
  | fuel + 1, depth, text => do
    let (key, rest) ← keyPath? nestingLimit text
    match rest with
    | '=' :: rest =>
      let (value, rest) ← value? fuel depth (skipSpaces rest)
      return (key, value, rest)
    | _ => none

end

/-- One statement and the text after it. -/
def statement? (fuel : Nat) (text : List Char) : Option (Statement × List Char) :=
  match text with
  | '[' :: '[' :: rest => do
    let ((path, key), rest) ← keyPath? nestingLimit (skipSpaces rest)
    match rest with
    | ']' :: ']' :: rest => return (.memberHeader path key, rest)
    | _ => none
  | '[' :: rest => do
    let ((path, key), rest) ← keyPath? nestingLimit (skipSpaces rest)
    match rest with
    | ']' :: rest => return (.header path key, rest)
    | _ => none
  | text => do
    let ((path, key), value, rest) ← entry? fuel nestingLimit text
    return (.entry path key value, rest)

/-- The statements of a document, each on a line of its own. -/
def statements? : Nat → List Char → Option (List Statement)
  | 0, _ => none
  | fuel + 1, text => do
    match ← skipTrivia? false text with
    | [] => return []
    | text =>
      let (statement, rest) ← statement? fuel text
      if isLineEnd rest then
        let statements ← statements? fuel rest
        return statement :: statements
      else none

/-- A line may end with a carriage return and a line feed, which count as one line end. -/
def joinLineEnds : List Char → List Char
  | '\r' :: '\n' :: rest => '\n' :: joinLineEnds rest
  | c :: rest => c :: joinLineEnds rest
  | [] => []

/-- A byte order mark in front of a document is left out. -/
def dropMark : List Char → List Char
  | c :: rest => if c.toNat = 0xFEFF then rest else c :: rest
  | [] => []

/-- Reads a document. -/
def read? (text : String) : Option Table := do
  let chars := joinLineEnds (dropMark text.toList)
  let statements ← statements? (3 * chars.length + 3) chars
  assemble? statements

end LiveScene.Toml
