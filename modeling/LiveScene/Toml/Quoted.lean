import LiveScene.Text.Scan

/-! # TOML strings

Basic strings have escapes, literal strings have none. Each may stand on one line, or on several
lines between triple quotes; of the quotes at the end of such a string up to two belong to it.
-/

namespace LiveScene.Toml

open Text

/-- Characters that stand for themselves in strings and comments. -/
def isPlain (c : Char) : Bool :=
  c == '\t' || !isControl c

/-- The character of a one-letter escape. -/
def shortEscape? : Char → Option Char
  | 'b' => some '\x08'
  | 't' => some '\t'
  | 'n' => some '\n'
  | 'f' => some '\x0c'
  | 'r' => some '\r'
  | '"' => some '"'
  | '\\' => some '\\'
  | _ => none

/-- The characters of a basic string, after its opening quote, and the text after it. -/
def basicTail? : List Char → Option (List Char × List Char)
  | [] => none
  | c :: rest =>
    if c = '"' then some ([], rest)
    else if c = '\\' then
      match rest with
      | 'u' :: a :: b :: c :: d :: rest => push (hexScalar? [a, b, c, d]) (basicTail? rest)
      | 'U' :: a :: b :: c :: d :: e :: f :: g :: h :: rest =>
        push (hexScalar? [a, b, c, d, e, f, g, h]) (basicTail? rest)
      | escape :: rest => push (shortEscape? escape) (basicTail? rest)
      | [] => none
    else if isPlain c then push (some c) (basicTail? rest)
    else none

/-- Whether only blanks stand before the end of the line. -/
def endsLine (text : List Char) : Bool :=
  (text.dropWhile fun c => c == ' ' || c == '\t').head? == some '\n'

/-- The characters of a basic string on several lines. After a backslash at the end of a line,
blanks and line ends are left out; `trimming` says so. -/
def longBasicTail? : Bool → List Char → Option (List Char × List Char)
  | _, [] => none
  | trimming, c :: rest =>
    if trimming ∧ (c = ' ' ∨ c = '\t' ∨ c = '\n') then longBasicTail? true rest
    else if c = '"' then
      match rest with
      | '"' :: '"' :: '"' :: '"' :: rest => some (['"', '"'], rest)
      | '"' :: '"' :: '"' :: rest => some (['"'], rest)
      | '"' :: '"' :: rest => some ([], rest)
      | _ => push (some '"') (longBasicTail? false rest)
    else if c = '\\' then
      if endsLine rest then longBasicTail? true rest
      else
        match rest with
        | 'u' :: a :: b :: c :: d :: rest =>
          push (hexScalar? [a, b, c, d]) (longBasicTail? false rest)
        | 'U' :: a :: b :: c :: d :: e :: f :: g :: h :: rest =>
          push (hexScalar? [a, b, c, d, e, f, g, h]) (longBasicTail? false rest)
        | escape :: rest => push (shortEscape? escape) (longBasicTail? false rest)
        | [] => none
    else if isPlain c ∨ c = '\n' then push (some c) (longBasicTail? false rest)
    else none

/-- The characters of a literal string, after its opening quote. -/
def literalTail? : List Char → Option (List Char × List Char)
  | [] => none
  | c :: rest =>
    if c = '\'' then some ([], rest)
    else if isPlain c then push (some c) (literalTail? rest)
    else none

/-- The characters of a literal string on several lines. -/
def longLiteralTail? : List Char → Option (List Char × List Char)
  | [] => none
  | c :: rest =>
    if c = '\'' then
      match rest with
      | '\'' :: '\'' :: '\'' :: '\'' :: rest => some (['\'', '\''], rest)
      | '\'' :: '\'' :: '\'' :: rest => some (['\''], rest)
      | '\'' :: '\'' :: rest => some ([], rest)
      | _ => push (some '\'') (longLiteralTail? rest)
    else if isPlain c ∨ c = '\n' then push (some c) (longLiteralTail? rest)
    else none

/-- A line end right after the opening quotes does not belong to the string. -/
def dropFirstLineEnd : List Char → List Char
  | '\n' :: rest => rest
  | text => text

/-- How a character is written in a basic string. -/
def writeChar (c : Char) : List Char :=
  if c = '"' ∨ c = '\\' then ['\\', c]
  else if isControl c then '\\' :: 'u' :: hexDigits 4 c.toNat
  else [c]

/-- A basic string. -/
def quote (s : String) : String :=
  "\"" ++ String.ofList (s.toList.flatMap writeChar) ++ "\""

end LiveScene.Toml
