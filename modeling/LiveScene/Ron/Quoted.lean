import LiveScene.Text.Combining
import LiveScene.Text.Scan
import LiveScene.Text.Unseen

/-! # RON strings and characters

A string has escapes and may hold any other character, line ends included; a raw string ends at the
first quote with as many number signs as stand in front of it. What cannot be seen on its own is
written by its code.
-/

namespace LiveScene.Ron

open Text

/-- The character of a one-letter escape. -/
def shortEscape? : Char → Option Char
  | '\'' => some '\''
  | '"' => some '"'
  | '\\' => some '\\'
  | 'n' => some '\n'
  | 'r' => some '\r'
  | 't' => some '\t'
  | '0' => some '\x00'
  | _ => none

/-- The hexadecimal digits up to a closing brace, at most so many. -/
def bracedDigits? : Nat → List Char → Option (List Char × List Char)
  | _, '}' :: rest => some ([], rest)
  | 0, _ => none
  | _ + 1, [] => none
  | count + 1, c :: rest => push (some c) (bracedDigits? count rest)

/-- The character of an escape, after its backslash. -/
def escape? : List Char → Option (Char × List Char)
  | 'x' :: a :: b :: rest => (hexScalar? [a, b]).map fun c => (c, rest)
  | 'u' :: '{' :: rest =>
    match bracedDigits? 6 rest with
    | some (d :: digits, rest) => (hexScalar? (d :: digits)).map fun c => (c, rest)
    | _ => none
  | c :: rest => (shortEscape? c).map fun c => (c, rest)
  | [] => none

/-- The characters of a string, after its opening quote, and the text after it. The fuel bounds the
number of characters. -/
def stringTail? : Nat → List Char → Option (List Char × List Char)
  | 0, _ => none
  | _ + 1, [] => none
  | fuel + 1, c :: rest =>
    if c = '"' then some ([], rest)
    else if c = '\\' then do
      let (c, rest) ← escape? rest
      push (some c) (stringTail? fuel rest)
    else push (some c) (stringTail? fuel rest)

/-- The characters before the given closing mark, and the text after it. -/
def rawTail? (close : List Char) : List Char → Option (List Char × List Char)
  | [] => none
  | c :: rest =>
    match dropLiteral? close (c :: rest) with
    | some rest => some ([], rest)
    | none => push (some c) (rawTail? close rest)

/-- A raw string, after its letter. -/
def rawString? (text : List Char) : Option (List Char × List Char) :=
  match text.span (· == '#') with
  | (marks, '"' :: rest) => rawTail? ('"' :: marks) rest
  | _ => none

/-- A string of either sort. -/
def string? : List Char → Option (String × List Char)
  | '"' :: rest =>
    (stringTail? (rest.length + 1) rest).map fun (cs, rest) => (String.ofList cs, rest)
  | 'r' :: rest => (rawString? rest).map fun (cs, rest) => (String.ofList cs, rest)
  | _ => none

/-- The text after a character in single quotes, from the first of them on. -/
def characterEnd? : List Char → Option (List Char)
  | '\\' :: rest => do
    match ← escape? rest with
    | (_, '\'' :: rest) => some rest
    | _ => none
  | '\'' :: _ => none
  | _ :: '\'' :: rest => some rest
  | _ => none

/-- The letter of a one-letter escape that is written. -/
def shortName? : Char → Option Char
  | '\x00' => some '0'
  | '\t' => some 't'
  | '\r' => some 'r'
  | '\n' => some 'n'
  | '\\' => some '\\'
  | '"' => some '"'
  | '\'' => some '\''
  | _ => none

/-- How a character is written in a string. -/
def writeChar (c : Char) : List Char :=
  match shortName? c with
  | some letter => ['\\', letter]
  | none =>
    if isUnseen c || isCombining c then
      '\\' :: 'u' :: '{' :: hexDigits (hexWidth c.toNat) c.toNat ++ ['}']
    else [c]

def quote (s : String) : String :=
  "\"" ++ String.ofList (s.toList.flatMap writeChar) ++ "\""

end LiveScene.Ron
