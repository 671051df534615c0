import LiveScene.Json.Basic
import LiveScene.Text.Scan

/-! # Reading JSON text

The reader takes exactly the grammar of RFC 8259: no trailing commas, no comments, no bare control
characters in strings. A number that overflows a double is read as an invalid value, and so are a
string with a lone surrogate, an object with such a key, and what is nested deeper than the limit
the caller gives.
-/

namespace LiveScene.Json

open Text

/-- The rest of a text from its first character that is not blank. -/
def skipBlank : List Char → List Char
  | c :: rest => if c = ' ' ∨ c = '\n' ∨ c = '\t' ∨ c = '\r' then skipBlank rest else c :: rest
  | [] => []

/-- Four hexadecimal digits. -/
def hexQuad? : List Char → Option (Nat × List Char)
  | a :: b :: c :: d :: rest => do
    let a ← hexValue? a
    let b ← hexValue? b
    let c ← hexValue? c
    let d ← hexValue? d
    return (((a * 16 + b) * 16 + c) * 16 + d, rest)
  | _ => none

/-- The character of an escape, after its `u`: one unit, or a high unit followed by a low one. A
unit without the other has none. -/
def unicodeEscape? (text : List Char) : Option (Option Char × List Char) := do
  let (unit, rest) ← hexQuad? text
  if 0xDC00 ≤ unit ∧ unit < 0xE000 then return (none, rest)
  else if 0xD800 ≤ unit ∧ unit < 0xDC00 then
    match rest with
    | '\\' :: 'u' :: afterMark =>
      let (low, afterLow) ← hexQuad? afterMark
      if 0xDC00 ≤ low ∧ low < 0xE000 then
        return (some (Char.ofNat (0x10000 + (unit - 0xD800) * 0x400 + (low - 0xDC00))), afterLow)
      else return (none, rest)
    | rest => return (none, rest)
  else return (some (Char.ofNat unit), rest)

/-- The character of a one-letter escape. -/
def shortEscape? : Char → Option Char
  | '"' => some '"'
  | '\\' => some '\\'
  | '/' => some '/'
  | 'b' => some '\x08'
  | 'f' => some '\x0c'
  | 'n' => some '\n'
  | 'r' => some '\r'
  | 't' => some '\t'
  | _ => none

/-- The characters of a string, after its opening quote. The fuel bounds the number of characters
and escapes. -/
def stringTail? : Nat → List (Option Char) → List Char → Option (List (Option Char) × List Char)
  | 0, _, _ => none
  | _ + 1, _, [] => none
  | _ + 1, read, '"' :: rest => some (read.reverse, rest)
  | fuel + 1, read, '\\' :: 'u' :: rest => do
    let (c, rest) ← unicodeEscape? rest
    stringTail? fuel (c :: read) rest
  | fuel + 1, read, '\\' :: escape :: rest => do
    let c ← shortEscape? escape
    stringTail? fuel (some c :: read) rest
  | fuel + 1, read, c :: rest =>
    if c.toNat < 0x20 then none else stringTail? fuel (some c :: read) rest

/-- A string, after its opening quote; without a value if it has a lone surrogate. -/
def string? (text : List Char) : Option (Option String × List Char) :=
  (stringTail? (text.length + 1) [] text).map fun (cs, rest) =>
    ((cs.mapM id).map String.ofList, rest)

/-- The parts of a number: its sign, its digits before and after the point, its exponent. -/
structure Numeral where
  negative : Bool
  whole : List Char
  fraction : List Char
  exponent : Option Int

/-- The exponent part, when there is one. -/
def exponentPart? : List Char → Option (Option Int × List Char)
  | c :: rest =>
    if c = 'e' ∨ c = 'E' then
      let (negative, rest) : Bool × List Char := match rest with
        | '-' :: rest => (true, rest)
        | '+' :: rest => (false, rest)
        | rest => (false, rest)
      match spanDigits rest with
      | ([], _) => none
      | (digits, rest) =>
        let size : Int := digitsValue digits
        some (some (if negative then -size else size), rest)
    else some (none, c :: rest)
  | [] => some (none, [])

/-- The digits after the point, when there is one. -/
def fractionPart? : List Char → Option (List Char × List Char)
  | '.' :: rest =>
    match spanDigits rest with
    | ([], _) => none
    | (digits, rest) => some (digits, rest)
  | text => some ([], text)

def numeral? (text : List Char) : Option (Numeral × List Char) := do
  let (negative, text) : Bool × List Char := match text with
    | '-' :: rest => (true, rest)
    | text => (false, text)
  let (whole, rest) ← match spanDigits text with
    | ([], _) => none
    | ('0' :: _ :: _, _) => none
    | split => some split
  let (fraction, rest) ← fractionPart? rest
  let (exponent, rest) ← exponentPart? rest
  return (⟨negative, whole, fraction, exponent⟩, rest)

/-- `digits * 10 ^ scale` as the nearest double; none when that is infinite. -/
def scaled? (negative : Bool) (digits : Nat) (scale : Int) : Option Float :=
  let size := Float.ofScientific digits (scale < 0) scale.natAbs
  if size.isFinite then some (if negative then -size else size) else none

/-- The value of a number: an integer when it has neither fraction nor exponent and fits 64 bits;
minus zero is a double. -/
def Numeral.value? (n : Numeral) : Option Json :=
  let whole := digitsValue n.whole
  let isWord :=
    if n.negative then whole ≠ 0 ∧ whole ≤ 0x8000000000000000 else whole < 0x10000000000000000
  match n.fraction, n.exponent with
  | [], none =>
    if isWord then some (.int (if n.negative then -whole else whole))
    else (scaled? n.negative whole 0).map .float
  | fraction, exponent =>
    let digits := digitsValue (n.whole ++ fraction)
    (scaled? n.negative digits (exponent.getD 0 - fraction.length)).map .float

/-- A value that is there, or the invalid one. -/
def orInvalid (value : Option Json) : Json := value.getD .invalid

/-- A value with something in it, which is invalid if it may not nest. -/
def nested : Nat → Option Json → Json
  | 0, _ => .invalid
  | _ + 1, value => orInvalid value

/-- The object with the given fields, if all of them have names. -/
def object? (fields : List (Option String × Json)) : Option Json :=
  (fields.mapM fun (field : Option String × Json) => field.1.map (·, field.2)).map .obj

mutual

/-- A value and the text after it. `depth` is how much deeper arrays and objects may nest; `fuel`
bounds the length of the chain of calls. -/
def value? : Nat → Nat → List Char → Option (Json × List Char)
  | 0, _, _ => none
  | fuel + 1, depth, text =>
    match skipBlank text with
    | '"' :: rest => (string? rest).map fun (s, rest) => (orInvalid (s.map .str), rest)
    | '[' :: rest =>
      match skipBlank rest with
      | ']' :: rest => some (nested depth (some (.arr [])), rest)
      | rest => do
        let (items, rest) ← items? fuel (depth - 1) rest
        return (nested depth (some (.arr items)), rest)
    | '{' :: rest =>
      match skipBlank rest with
      | '}' :: rest => some (nested depth (some (.obj [])), rest)
      | rest => do
        let (fields, rest) ← fields? fuel (depth - 1) rest
        return (nested depth (object? fields), rest)
    | 'n' :: rest => (dropLiteral? ['u', 'l', 'l'] rest).map fun rest => (.null, rest)
    | 't' :: rest => (dropLiteral? ['r', 'u', 'e'] rest).map fun rest => (.bool true, rest)
    | 'f' :: rest => (dropLiteral? ['a', 'l', 's', 'e'] rest).map fun rest => (.bool false, rest)
    | text => (numeral? text).map fun (numeral, rest) => (orInvalid numeral.value?, rest)

/-- The items of an array, up to its closing bracket. -/
def items? : Nat → Nat → List Char → Option (List Json × List Char)
  | 0, _, _ => none
  | fuel + 1, depth, text => do
    let (item, rest) ← value? fuel depth text
    match skipBlank rest with
    | ',' :: rest =>
      let (items, rest) ← items? fuel depth rest
      return (item :: items, rest)
    | ']' :: rest => return ([item], rest)
    | _ => none

/-- The fields of an object, up to its closing brace. -/
def fields? : Nat → Nat → List Char → Option (List (Option String × Json) × List Char)
  | 0, _, _ => none
  | fuel + 1, depth, text => do
    let (name, rest) ← match skipBlank text with
      | '"' :: rest => string? rest
      | _ => none
    let rest ← match skipBlank rest with
      | ':' :: rest => some rest
      | _ => none
    let (value, rest) ← value? fuel depth rest
    match skipBlank rest with
    | ',' :: rest =>
      let (fields, rest) ← fields? fuel depth rest
      return ((name, value) :: fields, rest)
    | '}' :: rest => return ([(name, value)], rest)
    | _ => none

end

/-- Reads a whole text, blanks around the value included. -/
def read? (depth : Nat) (text : String) : Option Json := do
  let chars := text.toList
  let (value, rest) ← value? (2 * chars.length + 2) depth chars
  if (skipBlank rest).isEmpty then some value else none

/-- How deep the arrays and objects of a text may nest. -/
def nestingLimit : Nat := 127

/-- Reads what a text says with a reader of values. -/
def readAs? {α : Type} (read : Json → Option α) (text : String) : Option α :=
  (read? nestingLimit text).bind read

end LiveScene.Json
