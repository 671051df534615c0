/-! # Digits and literals in text

Text is read as a list of characters; a scanner gives what it read and the rest.
-/

namespace LiveScene.Text

/-- The rest of a text that starts with the given characters. -/
def dropLiteral? : List Char → List Char → Option (List Char)
  | [], text => some text
  | c :: literal, d :: text => if c = d then dropLiteral? literal text else none
  | _ :: _, [] => none

def hexValue? (c : Char) : Option Nat :=
  if '0' ≤ c ∧ c ≤ '9' then some (c.toNat - 48)
  else if 'a' ≤ c ∧ c ≤ 'f' then some (c.toNat - 87)
  else if 'A' ≤ c ∧ c ≤ 'F' then some (c.toNat - 55)
  else none

/-- The value of digits in a base of at most sixteen. -/
def valueIn? (base : Nat) (digits : List Char) : Option Nat :=
  digits.foldlM (fun value c => do
    let digit ← hexValue? c
    if digit < base then some (value * base + digit) else none) 0

/-- The value of a run of decimal digits. -/
def digitsValue (digits : List Char) : Nat :=
  digits.foldl (fun value c => value * 10 + (c.toNat - 48)) 0

/-- The decimal digits at the front of a text and what follows them. -/
def spanDigits (text : List Char) : List Char × List Char :=
  text.span Char.isDigit

/-- The character with a code; none for half of a surrogate pair and beyond the last plane. -/
def scalar? (code : Nat) : Option Char :=
  if code < 0xD800 ∨ 0xDFFF < code ∧ code < 0x110000 then some (Char.ofNat code) else none

/-- The character whose code is given by hexadecimal digits. -/
def hexScalar? (digits : List Char) : Option Char :=
  (valueIn? 16 digits).bind scalar?

/-- A number in the given count of hexadecimal digits. -/
def hexDigits : Nat → Nat → List Char
  | 0, _ => []
  | width + 1, n => hexDigits width (n / 16) ++ [Nat.digitChar (n % 16)]

/-- How many hexadecimal digits the code of a character has. -/
def hexWidth (code : Nat) : Nat :=
  if code < 0x10 then 1
  else if code < 0x100 then 2
  else if code < 0x1000 then 3
  else if code < 0x10000 then 4
  else if code < 0x100000 then 5
  else 6

/-- Characters that are written by their code. -/
def isControl (c : Char) : Bool :=
  c.toNat < 0x20 || c.toNat == 0x7F

/-- Puts a character, if there is one, in front of what a scanner read. -/
def push (c : Option Char) (read : Option (List Char × List Char)) :
    Option (List Char × List Char) := do
  let c ← c
  let (cs, rest) ← read
  return (c :: cs, rest)

end LiveScene.Text
