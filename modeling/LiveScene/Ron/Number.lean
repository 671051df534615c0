import LiveScene.Ron.Basic

/-! # Numbers in RON

Whole numbers may be given in four bases and may hold underscores; fractions hold none.
-/

namespace LiveScene.Ron

open Text

/-- Characters of whole numbers, in any base. -/
def isIntegerChar (c : Char) : Bool := (hexValue? c).isSome || c == '_'

/-- Characters of fractions. -/
def isFloatChar (c : Char) : Bool :=
  c.isDigit || c == 'e' || c == 'E' || c == '.' || c == '+' || c == '-' || c == '_'

/-- The base that a number says it is written in. -/
def splitBase : List Char → Nat × List Char
  | '0' :: 'x' :: rest => (16, rest)
  | '0' :: 'b' :: rest => (2, rest)
  | '0' :: 'o' :: rest => (8, rest)
  | text => (10, text)

/-- A whole number without a sign that is below a bound. Underscores may stand after the first
digit. -/
def natural? (bound : Nat) (text : List Char) : Option (Nat × List Char) := do
  let (base, text) := splitBase text
  match text.span isIntegerChar with
  | ([], _) => none
  | ('_' :: _, _) => none
  | (digits, rest) =>
    let n ← valueIn? base (digits.filter (· ≠ '_'))
    if n < bound then some (n, rest) else none

/-- The text after a sign, if there is one. -/
def dropSign : List Char → List Char
  | '+' :: rest => rest
  | '-' :: rest => rest
  | text => text

/-- Digits with a sign, a point and an exponent, of which some may be missing. -/
def isFloat (text : List Char) : Bool :=
  let (whole, rest) := spanDigits (dropSign text)
  let (fraction, rest) := match rest with
    | '.' :: rest => spanDigits rest
    | rest => ([], rest)
  let exponent := match rest with
    | [] => true
    | mark :: rest =>
      let digits := dropSign rest
      (mark == 'e' || mark == 'E') && !digits.isEmpty && digits.all Char.isDigit
  !(whole.isEmpty && fraction.isEmpty) && exponent

/-- The text after a fraction, or after the word for one that is not finite. -/
def floatEnd? (text : List Char) : Option (List Char) :=
  match oneOf? ["inf", "+inf", "-inf", "NaN", "+NaN", "-NaN"] text with
  | some rest => some rest
  | none =>
    let (number, rest) := text.span isFloatChar
    if isFloat number then some rest else none

/-- The text after a whole number that fits 64 bits, with its sign if it has one. -/
def integerEnd? (text : List Char) : Option (List Char) :=
  (match text with
    | '+' :: rest => natural? 0x8000000000000000 rest
    | '-' :: rest => natural? 0x8000000000000001 rest
    | text => natural? 0x10000000000000000 text).map Prod.snd

/-- The text after a number. What looks like a whole number but is none, because it is too large or
has an exponent, is taken for a fraction. -/
def numberEnd? (text : List Char) : Option (List Char) :=
  match text with
  | '.' :: _ => floatEnd? text
  | c :: _ =>
    if c.isDigit ∨ c = '+' ∨ c = '-' then
      let digits := dropSign text
      if (digits.takeWhile isIntegerChar).length < (digits.takeWhile isFloatChar).length then
        floatEnd? text
      else (integerEnd? text).or (floatEnd? text)
    else none
  | [] => none

end LiveScene.Ron
