import LiveScene.Text.Scan
import LiveScene.Toml.Basic

/-! # TOML numbers, truth values and dates -/

namespace LiveScene.Toml

open Text

/-- Digits without the underscores between them. -/
def plainDigits? (isDigit : Char → Bool) : List Char → Option (List Char)
  | [] => none
  | [c] => if isDigit c then some [c] else none
  | c :: '_' :: rest => if isDigit c then (plainDigits? isDigit rest).map (c :: ·) else none
  | c :: rest => if isDigit c then (plainDigits? isDigit rest).map (c :: ·) else none

/-- Splits off a sign; true for minus. -/
def splitSign : List Char → Bool × List Char
  | '-' :: rest => (true, rest)
  | '+' :: rest => (false, rest)
  | text => (false, text)

/-- Decimal digits without a needless zero in front. -/
def wholeDigits? (text : List Char) : Option (List Char) := do
  match ← plainDigits? Char.isDigit text with
  | '0' :: _ :: _ => none
  | digits => some digits

/-- A whole number in a base other than ten; it has no sign. -/
def basedInteger? (base : Nat) (text : List Char) : Option Int := do
  let digits ← plainDigits? (fun c => (hexValue? c).any (· < base)) text
  return (← valueIn? base digits : Nat)

/-- A whole number that fits 64 bits. -/
def integer? (token : List Char) : Option Int := do
  let n : Int ← match token with
    | '0' :: 'x' :: digits => basedInteger? 16 digits
    | '0' :: 'o' :: digits => basedInteger? 8 digits
    | '0' :: 'b' :: digits => basedInteger? 2 digits
    | token =>
      let (negative, digits) := splitSign token
      (wholeDigits? digits).map fun digits =>
        if negative then -(digitsValue digits : Int) else digitsValue digits
  if -0x8000000000000000 ≤ n ∧ n < 0x8000000000000000 then some n else none

/-- The exponent of a float, with its mark; zero when there is none. -/
def exponent? : List Char → Option Int
  | [] => some 0
  | mark :: text =>
    if mark = 'e' ∨ mark = 'E' then do
      let (negative, digits) := splitSign text
      let digits ← plainDigits? Char.isDigit digits
      return if negative then -(digitsValue digits : Int) else digitsValue digits
    else none

/-- The digits after the point of a float. -/
def fraction? : List Char → Option (List Char)
  | '.' :: digits => plainDigits? Char.isDigit digits
  | [] => some []
  | _ => none

/-- Whether a token is a float: infinite, not a number, or with a fraction or an exponent. One that
exceeds every double is none. -/
def isFloat (token : List Char) : Bool :=
  let (negative, text) := splitSign token
  if text = ['i', 'n', 'f'] ∨ text = ['n', 'a', 'n'] then true
  else
    let (whole, rest) := text.span fun c => c.isDigit || c == '_'
    let (fraction, rest') := rest.span fun c => c.isDigit || c == '_' || c == '.'
    let size? : Option Float := do
      let whole ← wholeDigits? whole
      let digits ← fraction? fraction
      let scale ← exponent? rest'
      let scale := scale - digits.length
      return Float.ofScientific (digitsValue (whole ++ digits)) (scale < 0) scale.natAbs
    !rest.isEmpty && size?.any fun size => negative || size.isFinite

/-- Two digits that make a number in a range. -/
def inRange (low high : Nat) (a b : Char) : Bool :=
  a.isDigit && b.isDigit && decide (low ≤ digitsValue [a, b]) && decide (digitsValue [a, b] ≤ high)

def daysInMonth (year month : Nat) : Nat :=
  if month = 2 then
    if year % 4 = 0 ∧ (year % 100 ≠ 0 ∨ year % 400 = 0) then 29 else 28
  else if month = 4 ∨ month = 6 ∨ month = 9 ∨ month = 11 then 30
  else 31

/-- Whether a text is a date such as `1979-05-27`. -/
def isDate : List Char → Bool
  | [y, y', y'', y''', '-', m, m', '-', d, d'] =>
    [y, y', y'', y'''].all Char.isDigit && inRange 1 12 m m' &&
      inRange 1 (daysInMonth (digitsValue [y, y', y'', y''']) (digitsValue [m, m'])) d d'
  | _ => false

/-- Whether a text is nothing or an offset such as `Z` or `-07:00`. -/
def isOffset : List Char → Bool
  | [] => true
  | ['Z'] => true
  | ['z'] => true
  | [sign, h, h', ':', m, m'] =>
    (sign == '+' || sign == '-') && inRange 0 23 h h' && inRange 0 59 m m'
  | _ => false

/-- What follows the seconds of a time. -/
def fractionEnd? : List Char → Option (List Char)
  | '.' :: rest =>
    match spanDigits rest with
    | ([], _) => none
    | (_, rest) => some rest
  | text => some text

/-- What follows a time such as `07:32:00.5`; a minute may have a leap second. -/
def timeEnd? : List Char → Option (List Char)
  | h :: h' :: ':' :: m :: m' :: ':' :: s :: s' :: rest =>
    if inRange 0 23 h h' && inRange 0 59 m m' && inRange 0 60 s s' then fractionEnd? rest else none
  | _ => none

/-- Whether a token is a date, a time, or a date and a time with or without an offset. -/
def isMoment (token : List Char) : Bool :=
  isDate token || timeEnd? token == some [] ||
    (isDate (token.take 10) &&
      match token.drop 10 with
      | mark :: time => (mark == 'T' || mark == 't') && (timeEnd? time).any isOffset
      | [] => false)

/-- Characters of which numbers, truth values and dates are made. -/
def isTokenChar (c : Char) : Bool :=
  c.isAlphanum || c == '_' || c == '+' || c == '-' || c == '.' || c == ':'

/-- The token at the front of a text. A blank may stand between a date and a time, for which the
token has a `T`. -/
def spanToken (text : List Char) : List Char × List Char :=
  match text.span isTokenChar with
  | (token, ' ' :: c :: rest) =>
    if isDate token && c.isDigit then
      let (time, rest) := (c :: rest).span isTokenChar
      (token ++ 'T' :: time, rest)
    else (token, ' ' :: c :: rest)
  | split => split

def scalar? (token : List Char) : Option Toml :=
  if token = ['t', 'r', 'u', 'e'] then some (.boolean true)
  else if token = ['f', 'a', 'l', 's', 'e'] then some (.boolean false)
  else
    match integer? token with
    | some n => some (.integer n)
    | none => if isFloat token then some .float else if isMoment token then some .moment else none

end LiveScene.Toml
