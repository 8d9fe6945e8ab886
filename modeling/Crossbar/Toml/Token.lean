import Crossbar.Decimal.Reading
import Crossbar.Toml.Basic

/-!
# Numbers, dates and names in settings

A value that is not quoted or bracketed is one run of characters.  It is a
boolean, a date or time, a float or an integer, tried in this order.
-/

namespace Crossbar.Toml

/-- Characters of an unquoted name. -/
def isBareKey (c : Char) : Bool :=
  c.isAlphanum || c == '_' || c == '-'

/-- Characters of an unquoted value. -/
def isPlain (c : Char) : Bool := isBareKey c || c == '+' || c == '.' || c == ':'

/-- The value of a digit of some base. -/
def digitOf? (base : Nat) (c : Char) : Option Nat :=
  let value? :=
    if c.isDigit then some (c.toNat - '0'.toNat)
    else if 'a' ≤ c && c ≤ 'f' then some (c.toNat - 'a'.toNat + 10)
    else if 'A' ≤ c && c ≤ 'F' then some (c.toNat - 'A'.toNat + 10)
    else none
  value?.filter fun value => value < base

/-! ## Digits with separators -/

/-- Digits at the front of a text, with single underscores between them. -/
def takeMore (base : Nat) : List Char → List Nat × List Char
  | '_' :: c :: rest =>
    match digitOf? base c with
    | some digit =>
      let (digits, rest) := takeMore base rest
      (digit :: digits, rest)
    | none => ([], '_' :: c :: rest)
  | c :: rest =>
    match digitOf? base c with
    | some digit =>
      let (digits, rest) := takeMore base rest
      (digit :: digits, rest)
    | none => ([], c :: rest)
  | [] => ([], [])

/-- At least one digit at the front of a text. -/
def takeDigits (base : Nat) : List Char → Option (List Nat × List Char)
  | c :: rest =>
    (digitOf? base c).map fun digit =>
      let (digits, rest) := takeMore base rest
      (digit :: digits, rest)
  | [] => none

/-- The decimal digits of a whole number, without leading zeros. -/
def takeWhole : List Char → Option (List Nat × List Char)
  | '0' :: rest => some ([0], rest)
  | text => takeDigits 10 text

def takeSign : List Char → Bool × List Char
  | '-' :: rest => (true, rest)
  | '+' :: rest => (false, rest)
  | text => (false, text)

def valueIn (base : Nat) (digits : List Nat) : Nat :=
  digits.foldl (fun value digit => base * value + digit) 0

/-! ## Integers and floats -/

/-- An integer that fits 64 bits with its sign. -/
def integer? (value : Int) : Option Value :=
  if (Decimal.signed64? value).isSome then some (.int value) else none

/-- Digits of another base, which take no sign. -/
def based? (base : Nat) (text : List Char) : Option Value :=
  match takeDigits base text with
  | some (digits, []) => integer? (valueIn base digits)
  | _ => none

def readInteger? : List Char → Option Value
  | '0' :: 'x' :: rest => based? 16 rest
  | '0' :: 'o' :: rest => based? 8 rest
  | '0' :: 'b' :: rest => based? 2 rest
  | text =>
    let (negative, rest) := takeSign text
    match takeWhole rest with
    | some (digits, []) =>
      let size : Int := valueIn 10 digits
      integer? (if negative then -size else size)
    | _ => none

/-- The fraction of a float, if a point follows. -/
def takeFraction : List Char → Option (List Nat × List Char)
  | '.' :: rest => takeDigits 10 rest
  | text => some ([], text)

/-- The exponent of a float, if the rest is one. -/
def exponent? : List Char → Option Int
  | [] => some 0
  | c :: rest =>
    if c == 'e' || c == 'E' then
      let (negative, rest) := takeSign rest
      match takeDigits 10 rest with
      | some (digits, []) =>
        let size : Int := valueIn 10 digits
        some (if negative then -size else size)
      | _ => none
    else none

/-- The text of an infinity or of what is no number. -/
def special? : List Char → Option Float
  | ['i', 'n', 'f'] => some (1.0 / 0.0)
  | ['n', 'a', 'n'] => some (0.0 / 0.0)
  | _ => none

/-- A float has a point or an exponent.  One that exceeds every double is refused
unless it is negative. -/
def readFloat? (text : List Char) : Option Value :=
  let (negative, rest) := takeSign text
  let signed (x : Float) : Float := if negative then -x else x
  match special? rest with
  | some x => some (.float (signed x))
  | none => do
    let (whole, rest) ← takeWhole rest
    if rest.isEmpty then none
    else
      let (fraction, rest) ← takeFraction rest
      let exponent ← exponent? rest
      let value := signed (Decimal.Numeral.nearest ⟨whole, fraction, exponent⟩)
      if value == 1.0 / 0.0 then none else some (.float value)

/-! ## Dates and times -/

/-- A decimal number with exactly two digits. -/
def twoDigits? (a b : Char) : Option Nat :=
  match digitOf? 10 a, digitOf? 10 b with
  | some a, some b => some (10 * a + b)
  | _, _ => none

def isLeapYear (year : Nat) : Bool :=
  year % 4 == 0 && (year % 100 != 0 || year % 400 == 0)

def daysInMonth (year month : Nat) : Nat :=
  if month == 2 then (if isLeapYear year then 29 else 28)
  else if month == 4 || month == 6 || month == 9 || month == 11 then 30
  else 31

/-- A date at the front of a text, and the rest. -/
def takeDate? : List Char → Option (List Char)
  | y1 :: y2 :: y3 :: y4 :: '-' :: m1 :: m2 :: '-' :: d1 :: d2 :: rest => do
    let century ← twoDigits? y1 y2
    let year ← twoDigits? y3 y4
    let month ← twoDigits? m1 m2
    let day ← twoDigits? d1 d2
    if 1 ≤ month ∧ month ≤ 12 ∧ 1 ≤ day ∧ day ≤ daysInMonth (100 * century + year) month then
      some rest
    else none
  | _ => none

/-- Fractions of a second, if a point follows. -/
def dropFraction? : List Char → Option (List Char)
  | '.' :: rest =>
    if (rest.takeWhile Char.isDigit).isEmpty then none else some (rest.dropWhile Char.isDigit)
  | text => some text

/-- A time of day at the front of a text, and the rest. -/
def takeTime? : List Char → Option (List Char)
  | h1 :: h2 :: ':' :: m1 :: m2 :: ':' :: s1 :: s2 :: rest => do
    let hour ← twoDigits? h1 h2
    let minute ← twoDigits? m1 m2
    let second ← twoDigits? s1 s2
    if hour ≤ 23 ∧ minute ≤ 59 ∧ second ≤ 60 then dropFraction? rest else none
  | _ => none

/-- The distance of a time zone, or nothing. -/
def isOffset : List Char → Bool
  | [] => true
  | ['Z'] | ['z'] => true
  | [sign, h1, h2, ':', m1, m2] =>
    (sign == '+' || sign == '-') &&
      match twoDigits? h1 h2, twoDigits? m1 m2 with
      | some hour, some minute => hour ≤ 23 && minute ≤ 59
      | _, _ => false
  | _ => false

/-- A whole text that is a date, a time of day, or both. -/
def isMoment (text : List Char) : Bool :=
  match takeDate? text with
  | some [] => true
  | some (separator :: rest) =>
    (separator == 'T' || separator == 't' || separator == ' ') &&
      match takeTime? rest with
      | some offset => isOffset offset
      | none => false
  | none => takeTime? text == some []

/-! ## Plain values -/

/-- The value of a run of plain characters. -/
def readPlain? (text : List Char) : Option Value :=
  if text == ['t', 'r', 'u', 'e'] then some (.bool true)
  else if text == ['f', 'a', 'l', 's', 'e'] then some (.bool false)
  else if isMoment text then some .moment
  else (readFloat? text).orElse fun _ => readInteger? text

end Crossbar.Toml
