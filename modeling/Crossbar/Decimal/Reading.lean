/-!
# Reading decimals

A decimal arrives as the digits before the point, the digits after it and a
power of ten.  There are two ways to read it.  Settings are read exactly, to
the nearest double.  Files and messages are read as the leading digits, as many
as fit a 64-bit word, scaled by one power of ten; this is exact for every
coefficient people write and may miss the nearest double by one unit beyond
that.
-/

namespace Crossbar.Decimal

/-- A decimal number without its sign. -/
structure Numeral where
  whole : List Nat
  fraction : List Nat
  exponent : Int
  deriving DecidableEq, Repr

def ofDigits (digits : List Nat) : Nat :=
  digits.foldl (fun value digit => 10 * value + digit) 0

/-- The signed 64-bit word of a whole number, if it fits. -/
def signed64? (value : Int) : Option Int64 :=
  let word := Int64.ofInt value
  if word.toInt = value then some word else none

/-! ## The nearest double -/

/-- The double nearest to a numeral, infinite beyond the largest double.  Powers
of ten far outside the range of doubles are never computed. -/
def Numeral.nearest (n : Numeral) : Float :=
  let written := n.whole ++ n.fraction
  let digits := ofDigits written
  let power := n.exponent - (n.fraction.length : Int)
  if digits == 0 || power + (written.length : Int) < -400 then 0.0
  else if 400 < power then Float.ofScientific digits false 400
  else match power with
    | .ofNat power => Float.ofScientific digits false power
    | .negSucc power => Float.ofScientific digits true (power + 1)

/-! ## Leading digits and one power of ten -/

/-- The number `leading * 10 ^ power` with a 64-bit integer in front. -/
structure Leading where
  leading : Nat
  power : Int
  deriving DecidableEq, Repr

/-- Takes one more digit if the word has room for it. -/
def Leading.push? (n : Leading) (digit : Nat) : Option Nat :=
  let longer := 10 * n.leading + digit
  if longer < UInt64.size then some longer else none

/-- Digits before the point: those that no longer fit count as zeros. -/
def Leading.ofWhole : Leading → List Nat → Leading
  | n, [] => n
  | n, digit :: rest =>
    match n.push? digit with
    | some longer => ofWhole ⟨longer, n.power⟩ rest
    | none => ⟨n.leading, n.power + (rest.length + 1 : Nat)⟩

/-- Digits after the point: those that no longer fit are left out. -/
def Leading.addFraction : Leading → List Nat → Leading
  | n, [] => n
  | n, digit :: rest =>
    match n.push? digit with
    | some longer => addFraction ⟨longer, n.power - 1⟩ rest
    | none => n

def tenTo (power : Nat) : Float := Float.ofScientific 1 false power

/-- Scales by one power of ten, or by two where a single one would overflow.
Nothing is returned beyond the largest double. -/
def Leading.toFloat? (n : Leading) : Option Float :=
  let start := n.leading.toUInt64.toFloat
  match n.power with
  | .ofNat power =>
    if 308 < power then
      if n.leading == 0 then some 0.0 else none
    else
      let scaled := start * tenTo power
      if scaled.isFinite then some scaled else none
  | .negSucc less =>
    let power := less + 1
    if power ≤ 308 then some (start / tenTo power)
    else if power ≤ 616 then some (start / tenTo 308 / tenTo (power - 308))
    else some 0.0

/-- The double a file means by a numeral, if it is within range. -/
def Numeral.scaled? (n : Numeral) : Option Float :=
  let whole := Leading.ofWhole ⟨0, 0⟩ n.whole
  let digits := whole.addFraction n.fraction
  { digits with power := digits.power + n.exponent : Leading }.toFloat?

end Crossbar.Decimal
