/-!
# The shortest decimal that reads back

A finite double stands for every real number that rounds to it.  Its shortest
decimal is the decimal with the fewest digits among those reals and, of those
with that many digits, the one nearest to the double itself.

The search needs no tables.  On the grid of decimals with a given number of
digits the two neighbours of the double are the only candidates worth testing:
if any point of the grid rounds to the double, one of these two does.
-/

namespace Crossbar.Decimal

/-! ## Doubles in binary -/

/-- A nonnegative finite double: `mantissa * 2 ^ exponent`.  The lowest
mantissa of a binade is marked, because the double below it is only half as
far away as the one above. -/
structure Binary where
  mantissa : Nat
  exponent : Int
  lowest : Bool
  deriving DecidableEq, Repr

/-- What the bits of a double say. -/
inductive Parts where
  | nan
  | infinite (negative : Bool)
  | finite (negative : Bool) (magnitude : Binary)
  deriving DecidableEq, Repr

/-- Reads the sign, the exponent and the fraction of a double. -/
def Parts.ofFloat (x : Float) : Parts :=
  let bits : Nat := x.toBits.toNat
  let hidden : Nat := 1 <<< 52
  let negative := bits / hidden / 2048 == 1
  let biased : Nat := bits / hidden % 2048
  let fraction : Nat := bits % hidden
  if biased == 2047 then
    if fraction == 0 then .infinite negative else .nan
  else if biased == 0 then
    .finite negative ⟨fraction, -1074, false⟩
  else
    .finite negative ⟨hidden + fraction, (biased : Int) - (1075 : Int),
      fraction == 0 && biased != 1⟩

/-! ## Decimals -/

/-- The number `digits * 10 ^ exponent`. -/
structure Digits where
  digits : Nat
  exponent : Int
  deriving DecidableEq, Repr

/-- Which of two equally near decimals is taken. -/
inductive Tie where
  | up
  | even
  deriving DecidableEq, Repr

/-- A nonnegative rational number. -/
structure Ratio where
  numerator : Nat
  denominator : Nat
  deriving DecidableEq, Repr

/-- Multiplies by a power of a base, which may be negative. -/
def Ratio.scale (r : Ratio) (base : Nat) : Int → Ratio
  | .ofNat power => ⟨r.numerator * base.pow power, r.denominator⟩
  | .negSucc power => ⟨r.numerator, r.denominator * base.pow (power + 1)⟩

/-- The double in quarters of a unit of its mantissa, where the ends of the
interval that rounds to it are whole numbers. -/
structure Rounding where
  value : Nat
  low : Nat
  high : Nat
  closed : Bool
  exponent : Int
  deriving DecidableEq, Repr

def Binary.rounding (x : Binary) : Rounding where
  value := 4 * x.mantissa
  low := 4 * x.mantissa - (if x.lowest then 1 else 2)
  high := 4 * x.mantissa + 2
  closed := x.mantissa % 2 == 0
  exponent := x.exponent - 2

/-- Tests whether `candidate * 10 ^ place` rounds to the double. -/
def Rounding.accepts (interval : Rounding) (place : Int) (candidate : Nat) : Bool :=
  let unit := (Ratio.mk 1 1).scale 2 interval.exponent
  let grid := (Ratio.mk 1 1).scale 10 place
  let point := candidate * grid.numerator * unit.denominator
  let low := interval.low * unit.numerator * grid.denominator
  let high := interval.high * unit.numerator * grid.denominator
  if interval.closed then low ≤ point && point ≤ high
  else low < point && point < high

/-- The nearest accepted decimal on the grid of multiples of `10 ^ place`. -/
def Rounding.onGrid (interval : Rounding) (tie : Tie) (place : Int) : Option Nat :=
  let scaled := ((Ratio.mk interval.value 1).scale 2 interval.exponent).scale 10 (-place)
  let below := scaled.numerator / scaled.denominator
  let excess := 2 * (scaled.numerator % scaled.denominator)
  match interval.accepts place below, interval.accepts place (below + 1) with
  | false, false => none
  | true, false => some below
  | false, true => some (below + 1)
  | true, true =>
    if excess < scaled.denominator then some below
    else if scaled.denominator < excess then some (below + 1)
    else match tie with
      | .up => some (below + 1)
      | .even => if below % 2 == 0 then some below else some (below + 1)

/-- Number of decimal digits of a natural number; zero has none. -/
def digitCount (n : Nat) : Nat :=
  if n == 0 then 0 else (Nat.toDigits 10 n).length

/-- The power of ten of the leading digit: `10 ^ magnitude ≤ x < 10 ^ (magnitude + 1)`. -/
def Ratio.magnitude (r : Ratio) : Int :=
  let guess : Int := (digitCount r.numerator : Int) - digitCount r.denominator
  let shifted := r.scale 10 (-guess)
  if shifted.denominator ≤ shifted.numerator then guess else guess - 1

/-- Moves trailing zeros into the exponent.  A double needs at most 17 digits,
so as many steps are enough. -/
def Digits.strip : Nat → Digits → Digits
  | 0, d => d
  | steps + 1, d =>
    if d.digits != 0 && d.digits % 10 == 0 then
      strip steps ⟨d.digits / 10, d.exponent + 1⟩
    else d

/-- The shortest decimal of a double. -/
def Binary.shortest (x : Binary) (tie : Tie) : Digits :=
  if x.mantissa == 0 then ⟨0, 0⟩
  else
    let interval := x.rounding
    let magnitude := ((Ratio.mk interval.value 1).scale 2 interval.exponent).magnitude
    let found := (List.range 17).findSome? fun (extra : Nat) =>
      let place := magnitude - (extra : Int)
      (interval.onGrid tie place).map fun digits => (⟨digits, place⟩ : Digits)
    (found.getD ⟨0, 0⟩).strip 18

end Crossbar.Decimal
