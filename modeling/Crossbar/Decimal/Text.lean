import Crossbar.Decimal.Shortest

/-!
# Written forms of doubles

Three forms are in use: in messages, in files and in event fields.  All of them
show the shortest decimal that reads back.  They differ in where they turn to
scientific notation, in whether a whole number keeps `.0`, and in the sign of a
positive exponent.
-/

namespace Crossbar.Decimal

/-- How a double is written. -/
structure Form where
  /-- Magnitudes of the leading digit, from and up to, that are written without an
  exponent; all of them if none are given. -/
  positional : Option (Int × Int)
  /-- Whole numbers written positionally end in `.0`. -/
  pointZero : Bool
  /-- Positive exponents carry a plus sign. -/
  plusSign : Bool
  tie : Tie
  deriving DecidableEq, Repr

/-- In messages a number is always positional and a whole number stays bare. -/
def Form.message : Form := ⟨none, false, false, .up⟩

/-- In files a number is positional from `0.00001` up to `10 ^ 16`. -/
def Form.file : Form := ⟨some (-5, 15), true, true, .even⟩

/-- In event fields a number is positional from `0.0001` up to `10 ^ 16`. -/
def Form.field : Form := ⟨some (-4, 15), true, false, .up⟩

namespace Digits

/-- The power of ten of the leading digit. -/
def magnitude (d : Digits) : Int :=
  d.exponent + (digitCount d.digits : Int) - 1

/-- Writes the digits with the point where it belongs. -/
def positional (d : Digits) (pointZero : Bool) : String :=
  let text := (toString d.digits).toList
  match d.exponent with
  | .ofNat zeros =>
    let whole := text ++ (if d.digits == 0 then [] else List.replicate zeros '0')
    String.ofList whole ++ (if pointZero then ".0" else "")
  | .negSucc less =>
    let places := less + 1
    let padded := List.replicate (places + 1 - text.length) '0' ++ text
    let cut := padded.length - places
    String.ofList (padded.take cut) ++ "." ++ String.ofList (padded.drop cut)

/-- Writes one digit, the point, the other digits and the exponent. -/
def scientific (d : Digits) (plusSign : Bool) : String :=
  let text := (toString d.digits).toList
  let fraction := match text.drop 1 with
    | [] => ""
    | rest => "." ++ String.ofList rest
  let exponent := d.magnitude
  let sign := if plusSign && 0 ≤ exponent then "+" else ""
  String.ofList (text.take 1) ++ fraction ++ "e" ++ sign ++ toString exponent

end Digits

/-- Writes a double. -/
def Form.write (form : Form) (x : Float) : String :=
  match Parts.ofFloat x with
  | .nan => "NaN"
  | .infinite negative => if negative then "-inf" else "inf"
  | .finite negative size =>
    let d := size.shortest form.tie
    let plain := match form.positional with
      | none => true
      | some (least, most) => d.digits == 0 || least ≤ d.magnitude && d.magnitude ≤ most
    (if negative then "-" else "")
      ++ if plain then d.positional form.pointZero else d.scientific form.plusSign

end Crossbar.Decimal
