import Crossbar.Json.Reader
import Crossbar.Json.Writer
import Mathlib.Data.List.TakeWhile

/-!
# Numbers read back

A number is read up to the first character that cannot continue it, so what is
known of its text alone holds in any text that goes on differently.  Whole numbers
of 64 bits read back from their decimal digits.  Whether a double reads back is
taken from the double.
-/

namespace Crossbar.Json

variable {text rest left : List Char} {value : Json}

/-! ## Where a number ends -/

/-- Whether a character can stand in a number after its first digit. -/
def continuesNumber (c : Char) : Bool :=
  c.isDigit || c == '.' || c == 'e' || c == 'E' || c == '+' || c == '-'

/-- No number goes on in this text. -/
def EndsNumber (rest : List Char) : Prop :=
  ∀ c ∈ rest.head?, continuesNumber c = false

theorem endsNumber_nil : EndsNumber [] := by
  intro c member
  cases member

theorem endsNumber_cons {c : Char} (ends : continuesNumber c = false) :
    EndsNumber (c :: rest) := by
  intro other member
  obtain rfl : c = other := by simpa using member
  exact ends

theorem EndsNumber.isDigit_head (ends : EndsNumber rest) :
    ∀ c ∈ rest.head?, c.isDigit = false := by
  intro c member
  have stops := ends c member
  simp only [continuesNumber, Bool.or_eq_false_iff] at stops
  exact stops.1.1.1.1.1

theorem takeDigits_append (ends : EndsNumber rest) :
    takeDigits (text ++ rest) = ((takeDigits text).1, (takeDigits text).2 ++ rest) := by
  induction text with
  | nil =>
      cases rest with
      | nil => rfl
      | cons c rest =>
          have notDigit := ends.isDigit_head c rfl
          simp [takeDigits, notDigit]
  | cons c text inductionHypothesis =>
      cases isDigit : c.isDigit with
      | false => simp [takeDigits, isDigit]
      | true =>
          simp only [takeDigits, Prod.mk.injEq] at inductionHypothesis
          simp [takeDigits, isDigit, inductionHypothesis]

theorem takeFraction_point (text : List Char) :
    takeFraction ('.' :: text) =
      if (takeDigits text).1 = [] then none else some (takeDigits text) := by
  rw [takeFraction]
  split
  case h_1 taken => rw [taken, if_pos rfl]
  case h_2 digits left notEmpty taken => rw [taken, if_neg notEmpty]

theorem takeFraction_of_head (noPoint : text.head? ≠ some '.') :
    takeFraction text = some ([], text) := by
  unfold takeFraction
  split
  case h_1 => exact absurd rfl noPoint
  case h_2 => rfl

theorem takeFraction_append (ends : EndsNumber rest) {digits : List Nat}
    (taken : takeFraction text = some (digits, left)) :
    takeFraction (text ++ rest) = some (digits, left ++ rest) := by
  cases text with
  | nil =>
      have noPoint : rest.head? ≠ some '.' := by
        intro point
        exact absurd (ends '.' point) (by decide)
      cases taken
      exact takeFraction_of_head noPoint
  | cons c text =>
      by_cases point : c = '.'
      · subst point
        rw [takeFraction_point] at taken
        rw [List.cons_append, takeFraction_point, takeDigits_append ends]
        split at taken
        case isTrue => cases taken
        case isFalse someDigits =>
          rw [Option.some.injEq] at taken
          rw [if_neg someDigits, taken]
      · have noPoint (more : List Char) : (c :: more).head? ≠ some '.' := by
          simpa using point
        rw [takeFraction_of_head (noPoint text)] at taken
        cases taken
        exact takeFraction_of_head (noPoint _)

theorem takeSign_append (ends : EndsNumber rest) :
    takeSign (text ++ rest) = ((takeSign text).1, (takeSign text).2 ++ rest) := by
  cases text with
  | nil =>
      rw [List.nil_append]
      unfold takeSign
      split
      case h_1 => exact absurd (ends '-' rfl) (by decide)
      case h_2 => exact absurd (ends '+' rfl) (by decide)
      case h_3 => rfl
  | cons c text =>
      rw [List.cons_append]
      unfold takeSign
      split <;> simp_all

theorem takeExponent_of_head (noExponent : ∀ c ∈ text.head?, (c == 'e' || c == 'E') = false) :
    takeExponent text = some (none, text) := by
  cases text with
  | nil => rfl
  | cons c text =>
      rw [takeExponent, if_neg (by simp [noExponent c rfl])]

theorem takeExponent_append (ends : EndsNumber rest) {exponent : Option Int}
    (taken : takeExponent text = some (exponent, left)) :
    takeExponent (text ++ rest) = some (exponent, left ++ rest) := by
  cases text with
  | nil =>
      cases taken
      refine takeExponent_of_head fun c head => ?_
      have stops := ends c head
      simp only [continuesNumber, Bool.or_eq_false_iff] at stops
      rw [stops.1.1.1.2, stops.1.1.2]
      rfl
  | cons c text =>
      rw [takeExponent] at taken
      rw [List.cons_append, takeExponent]
      split at taken
      case isTrue marked =>
        rw [if_pos marked, takeSign_append ends]
        dsimp only at taken ⊢
        rw [takeDigits_append ends]
        split at taken
        case h_1 => cases taken
        case h_2 digits after notEmpty found =>
          cases taken
          rw [found]
          cases digits with
          | nil => exact absurd rfl notEmpty
          | cons first others => rfl
      case isFalse unmarked =>
        rw [if_neg unmarked]
        cases taken
        rfl

/-- A number that is read from a text is read from it in front of any other text. -/
theorem readMagnitude_append (ends : EndsNumber rest) {negative : Bool}
    (read : readMagnitude negative text = (value, left)) (sound : value ≠ .flaw .broken) :
    readMagnitude negative (text ++ rest) = (value, left ++ rest) := by
  unfold readMagnitude at read ⊢
  rw [takeDigits_append ends]
  generalize takeDigits text = taken at read ⊢
  obtain ⟨digits, afterDigits⟩ := taken
  cases digits with
  | nil =>
      cases read
      exact absurd rfl sound
  | cons first others =>
      dsimp only at read ⊢
      split at read
      case isTrue =>
        cases read
        exact absurd rfl sound
      case isFalse noLeadingZero =>
        rw [if_neg noLeadingZero]
        cases fractionTaken : takeFraction afterDigits with
        | none =>
            rw [fractionTaken] at read
            cases read
            exact absurd rfl sound
        | some fraction =>
            obtain ⟨fraction, afterFraction⟩ := fraction
            rw [fractionTaken] at read
            rw [takeFraction_append ends fractionTaken]
            dsimp only at read ⊢
            cases exponentTaken : takeExponent afterFraction with
            | none =>
                rw [exponentTaken] at read
                cases read
                exact absurd rfl sound
            | some exponent =>
                obtain ⟨exponent, afterExponent⟩ := exponent
                rw [exponentTaken] at read
                rw [takeExponent_append ends exponentTaken]
                dsimp only at read ⊢
                split at read
                case isTrue isWhole =>
                  rw [if_pos isWhole]
                  cases read
                  rfl
                case isFalse notWhole =>
                  rw [if_neg notWhole]
                  cases read
                  rfl

theorem readNumber_minus (text : List Char) :
    readNumber ('-' :: text) = readMagnitude true text :=
  rfl

theorem readNumber_of_head {c : Char} (unsigned : c ≠ '-') :
    readNumber (c :: text) = readMagnitude false (c :: text) := by
  unfold readNumber
  split
  case h_1 sign => exact absurd (List.cons.inj sign).1 unsigned
  case h_2 => rfl

/-- What is read as a number starts with a digit or a minus sign. -/
theorem exists_head_of_readNumber (read : readNumber text = (value, left))
    (sound : value ≠ .flaw .broken) :
    ∃ c more, text = c :: more ∧ (c.isDigit = true ∨ c = '-') := by
  cases text with
  | nil =>
      cases read
      exact absurd rfl sound
  | cons c more =>
      refine ⟨c, more, rfl, ?_⟩
      by_cases signed : c = '-'
      · exact Or.inr signed
      · cases isDigit : c.isDigit with
        | true => exact Or.inl rfl
        | false =>
            rw [readNumber_of_head signed, readMagnitude] at read
            simp [takeDigits, isDigit] at read
            exact absurd read.1.symm sound

theorem readNumber_append (ends : EndsNumber rest) (read : readNumber text = (value, left))
    (sound : value ≠ .flaw .broken) :
    readNumber (text ++ rest) = (value, left ++ rest) := by
  obtain ⟨c, more, rfl, _⟩ := exists_head_of_readNumber read sound
  by_cases signed : c = '-'
  · subst signed
    rw [readNumber_minus] at read
    rw [List.cons_append, readNumber_minus]
    exact readMagnitude_append ends read sound
  · rw [readNumber_of_head signed] at read
    rw [List.cons_append, readNumber_of_head signed, ← List.cons_append]
    exact readMagnitude_append ends read sound

/-! ## Whole numbers -/

theorem ofDigits_map_digitValue (digits : List Char) :
    Decimal.ofDigits (digits.map digitValue) = Nat.ofDigitChars 10 digits 0 := by
  rw [Decimal.ofDigits, List.foldl_map]
  rfl

/-- The digits of a positive number do not start with a zero. -/
theorem head_toDigits_ne_zero {n : Nat} (positive : 0 < n) :
    (Nat.toDigits 10 n).head? ≠ some '0' := by
  induction n using Nat.strongRecOn with
  | _ n inductionHypothesis =>
      by_cases small : n < 10
      · rw [Nat.toDigits_of_lt_base small, List.head?_cons, ne_eq, Option.some.injEq,
          Nat.digitChar_eq_zero]
        exact Nat.ne_of_gt positive
      · rw [Nat.toDigits_of_base_le (by decide) (Nat.not_lt.mp small),
          List.head?_append, Option.or_of_isSome (by simp [Nat.toDigits_ne_nil])]
        exact inductionHypothesis (n / 10) (by omega) (by omega)

theorem isDigit_of_mem_digits {n : Nat} {c : Char} (member : c ∈ Nat.toDigits 10 n) :
    c.isDigit = true :=
  Nat.isDigit_of_mem_toDigits (by decide) (by decide) member

theorem eq_zero_of_digitValue {c : Char} (isDigit : c.isDigit = true)
    (isZero : digitValue c = 0) : c = '0' := by
  have low : '0'.toNat ≤ c.toNat := by
    rw [Char.isDigit, Bool.and_eq_true, decide_eq_true_eq] at isDigit
    exact isDigit.1
  have same : c.toNat = '0'.toNat := Nat.le_antisymm (Nat.sub_eq_zero_iff_le.mp isZero) low
  exact Char.ext (UInt32.toNat_inj.mp same)

theorem leadingZero_toDigits (n : Nat) :
    leadingZero ((Nat.toDigits 10 n).map digitValue) = false := by
  rcases Nat.eq_zero_or_pos n with rfl | positive
  · rfl
  · cases digits : Nat.toDigits 10 n with
    | nil => rfl
    | cons c others =>
        have notZero : digitValue c ≠ 0 := by
          intro isZero
          have isDigit := isDigit_of_mem_digits (digits ▸ List.mem_cons_self ..)
          apply head_toDigits_ne_zero positive
          rw [digits, eq_zero_of_digitValue isDigit isZero]
          rfl
        rw [List.map_cons]
        unfold leadingZero
        split
        case h_1 startsWithZero => exact absurd (List.cons.inj startsWithZero).1 notZero
        case h_2 => rfl

theorem takeDigits_toDigits (n : Nat) :
    takeDigits (Nat.toDigits 10 n) = ((Nat.toDigits 10 n).map digitValue, []) := by
  have allDigits : ∀ c ∈ Nat.toDigits 10 n, c.isDigit = true := fun c => isDigit_of_mem_digits
  rw [takeDigits, List.takeWhile_eq_self_iff.mpr allDigits, List.dropWhile_eq_nil_iff.mpr allDigits]

theorem readMagnitude_toDigits (negative : Bool) (n : Nat) :
    readMagnitude negative (Nat.toDigits 10 n) =
      (wholeValue negative ((Nat.toDigits 10 n).map digitValue), []) := by
  have noLeadingZero := leadingZero_toDigits n
  rw [readMagnitude, takeDigits_toDigits]
  cases digits : Nat.toDigits 10 n with
  | nil => exact absurd digits Nat.toDigits_ne_nil
  | cons c others =>
      rw [digits, List.map_cons] at noLeadingZero
      rw [List.map_cons]
      dsimp only
      rw [noLeadingZero]
      rfl

/-- Whole numbers of 64 bits, signed or unsigned. -/
def IsWord (value : Int) : Prop := Int64.minValue.toInt ≤ value ∧ value < UInt64.size

theorem wholeValue_toDigits {n : Nat} (small : n < UInt64.size) :
    wholeValue false ((Nat.toDigits 10 n).map digitValue) = .int n := by
  rw [wholeValue, ofDigits_map_digitValue, Nat.ofDigitChars_ten_toDigits]
  exact if_pos small

theorem wholeValue_negative {n : Nat} (positive : 0 < n) (small : Int64.minValue.toInt ≤ -n) :
    wholeValue true ((Nat.toDigits 10 n).map digitValue) = .int (-n) := by
  have readAsWord : (Int64.ofInt (-n)).toInt = -n :=
    Int64.toInt_ofInt_of_le small (by omega)
  have isWord : (Decimal.signed64? (-n)).isNone = false := by
    rw [Decimal.signed64?, if_pos readAsWord]
    rfl
  rw [wholeValue, ofDigits_map_digitValue, Nat.ofDigitChars_ten_toDigits, if_pos rfl, isWord,
    Bool.or_false, if_neg (by simpa using Nat.ne_of_gt positive)]

/-- Whole numbers of 64 bits read back. -/
theorem readNumber_toString {value : Int} (isWord : IsWord value) :
    readNumber (toString value).toList = (.int value, []) := by
  obtain ⟨low, high⟩ := isWord
  cases value with
  | ofNat n =>
      have written : (toString (Int.ofNat n)).toList = Nat.toDigits 10 n := Nat.toList_repr
      have small : n < UInt64.size := Int.ofNat_lt.mp high
      rw [written]
      cases digits : Nat.toDigits 10 n with
      | nil => exact absurd digits Nat.toDigits_ne_nil
      | cons c others =>
          have unsigned : c ≠ '-' := by
            rintro rfl
            have isDigit := isDigit_of_mem_digits (digits ▸ List.mem_cons_self ..)
            exact absurd isDigit (by decide)
          rw [readNumber_of_head unsigned, ← digits, readMagnitude_toDigits,
            wholeValue_toDigits small]
          rfl
  | negSucc n =>
      have written : (toString (Int.negSucc n)).toList = '-' :: Nat.toDigits 10 (n + 1) := by
        change ("-" ++ (n + 1).repr).toList = _
        rw [String.toList_append, Nat.toList_repr]
        rfl
      rw [written, readNumber_minus, readMagnitude_toDigits,
        wholeValue_negative (Nat.succ_pos n) (by omega)]
      rfl

/-! ## Doubles -/

/-- Whether the text of a double is read as the double.  The reader scales by one
power of ten and may miss a double of many digits by one unit. -/
def ReadsBack (x : Float) : Prop :=
  readNumber (writeFloat x).toList = (.float x, [])

/-- The double that a reading consists of, if it leaves nothing. -/
def onlyFloat? : Json × List Char → Option Float
  | (.float x, []) => some x
  | _ => none

theorem onlyFloat?_eq_some_iff {reading : Json × List Char} {x : Float} :
    onlyFloat? reading = some x ↔ reading = (.float x, []) := by
  constructor
  · intro only
    unfold onlyFloat? at only
    split at only
    · cases only
      rfl
    · cases only
  · rintro rfl
    rfl

instance (x : Float) : Decidable (ReadsBack x) :=
  decidable_of_iff _ onlyFloat?_eq_some_iff

example : ReadsBack (-0.1) := by decide +kernel

end Crossbar.Json
