import Crossbar.Json.Reader
import Crossbar.Json.Writer

/-!
# Strings read back

Escaping writes every character so that the reader takes it back as the same
character, whatever has been read before and whatever follows.  So a quoted text
reads back up to its closing quote.
-/

namespace Crossbar.Json

variable {c : Char} {done : Partial} {rest : List Char}

/-! ## One character -/

/-- A character that stands for itself inside a string. -/
def IsPlain (c : Char) : Prop := c ≠ '"' ∧ c ≠ '\\' ∧ 0x20 ≤ c.toNat

theorem readString_plain (plain : IsPlain c) (done : Partial) (rest : List Char) :
    readString done (c :: rest) = readString (done.push c) rest := by
  obtain ⟨notQuote, notEscape, notControl⟩ := plain
  rw [readString]
  · rw [if_neg]
    simp only [Bool.or_eq_true, beq_iff_eq, decide_eq_true_eq, not_or, Nat.not_lt]
    exact ⟨notEscape, notControl⟩
  all_goals simp_all

theorem readString_escaped {letter : Char} (stands : escaped? letter = some c)
    (done : Partial) (rest : List Char) :
    readString done ('\\' :: letter :: rest) = readString (done.push c) rest := by
  have notUnit : letter ≠ 'u' := by
    rintro rfl
    cases stands
  rw [readString, stands]
  simp_all

theorem readString_unit {a b d e : Char} {unit : Nat} (stands : hexUnit? a b d e = some unit)
    (done : Partial) (rest : List Char) :
    readString done ('\\' :: 'u' :: a :: b :: d :: e :: rest) =
      readString (done.pushUnit unit) rest := by
  rw [readString, stands]

theorem hexUnit?_of_control :
    ∀ code < 0x20, hexUnit? '0' '0' (hexDigit (code / 16)) (hexDigit code) = some code := by
  decide

/-- A unit below the surrogates is the character of that code. -/
theorem pushUnit_of_control (control : c.toNat < 0x20) (done : Partial) :
    done.pushUnit c.toNat = done.push c := by
  rw [Partial.pushUnit, if_neg (by omega), if_neg (by omega), Char.ofNat_toNat]

/-- The characters that are written as a backslash and a letter. -/
def lettered : List Char := ['"', '\\', '\x08', '\x0c', '\n', '\r', '\t']

theorem escape_of_not_lettered (other : c ∉ lettered) :
    escape c =
      if c.toNat < 0x20 then
        "\\u00" ++ String.ofList [hexDigit (c.toNat / 16), hexDigit c.toNat]
      else c.toString := by
  simp only [lettered, List.mem_cons, List.not_mem_nil, or_false, not_or] at other
  obtain ⟨notQuote, notBackslash, notBackspace, notFeed, notLine, notReturn, notTab⟩ := other
  simp only [escape, beq_iff_eq, notQuote, notBackslash, notBackspace, notFeed, notLine, notReturn,
    notTab, if_false]

theorem readString_escape (c : Char) (done : Partial) (rest : List Char) :
    readString done ((escape c).toList ++ rest) = readString (done.push c) rest := by
  by_cases short : c ∈ lettered
  · simp only [lettered, List.mem_cons, List.not_mem_nil, or_false] at short
    rcases short with rfl | rfl | rfl | rfl | rfl | rfl | rfl <;>
      exact readString_escaped rfl done rest
  · rw [escape_of_not_lettered short]
    split
    case isTrue control =>
      have written : ("\\u00" ++
          String.ofList [hexDigit (c.toNat / 16), hexDigit c.toNat]).toList =
          ['\\', 'u', '0', '0', hexDigit (c.toNat / 16), hexDigit c.toNat] := by
        rw [String.toList_append, String.toList_ofList, String.toList_ofList]
        rfl
      rw [written, ← pushUnit_of_control control]
      exact readString_unit (hexUnit?_of_control c.toNat control) done rest
    case isFalse notControl =>
      have plain : IsPlain c := by
        refine ⟨?_, ?_, Nat.not_lt.mp notControl⟩
        · rintro rfl
          exact short (by decide)
        · rintro rfl
          exact short (by decide)
      rw [Char.toString, String.toList_singleton]
      exact readString_plain plain done rest

/-! ## A whole text -/

/-- What stands between the quotes of a text. -/
def escapes (text : String) : List Char :=
  text.toList.flatMap fun c => (escape c).toList

theorem toList_quote (text : String) : (quote text).toList = '"' :: (escapes text ++ ['"']) := by
  rw [quote, String.toList_append, String.toList_append, String.toList_join, List.flatMap_map]
  rfl

/-- What has been read once all characters of a text were. -/
def Partial.ofText (text : String) : Partial := ⟨text.toList.reverse, none, true⟩

theorem text?_ofText (text : String) : (Partial.ofText text).text? = some text := by
  change some (String.ofList text.toList.reverse.reverse) = some text
  rw [List.reverse_reverse, String.ofList_toList]

theorem readString_flatMap (chars before rest : List Char) :
    readString ⟨before, none, true⟩ (chars.flatMap (fun c => (escape c).toList) ++ '"' :: rest) =
      some (⟨chars.reverse ++ before, none, true⟩, rest) := by
  induction chars generalizing before with
  | nil =>
      rfl
  | cons c chars inductionHypothesis =>
      rw [List.flatMap_cons, List.append_assoc, readString_escape]
      change readString ⟨c :: before, none, true⟩ _ = _
      rw [inductionHypothesis, List.reverse_cons, List.append_assoc]
      rfl

/-- A text is read up to its closing quote, and all of it is kept. -/
theorem readString_escapes (text : String) (rest : List Char) :
    readString .start (escapes text ++ '"' :: rest) = some (.ofText text, rest) := by
  rw [escapes, Partial.start, readString_flatMap, List.append_nil, Partial.ofText]

end Crossbar.Json
