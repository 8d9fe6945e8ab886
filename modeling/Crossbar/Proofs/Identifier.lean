import Crossbar.Element.Identifier
import Crossbar.Proofs.Index
import Crossbar.Proofs.Trace
import Mathlib.Data.List.TakeWhile

/-!
# The grammar of identifiers

An identifier is the name of a kind, decimal digits and the name of a terminal, and
since no name has a digit in it, a text can be an identifier in one way only.  Every
other text is refused for the first of its faults.  An element or a port reads back from
its own text, and the text of what was read is the text that was read without the
leading zeros of its number.
-/

namespace Crossbar

namespace Identifier

variable {text rest : String} {letters digits others : List Char} {c : Char}
  {element : Element} {error : ElementError}

/-- A text is letters, digits and letters, of which the last may be missing. -/
structure Spells (text : String) (letters digits others : List Char) : Prop where
  whole : text.toList = letters ++ (digits ++ others)
  someLetters : letters ≠ []
  someDigits : digits ≠ []
  allLetters : ∀ c ∈ letters, c.isAlpha = true
  allDigits : ∀ c ∈ digits, c.isDigit = true
  allOthers : ∀ c ∈ others, c.isAlpha = true

/-- A text is the name of a kind, digits that give the number of an element, and a rest. -/
structure Identifies (text : String) (element : Element) (digits : List Char) (rest : String) :
    Prop where
  whole : text = element.kind.name ++ String.ofList digits ++ rest
  someDigits : digits ≠ []
  allDigits : ∀ c ∈ digits, c.isDigit = true
  value : Nat.ofDigitChars 10 digits 0 = element.number.toNat

/-- What is wrong in front of the terminal, the shape of the text counting first. -/
inductive HeadFault (text : String) : ElementError → Prop
  | shape (misspelt : ∀ letters digits others, ¬Spells text letters digits others) :
      HeadFault text (.malformed text)
  | kind {letters digits others : List Char} (spells : Spells text letters digits others)
      (unknown : ∀ kind : Kind, kind.name ≠ String.ofList letters) :
      HeadFault text (.unknownKind (String.ofList letters))
  | number {kind : Kind} {digits others : List Char}
      (spells : Spells text kind.name.toList digits others)
      (large : UInt32.size ≤ Nat.ofDigitChars 10 digits 0) : HeadFault text (.malformed text)

/-- What is wrong with the identifier of a port. -/
inductive PortFault (text : String) : ElementError → Prop
  | head {error : ElementError} (fault : HeadFault text error) : PortFault text error
  | missing {element : Element} {digits : List Char}
      (identifies : Identifies text element digits "") : PortFault text (.malformed text)
  | terminal {element : Element} {digits : List Char} {rest : String}
      (identifies : Identifies text element digits rest) (someRest : rest ≠ "")
      (letters : ∀ c ∈ rest.toList, c.isAlpha = true)
      (unknown : ∀ terminal ∈ element.kind.terminals, terminal.name ≠ rest) :
      PortFault text (.unknownPort element.kind rest)

/-- What is wrong with the identifier of an element. -/
inductive ElementFault (text : String) : ElementError → Prop
  | head {error : ElementError} (fault : HeadFault text error) : ElementFault text error
  | more {element : Element} {digits : List Char} {rest : String}
      (identifies : Identifies text element digits rest) (someRest : rest ≠ "")
      (letters : ∀ c ∈ rest.toList, c.isAlpha = true) : ElementFault text (.malformed text)

/-- Digits without the zeros that do not count. -/
def withoutLeadingZeros : List Char → List Char
  | [] => []
  | [digit] => [digit]
  | digit :: next :: rest =>
    if digit = '0' then withoutLeadingZeros (next :: rest) else digit :: next :: rest

/-! ## Digits -/

theorem digitChar_of_isDigit (isDigit : c.isDigit = true) :
    c.toNat - '0'.toNat < 10 ∧ Nat.digitChar (c.toNat - '0'.toNat) = c := by
  obtain ⟨low, high⟩ := Char.isDigit_iff_toNat.mp isDigit
  have zero : '0'.toNat = 48 := rfl
  have nine : '9'.toNat = 57 := rfl
  have small : c.toNat - '0'.toNat < 10 := by omega
  refine ⟨small, Char.toNat_inj.mp ?_⟩
  rw [Nat.toNat_digitChar_of_lt_ten small]
  omega

theorem toDigits_ofDigitChars_of_pos (allDigits : ∀ c ∈ digits, c.isDigit = true) {value : Nat}
    (positive : 0 < value) :
    Nat.toDigits 10 (Nat.ofDigitChars 10 digits value) = Nat.toDigits 10 value ++ digits := by
  induction digits generalizing value with
  | nil =>
      rw [Nat.ofDigitChars_nil, List.append_nil]
  | cons c digits inductionHypothesis =>
      rw [List.forall_mem_cons] at allDigits
      obtain ⟨small, same⟩ := digitChar_of_isDigit allDigits.1
      rw [Nat.ofDigitChars_cons, inductionHypothesis allDigits.2 (by omega),
        ← Nat.toDigits_append_toDigits (by decide) positive small, Nat.toDigits_of_lt_base small,
        same, List.append_assoc, List.singleton_append]

theorem toDigits_ofDigitChars (someDigits : digits ≠ [])
    (allDigits : ∀ c ∈ digits, c.isDigit = true) :
    Nat.toDigits 10 (Nat.ofDigitChars 10 digits 0) = withoutLeadingZeros digits := by
  induction digits with
  | nil =>
      exact absurd rfl someDigits
  | cons c digits inductionHypothesis =>
      rw [List.forall_mem_cons] at allDigits
      obtain ⟨small, same⟩ := digitChar_of_isDigit allDigits.1
      rw [Nat.ofDigitChars_cons, Nat.mul_zero, Nat.zero_add]
      cases digits with
      | nil =>
          rw [Nat.ofDigitChars_nil, Nat.toDigits_of_lt_base small, same, withoutLeadingZeros]
      | cons next digits =>
          rw [withoutLeadingZeros]
          by_cases zero : c = '0'
          · rw [if_pos zero, zero, Nat.sub_self]
            exact inductionHypothesis (List.cons_ne_nil _ _) allDigits.2
          · have positive : 0 < c.toNat - '0'.toNat := by
              rw [Nat.pos_iff_ne_zero]
              intro none
              rw [none] at same
              exact zero same.symm
            rw [if_neg zero, toDigits_ofDigitChars_of_pos allDigits.2 positive,
              Nat.toDigits_of_lt_base small, same, List.singleton_append]

/-! ## Pieces -/

theorem toNat_of_isAlpha (isAlpha : c.isAlpha = true) : '9'.toNat < c.toNat := by
  rcases Bool.or_eq_true_iff.mp isAlpha with isUpper | isLower
  · have low : 'A'.val ≤ c.val := (of_decide_eq_true isUpper).1
    exact Nat.lt_of_lt_of_le (by decide) (UInt32.le_iff_toNat_le.mp low)
  · have low : 'a'.val ≤ c.val := of_decide_eq_true (Bool.and_eq_true_iff.mp isLower).1
    exact Nat.lt_of_lt_of_le (by decide) (UInt32.le_iff_toNat_le.mp low)

theorem isDigit_eq_false_of_isAlpha (isAlpha : c.isAlpha = true) : c.isDigit = false := by
  have high := toNat_of_isAlpha isAlpha
  rw [← Bool.not_eq_true, Char.isDigit_iff_toNat]
  omega

theorem isAlpha_eq_false_of_isDigit (isDigit : c.isDigit = true) : c.isAlpha = false := by
  rw [← Bool.not_eq_true]
  intro isAlpha
  rw [isDigit_eq_false_of_isAlpha isAlpha] at isDigit
  cases isDigit

theorem takeWhile_dropWhile_append {test : Char → Bool} {run after : List Char}
    (belongs : ∀ c ∈ run, test c = true) (ends : ∀ c ∈ after.head?, test c = false) :
    (run ++ after).takeWhile test = run ∧ (run ++ after).dropWhile test = after := by
  rw [List.takeWhile_append_of_pos belongs, List.dropWhile_append_of_pos belongs]
  cases after with
  | nil =>
      exact ⟨List.append_nil run, rfl⟩
  | cons c after =>
      have stops : ¬test c = true := by
        rw [ends c rfl]
        decide
      rw [List.takeWhile_cons_of_neg stops, List.dropWhile_cons_of_neg stops]
      exact ⟨List.append_nil run, rfl⟩

/-- A text is letters, digits and letters in one way only. -/
theorem spells_iff : Spells text letters digits others ↔
    Pieces.ofText text.toList = ⟨letters, digits, others⟩ ∧
      (Pieces.mk letters digits others).wellShaped = true := by
  have shape : (Pieces.mk letters digits others).wellShaped = true ↔
      (letters ≠ [] ∧ digits ≠ []) ∧ ∀ c ∈ others, c.isAlpha = true := by
    simp [Pieces.wellShaped]
  rw [shape]
  constructor
  · intro spells
    have lettersEnd : ∀ c ∈ (digits ++ others).head?, c.isAlpha = false := by
      intro c first
      cases digits with
      | nil =>
          exact absurd rfl spells.someDigits
      | cons digit digits =>
          obtain rfl : digit = c := Option.some.inj first
          exact isAlpha_eq_false_of_isDigit (spells.allDigits digit List.mem_cons_self)
    have digitsEnd : ∀ c ∈ others.head?, c.isDigit = false := fun c first =>
      isDigit_eq_false_of_isAlpha (spells.allOthers c (List.mem_of_mem_head? first))
    have takenLetters := takeWhile_dropWhile_append spells.allLetters lettersEnd
    have takenDigits := takeWhile_dropWhile_append spells.allDigits digitsEnd
    refine ⟨?_, ⟨spells.someLetters, spells.someDigits⟩, spells.allOthers⟩
    rw [Pieces.ofText, spells.whole, takenLetters.1, takenLetters.2, takenDigits.1, takenDigits.2]
  · rintro ⟨pieces, ⟨someLetters, someDigits⟩, allOthers⟩
    obtain ⟨rfl, rfl, rfl⟩ := Pieces.mk.inj pieces
    refine ⟨?_, someLetters, someDigits, fun c => List.mem_takeWhile_imp,
      fun c => List.mem_takeWhile_imp, allOthers⟩
    rw [List.takeWhile_append_dropWhile, List.takeWhile_append_dropWhile]

end Identifier

/-! ## Names -/

namespace Kind

variable {kind : Kind} {terminal : Terminal} {name : String}

theorem name_toList_ne_nil (kind : Kind) : kind.name.toList ≠ [] := by
  cases kind <;> decide

theorem isAlpha_name (kind : Kind) : ∀ c ∈ kind.name.toList, c.isAlpha = true := by
  apply List.all_eq_true.mp
  cases kind <;> decide

theorem ofName?_eq_some_iff : ofName? name = some kind ↔ kind.name = name := by
  constructor
  · intro found
    rw [ofName?] at found
    simpa using List.find?_some found
  · rintro rfl
    cases kind <;> rfl

theorem terminal?_eq_some_iff :
    kind.terminal? name = some terminal ↔ terminal ∈ kind.terminals ∧ terminal.name = name := by
  constructor
  · intro found
    rw [terminal?] at found
    exact ⟨List.mem_of_find?_eq_some found, by simpa using List.find?_some found⟩
  · rintro ⟨isTerminal, rfl⟩
    revert terminal
    cases kind <;> decide

end Kind

theorem Terminal.name_ne_empty (terminal : Terminal) : terminal.name ≠ "" := by
  cases terminal <;> decide

theorem Terminal.isAlpha_name (terminal : Terminal) :
    ∀ c ∈ terminal.name.toList, c.isAlpha = true := by
  apply List.all_eq_true.mp
  cases terminal <;> decide

namespace Element

variable {element : Element} {port : Port} {name : String} {error : ElementError}

theorem port_eq_ok_iff :
    element.port name = .ok port ↔ port.element = element ∧ port.terminal.name = name := by
  unfold Element.port
  split
  case h_1 terminal found =>
    obtain ⟨_, sameName⟩ := Kind.terminal?_eq_some_iff.mp found
    constructor
    · rintro ⟨⟩
      exact ⟨rfl, sameName⟩
    · rintro ⟨rfl, rfl⟩
      have own := Kind.terminal?_eq_some_iff.mpr ⟨port.listed, rfl⟩
      rw [own] at found
      cases found
      rfl
  case h_2 unknown =>
    refine iff_of_false nofun ?_
    rintro ⟨rfl, rfl⟩
    rw [Kind.terminal?_eq_some_iff.mpr ⟨port.listed, rfl⟩] at unknown
    cases unknown

theorem port_eq_error_iff :
    element.port name = .error error ↔
      (∀ terminal ∈ element.kind.terminals, terminal.name ≠ name) ∧
        error = .unknownPort element.kind name := by
  unfold Element.port
  split
  case h_1 terminal found =>
    obtain ⟨isTerminal, sameName⟩ := Kind.terminal?_eq_some_iff.mp found
    exact iff_of_false nofun fun ⟨unknown, _⟩ => unknown terminal isTerminal sameName
  case h_2 unfound =>
    have unknown : ∀ terminal ∈ element.kind.terminals, terminal.name ≠ name := by
      intro terminal isTerminal sameName
      rw [Kind.terminal?_eq_some_iff.mpr ⟨isTerminal, sameName⟩] at unfound
      cases unfound
    rw [Except.error.injEq, and_iff_right unknown]
    exact eq_comm

end Element

/-! ## Splitting -/

namespace Identifier

variable {text rest : String} {letters digits others : List Char} {element : Element}
  {error : ElementError}

theorem split_of_spells (spells : Spells text letters digits others) :
    split text =
      match Kind.ofName? (String.ofList letters) with
      | none => .error (.unknownKind (String.ofList letters))
      | some kind =>
        if Nat.ofDigitChars 10 digits 0 < UInt32.size then
          .ok (⟨kind, (Nat.ofDigitChars 10 digits 0).toUInt32⟩, String.ofList others)
        else .error (.malformed text) := by
  obtain ⟨pieces, wellShaped⟩ := spells_iff.mp spells
  rw [split, pieces]
  exact if_pos wellShaped

theorem Identifies.spells (identifies : Identifies text element digits rest)
    (letters : ∀ c ∈ rest.toList, c.isAlpha = true) :
    Spells text element.kind.name.toList digits rest.toList := by
  refine ⟨?_, element.kind.name_toList_ne_nil, identifies.someDigits, element.kind.isAlpha_name,
    identifies.allDigits, letters⟩
  rw [identifies.whole, String.toList_append, String.toList_append, String.toList_ofList,
    List.append_assoc]

theorem Identifies.split_eq (identifies : Identifies text element digits rest)
    (letters : ∀ c ∈ rest.toList, c.isAlpha = true) : split text = .ok (element, rest) := by
  have small : element.number.toNat < UInt32.size := element.number.toNat_lt
  rw [split_of_spells (identifies.spells letters), String.ofList_toList,
    Kind.ofName?_eq_some_iff.mpr rfl, identifies.value, String.ofList_toList]
  dsimp only
  rw [if_pos small, Nat.toUInt32, UInt32.ofNat_toNat]

theorem HeadFault.split_eq (fault : HeadFault text error) : split text = .error error := by
  cases fault with
  | shape misspelt =>
      have notShaped : ¬(Pieces.ofText text.toList).wellShaped = true := by
        intro wellShaped
        exact misspelt _ _ _ (spells_iff.mpr ⟨rfl, wellShaped⟩)
      rw [split]
      exact if_neg notShaped
  | @kind letters digits others spells unknown =>
      have unfound : Kind.ofName? (String.ofList letters) = none := by
        rw [Option.eq_none_iff_forall_ne_some]
        exact fun kind found => unknown kind (Kind.ofName?_eq_some_iff.mp found)
      rw [split_of_spells spells, unfound]
  | number spells large =>
      rw [split_of_spells spells, String.ofList_toList, Kind.ofName?_eq_some_iff.mpr rfl]
      exact if_neg (Nat.not_lt.mpr large)

/-- A text starts with an element or has a fault in front of the terminal. -/
theorem headFault_or_identifies (text : String) :
    (∃ error, HeadFault text error) ∨ ∃ element digits rest,
      Identifies text element digits rest ∧ ∀ c ∈ rest.toList, c.isAlpha = true := by
  by_cases misspelt : ∀ letters digits others, ¬Spells text letters digits others
  · exact .inl ⟨_, .shape misspelt⟩
  · simp only [not_forall, not_not] at misspelt
    obtain ⟨letters, digits, others, spells⟩ := misspelt
    cases named : Kind.ofName? (String.ofList letters) with
    | none =>
        refine .inl ⟨_, .kind spells fun kind sameName => ?_⟩
        rw [Kind.ofName?_eq_some_iff.mpr sameName] at named
        cases named
    | some kind =>
        have sameName := Kind.ofName?_eq_some_iff.mp named
        have sameLetters : kind.name.toList = letters := by
          rw [sameName, String.toList_ofList]
        by_cases large : UInt32.size ≤ Nat.ofDigitChars 10 digits 0
        · rw [← sameLetters] at spells
          exact .inl ⟨_, .number spells large⟩
        · refine .inr ⟨⟨kind, (Nat.ofDigitChars 10 digits 0).toUInt32⟩, digits,
            String.ofList others, ⟨?_, spells.someDigits, spells.allDigits, ?_⟩, ?_⟩
          · rw [← String.toList_inj, spells.whole, String.toList_append, String.toList_append,
              String.toList_ofList, String.toList_ofList, sameLetters, List.append_assoc]
          · exact (toNat_toUInt32_of_lt (Nat.lt_of_not_le large)).symm
          · rw [String.toList_ofList]
            exact spells.allOthers

theorem split_eq_ok_iff :
    split text = .ok (element, rest) ↔
      (∃ digits, Identifies text element digits rest) ∧ ∀ c ∈ rest.toList, c.isAlpha = true := by
  constructor
  · intro splits
    rcases headFault_or_identifies text with ⟨error, fault⟩ | ⟨_, digits, _, identifies, letters⟩
    · rw [fault.split_eq] at splits
      cases splits
    · rw [identifies.split_eq letters] at splits
      cases splits
      exact ⟨⟨digits, identifies⟩, letters⟩
  · rintro ⟨⟨digits, identifies⟩, letters⟩
    exact identifies.split_eq letters

theorem split_eq_error_iff : split text = .error error ↔ HeadFault text error := by
  constructor
  · intro failed
    rcases headFault_or_identifies text with ⟨other, fault⟩ | ⟨_, _, _, identifies, letters⟩
    · rw [fault.split_eq] at failed
      cases failed
      exact fault
    · rw [identifies.split_eq letters] at failed
      cases failed
  · exact HeadFault.split_eq

end Identifier

open Identifier

variable {text rest : String} {digits : List Char} {element : Element} {port : Port}
  {error : ElementError}

/-! ## Reading -/

theorem Port.parse_eq_ok_iff :
    Port.parse text = .ok port ↔
      ∃ digits, Identifies text port.element digits port.terminal.name := by
  simp only [parse, bind_eq_ok_iff, Prod.exists, String.isEmpty_iff]
  constructor
  · rintro ⟨element, rest, splits, read⟩
    by_cases missing : rest = ""
    · rw [if_pos missing] at read
      cases read
    · rw [if_neg missing, Element.port_eq_ok_iff] at read
      obtain ⟨rfl, rfl⟩ := read
      exact (split_eq_ok_iff.mp splits).1
  · intro identifies
    have splits := split_eq_ok_iff.mpr ⟨identifies, port.terminal.isAlpha_name⟩
    refine ⟨port.element, port.terminal.name, splits, ?_⟩
    rw [if_neg port.terminal.name_ne_empty, Element.port_eq_ok_iff]
    exact ⟨rfl, rfl⟩

theorem Port.parse_eq_error_iff : Port.parse text = .error error ↔ PortFault text error := by
  simp only [parse, bind_eq_error_iff, split_eq_error_iff, Prod.exists, String.isEmpty_iff]
  constructor
  · rintro (fault | ⟨element, rest, splits, failed⟩)
    · exact .head fault
    · obtain ⟨⟨digits, identifies⟩, letters⟩ := split_eq_ok_iff.mp splits
      by_cases missing : rest = ""
      · rw [if_pos missing] at failed
        cases failed
        rw [missing] at identifies
        exact .missing identifies
      · rw [if_neg missing, Element.port_eq_error_iff] at failed
        obtain ⟨unknown, rfl⟩ := failed
        exact .terminal identifies missing letters unknown
  · intro fault
    cases fault with
    | head fault =>
        exact .inl fault
    | missing identifies =>
        exact .inr ⟨_, "", split_eq_ok_iff.mpr ⟨⟨_, identifies⟩, nofun⟩, if_pos rfl⟩
    | @terminal element digits rest identifies someRest letters unknown =>
        refine .inr ⟨element, rest, split_eq_ok_iff.mpr ⟨⟨_, identifies⟩, letters⟩, ?_⟩
        rw [if_neg someRest, Element.port_eq_error_iff]
        exact ⟨unknown, rfl⟩

theorem Element.parse_eq_ok_iff :
    Element.parse text = .ok element ↔ ∃ digits, Identifies text element digits "" := by
  simp only [parse, bind_eq_ok_iff, Prod.exists, String.isEmpty_iff]
  constructor
  · rintro ⟨found, rest, splits, read⟩
    by_cases missing : rest = ""
    · rw [if_pos missing] at read
      cases read
      rw [missing] at splits
      exact (split_eq_ok_iff.mp splits).1
    · rw [if_neg missing] at read
      cases read
  · intro identifies
    exact ⟨element, "", split_eq_ok_iff.mpr ⟨identifies, nofun⟩, if_pos rfl⟩

theorem Element.parse_eq_error_iff :
    Element.parse text = .error error ↔ ElementFault text error := by
  simp only [parse, bind_eq_error_iff, split_eq_error_iff, Prod.exists,
    String.isEmpty_iff]
  constructor
  · rintro (fault | ⟨element, rest, splits, failed⟩)
    · exact .head fault
    · obtain ⟨⟨digits, identifies⟩, letters⟩ := split_eq_ok_iff.mp splits
      by_cases missing : rest = ""
      · rw [if_pos missing] at failed
        cases failed
      · rw [if_neg missing] at failed
        cases failed
        exact .more identifies missing letters
  · intro fault
    cases fault with
    | head fault =>
        exact .inl fault
    | @more element digits rest identifies someRest letters =>
        refine .inr ⟨element, rest, split_eq_ok_iff.mpr ⟨⟨_, identifies⟩, letters⟩, ?_⟩
        exact if_neg someRest

/-! ## Writing -/

theorem Element.text_eq (element : Element) :
    element.text =
      element.kind.name ++ String.ofList (Nat.toDigits 10 element.number.toNat) := by
  rw [Element.text, Nat.toString_eq_ofList_toDigits]

theorem Element.identifies_text (element : Element) (rest : String) :
    Identifies (element.text ++ rest) element (Nat.toDigits 10 element.number.toNat) rest where
  whole := by
    rw [text_eq]
  someDigits := Nat.toDigits_ne_nil
  allDigits := fun _ => Nat.isDigit_of_mem_toDigits (by decide) (by decide)
  value := Nat.ofDigitChars_ten_toDigits

theorem Identifier.Identifies.text_eq (identifies : Identifies text element digits rest) :
    element.text = element.kind.name ++ String.ofList (withoutLeadingZeros digits) := by
  rw [Element.text_eq, ← identifies.value,
    toDigits_ofDigitChars identifies.someDigits identifies.allDigits]

namespace Identifier

/-! ## The theorem -/

/-- What reading a text gives, and what is written for what was read. -/
structure ObeysGrammar (text : String) : Prop where
  port : ∀ port : Port, Port.parse text = .ok port ↔
    ∃ digits, Identifies text port.element digits port.terminal.name
  noPort : ∀ error, Port.parse text = .error error ↔ PortFault text error
  portText : ∀ (port : Port) digits, Identifies text port.element digits port.terminal.name →
    port.text =
      port.kind.name ++ String.ofList (withoutLeadingZeros digits) ++ port.terminal.name
  element : ∀ element, Element.parse text = .ok element ↔
    ∃ digits, Identifies text element digits ""
  noElement : ∀ error, Element.parse text = .error error ↔ ElementFault text error
  elementText : ∀ (element : Element) digits, Identifies text element digits "" →
    element.text = element.kind.name ++ String.ofList (withoutLeadingZeros digits)

/-- Every text obeys the grammar, and whatever is written reads back. -/
theorem obeysGrammar :
    (∀ text, ObeysGrammar text) ∧ (∀ port : Port, Port.parse port.text = .ok port) ∧
      ∀ element : Element, Element.parse element.text = .ok element := by
  refine ⟨fun text => ?_, fun port => ?_, fun element => ?_⟩
  · refine ⟨fun port => Port.parse_eq_ok_iff, fun error => Port.parse_eq_error_iff, ?_,
      fun element => Element.parse_eq_ok_iff, fun error => Element.parse_eq_error_iff,
      fun element digits => Identifies.text_eq⟩
    intro port digits identifies
    rw [Port.text, identifies.text_eq, Port.kind]
  · exact Port.parse_eq_ok_iff.mpr ⟨_, port.element.identifies_text port.terminal.name⟩
  · refine Element.parse_eq_ok_iff.mpr ⟨Nat.toDigits 10 element.number.toNat, ?_⟩
    simpa using element.identifies_text ""

/-- Leading zeros do not count, an unknown kind counts before a number that is too large,
and that number before a missing terminal. -/
example :
    (Port.parse "Int007out").map Port.text = .ok "Int7out" ∧
      Port.parse "Foo4294967296" = .error (.unknownKind "Foo") ∧
      Port.parse "Int4294967296out" = .error (.malformed "Int4294967296out") ∧
      Port.parse "Int7é" = .error (.malformed "Int7é") := by
  decide +kernel

end Identifier

end Crossbar
