import Crossbar.Proofs.Json.Quotation
import Crossbar.Proofs.Json.Writable
import Mathlib.Data.List.DropRight

/-!
# Values read back

A value that a text can hold is read from its indented text, if its doubles read
back.  The fuel of the reader is measured by the text: a value spends at most twice
the length of its own text, and an item leaves the rest of the fuel to the items
after it.
-/

namespace Crossbar.Json

variable {room fuel depth level : Nat} {value item : Json} {items : List Json}
  {members : List (String × Json)} {name : String} {text rest inside left next : List Char}

/-! ## Blanks -/

theorem skipBlank_cons {c : Char} (notBlank : isBlank c = false) :
    skipBlank (c :: rest) = c :: rest :=
  List.dropWhile_cons_of_neg (by simp [notBlank])

theorem skipBlank_append {blanks : List Char} (allBlank : ∀ c ∈ blanks, isBlank c = true) :
    skipBlank (blanks ++ rest) = skipBlank rest :=
  List.dropWhile_append_of_pos allBlank

theorem skipBlank_skipBlank (text : List Char) : skipBlank (skipBlank text) = skipBlank text :=
  List.dropWhile_idempotent ..

/-- Blanks ahead of a value are passed over. -/
theorem readValue_skipBlank (fuel depth : Nat) (text : List Char) :
    readValue fuel depth (skipBlank text) = readValue fuel depth text := by
  unfold readValue
  rw [skipBlank_skipBlank]

theorem readMembers_skipBlank (fuel depth : Nat) (text : List Char) :
    readMembers fuel depth (skipBlank text) = readMembers fuel depth text := by
  unfold readMembers
  rw [skipBlank_skipBlank]

/-! ## Values without parts -/

theorem readValue_of_readNumber (read : readNumber text = (value, left))
    (sound : value ≠ .flaw .broken) (fuel depth : Nat) :
    readValue (fuel + 1) depth text = (value, left) := by
  obtain ⟨c, more, rfl, starts⟩ := exists_head_of_readNumber read sound
  have unlikeNumber : ∀ letter ∈ [' ', '\t', '\n', '\r', 'n', 't', 'f', '"', '[', '\x7b'],
      ¬(letter.isDigit = true ∨ letter = '-') := by
    simp
  have notBlank : isBlank c = false := by
    rw [Bool.eq_false_iff]
    intro blank
    simp only [isBlank, Bool.or_eq_true, beq_iff_eq] at blank
    rcases blank with ((rfl | rfl) | rfl) | rfl <;> exact unlikeNumber _ (by decide) starts
  unfold readValue
  rw [skipBlank_cons notBlank]
  dsimp only
  split
  case h_7 => exact read
  all_goals exact absurd starts (unlikeNumber _ (by decide))

theorem readValue_string (fuel depth : Nat) (name : String) (rest : List Char) :
    readValue (fuel + 1) depth ('"' :: (escapes name ++ '"' :: rest)) = (.string name, rest) := by
  have ahead : skipBlank ('"' :: (escapes name ++ '"' :: rest)) =
      '"' :: (escapes name ++ '"' :: rest) := skipBlank_cons rfl
  simp only [readValue, ahead, readString_escapes, text?_ofText]

theorem readValue_null (fuel depth : Nat) (rest : List Char) :
    readValue (fuel + 1) depth ('n' :: 'u' :: 'l' :: 'l' :: rest) = (.null, rest) :=
  rfl

theorem readValue_true (fuel depth : Nat) (rest : List Char) :
    readValue (fuel + 1) depth ('t' :: 'r' :: 'u' :: 'e' :: rest) = (.bool true, rest) :=
  rfl

theorem readValue_false (fuel depth : Nat) (rest : List Char) :
    readValue (fuel + 1) depth ('f' :: 'a' :: 'l' :: 's' :: 'e' :: rest) = (.bool false, rest) :=
  rfl

theorem readValue_emptyArray (shallow : depth < maxDepth) (fuel : Nat) (rest : List Char) :
    readValue (fuel + 1) depth ('[' :: ']' :: rest) = (.array [], rest) := by
  change (limitDepth depth (.array []), rest) = _
  rw [limitDepth, if_pos shallow]

theorem readValue_emptyObject (shallow : depth < maxDepth) (fuel : Nat) (rest : List Char) :
    readValue (fuel + 1) depth ('\x7b' :: '\x7d' :: rest) = (.object [], rest) := by
  change (limitDepth depth (.object []), rest) = _
  rw [limitDepth, if_pos shallow]

/-! ## Arrays -/

/-- The mark after an item tells how the items go on. -/
theorem readItems_succ (read : readValue fuel depth text = (item, left)) :
    readItems (fuel + 1) depth text =
      match skipBlank left with
      | ',' :: next => (item :: (readItems fuel depth next).1, (readItems fuel depth next).2)
      | ']' :: rest => ([item], rest)
      | _ => ([item, .flaw .broken], []) := by
  rewrite [readItems, read]
  rfl

theorem readItems_last (read : readValue fuel depth text = (item, left))
    (ends : skipBlank left = ']' :: rest) :
    readItems (fuel + 1) depth text = ([item], rest) := by
  rewrite [readItems_succ read, ends]
  rfl

theorem readItems_more (read : readValue fuel depth text = (item, left))
    (continues : skipBlank left = ',' :: next)
    (others : readItems fuel depth next = (items, rest)) :
    readItems (fuel + 1) depth text = (item :: items, rest) := by
  rw [readItems_succ read, continues]
  change (item :: (readItems fuel depth next).1, (readItems fuel depth next).2) = _
  rw [others]

theorem readItems_skipBlank (fuel depth : Nat) (text : List Char) :
    readItems fuel depth (skipBlank text) = readItems fuel depth text := by
  cases fuel with
  | zero => rfl
  | succ fuel =>
      have read : readValue fuel depth text = (_, _) := rfl
      rw [readItems_succ read, readItems_succ ((readValue_skipBlank fuel depth text).trans read)]

/-- A closing bracket starts no value. -/
theorem readItems_of_bracket (closed : skipBlank text = ']' :: rest) (fuel depth : Nat) :
    (readItems fuel depth text).1.head? = some (.flaw .broken) := by
  cases fuel with
  | zero => rfl
  | succ fuel =>
      have broken : readValue fuel depth text = (.flaw .broken, []) := by
        rw [← readValue_skipBlank, closed]
        cases fuel <;> rfl
      rw [readItems_succ broken]
      rfl

/-- Items whose first has no flaw do not start with the closing bracket. -/
theorem readValue_array (shallow : depth < maxDepth)
    (read : readItems fuel (depth + 1) inside = (item :: items, left))
    (sound : item ≠ .flaw .broken) :
    readValue (fuel + 1) depth ('[' :: inside) = (.array (item :: items), left) := by
  have someItem (more : List Char) : skipBlank inside ≠ ']' :: more := by
    intro closed
    have broken := readItems_of_bracket closed fuel (depth + 1)
    rw [read] at broken
    exact sound (Option.some.inj broken)
  have ahead : skipBlank ('[' :: inside) = '[' :: inside := skipBlank_cons rfl
  simp only [readValue, ahead]
  rw [readItems_skipBlank, read, limitDepth, if_pos shallow]

/-! ## Objects -/

/-- The name of a member with the colon after it. -/
def label (name : String) : List Char := '"' :: (escapes name ++ ['"', ':', ' '])

theorem label_append (name : String) (inside : List Char) :
    label name ++ inside = '"' :: (escapes name ++ '"' :: ':' :: ' ' :: inside) := by
  simp [label]

/-- The value of a member may have a space ahead of it. -/
theorem readValue_space (fuel depth : Nat) (inside : List Char) :
    readValue fuel depth (' ' :: inside) = readValue fuel depth inside := by
  rw [← readValue_skipBlank fuel depth inside, ← readValue_skipBlank]
  rfl

theorem readMembers_last (read : readValue fuel depth inside = (value, left))
    (ends : skipBlank left = '\x7d' :: rest) :
    readMembers (fuel + 1) depth (label name ++ inside) = ([(name, value)], rest) := by
  unfold readMembers
  rw [label_append, skipBlank_cons rfl]
  simp only [readString_escapes, skipBlank_cons (rfl : isBlank ':' = false), readValue_space, read,
    text?_ofText, ends]

theorem readMembers_more (read : readValue fuel depth inside = (value, left))
    (continues : skipBlank left = ',' :: next)
    (others : readMembers fuel depth next = (members, rest)) :
    readMembers (fuel + 1) depth (label name ++ inside) = ((name, value) :: members, rest) := by
  unfold readMembers
  rw [label_append, skipBlank_cons rfl]
  simp only [readString_escapes, skipBlank_cons (rfl : isBlank ':' = false), readValue_space, read,
    text?_ofText, continues, others]

/-- A closing brace starts no member. -/
theorem readMembers_of_brace (closed : skipBlank text = '\x7d' :: rest) (fuel depth : Nat) :
    readMembers fuel depth text = ([("", .flaw .broken)], []) := by
  rw [← readMembers_skipBlank, closed]
  cases fuel <;> rfl

theorem readValue_object {member : String × Json} (shallow : depth < maxDepth)
    (read : readMembers fuel (depth + 1) inside = (member :: members, left))
    (sound : member.2 ≠ .flaw .broken) :
    readValue (fuel + 1) depth ('\x7b' :: inside) = (.object (member :: members), left) := by
  have someMember (more : List Char) : skipBlank inside ≠ '\x7d' :: more := by
    intro closed
    rw [readMembers_of_brace closed] at read
    cases read
    exact sound rfl
  have ahead : skipBlank ('\x7b' :: inside) = '\x7b' :: inside := skipBlank_cons rfl
  simp only [readValue, ahead]
  rw [readMembers_skipBlank, read, limitDepth, if_pos shallow]

/-! ## Characters of an indented text -/

theorem toList_lineBreak (level : Nat) :
    (lineBreak level).toList = '\n' :: List.replicate (2 * level) ' ' := by
  simp [lineBreak]

theorem skipBlank_lineBreak (level : Nat) (rest : List Char) :
    skipBlank ((lineBreak level).toList ++ rest) = skipBlank rest := by
  apply skipBlank_append
  intro c member
  rw [toList_lineBreak, List.mem_cons, List.mem_replicate] at member
  rcases member with rfl | ⟨_, rfl⟩ <;> rfl

theorem endsNumber_lineBreak (level : Nat) (rest : List Char) :
    EndsNumber ((lineBreak level).toList ++ rest) := by
  rw [toList_lineBreak]
  exact endsNumber_cons rfl

theorem toList_prettyAt_array (level : Nat) (item : Json) (items : List Json) :
    (prettyAt level (.array (item :: items))).toList =
      '[' :: ((prettyItems (level + 1) (item :: items)).toList
        ++ ((lineBreak level).toList ++ [']'])) := by
  change ("[" ++ prettyItems (level + 1) (item :: items) ++ lineBreak level ++ "]").toList = _
  simp

theorem toList_prettyAt_object (level : Nat) (member : String × Json)
    (members : List (String × Json)) :
    (prettyAt level (.object (member :: members))).toList =
      '\x7b' :: ((prettyMembers (level + 1) (member :: members)).toList
        ++ ((lineBreak level).toList ++ ['\x7d'])) := by
  change ("\x7b" ++ prettyMembers (level + 1) (member :: members) ++ lineBreak level
    ++ "\x7d").toList = _
  simp

theorem toList_prettyItems_last (level : Nat) (item : Json) :
    (prettyItems level [item]).toList =
      (lineBreak level).toList ++ (prettyAt level item).toList :=
  String.toList_append

theorem toList_prettyItems_more (level : Nat) (item second : Json) (items : List Json) :
    (prettyItems level (item :: second :: items)).toList =
      (lineBreak level).toList ++ ((prettyAt level item).toList
        ++ ',' :: (prettyItems level (second :: items)).toList) := by
  change (lineBreak level ++ prettyAt level item ++ ","
    ++ prettyItems level (second :: items)).toList = _
  simp

theorem toList_prettyMembers_last (level : Nat) (name : String) (value : Json) :
    (prettyMembers level [(name, value)]).toList =
      (lineBreak level).toList ++ (label name ++ (prettyAt level value).toList) := by
  change (lineBreak level ++ quote name ++ ": " ++ prettyAt level value).toList = _
  simp [toList_quote, label]

theorem toList_prettyMembers_more (level : Nat) (name : String) (value : Json)
    (second : String × Json) (members : List (String × Json)) :
    (prettyMembers level ((name, value) :: second :: members)).toList =
      (lineBreak level).toList ++ (label name ++ ((prettyAt level value).toList
        ++ ',' :: (prettyMembers level (second :: members)).toList)) := by
  change (lineBreak level ++ quote name ++ ": " ++ prettyAt level value ++ ","
    ++ prettyMembers level (second :: members)).toList = _
  simp [toList_quote, label]

/-! ## Reading an indented text -/

/-- A value is read from its indented text, if it stands low enough and nothing
after it could go on with a number. -/
def ReadsFromText (room : Nat) (value : Json) : Prop :=
  ∀ (fuel depth level : Nat) (rest : List Char),
    2 * (prettyAt level value).toList.length ≤ fuel + 2 → depth + room ≤ maxDepth →
    EndsNumber rest →
    readValue (fuel + 1) depth ((prettyAt level value).toList ++ rest) = (value, rest)

theorem readItems_prettyItems (each : ∀ item ∈ items, ReadsFromText room item)
    (someItem : items ≠ []) (shallow : depth + room ≤ maxDepth)
    (enough : 2 * (prettyItems level items).toList.length ≤ fuel) (outer : Nat)
    (rest : List Char) :
    readItems fuel depth
      ((prettyItems level items).toList ++ ((lineBreak outer).toList ++ ']' :: rest)) =
      (items, rest) := by
  induction items generalizing fuel with
  | nil => exact absurd rfl someItem
  | cons item items inductionHypothesis =>
      have itemReads := each item List.mem_cons_self
      cases items with
      | nil =>
          rw [toList_prettyItems_last, List.length_append, toList_lineBreak, List.length_cons]
            at enough
          obtain ⟨fuel, rfl⟩ := Nat.exists_eq_add_of_le' (by omega : 2 ≤ fuel)
          rw [toList_prettyItems_last, List.append_assoc, ← readItems_skipBlank,
            skipBlank_lineBreak, readItems_skipBlank]
          apply readItems_last (itemReads _ _ _ _ (by omega) shallow (endsNumber_lineBreak outer _))
          rw [skipBlank_lineBreak, skipBlank_cons rfl]
      | cons second items =>
          rw [toList_prettyItems_more, List.length_append, List.length_append, List.length_cons,
            toList_lineBreak, List.length_cons] at enough
          obtain ⟨fuel, rfl⟩ := Nat.exists_eq_add_of_le' (by omega : 2 ≤ fuel)
          rw [toList_prettyItems_more, List.append_assoc, List.append_assoc, List.cons_append,
            ← readItems_skipBlank, skipBlank_lineBreak, readItems_skipBlank]
          apply readItems_more (itemReads _ _ _ _ (by omega) shallow (endsNumber_cons rfl))
            (skipBlank_cons rfl)
          exact inductionHypothesis (fun other member => each other (List.mem_cons_of_mem _ member))
            (List.cons_ne_nil _ _) (by omega)

theorem readMembers_prettyMembers (each : ∀ member ∈ members, ReadsFromText room member.2)
    (someMember : members ≠ []) (shallow : depth + room ≤ maxDepth)
    (enough : 2 * (prettyMembers level members).toList.length ≤ fuel) (outer : Nat)
    (rest : List Char) :
    readMembers fuel depth
      ((prettyMembers level members).toList ++ ((lineBreak outer).toList ++ '\x7d' :: rest)) =
      (members, rest) := by
  induction members generalizing fuel with
  | nil => exact absurd rfl someMember
  | cons member members inductionHypothesis =>
      obtain ⟨name, value⟩ := member
      have valueReads : ReadsFromText room value := each (name, value) List.mem_cons_self
      cases members with
      | nil =>
          rw [toList_prettyMembers_last, List.length_append, List.length_append, toList_lineBreak,
            List.length_cons] at enough
          obtain ⟨fuel, rfl⟩ := Nat.exists_eq_add_of_le' (by omega : 2 ≤ fuel)
          rw [toList_prettyMembers_last, List.append_assoc, List.append_assoc,
            ← readMembers_skipBlank, skipBlank_lineBreak, readMembers_skipBlank]
          apply readMembers_last
            (valueReads _ _ _ _ (by omega) shallow (endsNumber_lineBreak outer _))
          rw [skipBlank_lineBreak, skipBlank_cons rfl]
      | cons second members =>
          rw [toList_prettyMembers_more, List.length_append, List.length_append, List.length_append,
            List.length_cons, toList_lineBreak, List.length_cons] at enough
          obtain ⟨fuel, rfl⟩ := Nat.exists_eq_add_of_le' (by omega : 2 ≤ fuel)
          rw [toList_prettyMembers_more, List.append_assoc, List.append_assoc, List.append_assoc,
            List.cons_append, ← readMembers_skipBlank, skipBlank_lineBreak, readMembers_skipBlank]
          apply readMembers_more (valueReads _ _ _ _ (by omega) shallow (endsNumber_cons rfl))
            (skipBlank_cons rfl)
          exact inductionHypothesis (fun other member => each other (List.mem_cons_of_mem _ member))
            (List.cons_ne_nil _ _) (by omega)

theorem readsFromText_of_readNumber {written : String}
    (isText : ∀ level, prettyAt level value = written)
    (read : readNumber written.toList = (value, [])) (sound : value ≠ .flaw .broken) :
    ReadsFromText room value := by
  intro fuel depth level rest _ _ ends
  rw [isText]
  exact readValue_of_readNumber (readNumber_append ends read sound) sound fuel depth

/-- Every value that a text can hold is read from its indented text. -/
theorem Writable.readsFromText (writable : Writable ReadsBack room value) :
    ReadsFromText room value := by
  induction writable with
  | null =>
      intro fuel depth level rest _ _ _
      have written : (prettyAt level .null).toList = ['n', 'u', 'l', 'l'] := by
        change "null".toList = _
        simp
      rw [written]
      exact readValue_null fuel depth rest
  | bool _ value =>
      intro fuel depth level rest _ _ _
      cases value with
      | false =>
          have written : (prettyAt level (.bool false)).toList = ['f', 'a', 'l', 's', 'e'] := by
            change "false".toList = _
            simp
          rw [written]
          exact readValue_false fuel depth rest
      | true =>
          have written : (prettyAt level (.bool true)).toList = ['t', 'r', 'u', 'e'] := by
            change "true".toList = _
            simp
          rw [written]
          exact readValue_true fuel depth rest
  | int isWord =>
      exact readsFromText_of_readNumber (fun _ => rfl) (readNumber_toString isWord) (by rintro ⟨⟩)
  | float readsBack => exact readsFromText_of_readNumber (fun _ => rfl) readsBack (by rintro ⟨⟩)
  | string _ text =>
      intro fuel depth level rest _ _ _
      have written : (prettyAt level (.string text)).toList = '"' :: (escapes text ++ ['"']) :=
        toList_quote text
      rw [written, List.cons_append, List.append_assoc]
      exact readValue_string fuel depth text rest
  | @array inner items each inductionHypothesis =>
      intro fuel depth level rest enough shallow _
      cases items with
      | nil =>
          have written : (prettyAt level (.array [])).toList = ['[', ']'] := by simp [prettyAt]
          rw [written]
          exact readValue_emptyArray (by omega) fuel rest
      | cons item items =>
          rw [toList_prettyAt_array, List.length_cons, List.length_append] at enough
          rw [toList_prettyAt_array, List.cons_append, List.append_assoc, List.append_assoc]
          exact readValue_array (by omega) (readItems_prettyItems inductionHypothesis
            (List.cons_ne_nil _ _) (by omega) (by omega) level rest)
            ((each item List.mem_cons_self).ne_flaw .broken)
  | @object inner members each inductionHypothesis =>
      intro fuel depth level rest enough shallow _
      cases members with
      | nil =>
          have written : (prettyAt level (.object [])).toList = ['\x7b', '\x7d'] := by
            simp [prettyAt]
          rw [written]
          exact readValue_emptyObject (by omega) fuel rest
      | cons member members =>
          rw [toList_prettyAt_object, List.length_cons, List.length_append] at enough
          rw [toList_prettyAt_object, List.cons_append, List.append_assoc, List.append_assoc]
          exact readValue_object (by omega) (readMembers_prettyMembers inductionHypothesis
            (List.cons_ne_nil _ _) (by omega) (by omega) level rest)
            ((each member List.mem_cons_self).ne_flaw .broken)

/-- A value is read from its indented text and nothing is left. -/
theorem read_pretty (writable : Writable ReadsBack maxDepth value) :
    read (pretty value) = (value, []) := by
  have reads := writable.readsFromText (2 * (pretty value).toList.length + 1) 0 0 []
    (by rw [pretty]; omega) (Nat.le_of_eq (Nat.zero_add _)) endsNumber_nil
  rw [List.append_nil] at reads
  exact reads

/-- Decoding the indented text of a value is decoding the value. -/
theorem decodeText_pretty {α : Type} (decode : Json → Except Fault α)
    (writable : Writable ReadsBack maxDepth value) :
    decodeText decode (pretty value) = decode value := by
  unfold decodeText
  simp only [read_pretty writable]
  cases decode value with
  | ok decoded => rfl
  | error fault => rfl

end Crossbar.Json
