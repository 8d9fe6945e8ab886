import Crossbar.Decimal.Reading
import Crossbar.Json.Basic

/-!
# Reading JSON texts

The notation is strict: no byte order mark, no comments, no trailing commas, no
leading zeros, no raw control characters in strings.  Every function returns
what it read and the rest of the text; where the notation breaks the rest is
empty.  Text after the value is left for the caller to judge.
-/

namespace Crossbar.Json

/-- Deepest nesting of arrays and objects. -/
def maxDepth : Nat := 127

def isBlank (c : Char) : Bool :=
  c == ' ' || c == '\t' || c == '\n' || c == '\r'

def skipBlank (text : List Char) : List Char := text.dropWhile isBlank

/-- The value of a decimal digit. -/
def digitValue (c : Char) : Nat := c.toNat - '0'.toNat

def hexValue? (c : Char) : Option Nat :=
  if c.isDigit then some (digitValue c)
  else if 'a' ≤ c ∧ c ≤ 'f' then some (c.toNat - 'a'.toNat + 10)
  else if 'A' ≤ c ∧ c ≤ 'F' then some (c.toNat - 'A'.toNat + 10)
  else none

/-! ## Numbers -/

/-- The digits at the front of a text and the rest. -/
def takeDigits (text : List Char) : List Nat × List Char :=
  ((text.takeWhile Char.isDigit).map digitValue, text.dropWhile Char.isDigit)

/-- The point and the digits after it, if there is a point. -/
def takeFraction : List Char → Option (List Nat × List Char)
  | '.' :: rest =>
    match takeDigits rest with
    | ([], _) => none
    | (digits, rest) => some (digits, rest)
  | text => some ([], text)

/-- The sign of an exponent, plus if none is written. -/
def takeSign : List Char → Bool × List Char
  | '-' :: rest => (true, rest)
  | '+' :: rest => (false, rest)
  | text => (false, text)

/-- The exponent, if there is one. -/
def takeExponent : List Char → Option (Option Int × List Char)
  | c :: rest =>
    if c == 'e' || c == 'E' then
      let (negative, rest) := takeSign rest
      match takeDigits rest with
      | ([], _) => none
      | (digits, rest) =>
        let size : Int := Decimal.ofDigits digits
        some (some (if negative then -size else size), rest)
    else some (none, c :: rest)
  | [] => some (none, [])

def leadingZero : List Nat → Bool
  | 0 :: _ :: _ => true
  | _ => false

/-- A number with a point or an exponent, or too long for a whole number. -/
def floatValue (negative : Bool) (numeral : Decimal.Numeral) : Json :=
  match numeral.scaled? with
  | some value => .float (if negative then -value else value)
  | none => .flaw .range

/-- A whole number keeps its exact value within 64 bits.  Negative zero is not
a whole number. -/
def wholeValue (negative : Bool) (digits : List Nat) : Json :=
  let size := Decimal.ofDigits digits
  if negative then
    if size == 0 || (Decimal.signed64? (-size)).isNone then
      floatValue true ⟨digits, [], 0⟩
    else .int (-size)
  else if size < UInt64.size then .int size
  else floatValue false ⟨digits, [], 0⟩

/-- A number after its sign. -/
def readMagnitude (negative : Bool) (text : List Char) : Json × List Char :=
  match takeDigits text with
  | ([], _) => (.flaw .broken, [])
  | (digits, rest) =>
    if leadingZero digits then (.flaw .broken, [])
    else match takeFraction rest with
      | none => (.flaw .broken, [])
      | some (fraction, rest) =>
        match takeExponent rest with
        | none => (.flaw .broken, [])
        | some (exponent, rest) =>
          if fraction.isEmpty && exponent.isNone then (wholeValue negative digits, rest)
          else (floatValue negative ⟨digits, fraction, exponent.getD 0⟩, rest)

def readNumber : List Char → Json × List Char
  | '-' :: rest => readMagnitude true rest
  | text => readMagnitude false text

/-! ## Strings -/

def hexUnit? (a b c d : Char) : Option Nat :=
  match hexValue? a, hexValue? b, hexValue? c, hexValue? d with
  | some a, some b, some c, some d => some (((a * 16 + b) * 16 + c) * 16 + d)
  | _, _, _, _ => none

/-- The character an escape of one letter stands for. -/
def escaped? : Char → Option Char
  | '"' => some '"'
  | '\\' => some '\\'
  | '/' => some '/'
  | 'b' => some '\x08'
  | 'f' => some '\x0c'
  | 'n' => some '\n'
  | 'r' => some '\r'
  | 't' => some '\t'
  | _ => none

/-- What has been read of a string: its characters in reverse, a first half of a
surrogate pair that waits for the second, and whether every half found one. -/
structure Partial where
  reversed : List Char
  half : Option Nat
  paired : Bool
  deriving Repr

namespace Partial

def start : Partial := ⟨[], none, true⟩

def push (done : Partial) (c : Char) : Partial :=
  ⟨c :: done.reversed, none, done.paired && done.half.isNone⟩

/-- Adds a 16-bit unit written as an escape. -/
def pushUnit (done : Partial) (unit : Nat) : Partial :=
  if 0xD800 ≤ unit ∧ unit < 0xDC00 then
    ⟨done.reversed, some unit, done.paired && done.half.isNone⟩
  else if 0xDC00 ≤ unit ∧ unit < 0xE000 then
    match done.half with
    | some high =>
      let code := 0x10000 + (high - 0xD800) * 0x400 + (unit - 0xDC00)
      ⟨Char.ofNat code :: done.reversed, none, done.paired⟩
    | none => ⟨done.reversed, none, false⟩
  else done.push (Char.ofNat unit)

def text? (done : Partial) : Option String :=
  if done.paired && done.half.isNone then some (String.ofList done.reversed.reverse)
  else none

end Partial

/-- Reads a string after its opening quote.  Nothing is returned if the notation
breaks. -/
def readString (done : Partial) : List Char → Option (Partial × List Char)
  | [] => none
  | '"' :: rest => some (done, rest)
  | '\\' :: 'u' :: a :: b :: c :: d :: rest =>
    match hexUnit? a b c d with
    | some unit => readString (done.pushUnit unit) rest
    | none => none
  | '\\' :: c :: rest =>
    match escaped? c with
    | some plain => readString (done.push plain) rest
    | none => none
  | c :: rest =>
    if c == '\\' || c.toNat < 0x20 then none else readString (done.push c) rest

/-! ## Values -/

/-- A container below the deepest level counts as one flaw. -/
def limitDepth (depth : Nat) (value : Json) : Json :=
  if depth < maxDepth then value
  else if value.skippable then .flaw .depth
  else .flaw .broken

mutual

/-- Reads a value; `depth` containers are open around it. -/
def readValue (fuel depth : Nat) (text : List Char) : Json × List Char :=
  match fuel, skipBlank text with
  | 0, _ => (.flaw .broken, [])
  | _, [] => (.flaw .broken, [])
  | fuel + 1, c :: rest =>
    match c, rest with
    | 'n', 'u' :: 'l' :: 'l' :: rest => (.null, rest)
    | 't', 'r' :: 'u' :: 'e' :: rest => (.bool true, rest)
    | 'f', 'a' :: 'l' :: 's' :: 'e' :: rest => (.bool false, rest)
    | '"', rest =>
      match readString .start rest with
      | some (done, rest) =>
        match done.text? with
        | some text => (.string text, rest)
        | none => (.flaw .text, rest)
      | none => (.flaw .broken, [])
    | '[', rest =>
      match skipBlank rest with
      | ']' :: rest => (limitDepth depth (.array []), rest)
      | rest =>
        let (items, rest) := readItems fuel (depth + 1) rest
        (limitDepth depth (.array items), rest)
    | '\x7b', rest =>
      match skipBlank rest with
      | '\x7d' :: rest => (limitDepth depth (.object []), rest)
      | rest =>
        let (members, rest) := readMembers fuel (depth + 1) rest
        (limitDepth depth (.object members), rest)
    | c, rest => readNumber (c :: rest)

/-- Reads the items of an array up to its closing bracket. -/
def readItems (fuel depth : Nat) (text : List Char) : List Json × List Char :=
  match fuel with
  | 0 => ([.flaw .broken], [])
  | fuel + 1 =>
    let (item, rest) := readValue fuel depth text
    match skipBlank rest with
    | ',' :: rest =>
      let (items, rest) := readItems fuel depth rest
      (item :: items, rest)
    | ']' :: rest => ([item], rest)
    | _ => ([item, .flaw .broken], [])

/-- Reads the members of an object up to its closing brace. -/
def readMembers (fuel depth : Nat) (text : List Char) : List (String × Json) × List Char :=
  match fuel, skipBlank text with
  | fuel + 1, '"' :: rest =>
    match readString .start rest with
    | none => ([("", .flaw .broken)], [])
    | some (done, rest) =>
      match skipBlank rest with
      | ':' :: rest =>
        let (value, rest) := readValue fuel depth rest
        let member := match done.text? with
          | some name => (name, value)
          | none => ("", if value.skippable then .flaw .name else .flaw .broken)
        match skipBlank rest with
        | ',' :: rest =>
          let (members, rest) := readMembers fuel depth rest
          (member :: members, rest)
        | '\x7d' :: rest => ([member], rest)
        | _ => ([member, ("", .flaw .broken)], [])
      | _ => ([(done.text?.getD "", .flaw .broken)], [])
  | _, _ => ([("", .flaw .broken)], [])

end

/-- Reads a text to a value and the text after it.  Every step of the reader
that does not end it takes a character, or opens a container whose bracket was
taken, so twice the length of the text is fuel enough. -/
def read (text : String) : Json × List Char :=
  let chars := text.toList
  readValue (2 * chars.length + 2) 0 chars

end Crossbar.Json
