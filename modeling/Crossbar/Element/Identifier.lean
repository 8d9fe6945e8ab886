import Crossbar.Element.Basic

/-!
# Identifiers

An identifier is the name of a kind, a decimal number and, for a port, the name
of a terminal: `Int0`, `Int0out`.  Kind and terminal are ASCII letters and the
number is below `2 ^ 32`, with any number of leading zeros.

An identifier can be wrong in several ways at once.  Its shape counts first,
then the kind, then the size of the number, then the terminal.
-/

namespace Crossbar.Identifier

/-- Letters, digits and letters. -/
structure Pieces where
  letters : List Char
  digits : List Char
  rest : List Char
  deriving DecidableEq, Repr

/-- Splits a text into its longest run of letters, the longest run of digits
after it, and the rest. -/
def Pieces.ofText (text : List Char) : Pieces :=
  let afterLetters := text.dropWhile Char.isAlpha
  ⟨text.takeWhile Char.isAlpha, afterLetters.takeWhile Char.isDigit,
    afterLetters.dropWhile Char.isDigit⟩

/-- Letters and digits are there, and nothing but letters follows. -/
def Pieces.wellShaped (pieces : Pieces) : Bool :=
  !pieces.letters.isEmpty && !pieces.digits.isEmpty && pieces.rest.all Char.isAlpha

/-- The element an identifier starts with, and the name after its number. -/
def split (text : String) : Except ElementError (Element × String) :=
  let pieces := Pieces.ofText text.toList
  if pieces.wellShaped then
    let name := String.ofList pieces.letters
    match Kind.ofName? name with
    | none => .error (.unknownKind name)
    | some kind =>
      let number := Nat.ofDigitChars 10 pieces.digits 0
      if number < UInt32.size then
        .ok (⟨kind, number.toUInt32⟩, String.ofList pieces.rest)
      else .error (.malformed text)
  else .error (.malformed text)

end Identifier

/-- Reads the identifier of an element. -/
def Element.parse (text : String) : Except ElementError Element := do
  let (element, rest) ← Identifier.split text
  if rest.isEmpty then return element else throw (.malformed text)

/-- Reads the identifier of a port. -/
def Port.parse (text : String) : Except ElementError Port := do
  let (element, rest) ← Identifier.split text
  if rest.isEmpty then throw (.malformed text) else element.port rest

/-- Reads the name of a kind. -/
def Kind.parse (name : String) : Except ElementError Kind :=
  match Kind.ofName? name with
  | some kind => .ok kind
  | none => .error (.unknownKind name)

end Crossbar
