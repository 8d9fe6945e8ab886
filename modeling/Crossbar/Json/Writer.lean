import Crossbar.Decimal.Text
import Crossbar.Json.Basic

/-!
# Writing JSON texts

Values are written compactly for messages and with an indentation of two spaces
for files.  Only quotes, backslashes and control characters are escaped.  A
number that is not finite has no notation and becomes `null`.
-/

namespace Crossbar.Json

def hexDigit (n : Nat) : Char :=
  (Nat.toDigits 16 (n % 16)).headD '0'

/-- A character inside a string. -/
def escape (c : Char) : String :=
  if c == '"' then "\\\""
  else if c == '\\' then "\\\\"
  else if c == '\x08' then "\\b"
  else if c == '\x0c' then "\\f"
  else if c == '\n' then "\\n"
  else if c == '\r' then "\\r"
  else if c == '\t' then "\\t"
  else if c.toNat < 0x20 then
    "\\u00" ++ String.ofList [hexDigit (c.toNat / 16), hexDigit c.toNat]
  else c.toString

def quote (text : String) : String :=
  "\"" ++ String.join (text.toList.map escape) ++ "\""

def writeFloat (x : Float) : String :=
  if x.isFinite then Decimal.Form.file.write x else "null"

mutual

/-- Writes a value without any space. -/
def compact : Json → String
  | .null => "null"
  | .bool value => toString value
  | .int value => toString value
  | .float value => writeFloat value
  | .string text => quote text
  | .array items => "[" ++ compactItems items ++ "]"
  | .object members => "\x7b" ++ compactMembers members ++ "\x7d"
  | .flaw _ => "null"

def compactItems : List Json → String
  | [] => ""
  | [item] => compact item
  | item :: rest => compact item ++ "," ++ compactItems rest

def compactMembers : List (String × Json) → String
  | [] => ""
  | [(name, value)] => quote name ++ ":" ++ compact value
  | (name, value) :: rest =>
    quote name ++ ":" ++ compact value ++ "," ++ compactMembers rest

end

/-- A new line at a level of nesting. -/
def lineBreak (level : Nat) : String :=
  "\n" ++ String.ofList (List.replicate (2 * level) ' ')

mutual

/-- Writes a value with one item or member a line. -/
def prettyAt (level : Nat) : Json → String
  | .array [] => "[]"
  | .array items => "[" ++ prettyItems (level + 1) items ++ lineBreak level ++ "]"
  | .object [] => "\x7b\x7d"
  | .object members =>
    "\x7b" ++ prettyMembers (level + 1) members ++ lineBreak level ++ "\x7d"
  | value => compact value

def prettyItems (level : Nat) : List Json → String
  | [] => ""
  | [item] => lineBreak level ++ prettyAt level item
  | item :: rest =>
    lineBreak level ++ prettyAt level item ++ "," ++ prettyItems level rest

def prettyMembers (level : Nat) : List (String × Json) → String
  | [] => ""
  | [(name, value)] => lineBreak level ++ quote name ++ ": " ++ prettyAt level value
  | (name, value) :: rest =>
    lineBreak level ++ quote name ++ ": " ++ prettyAt level value ++ ","
      ++ prettyMembers level rest

end

def pretty (value : Json) : String := prettyAt 0 value

end Crossbar.Json
