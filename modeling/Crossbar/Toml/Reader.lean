import Crossbar.Toml.Token

/-!
# Reading settings documents

A document is a list of lines.  Every reader takes what it needs from the front
of a text and returns the rest, or nothing if the text is not as it should be.
-/

namespace Crossbar.Toml

/-! ## Blanks, comments and line ends -/

def isBlank (c : Char) : Bool := c == ' ' || c == '\t'

def skipBlank (text : List Char) : List Char := text.dropWhile isBlank

/-- Characters that no comment and no string on one line may hold. -/
def isControl (c : Char) : Bool := (c.toNat < 0x20 && c != '\t') || c.toNat == 0x7F

/-- Takes the end of a line. -/
def takeLineEnd? : List Char → Option (List Char)
  | '\n' :: rest => some rest
  | '\r' :: '\n' :: rest => some rest
  | _ => none

/-- Drops a comment, if one starts here. -/
def skipComment : List Char → List Char
  | '#' :: rest => rest.dropWhile fun c => !isControl c
  | text => text

/-- Drops the blank rest of a line with its end; the last line has none. -/
def finishLine? (text : List Char) : Option (List Char) :=
  match skipComment (skipBlank text) with
  | [] => some []
  | rest => takeLineEnd? rest

/-- Drops blanks, comments and line ends. -/
def skipLines : Nat → List Char → List Char
  | 0, text => text
  | fuel + 1, text =>
    let rest := skipComment (skipBlank text)
    match takeLineEnd? rest with
    | some rest => skipLines fuel rest
    | none => rest

/-! ## Strings -/

def hexNumber? (digits : List Char) : Option Nat :=
  digits.foldlM (fun value c => (digitOf? 16 c).map (16 * value + ·)) 0

/-- The character with the given code, surrogates excluded. -/
def charOf? (code : Nat) : Option Char :=
  if valid : code.isValidChar then some (Char.ofNatAux code valid) else none

/-- The character an escape of one letter stands for. -/
def escaped? : Char → Option Char
  | 'b' => some '\x08'
  | 't' => some '\t'
  | 'n' => some '\n'
  | 'f' => some '\x0c'
  | 'r' => some '\r'
  | '"' => some '"'
  | '\\' => some '\\'
  | _ => none

/-- The character of an escape, after its backslash. -/
def takeEscape? : List Char → Option (Char × List Char)
  | 'u' :: rest => do
    let digits := rest.take 4
    if digits.length = 4 then
      let c ← (hexNumber? digits).bind charOf?
      return (c, rest.drop 4)
    else none
  | 'U' :: rest => do
    let digits := rest.take 8
    if digits.length = 8 then
      let c ← (hexNumber? digits).bind charOf?
      return (c, rest.drop 8)
    else none
  | c :: rest => (escaped? c).map fun plain => (plain, rest)
  | [] => none

/-- A string on one line in double quotes, after the opening quote. -/
def takeBasic? : Nat → List Char → Option (List Char × List Char)
  | 0, _ => none
  | _, [] => none
  | _, '"' :: rest => some ([], rest)
  | fuel + 1, '\\' :: rest => do
    let (c, rest) ← takeEscape? rest
    let (text, rest) ← takeBasic? fuel rest
    return (c :: text, rest)
  | fuel + 1, c :: rest => do
    if isControl c then none
    else
      let (text, rest) ← takeBasic? fuel rest
      return (c :: text, rest)

/-- A string on one line in single quotes, after the opening quote. -/
def takeLiteral? (text : List Char) : Option (List Char × List Char) :=
  match text.dropWhile fun c => c != '\'' && !isControl c with
  | '\'' :: rest => some (text.takeWhile (fun c => c != '\'' && !isControl c), rest)
  | _ => none

/-- Splits a run of quotes that may close a string of several lines.  Up to two
quotes before the three that close it belong to the string. -/
def closing? (quote : Char) (text : List Char) : Option (List Char × List Char) :=
  let run := (text.takeWhile (· == quote)).length
  if run < 3 then none
  else
    let kept := min (run - 3) 2
    some (List.replicate kept quote, text.drop (kept + 3))

/-- Drops the line end that may follow the opening quotes. -/
def dropFirstLineEnd (text : List Char) : List Char := (takeLineEnd? text).getD text

/-- Drops blanks and line ends after a backslash at the end of a line. -/
def skipFolded : Nat → List Char → List Char
  | 0, text => text
  | fuel + 1, text =>
    match takeLineEnd? (skipBlank text) with
    | some rest => skipFolded fuel rest
    | none => skipBlank text

/-- A string of several lines; escapes only count between double quotes. -/
def takeMultiline? (quote : Char) : Nat → List Char → Option (List Char × List Char)
  | 0, _ => none
  | _, [] => none
  | fuel + 1, c :: rest =>
    match closing? quote (c :: rest), takeLineEnd? (c :: rest) with
    | some (kept, rest), _ => some (kept, rest)
    | none, some rest => do
      let (text, rest) ← takeMultiline? quote fuel rest
      return ('\n' :: text, rest)
    | none, none =>
      if c == '\\' && quote == '"' then
        match takeLineEnd? (skipBlank rest) with
        | some folded => takeMultiline? quote fuel (skipFolded fuel folded)
        | none => do
          let (c, rest) ← takeEscape? rest
          let (text, rest) ← takeMultiline? quote fuel rest
          return (c :: text, rest)
      else if isControl c then none
      else do
        let (text, rest) ← takeMultiline? quote fuel rest
        return (c :: text, rest)

/-- A quoted string of any kind. -/
def takeString? (fuel : Nat) : List Char → Option (List Char × List Char)
  | '"' :: '"' :: '"' :: rest => takeMultiline? '"' fuel (dropFirstLineEnd rest)
  | '\'' :: '\'' :: '\'' :: rest => takeMultiline? '\'' fuel (dropFirstLineEnd rest)
  | '"' :: rest => takeBasic? fuel rest
  | '\'' :: rest => takeLiteral? rest
  | _ => none

/-! ## Keys -/

/-- One part of a key. -/
def takeKeyPart? (fuel : Nat) : List Char → Option (String × List Char)
  | '"' :: rest => (takeBasic? fuel rest).map fun (text, rest) => (String.ofList text, rest)
  | '\'' :: rest => (takeLiteral? rest).map fun (text, rest) => (String.ofList text, rest)
  | text =>
    let name := text.takeWhile isBareKey
    if name.isEmpty then none else some (String.ofList name, text.dropWhile isBareKey)

/-- A key: parts with points and blanks between them. -/
def takeKey? : Nat → List Char → Option (List String × List Char)
  | 0, _ => none
  | fuel + 1, text => do
    let (part, rest) ← takeKeyPart? (fuel + 1) (skipBlank text)
    match skipBlank rest with
    | '.' :: more =>
      let (parts, rest) ← takeKey? fuel more
      return (part :: parts, rest)
    | rest => return ([part], rest)

/-- Keys and values are less than 80 deep. -/
def maxDepth : Nat := 80

/-- Splits a key into the path and its last part. -/
def splitKey? (parts : List String) : Option (List String × String) :=
  if parts.length < maxDepth then parts.getLast?.map fun last => (parts.dropLast, last)
  else none

/-! ## Values -/

/-- A date with a blank before its time of day. -/
def takePlain (text : List Char) : List Char × List Char :=
  let run := text.takeWhile isPlain
  let rest := text.dropWhile isPlain
  match takeDate? run, rest with
  | some [], ' ' :: more =>
    let time := more.takeWhile isPlain
    if time.isEmpty then (run, rest) else (run ++ ' ' :: time, more.dropWhile isPlain)
  | _, _ => (run, rest)

mutual

/-- Reads a value; `depth` arrays and tables are open around it. -/
def takeValue? (fuel depth : Nat) (text : List Char) : Option (Value × List Char) :=
  match fuel, text with
  | fuel + 1, '[' :: rest => do
    if depth + 1 < maxDepth then
      let (items, rest) ← takeItems? fuel (depth + 1) rest
      return (.array items, rest)
    else none
  | fuel + 1, '\x7b' :: rest => do
    if depth + 1 < maxDepth then
      match skipBlank rest with
      | '\x7d' :: rest => return (.table .inline [], rest)
      | rest =>
        let (entries, rest) ← takeEntries? fuel (depth + 1) [] rest
        return (.table .inline entries, rest)
    else none
  | _, c :: rest =>
    if c == '"' || c == '\'' then
      (takeString? fuel (c :: rest)).map fun (text, rest) =>
        (.string (String.ofList text), rest)
    else
      let (run, rest) := takePlain (c :: rest)
      (readPlain? run).map fun value => (value, rest)
  | _, [] => none

/-- Reads the items of an array up to its closing bracket.  A comma may follow the
last of them. -/
def takeItems? (fuel depth : Nat) (text : List Char) : Option (List Value × List Char) :=
  match fuel with
  | 0 => none
  | fuel + 1 =>
    match skipLines fuel text with
    | ']' :: rest => some ([], rest)
    | start => do
      let (item, rest) ← takeValue? fuel depth start
      match skipLines fuel rest with
      | ',' :: rest =>
        let (items, rest) ← takeItems? fuel depth rest
        return (item :: items, rest)
      | ']' :: rest => return ([item], rest)
      | _ => none

/-- Reads the entries of a table on one line up to its closing brace. -/
def takeEntries? (fuel depth : Nat) (entries : Entries) (text : List Char) :
    Option (Entries × List Char) :=
  match fuel with
  | 0 => none
  | fuel + 1 => do
    let (parts, rest) ← takeKey? (fuel + 1) text
    let (path, key) ← splitKey? parts
    match rest with
    | '=' :: rest =>
      let (value, rest) ← takeValue? fuel depth (skipBlank rest)
      let entries ← addValue path key value .inline entries
      match skipBlank rest with
      | ',' :: rest => takeEntries? fuel depth entries rest
      | '\x7d' :: rest => return (entries, rest)
      | _ => none
    | _ => none

end

/-! ## Lines -/

/-- The statement of a line that is not empty. -/
def takeStatement? (fuel : Nat) : List Char → Option (Statement × List Char)
  | '[' :: '[' :: rest => do
    let (parts, rest) ← takeKey? fuel rest
    let (path, key) ← splitKey? parts
    match rest with
    | ']' :: ']' :: rest => return (.nextTable path key, rest)
    | _ => none
  | '[' :: rest => do
    let (parts, rest) ← takeKey? fuel rest
    let (path, key) ← splitKey? parts
    match rest with
    | ']' :: rest => return (.table path key, rest)
    | _ => none
  | text => do
    let (parts, rest) ← takeKey? fuel text
    let (path, key) ← splitKey? parts
    match rest with
    | '=' :: rest =>
      let (value, rest) ← takeValue? fuel 0 (skipBlank rest)
      return (.value path key value, rest)
    | _ => none

/-- The statements of a text, line by line. -/
def statements? : Nat → List Char → Option (List Statement)
  | 0, _ => none
  | fuel + 1, text =>
    match skipBlank text with
    | [] => some []
    | start =>
      match finishLine? start with
      | some rest => statements? fuel rest
      | none => do
        let (statement, rest) ← takeStatement? (fuel + 1) start
        let rest ← finishLine? rest
        let later ← statements? fuel rest
        return statement :: later

/-- Drops one byte order mark. -/
def dropMark : List Char → List Char
  | '\uFEFF' :: rest => rest
  | text => text

/-- Reads a document. -/
def read? (text : String) : Option Entries := do
  let chars := dropMark text.toList
  let statements ← statements? (2 * chars.length + 2) chars
  ofStatements statements

end Crossbar.Toml
