/-!
# Diagnostics

A diagnostic tells a person what went wrong: how severe it is, a code that
names the kind of problem, a message, what the problem is about, and notes and
suggestions.
-/

namespace Crossbar

/-- How severe a diagnostic is, from least to most. -/
inductive Severity where
  | help
  | note
  | warning
  | error
  deriving DecidableEq, Repr

namespace Severity

/-- The place in the order of severities. -/
def rank : Severity → Nat
  | .help => 0
  | .note => 1
  | .warning => 2
  | .error => 3

instance : Ord Severity where
  compare a b := compare a.rank b.rank

def isError (severity : Severity) : Bool := severity == .error

def text : Severity → String
  | .help => "help"
  | .note => "note"
  | .warning => "warning"
  | .error => "error"

/-- The name under which a severity is stored. -/
def name : Severity → String
  | .help => "Help"
  | .note => "Note"
  | .warning => "Warning"
  | .error => "Error"

def all : List Severity := [.help, .note, .warning, .error]

end Severity

/-- The part of the system that a code belongs to. -/
inductive Category where
  | routing
  | codec
  | catalog
  | config
  deriving DecidableEq, Repr

namespace Category

def letter : Category → Char
  | .routing => 'R'
  | .codec => 'X'
  | .catalog => 'K'
  | .config => 'G'

def name : Category → String
  | .routing => "Routing"
  | .codec => "Codec"
  | .catalog => "Catalog"
  | .config => "Config"

def all : List Category := [.routing, .codec, .catalog, .config]

end Category

/-- The kind of problem a diagnostic reports. -/
structure Code where
  category : Category
  number : UInt16
  deriving DecidableEq, Repr

/-- A code is written as its letter and its number with at least three digits. -/
def Code.text (code : Code) : String :=
  let digits := toString code.number.toNat
  code.category.letter.toString
    ++ String.ofList (List.replicate (3 - digits.length) '0') ++ digits

structure Diagnostic where
  severity : Severity
  code : Code
  message : String
  subject : Option String
  notes : List String
  help : List String
  deriving DecidableEq, Repr

namespace Diagnostic

def ofSeverity (severity : Severity) (code : Code) (message : String) : Diagnostic :=
  ⟨severity, code, message, none, [], []⟩

def error (code : Code) (message : String) : Diagnostic :=
  ofSeverity .error code message

def warning (code : Code) (message : String) : Diagnostic :=
  ofSeverity .warning code message

def withSubject (diagnostic : Diagnostic) (subject : String) : Diagnostic :=
  { diagnostic with subject := some subject }

def withNote (diagnostic : Diagnostic) (note : String) : Diagnostic :=
  { diagnostic with notes := diagnostic.notes ++ [note] }

def withHelp (diagnostic : Diagnostic) (help : String) : Diagnostic :=
  { diagnostic with help := diagnostic.help ++ [help] }

/-! ## Rendering for a terminal -/

/-- Whether a rendering uses terminal colors. -/
inductive Style where
  | plain
  | colored
  deriving DecidableEq, Repr

/-- Severity and code; errors are red and everything else is yellow. -/
def header (diagnostic : Diagnostic) (style : Style) : String :=
  let head := s!"{diagnostic.severity.text}[{diagnostic.code.text}]"
  match style with
  | .plain => head
  | .colored =>
    let color := if diagnostic.severity.isError then "31" else "33"
    s!"\x1b[1;{color}m{head}\x1b[0m"

/-- One line for the message, and one for the subject and for every note and
suggestion. -/
def render (diagnostic : Diagnostic) (style : Style) : String :=
  let head := s!"{diagnostic.header style}: {diagnostic.message}\n"
  let subject := match diagnostic.subject with
    | some subject => s!"  --> {subject}\n"
    | none => ""
  let notes := diagnostic.notes.map fun note => s!"   = note: {note}\n"
  let help := diagnostic.help.map fun help => s!"   = help: {help}\n"
  head ++ subject ++ String.join notes ++ String.join help

end Diagnostic

end Crossbar
