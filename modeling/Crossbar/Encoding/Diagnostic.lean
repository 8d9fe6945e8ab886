import Crossbar.Diagnostic.Basic
import Crossbar.Json.Decode

/-!
# Encoding of diagnostics
-/

namespace Crossbar

def Severity.decode : Json → Except Json.Fault Severity :=
  Json.decodeName fun name => Severity.all.find? fun severity => severity.name == name

def Category.decode : Json → Except Json.Fault Category :=
  Json.decodeName fun name => Category.all.find? fun category => category.name == name

def Code.encode (code : Code) : Json :=
  .object [("category", .string code.category.name), ("number", .ofNat code.number.toNat)]

def Code.decode : Json → Except Json.Fault Code :=
  Json.decodeRecord ["category", "number"] fun record =>
    Code.mk <$> record.required "category" Category.decode
      <*> record.required "number" Json.decodeUInt16

def Diagnostic.encode (diagnostic : Diagnostic) : Json :=
  .object [("severity", .string diagnostic.severity.name), ("code", diagnostic.code.encode),
    ("message", .string diagnostic.message),
    ("subject", Json.encodeOption .string diagnostic.subject),
    ("notes", .array (diagnostic.notes.map .string)),
    ("help", .array (diagnostic.help.map .string))]

def Diagnostic.decode : Json → Except Json.Fault Diagnostic :=
  Json.decodeRecord ["severity", "code", "message", "subject", "notes", "help"] fun record =>
    Diagnostic.mk <$> record.required "severity" Severity.decode
      <*> record.required "code" Code.decode
      <*> record.required "message" Json.decodeString
      <*> record.nullable "subject" Json.decodeString
      <*> record.required "notes" (Json.decodeList Json.decodeString)
      <*> record.required "help" (Json.decodeList Json.decodeString)

end Crossbar
