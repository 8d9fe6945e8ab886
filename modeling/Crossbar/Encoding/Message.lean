import Crossbar.Encoding.Payload
import Crossbar.Message

/-!
# Encoding of messages
-/

namespace Crossbar

namespace Envelope

def encode {α : Type} (encodeBody : α → Json) (envelope : Envelope α) : Json :=
  .object [("id", .string envelope.id), ("type", .string envelope.type),
    ("msg", encodeBody envelope.body)]

def decode {α : Type} (decodeBody : Json → Except Json.Fault α) :
    Json → Except Json.Fault (Envelope α) :=
  Json.decodeRecord ["id", "type", "msg"] fun record =>
    Envelope.mk <$> record.required "id" Json.decodeString
      <*> record.required "type" Json.decodeString <*> record.required "msg" decodeBody

end Envelope

namespace Response

def encode {α : Type} (encodeBody : α → Json) (response : Response α) : Json :=
  .object ([("id", .string response.id), ("type", .string response.type)]
    ++ Json.optionalMember "msg" encodeBody response.body
    ++ Json.optionalMember "error" .string response.error
    ++ Json.optionalMember "error_code" (fun code => .int code.toInt) response.errorCode)

def decode {α : Type} (decodeBody : Json → Except Json.Fault α) :
    Json → Except Json.Fault (Response α) :=
  Json.decodeRecord ["id", "type", "msg", "error", "error_code"] fun record =>
    Response.mk <$> record.required "id" Json.decodeString
      <*> record.required "type" Json.decodeString <*> record.optional "msg" decodeBody
      <*> record.optional "error" Json.decodeString
      <*> record.optional "error_code" Json.decodeInt64

end Response

namespace ConfigRequest

def encode (request : ConfigRequest) : Json :=
  .object [("entity", .array (request.entity.map .string)),
    ("config", request.blocks.encode)]

def decode : Json → Except Json.Fault ConfigRequest :=
  Json.decodeRecord ["entity", "config"] fun record =>
    ConfigRequest.mk <$> record.required "entity" (Json.decodeList Json.decodeString)
      <*> record.required "config" BlockTree.decode

end ConfigRequest

end Crossbar
