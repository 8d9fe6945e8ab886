import Crossbar.Payload

/-!
# Messages of the device

A request carries an identifier that its response repeats, the name of its type
and a body.  A response carries a body or an error.
-/

namespace Crossbar

/-- A request with a body. -/
structure Envelope (α : Type) where
  id : String
  type : String
  body : α

/-- A response; body and error are both optional. -/
structure Response (α : Type) where
  id : String
  type : String
  body : Option α
  error : Option String
  errorCode : Option Int64

/-- Whether the device reported an error. -/
def Response.isError {α : Type} (response : Response α) : Bool :=
  response.error.isSome || response.errorCode.isSome

/-- The body of a request that configures a cluster of a device. -/
structure ConfigRequest where
  /-- The device and then the cluster. -/
  entity : List String
  blocks : BlockTree
  deriving BEq, Repr

namespace ConfigRequest

def addressed (device cluster : String) (payload : Payload) : ConfigRequest :=
  ⟨[device, cluster], payload.blocks⟩

/-- The payload that a request carries. -/
def payload (request : ConfigRequest) : Payload :=
  ⟨.array (request.entity.map .string), request.blocks⟩

end ConfigRequest

end Crossbar
