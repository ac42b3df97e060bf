import CoEdit.Decode.Record
import CoEdit.Error
import CoEdit.Json.Reader

/-!
# Requests and Replies

The envelopes of JSON-RPC 2.0: a request, read strictly from a line of text, and what is written
back, one object per line with its fields in a fixed order.

## Main definitions

* `Request`, `Request.parse?`, `Request.decode`.
* `Failure`, with the failures of the protocol itself and `Failure.ofError`.
* `Reply`, `Notification`, `MethodDefinition`, and their JSON.
-/

namespace CoEdit.Rpc

open CoEdit.Decode

/-- The version that every envelope names. -/
def version : String := "2.0"

/-! ### Requests -/

/-- A request. Without an id it is a notification, which gets no reply. -/
structure Request where
  version : String
  id : Option Json
  method : String
  params : Option Json

namespace Request

/-- Whether the request names the right version. -/
def isValid (r : Request) : Bool :=
  r.version = Rpc.version

/-- Whether the request wants no reply. -/
def isNotification (r : Request) : Bool :=
  r.id.isNone

/-- The fields of a request. -/
def record : Record Request :=
  Request.mk <$> .required "jsonrpc" text <*> .optional "id" anything <*>
    .required "method" text <*> .optional "params" anything

/-- Reads a request from a value. -/
def decode : Decoder Request :=
  record.decode "JsonRpcRequest"

/-- The keys of a request; all other entries are skipped. -/
def keys : List String := ["jsonrpc", "id", "method", "params"]

/-- Reads a request from a text. None of its keys may be repeated. -/
def parse? (s : String) : Option Request :=
  match Json.parseTop keys s with
  | none => none
  | some (.inl j) => (decode .direct j).toOption
  | some (.inr fields) =>
    let known := fields.filter fun field => keys.contains field.1
    if (known.map (·.1)).Nodup then (decode .direct (.object known)).toOption else none

end Request

/-! ### Replies -/

/-- Why a request failed, as the caller is told. -/
structure Failure where
  code : Int
  message : String
  data : Option Json

namespace Failure

/-- A failure as an object; without data the entry is left out. -/
def toJson (f : Failure) : Json :=
  .object ([("code", .whole f.code), ("message", .text f.message)] ++
    match f.data with
    | none => []
    | some data => [("data", data.sorted)])

/-- The line is no request. -/
def parseError (details : String) : Failure :=
  ⟨-32700, "Parse error", some (.object [("details", .text details)])⟩

/-- The request is not valid. -/
def invalidRequest (details : String) : Failure :=
  ⟨-32600, "Invalid Request", some (.object [("details", .text details)])⟩

/-- There is no such method. -/
def methodNotFound (method : String) : Failure :=
  ⟨-32601, "Method not found", some (.object [("method", .text method)])⟩

/-- The engine refused. -/
def ofError (e : Error) : Failure :=
  ⟨e.category.code, e.message, some (.object [("category", .text e.category.name)])⟩

end Failure

/-- What is sent back for a request: the request's id with a result or a failure. -/
inductive Reply
  | result (id : Json) (value : Json)
  | failure (id : Json) (reason : Failure)

/-- A reply as an object. -/
def Reply.toJson : Reply → Json
  | .result id value =>
    .object [("jsonrpc", .text version), ("id", id.sorted), ("result", value.sorted)]
  | .failure id reason =>
    .object [("jsonrpc", .text version), ("id", id.sorted), ("error", reason.toJson)]

/-- A message that nobody asked for. -/
structure Notification where
  method : String
  params : Json

/-- A notification as an object. -/
def Notification.toJson (n : Notification) : Json :=
  .object [("jsonrpc", .text version), ("method", .text n.method), ("params", n.params.sorted)]

/-- A method as it is described to callers. -/
structure MethodDefinition where
  name : String
  description : String
  paramsSchema : Json

/-- A description of a method as an object. -/
def MethodDefinition.toJson (d : MethodDefinition) : Json :=
  .object [("name", .text d.name), ("description", .text d.description),
    ("paramsSchema", d.paramsSchema.sorted)]

end CoEdit.Rpc
