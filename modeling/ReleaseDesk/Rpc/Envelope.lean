import ReleaseDesk.Json.Printer
import ReleaseDesk.Json.Reader
import ReleaseDesk.Wire.Choice
import ReleaseDesk.Wire.Codec

/-! JSON-RPC envelopes. A request without an id is a notification and gets no response. A null id is
an id. A response has a result or an error. -/

namespace ReleaseDesk.Rpc

open ReleaseDesk.Json ReleaseDesk.Wire ReleaseDesk.Text

def version : String := "2.0"

inductive RequestId
  | string (value : String)
  | number (value : Int)
  | null
deriving DecidableEq

namespace RequestId

def text : RequestId → String
  | string s => s
  | number n => String.ofList (intNumeral n)
  | null => "null"

/-- The codec of ids: a string, a 64-bit integer, or null. -/
def codec : Codec RequestId where
  read _ := Codec.readAside <| Codec.readFirst "RequestId" [
    fun d => (Codec.string.read .aside d).map string,
    fun d => (Codec.long.read .aside d).map number,
    fun d => (Codec.readUnit d).map fun _ => null]
  write
    | string s => .string s
    | number n => .integer n
    | null => .null

end RequestId

/-- A request, or a notification if it has no id. -/
structure Request where
  version : String := Rpc.version
  id : Option RequestId := none
  method : String
  params : Option Json := none

namespace Request

def record : Record Request where
  title := "struct JsonRpcRequest"
  fields := Request.mk
    <$> required "jsonrpc" .string (·.version)
    <*> .one (.present "id" RequestId.codec) (·.id)
    <*> required "method" .string (·.method)
    <*> optional "params" .json (·.params)

def codec : Codec Request := record.codec

def isNotification (r : Request) : Bool := r.id.isNone

end Request

structure ErrorObject where
  code : Int
  message : String
  data : Option Json := none

def ErrorObject.record : Record ErrorObject where
  title := "struct JsonRpcError"
  fields := ErrorObject.mk
    <$> required "code" .code (·.code)
    <*> required "message" .string (·.message)
    <*> optional "data" .json (·.data)

def ErrorObject.codec : Codec ErrorObject := record.codec

structure Response where
  version : String := Rpc.version
  id : Option RequestId
  result : Option Json := none
  error : Option ErrorObject := none

namespace Response

/-- The id is written even if it is `none`, as null. -/
def record : Record Response where
  title := "struct JsonRpcResponse"
  fields := Response.mk
    <$> required "jsonrpc" .string (·.version)
    <*> .one (.explicit "id" RequestId.codec) (·.id)
    <*> optional "result" .json (·.result)
    <*> optional "error" ErrorObject.codec (·.error)

def codec : Codec Response := record.codec

def success (id : Option RequestId) (result : Json) : Response :=
  { id, result := some result }

def failure (id : Option RequestId) (error : ErrorObject) : Response :=
  { id, error := some error }

end Response

structure Notification where
  version : String := Rpc.version
  method : String
  params : Option Json := none

namespace Notification

def record : Record Notification where
  title := "struct JsonRpcNotification"
  fields := Notification.mk
    <$> required "jsonrpc" .string (·.version)
    <*> required "method" .string (·.method)
    <*> optional "params" .json (·.params)

def codec : Codec Notification := record.codec

def toRequest (n : Notification) : Request :=
  { version := n.version, method := n.method, params := n.params }

end Notification

/-- A message to a client. -/
inductive Message
  | request (r : Request)
  | response (r : Response)

/-- An untagged union, with requests tried first. -/
def Message.codec : Codec Message where
  read _ := Codec.readAside <| Codec.readFirst "Message" [
    fun d => (Request.codec.read .aside d).map .request,
    fun d => (Response.codec.read .aside d).map .response]
  write
    | .request r => Request.codec.write r
    | .response r => Response.codec.write r

/-! ### Errors -/

open ReleaseDesk.Wire

/-- The errors of the protocol. -/
inductive Fault
  | parse
  | invalidRequest (detail : String)
  | methodNotFound (name : String)
  | invalidParams (detail : String)
  | internal (detail : String)
deriving DecidableEq

namespace Fault

def code : Fault → Int
  | parse => -32700
  | invalidRequest _ => -32600
  | methodNotFound _ => -32601
  | invalidParams _ => -32602
  | internal _ => -32603

def message : Fault → String
  | parse => "Parse error: invalid JSON"
  | invalidRequest detail => "Invalid request: " ++ detail
  | methodNotFound name => "Method not found: " ++ name
  | invalidParams detail => "Invalid params: " ++ detail
  | internal detail => "Internal error: " ++ detail

/-- The error object of an error. Its data is the name that was not found, if there is one. -/
def errorObject (f : Fault) : ErrorObject :=
  match f with
  | parse => { code := f.code, message := "Parse error" }
  | methodNotFound name => { code := f.code, message := f.message, data := some (.string name) }
  | _ => { code := f.code, message := f.message }

/-- The response to a message that is not a request. -/
def reply (f : Fault) : Response := .failure none f.errorObject

end Fault

/-- The reasons why a text is not a request. -/
inductive Refusal
  | notJson
  | shape (fault : Wire.Fault)
  | version (found : String)

def Refusal.fault : Refusal → Fault
  | notJson => .parse
  | shape fault => .invalidRequest fault.message
  | version found => .invalidRequest ("unsupported jsonrpc version '" ++ found ++ "'")

def Request.ofJson (v : Json) : Except Refusal Request := do
  let r ← (codec.ofJson v).mapError .shape
  if r.version = Rpc.version then pure r else .error (.version r.version)

def Request.parse (s : String) : Except Refusal Request :=
  match Json.parse? s with
  | none => .error .notJson
  | some v => ofJson v

end ReleaseDesk.Rpc
