import ReleaseDesk.Client.Calls
import ReleaseDesk.Client.Stream
import ReleaseDesk.Wire.Codec

/-! The client library: typed results, HTTP transports, and mock transports. A typed result is
decoded from the first text of a tool or resource result. A mock transport replays predetermined
responses and records the messages it is given. -/

namespace ReleaseDesk.Client

open ReleaseDesk.Protocol ReleaseDesk.Wire

/-! ### Typed results -/

def unspecifiedFailure : String := "tool reported an error without a message"

/-- Decodes the first text of a result. Emptiness is checked first, then the error flag. -/
def readFirstText (c : Codec α) (isEmpty isError : Bool) (text : Option String) :
    Except Fault α :=
  if isEmpty then .error .noContent
  else if isError then .error (.tool (text.getD unspecifiedFailure))
  else match text with
    | none => .error .noContent
    | some s => (c.ofText s).mapError .decode

def ofToolResult (c : Codec α) (r : ToolResult) : Except Fault α :=
  readFirstText c r.content.isEmpty r.isError r.firstText?

def ofResourceResult (c : Codec α) (r : ResourceResult) : Except Fault α :=
  readFirstText c r.contents.isEmpty r.isError r.firstText?

namespace Talk

def callToolAs [Link τ] (c : Codec α) (name : String) (arguments : Json) : Talk τ κ α := do
  match ofToolResult c (← callTool name arguments) with
  | .ok a => pure a
  | .error fault => throw fault

def readResourceAs [Link τ] (c : Codec α) (uri : String) : Talk τ κ α := do
  match ofResourceResult c (← readResource uri) with
  | .ok a => pure a
  | .error fault => throw fault

end Talk

/-! ### HTTP -/

open ReleaseDesk.Rpc ReleaseDesk.Wire

/-- Networks over which a body can be posted, with the status and body of the response. -/
class Network (ν : Type) where
  post : (url body : String) → ν → Except String (Nat × String) × ν

/-- A connection to a URL over a network. -/
structure HttpLink (ν : Type) where
  network : ν
  url : String
  closed : Bool := false

namespace HttpLink

/-- Posts a body. A status other than success is an error. -/
def post [Network ν] (body : String) (l : HttpLink ν) :
    Except TransportFault String × HttpLink ν :=
  if l.closed then (.error .closed, l)
  else
    let (outcome, network) := Network.post l.url body l.network
    (match outcome with
      | .error detail => .error (.http detail)
      | .ok (status, body) =>
        if 200 ≤ status && status < 300 then .ok body else .error (.status status),
      { l with network })

def request [Network ν] (r : Request) (l : HttpLink ν) :
    Except TransportFault Response × List Notification × HttpLink ν :=
  let (outcome, l) := l.post (Request.codec.render r)
  (match outcome with
    | .error fault => .error fault
    | .ok body => (Response.codec.ofText body).mapError fun fault => .http fault.message,
    [], l)

def notify [Network ν] (n : Notification) (l : HttpLink ν) :
    Except TransportFault Unit × HttpLink ν :=
  let (outcome, l) := l.post (Notification.codec.render n)
  (outcome.map fun _ => (), l)

instance [Network ν] : Link (HttpLink ν) where
  request := request
  notify := notify
  close l := (.ok (), { l with closed := true })

end HttpLink

/-! ### Mock transports -/

open ReleaseDesk.Rpc

/-- The response to a request, and the error of a notification in its place. -/
structure Reply where
  answer : Except TransportFault Response
  hindrance : Option TransportFault := none

/-- A mock transport: the responses left, and the messages received, most recent last. -/
structure Rehearsal where
  replies : List Reply := []
  record : List Request := []

namespace Rehearsal

/-- Takes the next response. The transport is disconnected if there is none. -/
def request (r : Request) (h : Rehearsal) :
    Except TransportFault Response × List Notification × Rehearsal :=
  match h.replies with
  | [] => (.error .disconnected, [], { h with record := h.record ++ [r] })
  | reply :: replies => (reply.answer, [], { replies, record := h.record ++ [r] })

def notify (n : Notification) (h : Rehearsal) : Except TransportFault Unit × Rehearsal :=
  let h := { h with record := h.record ++ [n.toRequest] }
  match h.replies with
  | { hindrance := some fault, .. } :: replies => (.error fault, { h with replies })
  | _ => (.ok (), h)

instance : Link Rehearsal where
  request := request
  notify := notify
  close h := (.ok (), h)

end Rehearsal

end ReleaseDesk.Client
