import ReleaseDesk.Client.Calls
import ReleaseDesk.Stream.Channel
import ReleaseDesk.Stream.Server

/-! A client on byte streams, and the composition of a client and a server by a stream in each
direction. While it waits for a response the client passes on the notifications it reads and skips
all other lines. In the composition the server processes all available input before the client
reads. -/

namespace ReleaseDesk.Client

open ReleaseDesk.Rpc ReleaseDesk.Wire ReleaseDesk.Stream

/-- The message on a line, as a client with a pending request sees it. -/
inductive Reading
  | answer (r : Response)
  | notification (n : Notification)
  | other

/-- Classifies a line. Only a response with the expected id is an answer. -/
def readLine (id : Option RequestId) (bytes : List UInt8) : Reading :=
  match lineText bytes with
  | .error _ => .other
  | .ok "" => .other
  | .ok s =>
    match Message.codec.ofText s with
    | .ok (.response r) => if r.id = id then .answer r else .other
    | .ok (.request r) =>
      if r.isNotification then .notification { method := r.method, params := r.params } else .other
    | .error _ => .other

/-- Waits for the response to a request. Returns it with the notifications received before it and
the unread rest. The end of the available input counts as the end of the stream. -/
def await (id : Option RequestId) (arrived : List Notification) (incoming : List Signal) :
    Except TransportFault Response × List Notification × List Signal :=
  match line? true incoming with
  | none => (.error .disconnected, arrived, incoming)
  | some (.ended, rest) => (.error .disconnected, arrived, rest)
  | some (.failed detail, rest) => (.error (.stream detail), arrived, rest)
  | some (.octets bytes, rest) =>
    match readLine id bytes with
    | .answer r => (.ok r, arrived, rest)
    | reading =>
      let arrived := match reading with
        | .notification n => arrived ++ [n]
        | _ => arrived
      if rest.length < incoming.length then await id arrived rest
      else (.error .disconnected, arrived, rest)
termination_by incoming.length

namespace Channel

def request (r : Request) (c : Channel) :
    Except TransportFault Response × List Notification × Channel :=
  match c.write Request.codec r with
  | (.error fault, c) => (.error fault, [], c)
  | (.ok (), c) =>
    let (outcome, arrived, incoming) := await r.id [] c.incoming
    (outcome, arrived, { c with incoming })

instance : Link Channel where
  request := request
  notify n c := c.write Notification.codec n
  close c := c.close

end Channel

/-! ### A client and a server -/

open ReleaseDesk.Rpc ReleaseDesk.Stream ReleaseDesk.Service ReleaseDesk.Text

/-- The client's end of the composition, and the server at the other end. -/
structure Wired (ω : Type) where
  near : Channel := {}
  far : Run ω

namespace Wired

def of (server : Server ω) : Wired ω := { far := (Run.idle server).resume }

def textSignals (s : String) : List Signal := signals (Utf8.encode s.toList)

/-- Transfers the client's output to the server, and the server's output to the client. A closed
client is the end of the server's input. -/
def carry (w : Wired ω) : Wired ω :=
  let (said, pipe) := w.near.pipe.take
  let far := w.far.deliver (textSignals said)
  let (answered, far) := (if pipe.shut then far.finish else far).take
  { near := { pipe, incoming := w.near.incoming ++ textSignals answered }, far }

def request (r : Request) (w : Wired ω) :
    Except TransportFault Response × List Notification × Wired ω :=
  match w.near.write Request.codec r with
  | (.error fault, near) => (.error fault, [], { w with near })
  | (.ok (), near) =>
    let w := carry { w with near }
    let (outcome, arrived, incoming) := await r.id [] w.near.incoming
    (outcome, arrived, { w with near := { w.near with incoming } })

instance : Link (Wired ω) where
  request := request
  notify n w :=
    let (outcome, near) := w.near.write Notification.codec n
    (outcome, carry { w with near })
  close w :=
    let (outcome, near) := w.near.close
    (outcome, carry { w with near })

end Wired

end ReleaseDesk.Client
