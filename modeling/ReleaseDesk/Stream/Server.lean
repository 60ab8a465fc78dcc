import ReleaseDesk.Service.Session
import ReleaseDesk.Stream.Channel

/-! A server on byte streams, with one message on each line. A run delivers the input incrementally;
complete lines are processed as they arrive, and the server can enter a new session after the end of
one. -/

namespace ReleaseDesk.Stream

open ReleaseDesk.Service ReleaseDesk.Wire

instance : Outlet Pipe where
  respond r p := p.write Rpc.Response.codec r
  notify n p := p.write Rpc.Notification.codec n

/-- The message on a line, none if the line is blank. -/
def arrivalOfOctets (bytes : List UInt8) : Option Arrival :=
  match lineText bytes with
  | .error _ => some (.refused .parse)
  | .ok "" => none
  | .ok s =>
    match Rpc.Request.parse s with
    | .ok r => some (.request r)
    | .error refusal => some (.refused refusal.fault)

def Line.arrival : Line → Option Arrival
  | .octets bytes => arrivalOfOctets bytes
  | .failed detail => some (.failed (.stream detail))
  | .ended => some .ended

/-- The next message of a stream. There is none if no line is complete and the stream has not ended.
-/
def arrival? (ended : Bool) (incoming : List Signal) : Option (Arrival × List Signal) :=
  match line? ended incoming with
  | none => none
  | some (line, rest) =>
    match line.arrival with
    | some a => some (a, rest)
    | none => if rest.length < incoming.length then arrival? ended rest else none
termination_by incoming.length

/-- Reads the next message. The end of the available input counts as the end of the stream. -/
def Channel.next (c : Channel) : Arrival × Channel :=
  if c.pipe.closed then (.failed .closed, c)
  else match arrival? true c.incoming with
    | some (a, incoming) => (a, { c with incoming })
    | none => (.ended, c)

/-- Processes the available messages while the session lasts: the session after them and the unread
rest. -/
def drain (ended : Bool) (s : Session ω Pipe) (incoming : List Signal) :
    Session ω Pipe × List Signal :=
  match s.outcome with
  | some _ => (s, incoming)
  | none =>
    match arrival? ended incoming with
    | none => (s, incoming)
    | some (a, rest) =>
      if rest.length < incoming.length then drain ended (s.receive a) rest
      else (s.receive a, rest)
termination_by incoming.length

def runSession (server : Server ω) (pipe : Pipe) (input : List UInt8) : Session ω Pipe :=
  (drain true (.start server pipe) (signals input)).1

/-! ### Runs -/

open ReleaseDesk.Service ReleaseDesk.Text

/-- A session with its unread input. -/
structure Run (ω : Type) where
  session : Session ω Pipe
  unread : List Signal := []
  ended : Bool := false

namespace Run

def idle (server : Server ω) : Run ω := { session := { server, link := {}, outcome := some (.ok ()) } }

/-- Enters a session on a new stream, unless one is in progress. -/
def resume (r : Run ω) : Run ω :=
  if r.session.isOver then { session := .start r.session.server {} } else r

def proceed (r : Run ω) : Run ω :=
  let (session, unread) := drain r.ended r.session r.unread
  { r with session, unread }

def deliver (r : Run ω) (arrived : List Signal) : Run ω :=
  proceed { r with unread := r.unread ++ arrived }

def finish (r : Run ω) : Run ω := proceed { r with ended := true }

def close (r : Run ω) : Except TransportFault Unit × Run ω :=
  let (outcome, link) := r.session.link.close
  (outcome, { r with session := ({ r.session with link }).receive (.failed .closed) })

def change (r : Run ω) (f : Server ω → Server ω) : Run ω :=
  { r with session := { r.session with server := f r.session.server } }

def rewire (r : Run ω) (f : Pipe → Pipe) : Run ω :=
  { r with session := { r.session with link := f r.session.link } }

def take (r : Run ω) : String × Run ω :=
  let (s, link) := r.session.link.take
  (s, r.rewire fun _ => link)

end Run

end ReleaseDesk.Stream
