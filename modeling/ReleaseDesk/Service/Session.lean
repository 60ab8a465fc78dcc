import ReleaseDesk.Service.Dispatch

/-! Sessions of a server. The server processes one message at a time: it reads it, dispatches it,
and writes first the notifications sent and then the response. A stop request takes effect between
messages, ends one session and is then cleared. -/

namespace ReleaseDesk.Service

open ReleaseDesk.Protocol

/-- The phases of the server's life cycle. -/
inductive Phase
  | created
  | opening
  | running
  | stopped
deriving DecidableEq, Repr

def Phase.name : Phase → String
  | .created => "Created"
  | .opening => "Initializing"
  | .running => "Running"
  | .stopped => "Stopped"

/-- The transition of the phase on a message. -/
def Phase.after (p : Phase) (method : String) : Phase :=
  match p, Method.ofName? method with
  | .created, some .greet => .opening
  | .opening, some .greeted => .running
  | p, _ => p

/-- A server: its dispatcher, the scene of its handlers, the phase of the session, and two flags. -/
structure Server (ω : Type) where
  service : Dispatcher ω
  scene : Scene ω
  phase : Phase := .created
  running : Bool := false
  stopRequested : Bool := false

namespace Server

def stop (s : Server ω) : Server ω := { s with stopRequested := true }

/-- The server at the start of a session, with an empty tracker. -/
def entering (s : Server ω) : Server ω :=
  { s with
    phase := .created, running := true
    scene := { s.scene with tracker := {}, sent := [] } }

def leaving (s : Server ω) : Server ω := { s with phase := .stopped, running := false }

/-- Dispatches a request: the notifications sent, the response, and the next server. -/
def handle (s : Server ω) (r : Rpc.Request) :
    List Rpc.Notification × Option Rpc.Response × Server ω :=
  let ((answer, sent), scene) := (Action.observed (s.service.dispatch r)).run s.scene
  (sent, answer, { s with phase := s.phase.after r.method, scene })

end Server

/-- The results of a read: a request, a message that is not a request, the end of the input, or an
error of the transport. -/
inductive Arrival
  | request (r : Rpc.Request)
  | refused (fault : Rpc.Fault)
  | ended
  | failed (fault : TransportFault)

/-- Transports that a server can write to. -/
class Outlet (τ : Type) where
  respond : Rpc.Response → τ → Except TransportFault Unit × τ
  notify : Rpc.Notification → τ → Except TransportFault Unit × τ

/-- A session over a transport. It is over once it has an outcome. -/
structure Session (ω τ : Type) where
  server : Server ω
  link : τ
  outcome : Option (Except Failure Unit) := none

namespace Session

def finish (s : Session ω τ) (outcome : Except Failure Unit) : Session ω τ :=
  { s with server := s.server.leaving, outcome := some outcome }

/-- Checks for a stop request before the next message. -/
def turn (s : Session ω τ) : Session ω τ :=
  if s.server.stopRequested then
    finish { s with server := { s.server with stopRequested := false } } (.ok ())
  else s

def start (server : Server ω) (link : τ) : Session ω τ :=
  turn { server := server.entering, link }

def isOver (s : Session ω τ) : Bool := s.outcome.isSome

/-- Writes notifications. Write errors are ignored. -/
def notifyAll [Outlet τ] (s : Session ω τ) (sent : List Rpc.Notification) : Session ω τ :=
  { s with link := sent.foldl (fun link n => (Outlet.notify n link).2) s.link }

/-- Writes a response. A write error ends the session. -/
def answer [Outlet τ] (s : Session ω τ) (r : Rpc.Response) : Session ω τ :=
  match Outlet.respond r s.link with
  | (.ok (), link) => turn { s with link }
  | (.error fault, link) => finish { s with link } (.error (.transport fault))

/-- Processes the result of a read. The end of the input and a closed transport end the session
without an error. -/
def receive [Outlet τ] (s : Session ω τ) (a : Arrival) : Session ω τ :=
  match s.outcome with
  | some _ => s
  | none =>
    match a with
    | .request r =>
      let (sent, response, server) := s.server.handle r
      let s := notifyAll { s with server } sent
      match response with
      | some response => s.answer response
      | none => s.turn
    | .refused fault => s.answer fault.reply
    | .ended => s.finish (.ok ())
    | .failed .closed => s.finish (.ok ())
    | .failed fault => s.finish (.error (.transport fault))

end Session

end ReleaseDesk.Service
