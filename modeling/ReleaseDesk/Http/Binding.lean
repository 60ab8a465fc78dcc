import ReleaseDesk.Service.Session
import ReleaseDesk.Text.Encoding
import ReleaseDesk.Wire.Codec

/-! A server behind HTTP, with one message in each POST request. Requests that are not messages are
rejected at once. A message is queued for the session, and its sender waits for the response under a
ticket; a notification is only acknowledged. Notifications of the server are dropped. -/

namespace ReleaseDesk.Http

open ReleaseDesk.Service ReleaseDesk.Text ReleaseDesk.Wire

structure Request where
  method : String := "POST"
  target : String
  body : List UInt8 := []
deriving DecidableEq

/-- An HTTP response. -/
structure Answer where
  status : Nat
  contentType : Option String := none
  body : String := ""
deriving DecidableEq

namespace Answer

def empty (status : Nat) : Answer := { status }

def ofResponse (r : Rpc.Response) : Answer :=
  { status := 200, contentType := some "application/json", body := Rpc.Response.codec.render r }

def tooLong : Answer :=
  { status := 413, contentType := some "text/plain; charset=utf-8"
    body := "Failed to buffer the request body: length limit exceeded" }

def badText (fault : Utf8.Fault) : Answer :=
  { status := 400, contentType := some "text/plain; charset=utf-8"
    body := "Request body didn't contain valid UTF-8: " ++ fault.message }

end Answer

/-- The path of a request target, without the query. -/
def pathOf (target : String) : String := String.ofList (target.toList.takeWhile (· ≠ '?'))

/-- The maximal size of a body in octets. -/
def bodyLimit : Nat := 0x200000

/-- The message in a request, or the rejection. -/
def accept (path : String) (r : Request) : Except Answer Rpc.Request :=
  if pathOf r.target ≠ path then .error (.empty 404)
  else if r.method ≠ "POST" then .error (.empty 405)
  else if bodyLimit < r.body.length then .error .tooLong
  else match Utf8.decode r.body with
    | .error fault => .error (.badText fault)
    | .ok cs => (Rpc.Request.parse (String.ofList cs)).mapError fun refusal =>
        .ofResponse refusal.fault.reply

/-- A queued message, with the ticket of its sender if it expects a response. -/
structure Exchange where
  request : Rpc.Request
  ticket : Option Nat := none

def queueSize : Nat := 32

/-- The state between the HTTP requests and the session: the queue, the ticket that the session is
serving, the responses not collected yet, the next ticket, and whether the binding is closed. -/
structure Binding where
  queue : List Exchange := []
  pending : Option Nat := none
  answers : List (Nat × Rpc.Response) := []
  tickets : Nat := 0
  closed : Bool := false

namespace Binding

/-- Queues a message, unless the queue is full. -/
def enqueue (b : Binding) (r : Rpc.Request) : Option (Option Nat × Binding) :=
  if b.closed || queueSize ≤ b.queue.length then none
  else if r.isNotification then
    some (none, { b with queue := b.queue ++ [{ request := r }] })
  else
    some (some b.tickets,
      { b with queue := b.queue ++ [{ request := r, ticket := some b.tickets }]
               tickets := b.tickets + 1 })

/-- The next message of the queue. -/
def take? (b : Binding) : Option (Arrival × Binding) :=
  if b.closed then some (.failed .closed, b)
  else match b.queue with
    | [] => none
    | e :: rest => some (.request e.request, { b with queue := rest, pending := e.ticket })

/-- Delivers the response to the ticket being served. -/
def respond (b : Binding) (r : Rpc.Response) : Except TransportFault Unit × Binding :=
  if b.closed then (.error .closed, b)
  else match b.pending with
    | some ticket => (.ok (), { b with pending := none, answers := (ticket, r) :: b.answers })
    | none => (.ok (), b)

/-- Removes and returns the response under a ticket. -/
def collect (b : Binding) (ticket : Nat) : Option Rpc.Response × Binding :=
  ((b.answers.find? (·.1 = ticket)).map (·.2),
    { b with answers := b.answers.filter (·.1 ≠ ticket) })

/-- Closes the binding and abandons all waiting senders. -/
def close (b : Binding) : Binding :=
  if b.closed then b else { b with closed := true, pending := none }

instance : Outlet Binding where
  respond r b := b.respond r
  notify _ b := (.ok (), b)

end Binding

def serveNext (s : Session ω Binding) : Session ω Binding :=
  match s.link.take? with
  | some (a, link) => { s with link }.receive a
  | none => s

/-- Sends a message and waits for the response. -/
def exchange (path : String) (s : Session ω Binding) (r : Request) : Answer × Session ω Binding :=
  match accept path r with
  | .error answer => (answer, s)
  | .ok message =>
    match s.link.enqueue message with
    | none => (.empty 503, s)
    | some (none, link) => (.empty 202, serveNext { s with link })
    | some (some ticket, link) =>
      let s := serveNext { s with link }
      match s.link.collect ticket with
      | (some response, link) => (.ofResponse response, { s with link })
      | (none, link) => (.empty 503, { s with link })

/-- A whole session of a server that was asked to stop before it. -/
def runSession (server : Server ω) : Session ω Binding :=
  let s := serveNext (.start server {})
  { s with link := s.link.close }

end ReleaseDesk.Http
