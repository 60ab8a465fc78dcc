import ReleaseDesk.Client.Stream
import ReleaseDesk.Proofs.Service.Notice
import ReleaseDesk.Proofs.Stream.Wire

/-! The composition of a client and a server. A request is written on a line, the server reads
exactly this line and writes notices and the response; the client receives the notices and returns
the response, and the streams are empty again. -/

namespace ReleaseDesk.Client

open ReleaseDesk.Json ReleaseDesk.Protocol ReleaseDesk.Rpc ReleaseDesk.Service ReleaseDesk.Stream
open ReleaseDesk.Text

/-! ### The client's side -/

theorem await_lines {id : Option RequestId} {notified : List (List UInt8)} {last : List UInt8}
    {r : Response} (htold : ∀ l ∈ notified, answer? id l = none) (hlast : answer? id last = some r)
    {input : List UInt8} (h : segments input = notified ++ [last]) (arrived : List Notification) :
    await id arrived (signals input) = (.ok r, arrived ++ notified.filterMap heard?, []) := by
  induction notified generalizing input arrived with
  | nil =>
    rw [await_of_segments h, hlast]
    simp
  | cons l notified ih =>
    obtain ⟨hl, htold⟩ := List.forall_mem_cons.mp htold
    rw [List.cons_append] at h
    rw [await_of_segments h, hl]
    simp only [ih htold (segments_flatten_tail h), List.filterMap_cons, List.append_assoc]
    cases heard? l <;> rfl

theorem heard?_notice {n : Notification} (h : Notice n) (hf : (Notification.codec.write n).Fits) :
    heard? (lineOctets (Notification.codec.render n)) = some n := by
  obtain ⟨hversion, hparams⟩ := h.arrived
  obtain ⟨version, method, params⟩ := n
  simp only at hversion hparams
  subst hversion
  simp [heard?, message?_notification hf, Notification.toRequest, Request.arrived, hparams]

theorem answer?_notice {n : Notification} (hf : (Notification.codec.write n).Fits)
    (id : Option RequestId) : answer? id (lineOctets (Notification.codec.render n)) = none := by
  simp [answer?, message?_notification hf]

theorem answer?_response {r : Response} (h : r.InRange) (ha : r.arrived = r)
    (hf : (Response.codec.write r).Fits) :
    answer? r.id (lineOctets (Response.codec.render r)) = some r := by
  simp [answer?, message?_response h hf, ha]

theorem filterMap_heard? {sent : List Notification}
    (h : ∀ n ∈ sent, Notice n ∧ (Notification.codec.write n).Fits) :
    ((sent.map Notification.codec.render).map lineOctets).filterMap heard? = sent := by
  induction sent with
  | nil => rfl
  | cons n sent ih =>
    obtain ⟨⟨hnotice, hfits⟩, hsent⟩ := List.forall_mem_cons.mp h
    rw [List.map_cons, List.map_cons, List.filterMap_cons, heard?_notice hnotice hfits, ih hsent]

/-- A client that waits for the response to a request receives its notices and returns the response.
-/
theorem await_turn {sent : List Notification} {r : Response}
    (hsent : ∀ n ∈ sent, Notice n ∧ (Notification.codec.write n).Fits) (h : r.InRange)
    (ha : r.arrived = r) (hf : (Response.codec.write r).Fits) :
    await r.id [] (Wired.textSignals (unlines ({ sent, answer := some r } : Turn).lines)) =
      (.ok r, sent, []) := by
  have hlines : ∀ l ∈ ({ sent, answer := some r } : Turn).lines, '\n' ∉ l.toList := by
    intro l hl
    simp only [Turn.lines, Option.toList_some, List.map_cons, List.map_nil, List.mem_append,
      List.mem_map, List.mem_singleton] at hl
    rcases hl with ⟨n, -, rfl⟩ | rfl
    · exact lineFeed_notMem_render _
    · exact lineFeed_notMem_render _
  have hsegments := segments_unlines hlines
  simp only [Turn.lines, Option.toList_some, List.map_cons, List.map_nil, List.map_append] at hsegments
  have htold : ∀ l ∈ (sent.map Notification.codec.render).map lineOctets, answer? r.id l = none := by
    intro l hl
    obtain ⟨line, hline, rfl⟩ := List.mem_map.mp hl
    obtain ⟨n, hn, rfl⟩ := List.mem_map.mp hline
    exact answer?_notice (hsent n hn).2 r.id
  have hawait := await_lines htold (answer?_response h ha hf) hsegments []
  rwa [filterMap_heard? hsent, List.nil_append] at hawait

/-! ### The server's side -/

theorem drain_line {s : Session ω Pipe} (h : InProgress s) {line : String} (hline : '\n' ∉ line.toList)
    {a : Arrival} (ha : arrivalOfOctets (lineOctets line) = some a)
    (hopen : (s.receive a).outcome = none) :
    drain false s (signals (lineOctets line)) = (s.receive a, []) := by
  have hfeed : lineFeed ∉ Utf8.encode line.toList := fun hmem =>
    hline (Utf8.lineFeed_mem_encode.mp hmem)
  have hoctets : lineOctets line = Utf8.encode line.toList ++ [lineFeed] := by
    rw [lineOctets, Utf8.encode_append]
    rfl
  have hcut : line? false (signals (lineOctets line)) = some (.octets (lineOctets line), []) := by
    have := line?_of_complete hfeed false []
    rwa [List.append_nil, ← hoctets] at this
  have harrival : arrival? false (signals (lineOctets line)) = some (a, []) := by
    rw [arrival?, hcut]
    simp only [Line.arrival, ha]
  have hnone : arrival? false [] = none := by
    rw [arrival?]
    rfl
  have hlength : ([] : List Signal).length < (signals (lineOctets line)).length := by
    rw [hoctets]
    simp
  rw [drain, h.isOpen, harrival]
  simp only [if_pos hlength]
  rw [drain, hopen, hnone]

/-! ### The connection -/

namespace Wired

/-- A connection with empty streams, and a server that waits for input. -/
structure Ready (w : Wired ω) (server : Server ω) : Prop where
  clear : w.near.pipe.Clear
  unsaid : w.near.pipe.written = ""
  isOpen : w.near.pipe.shut = false
  heard : w.near.incoming = []
  inProgress : InProgress w.far.session
  silent : w.far.session.link.written = ""
  idle : w.far.unread = []
  goesOn : w.far.ended = false
  server : w.far.session.server = server

theorem of_ready {server : Server ω} (h : server.stopRequested = false) :
    (Wired.of server).Ready server.entering := by
  have hstart : Session.start server ({} : Pipe) = { server := server.entering, link := {} } :=
    turn_of_notStopped h
  have hfar : (Wired.of server).far = { session := { server := server.entering, link := {} } } :=
    congrArg (fun s => ({ session := s } : Run ω)) hstart
  exact {
    clear := ⟨rfl, rfl, rfl⟩
    unsaid := rfl
    isOpen := rfl
    heard := rfl
    inProgress := by rw [hfar]; exact ⟨rfl, h, ⟨rfl, rfl, rfl⟩⟩
    silent := by rw [hfar]
    idle := by rw [hfar]
    goesOn := by rw [hfar]
    server := by rw [hfar] }

def serving (w : Wired ω) (server : Server ω) : Wired ω :=
  { w with far := w.far.change fun _ => server }

theorem Ready.serving {w : Wired ω} {server : Server ω} (h : w.Ready server) {server' : Server ω}
    (hw : server'.stopRequested = false) : (w.serving server').Ready server' where
  clear := h.clear
  unsaid := h.unsaid
  isOpen := h.isOpen
  heard := h.heard
  inProgress := ⟨h.inProgress.isOpen, hw, h.inProgress.isClear⟩
  silent := h.silent
  idle := h.idle
  goesOn := h.goesOn
  server := rfl

theorem textSignals_line (line : String) : textSignals (unlines [line]) = signals (lineOctets line) := by
  simp [textSignals, unlines, lineOctets]

theorem Ready.carry {w : Wired ω} {server : Server ω} (h : w.Ready server) {line : String}
    (hline : '\n' ∉ line.toList) {r : Request}
    (ha : arrivalOfOctets (lineOctets line) = some (.request r)) :
    Wired.carry { w with near := { w.near with pipe := w.near.pipe.withLines [line] } } =
      { near := { pipe := w.near.pipe,
                  incoming := textSignals (unlines
                    ({ sent := (server.handle r).1, answer := (server.handle r).2.1 } : Turn).lines) }
        far := w.far.change fun _ => (server.handle r).2.2 } := by
  obtain ⟨⟨pipe, incoming⟩, ⟨session, unread, ended⟩⟩ := w
  obtain ⟨clear, unsaid, isOpen, heard, inProgress, silent, idle, goesOn, hserver⟩ := h
  dsimp only at *
  subst heard idle goesOn hserver
  have hsaid : (pipe.withLines [line]).take = (unlines [line], pipe) := by
    obtain ⟨closed, buffer, written, shut, writeFault, shutFault⟩ := pipe
    dsimp only at unsaid
    subst unsaid
    simp [Pipe.take, Pipe.withLines]
  have hsession := inProgress.request r
  -- The server has no other input, so it processes this line only.
  have hdrain := drain_line inProgress hline ha (hsession ▸ inProgress.isOpen)
  have hdeliver : ({ session } : Run ω).deliver (textSignals (unlines [line])) =
      { session := session.receive (.request r) } := by
    simp only [Run.deliver, Run.proceed, List.nil_append, textSignals_line, hdrain]
  have htake : ({ session := session.receive (.request r) } : Run ω).take =
      (unlines
        ({ sent := (session.server.handle r).1, answer := (session.server.handle r).2.1 } : Turn).lines,
        ({ session } : Run ω).change fun _ => (session.server.handle r).2.2) := by
    obtain ⟨server, link, outcome⟩ := session
    obtain ⟨closed, buffer, written, shut, writeFault, shutFault⟩ := link
    dsimp only at silent
    subst silent
    rw [hsession]
    simp [Run.take, Run.rewire, Run.change, advance, Pipe.take, Pipe.withLines]
  simp only [Wired.carry, hsaid, isOpen, hdeliver, Bool.false_eq_true, if_false, htake,
    List.nil_append]

/-- A request returns the response of the server, with its notices. -/
theorem Ready.request {w : Wired ω} {server server' : Server ω} (h : w.Ready server) {r : Request}
    (hid : ∀ id, r.id = some id → id.InRange) (hv : r.version = Rpc.version)
    (hf : (Request.codec.write r).Fits) {sent : List Notification} {response : Response}
    (hhandle : server.handle r.arrived = (sent, some response, server'))
    (hsent : ∀ n ∈ sent, Notice n ∧ (Notification.codec.write n).Fits) (hsame : response.id = r.id)
    (hrange : response.InRange) (harrived : response.arrived = response)
    (hresponse : (Response.codec.write response).Fits) :
    Wired.request r w = (.ok response, sent, w.serving server') := by
  have hline : '\n' ∉ (Request.codec.render r).toList := lineFeed_notMem_render _
  have hwrite : w.near.write Request.codec r =
      (.ok (), { w.near with pipe := w.near.pipe.withLines [Request.codec.render r] }) := by
    simp only [Channel.write, h.clear.write]
  have hcarry := h.carry hline (arrivalOfOctets_request hid hv hf)
  simp only [hhandle] at hcarry
  have hawait := await_turn hsent hrange harrived hresponse
  rw [hsame] at hawait
  have hnear : w.near.incoming = [] := h.heard
  simp only [Wired.request, hwrite, hcarry, hawait]
  simp only [Wired.serving, ← hnear]

end Wired

end ReleaseDesk.Client
