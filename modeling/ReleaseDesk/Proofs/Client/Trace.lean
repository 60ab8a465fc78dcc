import ReleaseDesk.Client
import ReleaseDesk.Proofs.Client.Operations

/-! Invariants of a client over arbitrary runs of its operations, on arbitrary transports. Requests
are numbered consecutively; a closed client sends nothing; a response with another id is an error; a
successful handshake is confirmed exactly once; and the recorded server is that of the last
confirmed handshake. -/

namespace ReleaseDesk.Client

open ReleaseDesk.Protocol ReleaseDesk.Rpc

/-! ### Traces -/

/-- An operation with the messages that it sent and its outcome. -/
structure TraceEntry where
  {result : Type}
  op : Operation result
  messages : List SentMessage
  outcome : Except Fault result

/-- A client with the trace of its operations. -/
structure TracedCaller (τ κ : Type) where
  caller : Caller (RecordingLink τ) κ
  trace : List TraceEntry := []

def TracedCaller.next [Link τ] (h : TracedCaller τ κ) (op : (α : Type) × Operation α) : TracedCaller τ κ :=
  let (outcome, caller) := op.2.talk.run.run h.caller
  let messages := caller.link.record.drop h.caller.link.record.length
  { caller, trace := h.trace ++ [{ op := op.2, messages, outcome }] }

def TracedCaller.fresh (link : τ) (info : Implementation) : TracedCaller τ κ where
  caller := { link := { link }, info }

def tracedRun [Link τ] (link : τ) (info : Implementation) (ops : List ((α : Type) × Operation α)) :
    TracedCaller τ κ :=
  ops.foldl TracedCaller.next (.fresh link info)

/-- The operations of a trace, run on a client without a recording transport. -/
inductive UntracedRun [Link τ] : Caller τ κ → List TraceEntry → Caller τ κ → Prop
  | nil (c : Caller τ κ) : UntracedRun c [] c
  | concat {c c' c'' : Caller τ κ} {trace : List TraceEntry} {d : TraceEntry}
      (before : UntracedRun c trace c')
      (did : d.op.talk.run.run c' = (d.outcome, c'')) : UntracedRun c (trace ++ [d]) c''

/-! ### Messages sent -/

namespace SentMessage

def request? : SentMessage → Option Request
  | .request r _ => some r
  | _ => none

def isClosing : SentMessage → Bool
  | .closing _ => true
  | _ => false

/-- The welcome in the response to a handshake. -/
def welcome? : SentMessage → Option Welcome
  | .request { id := some id, .. } (.ok response) =>
    ((Talk.resultOf id response).bind (readAs Welcome.codec)).toOption
  | _ => none

end SentMessage

theorem welcome?_greeting (info : Implementation) (n : Int)
    (outcome : Except TransportFault Response) :
    (SentMessage.request ((greeting info).request n) outcome).welcome? =
      ((greeting info).queryResult n outcome).toOption := by
  cases outcome <;> rfl

def Operation.isGreet : Operation α → Bool
  | .greet => true
  | _ => false

/-- The notification that an operation sends as such. -/
def Operation.notification? : Operation α → Option Notification
  | .notify method params => some { method, params }
  | _ => none

theorem Operation.kind_of_query {op : Operation α} {q : Query α} (h : op.query? = some q) :
    op.isClose = false ∧ op.isGreet = false ∧ op.notification? = none := by
  cases op with
  | notify | greet | close => cases h
  | _ => exact ⟨rfl, rfl, rfl⟩

/-- The server found by a handshake, if it was answered and confirmed. -/
def TraceEntry.found? : TraceEntry → Option Welcome
  | ⟨.greet, [asked, .notification _ (.ok ())], _⟩ => asked.welcome?
  | _ => none

def TraceEntry.given? : TraceEntry → Option Welcome
  | ⟨.greet, _, outcome⟩ => outcome.toOption
  | _ => none

theorem TraceEntry.given?_of_other {op : Operation α} (h : op.isGreet = false) (messages : List SentMessage)
    (outcome : Except Fault α) : TraceEntry.given? ⟨op, messages, outcome⟩ = none := by
  cases op with
  | greet => cases h
  | _ => rfl

theorem TraceEntry.given?_error (op : Operation α) (messages : List SentMessage) (fault : Fault) :
    TraceEntry.given? ⟨op, messages, .error fault⟩ = none := by
  cases op <;> rfl

theorem TraceEntry.found?_nil (op : Operation α) (outcome : Except Fault α) :
    TraceEntry.found? ⟨op, [], outcome⟩ = none := by
  cases op <;> rfl

theorem TraceEntry.found?_of_other {op : Operation α} (h : op.isGreet = false) (messages : List SentMessage)
    (outcome : Except Fault α) : TraceEntry.found? ⟨op, messages, outcome⟩ = none := by
  cases op with
  | greet => cases h
  | _ => rfl

/-- The messages that a handshake may send. -/
inductive Greets : List SentMessage → Prop
  | refused : Greets []
  | unwelcome {r : Request} {answer : Except TransportFault Response} (method : r.method = "initialize")
      (welcome : (SentMessage.request r answer).welcome? = none) : Greets [.request r answer]
  | confirmed {r : Request} {answer : Except TransportFault Response} {server : Welcome}
      (method : r.method = "initialize") (welcome : (SentMessage.request r answer).welcome? = some server)
      (notified : Except TransportFault Unit) :
    Greets [.request r answer, .notification confirmation notified]

/-! ### One operation -/

namespace OperationStep

variable {s s' : CallerState} {op : Operation α} {messages : List SentMessage} {outcome : Except Fault α}

theorem advanced (h : OperationStep s op messages outcome s') :
    (messages.filterMap SentMessage.request? = [] ∧ s'.nextId = s.nextId) ∨
      ∃ r, messages.filterMap SentMessage.request? = [r] ∧ r.id = some (.number s.nextId) ∧
        s'.nextId = numberAfter s.nextId := by
  cases h with
  | refused | notified | shut | idle => exact .inl ⟨rfl, rfl⟩
  | asked | unwelcome | unconfirmed | welcomed => exact .inr ⟨_, rfl, rfl, rfl⟩

theorem closed_eq (h : OperationStep s op messages outcome s') : s'.closed = (s.closed || op.isClose) := by
  cases h with
  | refused closed _ => simp [closed]
  | idle closed => simp [closed]
  | shut isOpen _ => simp [Operation.isClose]
  | asked isOpen query _ => simp [Operation.kind_of_query query, CallerState.advanced]
  | notified | unwelcome | unconfirmed | welcomed => simp [Operation.isClose, CallerState.advanced]

/-- A closed client sends nothing. Closing it again succeeds, and any other operation fails. -/
theorem silent (h : OperationStep s op messages outcome s') (closed : s.closed = true) :
    messages = [] ∧ (op.isClose = false → outcome = .error .closed) ∧
      (op.isClose = true → outcome.isOk = true) := by
  cases h with
  | refused _ other => exact ⟨rfl, fun _ => rfl, fun h => by simp [other] at h⟩
  | idle _ => exact ⟨rfl, nofun, fun _ => rfl⟩
  | asked isOpen | notified isOpen | unwelcome isOpen | unconfirmed isOpen | welcomed isOpen
  | shut isOpen => simp [closed] at isOpen

theorem closings (h : OperationStep s op messages outcome s') :
    messages.countP SentMessage.isClosing = if s.closed = false ∧ op.isClose = true then 1 else 0 := by
  cases h with
  | refused closed other => simp [other]
  | idle closed => simp [closed]
  | shut isOpen _ => simp [isOpen, Operation.isClose, SentMessage.isClosing]
  | asked isOpen query _ => simp [Operation.kind_of_query query, SentMessage.isClosing]
  | notified | unwelcome | unconfirmed | welcomed => simp [Operation.isClose, SentMessage.isClosing]

theorem foreign (h : OperationStep s op messages outcome s') {r : Request} {response : Response}
    (hr : .request r (.ok response) ∈ messages) (hid : response.id ≠ r.id) :
    ∃ id, r.id = some id ∧ outcome = .error (.foreign id response.id) := by
  have hverdict : ∀ {β : Type} (q : Query β) n, r = q.request n →
      q.queryResult n (.ok response) = .error (.foreign (.number n) response.id) := by
    rintro β q n rfl
    have hresult : Talk.resultOf (.number n) response =
        .error (.foreign (.number n) response.id) := if_pos hid
    rw [Query.queryResult, hresult]
    rfl
  cases h with
  | refused | idle | notified | shut => simp at hr
  | asked isOpen query answer =>
    obtain ⟨rfl, rfl⟩ : r = _ ∧ .ok response = answer := by simpa using hr
    exact ⟨_, rfl, hverdict _ _ rfl⟩
  | unwelcome isOpen queryResult =>
    obtain ⟨rfl, rfl⟩ := by simpa using hr
    rw [hverdict _ _ rfl] at queryResult
    exact ⟨_, rfl, queryResult.symm⟩
  | unconfirmed isOpen queryResult fault =>
    obtain ⟨rfl, rfl⟩ := by simpa using hr
    rw [hverdict _ _ rfl] at queryResult
    cases queryResult
  | welcomed isOpen queryResult =>
    obtain ⟨rfl, rfl⟩ := by simpa using hr
    rw [hverdict _ _ rfl] at queryResult
    cases queryResult

theorem server_eq (h : OperationStep s op messages outcome s') :
    s'.server = (TraceEntry.found? ⟨op, messages, outcome⟩).or s.server := by
  cases h with
  | refused => rw [TraceEntry.found?_nil]; rfl
  | notified | shut | idle | unwelcome => rfl
  | asked isOpen query _ =>
    rw [TraceEntry.found?_of_other (Operation.kind_of_query query).2.1]
    rfl
  | unconfirmed => rfl
  | welcomed isOpen queryResult =>
    rw [TraceEntry.found?, welcome?_greeting, queryResult]
    rfl

/-- A handshake sends nothing, or a request, followed by a confirmation if and only if the response
is a welcome. -/
theorem greets (h : OperationStep s op messages outcome s') (hop : op.isGreet = true) : Greets messages := by
  cases h with
  | refused => exact .refused
  | asked _ query _ => simp [Operation.kind_of_query query] at hop
  | unwelcome _ queryResult => exact .unwelcome rfl (by rw [welcome?_greeting, queryResult]; rfl)
  | unconfirmed _ queryResult fault =>
    exact .confirmed rfl (by rw [welcome?_greeting, queryResult]; rfl) (.error fault)
  | welcomed _ queryResult => exact .confirmed rfl (by rw [welcome?_greeting, queryResult]; rfl) (.ok ())
  | notified | shut | idle => cases hop

theorem found?_eq (h : OperationStep s op messages outcome s') :
    TraceEntry.found? ⟨op, messages, outcome⟩ = TraceEntry.given? ⟨op, messages, outcome⟩ := by
  cases h with
  | refused => rw [TraceEntry.found?_nil, TraceEntry.given?_error]
  | asked _ query _ =>
    obtain ⟨-, hop, -⟩ := Operation.kind_of_query query
    rw [TraceEntry.found?_of_other hop, TraceEntry.given?_of_other hop]
  | notified | shut | idle | unwelcome | unconfirmed => rfl
  | welcomed _ queryResult =>
    rw [TraceEntry.found?, welcome?_greeting, queryResult]
    rfl

theorem notifies (h : OperationStep s op messages outcome s') (hop : op.isGreet = false) {n : Notification}
    {notified : Except TransportFault Unit} (hn : .notification n notified ∈ messages) :
    op.notification? = some n := by
  cases h with
  | refused | idle | shut | asked => simp at hn
  | notified _ method params _ =>
    obtain ⟨rfl, -⟩ : n = { method, params } ∧ _ := by simpa using hn
    rfl
  | unwelcome | unconfirmed | welcomed => cases hop

end OperationStep

/-! ### All operations -/

/-- The ids of successive requests. -/
def numberOf : Nat → Int
  | 0 => 1
  | n + 1 => numberAfter (numberOf n)

theorem numberOf_eq {n : Nat} (h : n + 1 < 2 ^ 63) : numberOf n = n + 1 := by
  induction n with
  | zero => rfl
  | succ n ih =>
    have hn : numberOf n = n + 1 := ih (by omega)
    have hbound : numberOf n + 1 < -Number.least := by
      rw [hn, Number.least]
      omega
    rw [numberOf, numberAfter, if_pos hbound, hn]
    rfl

def requestsIn (messages : List SentMessage) : List Request := messages.filterMap SentMessage.request?

/-- The invariant of a trace and the state after it. -/
structure OperationsInvariant (trace : List TraceEntry) (s : CallerState) : Prop where
  numbers : (requestsIn (trace.flatMap (·.messages))).map (·.id) =
    (List.range (requestsIn (trace.flatMap (·.messages))).length).map fun i => some (.number (numberOf i))
  nextId : s.nextId = numberOf (requestsIn (trace.flatMap (·.messages))).length
  closed : s.closed = trace.any (·.op.isClose)
  silent : trace.Pairwise fun earlier later => earlier.op.isClose = true →
    later.messages = [] ∧ (later.op.isClose = false → later.outcome = .error .closed) ∧
      (later.op.isClose = true → later.outcome.isOk = true)
  closings : (trace.flatMap (·.messages)).countP SentMessage.isClosing = if s.closed then 1 else 0
  server : s.server = (trace.filterMap TraceEntry.found?).getLast?
  each : ∀ d ∈ trace, ∃ s s', OperationStep s d.op d.messages d.outcome s'

theorem OperationsInvariant.nil (info : Implementation) :
    OperationsInvariant [] { info, nextId := 1, closed := false, server := none } where
  numbers := rfl
  nextId := rfl
  closed := rfl
  silent := .nil
  closings := rfl
  server := rfl
  each := List.forall_mem_nil _

theorem requestsIn_append (messages more : List SentMessage) :
    requestsIn (messages ++ more) = requestsIn messages ++ requestsIn more :=
  List.filterMap_append

theorem OperationsInvariant.concat {trace : List TraceEntry} {s s' : CallerState}
    (h : OperationsInvariant trace s) {d : TraceEntry}
    (hd : OperationStep s d.op d.messages d.outcome s') : OperationsInvariant (trace ++ [d]) s' := by
  have hmessages : (trace ++ [d]).flatMap (·.messages) = trace.flatMap (·.messages) ++ d.messages := by
    rw [List.flatMap_append, List.flatMap_singleton]
  have hclosed : s'.closed = (trace ++ [d]).any (·.op.isClose) := by
    rw [hd.closed_eq, h.closed, List.any_append, List.any_cons, List.any_nil, Bool.or_false]
  have hnumbers : (requestsIn ((trace ++ [d]).flatMap (·.messages))).map (·.id) =
        (List.range (requestsIn ((trace ++ [d]).flatMap (·.messages))).length).map
          (fun i => some (.number (numberOf i))) ∧
      s'.nextId = numberOf (requestsIn ((trace ++ [d]).flatMap (·.messages))).length := by
    rw [hmessages, requestsIn_append]
    obtain ⟨hnone, hnext⟩ | ⟨r, hone, hid, hnext⟩ := hd.advanced
    · rw [requestsIn, requestsIn, hnone, List.append_nil, hnext]
      exact ⟨h.numbers, h.nextId⟩
    · rw [show requestsIn d.messages = [r] from hone, List.map_append, h.numbers, List.length_append,
        List.length_singleton, List.range_succ, List.map_append, hnext, h.nextId]
      refine ⟨?_, rfl⟩
      rw [List.map_singleton, List.map_singleton, hid, h.nextId]
  exact {
    numbers := hnumbers.1
    nextId := hnumbers.2
    closed := hclosed
    silent := by
      rw [List.pairwise_append]
      refine ⟨h.silent, List.pairwise_singleton _ _, ?_⟩
      rintro earlier hearlier later hlater hclose
      obtain rfl : later = d := by simpa using hlater
      apply hd.silent
      rw [h.closed, List.any_eq_true]
      exact ⟨earlier, hearlier, hclose⟩
    closings := by
      rw [hmessages, List.countP_append, h.closings, hd.closings, hd.closed_eq]
      cases s.closed <;> cases d.op.isClose <;> rfl
    server := by
      rw [hd.server_eq, List.filterMap_append, h.server]
      cases hfound : d.found? with
      | none => simp [hfound]
      | some w => simp [hfound]
    each := by
      rw [List.forall_mem_append]
      refine ⟨h.each, ?_⟩
      rintro e he
      obtain rfl : e = d := by simpa using he
      exact ⟨s, s', hd⟩ }

namespace TracedCaller

variable [Link τ]

theorem next_eq (h : TracedCaller τ κ) (op : (α : Type) × Operation α) :
    ∃ (d : TraceEntry) (c : Caller (RecordingLink τ) κ),
      h.next op = { caller := c, trace := h.trace ++ [d] } ∧
      (⟨d.result, d.op⟩ : (α : Type) × Operation α) = op ∧
      c.link.record = h.caller.link.record ++ d.messages ∧
      d.op.talk.run.run h.caller.erase = (d.outcome, c.erase) ∧
      OperationStep h.caller.callerState d.op d.messages d.outcome c.callerState := by
  obtain ⟨messages, outcome, c, hrun, hrecord, hstep⟩ := operationStep h.caller op.2
  refine ⟨⟨op.2, messages, outcome⟩, c, ?_, rfl, hrecord, ?_, hstep⟩
  · simp only [next, hrun, hrecord, List.drop_left]
  · rw [ErasesTo.operation op.2 h.caller, hrun]

end TracedCaller

/-- The trace of a run of operations. -/
structure IsTraceOf [Link τ] (link : τ) (info : Implementation) (ops : List ((α : Type) × Operation α))
    (h : TracedCaller τ κ) : Prop where
  asked : h.trace.map (fun d => ⟨d.result, d.op⟩) = ops
  untraced : UntracedRun { link, info } h.trace h.caller.erase
  record : h.caller.link.record = h.trace.flatMap (·.messages)
  invariant : OperationsInvariant h.trace h.caller.callerState

namespace IsTraceOf

variable [Link τ] {link : τ} {info : Implementation} {ops : List ((α : Type) × Operation α)}
  {h : TracedCaller τ κ}

theorem fresh (link : τ) (info : Implementation) :
    IsTraceOf link info [] (.fresh link info : TracedCaller τ κ) :=
  ⟨rfl, .nil _, rfl, .nil info⟩

theorem next (hr : IsTraceOf link info ops h) (op : (α : Type) × Operation α) :
    IsTraceOf link info (ops ++ [op]) (h.next op) := by
  obtain ⟨d, c, hnext, hop, hrecord, huntraced, hstep⟩ := h.next_eq op
  rw [hnext]
  constructor
  · show (h.trace ++ [d]).map _ = _
    rw [List.map_append, hr.asked, List.map_singleton, hop]
  · exact .concat hr.untraced huntraced
  · show c.link.record = (h.trace ++ [d]).flatMap _
    rw [hrecord, hr.record, List.flatMap_append, List.flatMap_singleton]
  · exact hr.invariant.concat hstep

theorem foldl_next (hr : IsTraceOf link info ops h) (more : List ((α : Type) × Operation α)) :
    IsTraceOf link info (ops ++ more) (more.foldl TracedCaller.next h) := by
  induction more generalizing ops h with
  | nil => simpa using hr
  | cons op more ih =>
    have hnext := ih (hr.next op)
    rwa [List.append_assoc] at hnext

theorem tracedRun (link : τ) (info : Implementation) (ops : List ((α : Type) × Operation α)) :
    IsTraceOf link info ops (tracedRun link info ops : TracedCaller τ κ) :=
  (fresh link info).foldl_next ops

end IsTraceOf

/-- The properties of a run of operations. -/
structure FollowsProtocol [Link τ] (link : τ) (info : Implementation) (ops : List ((α : Type) × Operation α))
    (h : TracedCaller τ κ) : Prop where
  asked : h.trace.map (fun d => ⟨d.result, d.op⟩) = ops
  /-- The run is the same without a recording transport. -/
  untraced : UntracedRun { link, info } h.trace h.caller.erase
  record : h.caller.link.record = h.trace.flatMap (·.messages)
  /-- Requests are numbered from one, without gaps. -/
  numbers : (requestsIn h.caller.link.record).map (·.id) =
    (List.range (requestsIn h.caller.link.record).length).map fun i => some (.number (i + 1))
  /-- A closed client sends nothing, and fails all operations except closing. -/
  silent : h.trace.Pairwise fun earlier later => earlier.op.isClose = true →
    later.messages = [] ∧ (later.op.isClose = false → later.outcome = .error .closed) ∧
      (later.op.isClose = true → later.outcome.isOk = true)
  /-- The transport is closed exactly once, when the client is. -/
  closings : h.caller.link.record.countP SentMessage.isClosing =
    if h.trace.any (·.op.isClose) then 1 else 0
  foreign : ∀ d ∈ h.trace, ∀ r response, .request r (.ok response) ∈ d.messages → response.id ≠ r.id →
    ∃ id, r.id = some id ∧ d.outcome = .error (.foreign id response.id)
  /-- A handshake is confirmed, exactly once, if its response is a welcome. -/
  greets : ∀ d ∈ h.trace, d.op.isGreet = true → Greets d.messages
  notifies : ∀ d ∈ h.trace, d.op.isGreet = false → ∀ n notified, .notification n notified ∈ d.messages →
    d.op.notification? = some n
  found : ∀ d ∈ h.trace, d.found? = d.given?
  /-- The recorded server is the last one found by a handshake. -/
  server : h.caller.server = (h.trace.filterMap TraceEntry.found?).getLast?

/-- Every run of operations on a new client, over any transport, has these properties as long as the
ids of its requests do not wrap around. -/
theorem operations_follow_protocol [Link τ] (link : τ) (info : Implementation)
    (ops : List ((α : Type) × Operation α))
    (few : (requestsIn (tracedRun link info ops : TracedCaller τ κ).caller.link.record).length < 2 ^ 63) :
    FollowsProtocol link info ops (tracedRun link info ops : TracedCaller τ κ) := by
  have hr : IsTraceOf link info ops (tracedRun link info ops : TracedCaller τ κ) := .tracedRun link info ops
  obtain ⟨hasked, huntraced, hrecord, hinvariant⟩ := hr
  exact {
    asked := hasked
    untraced := huntraced
    record := hrecord
    numbers := by
      rw [hrecord] at few ⊢
      refine hinvariant.numbers.trans (List.map_congr_left fun i hi => ?_)
      have hlt : i < _ := List.mem_range.mp hi
      rw [numberOf_eq (by omega)]
    silent := hinvariant.silent
    closings := by
      rw [hrecord, ← hinvariant.closed]
      exact hinvariant.closings
    foreign := by
      rintro d hd r response hr hid
      obtain ⟨s, s', hstep⟩ := hinvariant.each d hd
      exact hstep.foreign hr hid
    greets := by
      rintro d hd hop
      obtain ⟨s, s', hstep⟩ := hinvariant.each d hd
      exact hstep.greets hop
    notifies := by
      rintro d hd hop n notified hn
      obtain ⟨s, s', hstep⟩ := hinvariant.each d hd
      exact hstep.notifies hop hn
    found := by
      rintro d hd
      obtain ⟨s, s', hstep⟩ := hinvariant.each d hd
      exact hstep.found?_eq
    server := hinvariant.server }

/-- A handshake, a ping answered under another id, closing, and a handshake on the closed client. -/
theorem operations_follow_protocol_rehearsal :
    let link : Rehearsal := { replies := [
      { answer := .ok (.success (some (.number 1)) (Welcome.codec.toJson
          { protocolVersion, capabilities := {}, serverInfo := { name := "desk", version := "1" } })) },
      { answer := .ok (.success (some (.number 7)) .null) }] }
    let ops : List ((α : Type) × Operation α) := [⟨_, .greet⟩, ⟨_, .ping⟩, ⟨_, .close⟩, ⟨_, .greet⟩]
    let h : TracedCaller Rehearsal Nat := tracedRun link { name := "", version := "" } ops
    (requestsIn h.caller.link.record).length < 2 ^ 63 ∧
    FollowsProtocol link { name := "", version := "" } ops h ∧
    (requestsIn h.caller.link.record).map (·.id) = [some (.number 1), some (.number 2)] ∧
    h.caller.server.isSome := by
  intro link ops h
  have few : (requestsIn h.caller.link.record).length < 2 ^ 63 := by decide
  have hids : (requestsIn h.caller.link.record).map (·.id) =
      [some (.number 1), some (.number 2)] := by decide
  have hserver : h.caller.server.isSome := by decide
  exact ⟨few, operations_follow_protocol link _ ops few, hids, hserver⟩

end ReleaseDesk.Client
