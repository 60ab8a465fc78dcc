import ReleaseDesk.Proofs.Client.Wires
import ReleaseDesk.Proofs.Protocol.Payload
import ReleaseDesk.Proofs.Release.Assembly

/-! A client as a remote for the dispatcher of a server. Successive calls over a composition of
client and server have the outcomes of dispatching the same requests directly: every call returns
the result or the error of the response, after the client has received exactly the notifications of
the call, in order. -/

namespace ReleaseDesk.Client

open ReleaseDesk.Json ReleaseDesk.Protocol ReleaseDesk.Rpc ReleaseDesk.Service ReleaseDesk.Stream

/-- The method and parameters of a client request. -/
structure Call where
  method : String
  params : Option Json := none

/-- Optional parameters with null as absent. -/
def given : Option Json → Option Json
  | some .null => none
  | params => params

theorem arrivedValue_eq (params : Option Json) :
    arrivedValue params = (given params).map Json.normal := by
  cases params with
  | none => rfl
  | some v => cases v <;> rfl

namespace Call

def request (call : Call) (n : Int) : Request :=
  { id := some (.number n), method := call.method, params := call.params }

/-- The request of a call as it is dispatched. -/
def asked (call : Call) (n : Int) : Request := { call.request n with params := given call.params }

/-- A call whose parameters can be printed and parsed inside an envelope. -/
structure Fits (call : Call) : Prop where
  shallow : ∀ v, call.params = some v → v.depth ≤ 126
  legible : ∀ v, call.params = some v → v.Legible

end Call

/-- The turns of dispatching calls directly, one after another. -/
def dispatches (o : Dispatcher ω) : Int → Scene ω → List Call → List Turn
  | _, _, [] => []
  | n, scene, call :: calls =>
    let ((answer, sent), scene) := (Action.observed (o.dispatch (call.asked n))).run scene
    { sent, answer } :: dispatches o (numberAfter n) scene calls

/-- A turn whose messages can be printed and parsed. -/
structure Fitting (t : Turn) : Prop where
  sent : ∀ n ∈ t.sent, (Notification.codec.write n).Fits
  answer : ∀ r ∈ t.answer, (Response.codec.write r).Fits

/-- The outcome of a call, given its response. -/
inductive Returns : Response → Except Fault Json → Prop
  | result (id : Option RequestId) (v : Json) : Returns (.success id v) (.ok v)
  | error (id : Option RequestId) (e : ErrorObject) : Returns (.failure id e) (.error (.rpc e))

/-- Calls over a connection realize turns: each call gets the response of its turn, after the
notifications of the turn; it returns the outcome in the response; and afterwards the client has
received these notifications, has advanced its id, and is otherwise unchanged. -/
inductive Realizes : Caller (Wired ω) κ → List Call → List Turn → Prop
  | nil (c : Caller (Wired ω) κ) : Realizes c [] []
  | cons {c c' : Caller (Wired ω) κ} {call : Call} {calls : List Call} {response : Response}
      {sent : List Notification} {link : Wired ω} {outcome : Except Fault Json} {turns : List Turn}
      (exchanged : Link.request (call.request c.nextId) c.link = (.ok response, sent, link))
      (heard : c' = sent.foldl Caller.hear { c with link, nextId := numberAfter c.nextId })
      (called : (Talk.call .json call.method call.params).run.run c = (outcome, c'))
      (returned : Returns response outcome)
      (rest : Realizes c' calls turns) :
    Realizes c (call :: calls) ({ sent, answer := some response } :: turns)

/-! ### Client computations -/

namespace Talk

theorem run_bind_ok {x : Talk τ κ α} {f : α → Talk τ κ β} {c c' : Caller τ κ} {a : α}
    (h : x.run.run c = (.ok a, c')) : (x >>= f).run.run c = (f a).run.run c' := by
  simp only [ExceptT.run_bind, StateT.run_bind, h]
  rfl

theorem run_bind_error {x : Talk τ κ α} {f : α → Talk τ κ β} {c c' : Caller τ κ} {fault : Fault}
    (h : x.run.run c = (.error fault, c')) : (x >>= f).run.run c = (.error fault, c') := by
  simp only [ExceptT.run_bind, StateT.run_bind, h]
  rfl

theorem run_get (c : Caller τ κ) : (get : Talk τ κ (Caller τ κ)).run.run c = (.ok c, c) := rfl

theorem run_set (c c' : Caller τ κ) : (set c' : Talk τ κ Unit).run.run c = (.ok (), c') := rfl

theorem run_ensureOpen {c : Caller τ κ} (h : c.closed = false) :
    (ensureOpen : Talk τ κ Unit).run.run c = (.ok (), c) := by
  unfold ensureOpen
  rw [run_bind_ok (run_get c), h]
  rfl

theorem run_request [Link τ] {c : Caller τ κ} (hopen : c.closed = false) {method : String}
    {params : Option Json} {response : Response} {arrived : List Notification} {link : τ}
    (h : Link.request { id := some (.number c.nextId), method, params } c.link =
      (.ok response, arrived, link)) :
    (request method params).run.run c =
      (resultOf (.number c.nextId) response,
        arrived.foldl Caller.hear { c with link, nextId := numberAfter c.nextId }) := by
  unfold request
  rw [run_bind_ok (run_ensureOpen hopen), run_bind_ok (run_get c)]
  simp only [h]
  rw [run_bind_ok (run_set _ _)]
  cases resultOf (.number c.nextId) response <;> rfl

theorem run_call_response [Link τ] {c : Caller τ κ} (hopen : c.closed = false) {method : String}
    {params : Option Json} {response : Response} {arrived : List Notification} {link : τ}
    (h : Link.request { id := some (.number c.nextId), method, params } c.link =
      (.ok response, arrived, link)) :
    (call .json method params).run.run c =
      ((resultOf (.number c.nextId) response).map Json.normal,
        arrived.foldl Caller.hear { c with link, nextId := numberAfter c.nextId }) := by
  have hrequest := run_request hopen h
  unfold call
  cases hr : resultOf (.number c.nextId) response with
  | ok v =>
    rw [hr] at hrequest
    have hread : Wire.Codec.json.ofJson v = .ok v.normal := (Wire.Codec.conveys_json v .tree).1
    rw [run_bind_ok hrequest]
    simp only [hread]
    rfl
  | error fault =>
    rw [hr] at hrequest
    rw [run_bind_error hrequest]
    rfl

theorem run_call [Link τ] {c : Caller τ κ} (hopen : c.closed = false) {method : String}
    {params : Option Json} {outcome : Except Rpc.Fault Json}
    (hv : ∀ v, outcome = .ok v → v.normal = v) {arrived : List Notification} {link : τ}
    (h : Link.request { id := some (.number c.nextId), method, params } c.link =
      (.ok (answerOf (.number c.nextId) outcome), arrived, link)) :
    ∃ given, Returns (answerOf (.number c.nextId) outcome) given ∧
      (call .json method params).run.run c =
        (given, arrived.foldl Caller.hear { c with link, nextId := numberAfter c.nextId }) := by
  rw [run_call_response hopen h]
  cases outcome with
  | ok v =>
    have hresult : resultOf (.number c.nextId) (answerOf (.number c.nextId) (.ok v)) = .ok v := by
      simp [resultOf, answerOf, Response.success]
    refine ⟨.ok v, .result _ v, ?_⟩
    rw [hresult, Except.map, hv v rfl]
  | error fault =>
    have hresult : resultOf (.number c.nextId) (answerOf (.number c.nextId) (.error fault)) =
        .error (.rpc fault.errorObject) := by
      simp [resultOf, answerOf, Response.failure]
    refine ⟨.error (.rpc fault.errorObject), .error _ _, ?_⟩
    rw [hresult, Except.map]

end Talk

/-! ### One call -/

theorem foldl_hear (sent : List Notification) (c : Caller τ κ) :
    (sent.foldl Caller.hear c).link = c.link ∧ (sent.foldl Caller.hear c).closed = c.closed ∧
      (sent.foldl Caller.hear c).nextId = c.nextId := by
  induction sent generalizing c with
  | nil => exact ⟨rfl, rfl, rfl⟩
  | cons n sent ih => exact ih (c.hear n)

theorem numberAfter_inRange {n : Int} (h : (RequestId.number n).InRange) :
    (RequestId.number (numberAfter n)).InRange := by
  unfold numberAfter
  obtain ⟨hl, hb⟩ := h
  split_ifs with hn
  · exact ⟨by omega, hn⟩
  · exact ⟨Int.le_refl _, by decide⟩

theorem handle_arrived (server : Server ω) (call : Call) (n : Int) :
    server.handle (call.request n).arrived = server.handle (call.asked n) := by
  have harrived : (call.request n).arrived =
      { call.asked n with params := (call.asked n).params.map Json.normal } := by
    simp only [Request.arrived, Call.request, Call.asked, arrivedValue_eq]
  rw [harrived]
  simp only [Server.handle, Dispatcher.dispatch_normal]

theorem Call.Fits.request {call : Call} (h : call.Fits) {n : Int}
    (hn : (RequestId.number n).InRange) : (Request.codec.write (call.request n)).Fits := by
  refine Request.fits (fun id hid => ?_) fun v hv => ⟨h.shallow v hv, h.legible v hv⟩
  cases hid
  exact hn

/-- A client that is open, on an idle connection to a server whose handlers send notices only. -/
structure IdleConnection (c : Caller (Wired ω) κ) (server : Server ω) : Prop where
  ready : c.link.Ready server
  notices : server.service.registry.SendsNotices
  notStopped : server.stopRequested = false
  isOpen : c.closed = false
  inRange : (RequestId.number c.nextId).InRange

theorem IdleConnection.hear {c : Caller (Wired ω) κ} {server : Server ω} (h : IdleConnection c server)
    (sent : List Notification) : IdleConnection (sent.foldl Caller.hear c) server := by
  obtain ⟨hlink, hclosed, hnext⟩ := foldl_hear sent c
  exact ⟨hlink ▸ h.ready, h.notices, h.notStopped, hclosed ▸ h.isOpen, hnext ▸ h.inRange⟩

theorem handle_asked {server : Server ω} (h : server.service.registry.SendsNotices) (call : Call) (n : Int) :
    ∃ outcome sent server',
      server.handle (call.asked n) = (sent, some (answerOf (.number n) outcome), server') ∧
      (∀ v, outcome = .ok v → ∃ ms, v = (Json.object ms).normal) ∧ (∀ n ∈ sent, Notice n) ∧
      server'.service = server.service ∧ server'.stopRequested = server.stopRequested := by
  have hanswer : (server.handle (call.asked n)).2.1 = some (answerOf (.number n)
      ((server.service.route call.method (given call.params)
        (server.service.context (call.asked n))).run { server.scene with sent := [] }).1) := by
    simp only [Server.handle, Action.observed_run, Dispatcher.dispatch_run]
    rfl
  refine ⟨_, (server.handle (call.asked n)).1, (server.handle (call.asked n)).2.2,
    Prod.ext rfl (Prod.ext hanswer rfl), ?_, Dispatcher.notice_of_dispatch h _ _, rfl, rfl⟩
  intro v hv
  exact Dispatcher.yields_route _ _ _ _ _ v hv

/-- A call on an idle connection gets the response of the server and returns its outcome. -/
theorem IdleConnection.call {c : Caller (Wired ω) κ} {server : Server ω}
    (h : IdleConnection c server) {call : Call}
    (hcall : call.Fits) {sent : List Notification} {answer : Option Response} {server' : Server ω}
    (hhandle : server.handle (call.asked c.nextId) = (sent, answer, server'))
    (hturn : Fitting { sent, answer }) :
    ∃ response outcome, answer = some response ∧ Returns response outcome ∧
      Link.request (call.request c.nextId) c.link =
        (.ok response, sent, c.link.serving server') ∧
      (Talk.call .json call.method call.params).run.run c = (outcome, sent.foldl Caller.hear
        { c with link := c.link.serving server', nextId := numberAfter c.nextId }) ∧
      IdleConnection (sent.foldl Caller.hear
        { c with link := c.link.serving server', nextId := numberAfter c.nextId }) server' := by
  obtain ⟨result, sent', server'', hasked, hresult, hnotices, hservice, hwilling⟩ :=
    handle_asked h.notices call c.nextId
  obtain ⟨rfl, rfl, rfl⟩ : sent' = sent ∧ some (answerOf (.number c.nextId) result) = answer ∧
      server'' = server' := by
    simpa only [Prod.mk.injEq] using hasked.symm.trans hhandle
  have hid : ∀ id, (call.request c.nextId).id = some id → id.InRange := by
    intro id hid
    cases hid
    exact h.inRange
  have hne : RequestId.number c.nextId ≠ .null := nofun
  have hexchange : Link.request (call.request c.nextId) c.link =
      (.ok (answerOf (.number c.nextId) result), sent', c.link.serving server'') :=
    h.ready.request hid rfl (hcall.request h.inRange) (handle_arrived server call c.nextId ▸ hasked)
      (fun n hn => ⟨hnotices n hn, hturn.sent n hn⟩) (answerOf_id _ _)
      (answerOf_inRange h.inRange result) (answerOf_arrived hne hresult)
      (hturn.answer _ rfl)
  have hnormal : ∀ v, result = .ok v → v.normal = v := by
    intro v hv
    obtain ⟨ms, rfl⟩ := hresult v hv
    exact Json.normal_normal _
  obtain ⟨outcome, hreturns, hrun⟩ := Talk.run_call h.isOpen hnormal hexchange
  refine ⟨_, outcome, rfl, hreturns, hexchange, hrun, IdleConnection.hear ?_ sent'⟩
  have hwilling' : server''.stopRequested = false := hwilling.trans h.notStopped
  exact ⟨h.ready.serving hwilling', hservice ▸ h.notices, hwilling', h.isOpen,
    numberAfter_inRange h.inRange⟩

/-! ### All calls -/

theorem IdleConnection.realizes {c : Caller (Wired ω) κ} {server : Server ω} (h : IdleConnection c server)
    {calls : List Call} (hcalls : ∀ call ∈ calls, call.Fits)
    (hturns : ∀ t ∈ dispatches server.service c.nextId server.scene calls, Fitting t) :
    Realizes c calls (dispatches server.service c.nextId server.scene calls) := by
  induction calls generalizing c server with
  | nil => exact .nil c
  | cons call calls ih =>
    obtain ⟨hcall, hrest⟩ := List.forall_mem_cons.mp hcalls
    obtain ⟨sent, answer, server', hhandle⟩ :
        ∃ sent answer server', server.handle (call.asked c.nextId) = (sent, answer, server') :=
      ⟨_, _, _, rfl⟩
    have hdispatches : dispatches server.service c.nextId server.scene (call :: calls) =
        { sent := (server.handle (call.asked c.nextId)).1,
          answer := (server.handle (call.asked c.nextId)).2.1 } ::
          dispatches (server.handle (call.asked c.nextId)).2.2.service (numberAfter c.nextId)
            (server.handle (call.asked c.nextId)).2.2.scene calls := rfl
    rw [hhandle] at hdispatches
    rw [hdispatches] at hturns ⊢
    -- Both runs continue from the same server.
    obtain ⟨hturn, hlater⟩ := List.forall_mem_cons.mp hturns
    obtain ⟨response, outcome, rfl, hreturns, hexchange, hrun, hidle⟩ := h.call hcall hhandle hturn
    have hnext := (foldl_hear sent
      { c with link := c.link.serving server', nextId := numberAfter c.nextId }).2.2
    refine .cons hexchange rfl hrun hreturns ?_
    have hrealizes := ih hidle hrest
    rw [hnext] at hrealizes
    exact hrealizes hlater

/-- A client is a faithful remote for the dispatcher: its calls over a connection realize the turns
of dispatching them directly at the server. -/
theorem calls_realize_dispatch (server : Server ω) (c : Caller (Wired ω) κ) (calls : List Call)
    (hwilling : server.stopRequested = false) (hlink : c.link = Wired.of server)
    (hopen : c.closed = false) (hnext : (RequestId.number c.nextId).InRange)
    (hnotices : server.service.registry.SendsNotices) (hcalls : ∀ call ∈ calls, call.Fits)
    (hturns : ∀ t ∈ dispatches server.service c.nextId server.entering.scene calls, Fitting t) :
    Realizes c calls (dispatches server.service c.nextId server.entering.scene calls) := by
  have hready : c.link.Ready server.entering := hlink ▸ Wired.of_ready hwilling
  have hidle : IdleConnection c server.entering := ⟨hready, hnotices, hwilling, hopen, hnext⟩
  exact hidle.realizes hcalls hturns

/-- A ping with null parameters, a call of the tool `relicta.plan`, which logs before its result,
and an unknown method, at the release server for the in-memory adapter. -/
theorem calls_realize_dispatch_plan :
    let server := Release.memoryServer
    let c : Caller (Wired (Release.Backend Release.MemoryAdapter Plugin.Roster)) Unit :=
      { link := Wired.of server, info := ⟨"caller", "1"⟩ }
    let calls : List Call :=
      [⟨"ping", some .null⟩, ⟨"tools/call", some (.object [("name", .string "relicta.plan")])⟩,
        ⟨"nap", none⟩]
    server.stopRequested = false ∧ c.link = Wired.of server ∧ c.closed = false ∧
      (RequestId.number c.nextId).InRange ∧ server.service.registry.SendsNotices ∧
      (∀ call ∈ calls, call.Fits) ∧
      (∀ t ∈ dispatches server.service c.nextId server.entering.scene calls, Fitting t) ∧
      Realizes c calls (dispatches server.service c.nextId server.entering.scene calls) := by
  intro server c calls
  obtain ⟨-, -, hnotices⟩ := Release.exists_follows_memoryServer
  have hnext : (RequestId.number c.nextId).InRange := ⟨by decide, by decide⟩
  have hcalls : ∀ call ∈ calls, call.Fits := by
    refine List.forall_mem_cons.mpr ⟨⟨?_, ?_⟩, List.forall_mem_cons.mpr ⟨⟨?_, ?_⟩,
      List.forall_mem_singleton.mpr ⟨nofun, nofun⟩⟩⟩
    · rintro v ⟨⟩
      decide
    · rintro v ⟨⟩
      trivial
    · rintro v ⟨⟩
      decide
    · rintro v ⟨⟩
      exact ⟨trivial, trivial⟩
  -- The text of the output is legible whatever it is.
  obtain ⟨text, hdispatches⟩ : ∃ text,
      dispatches server.service c.nextId server.entering.scene calls =
        [{ answer := some (.success (some (.number 1)) (.object [])) },
          { sent := [(logMessage (some "relicta-mcp") .info "Planned minor release 1.5.0" none).notification],
            answer := some (.success (some (.number 2)) (ToolResult.codec.toJson (.ofText text))) },
          { answer := some
              (.failure (some (.number 3)) (Rpc.Fault.methodNotFound "nap").errorObject) }] :=
    ⟨_, rfl⟩
  have hturns : ∀ t ∈ dispatches server.service c.nextId server.entering.scene calls, Fitting t := by
    have hthree : ReadsBack (.integer 3) := readsBack_integer (by decide) (by decide)
    have hcode : ReadsBack (.integer (-32601)) := readsBack_integer (by decide) (by decide)
    rw [hdispatches]
    refine List.forall_mem_cons.mpr ⟨⟨nofun, ?_⟩, List.forall_mem_cons.mpr ⟨⟨?_, ?_⟩,
      List.forall_mem_singleton.mpr ⟨nofun, ?_⟩⟩⟩
    · rintro r ⟨⟩
      exact Response.fits_success ⟨by decide, by decide⟩ (by decide) trivial
    · have hwrite : Notification.codec.write
          (logMessage (some "relicta-mcp") .info "Planned minor release 1.5.0" none).notification =
          .object [("jsonrpc", .string "2.0"), ("method", .string "notifications/message"),
            ("params", .object [("data", .object [("message", .string "Planned minor release 1.5.0")]),
              ("level", .string "info"), ("logger", .string "relicta-mcp")])] := rfl
      refine List.forall_mem_singleton.mpr ?_
      rw [hwrite]
      exact ⟨by decide, trivial, trivial, ⟨⟨trivial, trivial⟩, trivial, trivial, trivial⟩, trivial⟩
    · rintro r ⟨⟩
      obtain ⟨hdepth, hlegible⟩ := (ToolResult.ofText text).write_plain
      exact Response.fits_success ⟨by decide, by decide⟩
        (Nat.le_trans (depth_normal_le _) (Nat.le_trans hdepth (by decide))) hlegible.normal
    · rintro r ⟨⟩
      have hwrite : Response.codec.write
          (.failure (some (.number 3)) (Rpc.Fault.methodNotFound "nap").errorObject) =
          .object [("jsonrpc", .string "2.0"), ("id", .integer 3),
            ("error", .object [("code", .integer (-32601)),
              ("message", .string "Method not found: nap"), ("data", .string "nap")])] := rfl
      rw [hwrite]
      exact ⟨by decide, trivial, hthree, ⟨hcode, trivial, trivial, trivial⟩, trivial⟩
  exact ⟨rfl, rfl, rfl, hnext, hnotices, hcalls, hturns,
    calls_realize_dispatch server c calls rfl rfl rfl hnext hnotices hcalls hturns⟩

end ReleaseDesk.Client
