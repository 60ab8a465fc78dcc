import ReleaseDesk.Client
import ReleaseDesk.Proofs.Client.Remote

/-! The operations of a client, over a transport that records the messages sent. Most operations are
queries: one request, and a decoding of its result. The relation of what an operation can do is
stated once, case by case. -/

namespace ReleaseDesk.Client

open ReleaseDesk.Json ReleaseDesk.Protocol ReleaseDesk.Rpc ReleaseDesk.Wire

/-! ### Recording transports -/

/-- A message sent, with the outcome. -/
inductive SentMessage
  | request (r : Request) (outcome : Except TransportFault Response)
  | notification (n : Notification) (outcome : Except TransportFault Unit)
  | closing (outcome : Except TransportFault Unit)

/-- A transport with a record of the messages sent, most recent last. -/
structure RecordingLink (τ : Type) where
  link : τ
  record : List SentMessage := []

instance [Link τ] : Link (RecordingLink τ) where
  request r l :=
    let (outcome, arrived, link) := Link.request r l.link
    (outcome, arrived, { link, record := l.record ++ [.request r outcome] })
  notify n l :=
    let (outcome, link) := Link.notify n l.link
    (outcome, { link, record := l.record ++ [.notification n outcome] })
  close l :=
    let (outcome, link) := Link.close l.link
    (outcome, { link, record := l.record ++ [.closing outcome] })

/-- The operations of a client, by the type of their result. -/
inductive Operation : Type → Type 1
  | request (c : Codec α) (method : String) (params : Option Json) : Operation α
  | notify (method : String) (params : Option Json) : Operation Unit
  | greet : Operation Welcome
  | ping : Operation Unit
  | listTools : Operation (List Tool)
  | listResources : Operation (List Resource)
  | listPrompts : Operation (List Prompt)
  | callTool (name : String) (arguments : Json) : Operation ToolResult
  | readResource (uri : String) : Operation ResourceResult
  | getPrompt (name : String) (arguments : List (String × String)) : Operation PromptResult
  | setLevel (level : LogLevel) : Operation Unit
  | callToolAs (c : Codec α) (name : String) (arguments : Json) : Operation α
  | readResourceAs (c : Codec α) (uri : String) : Operation α
  | close : Operation Unit

def Operation.talk [Link τ] : Operation α → Talk τ κ α
  | .request c method params => Talk.call c method params
  | .notify method params => Talk.notify method params
  | .greet => Talk.greet
  | .ping => Talk.ping
  | .listTools => Talk.listTools
  | .listResources => Talk.listResources
  | .listPrompts => Talk.listPrompts
  | .callTool name arguments => Talk.callTool name arguments
  | .readResource uri => Talk.readResource uri
  | .getPrompt name arguments => Talk.getPrompt name arguments
  | .setLevel level => Talk.setLevel level
  | .callToolAs c name arguments => Talk.callToolAs c name arguments
  | .readResourceAs c uri => Talk.readResourceAs c uri
  | .close => Talk.close

def Operation.isClose : Operation α → Bool
  | .close => true
  | _ => false

/-! ### Queries -/

/-- A request with the decoding of its result. -/
structure Query (α : Type) where
  method : String
  params : Option Json
  read : Json → Except Fault α

namespace Query

def request (q : Query α) (n : Int) : Request :=
  { id := some (.number n), method := q.method, params := q.params }

/-- The outcome of a query, given the response to its request. -/
def queryResult (q : Query α) (n : Int) : Except TransportFault Response → Except Fault α
  | .error fault => .error (.transport fault)
  | .ok response => (Talk.resultOf (.number n) response).bind q.read

def talk [Link τ] (q : Query α) : Talk τ κ α := do
  let v ← Talk.request q.method q.params
  match q.read v with
  | .ok a => pure a
  | .error fault => throw fault

end Query

def readAs (c : Codec α) (v : Json) : Except Fault α := (c.ofJson v).mapError .decode

def greeting (info : Implementation) : Query Welcome where
  method := "initialize"
  params := some (InitializeParams.codec.toJson { protocolVersion, clientInfo := info })
  read := readAs Welcome.codec

def Operation.query? : Operation α → Option (Query α)
  | .request c method params => some ⟨method, params, readAs c⟩
  | .ping => some ⟨"ping", none, fun _ => .ok ()⟩
  | .listTools =>
    some ⟨"tools/list", some (.object []), fun v =>
      readAs ToolPage.codec v >>= fun page => .ok page.tools⟩
  | .listResources =>
    some ⟨"resources/list", some (.object []), fun v =>
      readAs ResourcePage.codec v >>= fun page => .ok page.resources⟩
  | .listPrompts =>
    some ⟨"prompts/list", some (.object []), fun v =>
      readAs PromptPage.codec v >>= fun page => .ok page.prompts⟩
  | .callTool name arguments =>
    some ⟨"tools/call", some (ToolCall.codec.toJson { name, arguments }), readAs ToolResult.codec⟩
  | .readResource uri =>
    some ⟨"resources/read", some (ResourceRead.codec.toJson { uri }), readAs ResourceResult.codec⟩
  | .getPrompt name arguments =>
    some ⟨"prompts/get", some (PromptFill.codec.toJson { name, arguments }),
      readAs PromptResult.codec⟩
  | .setLevel level =>
    some ⟨"logging/setLevel", some (LevelSetting.codec.toJson { level }), fun _ => .ok ()⟩
  | .callToolAs c name arguments =>
    some ⟨"tools/call", some (ToolCall.codec.toJson { name, arguments }), fun v =>
      readAs ToolResult.codec v >>= ofToolResult c⟩
  | .readResourceAs c uri =>
    some ⟨"resources/read", some (ResourceRead.codec.toJson { uri }), fun v =>
      readAs ResourceResult.codec v >>= ofResourceResult c⟩
  | .notify _ _ | .greet | .close => none

namespace Talk

variable [Link τ]

theorem call_eq (c : Codec α) (method : String) (params : Option Json) :
    (call c method params : Talk τ κ α) = Query.talk ⟨method, params, readAs c⟩ := by
  unfold call Query.talk
  refine congrArg _ (funext fun v => ?_)
  simp only [readAs]
  cases c.ofJson v <;> rfl

theorem call_bind (c : Codec α) (method : String) (params : Option Json) (f : α → Except Fault β) :
    ((call c method params : Talk τ κ α) >>= fun a => match f a with
      | .ok b => pure b
      | .error fault => throw fault) =
      Query.talk ⟨method, params, fun v => readAs c v >>= f⟩ := by
  rw [call_eq]
  unfold Query.talk
  rw [bind_assoc]
  refine congrArg _ (funext fun v => ?_)
  cases h : readAs c v with
  | ok a => simp only [pure_bind, h]; rfl
  | error fault => simp only [h]; rfl

end Talk

theorem Operation.talk_of_query [Link τ] {op : Operation α} {q : Query α}
    (h : op.query? = some q) : (op.talk : Talk τ κ α) = q.talk := by
  cases op with
  | notify | greet | close => cases h
  | ping | setLevel level => cases h; rfl
  | request c method params => cases h; exact Talk.call_eq c method params
  | callTool name arguments => cases h; exact Talk.call_eq ToolResult.codec _ _
  | readResource uri => cases h; exact Talk.call_eq ResourceResult.codec _ _
  | getPrompt name arguments => cases h; exact Talk.call_eq PromptResult.codec _ _
  | listTools =>
    cases h
    exact Talk.call_bind ToolPage.codec _ _ fun page => .ok page.tools
  | listResources =>
    cases h
    exact Talk.call_bind ResourcePage.codec _ _ fun page => .ok page.resources
  | listPrompts =>
    cases h
    exact Talk.call_bind PromptPage.codec _ _ fun page => .ok page.prompts
  | callToolAs c name arguments =>
    cases h
    exact Talk.call_bind ToolResult.codec _ _ (ofToolResult c)
  | readResourceAs c uri =>
    cases h
    exact Talk.call_bind ResourceResult.codec _ _ (ofResourceResult c)

/-! ### The transitions of an operation -/

/-- The state of a client as far as its requests are concerned. -/
structure CallerState where
  info : Implementation
  nextId : Int
  closed : Bool
  server : Option Welcome

def Caller.callerState (c : Caller τ κ) : CallerState where
  info := c.info
  nextId := c.nextId
  closed := c.closed
  server := c.server

def CallerState.advanced (s : CallerState) : CallerState := { s with nextId := numberAfter s.nextId }

def confirmation : Notification := { method := "notifications/initialized" }

/-- The transitions of an operation: the messages sent, the outcome, and the state before and after.
-/
inductive OperationStep : CallerState → Operation α → List SentMessage → Except Fault α → CallerState → Prop
  | refused {s : CallerState} {op : Operation α} (closed : s.closed = true) (other : op.isClose = false) :
    OperationStep s op [] (.error .closed) s
  | asked {s : CallerState} {op : Operation α} {q : Query α} (isOpen : s.closed = false)
      (query : op.query? = some q) (outcome : Except TransportFault Response) :
    OperationStep s op [.request (q.request s.nextId) outcome] (q.queryResult s.nextId outcome) s.advanced
  | notified {s : CallerState} (isOpen : s.closed = false) (method : String) (params : Option Json)
      (outcome : Except TransportFault Unit) :
    OperationStep s (.notify method params) [.notification { method, params } outcome]
      (outcome.mapError .transport) s
  | unwelcome {s : CallerState} (isOpen : s.closed = false) {outcome : Except TransportFault Response}
      {fault : Fault} (queryResult : (greeting s.info).queryResult s.nextId outcome = .error fault) :
    OperationStep s .greet [.request ((greeting s.info).request s.nextId) outcome] (.error fault) s.advanced
  | unconfirmed {s : CallerState} (isOpen : s.closed = false) {outcome : Except TransportFault Response}
      {welcome : Welcome} (queryResult : (greeting s.info).queryResult s.nextId outcome = .ok welcome)
      (fault : TransportFault) :
    OperationStep s .greet
      [.request ((greeting s.info).request s.nextId) outcome, .notification confirmation (.error fault)]
      (.error (.transport fault)) s.advanced
  | welcomed {s : CallerState} (isOpen : s.closed = false) {outcome : Except TransportFault Response}
      {welcome : Welcome} (queryResult : (greeting s.info).queryResult s.nextId outcome = .ok welcome) :
    OperationStep s .greet
      [.request ((greeting s.info).request s.nextId) outcome, .notification confirmation (.ok ())]
      (.ok welcome) { s.advanced with server := some welcome }
  | shut {s : CallerState} (isOpen : s.closed = false) (outcome : Except TransportFault Unit) :
    OperationStep s .close [.closing outcome] (outcome.mapError .transport) { s with closed := true }
  | idle {s : CallerState} (closed : s.closed = true) : OperationStep s .close [] (.ok ()) s

theorem callerState_foldl_hear (sent : List Notification) (c : Caller τ κ) :
    (sent.foldl Caller.hear c).callerState = c.callerState ∧ (sent.foldl Caller.hear c).link = c.link := by
  induction sent generalizing c with
  | nil => exact ⟨rfl, rfl⟩
  | cons n sent ih => exact ih (c.hear n)

namespace Talk

variable {c : Caller τ κ}

theorem run_ensureOpen_closed (h : c.closed = true) :
    (ensureOpen : Talk τ κ Unit).run.run c = (.error .closed, c) := by
  unfold ensureOpen
  rw [run_bind_ok (run_get c), h]
  rfl

variable [Link τ]

theorem run_query (hopen : c.closed = false) (q : Query α)
    {outcome : Except TransportFault Response} {arrived : List Notification} {link : τ}
    (h : Link.request (q.request c.nextId) c.link = (outcome, arrived, link)) :
    q.talk.run.run c = (q.queryResult c.nextId outcome,
      arrived.foldl Caller.hear { c with link, nextId := numberAfter c.nextId }) := by
  unfold Query.talk
  cases outcome with
  | error fault =>
    have hrequest : (request q.method q.params).run.run c = (.error (.transport fault),
        arrived.foldl Caller.hear { c with link, nextId := numberAfter c.nextId }) := by
      rw [Query.request] at h
      unfold request
      rw [run_bind_ok (run_ensureOpen hopen), run_bind_ok (run_get c)]
      simp only [h]
      rw [run_bind_ok (run_set _ _)]
      rfl
    rw [run_bind_error hrequest]
    rfl
  | ok response =>
    have hrequest := run_request hopen h
    cases hresult : resultOf (.number c.nextId) response with
    | error fault =>
      rw [hresult] at hrequest
      rw [run_bind_error hrequest, Query.queryResult, hresult]
      rfl
    | ok v =>
      rw [hresult] at hrequest
      rw [run_bind_ok hrequest, Query.queryResult, hresult]
      show _ = (q.read v, _)
      cases q.read v <;> rfl

theorem run_notify (hopen : c.closed = false) {method : String} {params : Option Json}
    {outcome : Except TransportFault Unit} {link : τ}
    (h : Link.notify { method, params } c.link = (outcome, link)) :
    (notify method params).run.run c = (outcome.mapError .transport, { c with link }) := by
  unfold notify
  rw [run_bind_ok (run_ensureOpen hopen), run_bind_ok (run_get c)]
  simp only [h]
  rw [run_bind_ok (run_set _ _)]
  cases outcome <;> rfl

theorem run_close (hopen : c.closed = false) {outcome : Except TransportFault Unit} {link : τ}
    (h : Link.close c.link = (outcome, link)) :
    (close : Talk τ κ Unit).run.run c =
      (outcome.mapError .transport, { c with link, closed := true }) := by
  have hcloseLink : (closeLink : Talk τ κ Unit).run.run { c with closed := true } =
      (outcome.mapError .transport, { c with link, closed := true }) := by
    unfold closeLink
    rw [run_bind_ok (run_get _)]
    simp only [h]
    rw [run_bind_ok (run_set _ _)]
    cases outcome <;> rfl
  unfold close
  rw [run_bind_ok (run_get c), hopen]
  exact hcloseLink

theorem run_greet (hopen : c.closed = false) :
    greet.run.run c = ((greeting c.info).talk >>= fun welcome => do
      notify confirmation.method confirmation.params
      modify fun (c : Caller τ κ) => { c with server := some welcome }
      pure welcome : Talk τ κ Welcome).run.run c := by
  unfold greet
  rw [run_bind_ok (run_ensureOpen hopen), run_bind_ok (run_get c)]
  simp only [call_eq]
  rfl

theorem run_query_closed (h : c.closed = true) (q : Query α) :
    q.talk.run.run c = (.error .closed, c) := by
  have hrequest : (request q.method q.params).run.run c = (.error .closed, c) := by
    unfold request
    rw [run_bind_error (run_ensureOpen_closed h)]
  unfold Query.talk
  rw [run_bind_error hrequest]

end Talk

section

variable [Link τ]

theorem Operation.run_closed (op : Operation α) {c : Caller τ κ} (h : c.closed = true)
    (hop : op.isClose = false) : op.talk.run.run c = (.error .closed, c) := by
  cases hq : op.query? with
  | some q => rw [Operation.talk_of_query hq, Talk.run_query_closed h]
  | none =>
    cases op with
    | notify method params =>
      show (Talk.notify method params).run.run c = _
      unfold Talk.notify
      rw [Talk.run_bind_error (Talk.run_ensureOpen_closed h)]
    | greet =>
      show Talk.greet.run.run c = _
      unfold Talk.greet
      rw [Talk.run_bind_error (Talk.run_ensureOpen_closed h)]
    | close => cases hop
    | _ => cases hq

theorem Talk.run_close_closed {c : Caller τ κ} (h : c.closed = true) :
    (close : Talk τ κ Unit).run.run c = (.ok (), c) := by
  unfold close
  rw [run_bind_ok (run_get c), h]
  rfl

variable {c : Caller (RecordingLink τ) κ}

theorem run_query_recording (hopen : c.closed = false) (q : Query α) :
    ∃ outcome c', q.talk.run.run c = (q.queryResult c.nextId outcome, c') ∧
      c'.callerState = c.callerState.advanced ∧
      c'.link.record = c.link.record ++ [.request (q.request c.nextId) outcome] := by
  obtain ⟨outcome, arrived, link, h⟩ : ∃ outcome arrived link,
      Link.request (q.request c.nextId) c.link = (outcome, arrived, link) := ⟨_, _, _, rfl⟩
  obtain ⟨hstanding, hlink⟩ := callerState_foldl_hear arrived
    { c with link, nextId := numberAfter c.nextId }
  refine ⟨outcome, _, Talk.run_query hopen q h, hstanding, ?_⟩
  rw [hlink]
  have hrecord : link = (Link.request (q.request c.nextId) c.link).2.2 := by rw [h]
  have houtcome : outcome = (Link.request (q.request c.nextId) c.link).1 := by rw [h]
  rw [hrecord, houtcome]
  rfl

theorem run_notify_recording (hopen : c.closed = false) (method : String) (params : Option Json) :
    ∃ outcome c', (Talk.notify method params).run.run c = (outcome.mapError .transport, c') ∧
      c'.callerState = c.callerState ∧
      c'.link.record = c.link.record ++ [.notification { method, params } outcome] :=
  ⟨_, _, Talk.run_notify hopen rfl, rfl, rfl⟩

theorem operationStep_greet (hopen : c.closed = false) :
    ∃ messages outcome c', Talk.greet.run.run c = (outcome, c') ∧
      c'.link.record = c.link.record ++ messages ∧
      OperationStep c.callerState .greet messages outcome c'.callerState := by
  rw [Talk.run_greet hopen]
  obtain ⟨answer, c₁, hask, hstanding₁, hrecord₁⟩ := run_query_recording hopen (greeting c.info)
  cases hverdict : (greeting c.info).queryResult c.nextId answer with
  | error fault =>
    rw [hverdict] at hask
    exact ⟨_, _, c₁, Talk.run_bind_error hask, hrecord₁, hstanding₁ ▸ .unwelcome hopen hverdict⟩
  | ok welcome =>
    rw [hverdict] at hask
    rw [Talk.run_bind_ok hask]
    have hopen₁ : c₁.closed = false := (congrArg CallerState.closed hstanding₁).trans hopen
    obtain ⟨notified, c₂, hnotify, hstanding₂, hrecord₂⟩ :=
      run_notify_recording hopen₁ confirmation.method confirmation.params
    rw [hrecord₁, List.append_assoc] at hrecord₂
    rw [hstanding₁] at hstanding₂
    cases notified with
    | error fault =>
      exact ⟨_, _, c₂, Talk.run_bind_error hnotify, hrecord₂,
        hstanding₂ ▸ .unconfirmed hopen hverdict fault⟩
    | ok _ =>
      have hremembered : ({ c₂ with server := some welcome } : Caller (RecordingLink τ) κ).callerState =
          { c.callerState.advanced with server := some welcome } := by
        rw [← hstanding₂]
        rfl
      exact ⟨_, _, { c₂ with server := some welcome }, Talk.run_bind_ok hnotify, hrecord₂,
        hremembered ▸ .welcomed hopen hverdict⟩

/-- Every operation performs one of its transitions, and the messages that it sends are recorded. -/
theorem operationStep (c : Caller (RecordingLink τ) κ) (op : Operation α) :
    ∃ messages outcome c', op.talk.run.run c = (outcome, c') ∧
      c'.link.record = c.link.record ++ messages ∧
      OperationStep c.callerState op messages outcome c'.callerState := by
  by_cases hopen : c.closed = false
  · cases hq : op.query? with
    | some q =>
      obtain ⟨answer, c', hrun, hstanding, hrecord⟩ := run_query_recording hopen q
      rw [Operation.talk_of_query hq]
      exact ⟨_, _, c', hrun, hrecord, hstanding ▸ .asked hopen hq answer⟩
    | none =>
      cases op with
      | notify method params =>
        obtain ⟨notified, c', hrun, hstanding, hrecord⟩ := run_notify_recording hopen method params
        exact ⟨_, _, c', hrun, hrecord, by rw [hstanding]; exact .notified hopen method params notified⟩
      | close => exact ⟨_, _, _, Talk.run_close hopen rfl, rfl, .shut hopen _⟩
      | greet => exact operationStep_greet hopen
      | _ => cases hq
  · have hclosed : c.closed = true := by simpa using hopen
    by_cases hop : op.isClose = false
    · exact ⟨[], _, c, op.run_closed hclosed hop, by simp, .refused hclosed hop⟩
    · cases op with
      | close =>
        exact ⟨[], .ok (), c, Talk.run_close_closed hclosed, by simp, .idle hclosed⟩
      | _ => simp [Operation.isClose] at hop

end

/-! ### Forgetting the record -/

def Caller.erase (c : Caller (RecordingLink τ) κ) : Caller τ κ where
  link := c.link.link
  info := c.info
  nextId := c.nextId
  closed := c.closed
  router := c.router
  heard := c.heard
  server := c.server

theorem erase_foldl_hear (sent : List Notification) (c : Caller (RecordingLink τ) κ) :
    (sent.foldl Caller.hear c).erase = sent.foldl Caller.hear c.erase := by
  induction sent generalizing c with
  | nil => rfl
  | cons n sent ih => exact ih (c.hear n)

/-- A computation has the same outcome and the same effects without a recording transport. -/
def ErasesTo (x : Talk (RecordingLink τ) κ α) (y : Talk τ κ α) : Prop :=
  ∀ c, y.run.run c.erase = ((x.run.run c).1, (x.run.run c).2.erase)

namespace ErasesTo

theorem bind {x : Talk (RecordingLink τ) κ α} {y : Talk τ κ α} {f : α → Talk (RecordingLink τ) κ β}
    {g : α → Talk τ κ β} (h : ErasesTo x y) (hnext : ∀ a, ErasesTo (f a) (g a)) :
    ErasesTo (x >>= f) (y >>= g) := by
  intro c
  have hxy := h c
  generalize hx : x.run.run c = result at hxy
  obtain ⟨outcome, c'⟩ := result
  cases outcome with
  | ok a => rw [Talk.run_bind_ok hx, Talk.run_bind_ok hxy, hnext a c']
  | error fault => rw [Talk.run_bind_error hx, Talk.run_bind_error hxy]

variable [Link τ]

theorem query (q : Query α) : ErasesTo (q.talk : Talk (RecordingLink τ) κ α) q.talk := by
  intro c
  by_cases hopen : c.closed = false
  · obtain ⟨outcome, arrived, link, h⟩ : ∃ outcome arrived link,
        Link.request (q.request c.nextId) c.link.link = (outcome, arrived, link) := ⟨_, _, _, rfl⟩
    have hrecorded : Link.request (q.request c.nextId) c.link = (outcome, arrived,
        { link, record := c.link.record ++ [.request (q.request c.nextId) outcome] }) := by
      simp only [Link.request, h]
    rw [Talk.run_query hopen q hrecorded, Talk.run_query (c := c.erase) hopen q h,
      erase_foldl_hear]
    rfl
  · have hclosed : c.closed = true := by simpa using hopen
    rw [Talk.run_query_closed hclosed, Talk.run_query_closed (c := c.erase) hclosed]

theorem notify (method : String) (params : Option Json) :
    ErasesTo (Talk.notify method params : Talk (RecordingLink τ) κ Unit) (Talk.notify method params) := by
  intro c
  by_cases hopen : c.closed = false
  · rw [Talk.run_notify hopen rfl, Talk.run_notify (c := c.erase) hopen rfl]
    rfl
  · have hclosed : c.closed = true := by simpa using hopen
    have hrecorded := (Operation.notify method params).run_closed hclosed rfl
    have hplain := (Operation.notify method params).run_closed (c := c.erase) hclosed rfl
    rw [show (Talk.notify method params).run.run c = _ from hrecorded]
    exact hplain

theorem greet : ErasesTo (Talk.greet : Talk (RecordingLink τ) κ Welcome) Talk.greet := by
  intro c
  by_cases hopen : c.closed = false
  · rw [Talk.run_greet hopen, Talk.run_greet (c := c.erase) hopen]
    refine bind (query (greeting c.info)) (fun welcome => ?_) c
    exact bind (notify _ _) fun _ => fun c => rfl
  · have hclosed : c.closed = true := by simpa using hopen
    have hrecorded := Operation.greet.run_closed hclosed rfl
    have hplain := Operation.greet.run_closed (c := c.erase) hclosed rfl
    rw [show Talk.greet.run.run c = _ from hrecorded]
    exact hplain

theorem close : ErasesTo (Talk.close : Talk (RecordingLink τ) κ Unit) Talk.close := by
  intro c
  by_cases hopen : c.closed = false
  · rw [Talk.run_close hopen rfl, Talk.run_close (c := c.erase) hopen rfl]
    rfl
  · have hclosed : c.closed = true := by simpa using hopen
    rw [Talk.run_close_closed hclosed, Talk.run_close_closed (c := c.erase) hclosed]

theorem operation (op : Operation α) : ErasesTo (op.talk : Talk (RecordingLink τ) κ α) op.talk := by
  cases hq : op.query? with
  | some q =>
    rw [Operation.talk_of_query hq, Operation.talk_of_query hq]
    exact query q
  | none =>
    cases op with
    | notify method params => exact notify method params
    | greet => exact greet
    | close => exact close
    | _ => cases hq

end ErasesTo

end ReleaseDesk.Client
