import ReleaseDesk.Proofs.Rpc.Envelope
import ReleaseDesk.Service.Session

/-! The response to a request. The outcome of the method is sent under the id of the request, or
dropped if there is none; the notifications of the method belong to the call. Every result is an
object in normal form, and methods do not distinguish parameters from their normal form. -/

namespace ReleaseDesk.Service

open ReleaseDesk.Protocol ReleaseDesk.Wire

/-- The response to a request with this id, given the outcome of its method. -/
def answerOf (id : Rpc.RequestId) : Except Rpc.Fault Json → Rpc.Response
  | .ok result => .success (some id) result
  | .error fault => .failure (some id) fault.errorObject

@[simp] theorem answerOf_id (id : Rpc.RequestId) (outcome : Except Rpc.Fault Json) :
    (answerOf id outcome).id = some id := by
  cases outcome <;> rfl

theorem errorObject_arrived (fault : Rpc.Fault) : fault.errorObject.arrived = fault.errorObject := by
  cases fault <;> rfl

theorem errorObject_code (fault : Rpc.Fault) :
    -0x80000000 ≤ fault.errorObject.code ∧ fault.errorObject.code < 0x80000000 := by
  cases fault <;> simp [Rpc.Fault.errorObject, Rpc.Fault.code]

theorem answerOf_inRange {id : Rpc.RequestId} (h : id.InRange) (outcome : Except Rpc.Fault Json) :
    (answerOf id outcome).InRange where
  id i hi := by
    rw [answerOf_id, Option.some.injEq] at hi
    exact hi ▸ h
  code e he := by
    cases outcome with
    | ok result => cases he
    | error fault =>
      cases he
      exact errorObject_code fault

/-- Sending and receiving a response keeps it if its result is in normal form. -/
theorem answerOf_arrived {id : Rpc.RequestId} (h : id ≠ .null) {outcome : Except Rpc.Fault Json}
    (ho : ∀ v, outcome = .ok v → ∃ ms, v = (Json.object ms).normal) :
    (answerOf id outcome).arrived = answerOf id outcome := by
  cases outcome with
  | ok v =>
    obtain ⟨ms, rfl⟩ := ho v rfl
    have hv : Rpc.arrivedValue (some (Json.object ms).normal) = some (Json.object ms).normal := by
      rw [Rpc.arrivedValue_some (by simp [Json.normal]), Json.normal_normal]
    simp [answerOf, Rpc.Response.success, Rpc.Response.arrived, h, hv]
  | error fault =>
    simp [answerOf, Rpc.Response.failure, Rpc.Response.arrived, h, errorObject_arrived]

theorem Action.observed_run (action : Action ω α) (scene : Scene ω) :
    (Action.observed action).run scene =
      (((action.run { scene with sent := [] }).1, (action.run { scene with sent := [] }).2.sent),
        { (action.run { scene with sent := [] }).2 with sent := [] }) := rfl

/-! ### Operations of a context -/

theorem Action.log_run (c : Context) (level : LogLevel) (text : String) (data : Option Json)
    (s : Scene ω) :
    (Action.log c level text data).run s =
      ((), if level.passes s.level then
          { s with sent := s.sent ++ [(logMessage c.logger level text data).notification] }
        else s) := by
  simp only [Action.log, StateT.run_bind, StateT.run_get, pure_bind]
  split_ifs <;> rfl

theorem Action.startProgress_run (total : Nat) (message : String) (s : Scene ω) :
    (Action.startProgress total message).run s =
      (.string s.supply.fresh,
        { s with
          supply := s.supply.taken
          tracker := (s.tracker.start (.string s.supply.fresh) total message).2
          sent := s.sent ++
            [(s.tracker.start (.string s.supply.fresh) total message).1.notification] }) := rfl

theorem Action.updateProgress_run (token : ProgressToken) (done : Nat) (message : String)
    (s : Scene ω) :
    (Action.updateProgress token done message).run s =
      ((), { s with
        sent := s.sent ++ (s.tracker.update token done message).toList.map Progress.notification }) := by
  simp only [Action.updateProgress, StateT.run_bind, StateT.run_get, pure_bind]
  cases s.tracker.update token done message with
  | none =>
    simp only [Option.toList_none, List.map_nil, List.append_nil]
    rfl
  | some report => rfl

theorem Action.completeProgress_run (token : ProgressToken) (message : String) (s : Scene ω) :
    (Action.completeProgress token message).run s =
      ((), { s with
        tracker := (s.tracker.complete token message).2
        sent := s.sent ++
          (s.tracker.complete token message).1.toList.map Progress.notification }) := by
  simp only [Action.completeProgress, StateT.run_bind, StateT.run_get, StateT.run_set, pure_bind]
  cases (s.tracker.complete token message).1 with
  | none =>
    simp only [Option.toList_none, List.map_nil, List.append_nil]
    rfl
  | some report => rfl

namespace Dispatcher

/-- The context in which the method of a request runs. -/
def context (o : Dispatcher ω) (r : Rpc.Request) : Context :=
  { requestId := r.id, method := r.method, logger := some o.info.name }

theorem dispatch_run (o : Dispatcher ω) (r : Rpc.Request) (scene : Scene ω) :
    (o.dispatch r).run scene =
      (r.id.map fun id => answerOf id ((o.route r.method r.params (o.context r)).run scene).1,
        ((o.route r.method r.params (o.context r)).run scene).2) := by
  simp only [dispatch, context, StateT.run_bind]
  generalize (o.route r.method r.params _).run scene = p
  obtain ⟨outcome, after⟩ := p
  cases outcome <;> rfl

end Dispatcher

theorem Server.handle_eq (s : Server ω) (r : Rpc.Request) :
    s.handle r =
      let route := (s.service.route r.method r.params (s.service.context r)).run { s.scene with sent := [] }
      (route.2.sent, r.id.map fun id => answerOf id route.1,
        { s with phase := s.phase.after r.method, scene := { route.2 with sent := [] } }) := by
  simp only [Server.handle, Action.observed_run, Dispatcher.dispatch_run]

/-- `handle` responds under the id of the request, if any, with the outcome of its method. -/
theorem Server.handle_answer (s : Server ω) (r : Rpc.Request) :
    (s.handle r).2.1 = r.id.map fun id => answerOf id
      ((s.service.route r.method r.params (s.service.context r)).run { s.scene with sent := [] }).1 := by
  rw [handle_eq]

namespace Dispatcher

/-! ### Parameters -/

theorem withParams_normal (c : Codec α) (params : Option Json)
    (go : α → Action ω (Except Rpc.Fault Json)) :
    withParams c (params.map Json.normal) go = withParams c params go := by
  cases params with
  | none => rfl
  | some v => simp only [withParams, readParams, Option.map_some, Codec.ofJson_normal]

/-- A method has the same outcome on parameters and on their normal form. -/
theorem route_normal (o : Dispatcher ω) (name : String) (params : Option Json) (c : Context) :
    o.route name (params.map Json.normal) c = o.route name params c := by
  unfold route
  cases o.method? name with
  | none => rfl
  | some m => cases m <;> simp only [carryOut, withParams_normal]

theorem dispatch_normal (o : Dispatcher ω) (r : Rpc.Request) :
    o.dispatch { r with params := r.params.map Json.normal } = o.dispatch r := by
  simp only [dispatch, route_normal]

/-! ### Outcomes of a method -/

/-- A predicate on outcomes that holds of every refusal by the protocol, every result that the
dispatcher computes itself, and every result of a registered handler. -/
structure Covers (o : Dispatcher ω) (c : Context)
    (P : Action ω (Except Rpc.Fault Json) → Prop) : Prop where
  refused (fault : Rpc.Fault) (hf : ∀ detail, fault ≠ .internal detail) : P (pure (.error fault))
  record {α : Type} (r : Record α) (a : α) : P (pure (.ok (r.codec.toJson a)))
  nothing : P (pure (.ok Service.nothing))
  level (level : LogLevel) : P (do
    modify fun scene => { scene with level }
    pure (.ok Service.nothing))
  tool (name : String) (h : ToolHandler ω) (hh : o.registry.tools.get? name = some h)
    (arguments : Json) : P (handled ToolResult.codec <$> h.call arguments c)
  resource (uri : String) (h : ResourceHandler ω) (hh : o.registry.resources.get? uri = some h) :
    P (handled ResourceResult.codec <$> h.read c)
  prompt (name : String) (h : PromptHandler ω) (hh : o.registry.prompts.get? name = some h)
    (arguments : List (String × String)) :
    P (handled PromptResult.codec <$> h.fill arguments c)

namespace Covers

variable {o : Dispatcher ω} {c : Context} {P : Action ω (Except Rpc.Fault Json) → Prop}

theorem withParams (h : Covers o c P) {codec : Codec α} {params : Option Json}
    {go : α → Action ω (Except Rpc.Fault Json)} (hgo : ∀ a, P (go a)) :
    P (Dispatcher.withParams codec params go) := by
  unfold Dispatcher.withParams readParams
  cases params with
  | none => exact h.refused _ nofun
  | some v =>
    dsimp only
    cases codec.ofJson v with
    | error fault => exact h.refused _ nofun
    | ok a => exact hgo a

theorem callTool (h : Covers o c P) (call : ToolCall) : P (o.callTool call c) := by
  unfold Dispatcher.callTool
  cases hh : o.registry.tools.get? call.name with
  | none => exact h.refused _ nofun
  | some handler => exact h.tool _ handler hh call.arguments

theorem readResource (h : Covers o c P) (read : ResourceRead) : P (o.readResource read c) := by
  unfold Dispatcher.readResource
  cases hh : o.registry.resources.get? read.uri with
  | none => exact h.refused _ nofun
  | some handler => exact h.resource _ handler hh

theorem getPrompt (h : Covers o c P) (fill : PromptFill) : P (o.getPrompt fill c) := by
  unfold Dispatcher.getPrompt
  cases hh : o.registry.prompts.get? fill.name with
  | none => exact h.refused _ nofun
  | some handler =>
    dsimp only
    cases handler.prompt.missing fill.arguments with
    | nil => exact h.prompt _ handler hh fill.arguments
    | cons name names => exact h.refused _ nofun

theorem carryOut (h : Covers o c P) (params : Option Json) (m : Method) :
    P (o.carryOut params c m) := by
  cases m with
  | greet => exact h.withParams fun _ => h.record Welcome.record _
  | greeted => exact h.nothing
  | ping => exact h.nothing
  | listTools => exact h.record ToolPage.record _
  | callTool => exact h.withParams h.callTool
  | listResources => exact h.record ResourcePage.record _
  | readResource => exact h.withParams h.readResource
  | listPrompts => exact h.record PromptPage.record _
  | getPrompt => exact h.withParams h.getPrompt
  | setLevel => exact h.withParams fun setting => h.level setting.level

theorem route (h : Covers o c P) (name : String) (params : Option Json) :
    P (o.route name params c) := by
  unfold Dispatcher.route
  cases o.method? name with
  | none => exact h.refused _ nofun
  | some m => exact h.carryOut params m

end Covers

/-! ### Results -/

/-- Every result of the action is an object in normal form. -/
def Yields (action : Action ω (Except Rpc.Fault Json)) : Prop :=
  ∀ scene v, (action.run scene).1 = .ok v → ∃ ms, v = (Json.object ms).normal

theorem yields_record (r : Record α) (a : α) : Yields (ω := ω) (pure (.ok (r.codec.toJson a))) := by
  intro scene v h
  cases h
  exact ⟨r.members a, rfl⟩

theorem yields_handled (r : Record α) (action : Action ω (Except Failure α)) :
    Yields (handled r.codec <$> action) := by
  intro scene v h
  change handled r.codec (action.run scene).1 = .ok v at h
  cases ha : (action.run scene).1 with
  | error failure =>
    rw [ha] at h
    cases h
  | ok a =>
    rw [ha] at h
    cases h
    exact ⟨r.members a, rfl⟩

theorem yields_route (o : Dispatcher ω) (name : String) (params : Option Json) (c : Context) :
    Yields (o.route name params c) := by
  have hcovers : Covers o c Yields := {
    refused := fun fault _ scene v h => nomatch h
    record := yields_record
    nothing := fun scene v h => by
      cases h
      exact ⟨[], rfl⟩
    level := fun level scene v h => by
      cases h
      exact ⟨[], rfl⟩
    tool := fun _ h _ arguments => yields_handled ToolResult.record _
    resource := fun _ h _ => yields_handled ResourceResult.record _
    prompt := fun _ h _ arguments => yields_handled PromptResult.record _ }
  exact hcovers.route name params

end Dispatcher

end ReleaseDesk.Service
