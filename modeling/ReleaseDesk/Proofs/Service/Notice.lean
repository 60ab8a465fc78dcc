import Mathlib.Tactic.Common
import ReleaseDesk.Proofs.Service.Answer
import ReleaseDesk.Proofs.Service.Registry

/-! Notices: the progress reports and log messages of a handler. `SendsNotices` is the property of an action
that it sends nothing else. It is closed under the monad operations, and a method has it if the handlers
of the registry have it. -/

namespace ReleaseDesk.Protocol

/-- A progress report or a log message. -/
inductive Notice : Rpc.Notification → Prop
  | progress (p : Progress) : Notice p.notification
  | log (m : LogMessage) : Notice m.notification

/-- Encoding and decoding keeps a notice. -/
theorem Notice.arrived {n : Rpc.Notification} (h : Notice n) :
    n.version = Rpc.version ∧ Rpc.arrivedValue n.params = n.params := by
  have same {v : Json} (hv : v ≠ .null) :
      Rpc.arrivedValue (some v.normal) = some v.normal := by
    rw [Rpc.arrivedValue_some (fun hn => hv (Wire.Codec.normal_eq_null.mp hn)), Json.normal_normal]
  cases h with
  | progress p => exact ⟨rfl, same (v := Progress.codec.write p) nofun⟩
  | log m => exact ⟨rfl, same (v := LogMessage.codec.write m) nofun⟩

end ReleaseDesk.Protocol

namespace ReleaseDesk.Service

open ReleaseDesk.Protocol

/-- The notifications that an action adds are notices. -/
def SendsNotices (action : Action ω α) : Prop :=
  ∀ scene, ∃ added, (action.run scene).2.sent = scene.sent ++ added ∧ ∀ n ∈ added, Notice n

namespace SendsNotices

theorem of_silent {action : Action ω α} (h : ∀ scene, (action.run scene).2.sent = scene.sent) :
    SendsNotices action := by
  intro scene
  refine ⟨[], ?_, List.forall_mem_nil _⟩
  rw [h, List.append_nil]

theorem pure (a : α) : SendsNotices (ω := ω) (pure a) := of_silent fun _ => rfl

theorem bind {action : Action ω α} {next : α → Action ω β} (h : SendsNotices action)
    (hnext : ∀ a, SendsNotices (next a)) : SendsNotices (action >>= next) := by
  intro scene
  obtain ⟨added, hsent, hadded⟩ := h scene
  obtain ⟨more, hmore, hall⟩ := hnext (action.run scene).1 (action.run scene).2
  refine ⟨added ++ more, ?_, List.forall_mem_append.mpr ⟨hadded, hall⟩⟩
  rw [← List.append_assoc, ← hsent]
  exact hmore

theorem map {action : Action ω α} (h : SendsNotices action) (f : α → β) : SendsNotices (f <$> action) := h

theorem send {n : Rpc.Notification} (h : Notice n) : SendsNotices (ω := ω) (Action.send n) :=
  fun _ => ⟨[n], rfl, List.forall_mem_singleton.mpr h⟩

/-! ### Operations of a context -/

theorem log (c : Context) (level : LogLevel) (text : String) (data : Option Json) :
    SendsNotices (ω := ω) (Action.log c level text data) := by
  refine bind (of_silent fun _ => rfl) fun scene => ?_
  split_ifs
  · exact send (.log _)
  · exact pure ()

theorem startProgress (total : Nat) (message : String) :
    SendsNotices (ω := ω) (Action.startProgress total message) :=
  fun _ => ⟨[_], rfl, List.forall_mem_singleton.mpr (.progress _)⟩

theorem updateProgress (token : ProgressToken) (done : Nat) (message : String) :
    SendsNotices (ω := ω) (Action.updateProgress token done message) := by
  intro scene
  refine ⟨_, by rw [Action.updateProgress_run], ?_⟩
  exact List.forall_mem_map.mpr fun report _ => .progress report

theorem completeProgress (token : ProgressToken) (message : String) :
    SendsNotices (ω := ω) (Action.completeProgress token message) := by
  intro scene
  refine ⟨_, by rw [Action.completeProgress_run], ?_⟩
  exact List.forall_mem_map.mpr fun report _ => .progress report

end SendsNotices

/-! ### Methods -/

/-- A handler sends notices only. -/
def Handler.SendsNotices : Handler ω → Prop
  | .tool h => ∀ arguments c, Service.SendsNotices (h.call arguments c)
  | .resource h => ∀ c, Service.SendsNotices (h.read c)
  | .prompt h => ∀ arguments c, Service.SendsNotices (h.fill arguments c)

/-- The handlers found in a registry send notices only. -/
def Registry.SendsNotices (r : Registry ω) : Prop := ∀ k h, r.get? k = some h → h.SendsNotices

theorem SortedMap.mem_of_get? {s : SortedMap α} {key : String} {a : α} (h : s.get? key = some a) :
    a ∈ s.toList := by
  obtain ⟨entry, hentry, rfl⟩ := Option.map_eq_some_iff.mp h
  exact List.mem_map_of_mem (List.mem_of_find?_eq_some hentry)

namespace Dispatcher

theorem sendsNotices_route {o : Dispatcher ω} (h : o.registry.SendsNotices) (name : String)
    (params : Option Json)
    (c : Context) : SendsNotices (o.route name params c) := by
  have hcovers : Covers o c SendsNotices := {
    refused := fun fault _ => .pure _
    record := fun r a => .pure _
    nothing := .pure _
    level := fun level => .of_silent fun _ => rfl
    tool := fun name handler hh arguments =>
      (h (.tool name) (.tool handler) (congrArg (Option.map Handler.tool) hh) arguments c).map _
    resource := fun uri handler hh =>
      (h (.resource uri) (.resource handler) (congrArg (Option.map Handler.resource) hh) c).map _
    prompt := fun name handler hh arguments =>
      (h (.prompt name) (.prompt handler) (congrArg (Option.map Handler.prompt) hh) arguments c).map _ }
  exact hcovers.route name params

/-- The notifications sent during the dispatch of a request are notices. -/
theorem notice_of_dispatch {o : Dispatcher ω} (h : o.registry.SendsNotices) (r : Rpc.Request)
    (scene : Scene ω) : ∀ n ∈ ((Action.observed (o.dispatch r)).run scene).1.2, Notice n := by
  rw [Action.observed_run, dispatch_run]
  obtain ⟨added, hsent, hadded⟩ :=
    sendsNotices_route h r.method r.params (o.context r) { scene with sent := [] }
  rwa [hsent, List.nil_append]

end Dispatcher

end ReleaseDesk.Service
