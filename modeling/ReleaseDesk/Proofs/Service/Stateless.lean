import ReleaseDesk.Proofs.Service.Notice
import ReleaseDesk.Service.Script
import ReleaseDesk.Service.Session

/-! Stateless handlers. A handler that preserves the world and the level filter has no effect
besides its notifications and the progress tokens it leaves active; the filter is then determined by
the requests. A script is such a handler in syntax: its notifications and its outcome are a function
of the arguments and the context, and it refers to its progress tokens by index. -/

namespace ReleaseDesk.Service

open ReleaseDesk.Protocol

/-! ### Preserving the world -/

/-- The action preserves the world and the level filter. -/
def PreservesWorld (action : Action ω α) : Prop :=
  ∀ scene, (action.run scene).2.world = scene.world ∧ (action.run scene).2.level = scene.level

namespace PreservesWorld

theorem pure (a : α) : PreservesWorld (ω := ω) (Pure.pure a) := fun _ => ⟨rfl, rfl⟩

theorem bind {action : Action ω α} {next : α → Action ω β} (h : PreservesWorld action)
    (hnext : ∀ a, PreservesWorld (next a)) : PreservesWorld (action >>= next) := by
  intro scene
  obtain ⟨hworld, hlevel⟩ := h scene
  obtain ⟨hworld', hlevel'⟩ := hnext (action.run scene).1 (action.run scene).2
  exact ⟨hworld'.trans hworld, hlevel'.trans hlevel⟩

theorem map {action : Action ω α} (f : α → β) (h : PreservesWorld action) : PreservesWorld (f <$> action) :=
  fun scene => h scene

theorem get : PreservesWorld (ω := ω) MonadState.get := fun _ => ⟨rfl, rfl⟩

theorem log (c : Context) (level : LogLevel) (text : String) (data : Option Json) :
    PreservesWorld (ω := ω) (Action.log c level text data) := by
  intro scene
  rw [Action.log_run]
  split_ifs <;> exact ⟨rfl, rfl⟩

theorem startProgress (total : Nat) (message : String) :
    PreservesWorld (ω := ω) (Action.startProgress total message) := fun _ => ⟨rfl, rfl⟩

theorem updateProgress (token : ProgressToken) (done : Nat) (message : String) :
    PreservesWorld (ω := ω) (Action.updateProgress token done message) := by
  intro scene
  rw [Action.updateProgress_run]
  exact ⟨rfl, rfl⟩

theorem completeProgress (token : ProgressToken) (message : String) :
    PreservesWorld (ω := ω) (Action.completeProgress token message) := by
  intro scene
  rw [Action.completeProgress_run]
  exact ⟨rfl, rfl⟩

theorem act (c : Context) (begun : List ProgressToken) (act : Act) :
    PreservesWorld (ω := ω) (act.perform c begun) := by
  cases act with
  | log level text data => exact (log c level text data).bind fun _ => pure _
  | start total message => exact (startProgress total message).bind fun _ => pure _
  | update piece done message =>
    simp only [Act.perform]
    cases begun[piece]? with
    | none => exact pure _
    | some token => exact (updateProgress token done message).bind fun _ => pure _
  | complete piece message =>
    simp only [Act.perform]
    cases begun[piece]? with
    | none => exact pure _
    | some token => exact (completeProgress token message).bind fun _ => pure _

theorem withParams {codec : Wire.Codec α} {params : Option Json}
    {go : α → Action ω (Except Rpc.Fault Json)} (h : ∀ a, PreservesWorld (go a)) :
    PreservesWorld (Dispatcher.withParams codec params go) := by
  unfold Dispatcher.withParams
  cases readParams codec params with
  | error fault => exact pure _
  | ok a => exact h a

end PreservesWorld

/-! ### Scripts -/

/-- The syntax of a stateless handler: notifications in the name of a context, progress operations,
and an outcome. A script may query whether one of its own tokens is active, and how many are. -/
inductive HandlerScript (α : Type)
  | give (a : α)
  | send (c : Context) (act : Act) (next : HandlerScript α)
  | isActive (piece : Nat) (next : Bool → HandlerScript α)
  | count (next : Nat → HandlerScript α)

/-- Interprets a script. `begun` are the tokens of its progress so far. -/
def HandlerScript.perform : List ProgressToken → HandlerScript α → Action ω α
  | _, .give a => pure a
  | begun, .send c act next => do
    let begun ← act.perform c begun
    next.perform begun
  | begun, .isActive piece next => do
    let scene ← get
    (next (begun[piece]?.any scene.tracker.isActive)).perform begun
  | begun, .count next => do
    let scene ← get
    (next scene.tracker.count).perform begun

theorem PreservesWorld.script (begun : List ProgressToken) (script : HandlerScript α) :
    PreservesWorld (ω := ω) (script.perform begun) := by
  induction script generalizing begun with
  | give a => exact .pure a
  | send c act next ih => exact (PreservesWorld.act c begun act).bind ih
  | isActive piece next ih => exact PreservesWorld.get.bind fun scene => ih _ begun
  | count next ih => exact PreservesWorld.get.bind fun scene => ih _ begun

/-- All handlers preserve the world and the level filter. -/
structure Registry.Stateless (r : Registry ω) : Prop where
  tools : ∀ h ∈ r.tools.toList, ∀ arguments c, PreservesWorld (h.call arguments c)
  resources : ∀ h ∈ r.resources.toList, ∀ c, PreservesWorld (h.read c)
  prompts : ∀ h ∈ r.prompts.toList, ∀ arguments c, PreservesWorld (h.fill arguments c)

/-- The handlers interpret scripts, which depend on their arguments and their context. -/
structure Registry.Scripted (r : Registry ω) : Prop where
  tools : ∀ h ∈ r.tools.toList, ∀ arguments c, ∃ script : HandlerScript (Except Failure ToolResult),
    h.call arguments c = script.perform []
  resources : ∀ h ∈ r.resources.toList, ∀ c, ∃ script : HandlerScript (Except Failure ResourceResult),
    h.read c = script.perform []
  prompts : ∀ h ∈ r.prompts.toList, ∀ arguments c, ∃ script : HandlerScript (Except Failure PromptResult),
    h.fill arguments c = script.perform []

theorem Registry.Scripted.stateless {r : Registry ω} (h : r.Scripted) : r.Stateless where
  tools handler hh arguments c := by
    obtain ⟨script, hscript⟩ := h.tools handler hh arguments c
    exact hscript ▸ .script [] script
  resources handler hh c := by
    obtain ⟨script, hscript⟩ := h.resources handler hh c
    exact hscript ▸ .script [] script
  prompts handler hh arguments c := by
    obtain ⟨script, hscript⟩ := h.prompts handler hh arguments c
    exact hscript ▸ .script [] script

namespace Dispatcher

/-- The level that a request sets. -/
def setting? (o : Dispatcher ω) (r : Rpc.Request) : Option LogLevel :=
  match o.method? r.method with
  | some .setLevel => (readParams LevelSetting.codec r.params).toOption.map (·.level)
  | _ => none

variable {o : Dispatcher ω}

theorem preserves_callTool (h : o.registry.Stateless) (call : ToolCall) (c : Context) :
    PreservesWorld (o.callTool call c) := by
  unfold callTool
  cases hh : o.registry.tools.get? call.name with
  | none => exact .pure _
  | some handler => exact (h.tools handler (SortedMap.mem_of_get? hh) call.arguments c).map _

theorem preserves_readResource (h : o.registry.Stateless) (read : ResourceRead) (c : Context) :
    PreservesWorld (o.readResource read c) := by
  unfold readResource
  cases hh : o.registry.resources.get? read.uri with
  | none => exact .pure _
  | some handler => exact (h.resources handler (SortedMap.mem_of_get? hh) c).map _

theorem preserves_getPrompt (h : o.registry.Stateless) (fill : PromptFill) (c : Context) :
    PreservesWorld (o.getPrompt fill c) := by
  unfold getPrompt
  cases hh : o.registry.prompts.get? fill.name with
  | none => exact .pure _
  | some handler =>
    dsimp only
    cases handler.prompt.missing fill.arguments with
    | nil => exact (h.prompts handler (SortedMap.mem_of_get? hh) fill.arguments c).map _
    | cons name names => exact .pure _

/-- `logging/setLevel` is the only method that sets the filter. -/
theorem preserves_carryOut (h : o.registry.Stateless) (params : Option Json) (c : Context) {m : Method}
    (hm : m ≠ .setLevel) : PreservesWorld (o.carryOut params c m) := by
  cases m with
  | greet => exact .withParams fun _ => .pure _
  | callTool => exact .withParams fun call => preserves_callTool h call c
  | readResource => exact .withParams fun read => preserves_readResource h read c
  | getPrompt => exact .withParams fun fill => preserves_getPrompt h fill c
  | setLevel => exact absurd rfl hm
  | _ => exact .pure _

/-- A request preserves the world, and the filter ends at the level that the request sets, or where
it was. -/
theorem route_preserves (h : o.registry.Stateless) (r : Rpc.Request) (c : Context) (scene : Scene ω) :
    ((o.route r.method r.params c).run scene).2.world = scene.world ∧
      ((o.route r.method r.params c).run scene).2.level = (o.setting? r).getD scene.level := by
  unfold route setting?
  cases o.method? r.method with
  | none => exact ⟨rfl, rfl⟩
  | some m =>
    by_cases hm : m = .setLevel
    · subst hm
      dsimp only [carryOut]
      unfold withParams
      cases readParams LevelSetting.codec r.params <;> exact ⟨rfl, rfl⟩
    · obtain ⟨hworld, hlevel⟩ := preserves_carryOut h r.params c hm scene
      refine ⟨hworld, hlevel.trans ?_⟩
      cases m <;> first | rfl | exact absurd rfl hm

end Dispatcher

end ReleaseDesk.Service
