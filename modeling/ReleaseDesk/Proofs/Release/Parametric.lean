import ReleaseDesk.Proofs.Release.Backend

/-! Handlers as functions of the types behind a release server. Every handler is defined for all types of
adapters and plugin managers at once, and composed of a fixed set of operations. `Parametric` is the
inductive predicate of such families of actions. One walk over the handlers shows that they satisfy it; a
property that the operations have and that sequencing keeps then follows by induction on the predicate. -/

namespace ReleaseDesk.Release

open ReleaseDesk.Service ReleaseDesk.Plugin ReleaseDesk.Protocol

/-- A type of adapters and a type of plugin managers. -/
structure Parties where
  σ : Type
  π : Type
  [adapter : Adapter σ]
  [manager : Manager π]

attribute [instance] Parties.adapter Parties.manager

/-- Families of actions composed of the operations on a backend, the clock, and the operations of a context.
Progress is reported only if `reports` is true. -/
inductive Parametric (c : Context) (reports : Bool) :
    {α : Type} → (∀ p : Parties, Action (Backend p.σ p.π) α) → Prop
  | pure {α : Type} (a : α) : Parametric c reports fun _ => Pure.pure a
  | bind {α β : Type} {x : ∀ p : Parties, Action (Backend p.σ p.π) α}
    {f : ∀ p : Parties, α → Action (Backend p.σ p.π) β} (hx : Parametric c reports x)
    (hf : ∀ a, Parametric c reports fun p => f p a) : Parametric c reports fun p => x p >>= f p
  | clock {α : Type} {f : ∀ p : Parties, Timestamp → Action (Backend p.σ p.π) α}
    (hf : ∀ now, Parametric c reports fun p => f p now) :
    Parametric c reports fun p => get >>= fun scene => f p scene.supply.now
  | hasAdapter : Parametric c reports fun _ => Backend.hasAdapter
  | perform (s : Step) (input : s.Input) : Parametric c reports fun _ => Backend.perform s input
  | plugins : Parametric c reports fun _ => Backend.ask Manager.plugins
  | plugin (name : String) : Parametric c reports fun _ => Backend.ask (Manager.plugin name)
  | run (hook : Hook) (context : ReleaseContext) :
    Parametric c reports fun _ => Backend.ask (Manager.run hook context)
  | log (call : LogCall) : Parametric c reports fun _ => call.perform c
  | start (h : reports = true) (total : Nat) (message : String) :
    Parametric c reports fun _ => Action.startProgress total message
  | complete (h : reports = true) (token : ProgressToken) (message : String) :
    Parametric c reports fun _ => Action.completeProgress token message

namespace Parametric

variable {c : Context} {reports : Bool} {x : ∀ p : Parties, Action (Backend p.σ p.π) α}

/-- Progress may be reported, but need not. -/
theorem reporting (h : Parametric c false x) : Parametric c true x := by
  induction h with
  | pure a => exact .pure a
  | bind _ _ ihx ihf => exact .bind ihx ihf
  | clock _ ih => exact .clock ih
  | hasAdapter => exact .hasAdapter
  | perform s input => exact .perform s input
  | plugins => exact .plugins
  | plugin name => exact .plugin name
  | run hook context => exact .run hook context
  | log call => exact .log call
  | start h | complete h => cases h

/-! ### Interaction trees -/

theorem isTree_perform [Adapter σ] (s : Step) (input : s.Input) :
    IsTree c (Backend.perform (σ := σ) (π := π) s input) := by
  refine .of_run (fun world supply _ => world.adapter.elim (.error .notConfigured, world, supply)
    fun adapter =>
      ((Adapter.perform s input supply adapter).1,
        { world with adapter := some (Adapter.perform s input supply adapter).2.1 },
        (Adapter.perform s input supply adapter).2.2)) fun scene => ?_
  unfold Backend.perform
  simp only [StateT.run_bind, StateT.run_get, pure_bind]
  cases scene.world.adapter <;> rfl

theorem isTree_ask (question : π → Except Plugin.Fault α × π) :
    IsTree c (Backend.ask (σ := σ) question) := by
  refine .of_run (fun world supply _ => world.manager.elim (.error .notConfigured, world, supply)
    fun manager =>
      ((question manager).1, { world with manager := some (question manager).2 }, supply))
    fun scene => ?_
  unfold Backend.ask
  simp only [StateT.run_bind, StateT.run_get, pure_bind]
  cases scene.world.manager <;> rfl

/-- The members of a parametric family are given by trees. -/
theorem isTree (h : Parametric c reports x) (p : Parties) : IsTree c (x p) := by
  induction h with
  | pure a => exact .pure a
  | bind _ _ ihx ihf => exact ihx.bind ihf
  | clock _ ih => exact .read (fun scene => ih scene.supply.now) fun s s' _ hsupply _ => by rw [hsupply]
  | hasAdapter => exact .of_run (fun world supply _ => (world.adapter.isSome, world, supply)) fun _ => rfl
  | perform s input => exact isTree_perform s input
  | plugins | plugin | run => exact isTree_ask _
  | log call => exact ⟨.log call (.done ()), rfl⟩
  | start _ total message => exact .startProgress total message
  | complete _ token message => exact .completeProgress token message

end Parametric

/-! ### Handlers -/

/-- Families of handlers whose actions are parametric. -/
inductive ParametricHandler (reports : Bool) : (∀ p : Parties, Handler (Backend p.σ p.π)) → Prop
  | tool {h : ∀ p : Parties, ToolHandler (Backend p.σ p.π)}
    (hkey : ∀ p p', (h p).tool.name = (h p').tool.name)
    (hcall : ∀ arguments c, Parametric c reports fun p => (h p).call arguments c) :
    ParametricHandler reports fun p => .tool (h p)
  | resource {h : ∀ p : Parties, ResourceHandler (Backend p.σ p.π)}
    (hkey : ∀ p p', (h p).resource.uri = (h p').resource.uri)
    (hread : ∀ c, Parametric c reports fun p => (h p).read c) :
    ParametricHandler reports fun p => .resource (h p)
  | prompt {h : ∀ p : Parties, PromptHandler (Backend p.σ p.π)}
    (hkey : ∀ p p', (h p).prompt.name = (h p').prompt.name)
    (hfill : ∀ arguments c, Parametric c reports fun p => (h p).fill arguments c) :
    ParametricHandler reports fun p => .prompt (h p)

theorem ParametricHandler.reporting {h : ∀ p : Parties, Handler (Backend p.σ p.π)}
    (hh : ParametricHandler false h) : ParametricHandler true h := by
  cases hh with
  | tool hkey hcall => exact .tool hkey fun arguments c => (hcall arguments c).reporting
  | resource hkey hread => exact .resource hkey fun c => (hread c).reporting
  | prompt hkey hfill => exact .prompt hkey fun arguments c => (hfill arguments c).reporting

theorem ParametricHandler.isTree {reports : Bool} {h : ∀ p : Parties, Handler (Backend p.σ p.π)}
    (hh : ParametricHandler reports h) (p : Parties) : (h p).IsTree := by
  cases hh with
  | tool _ hcall => exact fun arguments c => (hcall arguments c).isTree p
  | resource _ hread => exact fun c => (hread c).isTree p
  | prompt _ hfill => exact fun arguments c => (hfill arguments c).isTree p

section Steps

variable {c : Context} {reports : Bool}

theorem Step.parametric_logOutcome (s : Step) (outcome : Except Refusal s.Output) :
    Parametric c reports fun _ => s.logOutcome c outcome := by
  unfold Step.logOutcome
  cases s.logCall? outcome with
  | none => exact .pure _
  | some call => exact .log call

/-- A step reports progress only if it is enclosed in reports. -/
theorem Step.parametric_enclosed {s : Step} {input : s.Input}
    (h : (s.startMessage? input).isSome = true → reports = true) :
    Parametric c reports fun _ => s.enclosed c input := by
  cases hs : s.startMessage? input with
  | none =>
    simp only [Step.enclosed_of_not_startMessage hs]
    exact (Parametric.perform s input).bind fun outcome =>
      (s.parametric_logOutcome outcome).bind fun _ => .pure _
  | some startMessage =>
    have hreports : reports = true := h (by rw [hs]; rfl)
    simp only [Step.enclosed_of_startMessage hs]
    exact (Parametric.start hreports _ _).bind fun token => (Parametric.perform s input).bind
      fun outcome => (Parametric.complete hreports _ _).bind fun _ =>
        (s.parametric_logOutcome outcome).bind fun _ => .pure _

theorem Step.parametric_call {s : Step} {v : Json}
    (h : ∀ input, s.readInput v = .ok input → (s.startMessage? input).isSome = true → reports = true) :
    Parametric c reports fun _ => s.handler.call v c := by
  unfold Step.handler
  dsimp only
  cases hinput : s.readInput v with
  | error inputError => exact .pure _
  | ok input =>
    refine Parametric.hasAdapter.bind fun present => ?_
    cases present with
    | true => exact (Step.parametric_enclosed (h input hinput)).bind fun outcome => .pure _
    | false => exact .pure _

theorem Step.parametric_handler (s : Step) : ParametricHandler true fun _ => .tool s.handler :=
  .tool (fun _ _ => rfl) fun _ _ => Step.parametric_call fun _ _ _ => rfl

end Steps

theorem parametric_status : ParametricHandler false fun _ => .resource statusHandler := by
  refine .resource (fun _ _ => rfl) fun c => (Parametric.perform _ _).bind fun outcome => ?_
  cases outcome <;> exact .pure _

theorem parametric_notes : ParametricHandler false fun _ => .resource notesHandler := by
  refine .resource (fun _ _ => rfl) fun c => (Parametric.perform _ _).bind fun outcome => ?_
  cases outcome with
  | error refusal => exact .pure _
  | ok status =>
    dsimp only
    cases status.notes <;> exact .pure _

theorem parametric_list : ParametricHandler false fun _ => .tool listHandler := by
  refine .tool (fun _ _ => rfl) fun v c => Parametric.plugins.bind fun answer => ?_
  cases answer <;> exact .pure _

theorem parametric_info : ParametricHandler false fun _ => .tool infoHandler := by
  refine .tool (fun _ _ => rfl) fun v c => ?_
  unfold infoHandler
  dsimp only
  cases readArguments InfoArguments.record.codec {} v with
  | error inputError => exact .pure _
  | ok arguments =>
    dsimp only
    split_ifs
    · exact .pure _
    · refine (Parametric.plugin _).bind fun answer => ?_
      cases answer <;> exact .pure _

theorem parametric_hook : ParametricHandler false fun _ => .tool hookHandler := by
  refine .tool (fun _ _ => rfl) fun v c => ?_
  unfold hookHandler
  dsimp only
  cases readHook v with
  | error inputError => exact .pure _
  | ok p =>
    refine (Parametric.run _ _).bind fun answer => ?_
    cases answer with
    | error fault => exact .pure _
    | ok outcomes =>
      refine Parametric.clock (α := Except Failure ToolResult) (f := fun _ now => do
        let summary := HookSummary.ofOutcomes p.1 outcomes now
        if 0 < summary.failed then Action.log c .warning summary.warning
        return .ok (.ofText (HookSummary.codec.pretty summary))) fun now => ?_
      dsimp only
      split_ifs
      · exact (Parametric.log { level := .warning, text := _ }).bind fun _ => .pure _
      · exact .pure _

theorem parametric_plugins : ParametricHandler false fun _ => .resource pluginsHandler := by
  refine .resource (fun _ _ => rfl) fun c => Parametric.plugins.bind fun answer => ?_
  cases answer <;> exact .pure _

/-- The handlers of a release server as families. -/
def handlerFamilies : List (∀ p : Parties, Handler (Backend p.σ p.π)) :=
  Step.all.map (fun s _ => .tool s.handler) ++
    [fun _ => .resource statusHandler, fun _ => .resource notesHandler,
      fun _ => .prompt summaryHandler, fun _ => .prompt reviewHandler] ++
    [fun _ => .tool listHandler, fun _ => .tool infoHandler, fun _ => .tool hookHandler,
      fun _ => .resource pluginsHandler]

theorem map_handlerFamilies (p : Parties) :
    handlerFamilies.map (fun h => h p) = serverHandlers (σ := p.σ) (π := p.π) := rfl

/-- Only the tools of steps report progress. -/
theorem parametric_families : ∀ h ∈ handlerFamilies,
    (∃ s : Step, h = fun _ => .tool s.handler) ∨ ParametricHandler false h := by
  refine List.forall_mem_append.mpr ⟨List.forall_mem_append.mpr ⟨?_, ?_⟩, ?_⟩
  · intro h hh
    obtain ⟨s, -, rfl⟩ := List.mem_map.mp hh
    exact .inl ⟨s, rfl⟩
  · exact List.forall_mem_cons.mpr ⟨.inr parametric_status, List.forall_mem_cons.mpr
      ⟨.inr parametric_notes, List.forall_mem_cons.mpr ⟨.inr (.prompt (fun _ _ => rfl) fun _ _ => .pure _),
        List.forall_mem_singleton.mpr (.inr (.prompt (fun _ _ => rfl) fun _ _ => .pure _))⟩⟩⟩
  · exact List.forall_mem_cons.mpr ⟨.inr parametric_list, List.forall_mem_cons.mpr
      ⟨.inr parametric_info, List.forall_mem_cons.mpr ⟨.inr parametric_hook,
        List.forall_mem_singleton.mpr (.inr parametric_plugins)⟩⟩⟩

theorem parametricHandler_of_mem {h : ∀ p : Parties, Handler (Backend p.σ p.π)}
    (hh : h ∈ handlerFamilies) : ParametricHandler true h := by
  obtain ⟨s, rfl⟩ | hquiet := parametric_families h hh
  · exact s.parametric_handler
  · exact hquiet.reporting

/-- The handlers of a release server are given by trees. -/
theorem isTree_serverHandlers [Adapter σ] [Manager π] :
    ∀ h ∈ serverHandlers (σ := σ) (π := π), h.IsTree := by
  have hall := List.forall_mem_map.mpr fun h hh => (parametricHandler_of_mem hh).isTree ⟨σ, π⟩
  rwa [map_handlerFamilies] at hall

end ReleaseDesk.Release
