import Mathlib.Data.List.Forall2
import ReleaseDesk.Proofs.Release.History
import ReleaseDesk.Proofs.Release.Parametric
import ReleaseDesk.Proofs.Service.Commuting

/-! Recording adapters and plugin managers. A recording one works as before and keeps a list of its calls
with their outcomes, so that the handlers commute with erasing the lists. Every handler of a release server
succeeds, and its result shows the error messages that were recorded while it ran. -/

namespace ReleaseDesk.Release

open ReleaseDesk.Service ReleaseDesk.Plugin ReleaseDesk.Protocol

variable {σ π : Type}

/-! ### Recording -/

/-- A state with the calls made on it, the latest first. -/
structure Recording (σ ε : Type) where
  state : σ
  calls : List ε := []

/-- A call of a plugin manager with its answer. -/
inductive PluginCall
  | plugins (answer : Except Plugin.Fault (List PluginInfo))
  | plugin (name : String) (answer : Except Plugin.Fault PluginInfo)
  | run (hook : Hook) (context : ReleaseContext) (answer : Except Plugin.Fault (List HookOutcome))

instance [Adapter σ] : Adapter (Recording σ Entry) where
  perform s input supply o :=
    let (outcome, state, supply) := Adapter.perform s input supply o.state
    (outcome, { state, calls := ⟨s, input, outcome⟩ :: o.calls }, supply)

def Recording.ask (question : π → α × π) (note : α → ε) (o : Recording π ε) : α × Recording π ε :=
  let (answer, state) := question o.state
  (answer, { state, calls := note answer :: o.calls })

instance [Manager π] : Manager (Recording π PluginCall) where
  plugins := Recording.ask Manager.plugins .plugins
  plugin name := Recording.ask (Manager.plugin name) (.plugin name)
  run hook context := Recording.ask (Manager.run hook context) (.run hook context)

abbrev RecordedBackend (σ π : Type) := Backend (Recording σ Entry) (Recording π PluginCall)

/-- A backend with empty lists of calls. -/
def Backend.recorded (b : Backend σ π) : RecordedBackend σ π where
  adapter := b.adapter.map fun a => { state := a }
  manager := b.manager.map fun m => { state := m }

/-- A backend without the lists of calls. -/
def Backend.erase (b : RecordedBackend σ π) : Backend σ π where
  adapter := b.adapter.map (·.state)
  manager := b.manager.map (·.state)

def recordedScene (scene : Scene (Backend σ π)) : Scene (RecordedBackend σ π) := scene.map Backend.recorded

theorem recordedScene_erase (scene : Scene (Backend σ π)) :
    (recordedScene scene).map Backend.erase = scene := by
  obtain ⟨⟨adapter, manager⟩, -⟩ := scene
  cases adapter <;> cases manager <;> rfl

@[simp] theorem recordedScene_supply (scene : Scene (Backend σ π)) :
    (recordedScene scene).supply = scene.supply := rfl

@[simp] theorem recordedScene_adapter (scene : Scene (Backend σ π)) :
    (recordedScene scene).world.adapter = scene.world.adapter.map fun a => { state := a } := rfl

@[simp] theorem recordedScene_manager (scene : Scene (Backend σ π)) :
    (recordedScene scene).world.manager = scene.world.manager.map fun m => { state := m } := rfl

theorem perform_recording [Adapter σ] (s : Step) (input : s.Input) (supply : Supply) (a : σ) :
    Adapter.perform s input supply ({ state := a } : Recording σ Entry) =
      ((Adapter.perform s input supply a).1,
        { state := (Adapter.perform s input supply a).2.1
          calls := [⟨s, input, (Adapter.perform s input supply a).1⟩] },
        (Adapter.perform s input supply a).2.2) := rfl

theorem ask_recording (question : π → α × π) (note : α → ε) (m : π) :
    Recording.ask question note { state := m } =
      ((question m).1, { state := (question m).2, calls := [note (question m).1] }) := rfl

/-! ### Error messages -/

/-- The message of a failed outcome. -/
def errorOf (message : ε → String) : Except ε α → Option String
  | .ok _ => none
  | .error e => some (message e)

theorem forall_mem_errorOf {message : ε → String} {answer : Except ε α} {P : String → Prop}
    (h : ∀ e, answer = .error e → P (message e)) :
    ∀ text ∈ (errorOf message answer).toList, P text := by
  cases answer with
  | ok a => exact List.forall_mem_nil _
  | error e => exact List.forall_mem_singleton.mpr (h e rfl)

def Entry.error? (e : Entry) : Option String := errorOf Refusal.message e.outcome

def PluginCall.error? : PluginCall → Option String
  | plugins answer => errorOf Plugin.Fault.message answer
  | plugin _ answer => errorOf Plugin.Fault.message answer
  | run _ _ answer => errorOf Plugin.Fault.message answer

/-- The error messages among the calls recorded. -/
def Backend.errors (b : RecordedBackend σ π) : List String :=
  (b.adapter.toList.flatMap fun o => o.calls.filterMap Entry.error?) ++
    b.manager.toList.flatMap fun o => o.calls.filterMap PluginCall.error?

theorem forall_mem_errors_recordedScene (scene : Scene (Backend σ π)) {P : String → Prop} :
    ∀ text ∈ (recordedScene scene).world.errors, P text := by
  have hnone : (recordedScene scene).world.errors = [] := by
    obtain ⟨⟨adapter, manager⟩, -⟩ := scene
    cases adapter <;> cases manager <;> rfl
  rw [hnone]
  exact List.forall_mem_nil _

theorem errors_adapter (scene : Scene (Backend σ π)) (a : σ) (e : Entry) :
    Backend.errors { (recordedScene scene).world with
      adapter := some { state := a, calls := [e] } } = e.error?.toList := by
  obtain ⟨⟨adapter, manager⟩, -⟩ := scene
  have hcalls : [e].filterMap Entry.error? = e.error?.toList := by
    cases h : e.error? <;> simp [h]
  cases manager <;> simp [Backend.errors, recordedScene, Scene.map, Backend.recorded, hcalls]

theorem errors_manager (scene : Scene (Backend σ π)) (m : π) (e : PluginCall) :
    Backend.errors { (recordedScene scene).world with
      manager := some { state := m, calls := [e] } } = e.error?.toList := by
  obtain ⟨⟨adapter, manager⟩, -⟩ := scene
  have hcalls : [e].filterMap PluginCall.error? = e.error?.toList := by
    cases h : e.error? <;> simp [h]
  cases adapter <;> simp [Backend.errors, recordedScene, Scene.map, Backend.recorded, hcalls]

/-! ### Erasure -/

namespace Backend

theorem commutes_hasAdapter :
    Commutes Backend.erase (hasAdapter (σ := σ) (π := π)) hasAdapter := by
  rintro ⟨⟨adapter, manager⟩, -⟩
  cases adapter <;> rfl

theorem commutes_perform [Adapter σ] (s : Step) (input : s.Input) :
    Commutes Backend.erase (Backend.perform (σ := σ) (π := π) s input) (Backend.perform s input) := by
  rintro ⟨⟨adapter, manager⟩, -⟩
  cases adapter <;> rfl

theorem commutes_ask (question : π → Except Plugin.Fault α × π)
    (note : Except Plugin.Fault α → PluginCall) :
    Commutes Backend.erase (Backend.ask (σ := σ) question)
      (Backend.ask (Recording.ask question note)) := by
  rintro ⟨⟨adapter, manager⟩, -⟩
  cases manager <;> rfl

end Backend

/-- The members of a parametric family without and with recording commute with erasure. -/
theorem Parametric.commutes [Adapter σ] [Manager π] {c : Context} {reports : Bool}
    {x : ∀ p : Parties, Action (Backend p.σ p.π) α} (h : Parametric c reports x) :
    Commutes Backend.erase (x ⟨σ, π⟩) (x ⟨Recording σ Entry, Recording π PluginCall⟩) := by
  induction h with
  | pure a => exact .pure a
  | bind _ _ ihx ihf => exact ihx.bind ihf
  | clock _ ih => exact .get_bind fun scene => ih scene.supply.now
  | hasAdapter => exact Backend.commutes_hasAdapter
  | perform s input => exact Backend.commutes_perform s input
  | plugins | plugin | run => exact Backend.commutes_ask _ _
  | log call => exact .log _ _ _ _
  | start _ total message => exact .startProgress total message
  | complete _ token message => exact .completeProgress token message

theorem value_eq_recorded {x : Action (Backend σ π) α} {y : Action (RecordedBackend σ π) α}
    (h : Commutes Backend.erase x y) (scene : Scene (Backend σ π)) :
    (x.run scene).1 = (y.run (recordedScene scene)).1 := by
  have hrun := h (recordedScene scene)
  rw [recordedScene_erase] at hrun
  exact congrArg Prod.fst hrun

/-! ### Errors in results -/

/-- An action succeeds, and its value shows every error message recorded by it. -/
def ShowsErrors (shows : String → α → Prop) (x : Action (RecordedBackend σ π) (Except Failure α)) : Prop :=
  ∀ scene : Scene (Backend σ π), ∃ a, (x.run (recordedScene scene)).1 = .ok a ∧
    ∀ text ∈ (x.run (recordedScene scene)).2.world.errors, shows text a

/-- An action makes no call and succeeds with a value that shows a given error message. -/
def Concludes (shows : String → α → Prop) (error? : Option String)
    (x : Action (RecordedBackend σ π) (Except Failure α)) : Prop :=
  ∀ scene, ∃ a, (x.run scene).1 = .ok a ∧ (x.run scene).2.world = scene.world ∧
    ∀ text ∈ error?, shows text a

section

variable {shows : String → α → Prop}

theorem Concludes.result (a : α) : Concludes (σ := σ) (π := π) shows none (pure (.ok a)) :=
  fun _ => ⟨a, rfl, rfl, nofun⟩

theorem Concludes.failure {text : String} {a : α} (h : shows text a) :
    Concludes (σ := σ) (π := π) shows (some text) (pure (.ok a)) := by
  refine fun _ => ⟨a, rfl, rfl, ?_⟩
  rintro _ ⟨⟩
  exact h

theorem Concludes.showsErrors {error? : Option String}
    {x : Action (RecordedBackend σ π) (Except Failure α)} (h : Concludes shows error? x) :
    ShowsErrors shows x := by
  intro scene
  obtain ⟨a, hvalue, hworld, -⟩ := h (recordedScene scene)
  refine ⟨a, hvalue, ?_⟩
  rw [hworld]
  exact forall_mem_errors_recordedScene scene

theorem ShowsErrors.perform [Adapter σ] (s : Step) (input : s.Input)
    {next : Except Refusal s.Output → Action (RecordedBackend σ π) (Except Failure α)}
    (h : ∀ outcome, Concludes shows (errorOf Refusal.message outcome) (next outcome)) :
    ShowsErrors shows (Backend.perform s input >>= next) := by
  intro scene
  cases ha : scene.world.adapter with
  | none =>
    rw [Backend.perform_bind_none (by simp [ha])]
    exact (h _).showsErrors scene
  | some a =>
    rw [Backend.perform_bind_some (a := { state := a }) (by simp [ha]), perform_recording,
      recordedScene_supply]
    refine (h (Adapter.perform s input scene.supply a).1 _).imp
      fun b ⟨hvalue, hworld, hshows⟩ => ⟨hvalue, ?_⟩
    rw [hworld, errors_adapter]
    simpa [Entry.error?] using hshows

theorem ShowsErrors.ask {question : π → Except Plugin.Fault β × π}
    {note : Except Plugin.Fault β → PluginCall}
    (hnote : ∀ answer, (note answer).error? = errorOf Plugin.Fault.message answer)
    {next : Except Plugin.Fault β → Action (RecordedBackend σ π) (Except Failure α)}
    (h : ∀ answer, Concludes shows (errorOf Plugin.Fault.message answer) (next answer)) :
    ShowsErrors shows (Backend.ask (Recording.ask question note) >>= next) := by
  intro scene
  cases hm : scene.world.manager with
  | none =>
    rw [Backend.ask_bind_none (by simp [hm])]
    exact (h _).showsErrors scene
  | some m =>
    rw [Backend.ask_bind_some (m := { state := m }) (by simp [hm]), ask_recording]
    refine (h (question m).1 _).imp fun b ⟨hvalue, hworld, hshows⟩ => ⟨hvalue, ?_⟩
    rw [hworld, errors_manager, hnote]
    simpa using hshows

end

/-- A result that is an error and has a text as its first. -/
def ToolResult.Shows (text : String) (r : ToolResult) : Prop :=
  r.isError = true ∧ r.firstText? = some text

@[inherit_doc ToolResult.Shows]
def ResourceResult.Shows (text : String) (r : ResourceResult) : Prop :=
  r.isError = true ∧ r.firstText? = some text

theorem shows_toolFailure (text : String) : ToolResult.Shows text (.failure text) := ⟨rfl, rfl⟩

theorem shows_resourceFailure (uri text : String) :
    ResourceResult.Shows text (.failure uri text) := ⟨rfl, rfl⟩

/-- The results of a handler show the error messages recorded. A prompt records none. -/
def Handler.ShowsErrors : Handler (RecordedBackend σ π) → Prop
  | .tool h => ∀ v c, Release.ShowsErrors ToolResult.Shows (h.call v c)
  | .resource h => ∀ c, Release.ShowsErrors ResourceResult.Shows (h.read c)
  | .prompt h => ∀ arguments c, Release.ShowsErrors (fun _ _ => False) (h.fill arguments c)

/-! ### The handlers of a release server -/

theorem showsErrors_step [Adapter σ] (s : Step) :
    Handler.ShowsErrors (σ := σ) (π := π) (.tool s.handler) := by
  intro v c scene
  cases hinput : s.readInput v with
  | error inputError =>
    rw [Step.handler_run_inputError hinput]
    exact ⟨_, rfl, forall_mem_errors_recordedScene scene⟩
  | ok input =>
    cases ha : scene.world.adapter with
    | none =>
      rw [Step.handler_run_none hinput (by simp [ha])]
      exact ⟨_, rfl, forall_mem_errors_recordedScene scene⟩
    | some a =>
      have hpresent : (recordedScene scene).world.adapter = some { state := a } := by simp [ha]
      obtain ⟨hvalue, hworld, -⟩ := Step.handler_run_some hinput hpresent c
      rw [perform_recording, recordedScene_supply] at hvalue hworld
      refine ⟨_, hvalue, ?_⟩
      rw [hworld, errors_adapter]
      refine forall_mem_errorOf fun refusal hrefusal => ?_
      have houtcome : (Adapter.perform s input (s.supplyFor scene.supply) a).1 = .error refusal :=
        hrefusal
      rw [houtcome]
      exact shows_toolFailure _

theorem showsErrors_status [Adapter σ] :
    Handler.ShowsErrors (σ := σ) (π := π) (.resource statusHandler) := by
  refine fun c => .perform .status () fun outcome => ?_
  cases outcome with
  | ok status => exact .result _
  | error refusal => exact .failure (shows_resourceFailure _ _)

theorem showsErrors_notes [Adapter σ] :
    Handler.ShowsErrors (σ := σ) (π := π) (.resource notesHandler) := by
  refine fun c => .perform .status () fun outcome => ?_
  cases outcome with
  | ok status =>
    dsimp only
    cases status.notes <;> exact .result _
  | error refusal => exact .failure (shows_resourceFailure _ _)

theorem showsErrors_list [Manager π] :
    Handler.ShowsErrors (σ := σ) (π := π) (.tool listHandler) := by
  refine fun v c => .ask (fun _ => rfl) fun answer => ?_
  cases answer with
  | ok plugins => exact .result _
  | error fault => exact .failure (shows_toolFailure _)

theorem showsErrors_info [Manager π] :
    Handler.ShowsErrors (σ := σ) (π := π) (.tool infoHandler) := by
  intro v c
  unfold infoHandler
  dsimp only
  cases readArguments InfoArguments.record.codec {} v with
  | error inputError => exact (Concludes.result _).showsErrors
  | ok arguments =>
    dsimp only
    split_ifs
    · exact (Concludes.result _).showsErrors
    · refine .ask (fun _ => rfl) fun answer => ?_
      cases answer with
      | ok info => exact .result _
      | error fault => exact .failure (shows_toolFailure _)

theorem showsErrors_hook [Manager π] :
    Handler.ShowsErrors (σ := σ) (π := π) (.tool hookHandler) := by
  intro v c
  unfold hookHandler
  dsimp only
  cases readHook v with
  | error inputError => exact (Concludes.result _).showsErrors
  | ok p =>
    refine .ask (fun _ => rfl) fun answer => ?_
    cases answer with
    | error fault => exact .failure (shows_toolFailure _)
    | ok outcomes =>
      intro scene
      simp only [StateT.run_bind, StateT.run_get, pure_bind]
      split_ifs
      · refine ⟨_, rfl, ?_, nofun⟩
        refine (congrArg (fun run => run.2.world) (Action.log_run _ _ _ _ _)).trans ?_
        split_ifs <;> rfl
      · exact ⟨_, rfl, rfl, nofun⟩

theorem showsErrors_plugins [Manager π] :
    Handler.ShowsErrors (σ := σ) (π := π) (.resource pluginsHandler) := by
  refine fun c => .ask (fun _ => rfl) fun answer => ?_
  cases answer with
  | ok plugins => exact .result _
  | error fault => exact .failure (shows_resourceFailure _ _)

theorem showsErrors_serverHandlers [Adapter σ] [Manager π] :
    ∀ h ∈ serverHandlers (σ := Recording σ Entry) (π := Recording π PluginCall), Handler.ShowsErrors h := by
  refine List.forall_mem_append.mpr ⟨List.forall_mem_append.mpr ⟨?_, ?_⟩, ?_⟩
  · exact List.forall_mem_map.mpr fun s _ => showsErrors_step s
  · exact List.forall_mem_cons.mpr ⟨showsErrors_status, List.forall_mem_cons.mpr
      ⟨showsErrors_notes, List.forall_mem_cons.mpr ⟨fun _ _ => (Concludes.result _).showsErrors,
        List.forall_mem_singleton.mpr fun _ _ => (Concludes.result _).showsErrors⟩⟩⟩
  · exact List.forall_mem_cons.mpr ⟨showsErrors_list, List.forall_mem_cons.mpr ⟨showsErrors_info,
      List.forall_mem_cons.mpr ⟨showsErrors_hook, List.forall_mem_singleton.mpr showsErrors_plugins⟩⟩⟩

/-! ### Pairs of handlers -/

/-- An action and its recording version: they commute with erasure, and the value shows the errors. -/
structure RecordedAs (shows : String → α → Prop) (x : Action (Backend σ π) (Except Failure α))
    (y : Action (RecordedBackend σ π) (Except Failure α)) : Prop where
  commutes : Commutes Backend.erase x y
  shows : ShowsErrors shows y

/-- A handler and its recording version. -/
inductive HandlerRecordedAs : Handler (Backend σ π) → Handler (RecordedBackend σ π) → Prop
  | tool {h h'} (hkey : h.tool.name = h'.tool.name)
    (hcall : ∀ v c, RecordedAs ToolResult.Shows (h.call v c) (h'.call v c)) :
    HandlerRecordedAs (.tool h) (.tool h')
  | resource {h h'} (hkey : h.resource.uri = h'.resource.uri)
    (hread : ∀ c, RecordedAs ResourceResult.Shows (h.read c) (h'.read c)) :
    HandlerRecordedAs (.resource h) (.resource h')
  | prompt {h h'} (hkey : h.prompt.name = h'.prompt.name)
    (hfill : ∀ arguments c, RecordedAs (fun _ _ => False) (h.fill arguments c) (h'.fill arguments c)) :
    HandlerRecordedAs (.prompt h) (.prompt h')

theorem ParametricHandler.records [Adapter σ] [Manager π] {reports : Bool}
    {h : ∀ p : Parties, Handler (Backend p.σ p.π)} (hh : ParametricHandler reports h)
    (hshows : Handler.ShowsErrors (h ⟨Recording σ Entry, Recording π PluginCall⟩)) :
    HandlerRecordedAs (h ⟨σ, π⟩) (h ⟨Recording σ Entry, Recording π PluginCall⟩) := by
  cases hh with
  | tool hkey hcall => exact .tool (hkey _ _) fun v c => ⟨(hcall v c).commutes, hshows v c⟩
  | resource hkey hread => exact .resource (hkey _ _) fun c => ⟨(hread c).commutes, hshows c⟩
  | prompt hkey hfill =>
    exact .prompt (hkey _ _) fun arguments c => ⟨(hfill arguments c).commutes, hshows arguments c⟩

/-- The handlers of a release server and of the one over the recording backend, in order. -/
theorem records_serverHandlers [Adapter σ] [Manager π] :
    List.Forall₂ (HandlerRecordedAs (σ := σ) (π := π)) serverHandlers serverHandlers := by
  have hshows := showsErrors_serverHandlers (σ := σ) (π := π)
  rw [← map_handlerFamilies ⟨Recording σ Entry, Recording π PluginCall⟩, List.forall_mem_map] at hshows
  rw [← map_handlerFamilies ⟨σ, π⟩, ← map_handlerFamilies ⟨Recording σ Entry, Recording π PluginCall⟩,
    List.forall₂_map_left_iff, List.forall₂_map_right_iff, List.forall₂_same]
  exact fun h hh => (parametricHandler_of_mem hh).records (hshows h hh)

end ReleaseDesk.Release
