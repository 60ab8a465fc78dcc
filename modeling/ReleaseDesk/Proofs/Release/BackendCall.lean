import ReleaseDesk.Proofs.Release.Hooks
import ReleaseDesk.Proofs.Release.InputEncoding

/-! The collaborator calls of the tools. A tool whose arguments encode a call to the adapter or the
plugin manager performs this call once, if there is such a collaborator, and its result is
determined by the outcome. An error about the arguments occurs in the result only if the
collaborator returned it. -/

namespace ReleaseDesk

open Json Wire Wire.Fields Text

namespace Release

open Protocol Service Plugin

variable {σ π : Type}

/-! ### Calls to collaborators -/

/-- The calls that tools make to an adapter or a plugin manager. -/
inductive BackendCall
  | step (s : Step) (input : s.Input)
  | plugins
  | plugin (name : String)
  | run (hook : Hook) (context : ReleaseContext)

namespace BackendCall

def toolName : BackendCall → String
  | step s _ => s.toolName
  | plugins => "relicta.plugins.list"
  | plugin _ => "relicta.plugins.info"
  | run _ _ => "relicta.plugins.execute_hook"

/-- The arguments of the tool encode the call. -/
def EncodedBy (v : Json) : BackendCall → Prop
  | step s input => s.Encodes v input
  | plugins => True
  | plugin name => v.member? "name" = some (.string name)
  | run hook context => v.member? "hook" = some (.string hook.name) ∧
      (v.member? "context" = none ∧ context = {} ∨ ∃ w, v.member? "context" = some w ∧ context.EncodedBy w)

/-- The collaborator exists, and the name of a plugin is not blank. -/
def reaches (b : Backend σ π) : BackendCall → Bool
  | step _ _ => b.adapter.isSome
  | plugin name => !allBlank name && b.manager.isSome
  | plugins | run _ _ => b.manager.isSome

end BackendCall

/-- Calls the plugin manager, if there is one. -/
def Backend.callManager (b : Backend σ π) (question : π → Except Plugin.Fault α × π)
    (result : Except Plugin.Fault α → ToolResult) : ToolResult × Backend σ π :=
  match b.manager with
  | none => (.failure Plugin.Fault.notConfigured.message, b)
  | some m =>
    let (answer, m) := question m
    (result answer, { b with manager := some m })

/-- The result of `relicta.plugins.list`, given the outcome. -/
def listResult : Except Plugin.Fault (List PluginInfo) → ToolResult
  | .ok plugins => .ofJson (.normal (.object [
      ("count", .natural plugins.length), ("plugins", (Codec.list PluginInfo.codec).write plugins)]))
  | .error fault => .failure fault.message

/-- The result of `relicta.plugins.info`, given the outcome. -/
def infoResult : Except Plugin.Fault PluginInfo → ToolResult
  | .ok info => .ofText (PluginInfo.codec.pretty info)
  | .error fault => .failure fault.message

/-- Performs a call: the result of the tool, and the backend afterwards. -/
def BackendCall.execute [Adapter σ] [Manager π] (supply : Supply) (b : Backend σ π) :
    BackendCall → ToolResult × Backend σ π
  | step s input =>
    match b.adapter with
    | none => (.failure Refusal.notConfigured.message, b)
    | some a =>
      let (outcome, a, _) := Adapter.perform s input (s.supplyFor supply) a
      (s.result outcome, { b with adapter := some a })
  | plugins => b.callManager Manager.plugins listResult
  | plugin name =>
    if allBlank name then (.failure "missing required argument: name", b)
    else b.callManager (Manager.plugin name) infoResult
  | run hook context => b.callManager (Manager.run hook context) (hookResult hook supply.now)

/-! ### Tools -/

/-- The tool performs this call and makes no other. -/
def Executes [Adapter σ] [Manager π] (h : ToolHandler (Backend σ π)) (v : Json) (q : BackendCall) : Prop :=
  ∀ c scene, ((h.call v c).run scene).1 = .ok (q.execute scene.supply scene.world).1 ∧
    ((h.call v c).run scene).2.world = (q.execute scene.supply scene.world).2

def BackendCall.handler [Adapter σ] [Manager π] : BackendCall → ToolHandler (Backend σ π)
  | step s _ => s.handler
  | plugins => listHandler
  | plugin _ => infoHandler
  | run _ _ => hookHandler

theorem ask_run {question : π → Except Plugin.Fault α × π} {result : Except Plugin.Fault α → ToolResult}
    {next : Except Plugin.Fault α → Action (Backend σ π) (Except Failure ToolResult)}
    (hnext : ∀ answer, next answer = pure (.ok (result answer)))
    (hresult : result (.error .notConfigured) = .failure Plugin.Fault.notConfigured.message)
    (scene : Scene (Backend σ π)) :
    ((Backend.ask question >>= next).run scene).1 = .ok (scene.world.callManager question result).1 ∧
      ((Backend.ask question >>= next).run scene).2.world = (scene.world.callManager question result).2 := by
  rw [Backend.callManager]
  cases hm : scene.world.manager with
  | none =>
    rw [Backend.ask_bind_none hm, hnext, hresult]
    exact ⟨rfl, rfl⟩
  | some m =>
    rw [Backend.ask_bind_some hm, hnext]
    exact ⟨rfl, rfl⟩

section

variable [Adapter σ] [Manager π] {v : Json}

theorem executes_step {s : Step} {input : s.Input} (h : s.readInput v = .ok input) :
    Executes (σ := σ) (π := π) s.handler v (.step s input) := by
  intro c scene
  rw [BackendCall.execute]
  cases ha : scene.world.adapter with
  | none =>
    rw [Step.handler_run_none h ha]
    exact ⟨rfl, rfl⟩
  | some a =>
    obtain ⟨hresult, hworld, -⟩ := Step.handler_run_some h ha c
    exact ⟨hresult, hworld⟩

theorem executes_plugins (v : Json) : Executes (σ := σ) (π := π) listHandler v .plugins :=
  fun _ scene => ask_run (fun answer => by cases answer <;> rfl) rfl scene

theorem executes_plugin {name : String} (h : readArguments InfoArguments.record.codec {} v = .ok { name }) :
    Executes (σ := σ) (π := π) infoHandler v (.plugin name) := by
  intro c scene
  simp only [infoHandler, h, BackendCall.execute]
  split_ifs with hblank
  · exact ⟨rfl, rfl⟩
  · exact ask_run (fun answer => by cases answer <;> rfl) rfl scene

theorem executes_run {hook : Hook} {context : ReleaseContext} (h : readHook v = .ok (hook, context)) :
    Executes (σ := σ) (π := π) hookHandler v (.run hook context) := by
  intro c scene
  rw [BackendCall.execute, Backend.callManager]
  cases hm : scene.world.manager with
  | none =>
    rw [hookHandler_run_none h hm]
    exact ⟨rfl, rfl⟩
  | some m =>
    rw [hookHandler_run_some h hm]
    exact ⟨rfl, rfl⟩

/-- A tool performs the call that its arguments encode. -/
theorem executes_of_encodedBy {ms : List (String × Json)} (hv : (object ms).normal = .object ms)
    {q : BackendCall}
    (h : q.EncodedBy (.object ms)) : Executes (σ := σ) (π := π) q.handler (.object ms) q := by
  have hnodup := nodup_of_normal hv
  have hnull : object ms ≠ .null := nofun
  cases q with
  | step s input => exact executes_step (Step.readInput_of_encodes hv h)
  | plugins => exact executes_plugins _
  | plugin name =>
    have hdecodes : InfoArguments.record.fields.Decodes ["name"] .tree ms { name } :=
      (decodes_nothing InfoArguments.mk).both (decodes_string hnodup h)
    refine executes_plugin ?_
    rw [Step.readArguments_eq hnull, Record.ofJson_of_decodes hv hdecodes]
    rfl
  | run hook context =>
    obtain ⟨hhook, hcontext⟩ := h
    have hgiven : (defaulted "context" ReleaseContext.codec {} HookArguments.context).Decodes ["context"] .tree ms
        context := by
      obtain ⟨hnone, rfl⟩ | ⟨w, hw, hencoded⟩ := hcontext
      · exact decodes_one (x := (none : Option Json)) (f := id) hnodup hnone
          (fun _ h => absurd h (Option.not_mem_none _)) fun _ => rfl
      · have hnormal : w.normal = w := normal_of_lookup hv hw
        obtain ⟨members, rfl⟩ := hencoded.object
        have hread := ReleaseContext.ofJson_of_encodedBy hnormal hencoded
        rw [Codec.ofJson, hnormal] at hread
        refine decodes_one (x := some (Json.object members)) (f := id) hnodup hw ?_
          fun h => absurd h (Option.some_ne_none _)
        rintro _ ⟨⟩
        exact hread
    have hdecodes : HookArguments.record.fields.Decodes ["hook", "context"] .tree ms
        { hook := hook.name, context } :=
      ((decodes_nothing HookArguments.mk).both (decodes_string hnodup hhook)).both hgiven
    exact executes_run (readHook_eq_ok_iff.mpr (Record.ofJson_of_decodes hv hdecodes))

end

/-! ### Recorded calls -/

def Entry.question (e : Entry) : BackendCall := .step e.step e.input

def PluginCall.question : PluginCall → BackendCall
  | plugins _ => .plugins
  | plugin name _ => .plugin name
  | run hook context _ => .run hook context

/-- All recorded calls. -/
def Backend.questions (b : RecordedBackend σ π) : List BackendCall :=
  (b.adapter.toList.flatMap fun o => o.calls.map Entry.question) ++
    b.manager.toList.flatMap fun o => o.calls.map PluginCall.question

/-- The errors about arguments: those of decoding, and unknown kinds of bump and hooks. -/
inductive ArgumentError : String → Prop
  | undecodable (fault : Wire.Fault) : ArgumentError (Step.undecodable fault)
  | badBump (s : String) : ArgumentError (badBump s).message
  | invalidHook (detail : String) : ArgumentError (Plugin.Fault.invalidHook detail).message

/-- An error about arguments starts with `i`, unlike the error for a missing collaborator. -/
theorem ArgumentError.head? {text : String} (h : ArgumentError text) : text.toList.head? = some 'i' := by
  have hprefix (front : String) (hfront : front.toList.head? = some 'i') (rest : String) :
      (front ++ rest).toList.head? = some 'i' := by
    rw [String.toList_append, List.head?_append, hfront, Option.some_or]
  cases h with
  | undecodable fault => exact hprefix "invalid arguments: " (by decide) _
  | badBump s => exact hprefix "invalid input: " (by decide) _
  | invalidHook detail => exact hprefix "invalid hook: " (by decide) _

theorem ArgumentError.ne {text other : String} (h : ArgumentError text)
    (hother : other.toList.head? ≠ some 'i') :
    other ≠ text := by
  rintro rfl
  exact hother h.head?

theorem failure_inj {text text' : String} (h : ToolResult.failure text = .failure text') : text = text' := by
  cases h
  rfl

theorem ne_failure {r : ToolResult} (h : r.isError = false) (text : String) : r ≠ .failure text := by
  rintro rfl
  cases h

/-- An error about arguments in the result of a call to the plugin manager was returned by the
manager. -/
theorem callManager_inputError {question : π → Except Plugin.Fault α × π}
    {note : Except Plugin.Fault α → PluginCall}
    {result : Except Plugin.Fault α → ToolResult}
    (hnote : ∀ answer, (note answer).error? = errorOf Plugin.Fault.message answer)
    (hok : ∀ a, (result (.ok a)).isError = false)
    (herror : ∀ fault, result (.error fault) = .failure fault.message)
    {b : Backend σ π} {text : String} (h : ArgumentError text)
    (hr : (b.callManager question result).1 = .failure text) :
    text ∈ (b.recorded.callManager (Recording.ask question note) result).2.errors := by
  obtain ⟨adapter, manager⟩ := b
  cases manager with
  | none => exact absurd (failure_inj hr) (h.ne (by decide))
  | some m =>
    have hanswer : result (question m).1 = .failure text := hr
    cases hq : (question m).1 with
    | ok a =>
      rw [hq] at hanswer
      exact absurd hanswer (ne_failure (hok a) text)
    | error fault =>
      rw [hq, herror] at hanswer
      have hcalls : (note (question m).1).error? = some text := by
        rw [hnote, hq, ← failure_inj hanswer]
        rfl
      cases adapter <;>
        simp [Backend.callManager, Backend.recorded, Backend.errors, ask_recording, hcalls]

section

variable [Adapter σ] [Manager π]

/-- A recording backend gives the same result, and records the call if it reaches a collaborator. -/
theorem execute_recorded (q : BackendCall) (supply : Supply) (b : Backend σ π) :
    (q.execute supply b.recorded).1 = (q.execute supply b).1 ∧
    (q.execute supply b.recorded).2.erase = (q.execute supply b).2 ∧
      (q.execute supply b.recorded).2.questions = if q.reaches b then [q] else [] := by
  obtain ⟨adapter, manager⟩ := b
  cases q with
  | step s input => cases adapter <;> cases manager <;> exact ⟨rfl, rfl, rfl⟩
  | plugins => cases adapter <;> cases manager <;> exact ⟨rfl, rfl, rfl⟩
  | plugin name =>
    rw [BackendCall.execute, BackendCall.execute, BackendCall.reaches]
    by_cases hblank : allBlank name = true
    · rw [if_pos hblank, if_pos hblank, hblank]
      cases adapter <;> cases manager <;> exact ⟨rfl, rfl, rfl⟩
    · rw [if_neg hblank, if_neg hblank, Bool.eq_false_iff.mpr hblank]
      cases adapter <;> cases manager <;> exact ⟨rfl, rfl, rfl⟩
  | run hook context => cases adapter <;> cases manager <;> exact ⟨rfl, rfl, rfl⟩

/-- An error about arguments in the result was returned by a collaborator. -/
theorem execute_inputError {q : BackendCall} {supply : Supply} {b : Backend σ π} {text : String}
    (h : ArgumentError text)
    (hr : (q.execute supply b).1 = .failure text) : text ∈ (q.execute supply b.recorded).2.errors := by
  cases q with
  | step s input =>
    obtain ⟨adapter, manager⟩ := b
    cases adapter with
    | none => exact absurd (failure_inj hr) (h.ne (by decide))
    | some a =>
      have houtcome : s.result (Adapter.perform s input (s.supplyFor supply) a).1 = .failure text := hr
      cases ho : (Adapter.perform s input (s.supplyFor supply) a).1 with
      | ok output =>
        rw [ho] at houtcome
        exact absurd houtcome (ne_failure rfl text)
      | error refusal =>
        rw [ho] at houtcome
        have hmessage : refusal.message = text := failure_inj houtcome
        cases manager <;>
          simp [BackendCall.execute, Backend.recorded, Backend.errors, perform_recording, Entry.error?, ho,
            errorOf, hmessage]
  | plugins =>
    exact callManager_inputError (fun _ => rfl) (fun _ => rfl) (fun _ => rfl) h hr
  | plugin name =>
    rw [BackendCall.execute] at hr ⊢
    by_cases hblank : allBlank name = true
    · rw [if_pos hblank] at hr
      exact absurd (failure_inj hr) (h.ne (by decide))
    · rw [if_neg hblank] at hr ⊢
      exact callManager_inputError (fun _ => rfl) (fun _ => rfl) (fun _ => rfl) h hr
  | run hook context => exact callManager_inputError (fun _ => rfl) (fun _ => rfl) (fun _ => rfl) h hr

end

end Release

end ReleaseDesk
