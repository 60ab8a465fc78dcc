import ReleaseDesk.Proofs.Service.Interaction
import ReleaseDesk.Release.Server

/-! Runs of the handlers of a release server. The operations on a backend are given by equations, with and
without an adapter or a plugin manager. A step is performed once, on the input decoded from the arguments,
and its outcome is that of the adapter; some steps are enclosed in progress reports, and some outcomes are
logged. -/

namespace ReleaseDesk.Release

open ReleaseDesk.Service ReleaseDesk.Plugin ReleaseDesk.Protocol ReleaseDesk.Wire

variable {σ π : Type} {scene : Scene (Backend σ π)}

namespace Backend

theorem hasAdapter_run (scene : Scene (Backend σ π)) :
    Backend.hasAdapter.run scene = (scene.world.adapter.isSome, scene) := rfl

theorem perform_bind_none [Adapter σ] (h : scene.world.adapter = none) (s : Step) (input : s.Input)
    (next : Except Refusal s.Output → Action (Backend σ π) α) :
    (Backend.perform s input >>= next).run scene = (next (.error .notConfigured)).run scene := by
  simp only [Backend.perform, StateT.run_bind, StateT.run_get, pure_bind, h]
  rfl

theorem perform_bind_some [Adapter σ] {a : σ} (h : scene.world.adapter = some a) (s : Step)
    (input : s.Input) (next : Except Refusal s.Output → Action (Backend σ π) α) :
    (Backend.perform s input >>= next).run scene =
      (next (Adapter.perform s input scene.supply a).1).run
        { scene with
          supply := (Adapter.perform s input scene.supply a).2.2
          world.adapter := some (Adapter.perform s input scene.supply a).2.1 } := by
  simp only [Backend.perform, StateT.run_bind, StateT.run_get, pure_bind, h]
  rfl

theorem ask_bind_none (h : scene.world.manager = none) (question : π → Except Plugin.Fault α × π)
    (next : Except Plugin.Fault α → Action (Backend σ π) β) :
    (Backend.ask question >>= next).run scene = (next (.error .notConfigured)).run scene := by
  simp only [Backend.ask, StateT.run_bind, StateT.run_get, pure_bind, h]
  rfl

theorem ask_bind_some {m : π} (h : scene.world.manager = some m)
    (question : π → Except Plugin.Fault α × π)
    (next : Except Plugin.Fault α → Action (Backend σ π) β) :
    (Backend.ask question >>= next).run scene =
      (next (question m).1).run { scene with world.manager := some (question m).2 } := by
  simp only [Backend.ask, StateT.run_bind, StateT.run_get, pure_bind, h]
  rfl

end Backend

namespace Step

/-- The message of the report that begins a step, if the step is enclosed in reports. -/
def startMessage? : (s : Step) → s.Input → Option String
  | bump, input => some ("Bumping version (" ++ input.bump.name ++ ")")
  | publish, _ => some "Publishing release"
  | status, _ | plan, _ | notes, _ | evaluate, _ | approve, _ => none

/-- The message of the report that ends a step. -/
def endMessage : (s : Step) → Except Refusal s.Output → String
  | bump, .ok bumped => "Version " ++ bumped.newVersion
  | bump, .error _ => "Bump failed"
  | _, _ => "Publish finished"

/-- The call to log after a step. -/
def logCall? : (s : Step) → Except Refusal s.Output → Option LogCall
  | plan, .ok planned =>
    some
      { level := .info
        text := "Planned " ++ planned.releaseType.name ++ " release " ++ planned.nextVersion }
  | evaluate, .ok verdict =>
    if verdict.canAutoApprove then none
    else some
      { level := .warning, text := "Release needs review: " ++ verdict.severity ++ " risk"
        data := some (.object [("risk_score", Codec.double.write verdict.riskScore)]) }
  | publish, .ok published => some { level := .info, text := "Published " ++ published.tagName }
  | publish, .error refusal =>
    some { level := .error, text := "Publish failed: " ++ refusal.message }
  | _, _ => none

def logOutcome (s : Step) (c : Context) (outcome : Except Refusal s.Output) : Action ω Unit :=
  match s.logCall? outcome with
  | some call => call.perform c
  | none => pure ()

theorem logOutcome_run (s : Step) (c : Context) (outcome : Except Refusal s.Output) (scene : Scene ω) :
    (s.logOutcome c outcome).run scene = ((), { scene with
      sent := scene.sent ++ (s.logCall? outcome).toList.flatMap (·.passed c scene.level) }) := by
  unfold logOutcome
  split
  next call hsome =>
    rw [hsome, LogCall.perform_run]
    simp
  next hnone =>
    rw [hnone]
    simp only [Option.toList_none, List.flatMap_nil, List.append_nil]
    rfl

theorem enclosed_of_startMessage [Adapter σ] {s : Step} {input : s.Input} {startMessage : String}
    (hs : s.startMessage? input = some startMessage) (c : Context) :
    s.enclosed (σ := σ) (π := π) c input = (do
      let token ← Action.startProgress 1 startMessage
      let outcome ← Backend.perform s input
      Action.completeProgress token (s.endMessage outcome)
      s.logOutcome c outcome
      pure outcome) := by
  cases s with
  | bump =>
    cases hs
    refine bind_congr fun token => bind_congr fun outcome => ?_
    cases outcome <;> rfl
  | publish =>
    cases hs
    refine bind_congr fun token => bind_congr fun outcome => ?_
    cases outcome <;> rfl
  | status | plan | notes | evaluate | approve => cases hs

theorem enclosed_of_not_startMessage [Adapter σ] {s : Step} {input : s.Input}
    (hs : s.startMessage? input = none) (c : Context) :
    s.enclosed (σ := σ) (π := π) c input = (do
      let outcome ← Backend.perform s input
      s.logOutcome c outcome
      pure outcome) := by
  cases s with
  | bump | publish => cases hs
  | status | notes | approve => exact (bind_pure _).symm
  | plan =>
    refine bind_congr fun outcome => ?_
    cases outcome <;> rfl
  | evaluate =>
    refine bind_congr fun outcome => ?_
    cases outcome with
    | error refusal => rfl
    | ok verdict =>
      dsimp only [logOutcome, logCall?]
      cases verdict.canAutoApprove <;> rfl

/-- The supply that an adapter is given for a step. The report that begins a step takes an identifier. -/
def supplyFor : Step → Supply → Supply
  | bump, supply => supply.taken
  | publish, supply => supply.taken
  | status, supply | plan, supply | notes, supply | evaluate, supply | approve, supply => supply

theorem opened_of_startMessage {s : Step} {input : s.Input} {startMessage : String}
    (hs : s.startMessage? input = some startMessage) (supply : Supply) :
    s.supplyFor supply = supply.taken := by
  cases s <;> first | rfl | cases hs

theorem opened_of_not_startMessage {s : Step} {input : s.Input} (hs : s.startMessage? input = none)
    (supply : Supply) : s.supplyFor supply = supply := by
  cases s <;> first | rfl | cases hs

/-- A step that is enclosed in reports: a report under a fresh token, the step, the last report under that
token, and the call to log. -/
theorem enclosed_run_of_startMessage [Adapter σ] {a : σ} (h : scene.world.adapter = some a) {s : Step}
    {input : s.Input} {startMessage : String} (hs : s.startMessage? input = some startMessage) (c : Context) :
    let token := ProgressToken.string scene.supply.fresh
    let started := scene.tracker.start token 1 startMessage
    let done := Adapter.perform s input scene.supply.taken a
    let finished := started.2.complete token (s.endMessage done.1)
    (s.enclosed c input).run scene = (done.1,
      { scene with
        world.adapter := some done.2.1
        supply := done.2.2
        tracker := finished.2
        sent := scene.sent ++ [started.1.notification] ++ finished.1.toList.map Progress.notification ++
          (s.logCall? done.1).toList.flatMap (·.passed c scene.level) }) := by
  intro token started done finished
  rw [enclosed_of_startMessage hs, StateT.run_bind, Action.startProgress_run]
  refine (Backend.perform_bind_some (by exact h) s input _).trans ?_
  rw [StateT.run_bind, Action.completeProgress_run]
  refine (StateT.run_bind _ _ _).trans ?_
  rw [logOutcome_run]
  rfl

theorem enclosed_run_of_not_startMessage [Adapter σ] {a : σ} (h : scene.world.adapter = some a) {s : Step}
    {input : s.Input} (hs : s.startMessage? input = none) (c : Context) :
    let done := Adapter.perform s input scene.supply a
    (s.enclosed c input).run scene = (done.1,
      { scene with
        world.adapter := some done.2.1
        supply := done.2.2
        sent := scene.sent ++ (s.logCall? done.1).toList.flatMap (·.passed c scene.level) }) := by
  intro done
  rw [enclosed_of_not_startMessage hs, Backend.perform_bind_some h, StateT.run_bind, logOutcome_run]
  rfl

theorem enclosed_run [Adapter σ] {a : σ} (h : scene.world.adapter = some a) (c : Context) (s : Step)
    (input : s.Input) :
    ((s.enclosed c input).run scene).1 =
        (Adapter.perform s input (s.supplyFor scene.supply) a).1 ∧
      ((s.enclosed c input).run scene).2.world = { scene.world with
        adapter := some (Adapter.perform s input (s.supplyFor scene.supply) a).2.1 } ∧
      ((s.enclosed c input).run scene).2.supply =
        (Adapter.perform s input (s.supplyFor scene.supply) a).2.2 := by
  cases hs : s.startMessage? input with
  | none =>
    rw [enclosed_run_of_not_startMessage h hs, opened_of_not_startMessage hs]
    exact ⟨rfl, rfl, rfl⟩
  | some startMessage =>
    rw [enclosed_run_of_startMessage h hs, opened_of_startMessage hs]
    exact ⟨rfl, rfl, rfl⟩

/-! ### The tool of a step -/

theorem handler_run_inputError [Adapter σ] {s : Step} {v : Json} {inputError : String}
    (h : s.readInput v = .error inputError) (c : Context) (scene : Scene (Backend σ π)) :
    (s.handler.call v c).run scene = (.ok (.failure inputError), scene) := by
  simp only [handler, h]
  rfl

theorem handler_run_none [Adapter σ] {s : Step} {v : Json} {input : s.Input}
    (h : s.readInput v = .ok input) (ha : scene.world.adapter = none) (c : Context) :
    (s.handler.call v c).run scene = (.ok (.failure Refusal.notConfigured.message), scene) := by
  simp only [handler, h, StateT.run_bind, Backend.hasAdapter_run, ha]
  rfl

theorem handler_run_some [Adapter σ] {s : Step} {v : Json} {input : s.Input}
    (h : s.readInput v = .ok input) {a : σ} (ha : scene.world.adapter = some a) (c : Context) :
    ((s.handler.call v c).run scene).1 =
        .ok (s.result (Adapter.perform s input (s.supplyFor scene.supply) a).1) ∧
      ((s.handler.call v c).run scene).2.world = { scene.world with
        adapter := some (Adapter.perform s input (s.supplyFor scene.supply) a).2.1 } ∧
      ((s.handler.call v c).run scene).2.supply =
        (Adapter.perform s input (s.supplyFor scene.supply) a).2.2 := by
  obtain ⟨houtcome, hworld, hsupply⟩ := enclosed_run ha c s input
  simp only [handler, h, StateT.run_bind, Backend.hasAdapter_run, ha, Option.isSome_some]
  refine ⟨?_, hworld, hsupply⟩
  rw [← houtcome]
  rfl

end Step

/-- The handlers of a release server, in the order in which they are registered. -/
def serverHandlers [Adapter σ] [Manager π] : List (Handler (Backend σ π)) :=
  releaseHandlers ++ pluginHandlers

end ReleaseDesk.Release
