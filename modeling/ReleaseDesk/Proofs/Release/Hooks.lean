import ReleaseDesk.Plugin.Roster
import ReleaseDesk.Proofs.Plugin.Hook
import ReleaseDesk.Proofs.Release.Refinement

/-! Calls of the hook tool. A call with valid arguments at a server with a plugin manager runs the
hook once, and its result summarizes the outcomes of the plugins. Every other call fails without
running a hook. -/

namespace ReleaseDesk.Release

open ReleaseDesk.Service ReleaseDesk.Plugin ReleaseDesk.Protocol ReleaseDesk.Wire

variable {σ π : Type}

/-! ### The tool -/

/-- The result of the hook tool, given the outcomes. -/
def hookResult (hook : Hook) (now : Timestamp) : Except Plugin.Fault (List HookOutcome) → ToolResult
  | .ok outcomes => .ofText (HookSummary.codec.pretty (.ofOutcomes hook outcomes now))
  | .error fault => .failure fault.message

/-- The log messages of a summary: a warning if a plugin failed and warnings pass the filter. -/
def hookWarnings (logger : Option String) (least : LogLevel) (s : HookSummary) : List Rpc.Notification :=
  if 0 < s.failed ∧ LogLevel.warning.passes least then
    [(logMessage logger .warning s.warning none).notification]
  else []

/-- The notifications of the hook tool, given the outcomes. -/
def hookSent (hook : Hook) (now : Timestamp) (logger : Option String) (least : LogLevel) :
    Except Plugin.Fault (List HookOutcome) → List Rpc.Notification
  | .ok outcomes => hookWarnings logger least (.ofOutcomes hook outcomes now)
  | .error _ => []

section

variable [Manager π] {scene : Scene (Backend σ π)} {v : Json} {hook : Hook} {context : ReleaseContext}

theorem hookHandler_run_inputError {inputError : String} (h : readHook v = .error inputError) (c : Context)
    (scene : Scene (Backend σ π)) :
    (hookHandler.call v c).run scene = (.ok (.failure inputError), scene) := by
  simp only [hookHandler, h]
  rfl

theorem hookHandler_run_none (h : readHook v = .ok (hook, context)) (hm : scene.world.manager = none)
    (c : Context) :
    (hookHandler.call v c).run scene = (.ok (.failure Plugin.Fault.notConfigured.message), scene) := by
  simp only [hookHandler, h]
  rw [Backend.ask_bind_none hm]
  rfl

theorem hookHandler_run_some (h : readHook v = .ok (hook, context)) {m : π}
    (hm : scene.world.manager = some m) (c : Context) :
    (hookHandler.call v c).run scene =
      (.ok (hookResult hook scene.supply.now (Manager.run hook context m).1),
        { scene with
          world.manager := some (Manager.run hook context m).2
          sent := scene.sent ++
            hookSent hook scene.supply.now c.logger scene.level (Manager.run hook context m).1 }) := by
  simp only [hookHandler, h]
  rw [Backend.ask_bind_some hm]
  cases Manager.run hook context m with
  | mk answer m' =>
    cases answer with
    | error fault =>
      rw [hookSent, List.append_nil]
      rfl
    | ok outcomes =>
      simp only [StateT.run_bind, StateT.run_get, pure_bind]
      split_ifs with hfailed
      · rw [StateT.run_bind, Action.log_run]
        by_cases hpasses : LogLevel.warning.passes scene.level = true
        · rw [if_pos hpasses, hookSent, hookWarnings, if_pos ⟨hfailed, hpasses⟩]
          rfl
        · rw [if_neg hpasses, hookSent, hookWarnings, if_neg (hpasses ·.2), List.append_nil]
          rfl
      · rw [hookSent, hookWarnings, if_neg (hfailed ·.1), List.append_nil]
        rfl

end

/-! ### Calls -/

/-- The request calls the hook tool with these arguments. -/
structure CallsHook (r : Rpc.Request) (arguments : Json) : Prop where
  method : r.method = "tools/call"
  read : readParams ToolCall.codec r.params = .ok { name := "relicta.plugins.execute_hook", arguments }

theorem callsHook_ask (id : Option Rpc.RequestId) (arguments : Option Json) :
    CallsHook
      { id, method := "tools/call"
        params := some (.object (("name", .string "relicta.plugins.execute_hook") ::
          arguments.toList.map fun v => ("arguments", v))) }
      (arguments.getD .null).normal :=
  ⟨rfl, ToolOrder.read_params _ arguments⟩

/-- The arguments decode as this hook and context, and there is a plugin manager. -/
structure ReachesManager (arguments : Json) (manager : Option π) (hook : Hook) (context : ReleaseContext)
    (m : π) : Prop where
  orders : OrdersHook arguments hook context
  manager : manager = some m

/-- The failure of a call that does not reach the plugin manager. -/
def hookFailure (arguments : Json) : String :=
  match readHook arguments with
  | .error inputError => inputError
  | .ok _ => Plugin.Fault.notConfigured.message

section

variable [Adapter σ] [Manager π] {s : Server (Backend σ π)} {r : Rpc.Request} {arguments : Json}

theorem handle_hook (h : HasReleaseHandlers s.service.registry) (hr : CallsHook r arguments) :
    s.handle r =
      let done := (hookHandler.call arguments (s.service.context r)).run { s.scene with sent := [] }
      (done.2.sent, r.id.map fun id => answerOf id (handled ToolResult.codec done.1),
        { s with phase := s.phase.after r.method, scene := { done.2 with sent := [] } }) := by
  have hroute := Dispatcher.route_tool hr.read (h.tool rfl) (s.service.context r)
  rw [s.handle_eq, hr.method, hroute, StateT.run_map]
  rfl

theorem handle_hook_asked (h : HasReleaseHandlers s.service.registry) (hr : CallsHook r arguments)
    {hook : Hook}
    {context : ReleaseContext} {m : π} (ha : ReachesManager arguments s.scene.world.manager hook context m) :
    let (answer, m') := Manager.run hook context m
    s.handle r =
      (hookSent hook s.scene.supply.now (some s.service.info.name) s.scene.level answer,
        r.id.map fun id =>
          .success (some id) (ToolResult.codec.toJson (hookResult hook s.scene.supply.now answer)),
        { s with
          phase := s.phase.after r.method
          scene := { s.scene with world.manager := some m', sent := [] } }) := by
  have hm : ({ s.scene with sent := [] } : Scene (Backend σ π)).world.manager = some m := ha.manager
  rw [handle_hook h hr, hookHandler_run_some (readHook_eq_ok_iff.mpr ha.orders) hm]
  rfl

theorem handle_hook_unasked (h : HasReleaseHandlers s.service.registry) (hr : CallsHook r arguments)
    (hnot : ∀ hook context m, ¬ReachesManager arguments s.scene.world.manager hook context m) :
    s.handle r =
      ([], r.id.map fun id =>
          .success (some id) (ToolResult.codec.toJson (.failure (hookFailure arguments))),
        { s with phase := s.phase.after r.method, scene := { s.scene with sent := [] } }) := by
  rw [handle_hook h hr, hookFailure]
  cases hread : readHook arguments with
  | error inputError =>
    rw [hookHandler_run_inputError hread]
    rfl
  | ok p =>
    obtain ⟨hook, context⟩ := p
    have hm : s.scene.world.manager = none :=
      Option.eq_none_iff_forall_ne_some.mpr fun m hm =>
        hnot hook context m ⟨readHook_eq_ok_iff.mp hread, hm⟩
    rw [hookHandler_run_none hread (by exact hm)]
    rfl

end

/-- A call of the hook tool at `s`, and at `w`, which records the calls of the plugin manager. -/
structure HookCall [Manager π] (s : Server (Backend σ π)) (w : Server (RecordedBackend σ π)) (r : Rpc.Request)
    (arguments : Json) (result : ToolResult) : Prop where
  answered : (s.handle r).2.1 =
    r.id.map fun id => .success (some id) (ToolResult.codec.toJson result)
  sameRecorded : (w.handle r).1 = (s.handle r).1 ∧ (w.handle r).2.1 = (s.handle r).2.1
  asked : ∀ hook context m, ReachesManager arguments s.scene.world.manager hook context m →
    let (answer, m') := Manager.run hook context m
    (s.handle r).2.2.scene = { s.scene with world.manager := some m', sent := [] } ∧
      (w.handle r).2.2.scene = { w.scene with
        world.manager := some { state := m', calls := [.run hook context answer] }, sent := [] }
  unasked : (∀ hook context m, ¬ReachesManager arguments s.scene.world.manager hook context m) →
    (s.handle r).2.2.scene = { s.scene with sent := [] } ∧
      (w.handle r).2.2.scene = { w.scene with sent := [] }
  summed : ∀ hook context m outcomes, ReachesManager arguments s.scene.world.manager hook context m →
    (Manager.run hook context m).1 = .ok outcomes →
    result.isError = false ∧ ∃ summary, Sums hook outcomes s.scene.supply.now summary ∧
      result = .ofText (HookSummary.codec.pretty summary) ∧
      ((outcomes.length : Int) < Number.bound →
        HookSummary.codec.ofTree (HookSummary.codec.pretty summary) = .ok summary) ∧
      (s.handle r).1 = hookWarnings (some s.service.info.name) s.scene.level summary
  failed : (∀ hook context m outcomes, ReachesManager arguments s.scene.world.manager hook context m →
      (Manager.run hook context m).1 ≠ .ok outcomes) →
    result.isError = true ∧ (s.handle r).1 = []

section

variable [Adapter σ] [Manager π] {s : Server (Backend σ π)} {w : Server (RecordedBackend σ π)}
  {r : Rpc.Request}
  {arguments : Json}

theorem hookCall_asked (hs : HasReleaseHandlers s.service.registry)
    (hw : HasReleaseHandlers w.service.registry)
    (hinfo : w.service.info = s.service.info) (hscene : w.scene = recordedScene s.scene)
    (hr : CallsHook r arguments) {hook : Hook} {context : ReleaseContext} {m : π}
    (ha : ReachesManager arguments s.scene.world.manager hook context m) :
    HookCall s w r arguments
      (hookResult hook s.scene.supply.now (Manager.run hook context m).1) := by
  have haw : ReachesManager arguments w.scene.world.manager hook context
    ({ state := m } : Recording π PluginCall) :=
    ⟨ha.orders, by rw [hscene, recordedScene_manager, ha.manager]; rfl⟩
  have hlisten : Manager.run hook context ({ state := m } : Recording π PluginCall) =
      ((Manager.run hook context m).1,
        { state := (Manager.run hook context m).2
          calls := [.run hook context (Manager.run hook context m).1] }) := ask_recording _ _ m
  have hsupply : w.scene.supply = s.scene.supply := by
    rw [hscene]
    rfl
  have hlevel : w.scene.level = s.scene.level := by
    rw [hscene]
    rfl
  have hrun := handle_hook_asked hs hr ha
  have hrecorded := handle_hook_asked hw hr haw
  rw [hlisten, hinfo, hsupply, hlevel] at hrecorded
  dsimp only at hrun hrecorded
  refine { answered := ?_, sameRecorded := ?_, asked := ?_, unasked := ?_, summed := ?_, failed := ?_ }
  · rw [hrun]
  · rw [hrun, hrecorded]
    exact ⟨rfl, rfl⟩
  · intro hook' context' m' ha'
    obtain ⟨rfl, rfl⟩ := ha.orders.unique ha'.orders
    obtain rfl := Option.some.inj (ha.manager.symm.trans ha'.manager)
    rw [hrun, hrecorded]
    exact ⟨rfl, rfl⟩
  · intro hnot
    exact absurd ha (hnot hook context m)
  · intro hook' context' m' outcomes ha' hanswer
    obtain ⟨rfl, rfl⟩ := ha.orders.unique ha'.orders
    obtain rfl := Option.some.inj (ha.manager.symm.trans ha'.manager)
    rw [hrun, hanswer]
    have hsums := sums_ofOutcomes hook outcomes s.scene.supply.now
    exact ⟨rfl, _, hsums, rfl, fun hlength => HookSummary.ofTree_pretty (hsums.countable hlength), rfl⟩
  · intro hnot
    cases hanswer : (Manager.run hook context m).1 with
    | error fault =>
      rw [hrun, hanswer]
      exact ⟨rfl, rfl⟩
    | ok outcomes => exact absurd hanswer (hnot hook context m outcomes ha)

theorem hookCall_unasked (hs : HasReleaseHandlers s.service.registry)
    (hw : HasReleaseHandlers w.service.registry)
    (hscene : w.scene = recordedScene s.scene) (hr : CallsHook r arguments)
    (hnot : ∀ hook context m, ¬ReachesManager arguments s.scene.world.manager hook context m) :
    HookCall s w r arguments (.failure (hookFailure arguments)) := by
  have hnotw : ∀ hook context m, ¬ReachesManager arguments w.scene.world.manager hook context m := by
    intro hook context o ho
    have hmanager := ho.manager
    rw [hscene, recordedScene_manager, Option.map_eq_some_iff] at hmanager
    obtain ⟨m, hm, -⟩ := hmanager
    exact hnot hook context m ⟨ho.orders, hm⟩
  have hrun := handle_hook_unasked hs hr hnot
  have hrecorded := handle_hook_unasked hw hr hnotw
  refine { answered := ?_, sameRecorded := ?_, asked := ?_, unasked := ?_, summed := ?_, failed := ?_ }
  · rw [hrun]
  · rw [hrun, hrecorded]
    exact ⟨rfl, rfl⟩
  · intro hook context m ha
    exact absurd ha (hnot hook context m)
  · intro _
    rw [hrun, hrecorded]
    exact ⟨rfl, rfl⟩
  · intro hook context m outcomes ha
    exact absurd ha (hnot hook context m)
  · intro _
    rw [hrun]
    exact ⟨rfl, rfl⟩

end

/-- For every adapter and every plugin manager, the release server can be assembled, also with
recording collaborators. In every state, a call of the hook tool is answered with a result. The
manager is called at most once, and exactly if there is one and the arguments decode as a hook, with
this hook and the context in the arguments. If it returns outcomes, the result is their summary, and
a warning is logged if and only if a plugin failed and warnings pass the filter; otherwise the
result is a failure, and nothing is logged. -/
theorem hooks_summed_up [Adapter σ] [Manager π] (config : Config) (backend : Backend σ π)
    (supply : Supply) :
    ∃ server recorded, assemble (some config) backend supply = .ok server ∧
      assemble (some config) backend.recorded supply = .ok recorded ∧
      ∀ (s : Server (Backend σ π)) (w : Server (RecordedBackend σ π)), s.service = server.service →
        w.service = recorded.service → w.scene = recordedScene s.scene →
        ∀ r arguments, CallsHook r arguments → ∃ result, HookCall s w r arguments result := by
  obtain ⟨registry, hserver, hget⟩ := exists_assemble config backend supply
  obtain ⟨registry', hrecorded, hget'⟩ := exists_assemble config backend.recorded supply
  refine ⟨_, _, hserver, hrecorded, fun s w hs hw hscene r arguments hr => ?_⟩
  have hhandlers : HasReleaseHandlers s.service.registry := by
    rw [hs]
    exact hget
  have hstock' : HasReleaseHandlers w.service.registry := by
    rw [hw]
    exact hget'
  have hinfo : w.service.info = s.service.info := by
    rw [hs, hw]
    rfl
  by_cases hasked : ∃ hook context m, ReachesManager arguments s.scene.world.manager hook context m
  · obtain ⟨hook, context, m, ha⟩ := hasked
    exact ⟨_, hookCall_asked hhandlers hstock' hinfo hscene hr ha⟩
  · simp only [not_exists] at hasked
    exact ⟨_, hookCall_unasked hhandlers hstock' hscene hr hasked⟩

/-- A hook for which one of two plugins fails, and the same call with an upper-case name, which is
refused. -/
theorem hooks_summed_up_failing :
    let outcomes : List HookOutcome := [{ plugin := "archive", success := true },
      { plugin := "herald", success := false, message := some "nobody listens" }]
    let backend : Backend Refusal Roster := { manager := some { outcomes } }
    let arguments (hook : String) : Json :=
      .object [("hook", .string hook), ("context", .object [("version", .string "1.5.0")])]
    let call (hook : String) : Rpc.Request :=
      { id := some (.number 1), method := "tools/call"
        params := some (.object
          [("name", .string "relicta.plugins.execute_hook"), ("arguments", arguments hook)]) }
    ∃ server recorded, assemble (some {}) backend { now := .epoch, next := 0 } = .ok server ∧
      assemble (some {}) backend.recorded { now := .epoch, next := 0 } = .ok recorded ∧
      (recorded.handle (call "pre-publish")).2.2.scene.world.manager.map (·.calls) =
        some [.run .prePublish { version := some "1.5.0" } (.ok outcomes)] ∧
      (∃ summary, summary.executed = 2 ∧ summary.failed = 1 ∧
        HookSummary.codec.ofTree (HookSummary.codec.pretty summary) = .ok summary ∧
        (server.handle (call "pre-publish")).2.1 = some (.success (some (.number 1))
          (ToolResult.codec.toJson (.ofText (HookSummary.codec.pretty summary)))) ∧
        (server.handle (call "pre-publish")).1.length = 1) ∧
      (recorded.handle (call "Pre-Publish")).2.2.scene.world.manager.map (·.calls) = some [] ∧
      (server.handle (call "Pre-Publish")).1 = [] := by
  intro outcomes backend arguments call
  obtain ⟨server, recorded, hserver, hrecorded, hall⟩ :=
    hooks_summed_up {} backend { now := .epoch, next := 0 }
  obtain ⟨registry, hassembled, -⟩ := exists_assemble {} backend { now := .epoch, next := 0 }
  obtain ⟨registry', hassembled', -⟩ := exists_assemble {} backend.recorded { now := .epoch, next := 0 }
  have hscene : server.scene = { world := backend, supply := { now := .epoch, next := 0 } } := by
    rw [Except.ok.inj (hserver.symm.trans hassembled)]
    rfl
  have hscene' : recorded.scene = recordedScene server.scene := by
    rw [hscene, Except.ok.inj (hrecorded.symm.trans hassembled')]
    rfl
  have hcalls (hook : String) : CallsHook (call hook) (arguments hook).normal :=
    callsHook_ask (some (.number 1)) (some (arguments hook))
  obtain ⟨result, hright⟩ := hall server recorded rfl rfl hscene' _ _ (hcalls "pre-publish")
  obtain ⟨result', hwrong⟩ := hall server recorded rfl rfl hscene' _ _ (hcalls "Pre-Publish")
  have hasks : ReachesManager (arguments "pre-publish").normal server.scene.world.manager .prePublish
      { version := some "1.5.0" } ({ outcomes } : Roster) := ⟨rfl, by rw [hscene]⟩
  have hnot (hook context) (m : Roster) :
      ¬ReachesManager (arguments "Pre-Publish").normal server.scene.world.manager hook context m := by
    intro ha
    have hread : HookArguments.record.codec.ofJson (arguments "Pre-Publish").normal =
      .ok { hook := "Pre-Publish", context := { version := some "1.5.0" } } := rfl
    have hname : "Pre-Publish" = hook.name :=
      congrArg HookArguments.hook (Except.ok.inj (hread.symm.trans ha.orders))
    cases hook <;> exact absurd hname (by decide)
  refine ⟨server, recorded, hserver, hrecorded, ?_, ?_, ?_, ?_⟩
  · rw [(hright.asked _ _ _ hasks).2]
    rfl
  · obtain ⟨-, summary, hsums, hresult, hback, hsent⟩ := hright.summed _ _ _ _ hasks rfl
    have hfailed : summary.failed = 1 := hsums.failed
    refine ⟨summary, hsums.executed, hfailed, hback (by decide), ?_, ?_⟩
    · rw [hright.answered, hresult]
      rfl
    · rw [hsent, hookWarnings, hfailed, hscene]
      rfl
  · rw [(hwrong.unasked hnot).2, hscene', hscene]
    rfl
  · exact (hwrong.failed fun _ _ _ _ ha => absurd ha (hnot _ _ _)).2

end ReleaseDesk.Release
