import ReleaseDesk.Plugin.Roster
import ReleaseDesk.Proofs.Http.System
import ReleaseDesk.Proofs.Release.Arguments
import ReleaseDesk.Proofs.Release.Failures
import ReleaseDesk.Proofs.Service.Catalogue

/-! The step tools refine the adapter. A call of the tool of a step performs the step once, with the
input that the arguments decode as, and its response is that of the outcome; a call with invalid
arguments performs no step. So a run of calls has the outcomes and the final state of the
corresponding run of the adapter. -/

namespace ReleaseDesk.Release

open ReleaseDesk.Service ReleaseDesk.Plugin ReleaseDesk.Protocol ReleaseDesk.Wire

variable {σ π : Type}

/-! ### Calls -/

/-- A call of the tool of a step, with the meaning of its arguments. -/
structure ToolOrder where
  id : Option Rpc.RequestId
  step : Step
  arguments : Option Json
  meaning : Except String step.Input
  means : step.Means arguments meaning

namespace ToolOrder

def request (o : ToolOrder) : Rpc.Request :=
  { id := o.id
    method := "tools/call"
    params := some (.object
      (("name", .string o.step.toolName) :: o.arguments.toList.map fun v => ("arguments", v))) }

/-- The step that the call performs, unless its arguments are invalid. -/
def step? (o : ToolOrder) : Option ((s : Step) × s.Input) :=
  match o.meaning with
  | .ok input => some ⟨o.step, input⟩
  | .error _ => none

/-- The run of the adapter itself: the outcome, the adapter and the supply afterwards. An enclosed
step takes its progress token from the supply first. -/
def adapterRun [Adapter σ] (o : ToolOrder) (a : σ) (supply : Supply) :
    Except String Entry × σ × Supply :=
  match o.meaning with
  | .ok input =>
    let (outcome, a, supply) := Adapter.perform o.step input (o.step.supplyFor supply) a
    (.ok ⟨o.step, input, outcome⟩, a, supply)
  | .error inputError => (.error inputError, a, supply)

/-- The result of a call: an error about its arguments, or the result of the step. -/
def resultOf : Except String Entry → ToolResult
  | .ok ⟨s, _, .ok output⟩ => { content := [.text (s.output.pretty output)], isError := false }
  | .ok ⟨_, _, .error refusal⟩ => { content := [.text refusal.message], isError := true }
  | .error inputError => { content := [.text inputError], isError := true }

/-- The response to a call with an id. -/
def answer (o : ToolOrder) (outcome : Except String Entry) : Option Rpc.Response :=
  o.id.map fun id => .success (some id) (ToolResult.codec.toJson (resultOf outcome))

/-- The run of the adapter itself, call by call. -/
def adapterRunAll [Adapter σ] : List ToolOrder → σ → Supply →
    List (Except String Entry) × σ × Supply
  | [], a, supply => ([], a, supply)
  | o :: orders, a, supply =>
    let (outcome, a, supply) := o.adapterRun a supply
    let (rest, a, supply) := adapterRunAll orders a supply
    (outcome :: rest, a, supply)

/-! ### The parameters of a call -/

theorem read_params (name : String) (arguments : Option Json) :
    readParams ToolCall.codec (some (.object
        (("name", .string name) :: arguments.toList.map fun v => ("arguments", v)))) =
      .ok { name, arguments := (arguments.getD .null).normal } := by
  cases arguments with
  | none => rfl
  | some v =>
    have hfields : ToolCall.record.fields.Conveys ["name", "arguments"] { name, arguments := v }
        { name, arguments := v.normal } :=
      ((Fields.conveys_nothing _ ToolCall.mk).both
        (Fields.conveys_one (Member.conveys_required (Codec.conveys_string name) "name"))).both
        (Fields.conveys_defaulted (Codec.conveys_json v) "arguments" Json.null)
    have hconveys : ToolCall.codec.Conveys { name, arguments := v } { name, arguments := v.normal } :=
      Record.conveys hfields (by decide)
    have hwritten : (Json.object [("name", .string name), ("arguments", v)]).normal =
        (ToolCall.codec.write { name, arguments := v }).normal := by
      have hwrite : ToolCall.codec.write { name, arguments := v } =
          .object [("name", .string name), ("arguments", v.normal)] := rfl
      simp only [hwrite, Json.normal, Json.normalMembers, Json.normal_normal]
    have hread : ToolCall.codec.ofJson (.object [("name", .string name), ("arguments", v)]) =
        .ok { name, arguments := v.normal } := by
      rw [Codec.ofJson, hwritten]
      exact (hconveys .tree).2
    simp only [readParams, Option.toList_some, List.map_cons, List.map_nil, hread]
    rfl

/-- The tool reads the arguments of a call as what they mean. -/
theorem readInput_arguments (o : ToolOrder) :
    o.step.readInput (o.arguments.getD .null).normal = o.meaning := by
  rw [Step.readInput_normal]
  exact Step.means_iff.mp o.means

end ToolOrder

/-! ### One call -/

/-- The server has the tools of all steps and the adapter `a`, and is between two calls. -/
structure HasAdapter [Adapter σ] (s : Server (Backend σ π)) (a : σ) (manager : Option π)
    (supply : Supply) : Prop where
  tools : ∀ step : Step, s.service.registry.tools.get? step.toolName = some step.handler
  world : s.scene.world = { adapter := some a, manager }
  supply : s.scene.supply = supply
  silent : s.scene.sent = []

namespace HasAdapter

open ToolOrder

variable [Adapter σ] {s : Server (Backend σ π)} {a : σ} {manager : Option π} {supply : Supply}

theorem route_run (h : HasAdapter s a manager supply) (o : ToolOrder) (c : Context)
    (scene : Scene (Backend σ π)) :
    (s.service.route o.request.method o.request.params c).run scene =
      let r := (o.step.handler.call (o.arguments.getD .null).normal c).run scene
      (handled ToolResult.codec r.1, r.2) := by
  have hroute : s.service.route o.request.method o.request.params c =
      handled ToolResult.codec <$> o.step.handler.call (o.arguments.getD .null).normal c :=
    Dispatcher.route_tool (read_params o.step.toolName o.arguments) (h.tools o.step) c
  rw [hroute]
  rfl

theorem scene_eq (h : HasAdapter s a manager supply) : { s.scene with sent := [] } = s.scene := by
  rw [← h.silent]

/-- The notifications of a call do not stay in the scene. -/
theorem handle_eq (h : HasAdapter s a manager supply) (o : ToolOrder) :
    s.handle o.request =
      let r := (o.step.handler.call (o.arguments.getD .null).normal (s.service.context o.request)).run
        s.scene
      (r.2.sent, o.id.map fun id => answerOf id (handled ToolResult.codec r.1),
        { s with scene := { r.2 with sent := [] } }) := by
  have hphase : s.phase.after o.request.method = s.phase := by
    cases s.phase <;> rfl
  simp only [Server.handle, Action.observed_run, Dispatcher.dispatch_run, h.scene_eq, h.route_run, hphase]
  rfl

/-- A call with invalid arguments changes nothing. -/
theorem handle_inputError (h : HasAdapter s a manager supply) {o : ToolOrder} {inputError : String}
    (hc : o.meaning = .error inputError) :
    s.handle o.request = ([], o.answer (.error inputError), s) := by
  have hinput : o.step.readInput (o.arguments.getD .null).normal = .error inputError := by
    rw [o.readInput_arguments, hc]
  rw [h.handle_eq, Step.handler_run_inputError hinput]
  simp only [h.silent, h.scene_eq]
  rfl

/-- A call with valid arguments has the outcome of the step. -/
theorem handle_input (h : HasAdapter s a manager supply) {o : ToolOrder} {input : o.step.Input}
    (hi : o.meaning = .ok input) :
    (s.handle o.request).2.1 = o.answer (o.adapterRun a supply).1 ∧
      HasAdapter (s.handle o.request).2.2 (o.adapterRun a supply).2.1 manager
        (o.adapterRun a supply).2.2 := by
  have hinput : o.step.readInput (o.arguments.getD .null).normal = .ok input := by
    rw [o.readInput_arguments, hi]
  have hadapter : s.scene.world.adapter = some a := by
    rw [h.world]
  obtain ⟨hresult, hworld, hsupply⟩ :=
    Step.handler_run_some hinput hadapter (s.service.context o.request)
  rw [h.supply] at hresult hworld hsupply
  have hdirectly : o.adapterRun a supply =
      (.ok ⟨o.step, input, (Adapter.perform o.step input (o.step.supplyFor supply) a).1⟩,
        (Adapter.perform o.step input (o.step.supplyFor supply) a).2) := by
    simp only [adapterRun, hi]
  rw [h.handle_eq, hdirectly]
  refine ⟨?_, ?_⟩
  · dsimp only
    rw [hresult]
    generalize (Adapter.perform o.step input (o.step.supplyFor supply) a).1 = outcome
    cases outcome <;> rfl
  · exact {
      tools := h.tools
      world := hworld.trans (by rw [h.world])
      supply := hsupply
      silent := rfl }

theorem handle (h : HasAdapter s a manager supply) (o : ToolOrder) :
    (s.handle o.request).2.1 = o.answer (o.adapterRun a supply).1 ∧
      HasAdapter (s.handle o.request).2.2 (o.adapterRun a supply).2.1 manager
        (o.adapterRun a supply).2.2 := by
  cases hm : o.meaning with
  | ok input => exact h.handle_input hm
  | error inputError =>
    have hdirectly : o.adapterRun a supply = (.error inputError, a, supply) := by
      simp only [adapterRun, hm]
    rw [h.handle_inputError hm, hdirectly]
    exact ⟨rfl, h⟩

/-! ### Runs of calls -/

/-- A run of calls has the outcomes and the final state of the run of the adapter. -/
theorem handleAll (h : HasAdapter s a manager supply) (orders : List ToolOrder) :
    (s.handleAll (orders.map request)).1 =
        List.zipWith answer orders (adapterRunAll orders a supply).1 ∧
      HasAdapter (s.handleAll (orders.map request)).2 (adapterRunAll orders a supply).2.1 manager
        (adapterRunAll orders a supply).2.2 := by
  induction orders generalizing s a supply with
  | nil => exact ⟨rfl, h⟩
  | cons o orders ih =>
    obtain ⟨hanswer, hserves⟩ := h.handle o
    obtain ⟨hanswers, hleft⟩ := ih hserves
    refine ⟨?_, hleft⟩
    simp only [List.map_cons, Server.handleAll, adapterRunAll, List.zipWith_cons_cons, hanswer, hanswers]

end HasAdapter

namespace ToolOrder

/-! ### Recorded calls -/

/-- A recording adapter behaves the same and records the step. -/
theorem adapterRun_recording [Adapter σ] (o : ToolOrder) (a : σ) (calls : List Entry)
    (supply : Supply) :
    o.adapterRun ({ state := a, calls } : Recording σ Entry) supply =
      ((o.adapterRun a supply).1,
        { state := (o.adapterRun a supply).2.1
          calls := (o.adapterRun a supply).1.toOption.toList ++ calls },
        (o.adapterRun a supply).2.2) := by
  unfold adapterRun
  cases o.meaning <;> rfl

theorem adapterRunAll_recording [Adapter σ] (orders : List ToolOrder) (a : σ) (calls : List Entry)
    (supply : Supply) :
    adapterRunAll orders ({ state := a, calls } : Recording σ Entry) supply =
      ((adapterRunAll orders a supply).1,
        { state := (adapterRunAll orders a supply).2.1
          calls := ((adapterRunAll orders a supply).1.filterMap Except.toOption).reverse ++ calls },
        (adapterRunAll orders a supply).2.2) := by
  induction orders generalizing a calls supply with
  | nil => rfl
  | cons o orders ih =>
    simp only [adapterRunAll, adapterRun_recording, ih]
    cases (o.adapterRun a supply).1 with
    | ok e =>
      have hsome : (Except.ok e : Except String Entry).toOption = some e := rfl
      simp [List.filterMap_cons_some hsome, hsome]
    | error inputError =>
      rw [List.filterMap_cons_none rfl]
      rfl

/-- The steps recorded in a run are those that the calls mean, in order. -/
theorem asked_adapterRunAll [Adapter σ] (orders : List ToolOrder) (a : σ) (supply : Supply) :
    ((adapterRunAll orders a supply).1.filterMap Except.toOption).map (fun e => ⟨e.step, e.input⟩) =
      orders.filterMap step? := by
  induction orders generalizing a supply with
  | nil => rfl
  | cons o orders ih =>
    simp only [adapterRunAll, List.filterMap_cons]
    rw [adapterRun, step?]
    cases o.meaning <;> simp [Except.toOption, ih]

end ToolOrder

/-! ### The release server -/

/-- The server in the middle of a session, with an arbitrary phase, level and tracker. -/
def midSession (s : Server ω) (phase : Phase) (level : LogLevel) (tracker : Tracker) : Server ω :=
  { s with phase, scene := { s.scene with level, tracker } }

/-- Every run of calls of the tools at `server` has the responses that belong to the run of the
adapter `a`, and leaves its final state. A recording adapter records the steps that the calls mean,
in order, and nothing else; a call with invalid arguments is answered with an error and has no other
effect. -/
structure Refines [Adapter σ] (server : Server (Backend σ π))
    (recorded : Server (Backend (Recording σ Entry) π)) (a : σ) (manager : Option π) (supply : Supply)
    (orders : List ToolOrder) : Prop where
  answers : (server.handleAll (orders.map ToolOrder.request)).1 =
    List.zipWith ToolOrder.answer orders (ToolOrder.adapterRunAll orders a supply).1
  world : (server.handleAll (orders.map ToolOrder.request)).2.scene.world =
    { adapter := some (ToolOrder.adapterRunAll orders a supply).2.1, manager }
  left : (server.handleAll (orders.map ToolOrder.request)).2.scene.supply =
    (ToolOrder.adapterRunAll orders a supply).2.2
  sameAnswers : (recorded.handleAll (orders.map ToolOrder.request)).1 =
    (server.handleAll (orders.map ToolOrder.request)).1
  calls : ∃ entries : List Entry,
    (recorded.handleAll (orders.map ToolOrder.request)).2.scene.world.adapter =
        some { state := (ToolOrder.adapterRunAll orders a supply).2.1, calls := entries.reverse } ∧
      entries = (ToolOrder.adapterRunAll orders a supply).1.filterMap Except.toOption ∧
      entries.map (fun e => ⟨e.step, e.input⟩) = orders.filterMap ToolOrder.step?
  rejected : ∀ before o after inputError, orders = before ++ o :: after →
    o.meaning = .error inputError →
    let s := (server.handleAll (before.map ToolOrder.request)).2
    s.handle o.request = ([], o.answer (.error inputError), s)

theorem HasAdapter.refines [Adapter σ] {server : Server (Backend σ π)}
    {recorded : Server (Backend (Recording σ Entry) π)} {a : σ} {manager : Option π} {supply : Supply}
    (h : HasAdapter server a manager supply) (hw : HasAdapter recorded { state := a } manager supply)
    (orders : List ToolOrder) : Refines server recorded a manager supply orders := by
  obtain ⟨hanswers, hserves⟩ := h.handleAll orders
  obtain ⟨hsame, hrecorded⟩ := hw.handleAll orders
  have hdirectly := ToolOrder.adapterRunAll_recording orders a [] supply
  rw [hdirectly] at hsame hrecorded
  rw [List.append_nil] at hrecorded
  exact {
    answers := hanswers
    world := hserves.world
    left := hserves.supply
    sameAnswers := hsame.trans hanswers.symm
    calls := ⟨_, congrArg Backend.adapter hrecorded.world, rfl,
      ToolOrder.asked_adapterRunAll orders a supply⟩
    rejected := by
      rintro before o after inputError - hc
      exact (h.handleAll before).2.handle_inputError hc }

theorem serves_midway [Adapter σ] [Manager π] (config : Config) {a : σ} {manager : Option π}
    {registry : Registry (Backend σ π)} (supply : Supply)
    (h : ∀ k, registry.get? k = serverHandlers.find? (·.key = k)) (phase : Phase) (level : LogLevel)
    (tracker : Tracker) :
    HasAdapter (midSession (serverOf config registry { adapter := some a, manager } supply)
      phase level tracker)
      a manager supply where
  tools := HasReleaseHandlers.tools h
  world := rfl
  supply := rfl
  silent := rfl

/-- For every adapter, the release server can be assembled, also with a recording adapter, and in
the middle of any session the calls of its step tools refine the adapter. -/
theorem tools_refine_adapter [Adapter σ] [Manager π] (config : Config) (a : σ) (manager : Option π)
    (supply : Supply) :
    ∃ server recorded, assemble (some config) { adapter := some a, manager } supply = .ok server ∧
      assemble (some config) { adapter := some ({ state := a } : Recording σ Entry), manager } supply =
        .ok recorded ∧
      ∀ phase level tracker orders, Refines (midSession server phase level tracker)
        (midSession recorded phase level tracker) a manager supply orders := by
  obtain ⟨registry, hserver, hget⟩ := exists_assemble config { adapter := some a, manager } supply
  obtain ⟨registry', hrecorded, hget'⟩ := exists_assemble config
    { adapter := some ({ state := a } : Recording σ Entry), manager } supply
  refine ⟨_, _, hserver, hrecorded, fun phase level tracker orders => ?_⟩
  exact (serves_midway config supply hget phase level tracker).refines
    (serves_midway config supply hget' phase level tracker) orders

/-- A bump with its kind in mixed case, and one of an unknown kind, which is refused. -/
theorem tools_refine_adapter_bump :
    let supply : Supply := { now := .epoch, next := 0 }
    let orders : List ToolOrder := [
      { id := some (.number 1), step := .bump
        arguments := some (.object [("bump", .string "Minor"), ("prerelease", .null)])
        meaning := .ok { bump := .minor }
        means := Step.means_iff.mpr rfl },
      { id := some (.number 2), step := .bump
        arguments := some (.object [("bump", .string "huge")])
        meaning := .error (badBump "huge").message
        means := Step.means_iff.mpr rfl }]
    let backend : Backend Refusal Roster := { adapter := some .noActiveRelease }
    (∃ server recorded, assemble (some {}) backend supply = .ok server ∧
      Refines (midSession server .running .info {}) recorded .noActiveRelease none supply orders) ∧
      orders.filterMap ToolOrder.step? = [⟨.bump, { bump := .minor }⟩] := by
  intro supply orders backend
  obtain ⟨server, recorded, hserver, -, hrefines⟩ :=
    tools_refine_adapter {} Refusal.noActiveRelease (none : Option Roster) supply
  exact ⟨⟨server, _, hserver, hrefines .running .info {} orders⟩, rfl⟩

end ReleaseDesk.Release
