import ReleaseDesk.Plugin.Roster
import ReleaseDesk.Proofs.Protocol.Payload
import ReleaseDesk.Proofs.Release.BackendCall
import ReleaseDesk.Proofs.Stream.Positional

/-! The advertised schemas of the tools. The listing of a release server gives a schema for the
arguments of each tool. Arguments that satisfy the schema decode as an input of the tool, in which
every member that is described has its value or its default; so the tool never refuses them itself.
-/

namespace ReleaseDesk

open Json Wire Wire.Fields Text

namespace Release

open Protocol Service Plugin

variable {σ π : Type}

/-! ### The catalogue -/

/-- The definitions of the tools in a list of handlers. -/
def toolsOf (handlers : List (Handler ω)) : List Tool :=
  (handlers.filterMap Kind.tool.member?).map Kind.tool.definition

/-- A value that satisfies the schema of a tool is an object, and the arguments of some input of the
tool. -/
theorem exists_encodedBy [Adapter σ] [Manager π] : ∀ t ∈ toolsOf (serverHandlers (σ := σ) (π := π)), ∀ v,
    Satisfies t.inputSchema.normal v →
    (∃ ms, v = .object ms) ∧ ∃ q : BackendCall, q.toolName = t.name ∧ q.EncodedBy v := by
  have htools : toolsOf (serverHandlers (σ := σ) (π := π)) =
      Step.all.map Step.tool ++ [(listHandler (σ := σ) (π := π)).tool, (infoHandler (σ := σ) (π := π)).tool,
        (hookHandler (σ := σ) (π := π)).tool] := rfl
  rw [htools, List.forall_mem_append, List.forall_mem_map]
  refine ⟨fun s _ v h => ?_, List.forall_mem_cons.mpr ⟨fun v h => ?_, List.forall_mem_cons.mpr ⟨fun v h => ?_,
    List.forall_mem_singleton.mpr fun v h => ?_⟩⟩⟩
  · obtain ⟨input, hinput⟩ := Step.exists_encodes h
    exact ⟨((satisfies_objectSchema_iff s.nodup_toolArguments []).mp h).1, .step s input, rfl, hinput⟩
  · exact ⟨((satisfies_objectSchema_iff (by decide) []).mp h).1, .plugins, rfl, trivial⟩
  · obtain ⟨hobject, hrequired, hmembers⟩ := (satisfies_objectSchema_iff (by decide) ["name"]).mp h
    obtain ⟨w, hw⟩ := Option.isSome_iff_exists.mp (hrequired "name" (.head _))
    obtain ⟨name, rfl⟩ := typeName_eq_string.mp
      ((satisfies_argument_iff _ _ _).mp (hmembers _ (.head _) w hw))
    exact ⟨hobject, .plugin name, rfl, hw⟩
  · obtain ⟨hobject, hrequired, hmembers⟩ := (satisfies_objectSchema_iff (by decide) ["hook"]).mp h
    obtain ⟨w, hw⟩ := Option.isSome_iff_exists.mp (hrequired "hook" (.head _))
    obtain ⟨name, hname, rfl⟩ := (satisfies_choice_iff _ _ (by decide) rfl rfl).mp (hmembers _ (.head _) w hw)
    obtain ⟨hook, -, rfl⟩ := List.mem_map.mp hname
    refine ⟨hobject, ?_⟩
    cases hcontext : v.member? "context" with
    | none => exact ⟨.run hook {}, rfl, hw, .inl ⟨hcontext, rfl⟩⟩
    | some given =>
      obtain ⟨context, hencoded⟩ := ReleaseContext.exists_encodedBy
        (hmembers _ (.tail _ (.head _)) given hcontext)
      exact ⟨.run hook context, rfl, hw, .inr ⟨given, hcontext, hencoded⟩⟩

/-! ### Calls -/

/-- The request calls the tool `name` with these arguments. -/
structure Calls (r : Rpc.Request) (name : String) (arguments : Json) : Prop where
  method : r.method = "tools/call"
  read : readParams ToolCall.codec r.params = .ok { name, arguments }

theorem calls_ask (id : Option Rpc.RequestId) (name : String) (arguments : Json) :
    Calls
      { id, method := "tools/call"
        params := some (.object [("name", .string name), ("arguments", arguments)]) }
      name arguments.normal :=
  ⟨rfl, ToolOrder.read_params name (some arguments)⟩

theorem json_read_normal {o : Origin} {d : Draft} {v : Json} (h : Codec.json.read o d = .ok v) :
    v.normal = v := by
  simp only [Codec.json, Draft.value?] at h
  cases hw : d.written? with
  | none =>
    rw [hw] at h
    cases h
  | some w =>
    rw [hw] at h
    cases h
    exact normal_normal w

/-- Decoded arguments are in normal form. -/
theorem arguments_normal {v : Json} {call : ToolCall} (h : ToolCall.codec.ofJson v = .ok call) :
    call.arguments.normal = call.arguments := by
  have hnull : Json.null.normal = .null := rfl
  cases v with
  | object ms =>
    have hnodup : ((sortMembers (normalMembers ms)).map (·.1)).Nodup := (ascending_sortMembers _).nodup
    have hgive : ToolCall.record.fields.Give .tree (sortMembers (normalMembers ms)) call :=
      Record.read_object_iff.mp h
    have hothers (key : String) : ((nothing ToolCall.mk).both
      (required "name" .string ToolCall.name)).Ignore key ∨
        (defaulted "arguments" .json .null ToolCall.arguments).Ignore key :=
      ignore_or_one _ (both_ignore (nothing_ignore _ _) (one_ignore (by decide))) key
    obtain ⟨g, arguments, hg, harguments, rfl⟩ := hgive.of_both hothers
    obtain ⟨mk, name, hmk, -, rfl⟩ := hg.of_both (ignore_or_one _ (nothing_ignore _ _))
    obtain rfl := give_nothing_iff.mp hmk
    have hread := (give_one_iff hnodup).mp harguments
    split at hread
    · exact json_read_normal (o := .tree) hread
    · cases hread
      exact hnull
  | array items =>
    have horder := Record.read_array_iff.mp h
    obtain ⟨g, arguments, left, hg, harguments, rfl⟩ := Fields.inOrder_both_iff.mp horder
    obtain ⟨mk, name, front, hmk, -, rfl⟩ := Fields.inOrder_both_iff.mp hg
    obtain ⟨rfl, -⟩ := Fields.inOrder_nothing_iff.mp hmk
    obtain ⟨d, -, hread⟩ | ⟨-, -, hshort⟩ := Fields.inOrder_one_iff.mp harguments
    · exact json_read_normal (o := .tree) hread
    · cases hshort
      exact hnull
  | null | bool | number | string => cases h

theorem Calls.normal {r : Rpc.Request} {name : String} {v : Json} (h : Calls r name v) : v.normal = v := by
  have hread := h.read
  cases hparams : r.params with
  | none =>
    rw [hparams] at hread
    cases hread
  | some params =>
    rw [hparams, readParams] at hread
    cases hcall : ToolCall.codec.ofJson params with
    | error fault =>
      rw [hcall] at hread
      cases hread
    | ok call =>
      rw [hcall] at hread
      cases hread
      exact arguments_normal hcall

theorem handle_call {s : Server ω} {r : Rpc.Request} {h : ToolHandler ω} {v : Json} {name : String}
    (hr : Calls r name v) (hfound : s.service.registry.tools.get? name = some h) :
    s.handle r =
      let done := (h.call v (s.service.context r)).run { s.scene with sent := [] }
      (done.2.sent, r.id.map fun id => answerOf id (handled ToolResult.codec done.1),
        { s with phase := s.phase.after r.method, scene := { done.2 with sent := [] } }) := by
  have hroute := Dispatcher.route_tool hr.read hfound (s.service.context r)
  rw [s.handle_eq, hr.method, hroute, StateT.run_map]
  rfl

/-! ### The release server -/

/-- The call has the response of the question, and the recording server records the question once,
at the collaborator it is for. An error about the arguments does not come from the tool. -/
structure RespondsWith [Adapter σ] [Manager π] (s : Server (Backend σ π))
    (w : Server (RecordedBackend σ π)) (r : Rpc.Request)
    (q : BackendCall) : Prop where
  answered : (s.handle r).2.1 = r.id.map fun id =>
    .success (some id) (ToolResult.codec.toJson (q.execute s.scene.supply s.scene.world).1)
  left : (s.handle r).2.2.scene.world = (q.execute s.scene.supply s.scene.world).2
  sameRecorded : (w.handle r).2.1 = (s.handle r).2.1 ∧
    (w.handle r).2.2.scene.world.erase = (s.handle r).2.2.scene.world
  asked : (w.handle r).2.2.scene.world.questions = if q.reaches s.scene.world then [q] else []
  blameless : ∀ text, ArgumentError text → (q.execute s.scene.supply s.scene.world).1 = .failure text →
    text ∈ (w.handle r).2.2.scene.world.errors

section

variable [Adapter σ] [Manager π]

theorem catalogues_assemble {config : Option Config} {backend : Backend σ π} {supply : Supply}
    {server : Server (Backend σ π)} (h : assemble config backend supply = .ok server) :
    server.service.registry.Catalogues serverHandlers := by
  cases config with
  | none => cases h
  | some config =>
    obtain ⟨_, hrelease, h⟩ := bind_eq_ok h
    obtain ⟨_, hplugin, h⟩ := bind_eq_ok h
    cases h
    have hreleased : (({} : Registry (Backend σ π)).registerAll releaseHandlers).1 = .ok () := hrelease
    have hplugged : ((({} : Registry (Backend σ π)).registerAll releaseHandlers).2.registerAll
        pluginHandlers).1 = .ok () := hplugin
    exact (Registry.Catalogues.empty.registerAll hreleased).registerAll hplugged

theorem BackendCall.find?_handler (q : BackendCall) :
    (serverHandlers (σ := σ) (π := π)).find? (·.key = .tool q.toolName) = some (.tool q.handler) := by
  cases q with
  | step s input => cases s <;> rfl
  | plugins | plugin | run => rfl

/-- A call whose arguments spell out a question has the response of the question. -/
theorem handle_encoded {s : Server (Backend σ π)} (h : HasReleaseHandlers s.service.registry)
    {r : Rpc.Request} {q : BackendCall}
    {ms : List (String × Json)} (hr : Calls r q.toolName (.object ms)) (hq : q.EncodedBy (.object ms)) :
    (s.handle r).2.1 = (r.id.map fun id =>
        .success (some id) (ToolResult.codec.toJson (q.execute s.scene.supply s.scene.world).1)) ∧
      (s.handle r).2.2.scene.world = (q.execute s.scene.supply s.scene.world).2 := by
  obtain ⟨hresult, hworld⟩ := executes_of_encodedBy hr.normal hq
    (s.service.context r) { s.scene with sent := [] }
  rw [handle_call hr (h.tool q.find?_handler)]
  dsimp only
  rw [hresult, hworld]
  exact ⟨rfl, rfl⟩

theorem comesTo {s : Server (Backend σ π)} {w : Server (RecordedBackend σ π)}
    (hs : HasReleaseHandlers s.service.registry)
    (hw : HasReleaseHandlers w.service.registry)
    (hscene : w.scene = recordedScene s.scene) {r : Rpc.Request} {q : BackendCall}
    {ms : List (String × Json)} (hr : Calls r q.toolName (.object ms)) (hq : q.EncodedBy (.object ms)) :
    RespondsWith s w r q := by
  obtain ⟨hanswer, hworld⟩ := handle_encoded hs hr hq
  obtain ⟨hrecorded, hleft⟩ := handle_encoded hw hr hq
  have hsupply : w.scene.supply = s.scene.supply := by
    rw [hscene, recordedScene_supply]
  have hbackend : w.scene.world = s.scene.world.recorded := by
    rw [hscene]
    rfl
  obtain ⟨hsame, herase, hcalls⟩ := execute_recorded q s.scene.supply s.scene.world
  rw [hsupply, hbackend] at hrecorded hleft
  refine { answered := hanswer, left := hworld, sameRecorded := ⟨?_, ?_⟩, asked := ?_, blameless := ?_ }
  · rw [hrecorded, hanswer, hsame]
  · rw [hleft, hworld, herase]
  · rw [hleft, hcalls]
  · intro text htext hfailure
    rw [hleft]
    exact execute_inputError htext hfailure

/-- `tools/list` returns the definitions and schemas of the registered tools. -/
theorem read_toolPage {s : Server ω} {r : Rpc.Request} {id : Rpc.RequestId}
    (hmethod : r.method = "tools/list")
    (hid : r.id = some id) :
    ∃ page, (s.handle r).2.1 = some (.success (some id) page) ∧
      ToolPage.codec.ofJson page =
        .ok { tools := (Kind.tool.listed s.service.registry).map Tool.arrived } := by
  have hlist : r.method = Kind.tool.listMethod := hmethod
  exact ⟨_, Server.answer_list hid hlist, (ToolPage.conveys _).ofJson_toJson⟩

end

/-- For every adapter and every plugin manager, the release server can be assembled, also with
recording collaborators. It has ten tools, and `tools/list` returns them with their schemas. In
every state, a call of a tool with arguments that satisfy its schema puts one question to a
collaborator, in which every described member that is present has its value, and every other its
default. -/
theorem schemas_agree_with_tools [Adapter σ] [Manager π] (config : Config) (backend : Backend σ π)
    (supply : Supply) :
    ∃ server recorded, assemble (some config) backend supply = .ok server ∧
      assemble (some config) backend.recorded supply = .ok recorded ∧
      ∃ tools : List Tool, tools.Perm ((toolsOf (serverHandlers (σ := σ) (π := π))).map Tool.arrived) ∧
        (tools.map (·.name)).Perm [
          "relicta.status", "relicta.plan", "relicta.bump", "relicta.notes", "relicta.evaluate",
          "relicta.approve",
          "relicta.publish", "relicta.plugins.list", "relicta.plugins.info", "relicta.plugins.execute_hook"] ∧
        ∀ (s : Server (Backend σ π)) (w : Server (RecordedBackend σ π)), s.service = server.service →
          w.service = recorded.service → w.scene = recordedScene s.scene →
          (∀ r id, r.method = "tools/list" → r.id = some id →
            ∃ page, (s.handle r).2.1 = some (.success (some id) page) ∧
              ToolPage.codec.ofJson page = .ok { tools }) ∧
          ∀ t ∈ tools, ∀ arguments, Satisfies t.inputSchema arguments → ∀ r, Calls r t.name arguments →
            ∃ q : BackendCall, q.toolName = t.name ∧ q.EncodedBy arguments ∧ RespondsWith s w r q := by
  obtain ⟨registry, hserver, hhandlers⟩ := exists_assemble config backend supply
  obtain ⟨registry', hrecorded, hstock'⟩ := exists_assemble config backend.recorded supply
  have hcatalogue := catalogues_assemble hserver
  have htools := (hcatalogue.perm_listed .tool).map Tool.arrived
  refine ⟨_, _, hserver, hrecorded, _, htools, htools.map (·.name),
    fun s w hs hw hscene => ⟨fun r id hmethod hid => ?_, ?_⟩⟩
  · rw [← hs]
    exact read_toolPage hmethod hid
  · intro t ht v hv r hr
    obtain ⟨t, hmem, rfl⟩ := List.mem_map.mp (htools.mem_iff.mp ht)
    obtain ⟨⟨ms, rfl⟩, q, hname, hencoded⟩ := exists_encodedBy t hmem v hv
    refine ⟨q, hname, hencoded, comesTo ?_ ?_ hscene (hname ▸ hr) hencoded⟩
    · rw [hs]
      exact hhandlers
    · rw [hw]
      exact hstock'

/-- A hook in a dry run, with an additional member in its context. -/
theorem schemas_agree_with_tools_hook :
    let backend : Backend Refusal Roster := { manager := some {} }
    let context : Json := .object [("dry_run", .bool true), ("version", .string "1.5.0")]
    let arguments : Json := .object [("by", .null), ("context", context), ("hook", .string "pre-publish")]
    let call : Rpc.Request :=
      { id := some (.number 1), method := "tools/call"
        params := some (.object [("name", .string "relicta.plugins.execute_hook"),
          ("arguments", arguments)]) }
    Satisfies (hookHandler (σ := Refusal) (π := Roster)).tool.inputSchema.normal arguments ∧
    ∃ server recorded, assemble (some {}) backend { now := .epoch, next := 0 } = .ok server ∧
      assemble (some {}) backend.recorded { now := .epoch, next := 0 } = .ok recorded ∧
      (recorded.handle call).2.2.scene.world.questions =
        [.run .prePublish { version := some "1.5.0", dryRun := true }] := by
  intro backend context arguments call
  obtain ⟨server, recorded, hserver, hrecorded, tools, htools, -, hall⟩ :=
    schemas_agree_with_tools {} backend { now := .epoch, next := 0 }
  obtain ⟨registry, hassembled, -⟩ := exists_assemble {} backend { now := .epoch, next := 0 }
  obtain ⟨registry', hassembled', -⟩ := exists_assemble {} backend.recorded { now := .epoch, next := 0 }
  have hscene : server.scene = { world := backend, supply := { now := .epoch, next := 0 } } := by
    rw [Except.ok.inj (hserver.symm.trans hassembled)]
    rfl
  have hscene' : recorded.scene = recordedScene server.scene := by
    rw [hscene, Except.ok.inj (hrecorded.symm.trans hassembled')]
    rfl
  have hcontext : Satisfies contextSchema.normal context := by
    refine satisfies_contextSchema_iff.mpr ⟨⟨_, rfl⟩, ?_, ?_⟩
    · simp [context, member?, entries, lookup_cons, typeName]
    · rintro w ⟨⟩
      rfl
  have hsatisfies : Satisfies (hookHandler (σ := Refusal)
    (π := Roster)).tool.inputSchema.normal arguments := by
    refine (satisfies_objectSchema_iff (by decide) ["hook"]).mpr ⟨⟨_, rfl⟩, ?_, ?_⟩
    · exact List.forall_mem_singleton.mpr rfl
    · refine List.forall_mem_cons.mpr ⟨?_, List.forall_mem_singleton.mpr ?_⟩
      · rintro w ⟨⟩
        exact (satisfies_choice_iff _ _ (by decide) rfl rfl).mpr ⟨_, by decide, rfl⟩
      · rintro w ⟨⟩
        exact hcontext
  have hmem : (hookHandler (σ := Refusal) (π := Roster)).tool.arrived ∈ tools := by
    refine htools.mem_iff.mpr (List.mem_map_of_mem ?_)
    exact List.mem_of_getLast? rfl
  have hnormal : arguments.normal = arguments := by
    dsimp only [arguments, context]
    rfl
  have hcalls : Calls call "relicta.plugins.execute_hook" arguments := by
    have hask := calls_ask (some (.number 1)) "relicta.plugins.execute_hook" arguments
    rwa [hnormal] at hask
  obtain ⟨q, hname, hencoded, hcomes⟩ :=
    (hall server recorded rfl rfl hscene').2 _ hmem arguments hsatisfies call hcalls
  have hq : q = .run .prePublish { version := some "1.5.0", dryRun := true } := by
    cases q with
    | step s input =>
      have htool : s.toolName = "relicta.plugins.execute_hook" := hname
      cases s <;> exact absurd htool (by decide)
    | plugins => exact absurd hname (by decide : "relicta.plugins.list" ≠ "relicta.plugins.execute_hook")
    | plugin name => exact absurd hname (by decide : "relicta.plugins.info" ≠ "relicta.plugins.execute_hook")
    | run hook given =>
      obtain ⟨hhook, ⟨hnone, -⟩ | ⟨w, hw, hgiven⟩⟩ := hencoded
      · cases hnone
      · cases hw
        have hfound : Hook.choice.ofName? "pre-publish" = some hook :=
          Hook.ofName?_eq_some_iff.mpr (Json.string.inj (Option.some.inj hhook))
        have hread : ReleaseContext.codec.ofJson context = .ok given :=
          ReleaseContext.ofJson_of_encodedBy rfl hgiven
        cases hfound
        cases hread
        rfl
  refine ⟨hsatisfies, server, recorded, hserver, hrecorded, ?_⟩
  rw [hcomes.asked, hscene, hq]
  rfl

end Release

end ReleaseDesk
