import ReleaseDesk.Proofs.Plugin.Hook
import ReleaseDesk.Proofs.Release.Schema

/-! Arguments and the inputs they encode. A member that is present determines the value of its
field, and an absent member has its default; other members are ignored. Arguments that satisfy the
schema of a tool encode an input, and the tool decodes the input that they encode. -/

namespace ReleaseDesk

open Json Wire Wire.Fields Release

/-! ### Steps -/

namespace Release.Step

/-- The arguments encode the input of a step, member by member. -/
inductive Encodes (v : Json) : (s : Step) → s.Input → Prop
  | status : Encodes v .status ()
  | plan {start : Option String} {analyze : Option Bool} (hstart : v.member? "from" = start.map .string)
    (hanalyze : v.member? "analyze" = analyze.map .bool) :
    Encodes v .plan { start, analyze := analyze.getD false }
  | bump {kind : Option BumpKind} {prerelease : Option String} {dryRun : Option Bool}
    (hkind : v.member? "bump" = kind.map fun k => .string k.name)
    (hprerelease : v.member? "prerelease" = prerelease.map .string)
    (hdryRun : v.member? "dry_run" = dryRun.map .bool) :
    Encodes v .bump { bump := kind.getD .auto, prerelease, dryRun := dryRun.getD false }
  | notes {ai includeAll : Option Bool} (hai : v.member? "ai" = ai.map .bool)
    (hincludeAll : v.member? "include_all" = includeAll.map .bool) :
    Encodes v .notes { ai := ai.getD false, includeAll := includeAll.getD false }
  | evaluate : Encodes v .evaluate {}
  | approve {approver notes : Option String} (happrover : v.member? "approver" = approver.map .string)
    (hnotes : v.member? "notes" = notes.map .string) : Encodes v .approve { approver, notes }
  | publish {dryRun : Option Bool} (hdryRun : v.member? "dry_run" = dryRun.map .bool) :
    Encodes v .publish { dryRun := dryRun.getD false }

theorem nodup_toolArguments (s : Step) : (s.toolArguments.map (·.1)).Nodup := by
  cases s <;> decide

/-- Arguments that satisfy the schema encode an input. -/
theorem exists_encodes {s : Step} {v : Json} (h : Satisfies s.tool.inputSchema.normal v) :
    ∃ input, s.Encodes v input := by
  obtain ⟨-, -, hmembers⟩ := (satisfies_objectSchema_iff s.nodup_toolArguments []).mp h
  have htext {name description : String} (hmem : argument name "string" description ∈ s.toolArguments) :
      ∃ text : Option String, v.member? name = text.map .string :=
    exists_text fun w hw => (satisfies_argument_iff _ _ _).mp (hmembers _ hmem w hw)
  have hflag {name description : String} (hmem : argument name "boolean" description ∈ s.toolArguments) :
      ∃ flag : Option Bool, v.member? name = flag.map .bool :=
    exists_flag fun w hw => (satisfies_argument_iff _ _ _).mp (hmembers _ hmem w hw)
  cases s with
  | status => exact ⟨_, .status⟩
  | plan =>
    obtain ⟨start, hstart⟩ := htext (.head _)
    obtain ⟨analyze, hanalyze⟩ := hflag (.tail _ (.head _))
    exact ⟨_, .plan hstart hanalyze⟩
  | bump =>
    obtain ⟨kind, hkind⟩ : ∃ kind : Option BumpKind, v.member? "bump" = kind.map fun k => .string k.name := by
      refine exists_member fun w hw => ?_
      have hchoice := hmembers _ (.head _) w hw
      obtain ⟨text, htext, rfl⟩ := (satisfies_choice_iff _ _ (by decide) rfl rfl).mp hchoice
      obtain ⟨kind, -, rfl⟩ := List.mem_map.mp htext
      exact ⟨kind, rfl⟩
    obtain ⟨prerelease, hprerelease⟩ := htext (.tail _ (.head _))
    obtain ⟨dryRun, hdryRun⟩ := hflag (.tail _ (.tail _ (.head _)))
    exact ⟨_, .bump hkind hprerelease hdryRun⟩
  | notes =>
    obtain ⟨ai, hai⟩ := hflag (.head _)
    obtain ⟨includeAll, hincludeAll⟩ := hflag (.tail _ (.head _))
    exact ⟨_, .notes hai hincludeAll⟩
  | evaluate => exact ⟨_, .evaluate⟩
  | approve =>
    obtain ⟨approver, happrover⟩ := htext (.head _)
    obtain ⟨notes, hnotes⟩ := htext (.tail _ (.head _))
    exact ⟨_, .approve happrover hnotes⟩
  | publish =>
    obtain ⟨dryRun, hdryRun⟩ := hflag (.head _)
    exact ⟨_, .publish hdryRun⟩

theorem readInput_of_ofJson (s : Step) (hs : s ≠ .bump) {ms : List (String × Json)} {input : s.Input}
    (h : s.input.ofJson (.object ms) = .ok input) : s.readInput (.object ms) = .ok input := by
  have hnull : object ms ≠ .null := nofun
  rw [readInput_eq hs hnull, h]
  rfl

/-- The tool decodes the input that its arguments encode. -/
theorem readInput_of_encodes {s : Step} {ms : List (String × Json)} (hv : (object ms).normal = .object ms)
    {input : s.Input} (h : s.Encodes (.object ms) input) : s.readInput (.object ms) = .ok input := by
  have hnodup := nodup_of_normal hv
  have hnull : object ms ≠ .null := nofun
  cases h with
  | status => rfl
  | @plan start analyze hstart hanalyze =>
    have hdecodes : PlanInput.record.fields.Decodes ["from", "analyze"] .tree ms
        { start, analyze := analyze.getD false } :=
      ((decodes_nothing PlanInput.mk).both (decodes_explicit hnodup hstart)).both
      (decodes_flag hnodup hanalyze)
    exact readInput_of_ofJson .plan (by decide) (Record.ofJson_of_decodes hv hdecodes)
  | @bump kind prerelease dryRun hkind hprerelease hdryRun =>
    have hname : ms.lookup "bump" = (kind.map BumpKind.name).map .string := by
      rw [Option.map_map]
      exact hkind
    have hdecodes : BumpArguments.record.fields.Decodes ["bump", "prerelease", "dry_run"] .tree ms
        { bump := kind.map BumpKind.name, prerelease, dryRun := dryRun.getD false } :=
      (((decodes_nothing BumpArguments.mk).both (decodes_explicit hnodup hname)).both
        (decodes_explicit hnodup hprerelease)).both (decodes_flag hnodup hdryRun)
    have hparse : BumpKind.parse ((kind.map BumpKind.name).getD "") = .ok (kind.getD .auto) := by
      cases kind with
      | none => decide
      | some kind => exact kind.parse_name
    have hread : BumpArguments.record.codec.ofJson (.object ms) = .ok _ := Record.ofJson_of_decodes hv hdecodes
    rw [readInput_bump hnull, hread]
    simp only [Except.mapError, Except.bind, BumpArguments.input, hparse]
  | @notes ai includeAll hai hincludeAll =>
    have hdecodes : NotesInput.record.fields.Decodes ["ai", "include_all"] .tree ms
        { ai := ai.getD false, includeAll := includeAll.getD false } :=
      ((decodes_nothing NotesInput.mk).both (decodes_flag hnodup hai)).both (decodes_flag hnodup hincludeAll)
    exact readInput_of_ofJson .notes (by decide) (Record.ofJson_of_decodes hv hdecodes)
  | evaluate =>
    have hdecodes : EvaluateInput.record.fields.Decodes [] .tree ms {} := decodes_nothing _
    exact readInput_of_ofJson .evaluate (by decide) (Record.ofJson_of_decodes hv hdecodes)
  | @approve approver notes happrover hnotes =>
    have hdecodes : ApproveInput.record.fields.Decodes ["approver", "notes"] .tree ms { approver, notes } :=
      ((decodes_nothing ApproveInput.mk).both (decodes_explicit hnodup happrover)).both
        (decodes_explicit hnodup hnotes)
    exact readInput_of_ofJson .approve (by decide) (Record.ofJson_of_decodes hv hdecodes)
  | @publish dryRun hdryRun =>
    have hdecodes : PublishInput.record.fields.Decodes ["dry_run"] .tree ms { dryRun := dryRun.getD false } :=
      (decodes_nothing PublishInput.mk).both (decodes_flag hnodup hdryRun)
    exact readInput_of_ofJson .publish (by decide) (Record.ofJson_of_decodes hv hdecodes)

end Release.Step

/-! ### Release contexts -/

namespace Plugin

/-- The value encodes a release context, member by member. -/
structure ReleaseContext.EncodedBy (v : Json) (c : ReleaseContext) : Prop where
  object : ∃ ms, v = .object ms
  releaseId : v.member? "release_id" = c.releaseId.map .string
  version : v.member? "version" = c.version.map .string
  previousVersion : v.member? "previous_version" = c.previousVersion.map .string
  tagName : v.member? "tag_name" = c.tagName.map .string
  notes : v.member? "notes" = c.notes.map .string
  dryRun : ∃ b : Option Bool, v.member? "dry_run" = b.map .bool ∧ c.dryRun = b.getD false

theorem satisfies_contextSchema_iff {v : Json} :
    Satisfies contextSchema.normal v ↔ (∃ ms, v = .object ms) ∧
      (∀ name ∈ ["release_id", "version", "previous_version", "tag_name", "notes"], ∀ w,
        v.member? name = some w → w.typeName = "string") ∧
      ∀ w, v.member? "dry_run" = some w → w.typeName = "boolean" := by
  have htyped (type : String) {w : Json} :
      Satisfies (object [("type", .string type)]).normal w ↔ w.typeName = type := by
    refine (satisfies_normal_iff ?_ type none none none rfl rfl rfl rfl nofun).trans ?_
    · exact (by decide : (["type"] : List String).Nodup)
    · simp
  refine (satisfies_normal_iff ?_ "object" none none (some _) rfl rfl rfl rfl ?_).trans ?_
  · exact (by decide : (["type", "description", "properties"] : List String).Nodup)
  · rintro ps ⟨⟩
    decide
  · simp only [typeName_eq_object, Option.mem_def, Option.some.injEq, forall_eq', reduceCtorEq, false_imp_iff,
      implies_true, true_and, List.forall_mem_append, List.forall_mem_map, List.forall_mem_singleton, htyped]

/-- A value that satisfies the schema encodes a release context. -/
theorem ReleaseContext.exists_encodedBy {v : Json} (h : Satisfies contextSchema.normal v) :
    ∃ c, ReleaseContext.EncodedBy v c := by
  obtain ⟨hobject, htexts, hflag⟩ := satisfies_contextSchema_iff.mp h
  simp only [List.forall_mem_cons] at htexts
  obtain ⟨hreleaseId, hversion, hpreviousVersion, htagName, hnotes, -⟩ := htexts
  obtain ⟨releaseId, hreleaseId⟩ := exists_text hreleaseId
  obtain ⟨version, hversion⟩ := exists_text hversion
  obtain ⟨previousVersion, hpreviousVersion⟩ := exists_text hpreviousVersion
  obtain ⟨tagName, htagName⟩ := exists_text htagName
  obtain ⟨notes, hnotes⟩ := exists_text hnotes
  obtain ⟨dryRun, hdryRun⟩ := exists_flag hflag
  exact ⟨{ releaseId, version, previousVersion, tagName, notes, dryRun := dryRun.getD false },
    hobject, hreleaseId, hversion, hpreviousVersion, htagName, hnotes, dryRun, hdryRun, rfl⟩

theorem ReleaseContext.ofJson_of_encodedBy {ms : List (String × Json)} (hv : (object ms).normal = .object ms)
    {c : ReleaseContext} (h : ReleaseContext.EncodedBy (.object ms) c) :
    ReleaseContext.codec.ofJson (.object ms) = .ok c := by
  have hnodup := nodup_of_normal hv
  obtain ⟨releaseId, version, previousVersion, tagName, notes, _⟩ := c
  obtain ⟨-, hreleaseId, hversion, hpreviousVersion, htagName, hnotes, dryRun, hdryRun, rfl⟩ := h
  have hdecodes : ReleaseContext.record.fields.Decodes
      ["release_id", "version", "previous_version", "tag_name", "notes", "dry_run"] .tree ms
      { releaseId, version, previousVersion, tagName, notes, dryRun := dryRun.getD false } :=
    ((((((decodes_nothing ReleaseContext.mk).both (decodes_optional hnodup hreleaseId)).both
      (decodes_optional hnodup hversion)).both (decodes_optional hnodup hpreviousVersion)).both
      (decodes_optional hnodup htagName)).both (decodes_optional hnodup hnotes)).both
      (decodes_flag hnodup hdryRun)
  exact Record.ofJson_of_decodes hv hdecodes

end Plugin

end ReleaseDesk
