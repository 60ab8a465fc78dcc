import ReleaseDesk.Proofs.Release.History

/-! The refusals of the in-memory adapter. A step is refused because there is no current release, because
the current release has not reached the stage that the step requires, because it is published or not
approved, or because the current version does not parse. The input of the step plays no part in it. A
run leads to the same adapter, with the same outcomes, if the refused steps are left out of it. -/

namespace ReleaseDesk.Release

open MemoryAdapter Attempt

/-! ### Grounds -/

namespace Step

/-- The stage that the current release must have reached, for a step that requires one. -/
def requiredStage? : Step → Option Stage
  | bump => some .planned
  | notes => some .versioned
  | evaluate => some .notesReady
  | approve => some .notesReady
  | _ => none

def verb : Step → String
  | bump => "bump"
  | notes => "write notes for"
  | evaluate => "evaluate"
  | approve => "approve"
  | _ => ""

/-- The steps on a current release require a stage, publication apart. -/
theorem mem_iff_requiredStage? {s : Step} : s ∈ [bump, notes, evaluate, approve, publish] ↔
    (∃ stage, s.requiredStage? = some stage) ∨ s = publish := by
  cases s <;> simp [requiredStage?]

end Step

/-- The states in which a step is refused, and the refusal. -/
inductive Refuses (d : MemoryAdapter) : Step → Refusal → Prop
  | noRelease {s : Step} (hs : s ∈ [.bump, .notes, .evaluate, .approve, .publish])
    (hnone : d.current = none) : Refuses d s .noActiveRelease
  | tooEarly {s : Step} {r : Current} {stage : Stage} (hr : d.current = some r)
    (hs : s.requiredStage? = some stage) (hlt : r.stage.index < stage.index) :
    Refuses d s (.rejected ("cannot " ++ s.verb ++ " a release in state " ++ r.stage.title))
  | invalidVersion {s : Step} (hv : Version.parse? d.currentVersion = none)
    (hs : s = .plan ∨ s = .bump ∧ ∃ r, d.current = some r ∧ Stage.planned.index ≤ r.stage.index) :
    Refuses d s (.invalidInput ("invalid version '" ++ d.currentVersion ++ "'"))
  | published {r : Current} (hr : d.current = some r) (hs : r.stage = .published) :
    Refuses d .publish (.rejected "release already published")
  | unapproved {r : Current} (hr : d.current = some r) (hs : r.stage ≠ .published)
    (ha : r.approved = false) :
    Refuses d .publish (.rejected "release must be approved before publishing")

namespace MemoryAdapter

variable {d : MemoryAdapter} {refusal : Refusal} {now : Timestamp}

/-! ### The checks -/

theorem versionAfter_error_iff {kind : BumpKind} {prerelease : Option String} :
    d.versionAfter kind prerelease = .error refusal ↔
      Version.parse? d.currentVersion = none ∧
        refusal = .invalidInput ("invalid version '" ++ d.currentVersion ++ "'") := by
  unfold versionAfter
  cases Version.parse? d.currentVersion <;> simp [eq_comm]

theorem requirePublishable_error_iff {r : Current} :
    ((requirePublishable r).on d).1 = .error refusal ↔
      r.stage = .published ∧ refusal = .rejected "release already published" ∨
      r.stage ≠ .published ∧ r.approved = false ∧
        refusal = .rejected "release must be approved before publishing" := by
  unfold requirePublishable
  by_cases hs : r.stage = .published
  · simp [hs, @eq_comm _ refusal]
  · cases ha : r.approved <;> simp [hs, @eq_comm _ refusal]

/-- There is no current release, or its stage is below a required one. -/
def NotReady (d : MemoryAdapter) (stage : Stage) (verb : String) (refusal : Refusal) : Prop :=
  d.current = none ∧ refusal = .noActiveRelease ∨
    ∃ r, d.current = some r ∧ r.stage.index < stage.index ∧ refusal = tooEarly verb r.stage

theorem withRelease_error_iff {α : Type} {f : Current → Attempt α} :
    ((withRelease now f).on d).1 = .error refusal ↔
      d.current = none ∧ refusal = .noActiveRelease ∨
      ∃ r, d.current = some r ∧ ((f r).on d).1 = .error refusal := by
  cases hr : d.current with
  | none => simp [withRelease, on_bind, hr, eq_comm]
  | some r =>
    simp only [withRelease, on_bind, on_get, hr, Option.some.injEq, exists_eq_left', reduceCtorEq,
      false_and, false_or]
    rcases (f r).on d with ⟨_ | output, after⟩ <;> simp [stamp]

theorem require_bind_error_iff {α : Type} {r : Current} {stage : Stage} {verb : String}
    {rest : Unit → Attempt α} :
    (Attempt.on (require r stage verb >>= rest) d).1 = .error refusal ↔
      r.stage.index < stage.index ∧ refusal = tooEarly verb r.stage ∨
      stage.index ≤ r.stage.index ∧ ((rest ()).on d).1 = .error refusal := by
  by_cases hs : r.stage.index < stage.index
  · simp [require, hs, Nat.not_le.mpr hs, eq_comm]
  · simp [require, hs, Nat.not_lt.mp hs]

/-- A step that requires a stage is refused below that stage, and otherwise where the rest of the step is
refused. -/
theorem guarded_error_iff {α : Type} {stage : Stage} {verb : String}
    {rest : Current → Unit → Attempt α} :
    ((withRelease now fun r => require r stage verb >>= rest r).on d).1 = .error refusal ↔
      d.NotReady stage verb refusal ∨
      ∃ r, d.current = some r ∧ stage.index ≤ r.stage.index ∧
        ((rest r ()).on d).1 = .error refusal := by
  simp only [withRelease_error_iff, require_bind_error_iff, NotReady, or_assoc, and_or_left,
    exists_or]

/-- A step that requires a stage and only writes from there on is refused below that stage. -/
theorem guarded_error_iff_of_granted {α : Type} {stage : Stage} {verb : String}
    {rest : Current → Unit → Attempt α} (hrest : ∀ r u, Granted (rest r u)) :
    ((withRelease now fun r => require r stage verb >>= rest r).on d).1 = .error refusal ↔
      d.NotReady stage verb refusal := by
  rw [guarded_error_iff]
  exact or_iff_left fun ⟨r, _, _, h⟩ => hrest r () d refusal h

/-! ### The steps -/

section Steps

variable {supply : Supply}

theorem plan_error_iff {input : PlanInput} :
    (d.perform supply .plan input).1 = .error refusal ↔
      d.versionAfter d.changes.implied none = .error refusal := by
  change (Attempt.on (liftM (d.versionAfter d.changes.implied none) >>= _) d).1 = _ ↔ _
  exact bind_error_iff_of_granted fun next =>
    (granted_set _).bind fun _ => (granted_stamp _).bind fun _ => granted_pure _

theorem bump_error_iff {input : BumpInput} :
    (d.perform supply .bump input).1 = .error refusal ↔
      d.NotReady .planned "bump" refusal ∨
      ∃ r, d.current = some r ∧ Stage.planned.index ≤ r.stage.index ∧
        d.versionAfter (d.kindOf input) input.prerelease = .error refusal := by
  refine guarded_error_iff.trans (or_congr_right (exists_congr fun r => and_congr_right fun _ =>
    and_congr_right fun _ => ?_))
  change (Attempt.on (liftM (d.versionAfter (d.kindOf input) input.prerelease) >>= _) d).1 = _ ↔ _
  exact bind_error_iff_of_granted fun version =>
    (granted_unlessDry (granted_write _) _).bind fun _ => granted_pure _

theorem notes_error_iff {input : NotesInput} :
    (d.perform supply .notes input).1 = .error refusal ↔
      d.NotReady .versioned "write notes for" refusal :=
  guarded_error_iff_of_granted fun _ _ =>
    granted_get.bind fun _ => (granted_write _).bind fun _ => granted_pure _

theorem evaluate_error_iff {input : EvaluateInput} :
    (d.perform supply .evaluate input).1 = .error refusal ↔
      d.NotReady .notesReady "evaluate" refusal :=
  guarded_error_iff_of_granted fun _ _ => granted_get.bind fun _ => granted_pure _

theorem approve_error_iff {input : ApproveInput} :
    (d.perform supply .approve input).1 = .error refusal ↔
      d.NotReady .notesReady "approve" refusal :=
  guarded_error_iff_of_granted fun _ _ => (granted_write _).bind fun _ => granted_pure _

theorem publish_error_iff {input : PublishInput} :
    (d.perform supply .publish input).1 = .error refusal ↔
      d.current = none ∧ refusal = .noActiveRelease ∨
      ∃ r, d.current = some r ∧
        (r.stage = .published ∧ refusal = .rejected "release already published" ∨
          r.stage ≠ .published ∧ r.approved = false ∧
            refusal = .rejected "release must be approved before publishing") := by
  change ((publish input supply.now).on d).1 = _ ↔ _
  cases hr : d.current with
  | none => simp [publish, on_bind, hr, @eq_comm _ refusal]
  | some r =>
    rw [publish, on_bind, on_get]
    simp only [hr]
    rw [bind_error_iff_of_granted fun _ =>
      (granted_unlessDry (granted_publication _ _) _).bind fun _ => granted_pure _]
    simp [requirePublishable_error_iff]

theorem perform_error_of_notReady {s : Step} {stage : Stage} {input : s.Input}
    (hs : s.requiredStage? = some stage) (h : d.NotReady stage s.verb refusal) :
    (d.perform supply s input).1 = .error refusal := by
  cases s with
  | status => cases hs
  | plan => cases hs
  | bump => cases hs; exact bump_error_iff.mpr (.inl h)
  | notes => cases hs; exact notes_error_iff.mpr h
  | evaluate => cases hs; exact evaluate_error_iff.mpr h
  | approve => cases hs; exact approve_error_iff.mpr h
  | publish => cases hs

theorem refuses_of_notReady {s : Step} {stage : Stage} (hs : s.requiredStage? = some stage)
    (h : d.NotReady stage s.verb refusal) : Refuses d s refusal := by
  rcases h with ⟨hnone, rfl⟩ | ⟨r, hr, hlt, rfl⟩
  · exact .noRelease (Step.mem_iff_requiredStage?.mpr (.inl ⟨stage, hs⟩)) hnone
  · exact .tooEarly hr hs hlt

/-- A step is refused exactly on the grounds of `Refuses`, with the refusal that belongs to each. -/
theorem perform_error_iff {s : Step} {input : s.Input} :
    (d.perform supply s input).1 = .error refusal ↔ Refuses d s refusal := by
  constructor
  · intro h
    cases s with
    | status => cases h
    | plan =>
      obtain ⟨hv, rfl⟩ := versionAfter_error_iff.mp (plan_error_iff.mp h)
      exact .invalidVersion hv (.inl rfl)
    | bump =>
      rcases bump_error_iff.mp h with h | ⟨r, hr, hs, h⟩
      · exact refuses_of_notReady rfl h
      · obtain ⟨hv, rfl⟩ := versionAfter_error_iff.mp h
        exact .invalidVersion hv (.inr ⟨rfl, r, hr, hs⟩)
    | notes => exact refuses_of_notReady rfl (notes_error_iff.mp h)
    | evaluate => exact refuses_of_notReady rfl (evaluate_error_iff.mp h)
    | approve => exact refuses_of_notReady rfl (approve_error_iff.mp h)
    | publish =>
      rcases publish_error_iff.mp h with ⟨hnone, rfl⟩ | ⟨r, hr, ⟨hs, rfl⟩ | ⟨hs, ha, rfl⟩⟩
      · exact .noRelease (by decide) hnone
      · exact .published hr hs
      · exact .unapproved hr hs ha
  · intro h
    cases h with
    | noRelease hs hnone =>
      rcases Step.mem_iff_requiredStage?.mp hs with ⟨stage, hs⟩ | rfl
      · exact perform_error_of_notReady hs (.inl ⟨hnone, rfl⟩)
      · exact publish_error_iff.mpr (.inl ⟨hnone, rfl⟩)
    | tooEarly hr hs hlt => exact perform_error_of_notReady hs (.inr ⟨_, hr, hlt, rfl⟩)
    | invalidVersion hv hs =>
      rcases hs with rfl | ⟨rfl, r, hr, hs⟩
      · exact plan_error_iff.mpr (versionAfter_error_iff.mpr ⟨hv, rfl⟩)
      · exact bump_error_iff.mpr (.inr ⟨r, hr, hs, versionAfter_error_iff.mpr ⟨hv, rfl⟩⟩)
    | published hr hs => exact publish_error_iff.mpr (.inr ⟨_, hr, .inl ⟨hs, rfl⟩⟩)
    | unapproved hr hs ha => exact publish_error_iff.mpr (.inr ⟨_, hr, .inr ⟨hs, ha, rfl⟩⟩)

end Steps

/-! ### Runs without the refused steps -/

/-- The orders of a run that were not refused. -/
def granted (d : MemoryAdapter) : List Order → List Order
  | [] => []
  | o :: rest =>
    let (outcome, after) := d.perform o.supply o.step o.input
    if outcome.isOk then o :: after.granted rest else after.granted rest

/-- A run without the refused orders leads to the same adapter, and its history has the same entries less
the refusals. -/
theorem run_granted (d : MemoryAdapter) (orders : List Order) :
    d.run (d.granted orders) = ((d.run orders).1.filter (·.outcome.isOk), (d.run orders).2) := by
  induction orders generalizing d with
  | nil => rfl
  | cons o rest ih =>
    rw [run_cons, granted]
    cases houtcome : (d.perform o.supply o.step o.input).1 with
    | error refusal =>
      have hafter : (d.perform o.supply o.step o.input).2 = d := perform_of_refused houtcome
      simp [houtcome, hafter, ih, Except.isOk, Except.toBool]
    | ok output => simp [houtcome, run_cons, ih, Except.isOk, Except.toBool]

end MemoryAdapter

/-- After any run: a step that is refused leaves the adapter as it is. `noActiveRelease` is the refusal of
the steps on a current release exactly if there is none; `invalidInput` is that of a plan, and of a bump
of a release that has reached its stage, exactly if the current version does not parse; `rejected` is that
of a step whose stage the current release has not reached, and of the publication of a release that is
published or not approved. So a run leads to the same adapter without the refused steps. -/
theorem refused_exactly (d : MemoryAdapter) (orders : List Order) :
    (∀ (supply : Supply) (s : Step) (input : s.Input),
      let now := (d.run orders).2
      let outcome := (now.perform supply s input).1
      (∀ refusal, outcome = .error refusal → (now.perform supply s input).2 = now) ∧
      (outcome = .error .noActiveRelease ↔
        s ∈ [.bump, .notes, .evaluate, .approve, .publish] ∧ now.current = none) ∧
      ((∃ detail, outcome = .error (.invalidInput detail)) ↔
        Version.parse? now.currentVersion = none ∧
          (s = .plan ∨ s = .bump ∧
            ∃ r, now.current = some r ∧ Stage.planned.index ≤ r.stage.index)) ∧
      ((∃ reason, outcome = .error (.rejected reason)) ↔
        ∃ r, now.current = some r ∧
          ((∃ stage, s.requiredStage? = some stage ∧ r.stage.index < stage.index) ∨
            s = .publish ∧ (r.stage = .published ∨ r.approved = false))) ∧
      outcome ≠ .error .notConfigured) ∧
    d.run (d.granted orders) = ((d.run orders).1.filter (·.outcome.isOk), (d.run orders).2) := by
  refine ⟨fun supply s input => ?_, run_granted d orders⟩
  intro now outcome
  refine ⟨fun refusal => perform_of_refused, ?_, ?_, ?_, ?_⟩
  · rw [perform_error_iff]
    constructor
    · rintro ⟨hs, hnone⟩
      exact ⟨hs, hnone⟩
    · rintro ⟨hs, hnone⟩
      exact .noRelease hs hnone
  · constructor
    · rintro ⟨detail, h⟩
      cases perform_error_iff.mp h with
      | invalidVersion hv hs => exact ⟨hv, hs⟩
    · rintro ⟨hv, hs⟩
      exact ⟨_, perform_error_iff.mpr (.invalidVersion hv hs)⟩
  · constructor
    · rintro ⟨reason, h⟩
      cases perform_error_iff.mp h with
      | tooEarly hr hs hlt => exact ⟨_, hr, .inl ⟨_, hs, hlt⟩⟩
      | published hr hs => exact ⟨_, hr, .inr ⟨rfl, .inl hs⟩⟩
      | unapproved hr hs ha => exact ⟨_, hr, .inr ⟨rfl, .inr ha⟩⟩
    · rintro ⟨r, hr, ⟨stage, hs, hlt⟩ | ⟨rfl, hrest⟩⟩
      · exact ⟨_, perform_error_iff.mpr (.tooEarly hr hs hlt)⟩
      · by_cases hs : r.stage = .published
        · exact ⟨_, perform_error_iff.mpr (.published hr hs)⟩
        · exact ⟨_, perform_error_iff.mpr (.unapproved hr hs (hrest.resolve_left hs))⟩
  · intro h
    cases perform_error_iff.mp h

end ReleaseDesk.Release
