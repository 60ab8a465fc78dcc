import ReleaseDesk.Proofs.Release.Publication
import ReleaseDesk.Proofs.Release.Refusal

/-! Read-only steps and dry runs. The status, an evaluation, and the dry run of a bump or of a
publication leave the in-memory adapter unchanged up to the time of its last update. A dry run has
the outcome that the step would have, and is not affected by earlier dry runs. -/

namespace ReleaseDesk.Release

open MemoryAdapter

/-! ### Read-only steps -/

namespace Step

/-- The step with this input changes nothing but the time of the last update. -/
def isReadOnly : (s : Step) → s.Input → Bool
  | status, _ => true
  | evaluate, _ => true
  | bump, input => BumpInput.dryRun input
  | publish, input => PublishInput.dryRun input
  | _, _ => false

/-- The read-only steps that set the time of the last update. -/
def stampsTime : Step → Bool
  | evaluate => true
  | bump => true
  | _ => false

end Step

namespace MemoryAdapter

variable {d : MemoryAdapter}

theorem status_updatedAt (d : MemoryAdapter) (updatedAt : Option Timestamp) :
    ({ d with updatedAt } : MemoryAdapter).status = { d.status with updatedAt } := by
  unfold status
  cases d.current <;> rfl

@[simp] theorem updatedAt_status (d : MemoryAdapter) : d.status.updatedAt = d.updatedAt := by
  unfold status
  cases d.current <;> rfl

/-- A read-only step changes at most the time of the last update, and only if it is an evaluation or
a bump that succeeds. -/
theorem perform_of_isReadOnly {s : Step} {input : s.Input} (h : s.isReadOnly input = true) (supply : Supply) :
    (d.perform supply s input).2 = { d with
      updatedAt := if s.stampsTime && (d.perform supply s input).1.isOk then some supply.now
        else d.updatedAt } := by
  cases houtcome : (d.perform supply s input).1 with
  | error refusal =>
    rw [perform_of_refused houtcome]
    simp [Except.isOk, Except.toBool]
  | ok output =>
    cases s with
    | status => rfl
    | plan => cases h
    | bump =>
      obtain ⟨r, hr, -, -, -, hafter⟩ := bump_ok (Prod.ext houtcome rfl)
      have hdry : input.dryRun = true := h
      rw [if_pos hdry, ← hr] at hafter
      exact hafter
    | notes => cases h
    | evaluate =>
      obtain ⟨r, -, -, hafter⟩ := evaluate_ok (Prod.ext houtcome rfl)
      exact hafter
    | approve => cases h
    | publish =>
      obtain ⟨r, -, -, -, -, hafter⟩ := publish_ok (Prod.ext houtcome rfl)
      have hdry : input.dryRun = true := h
      rw [if_pos hdry] at hafter
      exact hafter

/-- The status after a read-only step. -/
theorem status_of_isReadOnly {s : Step} {input : s.Input} (h : s.isReadOnly input = true) (supply : Supply) :
    (d.perform supply s input).2.status = { d.status with
      updatedAt := if s.stampsTime && (d.perform supply s input).1.isOk then some supply.now
        else d.status.updatedAt } := by
  rw [updatedAt_status, ← status_updatedAt]
  exact congrArg status (perform_of_isReadOnly h supply)

end MemoryAdapter

/-- After any run, a read-only step changes the status at most in the time of the last update. A
successful evaluation and a successful dry bump set this time to the time of the step, and the
status query and a dry publication keep it; so the status changes if and only if such a step is
performed at another time than the last. -/
theorem read_only_step_stamps_at_most (d : MemoryAdapter) (orders : List Order) {s : Step} {input : s.Input}
    (h : s.isReadOnly input = true) (supply : Supply) :
    let now := (d.run orders).2
    let outcome := (now.perform supply s input).1
    let after := (now.perform supply s input).2
    after.status = { now.status with
      updatedAt := if s.stampsTime && outcome.isOk then some supply.now else now.status.updatedAt } ∧
    (after.status = now.status ↔
      (s.stampsTime = true → outcome.isOk = true → now.status.updatedAt = some supply.now)) := by
  intro now outcome after
  have hafter := status_of_isReadOnly (d := now) h supply
  refine ⟨hafter, ?_⟩
  constructor
  · intro hsame hstamps hok
    have htime := congrArg Status.updatedAt (hafter.symm.trans hsame)
    rw [hstamps, hok] at htime
    exact htime.symm
  · intro hclock
    refine hafter.trans ?_
    by_cases hstamped : (s.stampsTime && outcome.isOk) = true
    · obtain ⟨hstamps, hok⟩ := Bool.and_eq_true_iff.mp hstamped
      rw [if_pos hstamped, ← hclock hstamps hok]
    · rw [if_neg hstamped]

/-- A supply one minute later. -/
def laterSupply : Supply :=
  { fixedSupply with now := { Timestamp.epoch with minute := 1, minute_lt := by decide } }

/-- A dry publication keeps the status of an approved release, and a dry bump sets the time in it.
-/
theorem read_only_step_stamps_at_most_dry :
    let now := (minorAdapter.run approvalRun).2
    Step.isReadOnly .publish (PublishInput.mk true) = true ∧
      (now.perform laterSupply .publish (PublishInput.mk true)).2.status = now.status ∧
    Step.isReadOnly .bump (BumpInput.mk .auto none true) = true ∧
      (now.perform laterSupply .bump (BumpInput.mk .auto none true)).2.status =
        { now.status with updatedAt := some laterSupply.now } := by
  intro now
  have hpublish : Step.isReadOnly .publish (PublishInput.mk true) = true := rfl
  have hbump : Step.isReadOnly .bump (BumpInput.mk .auto none true) = true := rfl
  have hok : (((minorAdapter.run approvalRun).2.perform laterSupply .bump
      (BumpInput.mk .auto none true)).1.isOk) = true := rfl
  have hstamped := (read_only_step_stamps_at_most minorAdapter approvalRun hbump laterSupply).1
  rw [hok] at hstamped
  exact ⟨hpublish, (read_only_step_stamps_at_most minorAdapter approvalRun hpublish laterSupply).2.mpr nofun,
    hbump, hstamped⟩

/-- An evaluation, and a dry bump, change the time in the status. -/
theorem read_only_step_changes_status :
    let now := (minorAdapter.run approvalRun).2
    ¬ (Step.isReadOnly .evaluate {} = true →
      (now.perform laterSupply .evaluate {}).2.status = now.status) ∧
    ¬ (Step.isReadOnly .bump (BumpInput.mk .auto none true) = true →
      (now.perform laterSupply .bump (BumpInput.mk .auto none true)).2.status = now.status) := by
  intro now
  have seen {s : Step} {input : s.Input} (hreadOnly : s.isReadOnly input = true) (hstamps : s.stampsTime = true)
      (hok : (now.perform laterSupply s input).1.isOk = true) :
      (now.perform laterSupply s input).2.status ≠ now.status := by
    intro hsame
    have htime := congrArg Status.updatedAt ((status_of_isReadOnly hreadOnly laterSupply).symm.trans hsame)
    rw [hstamps, hok] at htime
    exact absurd htime (by decide)
  constructor
  · intro h
    refine seen rfl rfl ?_ (h rfl)
    cases houtcome : (now.perform laterSupply .evaluate {}).1 with
    | ok output => rfl
    | error refusal =>
      cases perform_error_iff.mp houtcome with
      | noRelease hs hnone => cases hnone
      | tooEarly hr hs hlt =>
        cases hr
        cases hs
        exact absurd hlt (by decide)
      | invalidVersion hv hs => simp at hs
  · intro h
    have hok : ((minorAdapter.run approvalRun).2.perform laterSupply .bump
        (BumpInput.mk .auto none true)).1.isOk = true := rfl
    exact seen rfl rfl hok (h rfl)

/-! ### Dry runs -/

/-- A step with a dry run, and its other input. -/
inductive DryRunnable
  | bump (kind : BumpKind) (prerelease : Option String)
  | publish

namespace DryRunnable

def step : DryRunnable → Step
  | bump _ _ => .bump
  | publish => .publish

/-- The input, with or without the dry-run flag. -/
def input (dry : Bool) : (p : DryRunnable) → p.step.Input
  | bump kind prerelease => BumpInput.mk kind prerelease dry
  | publish => PublishInput.mk dry

/-- The output, with or without the dry-run flag. -/
def withDryRun (dry : Bool) : (p : DryRunnable) → p.step.Output → p.step.Output
  | bump _ _, output => { (output : BumpOutput) with dryRun := dry }
  | publish, output => { (output : PublishOutput) with dryRun := dry }

def dryOrder (p : DryRunnable) (supply : Supply) : Order := ⟨p.step, p.input true, supply⟩

theorem isReadOnly_dryOrder (p : DryRunnable) : p.step.isReadOnly (p.input true) = true := by
  cases p <;> rfl

end DryRunnable

/-- Refusals do not depend on the time of the last update. -/
theorem Refuses.of_updatedAt {d : MemoryAdapter} {updatedAt : Option Timestamp} {s : Step} {refusal : Refusal}
    (h : Refuses { d with updatedAt } s refusal) : Refuses d s refusal := by
  cases h with
  | noRelease hs hnone => exact .noRelease hs hnone
  | tooEarly hr hs hlt => exact .tooEarly hr hs hlt
  | invalidVersion hv hs => exact .invalidVersion hv hs
  | published hr hs => exact .published hr hs
  | unapproved hr hs ha => exact .unapproved hr hs ha

namespace MemoryAdapter

variable {d : MemoryAdapter}

/-- The adapter with the time of its last update erased. -/
def untimed (d : MemoryAdapter) : MemoryAdapter := { d with updatedAt := none }

/-- Success does not depend on the time of the last update, nor on the input. -/
theorem exists_ok_of_untimed {updatedAt : Option Timestamp} {s : Step} (input : s.Input)
    (supply : Supply) {input' : s.Input} {supply' : Supply} {output' : s.Output}
    (h : (({ d with updatedAt } : MemoryAdapter).perform supply' s input').1 = .ok output') :
    ∃ output, (d.perform supply s input).1 = .ok output := by
  cases houtcome : (d.perform supply s input).1 with
  | ok output => exact ⟨output, rfl⟩
  | error refusal =>
    have hrefuses : Refuses { d with updatedAt } s refusal :=
      .of_updatedAt (d := { d with updatedAt }) (perform_error_iff.mp houtcome)
    rw [perform_error_iff.mpr hrefuses] at h
    cases h

/-- The output of a step and of its dry run are equal up to the flag, whatever the time of the last
update. -/
theorem perform_withDryRun (d : MemoryAdapter) (updatedAt : Option Timestamp) (p : DryRunnable)
    (dry dry' : Bool)
    (supply supply' : Supply) :
    (({ d with updatedAt } : MemoryAdapter).perform supply p.step (p.input dry)).1 =
      (d.perform supply' p.step (p.input dry')).1.map (p.withDryRun dry) := by
  cases houtcome :
      (({ d with updatedAt } : MemoryAdapter).perform supply p.step (p.input dry)).1 with
  | error refusal =>
    rw [perform_error_iff.mpr (perform_error_iff.mp houtcome).of_updatedAt]
    rfl
  | ok output =>
    obtain ⟨output', houtcome'⟩ := exists_ok_of_untimed (p.input dry') supply' houtcome
    rw [houtcome']
    cases p with
    | bump kind prerelease =>
      obtain ⟨r, -, -, hv, ho, -⟩ := bump_ok (Prod.ext houtcome rfl)
      obtain ⟨r', -, -, hv', ho', -⟩ := bump_ok (Prod.ext houtcome' rfl)
      have hversion := Except.ok.inj (hv.symm.trans hv')
      rw [ho, ho', hversion]
      rfl
    | publish =>
      obtain ⟨r, hr, -, -, rfl, -⟩ := publish_ok (Prod.ext houtcome rfl)
      obtain ⟨r', hr', -, -, rfl, -⟩ := publish_ok (Prod.ext houtcome' rfl)
      cases hr.symm.trans hr'
      rfl

/-- The adapter after a step does not depend on the time of the last update, up to this time. -/
theorem perform_untimed (d : MemoryAdapter) (updatedAt : Option Timestamp) (p : DryRunnable) (dry : Bool)
    (supply supply' : Supply) :
    (({ d with updatedAt } : MemoryAdapter).perform supply p.step (p.input dry)).2.untimed =
      (d.perform supply' p.step (p.input dry)).2.untimed := by
  cases houtcome :
      (({ d with updatedAt } : MemoryAdapter).perform supply p.step (p.input dry)).1 with
  | error refusal =>
    rw [perform_of_refused houtcome,
      perform_of_refused (perform_error_iff.mpr (perform_error_iff.mp houtcome).of_updatedAt)]
    rfl
  | ok output =>
    obtain ⟨output', houtcome'⟩ := exists_ok_of_untimed (p.input dry) supply' houtcome
    cases p with
    | bump kind prerelease =>
      obtain ⟨r, hr, -, hv, -, hafter⟩ := bump_ok (Prod.ext houtcome rfl)
      obtain ⟨r', hr', -, hv', -, hafter'⟩ := bump_ok (Prod.ext houtcome' rfl)
      cases hr.symm.trans hr'
      have hversion := Except.ok.inj (hv.symm.trans hv')
      refine (congrArg untimed hafter).trans (.trans ?_ (congrArg untimed hafter').symm)
      rw [hversion]
      rfl
    | publish =>
      obtain ⟨r, hr, -, -, -, hafter⟩ := publish_ok (Prod.ext houtcome rfl)
      obtain ⟨r', hr', -, -, -, hafter'⟩ := publish_ok (Prod.ext houtcome' rfl)
      cases hr.symm.trans hr'
      refine (congrArg untimed hafter).trans (.trans ?_ (congrArg untimed hafter').symm)
      cases dry <;> rfl

/-- Dry runs change the adapter at most in the time of the last update. -/
theorem run_dryRuns (d : MemoryAdapter) (dryRuns : List (DryRunnable × Supply)) :
    ∃ updatedAt, (d.run (dryRuns.map fun (p, supply) => p.dryOrder supply)).2 =
      { d with updatedAt } := by
  induction dryRuns generalizing d with
  | nil => exact ⟨d.updatedAt, rfl⟩
  | cons first rest ih =>
    obtain ⟨p, supply⟩ := first
    obtain ⟨updatedAt, hrest⟩ := ih (d.perform supply p.step (p.input true)).2
    refine ⟨updatedAt, ?_⟩
    rw [List.map_cons, run_cons]
    refine hrest.trans ?_
    rw [perform_of_isReadOnly p.isReadOnly_dryOrder]

end MemoryAdapter

/-- After any run, a dry bump or a dry publication has the outcome of the step itself: the same
refusal, or the same output up to the dry-run flag. After any number of dry runs, the step has the
outcome that it has without them, and leaves the same adapter up to the time of the last update. -/
theorem dry_run_predicts (d : MemoryAdapter) (orders : List Order) (p : DryRunnable)
    (dryRuns : List (DryRunnable × Supply)) (supply supply' : Supply) :
    let now := (d.run orders).2
    let rehearsed := (now.run (dryRuns.map fun (p, supply) => p.dryOrder supply)).2
    let dry := now.perform supply' p.step (p.input true)
    let real := now.perform supply p.step (p.input false)
    let later := rehearsed.perform supply' p.step (p.input false)
    dry.1 = real.1.map (p.withDryRun true) ∧ real.1 = dry.1.map (p.withDryRun false) ∧
      later.1 = real.1 ∧ later.2.untimed = real.2.untimed := by
  intro now rehearsed dry real later
  obtain ⟨updatedAt, hrehearsed⟩ := run_dryRuns now dryRuns
  have hlater : later =
      ({ now with updatedAt } : MemoryAdapter).perform supply' p.step (p.input false) := by
    rw [← hrehearsed]
  refine ⟨?_, ?_, ?_, ?_⟩
  · exact perform_withDryRun now now.updatedAt p true false supply' supply
  · exact perform_withDryRun now now.updatedAt p false true supply supply'
  · rw [hlater, perform_withDryRun now updatedAt p false false supply' supply]
    exact (perform_withDryRun now now.updatedAt p false false supply supply).symm
  · rw [hlater]
    exact perform_untimed now updatedAt p false supply' supply

end ReleaseDesk.Release
