import ReleaseDesk.Proofs.Release.History

/-! The transitions of the in-memory adapter. A step relates the adapter before it, its entry and the
adapter after it in one of six ways: it changes nothing but the time, or it sets the current release as
its entry tells. Every invariant of a run is proved from these six cases. -/

namespace ReleaseDesk.Release

open MemoryAdapter

/-- The adapter before a step, the entry of the step, and the adapter after it. -/
inductive Change (d : MemoryAdapter) : Entry → MemoryAdapter → Prop
  /-- A refusal, a status query, an evaluation or a dry run. -/
  | idle {e : Entry} (updatedAt : Option Timestamp) (hp : e.plans = false) (hm : e.changesStage = false) :
    Change d e { d with updatedAt }
  | plan {input : PlanInput} {output : PlanOutput} {id : String} {now : Timestamp}
    (hv : d.versionAfter d.changes.implied none = .ok output.nextVersion) :
    Change d ⟨.plan, input, .ok output⟩ { d with
      current := some { id, stage := .planned, nextVersion := some output.nextVersion }
      updatedAt := some now }
  | bump {input : BumpInput} {output : BumpOutput} {now : Timestamp} {r : Current}
    (hr : d.current = some r) (hs : Stage.planned.index ≤ r.stage.index)
    (hv : d.versionAfter (d.kindOf input) input.prerelease = .ok output.newVersion)
    (hy : input.dryRun = false) :
    Change d ⟨.bump, input, .ok output⟩ { d with
      current := some { r with nextVersion := some output.newVersion, stage := .versioned }
      updatedAt := some now }
  | notes {input : NotesInput} {output : NotesOutput} {now : Timestamp} {r : Current}
    (hr : d.current = some r) (hs : Stage.versioned.index ≤ r.stage.index)
    (hc : output.changelog = d.changes.changelog (r.nextVersion.getD "") input.includeAll) :
    Change d ⟨.notes, input, .ok output⟩ { d with
      current := some { r with notes := some output.changelog, stage := .notesReady }
      updatedAt := some now }
  | approve {input : ApproveInput} {output : ApproveOutput} {now : Timestamp} {r : Current}
    (hr : d.current = some r) (hs : Stage.notesReady.index ≤ r.stage.index)
    (hv : output.version = r.nextVersion.getD "") :
    Change d ⟨.approve, input, .ok output⟩ { d with
      current := some
        { r with notes := input.notes <|> r.notes, approved := true, stage := .approved }
      updatedAt := some now }
  | publish {input : PublishInput} {output : PublishOutput} {now : Timestamp} {r : Current}
    (hr : d.current = some r) (hs : r.stage ≠ .published) (ha : r.approved = true)
    (hv : output.version = r.nextVersion.getD "") (hy : input.dryRun = false) :
    Change d ⟨.publish, input, .ok output⟩ { d with
      current := some { r with stage := .published }
      currentVersion := r.nextVersion.getD ""
      updatedAt := some now }

namespace Change

variable {d d' : MemoryAdapter} {e : Entry}

theorem refused {s : Step} {input : s.Input} {refusal : Refusal} :
    Change d ⟨s, input, .error refusal⟩ d := by
  refine idle d.updatedAt ?_ ?_ <;> cases s <;> rfl

theorem granted {supply : Supply} {s : Step} {input : s.Input} {output : s.Output}
    (h : d.perform supply s input = (.ok output, d')) : Change d ⟨s, input, .ok output⟩ d' := by
  cases s with
  | status =>
    cases h
    exact idle d.updatedAt rfl rfl
  | plan =>
    obtain ⟨hv, rfl⟩ := plan_ok h
    exact plan hv
  | bump =>
    obtain ⟨r, hr, hs, hv, -, rfl⟩ := bump_ok h
    cases hy : input.dryRun with
    | true =>
      rw [if_pos rfl, ← hr]
      refine idle (some supply.now) rfl ?_
      simp [Entry.changesStage, Entry.reworks, Entry.publishes, Entry.bumpedVersion?, Entry.writesNotes,
        Entry.approvedVersion?, hy]
    | false => exact bump hr hs hv hy
  | notes =>
    obtain ⟨r, hr, hs, hc, rfl⟩ := notes_ok h
    exact notes hr hs hc
  | evaluate =>
    obtain ⟨r, hr, -, rfl⟩ := evaluate_ok h
    exact idle (some supply.now) rfl rfl
  | approve =>
    obtain ⟨r, hr, hs, hv, rfl⟩ := approve_ok h
    exact approve hr hs hv
  | publish =>
    obtain ⟨r, hr, hs, ha, rfl, rfl⟩ := publish_ok h
    cases hy : input.dryRun with
    | true =>
      rw [if_pos rfl]
      refine idle d.updatedAt rfl ?_
      simp [Entry.changesStage, Entry.reworks, Entry.publishes, Entry.bumpedVersion?, Entry.writesNotes,
        Entry.approvedVersion?, hy]
    | false =>
      rw [if_neg Bool.false_ne_true]
      exact publish hr hs ha rfl hy

/-- Every step is one of the transitions. -/
theorem ofPerform (d : MemoryAdapter) (supply : Supply) (s : Step) (input : s.Input) :
    Change d ⟨s, input, (d.perform supply s input).1⟩ (d.perform supply s input).2 := by
  cases houtcome : (d.perform supply s input).1 with
  | error refusal =>
    rw [perform_of_refused houtcome]
    exact refused
  | ok output => exact granted (Prod.ext houtcome rfl)

/-- What holds at the start and is kept by every transition holds after every run. -/
theorem run_induction {P : List Entry → MemoryAdapter → Prop} (start : P [] d)
    (step : ∀ history d e d', P history d → Change d e d' → P (e :: history) d')
    (orders : List Order) : P (d.run orders).1 (d.run orders).2 := by
  unfold MemoryAdapter.run
  generalize ([] : List Entry) = history at start ⊢
  induction orders generalizing history d with
  | nil => exact start
  | cons o orders ih =>
    exact ih _ (step history d _ _ start (.ofPerform d o.supply o.step o.input))

/-- The change set is fixed. -/
theorem changes (h : Change d e d') : d'.changes = d.changes := by
  cases h <;> rfl

end Change

end ReleaseDesk.Release
