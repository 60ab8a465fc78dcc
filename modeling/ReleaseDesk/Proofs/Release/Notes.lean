import ReleaseDesk.Proofs.Release.Publication
import ReleaseDesk.Proofs.Release.Backend

/-! The version of the release notes. Notes are generated for the version that the current release
has at this time, and stay unchanged up to the next notes or the next plan. A bump changes the
version and keeps the notes, so the notes served may be those of another version. -/

namespace ReleaseDesk.Release

open MemoryAdapter ReleaseDesk.Service

/-- The notes that a step sets: generated ones, or those of an approval. -/
def Entry.givenNotes? : Entry → Option String
  | ⟨.notes, _, .ok output⟩ => some output.changelog
  | ⟨.approve, input, .ok _⟩ => input.notes
  | _ => none

/-- The current release has notes `text`, and its version is that of the last bump in `history`, or
`version`. -/
def NotesInvariant (text version : String) (history : List Entry) (d : MemoryAdapter) : Prop :=
  ∃ r, d.current = some r ∧ r.notes = some text ∧
    r.nextVersion = some ((history.findSome? Entry.bumpedVersion?).getD version)

namespace NotesInvariant

variable {text version : String} {history : List Entry} {d d' : MemoryAdapter} {e : Entry}

/-- A step that does not set the version. -/
theorem keep (t : NotesInvariant text version history d) (hb : e.bumpedVersion? = none)
    (hd : ∀ r, d.current = some r → ∃ r', d'.current = some r' ∧ r'.notes = r.notes ∧
      r'.nextVersion = r.nextVersion) : NotesInvariant text version (e :: history) d' := by
  obtain ⟨r, hr, hnotes, hn⟩ := t
  obtain ⟨r', hr', hnotes', hn'⟩ := hd r hr
  refine ⟨r', hr', hnotes'.trans hnotes, ?_⟩
  rw [List.findSome?_cons_of_isNone (by simp [hb]), hn', hn]

/-- Preserved by every step that neither plans nor sets notes. -/
theorem step (t : NotesInvariant text version history d) (h : Change d e d') (hp : e.plans = false)
    (hg : e.givenNotes? = none) : NotesInvariant text version (e :: history) d' := by
  cases h with
  | idle updatedAt _ hm => exact t.keep (Entry.bumpedVersion?_eq_none hm) fun r hr => ⟨r, hr, rfl, rfl⟩
  | plan => cases hp
  | bump hr hs hv hy =>
    obtain ⟨r, hr', hnotes, -⟩ := t
    cases hr.symm.trans hr'
    exact ⟨_, rfl, hnotes, by simp [Entry.bumpedVersion?, hy]⟩
  | notes => cases hg
  | approve hr' =>
    refine t.keep rfl fun r hr => ?_
    cases hr.symm.trans hr'
    have hinput : ApproveInput.notes _ = none := hg
    exact ⟨_, rfl, by rw [hinput]; rfl, rfl⟩
  | publish hr' =>
    refine t.keep rfl fun r hr => ?_
    cases hr.symm.trans hr'
    exact ⟨_, rfl, rfl, rfl⟩

/-- Preserved by every run that neither plans nor sets notes. -/
theorem run (t : NotesInvariant text version [] d) {orders : List Order}
    (h : ∀ e ∈ (d.run orders).1, e.plans = false ∧ e.givenNotes? = none) :
    NotesInvariant text version (d.run orders).1 (d.run orders).2 := by
  refine Change.run_induction (P := fun history d =>
    (∀ e ∈ history, e.plans = false ∧ e.givenNotes? = none) → NotesInvariant text version history d)
    (fun _ => t) (fun history d e d' ih hchange hall => ?_) orders h
  obtain ⟨⟨hp, hg⟩, hall⟩ := List.forall_mem_cons.mp hall
  exact (ih hall).step hchange hp hg

end NotesInvariant

theorem exists_nextVersion {d : MemoryAdapter} (hd : d.current = none) (orders : List Order) :
    ∀ r, (d.run orders).2.current = some r → ∃ version, r.nextVersion = some version := by
  refine Change.run_induction (P := fun _ d => ∀ r, d.current = some r →
    ∃ version, r.nextVersion = some version) (fun r hr => ?_) (fun _ d e d' ih h => ?_) orders
  · rw [hd] at hr
    cases hr
  · cases h with
    | idle => exact ih
    | plan | bump =>
      intro r hr
      cases hr
      exact ⟨_, rfl⟩
    | notes hr' | approve hr' | publish hr' =>
      intro r hr
      cases hr
      obtain ⟨version, hv⟩ := ih _ hr'
      exact ⟨version, hv⟩

theorem run_changes (d : MemoryAdapter) (orders : List Order) : (d.run orders).2.changes = d.changes :=
  Change.run_induction (P := fun _ reached => reached.changes = d.changes) rfl
    (fun _ _ _ _ ih h => h.changes.trans ih) orders

/-- The notes of the adapter are the content of the notes resource. -/
theorem notes_served {d : MemoryAdapter} {text : String} (h : d.status.notes = some text)
    {scene : Scene (Backend MemoryAdapter π)} (ha : scene.world.adapter = some d) (c : Context) :
    ((notesHandler.read c).run scene).1 = .ok { contents := [.ofText notesUri text] } := by
  simp only [notesHandler]
  rw [Backend.perform_bind_some ha]
  have hstatus : (Adapter.perform Step.status () scene.supply d).1 = .ok d.status := rfl
  simp only [hstatus, h]
  rfl

/-- Notes generated by a run stay the notes of the current release, and are served, as long as the
run neither plans nor sets notes again. They are generated for the version of the release at this
time; the version afterwards is that of the last bump since. So the notes are those of the next
version as long as no bump changes it. -/
theorem notes_fit_until_bump {d : MemoryAdapter} (hd : d.current = none) {before after : List Order}
    {input : NotesInput} {supply : Supply} {output : NotesOutput} {written : MemoryAdapter}
    (h : (d.run before).2.perform supply .notes input = (.ok output, written))
    (hafter : ∀ e ∈ (written.run after).1, e.plans = false ∧ e.givenNotes? = none) :
    ∃ version, (d.run before).2.status.nextVersion = some version ∧
      let last := (d.run (before ++ ⟨.notes, input, supply⟩ :: after)).2
      let fixed := (written.run after).1.findSome? Entry.bumpedVersion?
      let notes := d.changes.changelog version input.includeAll
      last.status.notes = some notes ∧ last.status.nextVersion = some (fixed.getD version) ∧
      (last.status.nextVersion = some version ↔ ∀ other, fixed = some other → other = version) ∧
      ∀ (π : Type) (scene : Scene (Backend MemoryAdapter π)) (c : Context), scene.world.adapter = some last →
        ((notesHandler.read c).run scene).1 = .ok { contents := [.ofText notesUri notes] } := by
  obtain ⟨r, hr, -, hc, hwritten⟩ := notes_ok h
  obtain ⟨version, hv⟩ := exists_nextVersion hd before r hr
  have hnotes : output.changelog = d.changes.changelog version input.includeAll := by
    rw [hc, run_changes, hv, Option.getD_some]
  have hlast : (d.run (before ++ ⟨.notes, input, supply⟩ :: after)).2 = (written.run after).2 := by
    rw [List.append_cons, run_append, run_concat]
    simp only [carryOut, h]
  have hstart : NotesInvariant output.changelog version [] written :=
    ⟨{ r with notes := some output.changelog, stage := .notesReady }, by rw [hwritten], rfl, hv⟩
  obtain ⟨r', hr', hn', hv'⟩ := hstart.run hafter
  refine ⟨version, by simp [status, hr, hv], ?_⟩
  intro last fixed notes
  have hlastNotes : last.status.notes = some notes := by
    simp only [last, hlast, status, hr', hn', hnotes, notes]
  have hlastVersion : last.status.nextVersion = some (fixed.getD version) := by
    simp only [last, hlast, status, hr', hv', fixed]
  refine ⟨hlastNotes, hlastVersion, ?_, fun π scene c ha => notes_served hlastNotes ha c⟩
  rw [hlastVersion]
  cases fixed with
  | none => simp
  | some other => simp

/-! ### A bump after the notes -/

def versionRun : List Order := [⟨.plan, {}, fixedSupply⟩, ⟨.bump, {}, fixedSupply⟩]

/-- A dry bump and an approval keep notes and version. -/
def dryBumpRun : List Order :=
  [⟨.bump, { bump := .major, dryRun := true }, fixedSupply⟩, ⟨.approve, {}, fixedSupply⟩]

/-- A dry bump and an approval after the notes. -/
theorem notes_fit_until_bump_rehearsed :
    minorAdapter.current = none ∧
      ∃ output written,
        (minorAdapter.run versionRun).2.perform fixedSupply .notes {} = (.ok output, written) ∧
        (∀ e ∈ (written.run dryBumpRun).1, e.plans = false ∧ e.givenNotes? = none) ∧
        (minorAdapter.run (versionRun ++ ⟨.notes, {}, fixedSupply⟩ :: dryBumpRun)).2.status.notes =
          some (minorAdapter.changes.changelog "1.5.0" false) := by
  obtain ⟨output, written, h, hall⟩ : ∃ output written,
      (minorAdapter.run versionRun).2.perform fixedSupply .notes {} = (.ok output, written) ∧
        (written.run dryBumpRun).1.all (fun e => !e.plans && e.givenNotes?.isNone) = true :=
    ⟨_, _, rfl, rfl⟩
  have hafter : ∀ e ∈ (written.run dryBumpRun).1, e.plans = false ∧ e.givenNotes? = none := by
    intro e he
    simpa using List.all_eq_true.mp hall e he
  have hd : minorAdapter.current = none := rfl
  obtain ⟨version, hversion, hnotes, -⟩ := notes_fit_until_bump hd h hafter
  cases hversion
  exact ⟨hd, output, written, h, hafter, hnotes⟩

/-- The notes of 1.5.0 are served while the next version is 2.0.0. -/
theorem notes_outlast_bump :
    let last := (minorAdapter.run (versionRun ++ [⟨.notes, {}, fixedSupply⟩,
      ⟨.bump, { bump := .major }, fixedSupply⟩])).2
    ¬ ∀ version, last.status.nextVersion = some version →
      ∃ all, last.status.notes = some (minorAdapter.changes.changelog version all) := by
  intro last h
  obtain ⟨all, hnotes⟩ := h "2.0.0" rfl
  have hserved : last.status.notes = some (minorAdapter.changes.changelog "1.5.0" false) := rfl
  rw [hserved] at hnotes
  cases all <;> exact absurd hnotes (by decide)

end ReleaseDesk.Release
