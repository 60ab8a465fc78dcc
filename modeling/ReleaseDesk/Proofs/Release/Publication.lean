import ReleaseDesk.Proofs.Release.Change

/-! The version that is published. An approved release has the version of its last approval as long as no
bump follows it. A bump sets another version and keeps the approval, so that the version published is
the one set last. -/

namespace ReleaseDesk.Release

open MemoryAdapter

/-- The current release was planned in the history. If it counts as approved, its version is that of
the last approval or of a later bump. -/
structure ApprovalInvariant (history : List Entry) (d : MemoryAdapter) : Prop where
  planned : ∀ r, d.current = some r → ∃ e ∈ history, e.plans = true
  approved : ∀ r, d.current = some r → r.approved = true →
    ∃ version, lastApproved? history = some version ∧
      r.nextVersion.getD "" = (lastBumped? history).getD version

namespace ApprovalInvariant

variable {history : List Entry} {d d' : MemoryAdapter} {e : Entry}

theorem start (h : d.current = none) : ApprovalInvariant [] d where
  planned r hr := by rw [h] at hr; cases hr
  approved r hr := by rw [h] at hr; cases hr

/-- An entry of no plan, approval or bump keeps approval and version. -/
theorem idle (t : ApprovalInvariant history d) (hp : e.plans = false) (ha : e.approvedVersion? = none)
    (hb : e.bumpedVersion? = none)
    (hd : ∀ r', d'.current = some r' → ∃ r, d.current = some r ∧
      r'.approved = r.approved ∧ r'.nextVersion = r.nextVersion) :
    ApprovalInvariant (e :: history) d' where
  planned r' hr' := by
    obtain ⟨r, hr, -⟩ := hd r' hr'
    obtain ⟨p, hp, hpe⟩ := t.planned r hr
    exact ⟨p, List.mem_cons_of_mem _ hp, hpe⟩
  approved r' hr' hok := by
    obtain ⟨r, hr, hra, hrn⟩ := hd r' hr'
    obtain ⟨version, hv, hn⟩ := t.approved r hr (hra ▸ hok)
    refine ⟨version, ?_, ?_⟩
    · rw [lastApproved?_cons hp, ha, Option.none_or, hv]
    · rw [lastBumped?_cons hp ha, hb, Option.none_or, hrn, hn]

theorem plan (he : e.plans = true)
    (hd : ∃ r, d'.current = some r ∧ r.approved = false) : ApprovalInvariant (e :: history) d' where
  planned _ _ := ⟨e, List.mem_cons_self, he⟩
  approved r hr hok := by
    obtain ⟨r', hr', hra⟩ := hd
    rw [hr'] at hr
    cases hr
    rw [hra] at hok
    cases hok

theorem bump (t : ApprovalInvariant history d) {version : String} (hp : e.plans = false)
    (ha : e.approvedVersion? = none) (hb : e.bumpedVersion? = some version)
    {r : Current} (hr : d.current = some r)
    (hd : ∃ r', d'.current = some r' ∧ r'.approved = r.approved ∧ r'.nextVersion = some version) :
    ApprovalInvariant (e :: history) d' where
  planned _ _ := by
    obtain ⟨p, hp, hpe⟩ := t.planned r hr
    exact ⟨p, List.mem_cons_of_mem _ hp, hpe⟩
  approved r₁ hr₁ hok := by
    obtain ⟨r', hr', hra, hrn⟩ := hd
    rw [hr'] at hr₁
    cases hr₁
    obtain ⟨approved, hv, -⟩ := t.approved r hr (hra ▸ hok)
    refine ⟨approved, ?_, ?_⟩
    · rw [lastApproved?_cons hp, ha, Option.none_or, hv]
    · rw [lastBumped?_cons hp ha, hb, hrn]
      rfl

theorem approve (t : ApprovalInvariant history d) {version : String} (hp : e.plans = false)
    (ha : e.approvedVersion? = some version) {r : Current} (hr : d.current = some r)
    (hd : ∃ r', d'.current = some r' ∧ r'.nextVersion.getD "" = version) :
    ApprovalInvariant (e :: history) d' where
  planned _ _ := by
    obtain ⟨p, hp, hpe⟩ := t.planned r hr
    exact ⟨p, List.mem_cons_of_mem _ hp, hpe⟩
  approved r₁ hr₁ _ := by
    obtain ⟨r', hr', hrn⟩ := hd
    rw [hr'] at hr₁
    cases hr₁
    refine ⟨version, ?_, ?_⟩
    · rw [lastApproved?_cons hp, ha, Option.some_or]
    · rw [lastBumped?, sinceApproval_approval hp ha, hrn]
      rfl

/-- The invariant holds after every transition. -/
theorem step (t : ApprovalInvariant history d) (h : Change d e d') : ApprovalInvariant (e :: history) d' := by
  cases h with
  | idle updatedAt hp hm =>
    exact t.idle hp (Entry.approvedVersion?_eq_none hm) (Entry.bumpedVersion?_eq_none hm)
      fun r hr => ⟨r, hr, rfl, rfl⟩
  | plan hv => exact plan rfl ⟨_, rfl, rfl⟩
  | bump hr hs hv hy => exact t.bump rfl rfl (by simp [Entry.bumpedVersion?, hy]) hr ⟨_, rfl, rfl, rfl⟩
  | notes hr hs hc =>
    refine t.idle rfl rfl rfl fun r' hr' => ?_
    cases hr'
    exact ⟨_, hr, rfl, rfl⟩
  | approve hr hs hv => exact t.approve rfl rfl hr ⟨_, rfl, hv.symm⟩
  | publish hr hs ha hv hy =>
    refine t.idle rfl rfl rfl fun r' hr' => ?_
    cases hr'
    exact ⟨_, hr, rfl, rfl⟩

theorem run (h : d.current = none) (orders : List Order) :
    ApprovalInvariant (d.run orders).1 (d.run orders).2 :=
  Change.run_induction (start h) (fun _ _ _ _ t => t.step) orders

end ApprovalInvariant

/-- Neither the version nor the notes have been set since the last approval. -/
def Untouched (history : List Entry) : Prop :=
  ∀ e ∈ sinceApproval history, e.bumpedVersion? = none ∧ e.writesNotes = false

/-- The version is that of the last approval since the last plan, and neither version nor notes have been
set since. -/
structure AsApproved (history : List Entry) (version : String) : Prop where
  planned : ∃ e ∈ history, e.plans = true
  approved : lastApproved? history = some version
  untouched : Untouched history

theorem Untouched.lastBumped? {history : List Entry} (h : Untouched history) :
    lastBumped? history = none :=
  List.findSome?_eq_none_iff.mpr fun e he => (h e he).1

/-- After any run, a release that is published was planned, and approved since the last plan. Its version is
that of the last bump since that approval, and without such a bump the one approved. So it is published
as approved exactly if neither a bump nor notes follow the approval. -/
theorem publish_after_approval {d : MemoryAdapter} (hd : d.current = none) {orders : List Order}
    {input : PublishInput} {supply : Supply} {output : PublishOutput} {after : MemoryAdapter}
    (h : (d.run orders).2.perform supply .publish input = (.ok output, after)) :
    (∃ e ∈ (d.run orders).1, e.plans = true) ∧
      (∃ version, lastApproved? (d.run orders).1 = some version ∧
        output.version = (lastBumped? (d.run orders).1).getD version) ∧
      (AsApproved (d.run orders).1 output.version ↔ Untouched (d.run orders).1) := by
  obtain ⟨r, hr, -, ha, houtput, -⟩ := publish_ok h
  have hv : output.version = r.nextVersion.getD "" := by rw [houtput, publishOutput]
  have t : ApprovalInvariant (d.run orders).1 (d.run orders).2 := .run hd orders
  have hplanned := t.planned r hr
  obtain ⟨version, happroved, hversion⟩ := t.approved r hr ha
  refine ⟨hplanned, ⟨version, happroved, hv.trans hversion⟩, AsApproved.untouched, fun hu => ?_⟩
  rw [hu.lastBumped?] at hversion
  exact ⟨hplanned, by rw [happroved, hv, hversion]; rfl, hu⟩

/-! ### A bump after the approval -/

/-- An adapter with two features and a fix since 1.4.2. -/
def minorAdapter : MemoryAdapter := { changes := { features := 2, fixes := 1 }, currentVersion := "1.4.2" }

def fixedSupply : Supply := { now := .epoch, next := 0 }

def approvalRun : List Order :=
  [⟨.plan, {}, fixedSupply⟩, ⟨.bump, {}, fixedSupply⟩, ⟨.notes, {}, fixedSupply⟩,
    ⟨.approve, {}, fixedSupply⟩]

/-- An approval followed by a bump to another version. -/
def bumpAfterApproval : List Order := approvalRun ++ [⟨.bump, { bump := .major }, fixedSupply⟩]

/-- A minor release, published as approved. -/
theorem publish_after_approval_minor :
    minorAdapter.current = none ∧
      ∃ output after, (minorAdapter.run approvalRun).2.perform fixedSupply .publish {} =
          (.ok output, after) ∧
        AsApproved (minorAdapter.run approvalRun).1 output.version := by
  have untouched : Untouched (minorAdapter.run approvalRun).1 := by
    have nothing : sinceApproval (minorAdapter.run approvalRun).1 = [] := rfl
    intro e he
    rw [nothing] at he
    cases he
  obtain ⟨output, after, h⟩ : ∃ output after,
      (minorAdapter.run approvalRun).2.perform fixedSupply .publish {} = (.ok output, after) :=
    ⟨_, _, rfl⟩
  exact ⟨rfl, output, after, h, (publish_after_approval rfl h).2.2.mpr untouched⟩

/-- The version 1.5.0 is approved, and 2.0.0 is published. -/
theorem publish_past_approval :
    ¬ ∀ (output : PublishOutput) after,
      (minorAdapter.run bumpAfterApproval).2.perform fixedSupply .publish {} = (.ok output, after) →
        AsApproved (minorAdapter.run bumpAfterApproval).1 output.version := by
  intro h
  obtain ⟨output, after, hp⟩ : ∃ output after,
      (minorAdapter.run bumpAfterApproval).2.perform fixedSupply .publish {} = (.ok output, after) :=
    ⟨_, _, rfl⟩
  have published : ((minorAdapter.run bumpAfterApproval).2.perform fixedSupply .publish {}).1.toOption.map
      PublishOutput.version = some "2.0.0" := rfl
  rw [hp] at published
  have version : some output.version = some "2.0.0" := published
  have approved : lastApproved? (minorAdapter.run bumpAfterApproval).1 = some "1.5.0" := rfl
  have same := (h output after hp).approved
  rw [approved, version] at same
  exact absurd same (by decide)

end ReleaseDesk.Release
