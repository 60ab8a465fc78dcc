import ReleaseDesk.Proofs.Release.Publication
import ReleaseDesk.Proofs.Release.Refusal

/-! How often a release is published. A published release is not published again. But a bump, notes and
an approval accept a release in any later stage, a published one included: its stage is set back, its
approval is kept, and it can be published once more. -/

namespace ReleaseDesk.Release

open MemoryAdapter

namespace MemoryAdapter

/-- Whether there is a current release and it is published. -/
def isPublished (d : MemoryAdapter) : Bool := d.current.any fun r => r.stage = .published

/-- Whether there is a current release and it counts as approved. -/
def isApproved (d : MemoryAdapter) : Bool := d.current.any (·.approved)

/-- A publication, dry or not, succeeds exactly at a release that is approved and not published. -/
theorem publish_ok_iff {d : MemoryAdapter} {input : PublishInput} {supply : Supply} :
    (∃ output, (d.perform supply .publish input).1 = .ok output) ↔
      d.isApproved = true ∧ d.isPublished = false := by
  constructor
  · rintro ⟨output, h⟩
    obtain ⟨r, hr, hs, ha, -, -⟩ := publish_ok (Prod.ext h rfl)
    simp [isApproved, isPublished, hr, hs, ha]
  · rintro ⟨ha, hp⟩
    cases houtcome : (d.perform supply .publish input).1 with
    | ok output => exact ⟨output, rfl⟩
    | error refusal =>
      cases perform_error_iff.mp houtcome with
      | noRelease hs hnone => simp [isApproved, hnone] at ha
      | tooEarly hr hs hlt => cases hs
      | invalidVersion hv hs => simp at hs
      | published hr hs => simp [isPublished, hr, hs] at hp
      | unapproved hr hs ha' => simp [isApproved, hr, ha'] at ha

end MemoryAdapter

/-- The adapter's current release is published and approved as its history tells, and none was published
that already was. -/
structure StageInvariant (history : List Entry) (d : MemoryAdapter) : Prop where
  published : d.isPublished = isPublished history
  approved : d.isApproved = (lastApproved? history).isSome
  once : ∀ e earlier, e :: earlier <:+ history → e.publishes = true → isPublished earlier = false

namespace StageInvariant

variable {history : List Entry} {d d' : MemoryAdapter} {e : Entry}

theorem start (h : d.current = none) : StageInvariant [] d where
  published := by rw [MemoryAdapter.isPublished, h]; rfl
  approved := by rw [isApproved, h]; rfl
  once e earlier hs := by simp at hs

theorem once_cons (t : StageInvariant history d) (h : e.publishes = true → d.isPublished = false) :
    ∀ e' earlier, e' :: earlier <:+ e :: history → e'.publishes = true →
      isPublished earlier = false := by
  intro e' earlier hs hp
  rcases List.suffix_cons_iff.mp hs with heq | hs
  · obtain ⟨rfl, rfl⟩ := List.cons_eq_cons.mp heq
    exact t.published ▸ h hp
  · exact t.once e' earlier hs hp

theorem plan (t : StageInvariant history d) (h : e.plans = true) (hpublished : d'.isPublished = false)
    (happroved : d'.isApproved = false) (hp : e.publishes = false) : StageInvariant (e :: history) d' where
  published := by rw [hpublished, isPublished_plan h]
  approved := by rw [happroved, lastApproved?_plan h]; rfl
  once := t.once_cons fun hpe => absurd (hp ▸ hpe) (by decide)

/-- Any step but a plan has the effect that its entry tells. -/
theorem other (t : StageInvariant history d) (h : e.plans = false)
    (hpublished : d'.isPublished = if e.changesStage then e.publishes else d.isPublished)
    (happroved : d'.isApproved = (e.approvedVersion?.isSome || d.isApproved))
    (hp : e.publishes = true → d.isPublished = false) : StageInvariant (e :: history) d' where
  published := by rw [hpublished, isPublished_cons h, t.published]
  approved := by
    rw [happroved, lastApproved?_cons h, t.approved]
    cases e.approvedVersion? <;> rfl
  once := t.once_cons hp

/-- The invariant holds after every transition. -/
theorem step (t : StageInvariant history d) (h : Change d e d') : StageInvariant (e :: history) d' := by
  cases h with
  | idle updatedAt hp hm =>
    have hpublishes := Entry.publishes_eq_false hm
    refine t.other hp ?_ ?_ fun h => absurd (hpublishes ▸ h) (by decide)
    · rw [hm]
      rfl
    · rw [Entry.approvedVersion?_eq_none hm]
      rfl
  | plan hv => exact t.plan rfl rfl rfl rfl
  | bump hr hs hv hy =>
    refine t.other rfl ?_ ?_ fun h => absurd h Bool.false_ne_true
    · simp [Entry.changesStage, Entry.reworks, Entry.publishes, Entry.bumpedVersion?, hy,
        MemoryAdapter.isPublished]
    · simp [Entry.approvedVersion?, hr, isApproved]
  | notes hr hs hc =>
    refine t.other rfl rfl ?_ fun h => absurd h Bool.false_ne_true
    simp [Entry.approvedVersion?, hr, isApproved]
  | approve hr hs hv => exact t.other rfl rfl rfl fun h => absurd h Bool.false_ne_true
  | publish hr hs ha hv hy =>
    refine t.other rfl ?_ ?_ fun _ => ?_
    · simp [Entry.changesStage, Entry.publishes, hy, MemoryAdapter.isPublished]
    · simp [Entry.approvedVersion?, isApproved, hr]
    · simp [MemoryAdapter.isPublished, hr, hs]

theorem run (h : d.current = none) (orders : List Order) :
    StageInvariant (d.run orders).1 (d.run orders).2 :=
  Change.run_induction (start h) (fun _ _ _ _ t => t.step) orders

/-- In a period without a plan in which no published release is reworked, a release is published at most
once, and is then published at the end. -/
theorem countP_publishes_le {period earlier : List Entry} (t : StageInvariant history d)
    (hs : period ++ earlier <:+ history) (hplan : ∀ e ∈ period, e.plans = false)
    (hrework : ∀ newer e older, period = newer ++ e :: older → isPublished (older ++ earlier) = true →
      e.reworks = false) :
    period.countP Entry.publishes ≤ 1 ∧
      (period.countP Entry.publishes = 1 → isPublished (period ++ earlier) = true) := by
  induction period with
  | nil => simp
  | cons e period ih =>
    obtain ⟨hplanned, hplan⟩ := List.forall_mem_cons.mp hplan
    obtain ⟨hle, hout⟩ := ih ((List.suffix_cons e _).trans hs) hplan
      fun newer e' older heq => hrework (e :: newer) e' older (by rw [heq]; rfl)
    cases hp : e.publishes with
    | true =>
      have hnotYet : isPublished (period ++ earlier) = false := t.once e _ hs hp
      have hnone : period.countP Entry.publishes ≠ 1 := fun h => by simp [hout h] at hnotYet
      rw [List.countP_cons_of_pos hp]
      exact ⟨by omega, fun _ => isPublished_publication hplanned hp⟩
    | false =>
      rw [List.countP_cons_of_neg (by simp [hp])]
      refine ⟨hle, fun h => ?_⟩
      exact isPublished_of_not_reworks hplanned (hrework [] e period rfl (hout h)) (hout h)

end StageInvariant

/-- After any run, a publication succeeds exactly if the current release was approved since it was planned
and is not published. So between one plan and the next a release is published at most once, unless it is
reworked after it was published. -/
theorem published_once_unless_reworked {d : MemoryAdapter} (hd : d.current = none)
    (orders : List Order) :
    (∀ input supply,
      (∃ output, ((d.run orders).2.perform supply .publish input).1 = .ok output) ↔
        (lastApproved? (d.run orders).1).isSome = true ∧ isPublished (d.run orders).1 = false) ∧
    ∀ later period earlier, (d.run orders).1 = later ++ (period ++ earlier) →
      (∀ e ∈ period, e.plans = false) →
      (∀ newer e older, period = newer ++ e :: older → isPublished (older ++ earlier) = true →
        e.reworks = false) →
      period.countP Entry.publishes ≤ 1 := by
  have t : StageInvariant (d.run orders).1 (d.run orders).2 := .run hd orders
  refine ⟨fun input supply => ?_, fun later period earlier heq hplan hrework => ?_⟩
  · rw [publish_ok_iff, t.approved, t.published]
  · exact (t.countP_publishes_le ⟨later, heq.symm⟩ hplan hrework).1

/-! ### An approval after the publication -/

def publicationRun : List Order := approvalRun ++ [⟨.publish, {}, fixedSupply⟩]

/-- A published release is not published again as it is. -/
theorem published_once_unless_reworked_minor :
    let run := minorAdapter.run (publicationRun ++ [⟨.publish, {}, fixedSupply⟩])
    minorAdapter.current = none ∧
      ¬ (∃ output, (run.2.perform fixedSupply .publish {}).1 = .ok output) ∧
      (∀ e ∈ run.1.take 2, e.plans = false) ∧
      (∀ newer e older, run.1.take 2 = newer ++ e :: older →
        isPublished (older ++ run.1.drop 2) = true → e.reworks = false) ∧
      (run.1.take 2).countP Entry.publishes ≤ 1 := by
  intro run
  obtain ⟨hpublish, hcount⟩ := published_once_unless_reworked (d := minorAdapter) rfl
    (publicationRun ++ [⟨.publish, {}, fixedSupply⟩])
  have hplan : ∀ e ∈ run.1.take 2, e.plans = false := by
    intro e he
    rcases List.mem_cons.mp he with rfl | he
    · rfl
    · rw [List.mem_singleton.mp he]
      rfl
  have hrework : ∀ newer e older, run.1.take 2 = newer ++ e :: older →
      isPublished (older ++ run.1.drop 2) = true → e.reworks = false := by
    intro newer e older heq _
    have he : e ∈ run.1.take 2 := heq ▸ List.mem_append_right _ List.mem_cons_self
    rcases List.mem_cons.mp he with rfl | he
    · rfl
    · rw [List.mem_singleton.mp he]
      rfl
  refine ⟨rfl, fun h => ?_, hplan, hrework, ?_⟩
  · have hout : isPublished run.1 = true := rfl
    rw [((hpublish {} fixedSupply).mp h).2] at hout
    cases hout
  · exact hcount [] _ _ (List.take_append_drop 2 _).symm hplan hrework

/-- A published release is approved once more, and then published once more. -/
theorem published_twice :
    ¬ ∀ later period earlier,
      (minorAdapter.run (publicationRun ++ [⟨.approve, {}, fixedSupply⟩, ⟨.publish, {}, fixedSupply⟩])).1 =
        later ++ (period ++ earlier) →
      (∀ e ∈ period, e.plans = false) → period.countP Entry.publishes ≤ 1 := by
  intro h
  generalize hrun : minorAdapter.run
    (publicationRun ++ [⟨.approve, {}, fixedSupply⟩, ⟨.publish, {}, fixedSupply⟩]) = run at h
  have hplan : (run.1.take 6).all (fun e => !e.plans) = true := by
    rw [← hrun]
    rfl
  have hcount : (run.1.take 6).countP Entry.publishes = 2 := by
    rw [← hrun]
    rfl
  have hle := h [] _ _ (List.take_append_drop 6 _).symm fun e he => by
    simpa using List.all_eq_true.mp hplan e he
  omega

end ReleaseDesk.Release
