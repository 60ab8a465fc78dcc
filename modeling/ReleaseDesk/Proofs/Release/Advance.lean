import ReleaseDesk.Proofs.Release.Publication
import ReleaseDesk.Proofs.Release.Version

/-! The current version and the next one along a run. The next version is greater than the current one from
the step that sets it up to its publication, which makes it the current one. So the current version is
monotone, and it changes at publications alone. Numbers of versions wrap at 64 bits; the results are
about runs in which none does. -/

namespace ReleaseDesk.Release

open MemoryAdapter

/-- The next version was set, by a plan or by a bump that is no dry run. -/
def Entry.setsVersion (e : Entry) : Bool := e.plans || e.bumpedVersion?.isSome

/-- Whether the current release was published after its next version was last set. -/
def isReleased (history : List Entry) : Bool :=
  (history.takeWhile fun e => !e.setsVersion).any Entry.publishes

theorem isReleased_of_setsVersion {e : Entry} (h : e.setsVersion = true) (history : List Entry) :
    isReleased (e :: history) = false := by
  rw [isReleased, List.takeWhile_cons_of_neg (by simp [h])]
  rfl

theorem isReleased_cons {e : Entry} (h : e.setsVersion = false) (history : List Entry) :
    isReleased (e :: history) = (e.publishes || isReleased history) := by
  rw [isReleased, List.takeWhile_cons_of_pos (by simp [h]), List.any_cons, isReleased]

theorem Entry.setsVersion_eq_false {e : Entry} (hp : e.plans = false) (hm : e.changesStage = false) :
    e.setsVersion = false := by
  rw [setsVersion, hp, bumpedVersion?_eq_none hm]
  rfl

/-! ### Overflow -/

namespace MemoryAdapter

/-- The kind of bump that a step applies to the current version. -/
def bumpKind? (d : MemoryAdapter) : (s : Step) → s.Input → Option BumpKind
  | .plan, _ => some d.changes.implied
  | .bump, input =>
    (d.current.filter fun r => Stage.planned.index ≤ r.stage.index).map fun _ => d.kindOf input
  | .status, _ | .notes, _ | .evaluate, _ | .approve, _ | .publish, _ => none

/-- The version that a step computes from the current one. -/
def computedVersion? (d : MemoryAdapter) (s : Step) (input : s.Input) : Option Version :=
  match d.bumpKind? s input, Version.parse? d.currentVersion with
  | some kind, some v => some (v.bump kind)
  | _, _ => none

/-- A step computes a version with a number that does not fit in 64 bits. -/
def Overflows (d : MemoryAdapter) (s : Step) (input : s.Input) : Prop :=
  ∃ v ∈ d.computedVersion? s input, ¬ v.Fits

instance (d : MemoryAdapter) (s : Step) (input : s.Input) : Decidable (d.Overflows s input) :=
  inferInstanceAs (Decidable (∃ v ∈ d.computedVersion? s input, ¬ v.Fits))

/-- No step of a run overflows. -/
def NoOverflow (d : MemoryAdapter) (orders : List Order) : Prop :=
  ∀ before o after, orders = before ++ o :: after → ¬ (d.run before).2.Overflows o.step o.input

variable {d : MemoryAdapter}

theorem raising?_bump {input : BumpInput} {r : Current} (hr : d.current = some r)
    (hs : Stage.planned.index ≤ r.stage.index) : d.bumpKind? .bump input = some (d.kindOf input) := by
  simp [bumpKind?, hr, hs]

/-- A version computed without overflow parses to one greater than the current version. -/
theorem parse?_versionAfter {v : Version} {s : Step} {input : s.Input} {kind : BumpKind}
    {prerelease : Option String} {next : String} (hv : Version.parse? d.currentVersion = some v)
    (hw : ¬ d.Overflows s input) (hk : d.bumpKind? s input = some kind)
    (hn : d.versionAfter kind prerelease = .ok next) :
    ∃ w, Version.parse? next = some w ∧ v < w := by
  have hraised : d.computedVersion? s input = some (v.bump kind) := by simp only [computedVersion?, hk, hv]
  have hfits : (v.bump kind).Fits := not_not.mp fun h => hw ⟨_, hraised, h⟩
  simp only [versionAfter, hv, Except.ok.injEq] at hn
  exact ⟨v.bump kind, hn ▸ Version.parse?_tagged hfits prerelease, v.lt_bump kind⟩

theorem NoOverflow.nil (d : MemoryAdapter) : d.NoOverflow [] := fun before _ _ h => by simp at h

theorem NoOverflow.concat {orders : List Order} {o : Order} (h : d.NoOverflow orders)
    (ho : ¬ (d.run orders).2.Overflows o.step o.input) : d.NoOverflow (orders ++ [o]) := by
  intro before other after heq
  rcases List.eq_nil_or_concat after with rfl | ⟨after, last, rfl⟩
  · obtain ⟨rfl, hlast⟩ := List.append_inj' heq rfl
    cases hlast
    exact ho
  · rw [List.concat_eq_append, ← List.cons_append, ← List.append_assoc] at heq
    exact h before other after (List.append_inj_left' heq rfl)

theorem NoOverflow.of_append {before after : List Order} (h : d.NoOverflow (before ++ after)) :
    d.NoOverflow before := by
  rintro first o rest rfl
  exact h first o (rest ++ after) (by simp)

theorem NoOverflow.of_concat {orders : List Order} {o : Order} (h : d.NoOverflow (orders ++ [o])) :
    ¬ (d.run orders).2.Overflows o.step o.input := h orders o [] rfl

end MemoryAdapter

/-! ### The current version -/

/-- The current version parses to `v`. The next version is greater if it has not been published, and is the
current version if it has. -/
structure VersionInvariant (v : Version) (history : List Entry) (d : MemoryAdapter) : Prop where
  current : Version.parse? d.currentVersion = some v
  later : ∀ r, d.current = some r → isReleased history = false →
    ∃ next w, r.nextVersion = some next ∧ Version.parse? next = some w ∧ v < w
  issued : ∀ r, d.current = some r → isReleased history = true → r.nextVersion = some d.currentVersion
  published : ∀ r, d.current = some r → r.stage = .published → isReleased history = true

namespace VersionInvariant

variable {v : Version} {history : List Entry} {d d' : MemoryAdapter} {e : Entry}

theorem start (hd : d.current = none) (hv : Version.parse? d.currentVersion = some v) :
    VersionInvariant v [] d where
  current := hv
  later r hr := by rw [hd] at hr; cases hr
  issued r hr := by rw [hd] at hr; cases hr
  published r hr := by rw [hd] at hr; cases hr

/-- A step that neither sets nor publishes the next version. -/
theorem keep (t : VersionInvariant v history d) (hf : e.setsVersion = false) (hp : e.publishes = false)
    (hv : d'.currentVersion = d.currentVersion)
    (hd : ∀ r', d'.current = some r' → ∃ r, d.current = some r ∧ r'.nextVersion = r.nextVersion ∧
      (r'.stage = .published → r.stage = .published)) : VersionInvariant v (e :: history) d' := by
  have hissued : isReleased (e :: history) = isReleased history := by
    rw [isReleased_cons hf, hp, Bool.false_or]
  refine ⟨hv ▸ t.current, fun r' hr' => ?_, fun r' hr' => ?_, fun r' hr' hs => ?_⟩ <;>
    obtain ⟨r, hr, hn, hstage⟩ := hd r' hr'
  · rw [hissued, hn]
    exact t.later r hr
  · rw [hissued, hn, hv]
    exact t.issued r hr
  · rw [hissued]
    exact t.published r hr (hstage hs)

/-- A step that sets the next version. -/
theorem fix (t : VersionInvariant v history d) (hf : e.setsVersion = true)
    (hv : d'.currentVersion = d.currentVersion)
    {r : Current} {next : String} {w : Version} (hr : d'.current = some r)
    (hs : r.stage ≠ .published) (hn : r.nextVersion = some next)
    (hw : Version.parse? next = some w) (hlt : v < w) : VersionInvariant v (e :: history) d' where
  current := hv ▸ t.current
  later r' hr' _ := by
    cases hr.symm.trans hr'
    exact ⟨next, w, hn, hw, hlt⟩
  issued r' _ h := by
    rw [isReleased_of_setsVersion hf] at h
    cases h
  published r' hr' h := by
    cases hr.symm.trans hr'
    exact absurd h hs

/-- A publication makes the next version the current one. -/
theorem publish (t : VersionInvariant v history d) (hf : e.setsVersion = false) (hp : e.publishes = true)
    {r : Current} (hr : d.current = some r)
    (hd : ∀ r', d'.current = some r' → r'.nextVersion = r.nextVersion)
    (hv : d'.currentVersion = r.nextVersion.getD "") :
    ∃ w, v ≤ w ∧ VersionInvariant w (e :: history) d' := by
  have hissued : isReleased (e :: history) = true := by rw [isReleased_cons hf, hp, Bool.true_or]
  obtain ⟨next, w, hnext, hw, hle⟩ :
      ∃ next w, r.nextVersion = some next ∧ Version.parse? next = some w ∧ v ≤ w := by
    cases hi : isReleased history with
    | false =>
      obtain ⟨next, w, hn, hw, hlt⟩ := t.later r hr hi
      exact ⟨next, w, hn, hw, hlt.le⟩
    | true => exact ⟨d.currentVersion, v, t.issued r hr hi, t.current, le_rfl⟩
  rw [hnext] at hv
  refine ⟨w, hle, hv ▸ hw, fun r' _ h => ?_, fun r' hr' _ => ?_, fun _ _ _ => hissued⟩
  · rw [hissued] at h
    cases h
  · rw [hd r' hr', hnext, hv]
    rfl

/-- A step that does not overflow keeps the invariant, for a version that is not smaller, and changes the
current version only if it publishes. -/
theorem step (t : VersionInvariant v history d) (h : Change d e d') (hw : ¬ d.Overflows e.step e.input) :
    (∃ w, v ≤ w ∧ VersionInvariant w (e :: history) d') ∧
      (d'.currentVersion ≠ d.currentVersion → e.publishes = true) := by
  cases h with
  | idle updatedAt hp hm =>
    exact ⟨⟨v, le_rfl, t.keep (Entry.setsVersion_eq_false hp hm) (Entry.publishes_eq_false hm) rfl
      fun r hr => ⟨r, hr, rfl, id⟩⟩, fun hne => absurd rfl hne⟩
  | plan hv =>
    obtain ⟨w, hparse, hlt⟩ := parse?_versionAfter t.current hw rfl hv
    exact ⟨⟨v, le_rfl, t.fix rfl rfl rfl Stage.noConfusion rfl hparse hlt⟩, fun hne => absurd rfl hne⟩
  | @bump input output now r hr hs hv hy =>
    obtain ⟨w, hparse, hlt⟩ := parse?_versionAfter t.current hw (raising?_bump hr hs) hv
    have hfixes : Entry.setsVersion ⟨.bump, input, .ok output⟩ = true := by
      simp [Entry.setsVersion, Entry.bumpedVersion?, hy]
    exact ⟨⟨v, le_rfl, t.fix hfixes rfl rfl Stage.noConfusion rfl hparse hlt⟩, fun hne => absurd rfl hne⟩
  | notes hr hs hc =>
    refine ⟨⟨v, le_rfl, t.keep rfl rfl rfl fun r' hr' => ?_⟩, fun hne => absurd rfl hne⟩
    cases hr'
    exact ⟨_, hr, rfl, fun h => Stage.noConfusion h⟩
  | approve hr hs hv =>
    refine ⟨⟨v, le_rfl, t.keep rfl rfl rfl fun r' hr' => ?_⟩, fun hne => absurd rfl hne⟩
    cases hr'
    exact ⟨_, hr, rfl, fun h => Stage.noConfusion h⟩
  | @publish input output now r hr hs ha hv hy =>
    have hpublishes : Entry.publishes ⟨.publish, input, .ok output⟩ = true := by
      simp [Entry.publishes, hy]
    refine ⟨t.publish rfl hpublishes hr (fun r' hr' => ?_) rfl, fun _ => hpublishes⟩
    cases hr'
    rfl

/-- The invariant along the rest of a run, by induction on the orders still to come. -/
theorem run (before after : List Order) (hw : d.NoOverflow (before ++ after))
    (t : VersionInvariant v (d.run before).1 (d.run before).2) :
    ∃ w, v ≤ w ∧ VersionInvariant w (d.run (before ++ after)).1 (d.run (before ++ after)).2 := by
  induction after generalizing before v with
  | nil =>
    rw [List.append_nil]
    exact ⟨v, le_rfl, t⟩
  | cons o after ih =>
    rw [List.append_cons] at hw ⊢
    obtain ⟨⟨w, hle, t⟩, -⟩ :=
      t.step (.ofPerform _ o.supply o.step o.input) hw.of_append.of_concat
    obtain ⟨w', hle', t⟩ := ih (before ++ [o]) hw (by rwa [run_concat])
    exact ⟨w', hle.trans hle', t⟩

end VersionInvariant

/-- In a run that does not overflow, the current version and the next one always parse. The next version is
greater than the current one until it is published, never smaller, and equal to it at a published release.
The current version never decreases, and only a publication changes it. -/
theorem versions_never_recede {d : MemoryAdapter} {v₀ : Version} (hd : d.current = none)
    (hv : Version.parse? d.currentVersion = some v₀) {orders : List Order} (hw : d.NoOverflow orders) :
    (∃ v, Version.parse? (d.run orders).2.currentVersion = some v ∧
      ∀ r, (d.run orders).2.current = some r → ∃ next w, r.nextVersion = some next ∧
        Version.parse? next = some w ∧ v ≤ w ∧ (isReleased (d.run orders).1 = false → v < w) ∧
        (r.stage = .published → next = (d.run orders).2.currentVersion)) ∧
    (∀ before after, orders = before ++ after → ∃ v w,
      Version.parse? (d.run before).2.currentVersion = some v ∧
      Version.parse? (d.run orders).2.currentVersion = some w ∧ v ≤ w) ∧
    ∀ before o after, orders = before ++ o :: after →
      (d.run (before ++ [o])).2.currentVersion ≠ (d.run before).2.currentVersion →
      ∃ e, (d.run (before ++ [o])).1 = e :: (d.run before).1 ∧ e.publishes = true := by
  have reach : ∀ reached, d.NoOverflow reached →
      ∃ v, VersionInvariant v (d.run reached).1 (d.run reached).2 := by
    intro reached hreached
    obtain ⟨v, -, t⟩ := VersionInvariant.run [] reached hreached (.start hd hv)
    exact ⟨v, t⟩
  refine ⟨?_, ?_, ?_⟩
  · obtain ⟨v, t⟩ := reach orders hw
    refine ⟨v, t.current, fun r hr => ?_⟩
    cases hi : isReleased (d.run orders).1 with
    | false =>
      obtain ⟨next, w, hn, hparse, hlt⟩ := t.later r hr hi
      refine ⟨next, w, hn, hparse, hlt.le, fun _ => hlt, fun hs => ?_⟩
      rw [t.published r hr hs] at hi
      cases hi
    | true => exact ⟨_, v, t.issued r hr hi, t.current, le_rfl, nofun, fun _ => rfl⟩
  · rintro before after rfl
    obtain ⟨v, t⟩ := reach before hw.of_append
    obtain ⟨w, hle, t'⟩ := t.run before after hw
    exact ⟨v, w, t.current, t'.current, hle⟩
  · rintro before o after rfl hne
    obtain ⟨v, t⟩ := reach before hw.of_append
    rw [run_concat] at hne ⊢
    have hchange := Change.ofPerform (d.run before).2 o.supply o.step o.input
    exact ⟨_, rfl, (t.step hchange (hw before o after rfl)).2 hne⟩

/-- The flow of a major release with a pre-release part, and the plan of the next release. -/
def candidateRun : List Order :=
  [⟨.plan, {}, fixedSupply⟩, ⟨.bump, { bump := .major, prerelease := some "v+rc.1" }, fixedSupply⟩,
    ⟨.notes, {}, fixedSupply⟩, ⟨.approve, {}, fixedSupply⟩, ⟨.publish, {}, fixedSupply⟩,
    ⟨.plan, {}, fixedSupply⟩]

theorem within_pastCandidate : minorAdapter.NoOverflow candidateRun :=
  ((((((NoOverflow.nil _).concat (by decide)).concat (by decide)).concat (by decide)).concat
    (by decide)).concat (by decide)).concat (by decide)

/-- The versions along `candidateRun`. -/
theorem versions_never_recede_candidate :
    minorAdapter.current = none ∧ Version.parse? minorAdapter.currentVersion = some ⟨1, 4, 2⟩ ∧
      minorAdapter.NoOverflow candidateRun ∧
      ∃ v r next w, Version.parse? (minorAdapter.run candidateRun).2.currentVersion = some v ∧
        (minorAdapter.run candidateRun).2.current = some r ∧ r.nextVersion = some next ∧
        Version.parse? next = some w ∧ v < w := by
  have hstart : Version.parse? minorAdapter.currentVersion = some ⟨1, 4, 2⟩ := rfl
  obtain ⟨⟨v, hv, hlater⟩, -, -⟩ := versions_never_recede rfl hstart within_pastCandidate
  obtain ⟨next, w, hn, hw, -, hlt, -⟩ := hlater _ rfl
  exact ⟨rfl, hstart, within_pastCandidate, v, _, next, w, hv, rfl, hn, hw, hlt rfl⟩

end ReleaseDesk.Release
