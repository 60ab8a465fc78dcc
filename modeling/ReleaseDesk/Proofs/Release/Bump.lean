import ReleaseDesk.Proofs.Release.Version
import ReleaseDesk.Release.MemoryAdapter

/-! Bumps of the current version of the in-memory adapter. If the text of the current version spells
a version, the bumped text spells the version that the kind of bump prescribes, up to a pre-release
part; any other text is refused. -/

namespace ReleaseDesk.Release

open ReleaseDesk.Text

namespace Version

/-- The component that a kind of bump increments. -/
def component (v : Version) : BumpKind → Nat
  | .major => v.major
  | .minor => v.minor
  | .patch | .auto => v.patch

/-- The version that a kind of bump prescribes: one component is incremented, those after it are
zero, and those before it are unchanged. -/
inductive Increments : BumpKind → Version → Version → Prop
  | major (major minor patch : Nat) : Increments .major ⟨major, minor, patch⟩ ⟨major + 1, 0, 0⟩
  | minor (major minor patch : Nat) : Increments .minor ⟨major, minor, patch⟩ ⟨major, minor + 1, 0⟩
  | patch (major minor patch : Nat) : Increments .patch ⟨major, minor, patch⟩ ⟨major, minor, patch + 1⟩
  | auto (major minor patch : Nat) : Increments .auto ⟨major, minor, patch⟩ ⟨major, minor, patch + 1⟩

theorem increments_bump (v : Version) (kind : BumpKind) : Increments kind v (v.bump kind) := by
  cases v
  cases kind
  · exact .major _ _ _
  · exact .minor _ _ _
  · exact .patch _ _ _
  · exact .auto _ _ _

theorem Denotes.fits {cs : List Char} {v : Version} (h : Denotes cs v) : v.Fits := by
  cases h with
  | mk k hmajor hminor hpatch hrest => exact ⟨hmajor.fits, hminor.fits, hpatch.fits⟩

theorem Fits.bump {v : Version} (h : v.Fits) {kind : BumpKind} (hk : v.component kind + 1 < wordBound) :
    (v.bump kind).Fits := by
  have hzero : 0 < wordBound := by decide
  cases kind
  · exact ⟨hk, hzero, hzero⟩
  · exact ⟨h.major, hk, hzero⟩
  · exact ⟨h.major, h.minor, hk⟩
  · exact ⟨h.major, h.minor, hk⟩

end Version

open Version

/-- A text parses to a version if and only if it spells it. An adapter whose current version spells
none refuses to bump. Otherwise, if the incremented component stays below `2 ^ 64`, the bumped
version parses to the version that the kind of bump prescribes, which is greater than the current
one, and its text is that of this version and the pre-release part. -/
theorem bump_exact :
    (∀ s v, parse? s = some v ↔ Denotes s.toList v) ∧
    (∀ (d : MemoryAdapter) kind prerelease, (∀ v, ¬ Denotes d.currentVersion.toList v) →
      d.versionAfter kind prerelease =
        .error (.invalidInput ("invalid version '" ++ d.currentVersion ++ "'"))) ∧
    ∀ (d : MemoryAdapter) v kind prerelease, Denotes d.currentVersion.toList v →
    v.component kind + 1 < wordBound →
      ∃ next w, d.versionAfter kind prerelease = .ok next ∧ parse? next = some w ∧ Increments kind v w ∧
        v < w ∧ next.toList = w.text.toList ++ prereleasePart prerelease := by
  refine ⟨fun s v => parse?_iff, fun d kind prerelease hnone => ?_, fun d v kind prerelease hv hk => ?_⟩
  · have hparse : parse? d.currentVersion = none :=
      Option.eq_none_iff_forall_ne_some.mpr fun v hv => hnone v (parse?_iff.mp hv)
    simp only [MemoryAdapter.versionAfter, hparse]
  · have hparse : parse? d.currentVersion = some v := parse?_iff.mpr hv
    refine ⟨(v.bump kind).tagged prerelease, v.bump kind, ?_, parse?_tagged (hv.fits.bump hk) prerelease,
      v.increments_bump kind, v.lt_bump kind, toList_tagged _ _⟩
    simp only [MemoryAdapter.versionAfter, hparse]

/-- The initial adapter with this current version. -/
def adapterAt (version : String) : MemoryAdapter := { changes := {}, currentVersion := version }

/-- Leading letters and zeros and the part after a hyphen do not change the version; two components
are no version. -/
theorem bump_exact_candidate :
    Denotes "vv01.4.2-rc.1+x".toList ⟨1, 4, 2⟩ ∧ (⟨1, 4, 2⟩ : Version).component .minor + 1 < wordBound ∧
      (∃ next w, (adapterAt "vv01.4.2-rc.1+x").versionAfter .minor (some "beta-1.2") = .ok next ∧
        parse? next = some w ∧ Increments .minor ⟨1, 4, 2⟩ w ∧
        next.toList = w.text.toList ++ "-beta-1.2".toList) ∧
      (∀ v, ¬ Denotes "1.2".toList v) ∧
      (adapterAt "1.2").versionAfter .patch none = .error (.invalidInput "invalid version '1.2'") := by
  obtain ⟨hparse, hrefuse, hbump⟩ := bump_exact
  have hv : Denotes "vv01.4.2-rc.1+x".toList ⟨1, 4, 2⟩ := (hparse _ _).mp rfl
  have hk : (⟨1, 4, 2⟩ : Version).component .minor + 1 < wordBound := by decide
  have hnone (v : Version) : ¬ Denotes "1.2".toList v := fun h =>
    nomatch ((hparse "1.2" v).mpr h : none = some v)
  obtain ⟨next, w, hnext, hw, hraises, -, htext⟩ := hbump (adapterAt _) _ .minor (some "beta-1.2") hv hk
  exact ⟨hv, hk, ⟨next, w, hnext, hw, hraises, htext⟩, hnone, hrefuse (adapterAt "1.2") .patch none hnone⟩

end ReleaseDesk.Release
