import Mathlib.Data.List.Forall2
import Mathlib.Data.Prod.Lex
import Mathlib.Order.Nat
import ReleaseDesk.Proofs.Text.Numeral
import ReleaseDesk.Release.Bump

/-! Versions: their order, and the texts that denote them. The order is lexicographic, and a bump is
strictly increasing. A text denotes a version if it consists of letters `v`, three decimal numbers
below `2 ^ 64` separated by points, and then nothing or a part that starts with a hyphen or a plus
sign. The text of a version, with or without a pre-release part, denotes this version. -/

namespace ReleaseDesk.Release

open ReleaseDesk.Text

namespace Version

/-! ### Order -/

/-- The components in lexicographic order. -/
def rank (v : Version) : ℕ ×ₗ ℕ ×ₗ ℕ := toLex (v.major, toLex (v.minor, v.patch))

instance : Preorder Version := .lift rank

theorem lt_iff {v w : Version} :
    v < w ↔ v.major < w.major ∨ v.major = w.major ∧
      (v.minor < w.minor ∨ v.minor = w.minor ∧ v.patch < w.patch) := by
  change rank v < rank w ↔ _
  simp only [rank, Prod.Lex.toLex_lt_toLex]

/-- A bump is strictly increasing. -/
theorem lt_bump (v : Version) (kind : BumpKind) : v < v.bump kind := by
  rw [lt_iff]
  cases kind <;> simp [bump]

/-- The components are below `2 ^ 64`. -/
structure Fits (v : Version) : Prop where
  major : v.major < wordBound
  minor : v.minor < wordBound
  patch : v.patch < wordBound

instance (v : Version) : Decidable v.Fits :=
  decidable_of_iff (v.major < wordBound ∧ v.minor < wordBound ∧ v.patch < wordBound)
    ⟨fun ⟨major, minor, patch⟩ => ⟨major, minor, patch⟩, fun ⟨major, minor, patch⟩ => ⟨major, minor, patch⟩⟩

/-! ### Reading -/

theorem pieces_eq_splitOn (cs : List Char) : pieces cs = cs.splitOn '.' := by
  induction cs with
  | nil => rfl
  | cons c cs ih =>
    obtain ⟨piece, rest, hcs⟩ := List.exists_cons_of_ne_nil (List.splitOn_ne_nil '.' cs)
    rw [hcs] at ih
    unfold pieces at ih ⊢
    rw [List.foldr_cons, ih, List.splitOn_eq_splitOnP, List.splitOnP_cons_eq_if_modifyHead,
      ← List.splitOn_eq_splitOnP, hcs]
    by_cases h : c = '.' <;> simp [h]

/-- Digits that denote a number below `2 ^ 64`. -/
structure Component (cs : List Char) (n : Nat) : Prop where
  nonempty : cs ≠ []
  digits : ∀ c ∈ cs, '0' ≤ c ∧ c ≤ '9'
  value : numeralValue cs = n
  fits : n < wordBound

/-- The text denotes the version: letters `v`, three components separated by points, and then
nothing or a part that starts with a hyphen or a plus sign. -/
inductive Denotes : List Char → Version → Prop
  | mk (k : Nat) {v : Version} {major minor patch rest : List Char}
    (hmajor : Component major v.major) (hminor : Component minor v.minor)
    (hpatch : Component patch v.patch) (hrest : ∀ c ∈ rest.head?, c = '-' ∨ c = '+') :
    Denotes (List.replicate k 'v' ++ (major ++ '.' :: (minor ++ '.' :: patch) ++ rest)) v

theorem Component.isDigit {cs : List Char} {n : Nat} (h : Component cs n) {c : Char} (hc : c ∈ cs) :
    isDigit c = true := isDigit_iff.mpr (h.digits c hc)

theorem Component.notMem_point {cs : List Char} {n : Nat} (h : Component cs n) : '.' ∉ cs :=
  fun hc => ne_of_isDigit (h.isDigit hc) rfl rfl

theorem component_numeral {n : Nat} (h : n < wordBound) : Component (numeral n) n where
  nonempty := numeral_ne_nil n
  digits _ hc := isDigit_iff.mp (isDigit_of_mem_numeral hc)
  value := numeralValue_numeral n
  fits := h

theorem component?_iff {cs : List Char} {n : Nat} : component? cs = some n ↔ Component cs n := by
  unfold component?
  constructor
  · intro h
    split_ifs at h with hcs
    cases h
    obtain ⟨nonempty, digits, fits⟩ := hcs
    exact ⟨nonempty, fun c hc => isDigit_iff.mp (List.all_eq_true.mp digits c hc), rfl, fits⟩
  · intro h
    have hall : cs.all Text.isDigit = true := List.all_eq_true.mpr fun c hc => h.isDigit hc
    rw [if_pos ⟨h.nonempty, hall, h.value ▸ h.fits⟩, h.value]

theorem components?_iff {texts : List (List Char)} {numbers : List Nat} :
    texts.mapM component? = some numbers ↔ List.Forall₂ Component texts numbers := by
  induction texts generalizing numbers with
  | nil => simp [List.forall₂_nil_left_iff, eq_comm]
  | cons text texts ih =>
    simp only [List.mapM_cons, List.forall₂_cons_left_iff, ← component?_iff, ← ih, bind, pure,
      Option.bind_eq_some_iff, Option.some.injEq, exists_and_left, eq_comm (b := numbers)]

/-- Decomposition of a text into letters `v`, its core, and the rest. -/
theorem exists_core (cs : List Char) : ∃ k rest, cs = List.replicate k 'v' ++ (core cs ++ rest) ∧
    ∀ c ∈ rest.head?, c = '-' ∨ c = '+' := by
  have hletters : ∀ c ∈ cs.takeWhile (· = 'v'), c = 'v' := fun c hc => by
    simpa using List.all_eq_true.mp List.all_takeWhile c hc
  refine ⟨(cs.takeWhile (· = 'v')).length,
    (cs.dropWhile (· = 'v')).dropWhile fun c => c ≠ '-' && c ≠ '+', ?_, fun c hc => ?_⟩
  · rw [core, List.takeWhile_append_dropWhile, ← List.eq_replicate_of_mem hletters,
      List.takeWhile_append_dropWhile]
  · have hstop := List.head?_dropWhile_not (fun c => c ≠ '-' && c ≠ '+') (cs.dropWhile (· = 'v'))
    rw [Option.mem_def.mp hc] at hstop
    simpa [or_iff_not_imp_left] using hstop

/-- The core extends to the end, or to the first hyphen or plus sign. -/
theorem core_append (k : Nat) {body rest : List Char} (hne : body ≠ [])
    (hbody : ∀ c ∈ body, isDigit c = true ∨ c = '.') (hrest : ∀ c ∈ rest.head?, c = '-' ∨ c = '+') :
    core (List.replicate k 'v' ++ (body ++ rest)) = body := by
  -- letters `v`, hyphens and plus signs are neither digits nor points
  have hother {c d : Char} (hc : c ∈ body) (hd : isDigit d = false) (hpoint : d ≠ '.') : c ≠ d := by
    rcases hbody c hc with hdigit | rfl
    · exact ne_of_isDigit hdigit hd
    · exact hpoint.symm
  have hletters : ∀ c ∈ List.replicate k 'v', decide (c = 'v') = true := fun c hc =>
    decide_eq_true (List.eq_of_mem_replicate hc)
  have hdrop : (body ++ rest).dropWhile (· = 'v') = body ++ rest := by
    obtain ⟨c, cs, rfl⟩ := List.exists_cons_of_ne_nil hne
    refine List.dropWhile_cons_of_neg ?_
    simpa using hother List.mem_cons_self rfl (by decide)
  have hplain : ∀ c ∈ body, (c ≠ '-' && c ≠ '+') = true := fun c hc => by
    simpa using ⟨hother hc rfl (by decide), hother hc rfl (by decide)⟩
  have hstop : rest.takeWhile (fun c => c ≠ '-' && c ≠ '+') = [] := by
    cases rest with
    | nil => rfl
    | cons c rest =>
      rcases hrest c rfl with rfl | rfl <;> rfl
  rw [core, List.dropWhile_append_of_pos hletters, hdrop, List.takeWhile_append_of_pos hplain, hstop,
    List.append_nil]

theorem denotes_of_parse? {s : String} {v : Version} (h : parse? s = some v) : Denotes s.toList v := by
  obtain ⟨k, rest, hcs, hrest⟩ := exists_core s.toList
  have hcore : ['.'].intercalate (pieces (core s.toList)) = core s.toList := by
    rw [pieces_eq_splitOn, List.intercalate_splitOn]
  unfold parse? at h
  split at h
  · rename_i a b c hnumbers
    cases h
    generalize pieces (core s.toList) = texts at hnumbers hcore
    -- three numbers, so three pieces
    rcases components?_iff.mp hnumbers with _ | ⟨hmajor, _ | ⟨hminor, _ | ⟨hpatch, _ | _⟩⟩⟩
    rw [hcs, ← hcore]
    simpa [List.intercalate_cons_cons] using Denotes.mk k hmajor hminor hpatch hrest
  · cases h

theorem parse?_of_denotes {s : String} {v : Version} (h : Denotes s.toList v) : parse? s = some v := by
  generalize hcs : s.toList = cs at h
  obtain ⟨k, hmajor, hminor, hpatch, hrest⟩ := h
  rename_i major minor patch rest
  have hcore : core s.toList = major ++ '.' :: (minor ++ '.' :: patch) := by
    rw [hcs]
    refine core_append k (by simp) (fun c hc => ?_) hrest
    simp only [List.mem_append, List.mem_cons] at hc
    rcases hc with hc | rfl | hc | rfl | hc
    · exact .inl (hmajor.isDigit hc)
    · exact .inr rfl
    · exact .inl (hminor.isDigit hc)
    · exact .inr rfl
    · exact .inl (hpatch.isDigit hc)
  have hpieces : pieces (core s.toList) = [major, minor, patch] := by
    have hjoined : core s.toList = ['.'].intercalate [major, minor, patch] := by
      simp [hcore, List.intercalate_cons_cons]
    rw [pieces_eq_splitOn, hjoined]
    refine List.splitOn_intercalate '.' (fun piece hpiece => ?_) nofun
    simp only [List.mem_cons, List.not_mem_nil, or_false] at hpiece
    rcases hpiece with rfl | rfl | rfl
    · exact hmajor.notMem_point
    · exact hminor.notMem_point
    · exact hpatch.notMem_point
  have hnumbers : (pieces (core s.toList)).mapM component? = some [v.major, v.minor, v.patch] := by
    rw [hpieces, components?_iff]
    exact .cons hmajor (.cons hminor (.cons hpatch .nil))
  rw [parse?, hnumbers]

/-- A text parses to the version that it denotes, and fails to parse if it denotes none. -/
theorem parse?_iff {s : String} {v : Version} : parse? s = some v ↔ Denotes s.toList v :=
  ⟨denotes_of_parse?, parse?_of_denotes⟩

/-! ### Writing -/

/-- The pre-release part, with its hyphen. -/
def prereleasePart : Option String → List Char
  | none => []
  | some pre => if pre = "" then [] else '-' :: pre.toList

theorem toList_tagged (v : Version) (prerelease : Option String) :
    (v.tagged prerelease).toList = v.text.toList ++ prereleasePart prerelease := by
  unfold tagged
  split
  · simp [prereleasePart]
  · simp [prereleasePart]
  · rename_i pre hpre
    have hne : pre ≠ "" := fun h => hpre (h ▸ rfl)
    simp [prereleasePart, hne, String.toList_append]

/-- The text of a version parses to it, with any pre-release part. -/
theorem parse?_tagged {v : Version} (h : v.Fits) (prerelease : Option String) :
    parse? (v.tagged prerelease) = some v := by
  have hsaid : ∀ c ∈ (prereleasePart prerelease).head?, c = '-' ∨ c = '+' := by
    intro c hc
    unfold prereleasePart at hc
    split at hc
    · cases hc
    · split_ifs at hc
      · cases hc
      · exact .inl (Option.some.inj hc).symm
  apply parse?_of_denotes
  rw [toList_tagged, text, String.toList_ofList]
  exact Denotes.mk 0 (component_numeral h.major) (component_numeral h.minor) (component_numeral h.patch) hsaid

end Version

end ReleaseDesk.Release
