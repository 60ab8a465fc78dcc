import Mathlib.Computability.Language
import Mathlib.Tactic.Common
import ReleaseDesk.Proofs.Service.Registry
import ReleaseDesk.Proofs.Text.Numeral

/-! The languages of handler names and resource URIs. Each is given by a regular language and by a
predicate on characters: a handler name consists of segments separated by points, and a URI of a
scheme, `://` and a path. The two validators accept exactly these languages. -/

namespace ReleaseDesk.Service

open Computability ReleaseDesk.Text

/-! ### Characters -/

theorem isNameChar_iff {c : Char} : isNameChar c = true ↔
    ('a' ≤ c ∧ c ≤ 'z') ∨ ('0' ≤ c ∧ c ≤ '9') ∨ c = '_' ∨ c = '-' := by
  simp only [isNameChar, Bool.or_eq_true, Bool.and_eq_true, decide_eq_true_eq, isDigit_iff, or_assoc]

theorem isLetter_iff {c : Char} : isLetter c = true ↔ ('a' ≤ c ∧ c ≤ 'z') ∨ ('A' ≤ c ∧ c ≤ 'Z') := by
  simp only [isLetter, Bool.or_eq_true, Bool.and_eq_true, decide_eq_true_eq]

theorem isSchemeChar_iff {c : Char} : isSchemeChar c = true ↔
    isLetter c = true ∨ ('0' ≤ c ∧ c ≤ '9') ∨ c = '+' ∨ c = '.' ∨ c = '-' := by
  simp only [isSchemeChar, Bool.or_eq_true, decide_eq_true_eq, isDigit_iff, or_assoc]

/-! ### Patterns -/

/-- The words of one character in `p`. -/
def one (p : Char → Bool) : Language Char := {cs | ∃ c, p c = true ∧ cs = [c]}

def exactly (cs : List Char) : Language Char := {cs}

/-- The nonempty words over `p`. -/
def many (p : Char → Bool) : Language Char := one p * (one p)∗

/-- A segment, followed by further segments after points. -/
def namePattern : Language Char := many isNameChar * (exactly ['.'] * many isNameChar)∗

/-- The regular language of resource URIs. -/
def uriPattern : Language Char :=
  one isLetter * ((one isSchemeChar)∗ * (exactly [':', '/', '/'] * many fun c => !isBlank c))

theorem mem_kstar_one {p : Char → Bool} {cs : List Char} : cs ∈ (one p)∗ ↔ ∀ c ∈ cs, p c = true := by
  rw [Language.mem_kstar]
  constructor
  · rintro ⟨words, rfl, hwords⟩ c hc
    obtain ⟨word, hword, hc⟩ := List.mem_flatten.mp hc
    obtain ⟨d, hd, rfl⟩ := hwords word hword
    rwa [List.mem_singleton.mp hc]
  · intro h
    refine ⟨cs.map fun c => [c], (List.flatMap_singleton' cs).symm, fun word hword => ?_⟩
    obtain ⟨c, hc, rfl⟩ := List.mem_map.mp hword
    exact ⟨c, h c hc, rfl⟩

theorem mem_one_mul {p : Char → Bool} {l : Language Char} {cs : List Char} :
    cs ∈ one p * l ↔ ∃ c rest, cs = c :: rest ∧ p c = true ∧ rest ∈ l := by
  rw [Language.mem_mul]
  constructor
  · rintro ⟨_, ⟨c, hc, rfl⟩, rest, hrest, rfl⟩
    exact ⟨c, rest, rfl, hc, hrest⟩
  · rintro ⟨c, rest, rfl, hc, hrest⟩
    exact ⟨[c], ⟨c, hc, rfl⟩, rest, hrest, rfl⟩

theorem mem_many {p : Char → Bool} {cs : List Char} :
    cs ∈ many p ↔ cs ≠ [] ∧ ∀ c ∈ cs, p c = true := by
  simp only [many, mem_one_mul, mem_kstar_one]
  constructor
  · rintro ⟨c, rest, rfl, hc, hrest⟩
    exact ⟨List.cons_ne_nil c rest, List.forall_mem_cons.mpr ⟨hc, hrest⟩⟩
  · rintro ⟨hne, hall⟩
    obtain ⟨c, rest, rfl⟩ := List.exists_cons_of_ne_nil hne
    exact ⟨c, rest, rfl, List.forall_mem_cons.mp hall⟩

theorem mem_exactly_mul {front : List Char} {l : Language Char} {cs : List Char} :
    cs ∈ exactly front * l ↔ ∃ rest, cs = front ++ rest ∧ rest ∈ l := by
  rw [Language.mem_mul]
  constructor
  · rintro ⟨_, rfl, rest, hrest, rfl⟩
    exact ⟨rest, rfl, hrest⟩
  · rintro ⟨rest, rfl, hrest⟩
    exact ⟨front, rfl, rest, hrest, rfl⟩

/-! ### Handler names -/

/-- A nonempty word of segment characters. -/
structure Segment (cs : List Char) : Prop where
  nonempty : cs ≠ []
  plain : ∀ c ∈ cs, ('a' ≤ c ∧ c ≤ 'z') ∨ ('0' ≤ c ∧ c ≤ '9') ∨ c = '_' ∨ c = '-'

theorem segment_iff {cs : List Char} : Segment cs ↔ cs ≠ [] ∧ ∀ c ∈ cs, isNameChar c = true := by
  simp only [isNameChar_iff]
  exact ⟨fun h => ⟨h.nonempty, h.plain⟩, fun h => ⟨h.1, h.2⟩⟩

theorem Segment.notMem_point {cs : List Char} (h : Segment cs) : '.' ∉ cs :=
  fun hc => absurd ((segment_iff.mp h).2 '.' hc) (by decide)

/-- Every piece between points is a segment. -/
def IsHandlerName (cs : List Char) : Prop := ∀ piece ∈ cs.splitOn '.', Segment piece

/-- Splitting gives at least one piece. -/
theorem exists_splitOn (cs : List Char) : ∃ piece rest, cs.splitOn '.' = piece :: rest :=
  List.exists_cons_of_ne_nil (List.splitOn_ne_nil _ _)

theorem splitOn_cons (c : Char) (cs : List Char) : (c :: cs).splitOn '.' =
    if c = '.' then [] :: cs.splitOn '.' else (cs.splitOn '.').modifyHead (List.cons c) := by
  simp only [List.splitOn_eq_splitOnP, List.splitOnP_cons_eq_if_modifyHead, beq_iff_eq]

/-- The validator in the middle of a name: the rest of the current segment, which is nonempty unless
the segment has begun, and the segments after it. -/
theorem isNameFrom_iff {inSegment : Bool} {cs piece : List Char} {rest : List (List Char)}
    (h : cs.splitOn '.' = piece :: rest) : isNameFrom inSegment cs = true ↔
      (inSegment = true ∨ piece ≠ []) ∧ (∀ c ∈ piece, isNameChar c = true) ∧ ∀ s ∈ rest, Segment s := by
  induction cs generalizing inSegment piece rest with
  | nil =>
    cases h
    simp [isNameFrom]
  | cons c cs ih =>
    obtain ⟨next, others, hcs⟩ := exists_splitOn cs
    rw [splitOn_cons, hcs] at h
    rw [isNameFrom]
    -- a point ends the piece, and every other character extends it
    split_ifs at h ⊢ with hc
    · cases h
      rw [Bool.and_eq_true, ih hcs, List.forall_mem_cons, segment_iff]
      simp [and_assoc]
    · cases h
      rw [Bool.and_eq_true, ih hcs]
      simp [and_assoc]

theorem isName_iff {s : String} :
    isName s = true ↔ s.utf8ByteSize ≤ 128 ∧ IsHandlerName s.toList := by
  obtain ⟨piece, rest, h⟩ := exists_splitOn s.toList
  rw [isName, Bool.and_eq_true, decide_eq_true_eq, isNameFrom_iff h, IsHandlerName, h,
    List.forall_mem_cons, segment_iff]
  simp [nameBound, and_assoc]

theorem intercalate_point (piece : List Char) (rest : List (List Char)) :
    ['.'].intercalate (piece :: rest) = piece ++ (rest.map (List.cons '.')).flatten := by
  induction rest generalizing piece with
  | nil => simp
  | cons next rest ih =>
    rw [List.intercalate_cons_cons, ih, List.map_cons, List.flatten_cons]
    simp

/-- Words that consist of a point and a segment come from a list of segments. -/
theorem exists_behind_points {words : List (List Char)}
    (h : ∀ word ∈ words, word ∈ exactly ['.'] * many isNameChar) :
    ∃ rest : List (List Char), words = rest.map (List.cons '.') ∧ ∀ s ∈ rest, Segment s := by
  induction words with
  | nil => exact ⟨[], rfl, nofun⟩
  | cons word words ih =>
    obtain ⟨hword, hwords⟩ := List.forall_mem_cons.mp h
    obtain ⟨s, rfl, hs⟩ := mem_exactly_mul.mp hword
    obtain ⟨rest, rfl, hrest⟩ := ih hwords
    exact ⟨s :: rest, rfl, List.forall_mem_cons.mpr ⟨segment_iff.mpr (mem_many.mp hs), hrest⟩⟩

theorem mem_namePattern {cs : List Char} : cs ∈ namePattern ↔ IsHandlerName cs := by
  rw [namePattern, Language.mem_mul, IsHandlerName]
  constructor
  · rintro ⟨piece, hpiece, _, hfurther, rfl⟩
    obtain ⟨words, rfl, hwords⟩ := Language.mem_kstar.mp hfurther
    obtain ⟨rest, rfl, hrest⟩ := exists_behind_points hwords
    have hall : ∀ s ∈ piece :: rest, Segment s :=
      List.forall_mem_cons.mpr ⟨segment_iff.mpr (mem_many.mp hpiece), hrest⟩
    rwa [← intercalate_point, List.splitOn_intercalate '.' (fun s hs => (hall s hs).notMem_point)
      (List.cons_ne_nil piece rest)]
  · intro h
    obtain ⟨piece, rest, hcs⟩ := exists_splitOn cs
    rw [hcs, List.forall_mem_cons] at h
    refine ⟨piece, mem_many.mpr (segment_iff.mp h.1), _,
      Language.join_mem_kstar (fun word hword => ?_), (intercalate_point piece rest).symm.trans ?_⟩
    · obtain ⟨s, hs, rfl⟩ := List.mem_map.mp hword
      exact mem_exactly_mul.mpr ⟨s, rfl, mem_many.mpr (segment_iff.mp (h.2 s hs))⟩
    · rw [← hcs, List.intercalate_splitOn]

/-- A handler name consists of points and segment characters. -/
theorem IsHandlerName.mem {cs : List Char} (h : IsHandlerName cs) {c : Char} (hc : c ∈ cs) :
    c = '.' ∨ isNameChar c = true := by
  obtain ⟨piece, rest, hcs⟩ := exists_splitOn cs
  rw [IsHandlerName, hcs] at h
  have hjoined : cs = piece ++ (rest.map (List.cons '.')).flatten := by
    rw [← intercalate_point, ← hcs, List.intercalate_splitOn]
  rw [hjoined, List.mem_append, List.mem_flatten] at hc
  rcases hc with hc | ⟨word, hword, hc⟩
  · exact .inr ((segment_iff.mp (h piece List.mem_cons_self)).2 c hc)
  · obtain ⟨s, hs, rfl⟩ := List.mem_map.mp hword
    rcases List.mem_cons.mp hc with rfl | hc
    · exact .inl rfl
    · exact .inr ((segment_iff.mp (h s (List.mem_cons_of_mem piece hs))).2 c hc)

/-! ### Resource URIs -/

/-- A letter, followed by letters, digits, plus signs, points and hyphens. -/
inductive Scheme : List Char → Prop
  | mk (c : Char) (rest : List Char) (letter : ('a' ≤ c ∧ c ≤ 'z') ∨ ('A' ≤ c ∧ c ≤ 'Z'))
    (plain : ∀ d ∈ rest, ('a' ≤ d ∧ d ≤ 'z') ∨ ('A' ≤ d ∧ d ≤ 'Z') ∨ ('0' ≤ d ∧ d ≤ '9') ∨
      d = '+' ∨ d = '.' ∨ d = '-') : Scheme (c :: rest)

theorem scheme_iff {cs : List Char} : Scheme cs ↔
    ∃ c rest, cs = c :: rest ∧ isLetter c = true ∧ ∀ d ∈ rest, isSchemeChar d = true := by
  simp only [isLetter_iff, isSchemeChar_iff, or_assoc]
  constructor
  · rintro ⟨c, rest, letter, plain⟩
    exact ⟨c, rest, rfl, letter, plain⟩
  · rintro ⟨c, rest, rfl, letter, plain⟩
    exact ⟨c, rest, letter, plain⟩

/-- A scheme, `://` and a nonempty path without white space. -/
def IsResourceName (cs : List Char) : Prop :=
  ∃ scheme path, cs = scheme ++ ':' :: '/' :: '/' :: path ∧ Scheme scheme ∧ path ≠ [] ∧
    ∀ c ∈ path, isBlank c = false

theorem isPathPart_iff {cs : List Char} : isPathPart cs = true ↔
    ∃ path, cs = ':' :: '/' :: '/' :: path ∧ path ≠ [] ∧ ∀ c ∈ path, isBlank c = false := by
  unfold isPathPart
  split
  · simp
  · rename_i hother
    refine iff_of_false nofun ?_
    rintro ⟨path, rfl, -⟩
    exact hother path rfl

/-- A scheme extends to the first `://`. -/
theorem dropWhile_scheme {front : List Char} (h : ∀ c ∈ front, isSchemeChar c = true) (path : List Char) :
    (front ++ ':' :: path).dropWhile isSchemeChar = ':' :: path := by
  rw [List.dropWhile_append_of_pos h]
  rfl

theorem isUri_iff {s : String} : isUri s = true ↔ IsResourceName s.toList := by
  unfold isUri
  cases hs : s.toList with
  | nil =>
    refine iff_of_false nofun ?_
    rintro ⟨scheme, path, h, -⟩
    simp at h
  | cons c rest =>
    rw [Bool.and_eq_true, isPathPart_iff]
    constructor
    · rintro ⟨hc, path, hpath, hne, hblank⟩
      refine ⟨c :: rest.takeWhile isSchemeChar, path, ?_, scheme_iff.mpr ⟨c, _, rfl, hc, ?_⟩, hne, hblank⟩
      · rw [← hpath, List.cons_append, List.takeWhile_append_dropWhile]
      · exact List.all_eq_true.mp List.all_takeWhile
    · rintro ⟨scheme, path, hcs, hscheme, hne, hblank⟩
      obtain ⟨first, front, rfl, hfirst, hfront⟩ := scheme_iff.mp hscheme
      obtain ⟨rfl, rfl⟩ := List.cons.inj hcs
      exact ⟨hfirst, path, dropWhile_scheme hfront _, hne, hblank⟩

/-- A resource URI does not end in white space. -/
theorem IsResourceName.isBlank_last {cs : List Char} {c : Char} (h : IsResourceName (cs ++ [c])) :
    isBlank c = false := by
  obtain ⟨scheme, path, hcs, -, hne, hblank⟩ := h
  obtain ⟨front, last, rfl⟩ := (List.eq_nil_or_concat path).resolve_left hne
  rw [List.concat_eq_append] at hcs hblank
  have hends : scheme ++ ':' :: '/' :: '/' :: (front ++ [last]) =
      (scheme ++ ':' :: '/' :: '/' :: front) ++ [last] := by simp
  obtain ⟨-, hlast⟩ := List.append_inj' (hcs.trans hends) rfl
  cases hlast
  exact hblank c (by simp)

theorem mem_uriPattern {cs : List Char} : cs ∈ uriPattern ↔ IsResourceName cs := by
  rw [uriPattern, mem_one_mul]
  constructor
  · rintro ⟨c, _, rfl, hc, hrest⟩
    obtain ⟨front, hfront, _, hpart, rfl⟩ := Language.mem_mul.mp hrest
    obtain ⟨path, rfl, hpath⟩ := mem_exactly_mul.mp hpart
    obtain ⟨hne, hpath⟩ := mem_many.mp hpath
    refine ⟨c :: front, path, rfl, scheme_iff.mpr ⟨c, front, rfl, hc, mem_kstar_one.mp hfront⟩, hne, ?_⟩
    simpa using hpath
  · rintro ⟨scheme, path, rfl, hscheme, hne, hpath⟩
    obtain ⟨c, front, rfl, hc, hfront⟩ := scheme_iff.mp hscheme
    have hmany : path ∈ many fun c => !isBlank c := mem_many.mpr ⟨hne, by simpa using hpath⟩
    exact ⟨c, _, rfl, hc, Language.append_mem_mul (mem_kstar_one.mpr hfront)
      (mem_exactly_mul.mpr ⟨path, rfl, hmany⟩)⟩

/-! ### Validators -/

/-- A string is accepted as a handler name if and only if it has at most 128 bytes and its pieces
between points are segments, that is, it is in the language of names; and as a resource URI if and
only if it is a scheme, `://` and a path without white space, that is, it is in the language of
URIs. In particular, no accepted string ends in a line feed. -/
theorem accepted_by_grammar (s : String) :
    (∀ kind, checkName kind s = .ok () ↔ s.utf8ByteSize ≤ 128 ∧ IsHandlerName s.toList) ∧
    (IsHandlerName s.toList ↔ s.toList ∈ namePattern) ∧
    (checkUri s = .ok () ↔ IsResourceName s.toList) ∧
    (IsResourceName s.toList ↔ s.toList ∈ uriPattern) ∧
    (∀ kind, checkName kind (s ++ "\n") ≠ .ok ()) ∧ checkUri (s ++ "\n") ≠ .ok () := by
  have hfeed : (s ++ "\n").toList = s.toList ++ ['\n'] := String.toList_append
  refine ⟨fun kind => checkName_iff.trans isName_iff, mem_namePattern.symm, checkUri_iff.trans isUri_iff,
    mem_uriPattern.symm, fun kind h => ?_, fun h => ?_⟩
  · have hname := (isName_iff.mp (checkName_iff.mp h)).2
    have hplain := hname.mem (c := '\n') (by simp [hfeed])
    exact absurd hplain (by decide)
  · have huri := isUri_iff.mp (checkUri_iff.mp h)
    rw [hfeed] at huri
    exact absurd huri.isBlank_last (by decide)

end ReleaseDesk.Service
