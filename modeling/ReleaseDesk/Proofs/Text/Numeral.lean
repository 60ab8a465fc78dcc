import Mathlib.Algebra.Group.Nat.Defs
import Mathlib.Tactic.Common
import ReleaseDesk.Text.Scan

/-! Decimal numerals. `numeral n` consists of digits, has the value `n`, and has no leading zero
unless `n` is zero. Appending digits stops where the value would exceed 64 bits. -/

namespace ReleaseDesk.Text

theorem isDigit_eq (c : Char) : isDigit c = c.isDigit := by
  simp only [isDigit, Char.isDigit, Char.toNat, UInt32.le_iff_toNat_le, ge_iff_le]
  rfl

theorem isDigit_iff {c : Char} : isDigit c = true ↔ '0' ≤ c ∧ c ≤ '9' := by
  simp only [isDigit, Bool.and_eq_true, decide_eq_true_eq]
  rfl

theorem isDigit_of_mem_numeral {c : Char} {n : Nat} (h : c ∈ numeral n) : isDigit c = true := by
  rw [isDigit_eq]
  exact Nat.isDigit_of_mem_toDigits (by decide) (by decide) h

theorem ne_of_isDigit {c d : Char} (hc : isDigit c = true) (hd : isDigit d = false) : c ≠ d := by
  rintro rfl
  rw [hc] at hd
  cases hd

theorem isBlank_of_isDigit {c : Char} (h : isDigit c = true) : isBlank c = false := by
  simp only [isDigit, Bool.and_eq_true, decide_eq_true_eq] at h
  simp only [isBlank, inSpans, blankSpans, Span.holds, List.any_cons, List.any_nil, Bool.or_false,
    Bool.or_eq_false_iff, Bool.and_eq_false_iff, decide_eq_false_iff_not]
  omega

theorem numeral_ne_nil (n : Nat) : numeral n ≠ [] := Nat.toDigits_ne_nil

@[simp] theorem numeralValue_numeral (n : Nat) : numeralValue (numeral n) = n :=
  Nat.ofDigitChars_ten_toDigits

theorem numeralValue_cons (c : Char) (cs : List Char) :
    numeralValue (c :: cs) = 10 ^ cs.length * digitValue c + numeralValue cs := by
  have h : Nat.ofDigitChars 10 cs (digitValue c) =
      10 ^ cs.length * digitValue c + Nat.ofDigitChars 10 cs 0 :=
    Nat.ofDigitChars_eq_ofDigitChars_zero
  exact Nat.ofDigitChars_cons.trans ((congrArg _ (Nat.zero_add _)).trans h)

theorem numeralValue_lt {cs : List Char} (h : ∀ c ∈ cs, isDigit c = true) :
    numeralValue cs < 10 ^ cs.length := by
  induction cs with
  | nil => decide
  | cons c cs ih =>
    have hc : digitValue c ≤ 9 := by
      have := h c List.mem_cons_self
      simp only [isDigit, Bool.and_eq_true, decide_eq_true_eq] at this
      simp only [digitValue]
      omega
    have hcs := ih fun d hd => h d (List.mem_cons_of_mem c hd)
    have hm := Nat.mul_le_mul_left (10 ^ cs.length) hc
    rw [numeralValue_cons, List.length_cons, Nat.pow_succ]
    omega

theorem tail_of_numeral_zero {n : Nat} {cs : List Char} (h : numeral n = '0' :: cs) : cs = [] := by
  by_contra hcs
  have hdigits : ∀ c ∈ cs, isDigit c = true := fun c hc =>
    isDigit_of_mem_numeral (n := n) (h ▸ List.mem_cons_of_mem _ hc)
  have hvalue : n = numeralValue cs := by
    rw [← numeralValue_numeral n, h, numeralValue_cons]
    simp [digitValue]
  have hlt : n < 10 ^ cs.length := hvalue ▸ numeralValue_lt hdigits
  have hlength : (numeral n).length ≤ cs.length :=
    (Nat.length_toDigits_le_iff (by decide) (List.length_pos_iff.2 hcs)).2 hlt
  rw [h, List.length_cons] at hlength
  omega

theorem isDigit_of_mem_paddedNumeral {c : Char} {width n : Nat} (h : c ∈ paddedNumeral width n) :
    isDigit c = true := by
  rcases List.mem_append.mp h with h | h
  · rw [List.eq_of_mem_replicate h]
    rfl
  · exact isDigit_of_mem_numeral h

@[simp] theorem numeralValue_paddedNumeral (width n : Nat) :
    numeralValue (paddedNumeral width n) = n := by
  have hzeros (k : Nat) : numeralValue (List.replicate k '0' ++ numeral n) = n := by
    induction k with
    | zero => exact numeralValue_numeral n
    | succ k ih =>
      rw [List.replicate_succ, List.cons_append, numeralValue_cons, ih]
      exact (Nat.zero_add n)
  exact hzeros _

theorem length_paddedNumeral {width n : Nat} (hw : 0 < width) (h : n < 10 ^ width) :
    (paddedNumeral width n).length = width := by
  have hlength : (numeral n).length ≤ width := (Nat.length_toDigits_le_iff (by decide) hw).mpr h
  rw [paddedNumeral, List.length_append, List.length_replicate]
  omega

theorem paddedNumeral_ne_nil (width n : Nat) : paddedNumeral width n ≠ [] :=
  List.append_ne_nil_of_right_ne_nil _ (numeral_ne_nil n)

def startsWithDigit : List Char → Bool
  | [] => false
  | c :: _ => isDigit c

theorem spanDigits_append {ds rest : List Char} (h : ∀ c ∈ ds, isDigit c = true)
    (hr : startsWithDigit rest = false) : spanDigits (ds ++ rest) = (ds, rest) := by
  induction ds with
  | nil =>
    cases rest with
    | nil => rfl
    | cons c rest =>
      have hc : isDigit c = false := hr
      simp [spanDigits, hc]
  | cons d ds ih =>
    have hd := h d List.mem_cons_self
    have hds := ih fun c hc => h c (List.mem_cons_of_mem d hc)
    simp only [spanDigits, Prod.mk.injEq] at hds
    simp [spanDigits, hd, hds]

theorem spanDigits_fst (cs : List Char) : ∀ c ∈ (spanDigits cs).1, isDigit c = true :=
  List.all_eq_true.mp List.all_takeWhile

theorem spanDigits_fst_append_snd (cs : List Char) : (spanDigits cs).1 ++ (spanDigits cs).2 = cs :=
  List.takeWhile_append_dropWhile

/-! ### 64-bit numbers -/

/-- The digits of `kept` fit 64 bits, and no longer fit with the first digit left. -/
def Filled (kept left : List Char) : Prop :=
  numeralValue kept < wordBound ∧ ∀ c ∈ left.head?, wordBound ≤ numeralValue (kept ++ [c])

theorem numeralValue_concat (cs : List Char) (c : Char) :
    numeralValue (cs ++ [c]) = 10 * numeralValue cs + digitValue c := by
  simp [numeralValue]

theorem numeralValue_le_append (cs ds : List Char) : numeralValue cs ≤ numeralValue (cs ++ ds) := by
  induction ds generalizing cs with
  | nil => simp
  | cons d ds ih =>
    have h := ih (cs ++ [d])
    rw [numeralValue_concat, List.append_assoc, List.singleton_append] at h
    omega

theorem appendDigits_of_filled {kept more left : List Char} (h : Filled (kept ++ more) left) :
    appendDigits (numeralValue kept) (more ++ left) = (numeralValue (kept ++ more), left) := by
  induction more generalizing kept with
  | nil =>
    rw [List.append_nil] at h ⊢
    cases left with
    | nil => rfl
    | cons c left =>
      have hfull := h.2 c rfl
      rw [numeralValue_concat] at hfull
      rw [List.nil_append, appendDigits, if_neg (Nat.not_lt.mpr hfull)]
  | cons c more ih =>
    have happend : kept ++ c :: more = kept ++ [c] ++ more := by simp
    rw [happend] at h ⊢
    have hlt := Nat.lt_of_le_of_lt (numeralValue_le_append (kept ++ [c]) more) h.1
    rw [List.cons_append, appendDigits, ← numeralValue_concat, if_pos hlt]
    exact ih h

theorem exists_filled {kept : List Char} (h : numeralValue kept < wordBound) (ds : List Char) :
    ∃ more left, ds = more ++ left ∧ Filled (kept ++ more) left := by
  induction ds generalizing kept with
  | nil => exact ⟨[], [], rfl, by simpa using h, nofun⟩
  | cons c ds ih =>
    by_cases hc : numeralValue (kept ++ [c]) < wordBound
    · obtain ⟨more, left, rfl, hfilled⟩ := ih hc
      exact ⟨c :: more, left, rfl, by simpa using hfilled⟩
    · refine ⟨[], c :: ds, rfl, by simpa using h, ?_⟩
      simpa using Nat.not_lt.mp hc

end ReleaseDesk.Text
