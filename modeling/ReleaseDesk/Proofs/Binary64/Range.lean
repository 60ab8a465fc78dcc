import Mathlib.Tactic.Ring
import ReleaseDesk.Binary64
import ReleaseDesk.Proofs.Text.Numeral

/-! The range of the finite doubles. A quotient rounds to a finite double if and only if it is below
the midpoint of the greatest double and the next power of two; the midpoint itself is rounded up, to
even. The reading of a decimal is finite if and only if the product of its rounded digits and its
rounded power of ten is below that midpoint. -/

namespace ReleaseDesk.Binary64

open ReleaseDesk.Text

/-- The midpoint of the greatest double and `2 ^ 1024`. -/
def limit : Nat := 2 ^ 1024 - 2 ^ 970

theorem limit_units (den : Nat) :
    limit * one * den = (2 * (2 ^ 53 - 1) + 1) * den <<< 2044 := by
  have hone : limit * one = (2 * (2 ^ 53 - 1) + 1) * 2 ^ 2044 := by decide +kernel
  rw [hone, Nat.shiftLeft_eq, Nat.mul_assoc, Nat.mul_comm den]

/-! ### Rounding -/

/-- Rounding to at most an odd number, in terms of the midpoint above it. -/
theorem roundHalfEven_le_iff (num k : Nat) {den : Nat} (hden : 0 < den) (hk : k % 2 = 1) :
    roundHalfEven num den ≤ k ↔ 2 * num < (2 * k + 1) * den := by
  have hnum : num = den * (num / den) + num % den := (Nat.div_add_mod num den).symm
  have hmod : num % den < den := Nat.mod_lt num hden
  simp only [roundHalfEven]
  generalize num / den = q at hnum
  generalize num % den = r at hnum hmod
  have hsplit : (2 * k + 1) * den = 2 * (den * k) + den := by ring
  rw [hnum, hsplit]
  rcases Nat.lt_trichotomy q k with hq | rfl | hq
  · have hle : den * (q + 1) ≤ den * k := Nat.mul_le_mul_left den hq
    rw [Nat.mul_succ] at hle
    split_ifs <;> omega
  · split_ifs <;> omega
  · have hle : den * (k + 1) ≤ den * q := Nat.mul_le_mul_left den hq
    rw [Nat.mul_succ] at hle
    split_ifs <;> omega

theorem le_roundHalfEven (num den : Nat) : num / den ≤ roundHalfEven num den := by
  simp only [roundHalfEven]
  split_ifs <;> omega

theorem roundHalfEven_le (num den : Nat) : roundHalfEven num den ≤ num / den + 1 := by
  simp only [roundHalfEven]
  split_ifs <;> omega

theorem lt_two_pow_of_log2_lt {q k : Nat} (h : q.log2 < k) : q < 2 ^ k :=
  Nat.lt_of_lt_of_le Nat.lt_log2_self (Nat.pow_le_pow_right (by decide) h)

theorem two_pow_le_of_le_log2 {q k : Nat} (hk : 0 < k) (h : k ≤ q.log2) : 2 ^ k ≤ q := by
  have hq : q ≠ 0 := by
    rintro rfl
    exact absurd (Nat.lt_of_lt_of_le hk h) (by decide)
  exact Nat.le_trans (Nat.pow_le_pow_right (by decide) h) (Nat.log2_self_le hq)

theorem div_scale_lt (q : Nat) : q / 2 ^ (q.log2 - 52) < 2 ^ 53 := by
  rw [Nat.div_lt_iff_lt_mul (Nat.two_pow_pos _), ← Nat.pow_add]
  exact lt_two_pow_of_log2_lt (by omega)

theorem le_div_scale {q : Nat} (h : 52 ≤ q.log2) : 2 ^ 52 ≤ q / 2 ^ (q.log2 - 52) := by
  rw [Nat.le_div_iff_mul_le (Nat.two_pow_pos _), ← Nat.pow_add, Nat.add_sub_cancel' h]
  exact two_pow_le_of_le_log2 (Nat.lt_of_lt_of_le (by decide) h) (Nat.le_refl _)

section Limit

variable {num den : Nat}

theorem nearestUnits_eq (num den : Nat) : nearestUnits num den =
    ((num / den).log2 - 52) * binade + roundHalfEven num (den <<< ((num / den).log2 - 52)) := rfl

theorem div_shiftLeft (num den s : Nat) : num / (den <<< s) = num / den / 2 ^ s := by
  rw [Nat.shiftLeft_eq, Nat.div_div_eq_div_mul]

theorem shiftLeft_pos (hden : 0 < den) (s : Nat) : 0 < den <<< s := by
  rw [Nat.shiftLeft_eq]
  exact Nat.mul_pos hden (Nat.two_pow_pos s)

theorem nearestUnits_lt_of_log2_lt (h : (num / den).log2 < 2097) :
    nearestUnits num den < rankBound := by
  have hround := roundHalfEven_le num (den <<< ((num / den).log2 - 52))
  have hm := div_scale_lt (num / den)
  have hs : ((num / den).log2 - 52) * binade ≤ 2044 * binade := Nat.mul_le_mul_right _ (by omega)
  rw [div_shiftLeft] at hround
  rw [nearestUnits_eq, rankBound]
  simp only [binade] at hs ⊢
  omega

theorem rankBound_le_of_lt_log2 (h : 2097 < (num / den).log2) :
    rankBound ≤ nearestUnits num den := by
  have hround := le_roundHalfEven num (den <<< ((num / den).log2 - 52))
  have hm := le_div_scale (q := num / den) (by omega)
  have hs : 2046 * binade ≤ ((num / den).log2 - 52) * binade := Nat.mul_le_mul_right _ (by omega)
  rw [div_shiftLeft] at hround
  rw [nearestUnits_eq, rankBound]
  simp only [binade] at hs ⊢
  omega

theorem nearestUnits_lt_iff_of_log2_eq (hden : 0 < den) (h : (num / den).log2 = 2097) :
    nearestUnits num den < rankBound ↔ num < limit * one * den := by
  have hspacing : den <<< (2097 - 52) = 2 * den <<< 2044 := by
    rw [← Nat.shiftLeft_succ]
  have hpos : 0 < 2 * den <<< 2044 := Nat.mul_pos (by decide) (shiftLeft_pos hden 2044)
  have hround := roundHalfEven_le_iff num (2 ^ 53 - 1) hpos (by decide)
  rw [Nat.mul_left_comm, ← limit_units] at hround
  rw [nearestUnits_eq, h, hspacing, rankBound]
  generalize roundHalfEven num (2 * den <<< 2044) = m at hround ⊢
  generalize limit * one * den = top at hround ⊢
  simp only [binade]
  omega

/-- A quotient rounds to a finite rank if and only if it is below the limit. -/
theorem nearestUnits_lt_iff (hden : 0 < den) :
    nearestUnits num den < rankBound ↔ num < limit * one * den := by
  rcases Nat.lt_trichotomy (num / den).log2 2097 with hlog | hlog | hlog
  · have hq : num / den < 2 ^ 2097 := lt_two_pow_of_log2_lt hlog
    have hlimit : 2 ^ 2097 ≤ limit * one := by decide +kernel
    exact iff_of_true (nearestUnits_lt_of_log2_lt hlog)
      (Nat.lt_of_lt_of_le ((Nat.div_lt_iff_lt_mul hden).mp hq) (Nat.mul_le_mul_right den hlimit))
  · exact nearestUnits_lt_iff_of_log2_eq hden hlog
  · have hq : 2 ^ 2098 ≤ num / den := two_pow_le_of_le_log2 (by decide) hlog
    have hlimit : limit * one ≤ 2 ^ 2098 := by decide +kernel
    exact iff_of_false (Nat.not_lt.mpr (rankBound_le_of_lt_log2 hlog)) (Nat.not_lt.mpr
      (Nat.le_trans (Nat.mul_le_mul_right den hlimit) ((Nat.le_div_iff_mul_le hden).mp hq)))

end Limit

/-! ### Finite ranks -/

theorem shiftLeft_le {m n s t : Nat} (h : m ≤ n) (hs : s ≤ t) : m <<< s ≤ n <<< t := by
  rw [Nat.shiftLeft_eq, Nat.shiftLeft_eq]
  exact Nat.mul_le_mul h (Nat.pow_le_pow_right (by decide) hs)

theorem significand_le (rank : Nat) : significand rank ≤ 2 * binade - 1 := by
  unfold significand
  split
  · omega
  · have := Nat.mod_lt rank (show 0 < binade by decide)
    omega

theorem units_lt {rank : Nat} (h : rank < rankBound) : units rank < limit * one := by
  have hlimit : (2 * binade - 1) <<< 2045 < limit * one := by decide +kernel
  have hs : scale rank ≤ 2045 := by
    simp only [scale, rankBound, binade] at h ⊢
    omega
  exact Nat.lt_of_le_of_lt (shiftLeft_le (significand_le rank) hs) hlimit

theorem divRank_lt {a b : Nat} (ha : a < rankBound) (hb : one ≤ units b) :
    divRank a b < rankBound := by
  have hone : 0 < one := by decide +kernel
  rw [divRank, nearestUnits_lt_iff (Nat.lt_of_lt_of_le hone hb)]
  calc units a * one < limit * one * one := Nat.mul_lt_mul_of_pos_right (units_lt ha) hone
    _ ≤ limit * one * units b := Nat.mul_le_mul_left _ hb

theorem mulRank_lt_iff (a b : Nat) :
    mulRank a b < rankBound ↔ units a * units b < limit * one * one :=
  nearestUnits_lt_iff (by decide +kernel)

theorem nearest_lt {n : Nat} (h : n < wordBound) : nearest n 1 < rankBound := by
  have hone : 0 < one := by decide +kernel
  have hlimit : wordBound ≤ limit := by decide +kernel
  rw [nearest, nearestUnits_lt_iff Nat.one_pos, Nat.mul_one]
  exact Nat.mul_lt_mul_of_pos_right (Nat.lt_of_lt_of_le h hlimit) hone

theorem one_le_units {rank : Nat} (h : 1023 * binade ≤ rank) : one ≤ units rank := by
  have hone : one = binade <<< 1022 := by decide +kernel
  have hs : 1022 ≤ scale rank := by
    simp only [scale, binade] at h ⊢
    omega
  have hm : binade ≤ significand rank := by
    rw [significand, if_neg (by omega)]
    exact Nat.le_add_right binade _
  rw [hone]
  exact shiftLeft_le hm hs

theorem one_le_units_nearest {n : Nat} (h : 0 < n) : one ≤ units (nearest n 1) := by
  have hlog : 1074 ≤ (n * one / 1).log2 := by
    have hone : 2 ^ 1074 = one := by decide +kernel
    have hle : one ≤ n * one := Nat.le_mul_of_pos_left one h
    by_contra hlt
    have := lt_two_pow_of_log2_lt (Nat.not_le.mp hlt)
    rw [Nat.div_one, hone] at this
    exact absurd hle (Nat.not_le.mpr this)
  have hround := le_roundHalfEven (n * one) (1 <<< ((n * one / 1).log2 - 52))
  have hm := le_div_scale (q := n * one / 1) (by omega)
  have hs : 1022 * binade ≤ ((n * one / 1).log2 - 52) * binade := Nat.mul_le_mul_right _ (by omega)
  rw [div_shiftLeft] at hround
  refine one_le_units ?_
  rw [nearest, nearestUnits_eq]
  simp only [binade] at hs ⊢
  omega

theorem one_le_units_tenPower (k : Nat) : one ≤ units (tenPower k) :=
  one_le_units_nearest (Nat.pow_pos (by decide))

theorem lower_lt {n rank : Nat} (h : rank < rankBound) : lower n rank < rankBound := by
  induction n generalizing rank with
  | zero => exact h
  | succ n ih =>
    rw [lower]
    split_ifs
    · decide
    · exact ih (divRank_lt h (one_le_units_tenPower maxPower))

theorem scaleDown_lt {rank : Nat} (h : rank < rankBound) (k : Nat) : scaleDown rank k < rankBound :=
  divRank_lt (lower_lt h) (one_le_units_tenPower _)

/-! ### Decimals -/

/-- The decimal is at most the greatest double. -/
def Decimal.LeGreatest (d : Decimal) : Prop := d.num * one ≤ units (rankBound - 1) * d.den

instance (d : Decimal) : Decidable d.LeGreatest :=
  inferInstanceAs (Decidable (d.num * one ≤ units (rankBound - 1) * d.den))

/-- The digits as a double, times the power of ten, are below the limit. A division does not
overflow. -/
def Decimal.InRange (d : Decimal) : Prop :=
  d.digits = 0 ∨ d.exponent < 0 ∨ d.exponent ≤ maxPower ∧
    units (nearest d.digits 1) * units (tenPower d.exponent.toNat) < limit * one * one

/-- The reading of a decimal in range. -/
def Decimal.double (d : Decimal) (negative : Bool) : Binary64 := (ofDecimal? negative d).getD zero

theorem ofRank?_isSome (negative : Bool) (rank : Nat) :
    (ofRank? negative rank).isSome = true ↔ rank < rankBound := by
  unfold ofRank?
  split_ifs with h <;> simp [h]

theorem ofDecimal?_isSome (negative : Bool) {d : Decimal} (h : d.digits < wordBound) :
    (ofDecimal? negative d).isSome = true ↔ d.InRange := by
  obtain ⟨digits, exponent⟩ := d
  unfold ofDecimal? Decimal.InRange
  by_cases hd : digits = 0
  · simp [hd]
  rw [if_neg hd, or_iff_right hd]
  cases exponent with
  | negSucc k =>
    exact iff_of_true ((ofRank?_isSome negative _).mpr (scaleDown_lt (nearest_lt h) k))
      (.inl (Int.negSucc_lt_zero k))
  | ofNat k =>
    simp only [Int.ofNat_eq_natCast, Int.toNat_natCast, Int.ofNat_le]
    rw [or_iff_right (Int.not_lt.mpr (Int.natCast_nonneg k))]
    split_ifs with hk
    · rw [ofRank?_isSome, mulRank_lt_iff, and_iff_right hk]
    · simp [hk]

theorem ofDecimal?_eq_some_iff {negative : Bool} {d : Decimal} (h : d.digits < wordBound)
    {x : Binary64} : ofDecimal? negative d = some x ↔ d.InRange ∧ x = d.double negative := by
  rw [← ofDecimal?_isSome negative h, Decimal.double]
  cases ofDecimal? negative d with
  | none => simp
  | some y => simp [eq_comm]

/-- The greatest double in seventeen digits is read as it is. With two more digits its significand is
rounded up, and so is the product. -/
example : ofDecimal? false ⟨17976931348623157, 292⟩ = some ⟨false, rankBound - 1, by decide⟩ ∧
    ofDecimal? false ⟨1797693134862315700, 290⟩ = none := by decide +kernel

end ReleaseDesk.Binary64
