import Mathlib.Algebra.Group.Nat.Defs
import Mathlib.Tactic.Common
import ReleaseDesk.Timestamp

/-! Equality of identifiers. Two identifiers are equal if and only if their numbers agree modulo `2
^ 122`, so that the pattern of equalities in a sequence of draws does not depend on the first
number. -/

namespace ReleaseDesk

def hexDigitValue (c : Char) : Nat := if c.toNat < 0x60 then c.toNat - 0x30 else c.toNat - 0x57

def hexValue (cs : List Char) : Nat := cs.foldl (fun value c => 0x10 * value + hexDigitValue c) 0

theorem hexDigitValue_digitChar {d : Nat} (h : d < 16) : hexDigitValue d.digitChar = d := by
  have key : ∀ d < 16, hexDigitValue d.digitChar = d := by decide
  exact key d h

theorem hexValue_toDigits (n : Nat) : hexValue (Nat.toDigits 16 n) = n := by
  induction n using Nat.strongRecOn with
  | ind n ih =>
    rw [Nat.toDigits_eq_if (by decide)]
    split_ifs with h
    · simp [hexValue, hexDigitValue_digitChar h]
    · have hdiv := ih (n / 16) (by omega)
      have hmod : hexDigitValue (n % 16).digitChar = n % 16 := hexDigitValue_digitChar (by omega)
      rw [hexValue] at hdiv
      rw [hexValue, List.foldl_append, hdiv, List.foldl_cons, List.foldl_nil, hmod]
      omega

theorem hexValue_hexPadded (width n : Nat) : hexValue (hexPadded width n) = n := by
  have hzeros (k : Nat) (cs : List Char) : hexValue (List.replicate k '0' ++ cs) = hexValue cs := by
    induction k with
    | zero => rfl
    | succ k ih => exact ih
  rw [hexPadded, hzeros, hexValue_toDigits]

theorem length_hexPadded {width n : Nat} (hw : 0 < width) (h : n < 16 ^ width) :
    (hexPadded width n).length = width := by
  have hle := (Nat.length_toDigits_le_iff (by decide) hw).mpr h
  simp only [hexPadded, List.length_append, List.length_replicate]
  omega

theorem hexPadded_inj {width n m : Nat} (h : hexPadded width n = hexPadded width m) : n = m := by
  rw [← hexValue_hexPadded width n, h, hexValue_hexPadded]

theorem hexPadded_append_inj {width k n m : Nat} {cs ds : List Char} (hw : 0 < width) (hk : 0 < k)
    (hfits : k ≤ 16 ^ width) (h : hexPadded width (n % k) ++ cs = hexPadded width (m % k) ++ ds) :
    n % k = m % k ∧ cs = ds := by
  have length (x : Nat) : (hexPadded width (x % k)).length = width :=
    length_hexPadded hw (Nat.lt_of_lt_of_le (Nat.mod_lt x hk) hfits)
  obtain ⟨hhex, hrest⟩ := List.append_inj h ((length n).trans (length m).symm)
  exact ⟨hexPadded_inj hhex, hrest⟩

/-- `2 ^ 122`. -/
def identifierCount : Nat := 0x4000000000000000000000000000000

/-- The fields of an identifier. -/
def identifierParts (n : Nat) : List Nat :=
  [n / 0x40000000000000000000000 % 0x100000000, n / 0x4000000000000000000 % 0x10000,
    n / 0x4000000000000000 % 0x1000, n / 0x1000000000000000 % 4, n / 0x1000000000000 % 0x1000,
    n % 0x1000000000000]

theorem identifierParts_eq_iff {n m : Nat} :
    identifierParts n = identifierParts m ↔ n % identifierCount = m % identifierCount := by
  simp only [identifierParts, identifierCount, List.cons.injEq, and_true]
  omega

theorem identifierChars_eq (n : Nat) :
    identifierChars n = hexPadded 8 (n / 0x40000000000000000000000 % 0x100000000) ++
      '-' :: (hexPadded 4 (n / 0x4000000000000000000 % 0x10000) ++
        '-' :: '4' :: (hexPadded 3 (n / 0x4000000000000000 % 0x1000) ++
          '-' :: (hexPadded 1 (8 + n / 0x1000000000000000 % 4) ++
            (hexPadded 3 (n / 0x1000000000000 % 0x1000) ++
              '-' :: hexPadded 12 (n % 0x1000000000000))))) := by
  simp only [identifierChars, Nat.shiftRight_eq_div_pow]

theorem identifierChars_eq_iff {n m : Nat} :
    identifierChars n = identifierChars m ↔ identifierParts n = identifierParts m := by
  rw [identifierChars_eq, identifierChars_eq]
  constructor
  · intro h
    obtain ⟨h₁, h⟩ := hexPadded_append_inj (by decide) (by decide) (by decide) h
    obtain ⟨h₂, h⟩ :=
      hexPadded_append_inj (by decide) (by decide) (by decide) (List.cons.inj h).2
    obtain ⟨h₃, h⟩ := hexPadded_append_inj (by decide) (by decide) (by decide)
      (List.cons.inj (List.cons.inj h).2).2
    obtain ⟨hvariant, h⟩ := List.append_inj (List.cons.inj h).2
      ((length_hexPadded (by decide) (by omega)).trans (length_hexPadded (by decide) (by omega)).symm)
    obtain ⟨h₅, h⟩ := hexPadded_append_inj (by decide) (by decide) (by decide) h
    have h₄ := Nat.add_left_cancel (hexPadded_inj hvariant)
    have h₆ := hexPadded_inj (List.cons.inj h).2
    simp only [identifierParts, h₁, h₂, h₃, h₄, h₅, h₆]
  · intro h
    simp only [identifierParts, List.cons.injEq, and_true] at h
    obtain ⟨h₁, h₂, h₃, h₄, h₅, h₆⟩ := h
    rw [h₁, h₂, h₃, h₄, h₅, h₆]

theorem identifier_eq_iff {n m : Nat} :
    identifier n = identifier m ↔ n % identifierCount = m % identifierCount := by
  rw [identifier, identifier, String.ofList_inj, identifierChars_eq_iff, identifierParts_eq_iff]

theorem identifier_add_eq_iff {n m i j : Nat} :
    identifier (n + i) = identifier (n + j) ↔ identifier (m + i) = identifier (m + j) := by
  simp only [identifier_eq_iff, identifierCount]
  omega

end ReleaseDesk
