import ReleaseDesk.Json.Reader
import ReleaseDesk.Json.Printer
import ReleaseDesk.Proofs.Text.Numeral

/-! Number literals, and the text of numbers. A literal ends before any character other than a
digit, a point and the mark of an exponent. A 64-bit integer reads back. -/

namespace ReleaseDesk.Json

open ReleaseDesk.Text

/-- The text continues a number literal before it. -/
def goesOn : List Char → Bool
  | [] => false
  | c :: _ => isDigit c || c = '.' || c = 'e' || c = 'E'

theorem startsWithDigit_of_goesOn {cs : List Char} (h : goesOn cs = false) :
    startsWithDigit cs = false := by
  cases cs with
  | nil => rfl
  | cons c cs =>
    simp only [goesOn, Bool.or_eq_false_iff] at h
    exact h.1.1.1

/-- Splits off the sign of an exponent. -/
def exponentSign : List Char → Bool × List Char
  | '-' :: cs => (true, cs)
  | '+' :: cs => (false, cs)
  | cs => (false, cs)

theorem power?_cons (c : Char) (cs : List Char) :
    power? (c :: cs) = if c = 'e' || c = 'E' then
      (match spanDigits (exponentSign cs).2 with
      | ([], _) => none
      | (ds, rest) =>
        let n : Int := numeralValue ds
        some (some (if (exponentSign cs).1 then -n else n), rest))
    else some (none, c :: cs) := rfl

/-- Splits off the sign of a number. -/
def literalSign : List Char → Bool × List Char
  | '-' :: cs => (true, cs)
  | cs => (false, cs)

theorem literal?_eq (cs : List Char) : literal? cs = (do
    let (ds, cs₁) ← wholeDigits? (literalSign cs).2
    let (fs, cs₂) ← fraction? cs₁
    let (power, cs₃) ← power? cs₂
    pure (⟨(literalSign cs).1, ds, fs, power⟩, cs₃)) := rfl

/-! ### Printed numbers -/

def isNumeric (c : Char) : Bool := isDigit c || c = '.' || c = 'e' || c = '+' || c = '-'

theorem isNumeric_of_isDigit {c : Char} (h : isDigit c = true) : isNumeric c = true := by
  simp [isNumeric, h]

theorem isNumeric_of_mem_numeral {n : Nat} : ∀ c ∈ numeral n, isNumeric c = true :=
  fun _ hc => isNumeric_of_isDigit (isDigit_of_mem_numeral hc)

theorem isNumeric_of_mem_intNumeral {i : Int} : ∀ c ∈ intNumeral i, isNumeric c = true := by
  unfold intNumeral
  split_ifs
  · exact List.forall_mem_cons.mpr ⟨rfl, isNumeric_of_mem_numeral⟩
  · exact isNumeric_of_mem_numeral

theorem isNumeric_of_mem_layout (d : Binary64.Decimal) : ∀ c ∈ d.layout, isNumeric c = true := by
  have hds : ∀ c ∈ numeral d.digits, isNumeric c = true := isNumeric_of_mem_numeral
  have hz (n : Nat) : ∀ c ∈ List.replicate n '0', isNumeric c = true := by
    intro c hc
    rw [(List.mem_replicate.mp hc).2]
    rfl
  unfold Binary64.Decimal.layout
  generalize numeral d.digits = ds at hds
  dsimp only
  split_ifs
  · simp only [List.forall_mem_append]
    exact ⟨⟨hds, hz _⟩, List.all_eq_true.mp rfl⟩
  · simp only [List.forall_mem_append]
    exact ⟨⟨fun c hc => hds c (List.mem_of_mem_take hc), List.all_eq_true.mp rfl⟩,
      fun c hc => hds c (List.mem_of_mem_drop hc)⟩
  · simp only [List.forall_mem_append]
    exact ⟨⟨List.all_eq_true.mp rfl, hz _⟩, hds⟩
  all_goals
    simp only [List.forall_mem_append]
    refine ⟨⟨⟨?_, List.all_eq_true.mp rfl⟩, List.all_eq_true.mp rfl⟩, isNumeric_of_mem_numeral⟩
    cases ds with
    | nil => exact List.forall_mem_nil _
    | cons d ds =>
      cases ds with
      | nil => exact hds
      | cons e ds =>
        obtain ⟨hd, hds⟩ := List.forall_mem_cons.mp hds
        exact List.forall_mem_cons.mpr ⟨hd, List.forall_mem_cons.mpr ⟨rfl, hds⟩⟩

theorem isNumeric_of_mem_numberChars (n : Number) : ∀ c ∈ numberChars n, isNumeric c = true := by
  cases n with
  | integer i => exact isNumeric_of_mem_intNumeral
  | real x =>
    have hm : ∀ c ∈ (if x.rank = 0 then ['0', '.', '0'] else (Binary64.shortest x.rank).layout),
        isNumeric c = true := by
      split_ifs
      · exact List.all_eq_true.mp rfl
      · exact isNumeric_of_mem_layout _
    unfold numberChars Binary64.chars
    dsimp only
    split
    · exact List.forall_mem_cons.mpr ⟨rfl, hm⟩
    · exact hm

/-- Parsing the text of a number returns the number. -/
def ReadsBack (n : Number) : Prop := parse? (Json.number n).render = some (.number n)

theorem ne_of_isNumeric {c d : Char} (h : isNumeric c = true) (hd : isNumeric d = false) : c ≠ d := by
  rintro rfl
  rw [h] at hd
  cases hd

theorem isSpace_of_isNumeric {c : Char} (h : isNumeric c = true) : isSpace c = false := by
  have other {d : Char} (hd : isNumeric d = false) : c ≠ d := ne_of_isNumeric h hd
  simp [isSpace, other (d := ' ') rfl, other (d := '\n') rfl, other (d := '\t') rfl,
    other (d := '\r') rfl]

theorem skipSpace_cons {c : Char} (h : isSpace c = false) (cs : List Char) :
    skipSpace (c :: cs) = c :: cs := by
  simp [skipSpace, h]

theorem value_of_numeric {c : Char} (h : isNumeric c = true) (fuel depth : Nat) (cs : List Char) :
    value (fuel + 1) depth (c :: cs) = match literal? (c :: cs) with
      | some (l, rest) =>
        match l.number? with
        | some n => (.number n, some rest)
        | none => (.unreadable, some rest)
      | none => (.broken, none) := by
  have other {d : Char} (hd : isNumeric d = false) : c ≠ d := ne_of_isNumeric h hd
  rw [value, skipSpace_cons (isSpace_of_isNumeric h)]
  cases hl : literal? (c :: cs) with
  | none =>
    simp [hl, other (d := 'n') rfl, other (d := 't') rfl, other (d := 'f') rfl,
      other (d := '"') rfl, other (d := '[') rfl, other (d := '{') rfl]
  | some p =>
    cases hn : p.1.number? <;>
      simp [hl, hn, other (d := 'n') rfl, other (d := 't') rfl, other (d := 'f') rfl,
        other (d := '"') rfl, other (d := '[') rfl, other (d := '{') rfl]

theorem parse?_eq_some {s : String} {v : Json} (h : parse? s = some v) :
    ∃ d, draft s.toList = (d, true) ∧ d.value? = some v := by
  unfold parse? at h
  generalize draft s.toList = p at h
  obtain ⟨d, complete⟩ := p
  cases complete with
  | false => cases h
  | true => exact ⟨d, rfl, h⟩

theorem wholeDigits?_numeral (n : Nat) : wholeDigits? (numeral n) = some (numeral n, []) := by
  have hs : spanDigits (numeral n ++ []) = (numeral n, []) :=
    spanDigits_append (fun c hc => isDigit_of_mem_numeral hc) rfl
  rw [List.append_nil] at hs
  unfold wholeDigits?
  rw [hs]
  split
  next heq => exact absurd (Prod.mk.inj heq).1 (numeral_ne_nil n)
  next heq => exact absurd (tail_of_numeral_zero (Prod.mk.inj heq).1) (List.cons_ne_nil _ _)
  next heq => rw [heq]

theorem literalSign_numeral (n : Nat) : literalSign (numeral n) = (false, numeral n) := by
  unfold literalSign
  split
  next heq =>
    have hd : isDigit '-' = true := isDigit_of_mem_numeral (n := n) (heq ▸ List.mem_cons_self)
    cases hd
  next => rfl

theorem literal?_intNumeral (i : Int) : literal? (intNumeral i) =
    some (⟨decide (i < 0), numeral i.natAbs, [], none⟩, []) := by
  have hsign : literalSign (intNumeral i) = (decide (i < 0), numeral i.natAbs) := by
    unfold intNumeral
    split_ifs with hi
    · simp [literalSign, hi]
    · simp [literalSign_numeral, hi]
  rw [literal?_eq, hsign]
  simp only [wholeDigits?_numeral, Option.bind_eq_bind, Option.bind_some, fraction?, power?]
  rfl

theorem Literal.number?_integer {i : Int} (hl : Number.least ≤ i) (hb : i < Number.bound) :
    Literal.number? ⟨decide (i < 0), numeral i.natAbs, [], none⟩ = some (.integer i) := by
  have hi : (if decide (i < 0) = true then -(i.natAbs : Int) else i.natAbs) = i := by
    by_cases hneg : i < 0
    · rw [decide_eq_true hneg, if_pos rfl]
      omega
    · rw [decide_eq_false hneg, if_neg Bool.false_ne_true]
      omega
  have hz : (decide (i < 0) && decide (i.natAbs = 0)) = false := by
    simp only [Bool.and_eq_false_iff, decide_eq_false_iff_not]
    omega
  simp only [Literal.number?, numeralValue_numeral, hi, hz, hl, hb]
  rfl

theorem readsBack_integer {i : Int} (hl : Number.least ≤ i) (hb : i < Number.bound) :
    ReadsBack (.integer i) := by
  have hnum : ∀ c ∈ intNumeral i, isNumeric c = true := isNumeric_of_mem_intNumeral
  have hlit := literal?_intNumeral i
  simp only [ReadsBack, parse?, render, chars, numberChars, String.toList_ofList, draft]
  cases hcs : intNumeral i with
  | nil =>
    rw [hcs] at hlit
    cases hlit
  | cons c cs =>
    rw [hcs] at hnum hlit
    rw [value_of_numeric (hnum c List.mem_cons_self), hlit]
    simp only [Literal.number?_integer hl hb]
    rfl

end ReleaseDesk.Json
