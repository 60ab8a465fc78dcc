import Mathlib.Tactic.Common
import ReleaseDesk.Proofs.Text.Numeral
import ReleaseDesk.Timestamp

/-! The parser of timestamps inverts their text, for leap seconds and for years of more than four
digits as well. -/

namespace ReleaseDesk

/-! ### Binds in `Except` -/

theorem ok_bind (a : α) (f : α → Except ε β) : (Except.ok a >>= f) = f a := rfl

theorem bind_eq_ok {x : Except ε α} {f : α → Except ε β} {b : β} (h : (x >>= f) = .ok b) :
    ∃ a, x = .ok a ∧ f a = .ok b := by
  cases x with
  | error e => cases h
  | ok a => exact ⟨a, rfl, h⟩

theorem bind_eq_error {x : Except ε α} {f : α → Except ε β} {e : ε} :
    (x >>= f) = .error e ↔ x = .error e ∨ ∃ a, x = .ok a ∧ f a = .error e := by
  cases x with
  | error e' =>
    change Except.error e' = .error e ↔ _
    simp
  | ok a =>
    change f a = .error e ↔ _
    simp

/-! ### Dates and times -/

namespace Date

theorem ofParts?_self (d : Date) : ofParts? d.year d.month d.day = some d := by
  rw [ofParts?, dif_pos d.year_range, dif_pos d.month_range, dif_pos d.day_range]

theorem day_le (d : Date) : d.day ≤ 31 := by
  have hlast := d.day_range.2
  unfold daysIn at hlast
  split_ifs at hlast <;> omega

end Date

namespace Timestamp

open ReleaseDesk.Text

/-! ### Fields -/

theorem trimStart_of_isDigit {ds : List Char} (hne : ds ≠ []) (hd : ∀ c ∈ ds, isDigit c = true)
    (rest : List Char) : trimStart (ds ++ rest) = ds ++ rest := by
  obtain ⟨c, cs, rfl⟩ := List.exists_cons_of_ne_nil hne
  exact List.dropWhile_cons_of_neg (by simp [isBlank_of_isDigit (hd c List.mem_cons_self)])

theorem readDigits_append {more : Nat} {ds rest : List Char} (hne : ds ≠ [])
    (hd : ∀ c ∈ ds, isDigit c = true) (hlength : ds.length ≤ more + 1)
    (hrest : ds.length = more + 1 ∨ startsWithDigit rest = false) :
    readDigits more (ds ++ rest) = .ok (numeralValue ds, rest) := by
  obtain ⟨c, cs, rfl⟩ := List.exists_cons_of_ne_nil hne
  obtain ⟨hc, hcs⟩ := List.forall_mem_cons.mp hd
  rw [List.length_cons, Nat.add_le_add_iff_right] at hlength
  have hend : ((rest.take (more - cs.length)).takeWhile isDigit) = [] := by
    cases rest with
    | nil => simp
    | cons d rest =>
      rcases hrest with hfull | hd
      · rw [List.length_cons, Nat.add_right_cancel_iff] at hfull
        simp [hfull]
      · cases more - cs.length with
        | zero => rfl
        | succ k => exact List.takeWhile_cons_of_neg (by simpa [startsWithDigit] using hd)
  have htaken : ((cs ++ rest).take more).takeWhile isDigit = cs := by
    rw [List.take_append, List.take_of_length_le hlength, List.takeWhile_append_of_pos hcs, hend,
      List.append_nil]
  simp [readDigits, hc, htaken]

theorem readWithin_paddedNumeral {low high n : Nat} (hl : low ≤ n) (hh : n ≤ high) (hhigh : high < 100)
    (rest : List Char) : readWithin low high (paddedNumeral 2 n ++ rest) = .ok (n, rest) := by
  have hd : ∀ c ∈ paddedNumeral 2 n, isDigit c = true := fun _ => isDigit_of_mem_paddedNumeral
  have hlength : (paddedNumeral 2 n).length = 2 :=
    length_paddedNumeral (by decide) (Nat.lt_of_le_of_lt hh hhigh)
  have hne := paddedNumeral_ne_nil 2 n
  rw [readWithin, trimStart_of_isDigit hne hd,
    readDigits_append hne hd (Nat.le_of_eq hlength) (.inl hlength), numeralValue_paddedNumeral]
  simp [bind, Except.bind, pure, Except.pure, hl, hh]

theorem year_inRange {year : Int} (h : firstYear ≤ year ∧ year ≤ lastYear) :
    (decide (-0x80000000 ≤ year) && decide (year < 0x80000000)) = true := by
  obtain ⟨hl, hh⟩ := h
  rw [firstYear] at hl
  rw [lastYear] at hh
  rw [decide_eq_true (show -0x80000000 ≤ year by omega), decide_eq_true (by omega), Bool.and_self]

theorem readYear_plain {year : Int} (h : firstYear ≤ year ∧ year ≤ lastYear) {n : Nat} (hn : (n : Int) = year)
    {cs rest : List Char} (hstart : trimStart cs = cs)
    (hmark : ∀ mark, isDigit mark = false → ∀ more, cs ≠ mark :: more)
    (hread : readDigits 3 cs = .ok (n, rest)) : readYear cs = .ok (year, rest) := by
  unfold readYear
  rw [hstart]
  split
  next more => exact absurd rfl (hmark _ rfl more)
  next more => exact absurd rfl (hmark _ rfl more)
  next =>
    rw [hread, ok_bind]
    dsimp only
    rw [pure_bind, hn]
    exact if_pos (year_inRange h)

theorem readYear_signed {year : Int} (h : firstYear ≤ year ∧ year ≤ lastYear) {sign : Char} {n : Nat}
    (hsign : sign = '-' ∧ -(n : Int) = year ∨ sign = '+' ∧ (n : Int) = year) {cs rest : List Char}
    (hread : readAllDigits cs = .ok (n, rest)) : readYear (sign :: cs) = .ok (year, rest) := by
  have hstart : trimStart (sign :: cs) = sign :: cs := by
    rcases hsign with ⟨rfl, -⟩ | ⟨rfl, -⟩ <;> rfl
  unfold readYear
  rw [hstart]
  split
  next more heq =>
    obtain ⟨rfl, rfl⟩ := List.cons.inj heq
    have hn : -(n : Int) = year := (hsign.resolve_right (by simp)).2
    rw [hread, ok_bind]
    dsimp only
    rw [pure_bind, hn]
    exact if_pos (year_inRange h)
  next more heq =>
    obtain ⟨rfl, rfl⟩ := List.cons.inj heq
    have hn : (n : Int) = year := (hsign.resolve_left (by simp)).2
    rw [hread, ok_bind]
    dsimp only
    rw [pure_bind, hn]
    exact if_pos (year_inRange h)
  next hminus hplus =>
    rcases hsign with ⟨rfl, -⟩ | ⟨rfl, -⟩
    · exact absurd rfl (hminus cs)
    · exact absurd rfl (hplus cs)

theorem readYear_yearChars {year : Int} (h : firstYear ≤ year ∧ year ≤ lastYear) (rest : List Char)
    (hrest : startsWithDigit rest = false) :
    readYear (Date.yearChars year ++ rest) = .ok (year, rest) := by
  have hd : ∀ c ∈ paddedNumeral 4 year.natAbs, isDigit c = true := fun _ => isDigit_of_mem_paddedNumeral
  have hne := paddedNumeral_ne_nil 4 year.natAbs
  have hsigned : readAllDigits (paddedNumeral 4 year.natAbs ++ rest) = .ok (year.natAbs, rest) := by
    rw [readAllDigits, readDigits_append hne hd (by rw [List.length_append]; omega) (.inr hrest),
      numeralValue_paddedNumeral]
  unfold Date.yearChars
  split_ifs with hplain hnegative
  · have hlength : (paddedNumeral 4 year.natAbs).length = 4 :=
      length_paddedNumeral (by decide) (by omega)
    refine readYear_plain h (Int.natAbs_of_nonneg hplain.1) (trimStart_of_isDigit hne hd rest) ?_ ?_
    · intro mark hmark more heq
      obtain ⟨c, cs, hcs⟩ := List.exists_cons_of_ne_nil hne
      rw [hcs, List.cons_append, List.cons.injEq] at heq
      exact ne_of_isDigit (hd c (hcs ▸ List.mem_cons_self)) hmark heq.1
    · rw [readDigits_append hne hd (Nat.le_of_eq hlength) (.inl hlength), numeralValue_paddedNumeral]
  · exact readYear_signed h (.inl ⟨rfl, by omega⟩) hsigned
  · exact readYear_signed h (.inr ⟨rfl, by omega⟩) hsigned

theorem readFraction_paddedNumeral {width n : Nat} (hw : 0 < width) (hwidth : width ≤ 9)
    (hn : n < 10 ^ width) (rest : List Char) (hrest : startsWithDigit rest = false) :
    readFraction ('.' :: (paddedNumeral width n ++ rest)) = .ok (n * 10 ^ (9 - width), rest) := by
  have hd : ∀ c ∈ paddedNumeral width n, isDigit c = true := fun _ => isDigit_of_mem_paddedNumeral
  have hlength := length_paddedNumeral hw hn
  have hstop : rest.dropWhile isDigit = rest := by
    cases rest with
    | nil => rfl
    | cons c rest => exact List.dropWhile_cons_of_neg (by simpa [startsWithDigit] using hrest)
  rw [readFraction, readDigits_append (paddedNumeral_ne_nil _ _) hd (by omega) (.inr hrest)]
  simp [bind, Except.bind, pure, Except.pure, hlength, hstop]

theorem readFraction_fractionChars {nano : Nat} (h : nano < nanosPerSecond) {rest : List Char}
    (hrest : startsWithDigit rest = false) (hpoint : rest.head? ≠ some '.') :
    readFraction (fractionChars nano ++ rest) = .ok (nano, rest) := by
  rw [nanosPerSecond] at h
  unfold fractionChars
  split_ifs with hzero hmilli hmicro
  · have hnone : readFraction rest = .ok (0, rest) := by
      unfold readFraction
      split
      next => exact absurd rfl hpoint
      next => rfl
    rw [List.nil_append, hnone, hzero]
  · have hmul : nano / 1000000 * 10 ^ (9 - 3) = nano := Nat.div_mul_cancel (Nat.dvd_of_mod_eq_zero hmilli)
    rw [List.cons_append, readFraction_paddedNumeral (by decide) (by decide) (by omega) rest hrest, hmul]
  · have hmul : nano / 1000 * 10 ^ (9 - 6) = nano := Nat.div_mul_cancel (Nat.dvd_of_mod_eq_zero hmicro)
    rw [List.cons_append, readFraction_paddedNumeral (by decide) (by decide) (by omega) rest hrest, hmul]
  · rw [List.cons_append, readFraction_paddedNumeral (by decide) (by decide) (by omega) rest hrest,
      Nat.sub_self, Nat.pow_zero, Nat.mul_one]

theorem readMark_trimStart {mark : Char} (h : isBlank mark = false) (rest : List Char) :
    readMark mark (trimStart (mark :: rest)) = .ok ((), rest) := by
  rw [trimStart, List.dropWhile_cons_of_neg (by simp [h])]
  exact if_pos rfl

/-! ### Assembly of a timestamp -/

theorem onDay_self (t : Timestamp) : onDay t.date t.minute t.second t.nano = some t := by
  have hlt : (t.minute : Int) < minutesPerDay := Int.ofNat_lt.mpr t.minute_lt
  rw [onDay, if_neg (Int.not_lt.mpr (Int.natCast_nonneg _)), if_pos hlt, Int.toNat_natCast, ofParts?,
    dif_pos t.minute_lt, dif_pos t.second_lt, dif_pos t.nano_lt]

/-- The fields that the text of a timestamp is parsed to. A leap second is second 60. -/
def parts (t : Timestamp) : Parts where
  year := t.date.year
  month := t.date.month
  day := t.date.day
  hour := t.minute / 60
  minute := t.minute % 60
  second := if nanosPerSecond ≤ t.nano then t.second + 1 else t.second
  nano := if nanosPerSecond ≤ t.nano then t.nano - nanosPerSecond else t.nano
  offset := 0

theorem parts_second (t : Timestamp) :
    t.parts.second ≤ 60 ∧ t.parts.nano < nanosPerSecond ∧
      (if t.parts.second = 60 then 59 else t.parts.second) = t.second ∧
      (if t.parts.second = 60 then t.parts.nano + nanosPerSecond else t.parts.nano) = t.nano := by
  have hsecond := t.second_lt
  have hnano := t.nano_lt
  unfold parts
  dsimp only
  refine ⟨?_, ?_, ?_, ?_⟩ <;> split_ifs <;> omega

theorem parts_timestamp (t : Timestamp) : t.parts.timestamp = .ok t := by
  obtain ⟨-, -, hsecond, hnano⟩ := t.parts_second
  have hminute : t.parts.hour * 60 + t.parts.minute = t.minute := Nat.div_add_mod' t.minute 60
  have hoffset : t.parts.offset = 0 := rfl
  have hzone : (0 : Int).natAbs < minutesPerDay := by decide
  have hdate : Date.ofParts? t.parts.year t.parts.month t.parts.day = some t.date :=
    t.date.ofParts?_self
  unfold Parts.timestamp
  rw [hsecond, hnano, hdate, hoffset]
  dsimp only
  rw [if_pos hzone, hminute, Int.sub_zero, onDay_self]

/-! ### The parser -/

theorem readParts_chars (t : Timestamp) : readParts t.chars = .ok (t.parts, []) := by
  have hchars : t.chars = Date.yearChars t.date.year ++ ('-' :: (paddedNumeral 2 t.date.month ++
      ('-' :: (paddedNumeral 2 t.date.day ++ ('T' :: (paddedNumeral 2 t.parts.hour ++
        (':' :: (paddedNumeral 2 t.parts.minute ++ (':' :: (paddedNumeral 2 t.parts.second ++
          (fractionChars t.parts.nano ++ ['Z']))))))))))) := by
    simp [chars, Date.chars, parts]
  have hday : t.date.day ≤ 31 := t.date.day_le
  have hminutes : t.minute < 1440 := t.minute_lt
  have hhour : t.parts.hour ≤ 23 := by
    change t.minute / 60 ≤ 23
    omega
  have hminute : t.parts.minute ≤ 59 := Nat.le_of_lt_succ (Nat.mod_lt t.minute (by decide))
  obtain ⟨hsecond, hnano, -⟩ := t.parts_second
  have hmiddle : ('T' = 't' || 'T' = 'T' || 'T' = ' ') = true := by decide
  rw [readParts, hchars, readYear_yearChars t.date.year_range _ rfl, ok_bind]
  dsimp only
  rw [readMark_trimStart rfl, ok_bind,
    readWithin_paddedNumeral t.date.month_range.1 t.date.month_range.2 (by decide), ok_bind]
  dsimp only
  rw [readMark_trimStart rfl, ok_bind, readWithin_paddedNumeral t.date.day_range.1 hday (by decide),
    ok_bind]
  dsimp only
  rw [if_pos hmiddle, ok_bind, readWithin_paddedNumeral (Nat.zero_le _) hhour (by decide), ok_bind]
  dsimp only
  rw [readMark_trimStart rfl, ok_bind, readWithin_paddedNumeral (Nat.zero_le _) hminute (by decide),
    ok_bind]
  dsimp only
  rw [readMark_trimStart rfl, ok_bind, readWithin_paddedNumeral (Nat.zero_le _) hsecond (by decide),
    ok_bind]
  dsimp only
  rw [readFraction_fractionChars hnano rfl (by decide), ok_bind]
  rfl

theorem read_text (t : Timestamp) : read t.text = .ok t := by
  rw [read, text, String.toList_ofList, readParts_chars]
  exact parts_timestamp t

end Timestamp

end ReleaseDesk
