import ReleaseDesk.Proofs.Json.Grammar

/-! Completeness of the reader: it parses every document of the grammar, to the value that the
grammar gives it. The induction is on the value; fuel for twice the length of the text suffices. -/

namespace ReleaseDesk.Json

open ReleaseDesk.Text

/-! ### White space -/

theorem isSpace_iff {c : Char} :
    isSpace c = true ↔ c = ' ' ∨ c = '\t' ∨ c = '\n' ∨ c = '\r' := by
  simp only [isSpace, Bool.or_eq_true, decide_eq_true_eq]
  tauto

theorem blank_iff {cs : List Char} : Blank cs ↔ ∀ c ∈ cs, isSpace c = true := by
  simp only [Blank, isSpace_iff]

theorem skipSpace_append {blank : List Char} (h : Blank blank) (cs : List Char) :
    skipSpace (blank ++ cs) = skipSpace cs :=
  List.dropWhile_append_of_pos (blank_iff.mp h)

theorem skipSpace_blank {blank : List Char} (h : Blank blank) : skipSpace blank = [] := by
  have hskip := skipSpace_append h []
  rwa [List.append_nil] at hskip

theorem exists_blank (cs : List Char) : ∃ blank, Blank blank ∧ cs = blank ++ skipSpace cs :=
  ⟨cs.takeWhile isSpace, blank_iff.mpr (List.all_eq_true.mp List.all_takeWhile),
    List.takeWhile_append_dropWhile.symm⟩

theorem goesOn_blank {blank rest : List Char} (h : Blank blank) (hr : goesOn rest = false) :
    goesOn (blank ++ rest) = false := by
  cases blank with
  | nil => exact hr
  | cons c blank => rcases h c List.mem_cons_self with rfl | rfl | rfl | rfl <;> rfl

/-! ### Numbers -/

section Numbers

variable {cs ds point fs exponent rest : List Char} {power : Option Int}

theorem Digits.spanDigits (h : Digits ds) (hr : startsWithDigit rest = false) :
    spanDigits (ds ++ rest) = (ds, rest) :=
  spanDigits_append h.2 hr

theorem Whole.digits (h : Whole ds) : Digits ds := by
  cases h with
  | zero => exact ⟨List.cons_ne_nil _ _, List.forall_mem_singleton.mpr rfl⟩
  | leading hd _ hds => exact ⟨List.cons_ne_nil _ _, List.forall_mem_cons.mpr ⟨hd, hds⟩⟩

theorem Whole.read (h : Whole ds) (hr : startsWithDigit rest = false) :
    wholeDigits? (ds ++ rest) = some (ds, rest) := by
  rw [wholeDigits?, h.digits.spanDigits hr]
  cases h with
  | zero => rfl
  | leading _ hne _ => simp [hne]

theorem Fraction.read (h : Fraction point fs) (hr : startsWithDigit rest = false)
    (hp : rest.head? ≠ some '.') : fraction? (point ++ rest) = some (fs, rest) := by
  cases h with
  | absent =>
    cases rest with
    | nil => rfl
    | cons c rest =>
      have hc : c ≠ '.' := fun h => hp (congrArg some h)
      simp [fraction?, hc]
  | point hds =>
    rw [List.cons_append, fraction?, hds.spanDigits hr]
    obtain ⟨hne, -⟩ := hds
    cases fs with
    | nil => exact absurd rfl hne
    | cons d fs => rfl

theorem power?_signed {e : Char} {signed : List Char} {negative : Bool} (he : e = 'e' ∨ e = 'E')
    (hs : exponentSign signed = (negative, ds ++ rest)) (hds : Digits ds)
    (hr : startsWithDigit rest = false) :
    power? (e :: signed) =
      some (some (if negative then -(numeralValue ds : Int) else numeralValue ds), rest) := by
  have hcond : (e = 'e' || e = 'E') = true := by simpa using he
  rw [power?_cons, if_pos hcond, hs]
  simp only [hds.spanDigits hr]
  obtain ⟨hne, -⟩ := hds
  cases ds with
  | nil => exact absurd rfl hne
  | cons d ds => rfl

theorem exponentSign_digits (h : Digits ds) (rest : List Char) :
    exponentSign (ds ++ rest) = (false, ds ++ rest) := by
  obtain ⟨hne, hds⟩ := h
  cases ds with
  | nil => exact absurd rfl hne
  | cons d ds =>
    have hd : isDigit d = true := hds d List.mem_cons_self
    have hminus : d ≠ '-' := ne_of_isDigit hd rfl
    have hplus : d ≠ '+' := ne_of_isDigit hd rfl
    simp [exponentSign, hminus, hplus]

theorem Exponent.read (h : Exponent exponent power) (hr : goesOn rest = false) :
    power? (exponent ++ rest) = some (power, rest) := by
  have hdigit := startsWithDigit_of_goesOn hr
  cases h with
  | absent =>
    cases rest with
    | nil => rfl
    | cons c rest =>
      simp only [goesOn, Bool.or_eq_false_iff, decide_eq_false_iff_not] at hr
      simp [power?, hr.1.2, hr.2]
  | plain he hds => exact power?_signed he (exponentSign_digits hds rest) hds hdigit
  | @plus e ds he hds =>
    have hs : exponentSign ('+' :: (ds ++ rest)) = (false, ds ++ rest) := rfl
    exact power?_signed he hs hds hdigit
  | @minus e ds he hds =>
    have hs : exponentSign ('-' :: (ds ++ rest)) = (true, ds ++ rest) := rfl
    exact power?_signed he hs hds hdigit

theorem Exponent.head (h : Exponent exponent power) (hr : goesOn rest = false) :
    startsWithDigit (exponent ++ rest) = false ∧ (exponent ++ rest).head? ≠ some '.' := by
  have hmark {e : Char} (he : e = 'e' ∨ e = 'E') (cs : List Char) :
      startsWithDigit (e :: cs) = false ∧ (e :: cs).head? ≠ some '.' := by
    rcases he with rfl | rfl <;> exact ⟨rfl, by simp⟩
  cases h with
  | absent =>
    refine ⟨startsWithDigit_of_goesOn hr, fun hhead => ?_⟩
    obtain ⟨cs, rfl⟩ := List.head?_eq_some_iff.mp hhead
    cases hr
  | plain he _ => exact hmark he _
  | plus he _ => exact hmark he _
  | minus he _ => exact hmark he _

theorem Fraction.head (h : Fraction point fs) (hr : startsWithDigit rest = false) :
    startsWithDigit (point ++ rest) = false := by
  cases h with
  | absent => exact hr
  | point _ => rfl

theorem literalSign_minus (negative : Bool) (h : Digits ds) (rest : List Char) :
    literalSign (minus negative ++ (ds ++ rest)) = (negative, ds ++ rest) := by
  cases negative with
  | true => rfl
  | false =>
    obtain ⟨hne, hds⟩ := h
    cases ds with
    | nil => exact absurd rfl hne
    | cons d ds =>
      have hd : d ≠ '-' := ne_of_isDigit (hds d List.mem_cons_self) rfl
      simp [minus, literalSign, hd]

/-- The reader consumes a number literal to its end. -/
theorem Spells.read {l : Literal} (h : Spells cs l) (hr : goesOn rest = false) :
    literal? (cs ++ rest) = some (l, rest) := by
  cases h with
  | parts negative hw hf he =>
    obtain ⟨hdigit, hpoint⟩ := he.head hr
    simp only [List.append_assoc]
    rw [literal?_eq, literalSign_minus negative hw.digits]
    simp only [hw.read (hf.head hdigit), hf.read hdigit hpoint, he.read hr, Option.bind_eq_bind,
      Option.bind_some]
    rfl

theorem Spells.head {l : Literal} (h : Spells cs l) :
    ∃ c rest, cs = c :: rest ∧ isNumeric c = true := by
  cases h with
  | parts negative hw hf he =>
    cases negative with
    | true => exact ⟨_, _, rfl, rfl⟩
    | false =>
      obtain ⟨hne, hds⟩ := hw.digits
      obtain ⟨d, ds, rfl⟩ := List.exists_cons_of_ne_nil hne
      exact ⟨d, _, rfl, isNumeric_of_isDigit (hds d List.mem_cons_self)⟩

end Numbers

namespace Literal

variable {l : Literal} {n : Number} {d : Binary64.Decimal}

theorem integral_iff : l.Integral ↔
    (l.fraction.isEmpty && l.power.isNone && Number.least ≤ l.integer && l.integer < Number.bound &&
      !(l.negative && numeralValue l.whole = 0)) = true := by
  simp only [Integral, Bool.and_eq_true, List.isEmpty_iff, Option.isNone_iff_eq_none,
    decide_eq_true_eq, Bool.not_eq_true', Bool.and_eq_false_iff, decide_eq_false_iff_not,
    Bool.not_eq_true, and_assoc, not_and_or]

theorem Scales.eq_decimal (h : l.Scales d) : d = l.decimal := by
  obtain ⟨hwhole, hds, hfraction, hfs⟩ := h
  have hw := @appendDigits_of_filled [] _ _ hds
  have hf := appendDigits_of_filled hfs
  rw [decimal, hwhole, hfraction]
  simp only [List.nil_append, numeralValue, List.foldl_nil] at hw hf ⊢
  simp [hw, hf]

theorem exists_scales (l : Literal) : ∃ d, l.Scales d := by
  obtain ⟨ds, left, hwhole, hds⟩ := @exists_filled [] (by decide) l.whole
  obtain ⟨fs, dropped, hfraction, hfs⟩ := exists_filled hds.1 l.fraction
  exact ⟨_, .kept hwhole hds hfraction hfs⟩

theorem scales_iff : l.Scales d ↔ d = l.decimal := by
  refine ⟨Scales.eq_decimal, ?_⟩
  rintro rfl
  obtain ⟨d, h⟩ := l.exists_scales
  rwa [← h.eq_decimal]

theorem Scales.digits_lt (h : l.Scales d) : d.digits < wordBound := by
  obtain ⟨-, -, -, hfs⟩ := h
  exact hfs.1

theorem denotes_iff : l.Denotes n ↔ l.number? = some n := by
  have hnumber : l.number? = if l.Integral then some (Number.integer l.integer)
      else (Binary64.ofDecimal? l.negative l.decimal).map Number.real := by
    rw [number?]
    simp only [integral_iff]
    rfl
  have hdigits : l.decimal.digits < wordBound := (scales_iff.mpr rfl).digits_lt
  rw [hnumber]
  constructor
  · intro h
    cases h with
    | integer hi => rw [if_pos hi]
    | real hi hd hrange =>
      obtain rfl := scales_iff.mp hd
      rw [if_neg hi, (Binary64.ofDecimal?_eq_some_iff hdigits).mpr ⟨hrange, rfl⟩, Option.map_some]
  · intro h
    split_ifs at h with hi
    · cases h
      exact .integer hi
    · obtain ⟨x, hx, rfl⟩ := Option.map_eq_some_iff.mp h
      obtain ⟨hrange, rfl⟩ := (Binary64.ofDecimal?_eq_some_iff hdigits).mp hx
      exact .real hi (scales_iff.mpr rfl) hrange

end Literal

/-! ### Strings -/

theorem hexValue?_iff {c : Char} {n : Nat} : hexValue? c = some n ↔ HexDigit c n := by
  have hdigit : ∀ n < 16, hexValue? n.digitChar = some n ∧ hexValue? n.digitChar.toUpper = some n := by
    decide
  have hchar : ∀ code < 103, ∀ n ∈ hexValue? (Char.ofNat code),
      n < 16 ∧ (Char.ofNat code = n.digitChar ∨ Char.ofNat code = n.digitChar.toUpper) := by
    decide
  constructor
  · intro h
    have hcode : c.toNat < 103 := by
      simp only [hexValue?] at h
      split_ifs at h <;> simp_all <;> omega
    have hc := hchar c.toNat hcode n
    rw [Char.ofNat_toNat] at hc
    exact hc h
  · rintro ⟨hn, rfl | rfl⟩
    · exact (hdigit n hn).1
    · exact (hdigit n hn).2

theorem hex4?_iff {a b c d : Char} {n : Nat} :
    hex4? a b c d = some n ↔ HexUnit [a, b, c, d] n := by
  constructor
  · intro h
    obtain ⟨w, hw, h⟩ := Option.bind_eq_some_iff.mp h
    obtain ⟨x, hx, h⟩ := Option.bind_eq_some_iff.mp h
    obtain ⟨y, hy, h⟩ := Option.bind_eq_some_iff.mp h
    obtain ⟨z, hz, h⟩ := Option.bind_eq_some_iff.mp h
    cases h
    exact .digits (hexValue?_iff.mp hw) (hexValue?_iff.mp hx) (hexValue?_iff.mp hy)
      (hexValue?_iff.mp hz)
  · rintro ⟨hw, hx, hy, hz⟩
    simp only [hex4?, hexValue?_iff.mpr hw, hexValue?_iff.mpr hx, hexValue?_iff.mpr hy,
      hexValue?_iff.mpr hz]
    rfl

theorem unescape?_iff {e c : Char} : unescape? e = some c ↔ (e, c) ∈ shortEscapes := by
  have htable : ∀ m ∈ shortEscapes, unescape? m.1 = some m.2 := by decide
  constructor
  · intro h
    simp only [unescape?, Bool.or_eq_true, decide_eq_true_eq] at h
    split_ifs at h with hself hb hf hn hr ht <;> cases h
    · rcases hself with (rfl | rfl) | rfl <;> decide
    all_goals
      subst e
      decide
  · exact fun h => htable (e, c) h

section Strings

variable {cs meant rest : List Char}

theorem stringBody_plain {c : Char} (hc : 0x20 ≤ c.toNat) (hquote : c ≠ '"') (hslash : c ≠ '\\')
    (read : Partial) (half : Half) (rest : List Char) :
    stringBody read half (c :: rest) = stringBody (read.add half c) .none rest := by
  have hcontrol : ¬c.toNat < 0x20 := Nat.not_lt.mpr hc
  simp [stringBody, hslash, hcontrol]

theorem stringBody_short {e c : Char} (h : unescape? e = some c) (read : Partial) (half : Half)
    (rest : List Char) :
    stringBody read half ('\\' :: e :: rest) = stringBody (read.add half c) .none rest := by
  have he : e ≠ 'u' := by
    rintro rfl
    cases h
  simp [stringBody, h, he]

theorem stringBody_unit {hex : List Char} {n : Nat} (h : HexUnit hex n) (read : Partial)
    (half : Half) (rest : List Char) :
    stringBody read half ('\\' :: 'u' :: (hex ++ rest)) =
      stringBody (read.addUnit half n).1 (read.addUnit half n).2 rest := by
  cases h with
  | digits ha hb hc hd =>
    have hvalue := hex4?_iff.mpr (.digits ha hb hc hd)
    simp only [List.cons_append, List.nil_append, stringBody, hvalue]

theorem Spelled.read (h : Spelled cs meant) (read rest : List Char) :
    stringBody (some read) .none (cs ++ '"' :: rest) =
      some (some (String.ofList (read.reverse ++ meant)), rest) := by
  induction h generalizing read with
  | nil => simp [stringBody]
  | plain hc hquote hslash _ ih =>
    rw [List.cons_append, stringBody_plain hc hquote hslash]
    simpa [Partial.add] using ih (_ :: read)
  | short he _ ih =>
    rw [List.cons_append, List.cons_append, stringBody_short (unescape?_iff.mpr he)]
    simpa [Partial.add] using ih (_ :: read)
  | @unit hex cs meant n hhex hn _ ih =>
    have hhigh : ¬(0xD800 ≤ n ∧ n < 0xDC00) := by omega
    have hlow : ¬(0xDC00 ≤ n ∧ n < 0xE000) := by omega
    rw [List.cons_append, List.cons_append, List.append_assoc, stringBody_unit hhex]
    simpa [Partial.addUnit, hhigh, hlow] using ih (_ :: read)
  | @pair hex hex' cs meant high low hhex hmin hmax hhex' hmin' hmax' _ ih =>
    simp only [List.cons_append, List.append_assoc]
    rw [stringBody_unit hhex, stringBody_unit hhex']
    simpa [Partial.addUnit, hmin, hmax, hmin', hmax'] using ih (_ :: read)

theorem Quoted.read {s : String} (h : Quoted cs s) (rest : List Char) :
    ∃ body, cs ++ rest = '"' :: body ∧ stringBody (some []) .none body = some (some s, rest) := by
  cases h with
  | @quotes cs meant hs =>
    refine ⟨cs ++ '"' :: rest, by simp, ?_⟩
    exact hs.read [] rest

end Strings

/-! ### Steps of the reader -/

section Steps

variable {fuel level : Nat} {cs rest : List Char}

theorem value_append {blank : List Char} (h : Blank blank) (fuel level : Nat) (cs : List Char) :
    value fuel level (blank ++ cs) = value fuel level cs := by
  cases fuel with
  | zero => rfl
  | succ fuel => rw [value, value, skipSpace_append h]

theorem value_skipSpace (fuel level : Nat) (cs : List Char) :
    value fuel level (skipSpace cs) = value fuel level cs := by
  obtain ⟨blank, hblank, hcs⟩ := exists_blank cs
  conv_rhs => rw [hcs, value_append hblank]

theorem items_skipSpace (fuel level : Nat) (cs : List Char) :
    items fuel level (skipSpace cs) = items fuel level cs := by
  cases fuel with
  | zero => rfl
  | succ fuel => rw [items, items, value_skipSpace]

theorem members_append {blank : List Char} (h : Blank blank) (fuel level : Nat) (cs : List Char) :
    members fuel level (blank ++ cs) = members fuel level cs := by
  cases fuel with
  | zero => rfl
  | succ fuel => rw [members, members, skipSpace_append h]

theorem members_skipSpace (fuel level : Nat) (cs : List Char) :
    members fuel level (skipSpace cs) = members fuel level cs := by
  obtain ⟨blank, hblank, hcs⟩ := exists_blank cs
  conv_rhs => rw [hcs, members_append hblank]

theorem atDepth_of_le {depth : Nat} (h : depth ≤ depthLimit) (r : Reading) : atDepth depth r = r :=
  if_pos h

theorem value_string {body : List Char} {s : String}
    (h : stringBody (some []) .none body = some (some s, rest)) :
    value (fuel + 1) level ('"' :: body) = (.string s, some rest) := by
  rw [value, skipSpace_cons rfl]
  simp only [h]

theorem value_emptyArray (h : skipSpace cs = ']' :: rest) :
    value (fuel + 1) level ('[' :: cs) = atDepth (level + 1) (.array [], some rest) := by
  rw [value, skipSpace_cons rfl]
  simp only [h]

theorem value_array (h : ∀ rest, skipSpace cs ≠ ']' :: rest) :
    value (fuel + 1) level ('[' :: cs) =
      atDepth (level + 1) (.array (items fuel (level + 1) cs).1, (items fuel (level + 1) cs).2) := by
  rw [← items_skipSpace, value, skipSpace_cons rfl]
  -- The bracket is not closed at once, so the second case of the reader applies.
  simp only

theorem value_emptyObject (h : skipSpace cs = '}' :: rest) :
    value (fuel + 1) level ('{' :: cs) = atDepth (level + 1) (.object [], some rest) := by
  rw [value, skipSpace_cons rfl]
  simp only [h]

theorem value_object (h : ∀ rest, skipSpace cs ≠ '}' :: rest) :
    value (fuel + 1) level ('{' :: cs) =
      atDepth (level + 1)
        (.object (members fuel (level + 1) cs).1, (members fuel (level + 1) cs).2) := by
  rw [← members_skipSpace, value, skipSpace_cons rfl]
  simp only

theorem items_last {d : Draft} {cs' : List Char} (h : value fuel level cs = (d, some cs'))
    (hc : skipSpace cs' = ']' :: rest) : items (fuel + 1) level cs = ([d], some rest) := by
  rw [items, h]
  simp only [hc]

theorem items_next {d : Draft} {cs' : List Char} (h : value fuel level cs = (d, some cs'))
    (hc : skipSpace cs' = ',' :: rest) :
    items (fuel + 1) level cs =
      (d :: (items fuel level rest).1, (items fuel level rest).2) := by
  rw [items, h]
  simp only [hc]

variable {k : String} {d : Draft} {body colon cs' : List Char}

theorem members_last (hk : stringBody (some []) .none body = some (some k, colon))
    (hcolon : skipSpace colon = ':' :: cs) (h : value fuel level cs = (d, some cs'))
    (hc : skipSpace cs' = '}' :: rest) :
    members (fuel + 1) level ('"' :: body) = ([(some k, d)], some rest) := by
  rw [members, skipSpace_cons rfl]
  simp only [hk, hcolon, h, hc]

theorem members_next (hk : stringBody (some []) .none body = some (some k, colon))
    (hcolon : skipSpace colon = ':' :: cs) (h : value fuel level cs = (d, some cs'))
    (hc : skipSpace cs' = ',' :: rest) :
    members (fuel + 1) level ('"' :: body) =
      ((some k, d) :: (members fuel level rest).1, (members fuel level rest).2) := by
  rw [members, skipSpace_cons rfl]
  simp only [hk, hcolon, h, hc]

end Steps

/-! ### Values -/

section Heads

variable {cs : List Char}

theorem Writes.head {v : Json} (h : Writes cs v) :
    ∃ c rest, cs = c :: rest ∧ isSpace c = false ∧ c ≠ ']' := by
  cases h with
  | number hs _ =>
    obtain ⟨c, rest, hcs, hc⟩ := hs.head
    exact ⟨c, rest, hcs, isSpace_of_isNumeric hc, ne_of_isNumeric hc rfl⟩
  | string hs =>
    cases hs
    exact ⟨_, _, rfl, rfl, by decide⟩
  | _ => exact ⟨_, _, rfl, rfl, by decide⟩

theorem WritesItems.head {items : List Json} (h : WritesItems cs items) (rest cs' : List Char) :
    skipSpace (cs ++ rest) ≠ ']' :: cs' := by
  have hstart {before cs after : List Char} {v : Json} (hb : Blank before) (hv : Writes cs v) :
      skipSpace (before ++ (cs ++ after)) ≠ ']' :: cs' := by
    obtain ⟨c, cs, rfl, hspace, hc⟩ := hv.head
    rw [skipSpace_append hb, List.cons_append, skipSpace_cons hspace]
    exact fun heq => hc (List.cons.inj heq).1
  cases h with
  | last hb hv _ =>
    simp only [List.append_assoc]
    exact hstart hb hv
  | more hb hv _ _ =>
    simp only [List.append_assoc]
    exact hstart hb hv

theorem WritesMembers.head {members : List (String × Json)} (h : WritesMembers cs members)
    (rest cs' : List Char) : skipSpace (cs ++ rest) ≠ '}' :: cs' := by
  have hstart {before key after : List Char} {k : String} (hb : Blank before) (hk : Quoted key k) :
      skipSpace (before ++ (key ++ after)) ≠ '}' :: cs' := by
    cases hk
    rw [skipSpace_append hb, List.cons_append, skipSpace_cons rfl]
    exact fun heq => absurd (List.cons.inj heq).1 (by decide)
  cases h with
  | last hb hk _ _ _ _ =>
    simp only [List.append_assoc]
    exact hstart hb hk
  | more hb hk _ _ _ _ _ =>
    simp only [List.append_assoc]
    exact hstart hb hk

end Heads

mutual

/-- The reader parses the text of a value, and continues behind it. -/
theorem Writes.read : (v : Json) → ∀ {cs : List Char}, Writes cs v → ∀ (fuel level : Nat)
    (rest : List Char), level + v.depth ≤ depthLimit → 2 * cs.length ≤ fuel → goesOn rest = false →
    value fuel level (cs ++ rest) = (.ofJson v, some rest)
  | v, cs, h, 0, _, _, _, hf, _ => by
    obtain ⟨c, cs', rfl, -⟩ := h.head
    simp at hf
  | .null, _, .null, fuel + 1, _, _, _, _, _ => rfl
  | .bool true, _, .isTrue, fuel + 1, _, _, _, _, _ => rfl
  | .bool false, _, .isFalse, fuel + 1, _, _, _, _, _ => rfl
  | .number n, cs, .number hs hn, fuel + 1, _, rest, _, _, hr => by
    have hread := hs.read hr
    obtain ⟨c, cs', rfl, hc⟩ := hs.head
    rw [List.cons_append] at hread ⊢
    rw [value_of_numeric hc, hread]
    simp only [Literal.denotes_iff.mp hn]
    rfl
  | .string s, _, .string hs, fuel + 1, _, rest, _, _, _ => by
    obtain ⟨body, hbody, hread⟩ := hs.read rest
    rw [hbody, value_string hread]
    rfl
  | .array [], _, .emptyArray hb, fuel + 1, level, rest, hl, _, _ => by
    have hle : level + 1 ≤ depthLimit := hl
    rw [List.cons_append, List.append_assoc, value_emptyArray (skipSpace_append hb _),
      atDepth_of_le hle]
    rfl
  | .array (v :: vs), _, .array h, fuel + 1, level, rest, hl, hf, _ => by
    have hd : (Json.array (v :: vs)).depth = itemsDepth (v :: vs) + 1 := rfl
    have hitems := WritesItems.read (v :: vs) h fuel (level + 1) rest (by omega)
      (by simp at hf; omega)
    rw [List.cons_append, List.append_assoc, List.singleton_append, value_array (h.head _),
      atDepth_of_le (by omega), hitems]
    rfl
  | .object [], _, .emptyObject hb, fuel + 1, level, rest, hl, _, _ => by
    have hle : level + 1 ≤ depthLimit := hl
    rw [List.cons_append, List.append_assoc, value_emptyObject (skipSpace_append hb _),
      atDepth_of_le hle]
    rfl
  | .object (m :: ms), _, .object h, fuel + 1, level, rest, hl, hf, _ => by
    have hd : (Json.object (m :: ms)).depth = membersDepth (m :: ms) + 1 := rfl
    have hmembers := WritesMembers.read (m :: ms) h fuel (level + 1) rest (by omega)
      (by simp at hf; omega)
    rw [List.cons_append, List.append_assoc, List.singleton_append, value_object (h.head _),
      atDepth_of_le (by omega), hmembers]
    rfl

theorem WritesItems.read : (vs : List Json) → ∀ {cs : List Char}, WritesItems cs vs →
    ∀ (fuel level : Nat) (rest : List Char), level + itemsDepth vs ≤ depthLimit →
    2 * cs.length + 1 ≤ fuel →
    items fuel level (cs ++ ']' :: rest) = (Draft.ofItems vs, some rest)
  | [v], _, @WritesItems.last before text after _ hb hv ha, fuel + 1, level, rest, hl, hf => by
    simp only [itemsDepth, List.length_append] at hl hf
    have hvalue := Writes.read v hv fuel level (after ++ ']' :: rest) (by omega)
      (by omega) (goesOn_blank ha rfl)
    simp only [List.append_assoc]
    rw [items_last (by rw [value_append hb, hvalue]) (skipSpace_append ha _)]
    rfl
  | v :: vs, _, @WritesItems.more before text after tail _ _ hb hv ha h, fuel + 1, level, rest, hl,
      hf => by
    simp only [itemsDepth, List.length_append, List.length_cons] at hl hf
    have hvalue := Writes.read v hv fuel level
      (after ++ ',' :: (tail ++ ']' :: rest)) (by omega) (by omega) (goesOn_blank ha rfl)
    have hitems := WritesItems.read vs h fuel level rest (by omega) (by omega)
    simp only [List.append_assoc, List.cons_append]
    rw [items_next (by rw [value_append hb, hvalue]) (skipSpace_append ha _), hitems]
    rfl

theorem WritesMembers.read : (ms : List (String × Json)) → ∀ {cs : List Char}, WritesMembers cs ms →
    ∀ (fuel level : Nat) (rest : List Char), level + membersDepth ms ≤ depthLimit →
    2 * cs.length + 1 ≤ fuel →
    members fuel level (cs ++ '}' :: rest) = (Draft.ofMembers ms, some rest)
  | [(k, v)], _, @WritesMembers.last before key colon gap text after _ _ hb hk hcolon hgap hv ha,
      fuel + 1, level, rest, hl, hf => by
    simp only [membersDepth, List.length_append, List.length_cons] at hl hf
    have hvalue := Writes.read v hv fuel level (after ++ '}' :: rest) (by omega)
      (by omega) (goesOn_blank ha rfl)
    obtain ⟨body, hbody, hread⟩ :=
      hk.read (colon ++ ':' :: (gap ++ (text ++ (after ++ '}' :: rest))))
    simp only [List.append_assoc, List.cons_append]
    rw [members_append hb, hbody, members_last hread (skipSpace_append hcolon _)
      (by rw [value_append hgap, hvalue]) (skipSpace_append ha _)]
    rfl
  | (k, v) :: ms, _,
      @WritesMembers.more before key colon gap text after tail _ _ _ hb hk hcolon hgap hv ha h,
      fuel + 1, level, rest, hl, hf => by
    simp only [membersDepth, List.length_append, List.length_cons] at hl hf
    have hvalue := Writes.read v hv fuel level
      (after ++ ',' :: (tail ++ '}' :: rest)) (by omega) (by omega) (goesOn_blank ha rfl)
    have hmembers := WritesMembers.read ms h fuel level rest (by omega)
      (by omega)
    obtain ⟨body, hbody, hread⟩ :=
      hk.read (colon ++ ':' :: (gap ++ (text ++ (after ++ ',' :: (tail ++ '}' :: rest)))))
    simp only [List.append_assoc, List.cons_append]
    rw [members_append hb, hbody, members_next hread (skipSpace_append hcolon _)
      (by rw [value_append hgap, hvalue]) (skipSpace_append ha _), hmembers]
    rfl

end

theorem Document.draft {text : List Char} {v : Json} (h : Document text v) :
    draft text = (.ofJson v, true) := by
  obtain ⟨before, cs, after, hb, hv, ha, rfl, hd⟩ := h
  have hread := Writes.read v hv (2 * (before ++ (cs ++ after)).length + 2) 0 after
    (by simpa [depthLimit] using hd) (by simp; omega)
    (List.append_nil after ▸ goesOn_blank ha rfl)
  rw [Json.draft, value_append hb, hread]
  simp only [skipSpace_blank ha]
  rfl

end ReleaseDesk.Json
