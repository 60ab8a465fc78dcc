import ReleaseDesk.Proofs.Json.Reading

/-! Soundness of the reader: whatever it assigns a value to is derived in the grammar, so that the
JSON texts are exactly the documents. The induction is on the fuel; a part that runs out of fuel is
broken and has no value. -/

namespace ReleaseDesk.Json

open ReleaseDesk.Text

/-! ### Numbers -/

section Numbers

variable {cs rest ds fs : List Char} {power : Option Int}

theorem minus_append_literalSign (cs : List Char) :
    minus (literalSign cs).1 ++ (literalSign cs).2 = cs := by
  unfold literalSign
  split <;> rfl

theorem digits_of_spanDigits (h : spanDigits cs = (ds, rest)) (hne : ds ≠ []) :
    Digits ds ∧ cs = ds ++ rest := by
  have hdigits := spanDigits_fst cs
  have happend := spanDigits_fst_append_snd cs
  rw [h] at hdigits happend
  exact ⟨⟨hne, hdigits⟩, happend.symm⟩

theorem whole_of_wholeDigits? (h : wholeDigits? cs = some (ds, rest)) :
    Whole ds ∧ cs = ds ++ rest := by
  unfold wholeDigits? at h
  split at h
  · cases h
  · cases h
  next ds' rest' hnil hzero hspan =>
    cases h
    obtain ⟨⟨hne, hdigits⟩, hcs⟩ := digits_of_spanDigits hspan hnil
    refine ⟨?_, hcs⟩
    obtain ⟨d, ds, rfl⟩ := List.exists_cons_of_ne_nil hne
    by_cases hd : d = '0'
    · subst hd
      cases ds with
      | nil => exact .zero
      | cons e ds => exact (hzero e ds rfl).elim
    · exact .leading (hdigits d List.mem_cons_self) hd fun c hc =>
        hdigits c (List.mem_cons_of_mem d hc)

theorem fraction_of_fraction? (h : fraction? cs = some (fs, rest)) :
    ∃ point, Fraction point fs ∧ cs = point ++ rest := by
  unfold fraction? at h
  split at h
  next cs =>
    split at h
    · cases h
    next hnil hspan =>
      cases h
      obtain ⟨hdigits, rfl⟩ := digits_of_spanDigits hspan hnil
      exact ⟨_, .point hdigits, rfl⟩
  next =>
    cases h
    exact ⟨[], .absent, rfl⟩

theorem exponent_of_exponentSign {e : Char} (he : e = 'e' ∨ e = 'E')
    (hds : Digits ds) (hcs : (exponentSign cs).2 = ds ++ rest) :
    ∃ exponent, Exponent exponent
        (some (if (exponentSign cs).1 then -(numeralValue ds : Int) else numeralValue ds)) ∧
      e :: cs = exponent ++ rest := by
  unfold exponentSign at hcs ⊢
  split at hcs
  next cs =>
    obtain rfl : cs = ds ++ rest := hcs
    exact ⟨_, .minus he hds, rfl⟩
  next cs =>
    obtain rfl : cs = ds ++ rest := hcs
    exact ⟨_, .plus he hds, rfl⟩
  next =>
    obtain rfl : cs = ds ++ rest := hcs
    exact ⟨_, .plain he hds, rfl⟩

theorem exponent_of_power? (h : power? cs = some (power, rest)) :
    ∃ exponent, Exponent exponent power ∧ cs = exponent ++ rest := by
  cases cs with
  | nil =>
    cases h
    exact ⟨[], .absent, rfl⟩
  | cons e cs =>
    rw [power?_cons] at h
    by_cases he : (e = 'e' || e = 'E') = true
    · rw [if_pos he] at h
      split at h
      · cases h
      next hnil hspan =>
        cases h
        obtain ⟨hdigits, hcs⟩ := digits_of_spanDigits hspan hnil
        exact exponent_of_exponentSign (by simpa using he) hdigits hcs
    · rw [if_neg he] at h
      cases h
      exact ⟨[], .absent, rfl⟩

theorem spells_of_literal? {l : Literal} (h : literal? cs = some (l, rest)) :
    ∃ text, Spells text l ∧ cs = text ++ rest := by
  rw [literal?_eq] at h
  obtain ⟨⟨ds, cs₁⟩, hw, h⟩ := Option.bind_eq_some_iff.mp h
  obtain ⟨⟨fs, cs₂⟩, hf, h⟩ := Option.bind_eq_some_iff.mp h
  obtain ⟨⟨power, cs₃⟩, hp, h⟩ := Option.bind_eq_some_iff.mp h
  cases h
  obtain ⟨hwhole, hds⟩ := whole_of_wholeDigits? hw
  obtain ⟨point, hfraction, rfl⟩ := fraction_of_fraction? hf
  obtain ⟨exponent, hexponent, rfl⟩ := exponent_of_power? hp
  refine ⟨_, .parts (literalSign cs).1 hwhole hfraction hexponent, ?_⟩
  simp only [List.append_assoc]
  rw [← hds, minus_append_literalSign]

end Numbers

/-! ### Strings -/

/-- The code unit held by the reader is a high surrogate. -/
def Half.Waits : Half → Prop
  | .none => True
  | .high n => 0xD800 ≤ n ∧ n < 0xDC00

/-- The rest of a string body. After a high surrogate it continues with the low surrogate of the
pair. -/
def Continues : Half → List Char → List Char → Prop
  | .none, cs, meant => Spelled cs meant
  | .high n, cs, meant => ∀ hex, HexUnit hex n → Spelled ('\\' :: 'u' :: (hex ++ cs)) meant

section Strings

variable {read : Partial} {half : Half} {before text meant cs rest : List Char} {s : String}

theorem Partial.add_eq_some {c : Char} (h : read.add half c = some before) :
    half = .none ∧ ∃ start, read = some start ∧ before = c :: start := by
  cases half with
  | high => cases h
  | none =>
    obtain ⟨start, rfl, rfl⟩ := Option.map_eq_some_iff.mp h
    exact ⟨rfl, start, rfl, rfl⟩

theorem Partial.addUnit_waits (read : Partial) (half : Half) (n : Nat) :
    (read.addUnit half n).2.Waits := by
  unfold addUnit
  split
  · split_ifs with hhigh
    · simpa [Half.Waits] using hhigh
    · trivial
    · trivial
  · split_ifs <;> trivial

theorem Continues.unit {hex : List Char} {n : Nat}
    (h : Continues (read.addUnit half n).2 text meant) (hw : half.Waits) (hhex : HexUnit hex n)
    (hread : (read.addUnit half n).1 = some before) :
    ∃ start meant', read = some start ∧ Continues half ('\\' :: 'u' :: (hex ++ text)) meant' ∧
      start.reverse ++ meant' = before.reverse ++ meant := by
  cases half with
  | none =>
    simp only [Partial.addUnit] at hread h
    split_ifs at hread h with hhigh hlow
    · exact ⟨before, meant, hread, h hex hhex, rfl⟩
    · obtain ⟨start, rfl, rfl⟩ := Option.map_eq_some_iff.mp hread
      have hn : n < 0xD800 ∨ 0xE000 ≤ n := by
        simp only [Bool.and_eq_true, decide_eq_true_eq] at hhigh hlow
        omega
      exact ⟨start, _, rfl, .unit hhex hn h, by simp⟩
  | high m =>
    simp only [Partial.addUnit] at hread h
    split_ifs at hread h with hlow
    · obtain ⟨start, rfl, rfl⟩ := Option.map_eq_some_iff.mp hread
      simp only [Bool.and_eq_true, decide_eq_true_eq] at hlow
      exact ⟨start, _, rfl, fun hex' hhex' => .pair hhex' hw.1 hw.2 hhex hlow.1 hlow.2 h, by simp⟩

/-- A string body with a value is derived in the grammar. -/
theorem continues_of_stringBody (hw : half.Waits)
    (h : stringBody read half cs = some (some s, rest)) :
    ∃ before text meant, read = some before ∧ Continues half text meant ∧
      cs = text ++ '"' :: rest ∧ s = String.ofList (before.reverse ++ meant) := by
  fun_induction stringBody read half cs with
  | case1 => cases h
  | case2 read half rest' closed =>
    -- The closing quote.
    simp only [Option.some.injEq, Prod.mk.injEq] at h
    obtain ⟨hs, rfl⟩ := h
    obtain ⟨before, hbefore, rfl⟩ := Option.map_eq_some_iff.mp hs
    cases half with
    | none => exact ⟨before, [], [], hbefore, .nil, rfl, by simp⟩
    | high => exact absurd hbefore (by simp [closed])
  | case3 => cases h
  | case4 read half a b c d rest' n hhex read' half' hstep ih =>
    -- An escape by number.
    obtain ⟨rfl, rfl⟩ : (read.addUnit half n).1 = read' ∧ (read.addUnit half n).2 = half' := by
      rw [hstep]
      exact ⟨rfl, rfl⟩
    obtain ⟨before, text, meant, hread, hcontinues, rfl, rfl⟩ :=
      ih (Partial.addUnit_waits read half n) h
    obtain ⟨start, meant', hstart, hcontinues', hmeant⟩ :=
      hcontinues.unit hw (hex4?_iff.mp hhex) hread
    exact ⟨start, _, meant', hstart, hcontinues', rfl, by rw [hmeant]⟩
  | case5 => cases h
  | case6 read half e rest' _ c hescape ih =>
    -- An escape by letter.
    obtain ⟨before, text, meant, hread, hcontinues, rfl, rfl⟩ := ih trivial h
    obtain ⟨rfl, start, rfl, rfl⟩ := Partial.add_eq_some hread
    exact ⟨start, _, _, rfl, .short (unescape?_iff.mp hescape) hcontinues, rfl, by simp⟩
  | case7 => cases h
  | case8 read half c rest' hquote _ _ hplain ih =>
    obtain ⟨before, text, meant, hread, hcontinues, rfl, rfl⟩ := ih trivial h
    obtain ⟨rfl, start, rfl, rfl⟩ := Partial.add_eq_some hread
    simp only [Bool.or_eq_true, decide_eq_true_eq, not_or, Nat.not_lt] at hplain
    exact ⟨start, _, _, rfl, .plain hplain.1 hquote hplain.2 hcontinues, rfl, by simp⟩

theorem quoted_of_stringBody (h : stringBody (some []) .none cs = some (some s, rest)) :
    ∃ text, Quoted text s ∧ '"' :: cs = text ++ rest := by
  have hw : Half.none.Waits := trivial
  obtain ⟨before, text, meant, hbefore, hspelled, rfl, rfl⟩ := continues_of_stringBody hw h
  cases hbefore
  exact ⟨_, .quotes hspelled, by simp⟩

end Strings

/-! ### Values -/

/-- Soundness at a given amount of fuel, for values. -/
def ReadsValues (fuel : Nat) : Prop :=
  ∀ {level : Nat} {cs rest : List Char} {d : Draft} {v : Json}, level ≤ depthLimit →
    value fuel level cs = (d, some rest) → d.written? = some v →
    ∃ before text, Blank before ∧ Writes text v ∧ cs = before ++ (text ++ rest) ∧
      level + v.depth ≤ depthLimit

/-- Soundness at a given amount of fuel, for the items of an array. -/
def ReadsItems (fuel : Nat) : Prop :=
  ∀ {level : Nat} {cs rest : List Char} {ds : List Draft} {vs : List Json}, level ≤ depthLimit →
    items fuel level cs = (ds, some rest) → Draft.writtenItems? ds = some vs →
    ∃ text, WritesItems text vs ∧ cs = text ++ ']' :: rest ∧ level + itemsDepth vs ≤ depthLimit

/-- Soundness at a given amount of fuel, for the members of an object. -/
def ReadsMembers (fuel : Nat) : Prop :=
  ∀ {level : Nat} {cs rest : List Char} {ds : List (Option String × Draft)}
    {ms : List (String × Json)}, level ≤ depthLimit →
    members fuel level cs = (ds, some rest) → Draft.writtenMembers? ds = some ms →
    ∃ text, WritesMembers text ms ∧ cs = text ++ '}' :: rest ∧
      level + membersDepth ms ≤ depthLimit

section Values

variable {fuel level depth : Nat} {cs rest : List Char} {d : Draft} {v : Json}

theorem atDepth_written {r : Reading} (h : atDepth depth r = (d, some rest))
    (hv : d.written? = some v) : depth ≤ depthLimit ∧ r = (d, some rest) := by
  unfold atDepth at h
  split_ifs at h with hdepth hsome
  · exact ⟨hdepth, h⟩
  · obtain ⟨rfl, -⟩ := Prod.mk.inj h
    cases hv
  · cases h

theorem writes_of_array (hi : ReadsItems fuel)
    (h : value (fuel + 1) level ('[' :: cs) = (d, some rest)) (hv : d.written? = some v) :
    ∃ text, Writes text v ∧ '[' :: cs = text ++ rest ∧ level + v.depth ≤ depthLimit := by
  by_cases hclosed : ∃ rest', skipSpace cs = ']' :: rest'
  · obtain ⟨rest', hskip⟩ := hclosed
    obtain ⟨blank, hb, hcs⟩ := exists_blank cs
    rw [value_emptyArray hskip] at h
    obtain ⟨hdepth, h⟩ := atDepth_written h hv
    cases h
    cases hv
    rw [hskip] at hcs
    exact ⟨_, .emptyArray hb, by simp [hcs], hdepth⟩
  · rw [value_array (not_exists.mp hclosed)] at h
    obtain ⟨hdepth, h⟩ := atDepth_written h hv
    obtain ⟨rfl, hrest⟩ := Prod.mk.inj h
    obtain ⟨vs, hvs, rfl⟩ := Option.map_eq_some_iff.mp hv
    obtain ⟨text, hwrites, rfl, hle⟩ := hi hdepth (Prod.ext rfl hrest) hvs
    refine ⟨_, .array hwrites, by simp, ?_⟩
    rw [Json.depth]
    omega

theorem writes_of_object (hm : ReadsMembers fuel)
    (h : value (fuel + 1) level ('{' :: cs) = (d, some rest)) (hv : d.written? = some v) :
    ∃ text, Writes text v ∧ '{' :: cs = text ++ rest ∧ level + v.depth ≤ depthLimit := by
  by_cases hclosed : ∃ rest', skipSpace cs = '}' :: rest'
  · obtain ⟨rest', hskip⟩ := hclosed
    obtain ⟨blank, hb, hcs⟩ := exists_blank cs
    rw [value_emptyObject hskip] at h
    obtain ⟨hdepth, h⟩ := atDepth_written h hv
    cases h
    cases hv
    rw [hskip] at hcs
    exact ⟨_, .emptyObject hb, by simp [hcs], hdepth⟩
  · rw [value_object (not_exists.mp hclosed)] at h
    obtain ⟨hdepth, h⟩ := atDepth_written h hv
    obtain ⟨rfl, hrest⟩ := Prod.mk.inj h
    obtain ⟨ms, hms, rfl⟩ := Option.map_eq_some_iff.mp hv
    obtain ⟨text, hwrites, rfl, hle⟩ := hm hdepth (Prod.ext rfl hrest) hms
    refine ⟨_, .object hwrites, by simp, ?_⟩
    rw [Json.depth]
    omega

theorem readsValues_succ (hi : ReadsItems fuel) (hm : ReadsMembers fuel) :
    ReadsValues (fuel + 1) := by
  intro level cs rest d v hl h hv
  obtain ⟨before, hb, hcs⟩ := exists_blank cs
  suffices ∃ text, Writes text v ∧ skipSpace cs = text ++ rest ∧ level + v.depth ≤ depthLimit by
    obtain ⟨text, hwrites, htext, hdepth⟩ := this
    exact ⟨before, text, hb, hwrites, by rw [← htext, ← hcs], hdepth⟩
  have hskip : value (fuel + 1) level (skipSpace cs) = (d, some rest) :=
    (value_skipSpace _ _ _).trans h
  rw [value] at h
  split at h
  next rest' heq =>
    cases h
    cases hv
    exact ⟨_, .null, heq, hl⟩
  next rest' heq =>
    cases h
    cases hv
    exact ⟨_, .isTrue, heq, hl⟩
  next rest' heq =>
    cases h
    cases hv
    exact ⟨_, .isFalse, heq, hl⟩
  next body heq =>
    split at h
    next s rest' hbody =>
      cases h
      cases hv
      obtain ⟨text, hquoted, htext⟩ := quoted_of_stringBody hbody
      exact ⟨text, .string hquoted, heq.trans htext, hl⟩
    next =>
      cases h
      cases hv
    next => cases h
  next heq =>
    rw [heq] at hskip ⊢
    exact writes_of_array hi hskip hv
  next heq =>
    rw [heq] at hskip ⊢
    exact writes_of_object hm hskip hv
  next =>
    split at h
    next l rest' hliteral =>
      obtain ⟨text, hspells, htext⟩ := spells_of_literal? hliteral
      split at h
      next n hn =>
        cases h
        cases hv
        exact ⟨text, .number hspells (Literal.denotes_iff.mpr hn), htext, hl⟩
      next =>
        cases h
        cases hv
    next => cases h

theorem readsItems_succ (hv : ReadsValues fuel) (hi : ReadsItems fuel) :
    ReadsItems (fuel + 1) := by
  intro level cs rest ds vs hl h hvs
  rw [items] at h
  split at h
  next d hvalue =>
    cases h
  next d after hvalue =>
    split at h
    next rest' hskip =>
      cases h
      obtain ⟨v, hd, hvs⟩ := Option.bind_eq_some_iff.mp hvs
      cases hvs
      obtain ⟨before, text, hb, hwrites, rfl, hle⟩ := hv hl hvalue hd
      obtain ⟨blank, ha, hafter⟩ := exists_blank after
      rw [hskip] at hafter
      refine ⟨_, .last hb hwrites ha, by simp [hafter], ?_⟩
      simpa [itemsDepth] using hle
    next rest' hskip =>
      obtain ⟨rfl, hrest⟩ := Prod.mk.inj h
      obtain ⟨v, hd, hvs⟩ := Option.bind_eq_some_iff.mp hvs
      obtain ⟨ws, hws, hvs⟩ := Option.bind_eq_some_iff.mp hvs
      cases hvs
      obtain ⟨before, text, hb, hwrites, rfl, hle⟩ := hv hl hvalue hd
      obtain ⟨text', hwrites', rfl, hle'⟩ := hi hl (Prod.ext rfl hrest) hws
      obtain ⟨blank, ha, hafter⟩ := exists_blank after
      rw [hskip] at hafter
      refine ⟨_, .more hb hwrites ha hwrites', by simp [hafter], ?_⟩
      rw [itemsDepth]
      omega
    next => cases h

theorem readsMembers_succ (hv : ReadsValues fuel) (hm : ReadsMembers fuel) :
    ReadsMembers (fuel + 1) := by
  intro level cs rest ds ms hl h hms
  rw [members] at h
  split at h
  next body hquote =>
    obtain ⟨before, hb, hcs⟩ := exists_blank cs
    rw [hquote] at hcs
    split at h
    next => cases h
    next key colon hkey =>
      split at h
      next gap hcolon =>
        split at h
        next d hvalue => cases h
        next d after hvalue =>
          cases key with
          | none =>
            -- A key without a value leaves the object without one.
            split at h <;> obtain ⟨rfl, -⟩ := Prod.mk.inj h <;> cases hms
          | some k =>
            obtain ⟨text, hquoted, hbody⟩ := quoted_of_stringBody hkey
            obtain ⟨blank, hblank, hgap⟩ := exists_blank colon
            rw [hcolon] at hgap
            obtain ⟨blank', ha, hafter⟩ := exists_blank after
            split at h
            next rest' hskip =>
              cases h
              obtain ⟨v, hd, hms⟩ := Option.bind_eq_some_iff.mp hms
              cases hms
              obtain ⟨space, text', hspace, hwrites, rfl, hle⟩ := hv hl hvalue hd
              rw [hskip] at hafter
              refine ⟨_, .last hb hquoted hblank hspace hwrites ha, ?_, ?_⟩
              · simp [hcs, hbody, hgap, hafter]
              · simpa [membersDepth] using hle
            next rest' hskip =>
              obtain ⟨rfl, hrest⟩ := Prod.mk.inj h
              obtain ⟨v, hd, hms⟩ := Option.bind_eq_some_iff.mp hms
              obtain ⟨ns, hns, hms⟩ := Option.bind_eq_some_iff.mp hms
              cases hms
              obtain ⟨space, text', hspace, hwrites, rfl, hle⟩ := hv hl hvalue hd
              obtain ⟨tail, hwrites', rfl, hle'⟩ := hm hl (Prod.ext rfl hrest) hns
              rw [hskip] at hafter
              refine ⟨_, .more hb hquoted hblank hspace hwrites ha hwrites', ?_, ?_⟩
              · simp [hcs, hbody, hgap, hafter]
              · rw [membersDepth]
                omega
            next => cases h
      next => cases h
  next => cases h

theorem reads (fuel : Nat) : ReadsValues fuel ∧ ReadsItems fuel ∧ ReadsMembers fuel := by
  induction fuel with
  | zero =>
    refine ⟨?_, ?_, ?_⟩
    · intro _ _ _ _ _ _ h
      cases h
    · intro _ _ _ _ _ _ h
      cases h
    · intro _ _ _ _ _ _ h
      cases h
  | succ fuel ih =>
    obtain ⟨hv, hi, hm⟩ := ih
    exact ⟨readsValues_succ hi hm, readsItems_succ hv hi, readsMembers_succ hv hm⟩

end Values

/-! ### Whole texts -/

/-- The complete drafts with a value are those of the documents. -/
theorem document_iff {text : List Char} {v : Json} :
    Document text v ↔ ∃ d, draft text = (d, true) ∧ d.written? = some v := by
  constructor
  · exact fun h => ⟨_, h.draft, Draft.written?_ofJson v⟩
  · rintro ⟨d, h, hv⟩
    unfold draft at h
    split at h
    next => cases h
    next d rest hvalue =>
      obtain ⟨rfl, hafter⟩ := Prod.mk.inj h
      obtain ⟨before, cs, hb, hwrites, rfl, hle⟩ := (reads _).1 (Nat.zero_le _) hvalue hv
      obtain ⟨after, ha, hrest⟩ := exists_blank rest
      rw [List.isEmpty_iff.mp hafter, List.append_nil] at hrest
      subst hrest
      exact ⟨before, cs, rest, hb, hwrites, ha, rfl, by simpa [depthLimit] using hle⟩

/-- The reader accepts exactly the documents, with their values in normal form. -/
theorem parse?_eq_some_iff {s : String} {v : Json} :
    parse? s = some v ↔ ∃ w, Document s.toList w ∧ v = w.normal := by
  constructor
  · intro h
    obtain ⟨d, hd, hv⟩ := parse?_eq_some h
    obtain ⟨w, hw, rfl⟩ := Option.map_eq_some_iff.mp hv
    exact ⟨w, document_iff.mpr ⟨d, hd, hw⟩, rfl⟩
  · rintro ⟨w, hw, rfl⟩
    rw [parse?, hw.draft]
    exact Draft.value?_ofJson w

theorem parse?_eq_none_iff {s : String} : parse? s = none ↔ ¬∃ v, Document s.toList v := by
  rw [Option.eq_none_iff_forall_ne_some]
  constructor
  · rintro h ⟨w, hw⟩
    exact h _ (parse?_eq_some_iff.mpr ⟨w, hw, rfl⟩)
  · intro h v hv
    obtain ⟨w, hw, -⟩ := parse?_eq_some_iff.mp hv
    exact h ⟨w, hw⟩

/-- The grammar is unambiguous. -/
theorem Document.unique {text : List Char} {v w : Json} (hv : Document text v)
    (hw : Document text w) : v = w := by
  have h := hv.draft.symm.trans hw.draft
  have hwritten := congrArg Draft.written? (Prod.mk.inj h).1
  rw [Draft.written?_ofJson, Draft.written?_ofJson] at hwritten
  exact Option.some.inj hwritten

/-! ### Trimming -/

/-- A text that neither starts nor ends with white space. -/
structure Bare (cs : List Char) : Prop where
  first : ∃ c rest, cs = c :: rest ∧ isBlank c = false
  last : ∃ rest c, cs = rest ++ [c] ∧ isBlank c = false

theorem Blank.isBlank {cs : List Char} (h : Blank cs) : ∀ c ∈ cs, isBlank c = true := by
  intro c hc
  rcases h c hc with rfl | rfl | rfl | rfl <;> decide

theorem Bare.trim {before cs after : List Char} (h : Bare cs) (hb : Blank before) (ha : Blank after) :
    trim (before ++ (cs ++ after)) = cs := by
  have hstart : trimStart (before ++ (cs ++ after)) = cs ++ after := by
    obtain ⟨c, rest, rfl, hc⟩ := h.first
    rw [trimStart, List.dropWhile_append_of_pos hb.isBlank]
    simp [hc]
  obtain ⟨rest, c, rfl, hc⟩ := h.last
  have hafter : ∀ c ∈ after.reverse, Text.isBlank c = true := fun c hmem =>
    ha.isBlank c (List.mem_reverse.mp hmem)
  rw [Text.trim, hstart, trimEnd, List.reverse_append, List.dropWhile_append_of_pos hafter]
  simp [hc]

theorem Bare.of_all {cs : List Char} (hne : cs ≠ []) (h : ∀ c ∈ cs, isBlank c = false) : Bare cs where
  first := by
    obtain ⟨c, rest, rfl⟩ := List.exists_cons_of_ne_nil hne
    exact ⟨c, rest, rfl, h c List.mem_cons_self⟩
  last := ⟨cs.dropLast, cs.getLast hne, (List.dropLast_concat_getLast hne).symm,
    h _ (List.getLast_mem hne)⟩

theorem Bare.between {c d : Char} (hc : isBlank c = false) (hd : isBlank d = false) (cs : List Char) :
    Bare (c :: (cs ++ [d])) :=
  ⟨⟨c, _, rfl, hc⟩, ⟨c :: cs, d, rfl, hd⟩⟩

theorem Spells.isBlank {cs : List Char} {l : Literal} (h : Spells cs l) :
    ∀ c ∈ cs, isBlank c = false := by
  have hdigits {ds : List Char} (hds : Digits ds) : ∀ c ∈ ds, Text.isBlank c = false :=
    fun c hc => isBlank_of_isDigit (hds.2 c hc)
  have hletter {e : Char} (he : e = 'e' ∨ e = 'E') : Text.isBlank e = false := by
    rcases he with rfl | rfl <;> decide
  obtain ⟨negative, hw, hf, he⟩ := h
  refine List.forall_mem_append.mpr ⟨?_, List.forall_mem_append.mpr ⟨hdigits hw.digits,
    List.forall_mem_append.mpr ⟨?_, ?_⟩⟩⟩
  · cases negative with
    | true => exact List.forall_mem_singleton.mpr (by decide)
    | false => exact nofun
  · cases hf with
    | absent => exact nofun
    | point hds => exact List.forall_mem_cons.mpr ⟨by decide, hdigits hds⟩
  · cases he with
    | absent => exact nofun
    | plain he hds => exact List.forall_mem_cons.mpr ⟨hletter he, hdigits hds⟩
    | plus he hds | minus he hds =>
      exact List.forall_mem_cons.mpr ⟨hletter he, List.forall_mem_cons.mpr ⟨by decide, hdigits hds⟩⟩

theorem Writes.bare {cs : List Char} {v : Json} (h : Writes cs v) : Bare cs := by
  have hword {word : List Char} (h : word.all (!Text.isBlank ·) = true) :
      ∀ c ∈ word, Text.isBlank c = false :=
    fun c hc => by simpa using List.all_eq_true.mp h c hc
  cases h with
  | number hs _ =>
    obtain ⟨c, rest, rfl, -⟩ := hs.head
    exact .of_all (List.cons_ne_nil _ _) hs.isBlank
  | string hq =>
    cases hq
    exact .between (by decide) (by decide) _
  | null | isTrue | isFalse => exact .of_all (List.cons_ne_nil _ _) (hword (by decide))
  | _ => exact .between (by decide) (by decide) _

/-- Trimming a document leaves a document of the same value. -/
theorem Document.trim {text : List Char} {v : Json} (h : Document text v) :
    Document (Text.trim text) v := by
  obtain ⟨before, cs, after, hb, hcs, ha, rfl, hv⟩ := h
  rw [hcs.bare.trim hb ha]
  exact ⟨[], cs, [], nofun, hcs, nofun, by simp, hv⟩

end ReleaseDesk.Json
