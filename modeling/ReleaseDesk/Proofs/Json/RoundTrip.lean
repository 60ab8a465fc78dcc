import ReleaseDesk.Proofs.Json.Acceptance

/-! The reader inverts the printer. The compact and the indented printer differ only in white space,
so both are instances of a printer parametrised by a layout, whose output is derived in the grammar.
A value of admissible depth whose numbers read back is parsed to its normal form. -/

namespace ReleaseDesk.Json

open ReleaseDesk.Text

/-! ### Strings -/

theorem hexDigit_digitChar {n : Nat} (h : n < 16) : HexDigit n.digitChar n := ⟨h, .inl rfl⟩

theorem hexUnit_hex4 {n : Nat} (h : n < 0x20) : HexUnit (hex4 n) n := by
  have hdigits : ∀ n < 0x20, hex4 n = [(0 : Nat).digitChar, (0 : Nat).digitChar,
      (n / 16).digitChar, (n % 16).digitChar] := by decide
  have hunit := HexUnit.digits (hexDigit_digitChar (n := 0) (by decide))
    (hexDigit_digitChar (n := 0) (by decide)) (hexDigit_digitChar (n := n / 16) (by omega))
    (hexDigit_digitChar (n := n % 16) (by omega))
  rw [hdigits n h]
  convert hunit using 1
  omega

theorem spelled_escape (c : Char) {cs meant : List Char} (h : Spelled cs meant) :
    Spelled (escape c ++ cs) (c :: meant) := by
  have short {e : Char} (he : (e, c) ∈ shortEscapes) : Spelled ('\\' :: e :: cs) (c :: meant) :=
    .short he h
  unfold escape
  split_ifs with hquote hslash hn hr ht hb hf hcontrol
  · exact short (by simp [shortEscapes, hquote])
  · exact short (by simp [shortEscapes, hslash])
  · exact short (by simp [shortEscapes, hn])
  · exact short (by simp [shortEscapes, hr])
  · exact short (by simp [shortEscapes, ht])
  · exact short (by simp [shortEscapes, hb])
  · exact short (by simp [shortEscapes, hf])
  · have hunit := Spelled.unit (hexUnit_hex4 hcontrol) (by omega) h
    rwa [Char.ofNat_toNat] at hunit
  · exact .plain (Nat.not_lt.mp hcontrol) hquote hslash h

theorem spelled_flatMap (cs : List Char) : Spelled (cs.flatMap escape) cs := by
  induction cs with
  | nil => exact .nil
  | cons c cs ih =>
    rw [List.flatMap_cons]
    exact spelled_escape c ih

theorem quoted_stringChars (s : String) : Quoted (stringChars s) s := by
  have h := Quoted.quotes (spelled_flatMap s.toList)
  rwa [String.ofList_toList] at h

/-! ### Numbers -/

theorem ReadsBack.writes {n : Number} (h : ReadsBack n) : Writes (numberChars n) (.number n) := by
  obtain ⟨w, ⟨before, cs, after, hb, hw, ha, hcs, -⟩, hnormal⟩ := parse?_eq_some_iff.mp h
  rw [render, chars, String.toList_ofList] at hcs
  -- No character of a number is a blank.
  have hblank {blank : List Char} (hblank : Blank blank) (hsub : blank ⊆ numberChars n) :
      blank = [] := by
    refine List.eq_nil_iff_forall_not_mem.mpr fun c hc => ?_
    have hspace := isSpace_of_isNumeric (isNumeric_of_mem_numberChars n c (hsub hc))
    rw [blank_iff.mp hblank c hc] at hspace
    cases hspace
  obtain rfl : before = [] := hblank hb (hcs ▸ List.subset_append_left _ _)
  obtain rfl : after = [] := hblank ha (hcs ▸ fun c hc => by simp [hc])
  rw [List.append_nil, List.nil_append] at hcs
  cases w <;> simp only [normal, reduceCtorEq, number.injEq] at hnormal
  rw [hcs, hnormal]
  exact hw

/-! ### Layouts -/

/-- The white space of a layout: before an item at a depth, and after a colon. -/
structure Layout where
  gap : Nat → List Char
  space : List Char
  gap_blank : ∀ n, Blank (gap n)
  space_blank : Blank space

namespace Layout

def dense : Layout := ⟨fun _ => [], [], by simp [Blank], by simp [Blank]⟩

def lines : Layout where
  gap := newLine
  space := [' ']
  gap_blank n c hc := by
    rcases List.mem_cons.mp hc with rfl | hc
    · exact .inr (.inr (.inl rfl))
    · exact .inl (List.mem_replicate.mp hc).2
  space_blank := List.forall_mem_singleton.mpr (.inl rfl)

@[simp] theorem dense_gap (n : Nat) : dense.gap n = [] := rfl

@[simp] theorem dense_space : dense.space = [] := rfl

@[simp] theorem lines_gap (n : Nat) : lines.gap n = newLine n := rfl

@[simp] theorem lines_space : lines.space = [' '] := rfl

variable (l : Layout)

mutual

/-- Prints a value in a layout, starting at a depth. -/
def print (depth : Nat) : Json → List Char
  | .null => "null".toList
  | .bool true => "true".toList
  | .bool false => "false".toList
  | .number n => numberChars n
  | .string s => stringChars s
  | .array [] => ['[', ']']
  | .array (v :: rest) =>
    '[' :: (l.gap (depth + 1) ++ print (depth + 1) v ++ printItems depth rest)
  | .object [] => ['{', '}']
  | .object ((k, v) :: rest) =>
    '{' :: (l.gap (depth + 1) ++ stringChars k ++ ':' :: (l.space ++
      (print (depth + 1) v ++ printMembers depth rest)))

def printItems (depth : Nat) : List Json → List Char
  | [] => l.gap depth ++ [']']
  | v :: rest => ',' :: (l.gap (depth + 1) ++ print (depth + 1) v ++ printItems depth rest)

def printMembers (depth : Nat) : List (String × Json) → List Char
  | [] => l.gap depth ++ ['}']
  | (k, v) :: rest =>
    ',' :: (l.gap (depth + 1) ++ stringChars k ++ ':' :: (l.space ++
      (print (depth + 1) v ++ printMembers depth rest)))

end

mutual

theorem print_dense (depth : Nat) : (v : Json) → dense.print depth v = v.chars
  | .null => rfl
  | .bool true => rfl
  | .bool false => rfl
  | .number _ => rfl
  | .string _ => rfl
  | .array [] => rfl
  | .array (v :: rest) => by
    simp [print, chars, print_dense _ v, printItems_dense _ rest]
  | .object [] => rfl
  | .object ((k, v) :: rest) => by
    simp [print, chars, print_dense _ v, printMembers_dense _ rest]

theorem printItems_dense (depth : Nat) : (items : List Json) →
    dense.printItems depth items = itemChars items
  | [] => rfl
  | v :: rest => by
    simp [printItems, itemChars, print_dense _ v, printItems_dense _ rest]

theorem printMembers_dense (depth : Nat) : (members : List (String × Json)) →
    dense.printMembers depth members = memberChars members
  | [] => rfl
  | (k, v) :: rest => by
    simp [printMembers, memberChars, print_dense _ v, printMembers_dense _ rest]

end

mutual

theorem print_lines (depth : Nat) : (v : Json) → lines.print depth v = prettyChars depth v
  | .null => rfl
  | .bool true => rfl
  | .bool false => rfl
  | .number _ => rfl
  | .string _ => rfl
  | .array [] => rfl
  | .array (v :: rest) => by
    simp [print, prettyChars, print_lines _ v, printItems_lines _ rest]
  | .object [] => rfl
  | .object ((k, v) :: rest) => by
    simp [print, prettyChars, print_lines _ v, printMembers_lines _ rest]

theorem printItems_lines (depth : Nat) : (items : List Json) →
    lines.printItems depth items = prettyItems depth items
  | [] => rfl
  | v :: rest => by
    simp [printItems, prettyItems, print_lines _ v, printItems_lines _ rest]

theorem printMembers_lines (depth : Nat) : (members : List (String × Json)) →
    lines.printMembers depth members = prettyMembers depth members
  | [] => rfl
  | (k, v) :: rest => by
    simp [printMembers, prettyMembers, print_lines _ v, printMembers_lines _ rest]

end

end Layout

/-! ### The round trip -/

namespace Layout

variable (l : Layout)

mutual

/-- The output of the printer is derived in the grammar. -/
theorem print_writes (depth : Nat) : (v : Json) → v.Legible → Writes (l.print depth v) v
  | .null, _ => .null
  | .bool true, _ => .isTrue
  | .bool false, _ => .isFalse
  | .number _, h => ReadsBack.writes h
  | .string s, _ => .string (quoted_stringChars s)
  | .array [], _ => .emptyArray (List.forall_mem_nil _)
  | .object [], _ => .emptyObject (List.forall_mem_nil _)
  | .array (v :: vs), h => by
    obtain ⟨cs, hcs, hwrites⟩ := printItems_writes depth vs h.2 (l.gap_blank (depth + 1))
      (print_writes (depth + 1) v h.1)
    rw [print, hcs]
    exact .array hwrites
  | .object ((k, v) :: ms), h => by
    obtain ⟨cs, hcs, hwrites⟩ := printMembers_writes depth ms h.2 (l.gap_blank (depth + 1))
      (quoted_stringChars k) (print_writes (depth + 1) v h.1)
    rw [print, hcs]
    exact .object hwrites

theorem printItems_writes (depth : Nat) : (vs : List Json) → LegibleItems vs →
    ∀ {before text : List Char} {v : Json}, Blank before → Writes text v →
    ∃ cs, before ++ text ++ l.printItems depth vs = cs ++ [']'] ∧ WritesItems cs (v :: vs)
  | [], _, _, _, _, hb, hv => ⟨_, by simp [printItems], .last hb hv (l.gap_blank depth)⟩
  | w :: vs, h, _, _, _, hb, hv => by
    obtain ⟨cs, hcs, hwrites⟩ := printItems_writes depth vs h.2 (l.gap_blank (depth + 1))
      (print_writes (depth + 1) w h.1)
    refine ⟨_, ?_, .more hb hv (List.forall_mem_nil _) hwrites⟩
    rw [printItems, hcs]
    simp

theorem printMembers_writes (depth : Nat) : (ms : List (String × Json)) → LegibleMembers ms →
    ∀ {before key text : List Char} {k : String} {v : Json}, Blank before → Quoted key k →
    Writes text v →
    ∃ cs, before ++ key ++ ':' :: (l.space ++ (text ++ l.printMembers depth ms)) = cs ++ ['}'] ∧
      WritesMembers cs ((k, v) :: ms)
  | [], _, _, _, _, _, _, hb, hk, hv => ⟨_, by simp [printMembers],
      .last hb hk (List.forall_mem_nil _) l.space_blank hv (l.gap_blank depth)⟩
  | (k, v) :: ms, h, _, _, _, _, _, hb, hk, hv => by
    obtain ⟨cs, hcs, hwrites⟩ := printMembers_writes depth ms h.2 (l.gap_blank (depth + 1))
      (quoted_stringChars k) (print_writes (depth + 1) v h.1)
    refine ⟨_, ?_, .more hb hk (List.forall_mem_nil _) l.space_blank hv (List.forall_mem_nil _)
      hwrites⟩
    rw [printMembers, hcs]
    simp

end

theorem print_document {v : Json} (h : v.Legible) (hd : v.depth ≤ depthLimit) (depth : Nat) :
    Document (l.print depth v) v :=
  ⟨[], _, [], List.forall_mem_nil _, l.print_writes depth v h, List.forall_mem_nil _, by simp, hd⟩

end Layout

theorem draft_render {v : Json} (h : v.Legible) (hd : v.depth ≤ depthLimit) :
    draft v.render.toList = (.ofJson v, true) := by
  have := (Layout.dense.print_document h hd 0).draft
  rwa [Layout.print_dense, ← String.toList_ofList (l := v.chars)] at this

theorem draft_pretty {v : Json} (h : v.Legible) (hd : v.depth ≤ depthLimit) :
    draft v.pretty.toList = (.ofJson v, true) := by
  have := (Layout.lines.print_document h hd 0).draft
  rwa [Layout.print_lines, ← String.toList_ofList (l := prettyChars 0 v)] at this

theorem parse?_render {v : Json} (h : v.Legible) (hd : v.depth ≤ depthLimit) :
    parse? v.render = some v.normal := by
  rw [parse?, draft_render h hd]
  exact Draft.value?_ofJson v

theorem parse?_pretty {v : Json} (h : v.Legible) (hd : v.depth ≤ depthLimit) :
    parse? v.pretty = some v.normal := by
  rw [parse?, draft_pretty h hd]
  exact Draft.value?_ofJson v

end ReleaseDesk.Json
