import Mathlib.Tactic.Common
import ReleaseDesk.Text.Encoding

/-! UTF-8 decoding inverts encoding, and accepts exactly the encoded texts. The invariant of the
decoder describes an unfinished character by what its remaining octets complete it to, which makes
the step uniform in the length of the encoding. The octet of a line feed occurs only in the encoding
of a line feed. -/

namespace ReleaseDesk.Text.Utf8

@[simp] theorem encode_nil : encode [] = [] := rfl

@[simp] theorem encode_cons (c : Char) (cs : List Char) :
    encode (c :: cs) = encodeChar c ++ encode cs := by
  simp [encode]

@[simp] theorem encode_append (cs ds : List Char) : encode (cs ++ ds) = encode cs ++ encode ds := by
  simp [encode]

/-! ### Decoder steps -/

theorem toNat_ofNat_octet {n : Nat} (h : n < 256) : (UInt8.ofNat n).toNat = n := by
  simp [UInt8.toNat_ofNat', Nat.mod_eq_of_lt h]

/-- A character is a code point that is not a surrogate. -/
theorem char_toNat_valid (c : Char) : c.toNat < 0xD800 ∨ (0xDFFF < c.toNat ∧ c.toNat < 0x110000) :=
  c.valid

theorem step_single {b : UInt8} {payload low high : Nat}
    (h : lead? b.toNat = some (payload, 0, low, high)) (read : List Char) (taken : Nat) :
    State.step (.between read taken) b = .between (Char.ofNat payload :: read) (taken + 1) := by
  simp only [State.step, h]

theorem step_lead {b : UInt8} {payload toCome low high : Nat}
    (h : lead? b.toNat = some (payload, toCome + 1, low, high)) (read : List Char) (taken : Nat) :
    State.step (.between read taken) b = .within read taken payload 1 (toCome + 1) low high := by
  simp only [State.step, h]

theorem step_last {b : UInt8} {low high : Nat} (hl : low ≤ b.toNat) (hh : b.toNat ≤ high)
    (read : List Char) (taken payload seen : Nat) :
    State.step (.within read taken payload seen 1 low high) b =
      .between (Char.ofNat (payload * 0x40 + (b.toNat - 0x80)) :: read) (taken + seen + 1) := by
  simp [State.step, hl, hh]

theorem step_further {b : UInt8} {low high : Nat} (hl : low ≤ b.toNat) (hh : b.toNat ≤ high)
    (read : List Char) (taken payload seen toCome : Nat) :
    State.step (.within read taken payload seen (toCome + 2) low high) b =
      .within read taken (payload * 0x40 + (b.toNat - 0x80)) (seen + 1) (toCome + 1) 0x80 0xBF := by
  simp [State.step, hl, hh]

/-! ### Decoding what was encoded -/

theorem lead?_one {b : Nat} (h : b < 0x80) : lead? b = some (b, 0, 0x80, 0xBF) := by
  simp [lead?, h]

theorem lead?_two {b : Nat} (h : 0xC2 ≤ b) (h' : b < 0xE0) :
    lead? b = some (b - 0xC0, 1, 0x80, 0xBF) := by
  unfold lead?
  rw [if_neg (by omega), if_neg (by omega), if_pos h']

/-- The bounds after a lead octet of three exclude overlong encodings and surrogates. -/
theorem lead?_three {b m : Nat} (hb : b = 0xE0 + m / 0x40) (hl : 0x20 ≤ m) (hh : m < 0x400)
    (hs : m < 0x360 ∨ 0x380 ≤ m) :
    ∃ low high, lead? b = some (m / 0x40, 2, low, high) ∧
      low ≤ 0x80 + m % 0x40 ∧ 0x80 + m % 0x40 ≤ high := by
  subst hb
  unfold lead?
  rw [if_neg (by omega), if_neg (by omega), if_neg (by omega)]
  split_ifs with h1 h2 h3 h4
  · exact ⟨0xA0, 0xBF, by simp; omega, by omega, by omega⟩
  · exact ⟨0x80, 0x9F, by simp; omega, by omega, by omega⟩
  · exact ⟨0x80, 0xBF, by simp, by omega, by omega⟩
  all_goals omega

/-- The bounds after a lead octet of four exclude overlong encodings and code points beyond the
last. -/
theorem lead?_four {b m : Nat} (hb : b = 0xF0 + m / 0x40) (hl : 0x10 ≤ m) (hh : m < 0x110) :
    ∃ low high, lead? b = some (m / 0x40, 3, low, high) ∧
      low ≤ 0x80 + m % 0x40 ∧ 0x80 + m % 0x40 ≤ high := by
  subst hb
  unfold lead?
  rw [if_neg (by omega), if_neg (by omega), if_neg (by omega), if_neg (by omega),
    if_neg (by omega), if_neg (by omega)]
  split_ifs with h1 h2 h3
  · exact ⟨0x90, 0xBF, by simp; omega, by omega, by omega⟩
  · exact ⟨0x80, 0xBF, by simp, by omega, by omega⟩
  · exact ⟨0x80, 0x8F, by simp; omega, by omega, by omega⟩
  · omega

theorem foldl_encodeChar (c : Char) (read : List Char) (taken : Nat) :
    (encodeChar c).foldl State.step (.between read taken) =
      .between (c :: read) (taken + (encodeChar c).length) := by
  have hv := char_toNat_valid c
  have hc : Char.ofNat c.toNat = c := Char.ofNat_toNat c
  unfold encodeChar
  generalize c.toNat = n at hv hc
  dsimp only
  split_ifs with h1 h2 h3 <;> simp only [List.foldl_cons, List.foldl_nil]
  · have hlead : lead? (UInt8.ofNat n).toNat = some (n, 0, 0x80, 0xBF) := by
      rw [toNat_ofNat_octet (by omega), lead?_one h1]
    rw [step_single hlead, hc]
    rfl
  · have e := toNat_ofNat_octet (n := 0x80 + n % 0x40) (by omega)
    have hlead : lead? (UInt8.ofNat (0xC0 + n / 0x40)).toNat = some (n / 0x40, 1, 0x80, 0xBF) := by
      rw [toNat_ofNat_octet (by omega), lead?_two (by omega) (by omega)]
      simp
    rw [step_lead hlead, step_last (by omega) (by omega), e,
      show n / 0x40 * 0x40 + (0x80 + n % 0x40 - 0x80) = n by omega, hc]
    rfl
  · have e1 := toNat_ofNat_octet (n := 0x80 + n / 0x40 % 0x40) (by omega)
    have e2 := toNat_ofNat_octet (n := 0x80 + n % 0x40) (by omega)
    obtain ⟨low, high, hlead, hl, hh⟩ :=
      lead?_three (b := 0xE0 + n / 0x1000) (m := n / 0x40) (by omega) (by omega) (by omega) (by omega)
    rw [← toNat_ofNat_octet (n := 0xE0 + n / 0x1000) (by omega)] at hlead
    rw [step_lead hlead, step_further (by omega) (by omega), step_last (by omega) (by omega), e1, e2,
      show (n / 0x40 / 0x40 * 0x40 + (0x80 + n / 0x40 % 0x40 - 0x80)) * 0x40 +
        (0x80 + n % 0x40 - 0x80) = n by omega, hc]
    rfl
  · have e1 := toNat_ofNat_octet (n := 0x80 + n / 0x1000 % 0x40) (by omega)
    have e2 := toNat_ofNat_octet (n := 0x80 + n / 0x40 % 0x40) (by omega)
    have e3 := toNat_ofNat_octet (n := 0x80 + n % 0x40) (by omega)
    obtain ⟨low, high, hlead, hl, hh⟩ :=
      lead?_four (b := 0xF0 + n / 0x40000) (m := n / 0x1000) (by omega) (by omega) (by omega)
    rw [← toNat_ofNat_octet (n := 0xF0 + n / 0x40000) (by omega)] at hlead
    rw [step_lead hlead, step_further (by omega) (by omega), step_further (by omega) (by omega),
      step_last (by omega) (by omega), e1, e2, e3,
      show ((n / 0x1000 / 0x40 * 0x40 + (0x80 + n / 0x1000 % 0x40 - 0x80)) * 0x40 +
        (0x80 + n / 0x40 % 0x40 - 0x80)) * 0x40 + (0x80 + n % 0x40 - 0x80) = n by omega, hc]
    rfl

theorem foldl_encode (cs : List Char) (read : List Char) (taken : Nat) :
    (encode cs).foldl State.step (.between read taken) =
      .between (cs.reverse ++ read) (taken + (encode cs).length) := by
  induction cs generalizing read taken with
  | nil => simp
  | cons c cs ih =>
    rw [encode_cons, List.foldl_append, foldl_encodeChar, ih]
    simp [Nat.add_assoc]

theorem decode_encode (cs : List Char) : decode (encode cs) = .ok cs := by
  simp [decode, foldl_encode]

/-! ### Soundness of the decoder -/

/-- Any admissible octets complete `begun` to the encoding of the character with their payload. -/
def Completes : (toCome low high payload : Nat) → (begun : List UInt8) → Prop
  | 0, _, _, payload, begun => encodeChar (Char.ofNat payload) = begun
  | toCome + 1, low, high, payload, begun => ∀ b : UInt8, low ≤ b.toNat → b.toNat ≤ high →
    Completes toCome 0x80 0xBF (payload * 0x40 + (b.toNat - 0x80)) (begun ++ [b])

/-- The invariant of the decoder: the octets consumed are the encoding of the characters read,
followed by the beginning of one. -/
def Spells : State → List UInt8 → Prop
  | .between read _, bytes => encode read.reverse = bytes
  | .within read _ payload _ toCome low high, bytes => ∃ begun,
    bytes = encode read.reverse ++ begun ∧ 0 < toCome ∧ Completes toCome low high payload begun
  | .failed _, _ => True

theorem octet_ext {n : Nat} {b : UInt8} (hn : n < 256) (h : n = b.toNat) : UInt8.ofNat n = b := by
  rw [← UInt8.toNat_inj, toNat_ofNat_octet hn, h]

theorem toNat_ofNat_char {n : Nat} (h : n < 0xD800 ∨ (0xDFFF < n ∧ n < 0x110000)) :
    (Char.ofNat n).toNat = n := by
  unfold Char.ofNat
  rw [dif_pos h]
  rfl

theorem completes_one {b : UInt8} (h : b.toNat < 0x80) : Completes 0 0 0 b.toNat [b] := by
  simp only [Completes, encodeChar, toNat_ofNat_char (n := b.toNat) (by omega), if_pos h]
  simp

theorem completes_two {b : UInt8} (h : 0xC2 ≤ b.toNat) (h' : b.toNat < 0xE0) :
    Completes 1 0x80 0xBF (b.toNat - 0xC0) [b] := by
  intro c hl hh
  simp only [Completes, encodeChar, List.cons_append, List.nil_append]
  rw [toNat_ofNat_char (by omega), if_neg (by omega), if_pos (by omega)]
  simp only [List.cons.injEq, and_true]
  exact ⟨octet_ext (by omega) (by omega), octet_ext (by omega) (by omega)⟩

theorem completes_three {b : UInt8} {payload low high : Nat} (hb : b.toNat = 0xE0 + payload)
    (hp : payload < 0x10) (hlow : 0x80 ≤ low) (hhigh : high ≤ 0xBF)
    (hover : payload = 0 → 0xA0 ≤ low) (hsurr : payload = 0xD → high ≤ 0x9F) :
    Completes 2 low high payload [b] := by
  intro c hl hh d hl' hh'
  simp only [Completes, encodeChar, List.cons_append, List.nil_append]
  rw [toNat_ofNat_char (by omega), if_neg (by omega), if_neg (by omega), if_pos (by omega)]
  simp only [List.cons.injEq, and_true]
  exact ⟨octet_ext (by omega) (by omega), octet_ext (by omega) (by omega),
    octet_ext (by omega) (by omega)⟩

theorem completes_four {b : UInt8} {payload low high : Nat} (hb : b.toNat = 0xF0 + payload)
    (hp : payload ≤ 4) (hlow : 0x80 ≤ low) (hhigh : high ≤ 0xBF)
    (hover : payload = 0 → 0x90 ≤ low) (hpast : payload = 4 → high ≤ 0x8F) :
    Completes 3 low high payload [b] := by
  intro c hl hh d hl' hh' e hl'' hh''
  simp only [Completes, encodeChar, List.cons_append, List.nil_append]
  rw [toNat_ofNat_char (by omega), if_neg (by omega), if_neg (by omega), if_neg (by omega)]
  simp only [List.cons.injEq, and_true]
  exact ⟨octet_ext (by omega) (by omega), octet_ext (by omega) (by omega),
    octet_ext (by omega) (by omega), octet_ext (by omega) (by omega)⟩

theorem completes_lead {b : UInt8} {payload toCome low high : Nat}
    (h : lead? b.toNat = some (payload, toCome, low, high)) :
    Completes toCome low high payload [b] := by
  unfold lead? at h
  split_ifs at h with h1 h2 h3 h4 h5 h6 h7 h8 h9 <;>
    (simp only [Option.some.injEq, Prod.mk.injEq] at h; obtain ⟨rfl, rfl, rfl, rfl⟩ := h)
  · exact completes_one h1
  · exact completes_two (by omega) h3
  all_goals first
    | exact completes_three (by omega) (by omega) (by omega) (by omega) (by omega) (by omega)
    | exact completes_four (by omega) (by omega) (by omega) (by omega) (by omega) (by omega)

theorem spells_step {s : State} {bytes : List UInt8} (h : Spells s bytes) (b : UInt8) :
    Spells (s.step b) (bytes ++ [b]) := by
  cases s with
  | failed fault => trivial
  | between read taken =>
    simp only [Spells] at h
    simp only [State.step]
    split
    next => trivial
    next payload low high hlead =>
      have hc := completes_lead hlead
      simp only [Completes] at hc
      simp [Spells, h, hc]
    next payload toCome low high hne hlead =>
      exact ⟨[b], by rw [h], Nat.pos_of_ne_zero hne, completes_lead hlead⟩
  | within read taken payload seen toCome low high =>
    obtain ⟨begun, rfl, hpos, hc⟩ := h
    obtain ⟨n, rfl⟩ := Nat.exists_eq_succ_of_ne_zero (Nat.pos_iff_ne_zero.1 hpos)
    simp only [State.step]
    split_ifs with hr hn
    · simp only [Bool.and_eq_true, decide_eq_true_eq] at hr
      have hlast := hc b hr.1 hr.2
      obtain rfl : n = 0 := by omega
      simp only [Completes] at hlast
      simp [Spells, hlast]
    · simp only [Bool.and_eq_true, decide_eq_true_eq] at hr
      exact ⟨begun ++ [b], by simp, by omega, hc b hr.1 hr.2⟩
    · trivial

theorem spells_foldl (s : State) (seen bytes : List UInt8) (h : Spells s seen) :
    Spells (bytes.foldl State.step s) (seen ++ bytes) := by
  induction bytes generalizing s seen with
  | nil => simpa using h
  | cons b bytes ih =>
    have := ih (s.step b) (seen ++ [b]) (spells_step h b)
    simpa using this

theorem encode_of_decode {bytes : List UInt8} {cs : List Char} (h : decode bytes = .ok cs) :
    encode cs = bytes := by
  have hs := spells_foldl (.between [] 0) [] bytes rfl
  rw [List.nil_append] at hs
  unfold decode at h
  split at h
  next read taken he =>
    rw [he] at hs
    cases h
    exact hs
  next => cases h
  next => cases h

theorem decode_eq_error_iff {bytes : List UInt8} :
    (∃ fault, decode bytes = .error fault) ↔ ∀ cs, encode cs ≠ bytes := by
  constructor
  · rintro ⟨fault, h⟩ cs rfl
    rw [decode_encode] at h
    cases h
  · intro h
    cases hd : decode bytes with
    | error fault => exact ⟨fault, rfl⟩
    | ok cs => exact absurd (encode_of_decode hd) (h cs)

/-! ### The line feed -/

theorem lineFeed_mem_encodeChar {c : Char} : (10 : UInt8) ∈ encodeChar c ↔ c = '\n' := by
  have key {n : Nat} (h : n < 256) (hn : n ≠ 10) : (10 : UInt8) ≠ UInt8.ofNat n := by
    intro e
    have := congrArg UInt8.toNat e
    rw [toNat_ofNat_octet h] at this
    exact hn this.symm
  constructor
  · intro h
    have hv := char_toNat_valid c
    rw [← Char.ofNat_toNat c]
    unfold encodeChar at h
    generalize c.toNat = n at h hv ⊢
    by_contra hne
    have hn : n ≠ 10 := by rintro rfl; exact hne rfl
    dsimp only at h
    split_ifs at h <;> simp only [List.mem_cons, List.not_mem_nil, or_false] at h
    · exact key (by omega) hn h
    · exact h.elim (key (by omega) (by omega)) (key (by omega) (by omega))
    · obtain h | h | h := h <;> exact key (by omega) (by omega) h
    · obtain h | h | h | h := h <;> exact key (by omega) (by omega) h
  · rintro rfl
    decide

theorem lineFeed_mem_encode {cs : List Char} : (10 : UInt8) ∈ encode cs ↔ '\n' ∈ cs := by
  induction cs with
  | nil => simp
  | cons c cs ih => simp [lineFeed_mem_encodeChar, ih, eq_comm]

end ReleaseDesk.Text.Utf8
