import Mathlib.Tactic.Common
import ReleaseDesk.Proofs.Json.Normal
import ReleaseDesk.Proofs.Timestamp
import ReleaseDesk.Wire.Choice
import ReleaseDesk.Wire.Codec

/-! Encoding followed by decoding. A codec conveys `a` as `b` if the encoding of `a` is decoded to
`b`, both as written and in normal form, and for every origin of the draft. A record is conveyed if
each of its members is, since the members have distinct names and are looked up independently. -/

namespace ReleaseDesk.Wire

open ReleaseDesk.Json

/-! ### Codecs -/

/-- The encoding of `a` is decoded to `b`, as written and in normal form. -/
def Codec.Conveys (c : Codec α) (a b : α) : Prop :=
  ∀ o, c.read o (.ofJson (c.write a)) = .ok b ∧ c.read o (.ofJson (c.write a).normal) = .ok b

namespace Codec

theorem ofJson_normal (c : Codec α) (v : Json) : c.ofJson v.normal = c.ofJson v := by
  rw [ofJson, ofJson, normal_normal]

theorem Conveys.ofJson_toJson {c : Codec α} {a b : α} (h : c.Conveys a b) :
    c.ofJson (c.toJson a) = .ok b := by
  rw [toJson, ofJson_normal]
  exact (h .tree).2

theorem conveys_string (s : String) : string.Conveys s s := fun _ => ⟨rfl, rfl⟩

theorem conveys_bool (b : Bool) : bool.Conveys b b := fun _ => ⟨rfl, rfl⟩

theorem readInteger_integer {name : String} {low bound i : Int} (hl : low ≤ i) (hb : i < bound) :
    readInteger name low bound (.ofJson (.integer i)) = .ok i := by
  simp [readInteger, Draft.ofJson, Json.integer, hl, hb]

theorem conveys_integer {name : String} {low bound i : Int} (hl : low ≤ i) (hb : i < bound) :
    (integer name low bound).Conveys i i :=
  fun _ => ⟨readInteger_integer hl hb, readInteger_integer hl hb⟩

theorem conveys_natural {name : String} {bound : Int} {n : Nat} (h : (n : Int) < bound) :
    (natural name bound).Conveys n n := by
  have hread (o : Origin) : (natural name bound).read o (.ofJson (.natural n)) = .ok n := by
    change (readInteger name 0 bound (.ofJson (.integer n))).map Int.toNat = .ok n
    rw [readInteger_integer (Int.natCast_nonneg n) h]
    rfl
  exact fun o => ⟨hread o, hread o⟩

theorem conveys_real (x : Binary64) : real.Conveys x x := fun _ => ⟨rfl, rfl⟩

theorem conveys_time (t : Timestamp) : time.Conveys t t := by
  have hread (o : Origin) : time.read o (.ofJson (.string t.text)) = .ok t := by
    change (Timestamp.read t.text).mapError Fault.badTime = .ok t
    rw [t.read_text]
    rfl
  exact fun o => ⟨hread o, hread o⟩

theorem conveys_json (v : Json) : json.Conveys v v.normal := by
  intro o
  simp [json]

theorem nullable_read {c : Codec α} {o : Origin} {v : Json} (h : v ≠ .null) :
    c.nullable.read o (.ofJson v) = (c.read o (.ofJson v)).map some := by
  cases v <;> first | exact absurd rfl h | rfl

theorem normal_eq_null {v : Json} : v.normal = .null ↔ v = .null := by
  cases v <;> simp [normal]

theorem Conveys.nullable_some {c : Codec α} {a b : α} (h : c.Conveys a b) (hn : c.write a ≠ .null) :
    c.nullable.Conveys (some a) (some b) := by
  intro o
  have hw : c.nullable.write (some a) = c.write a := rfl
  have hn' : (c.write a).normal ≠ .null := fun heq => hn (normal_eq_null.mp heq)
  rw [hw, nullable_read hn, nullable_read hn', (h o).1, (h o).2]
  exact ⟨rfl, rfl⟩

theorem conveys_nullable_of_null {c : Codec α} {a : Option α} (h : c.nullable.write a = .null) :
    c.nullable.Conveys a none := by
  intro o
  rw [h]
  exact ⟨rfl, rfl⟩

theorem conveys_nullable_string (s : Option String) : string.nullable.Conveys s s := by
  cases s with
  | none => exact conveys_nullable_of_null rfl
  | some s => exact (conveys_string s).nullable_some nofun

theorem conveys_list_map {c : Codec α} {as : List α} {f : α → α} (h : ∀ a ∈ as, c.Conveys a (f a)) :
    (list c).Conveys as (as.map f) := by
  intro o
  have hread : readItems (c.read o) (Draft.ofItems (as.map c.write)) = .ok (as.map f) ∧
      readItems (c.read o) (Draft.ofItems (normalItems (as.map c.write))) = .ok (as.map f) := by
    induction as with
    | nil => exact ⟨rfl, rfl⟩
    | cons a as ih =>
      obtain ⟨ha, has⟩ := List.forall_mem_cons.mp h
      obtain ⟨hplain, hnormal⟩ := ih has
      simp only [List.map_cons, normalItems, Draft.ofItems, readItems, (ha o).1, (ha o).2, hplain, hnormal,
        ok_bind]
      exact ⟨rfl, rfl⟩
  exact hread

theorem conveys_list {c : Codec α} {as : List α} (h : ∀ a ∈ as, c.Conveys a a) :
    (list c).Conveys as as := by
  have hmap := conveys_list_map (f := id) h
  rwa [List.map_id] at hmap

end Codec

theorem Choice.conveys {c : Choice α} {a : α} (h : c.ofName? (c.name a) = some a) :
    c.codec.Conveys a a := by
  have hread (o : Origin) : c.codec.read o (.ofJson (.string (c.name a))) = .ok a := by
    change c.ofName (c.name a) = .ok a
    rw [Choice.ofName, h]
  exact fun o => ⟨hread o, hread o⟩

/-! ### Members -/

/-- The encoding of `a` is decoded to `b`; if the member is omitted, `b` is its default. -/
def Member.Conveys (m : Member α) (a b : α) : Prop :=
  match m.write a with
  | some v => ∀ o, m.read o (.ofJson v) = .ok b ∧ m.read o (.ofJson v.normal) = .ok b
  | none => m.absent = some b

namespace Member

theorem conveys_required {c : Codec α} {a b : α} (h : c.Conveys a b) (name : String) :
    (required name c).Conveys a b := h

theorem conveys_optional_none (name : String) (c : Codec α) :
    (optional name c).Conveys none none := rfl

theorem conveys_optional_some {c : Codec α} {a : α} {b : Option α}
    (h : c.nullable.Conveys (some a) b) (name : String) :
    (optional name c).Conveys (some a) b := h

theorem conveys_optional {c : Codec α} {a : Option α} (h : ∀ x ∈ a, c.Conveys x x)
    (hn : ∀ x ∈ a, c.write x ≠ .null) (name : String) : (optional name c).Conveys a a := by
  cases a with
  | none => exact conveys_optional_none name c
  | some x => exact conveys_optional_some ((h x rfl).nullable_some (hn x rfl)) name

theorem conveys_explicit {c : Codec α} {a b : Option α} (h : c.nullable.Conveys a b)
    (name : String) : (explicit name c).Conveys a b := h

theorem conveys_present_none (name : String) (c : Codec α) :
    (present name c).Conveys none none := rfl

theorem conveys_present_some {c : Codec α} {a b : α} (h : c.Conveys a b) (name : String) :
    (present name c).Conveys (some a) (some b) := by
  intro o
  simp [present, (h o).1, (h o).2, Except.map]

theorem Conveys.orElse {m : Member α} {a b : α} (h : m.Conveys a b) (hwrite : (m.write a).isSome)
    (c : α) : (m.orElse c).Conveys a b := by
  obtain ⟨v, hv⟩ := Option.isSome_iff_exists.mp hwrite
  have hv' : (m.orElse c).write a = some v := hv
  unfold Member.Conveys at h ⊢
  rw [hv] at h
  rw [hv']
  exact h

theorem conveys_omitWhen {m : Member α} {p : α → Bool} {a : α}
    (hp : p a = true → m.absent = some a) (h : p a = false → m.Conveys a a) :
    (m.omitWhen p).Conveys a a := by
  unfold Member.Conveys
  cases hpa : p a with
  | true =>
    have hwrite : (m.omitWhen p).write a = none := if_pos hpa
    rw [hwrite]
    exact hp hpa
  | false =>
    have hwrite : (m.omitWhen p).write a = m.write a := if_neg (by simp [hpa])
    rw [hwrite]
    exact h hpa

theorem conveys_optional_string (s : Option String) (name : String) :
    ((optional name .string).orElse none).Conveys s s := by
  cases s with
  | none => rfl
  | some s =>
    exact (conveys_optional_some (Codec.conveys_nullable_string (some s)) name).orElse rfl none

end Member

/-! ### Fields -/

namespace Fields

open Record

/-- Offering the members of an object determines the value of the fields. -/
def Give (f : Fields σ α) (o : Origin) (ms : List (String × Json)) (a : α) : Prop :=
  ∃ state, offerAll f o (Draft.ofMembers ms) f.start = .ok state ∧ f.finish state = .ok a

/-- The fields have no member with the key. -/
def Ignore (f : Fields σ α) (key : String) : Prop := ∀ o d state, f.offer o key d state = none

theorem offerAll_cons_none {f : Fields σ α} {o : Origin} {key : String} {v : Json}
    {ms : List (String × Json)} {state : f.State} (h : f.offer o key (.ofJson v) state = none) :
    offerAll f o (Draft.ofMembers ((key, v) :: ms)) state = offerAll f o (Draft.ofMembers ms) state := by
  rw [Draft.ofMembers, offerAll, h]
  simp

theorem offerAll_cons_some {f : Fields σ α} {o : Origin} {key : String} {v : Json}
    {ms : List (String × Json)} {state : f.State} {r : Except Fault f.State}
    (h : f.offer o key (.ofJson v) state = some r) :
    offerAll f o (Draft.ofMembers ((key, v) :: ms)) state =
      r.bind fun state => offerAll f o (Draft.ofMembers ms) state := by
  rw [Draft.ofMembers, offerAll, h]

/-- Fields without common members can be offered the members of an object separately. -/
theorem offerAll_both_iff {f : Fields σ (α → β)} {x : Fields σ α} {o : Origin}
    {ms : List (String × Json)} {s s' : f.State} {t t' : x.State}
    (hdisjoint : ∀ key, f.Ignore key ∨ x.Ignore key) :
    offerAll (both f x) o (Draft.ofMembers ms) (s, t) = .ok (s', t') ↔
      offerAll f o (Draft.ofMembers ms) s = .ok s' ∧ offerAll x o (Draft.ofMembers ms) t = .ok t' := by
  induction ms generalizing s t with
  | nil =>
    constructor
    · intro h
      cases h
      exact ⟨rfl, rfl⟩
    · rintro ⟨hs, ht⟩
      cases hs
      cases ht
      rfl
  | cons m ms ih =>
    obtain ⟨key, v⟩ := m
    -- The first to take the member is the only one that would.
    cases hfo : f.offer o key (.ofJson v) s with
    | some r =>
      have hxo : x.offer o key (.ofJson v) t = none := by
        refine (hdisjoint key).elim (fun h => ?_) (fun h => h _ _ _)
        rw [h] at hfo
        cases hfo
      have hboth : (both f x).offer o key (.ofJson v) (s, t) = some (r.map fun s => (s, t)) := by
        simp [both, hfo]
      rw [offerAll_cons_some hboth, offerAll_cons_some hfo, offerAll_cons_none hxo]
      cases r with
      | error fault => simp [Except.map, Except.bind]
      | ok s => exact ih
    | none =>
      rw [offerAll_cons_none hfo]
      cases hxo : x.offer o key (.ofJson v) t with
      | some r =>
        have hboth : (both f x).offer o key (.ofJson v) (s, t) = some (r.map fun t => (s, t)) := by
          simp [both, hfo, hxo]
        rw [offerAll_cons_some hboth, offerAll_cons_some hxo]
        cases r with
        | error fault => simp [Except.map, Except.bind]
        | ok t => exact ih
      | none =>
        have hboth : (both f x).offer o key (.ofJson v) (s, t) = none := by
          simp [both, hfo, hxo]
        rw [offerAll_cons_none hboth, offerAll_cons_none hxo]
        exact ih

theorem Give.both {f : Fields σ (α → β)} {x : Fields σ α} {o : Origin} {ms : List (String × Json)}
    {g : α → β} {a : α} (hf : f.Give o ms g) (hx : x.Give o ms a)
    (hdisjoint : ∀ key, f.Ignore key ∨ x.Ignore key) : (f.both x).Give o ms (g a) := by
  obtain ⟨s, hs, hfs⟩ := hf
  obtain ⟨t, ht, hxt⟩ := hx
  refine ⟨(s, t), (offerAll_both_iff hdisjoint).mpr ⟨hs, ht⟩, ?_⟩
  simp [Fields.both, hfs, hxt, bind, Except.bind, pure, Except.pure]

theorem Give.of_both {f : Fields σ (α → β)} {x : Fields σ α} {o : Origin}
    {ms : List (String × Json)} {b : β} (hdisjoint : ∀ key, f.Ignore key ∨ x.Ignore key)
    (h : (f.both x).Give o ms b) : ∃ g a, f.Give o ms g ∧ x.Give o ms a ∧ b = g a := by
  obtain ⟨⟨s, t⟩, hst, hb⟩ := h
  obtain ⟨hs, ht⟩ := (offerAll_both_iff hdisjoint).mp hst
  simp only [Fields.both, bind, Except.bind] at hb
  cases hfs : f.finish s with
  | error fault => simp [hfs] at hb
  | ok g =>
    cases hxt : x.finish t with
    | error fault => simp [hfs, hxt] at hb
    | ok a =>
      simp only [hfs, hxt, pure, Except.pure, Except.ok.injEq] at hb
      exact ⟨g, a, ⟨s, hs, hfs⟩, ⟨t, ht, hxt⟩, hb.symm⟩

theorem give_nothing_iff {a b : α} {o : Origin} {ms : List (String × Json)} :
    (nothing a : Fields σ α).Give o ms b ↔ b = a := by
  have hoffer : offerAll (nothing a : Fields σ α) o (Draft.ofMembers ms) () = .ok () := by
    induction ms with
    | nil => rfl
    | cons m ms ih => exact (offerAll_cons_none rfl).trans ih
  constructor
  · rintro ⟨state, -, hfinish⟩
    exact (Except.ok.inj hfinish).symm
  · rintro rfl
    exact ⟨(), hoffer, rfl⟩

theorem one_ignore {m : Member α} {get : σ → α} {key : String} (h : key ≠ m.name) :
    (one m get).Ignore key := fun _ _ _ => if_neg h

theorem offerAll_one_absent {m : Member α} {get : σ → α} {o : Origin} {ms : List (String × Json)}
    (h : m.name ∉ ms.map (·.1)) (state : Option α) :
    offerAll (one m get) o (Draft.ofMembers ms) state = .ok state := by
  induction ms with
  | nil => rfl
  | cons n ms ih =>
    simp only [List.map_cons, List.mem_cons, not_or] at h
    exact (offerAll_cons_none (one_ignore (Ne.symm h.1) _ _ _)).trans (ih h.2)

theorem offerAll_one_present {m : Member α} {get : σ → α} {o : Origin} {ms : List (String × Json)}
    (hnodup : (ms.map (·.1)).Nodup) {v : Json} (hv : ms.lookup m.name = some v) :
    offerAll (one m get) o (Draft.ofMembers ms) none = (m.read o (.ofJson v)).map some := by
  induction ms with
  | nil => cases hv
  | cons n ms ih =>
    obtain ⟨hn, hms⟩ := List.nodup_cons.mp hnodup
    rw [lookup_cons] at hv
    split_ifs at hv with hname
    · cases hv
      have hoffer : (one m get).offer o n.1 (.ofJson n.2) none =
          some ((m.read o (.ofJson n.2)).map some) := if_pos hname.symm
      refine (offerAll_cons_some hoffer).trans ?_
      cases m.read o (.ofJson n.2) with
      | error fault => rfl
      | ok a => exact offerAll_one_absent (hname ▸ hn) _
    · exact (offerAll_cons_none (one_ignore (Ne.symm hname) _ _ _)).trans (ih hms hv)

theorem notMem_of_lookup_eq_none {ms : List (String × Json)} {key : String}
    (h : ms.lookup key = none) : key ∉ ms.map (·.1) := by
  intro hmem
  obtain ⟨n, hn, heq⟩ := List.mem_map.mp hmem
  exact bne_iff_ne.mp (List.lookup_eq_none_iff.mp h n hn) heq.symm

/-- The reading of one member, among members with distinct keys. -/
theorem give_one_iff {m : Member α} {get : σ → α} {o : Origin} {ms : List (String × Json)}
    (hnodup : (ms.map (·.1)).Nodup) {a : α} :
    (one m get).Give o ms a ↔ match ms.lookup m.name with
      | some v => m.read o (.ofJson v) = .ok a
      | none => m.absent = some a := by
  cases hv : ms.lookup m.name with
  | some v =>
    have hstate : offerAll (one m get) o (Draft.ofMembers ms) none = (m.read o (.ofJson v)).map some :=
      offerAll_one_present hnodup hv
    constructor
    · rintro ⟨state, hs, hfinish⟩
      have hread := hstate.symm.trans hs
      cases hr : m.read o (.ofJson v) with
      | error fault => simp [hr, Except.map] at hread
      | ok b =>
        rw [hr] at hread
        cases hread
        exact hr.trans hfinish
    · intro hr
      exact ⟨some a, by rw [hr] at hstate; exact hstate, rfl⟩
  | none =>
    have hstate : offerAll (one m get) o (Draft.ofMembers ms) none = .ok none :=
      offerAll_one_absent (notMem_of_lookup_eq_none hv) none
    constructor
    · rintro ⟨state, hs, hfinish⟩
      cases hstate.symm.trans hs
      cases ha : m.absent <;> simp_all [one]
    · intro ha
      exact ⟨none, hstate, by simp only [one, ha]⟩

theorem give_one_present {m : Member α} {get : σ → α} {o : Origin} {ms : List (String × Json)}
    (hnodup : (ms.map (·.1)).Nodup) {v : Json} (hv : ms.lookup m.name = some v) {a : α}
    (hr : m.read o (.ofJson v) = .ok a) : (one m get).Give o ms a := by
  rw [give_one_iff hnodup, hv]
  exact hr

theorem give_one_absent {m : Member α} {get : σ → α} {o : Origin} {ms : List (String × Json)}
    (hnodup : (ms.map (·.1)).Nodup) (hv : ms.lookup m.name = none) {a : α}
    (ha : m.absent = some a) : (one m get).Give o ms a := by
  rw [give_one_iff hnodup, hv]
  exact ha

/-- The lookup of a key agrees with what was written, up to normal form. -/
def Shows (ms written : List (String × Json)) (key : String) : Prop :=
  ms.lookup key = written.lookup key ∨ ms.lookup key = (written.lookup key).map normal

/-- Fields with the given names convey `s` as `b`, whatever other members there are. -/
structure Conveys (f : Fields σ α) (names : List String) (s : σ) (b : α) : Prop where
  ignores : ∀ key ∉ names, f.Ignore key
  writes : ((f.write s).map (·.1)).Sublist names
  gives : ∀ o ms, (ms.map (·.1)).Nodup → (∀ key ∈ names, Shows ms (f.write s) key) → f.Give o ms b

theorem conveys_nothing (s : σ) (a : α) : (nothing a : Fields σ α).Conveys [] s a where
  ignores _ _ _ _ _ := rfl
  writes := List.Sublist.slnil
  gives _ _ _ _ := give_nothing_iff.mpr rfl

theorem conveys_one {m : Member α} {get : σ → α} {s : σ} {b : α} (h : m.Conveys (get s) b) :
    (one m get).Conveys [m.name] s b where
  ignores key hkey := one_ignore (List.ne_of_not_mem_cons hkey)
  writes := by
    simp only [one]
    cases m.write (get s) <;> simp
  gives o ms hnodup hshows := by
    have hname := hshows m.name (List.mem_singleton.mpr rfl)
    unfold Member.Conveys at h
    cases hw : m.write (get s) with
    | none =>
      rw [hw] at h
      have hwrite : (one m get).write s = [] := by simp [one, hw]
      rw [Shows, hwrite] at hname
      exact give_one_absent hnodup (hname.elim id id) h
    | some v =>
      rw [hw] at h
      have hwrite : (one m get).write s = [(m.name, v)] := by simp [one, hw]
      rw [Shows, hwrite, lookup_cons, if_pos rfl] at hname
      rcases hname with hname | hname
      · exact give_one_present hnodup hname (h o).1
      · exact give_one_present hnodup hname (h o).2

theorem conveys_required {c : Codec α} {get : σ → α} {s : σ} {b : α} (h : c.Conveys (get s) b)
    (name : String) : (required name c get).Conveys [name] s b :=
  conveys_one (Member.conveys_required h name)

theorem conveys_optional {c : Codec α} {get : σ → Option α} {s : σ}
    (h : ∀ x ∈ get s, c.Conveys x x) (hn : ∀ x ∈ get s, c.write x ≠ .null) (name : String) :
    (optional name c get).Conveys [name] s (get s) :=
  conveys_one (Member.conveys_optional h hn name)

theorem conveys_defaulted {c : Codec α} {get : σ → α} {s : σ} {b : α} (h : c.Conveys (get s) b)
    (name : String) (a : α) : (defaulted name c a get).Conveys [name] s b :=
  conveys_one ((Member.conveys_required h name).orElse rfl a)

theorem conveys_explicit {get : σ → Option String} (s : σ) (name : String) :
    (one ((Member.explicit name .string).orElse none) get).Conveys [name] s (get s) :=
  conveys_one ((Member.conveys_explicit (Codec.conveys_nullable_string (get s)) name).orElse rfl none)

theorem Conveys.lookup_eq_none {f : Fields σ α} {names : List String} {s : σ} {b : α}
    (h : f.Conveys names s b) {key : String} (hkey : key ∉ names) :
    (f.write s).lookup key = none :=
  lookup_eq_none_of_notMem fun hmem => hkey (h.writes.subset hmem)

theorem Conveys.both {f : Fields σ (α → β)} {x : Fields σ α} {ns ms : List String} {s : σ}
    {g : α → β} {a : α} (hf : f.Conveys ns s g) (hx : x.Conveys ms s a)
    (hnames : (ns ++ ms).Nodup := by decide) : (f.both x).Conveys (ns ++ ms) s (g a) where
  ignores key hkey o d state := by
    rw [List.mem_append, not_or] at hkey
    simp [Fields.both, hf.ignores key hkey.1 o d state.1, hx.ignores key hkey.2 o d state.2]
  writes := by
    simp only [Fields.both, List.map_append]
    exact hf.writes.append hx.writes
  gives o members hnodup hshows := by
    have hd {key : String} (hn : key ∈ ns) (hm : key ∈ ms) : False :=
      (List.nodup_append.mp hnames).2.2 key hn key hm rfl
    have hlookup (key : String) : ((f.both x).write s).lookup key =
        ((f.write s).lookup key).or ((x.write s).lookup key) := List.lookup_append
    have hfs : ∀ key ∈ ns, Shows members (f.write s) key := by
      intro key hkey
      have := hshows key (List.mem_append_left _ hkey)
      rwa [Shows, hlookup, hx.lookup_eq_none (hd hkey ·), Option.or_none] at this
    have hxs : ∀ key ∈ ms, Shows members (x.write s) key := by
      intro key hkey
      have := hshows key (List.mem_append_right _ hkey)
      rwa [Shows, hlookup, hf.lookup_eq_none (hd · hkey), Option.none_or] at this
    refine (hf.gives o members hnodup hfs).both (hx.gives o members hnodup hxs) fun key => ?_
    by_cases hkey : key ∈ ns
    · exact .inr (hx.ignores key (hd hkey ·))
    · exact .inl (hf.ignores key hkey)

/-- Fields convey a value, provided that their names are distinct. -/
def Carries (f : Fields σ α) (names : List String) (s : σ) (a : α) : Prop := names.Nodup → f.Conveys names s a

theorem carries_nothing (s : σ) (a : α) : (nothing a).Carries [] s a := fun _ => conveys_nothing s a

/-- Adds a field, leaving the comparison of the names to the end. -/
theorem Carries.both {f : Fields σ (α → β)} {x : Fields σ α} {ns ms : List String} {s : σ}
    {g : α → β} {a : α} (hf : f.Carries ns s g) (hx : x.Conveys ms s a) :
    (f.both x).Carries (ns ++ ms) s (g a) :=
  fun hnames => (hf (List.nodup_append.mp hnames).1).both hx hnames

theorem nothing_ignore (a : α) (key : String) : (nothing a : Fields σ α).Ignore key :=
  fun _ _ _ => rfl

theorem both_ignore {f : Fields σ (α → β)} {x : Fields σ α} {key : String} (hf : f.Ignore key)
    (hx : x.Ignore key) : (f.both x).Ignore key := by
  intro o d state
  simp [both, hf o d state.1, hx o d state.2]

theorem ignore_or_one {f : Fields σ (α → β)} {m : Member α} (get : σ → α) (h : f.Ignore m.name)
    (key : String) : f.Ignore key ∨ (one m get).Ignore key := by
  by_cases hkey : key = m.name
  · exact .inl (hkey ▸ h)
  · exact .inr (one_ignore hkey)

/-- The fields have no value on members without the key. -/
def Need (f : Fields σ α) (key : String) : Prop :=
  ∀ o ms a, key ∉ ms.map (·.1) → ¬f.Give o ms a

theorem need_required (name : String) (c : Codec α) (get : σ → α) :
    (required name c get).Need name := by
  rintro o ms a hname ⟨state, hstate, hfinish⟩
  have habsent : offerAll (required name c get) o (Draft.ofMembers ms) none = .ok none :=
    offerAll_one_absent hname none
  have hnone := (Except.ok.inj (habsent.symm.trans hstate)).symm
  rw [hnone] at hfinish
  cases hfinish

theorem Need.both_left {f : Fields σ (α → β)} {x : Fields σ α} {key : String} (h : f.Need key)
    (hdisjoint : ∀ key, f.Ignore key ∨ x.Ignore key) : (f.both x).Need key := by
  intro o ms b hkey hgive
  obtain ⟨g, a, hg, -, -⟩ := hgive.of_both hdisjoint
  exact h o ms g hkey hg

theorem Need.both_right {f : Fields σ (α → β)} {x : Fields σ α} {key : String} (h : x.Need key)
    (hdisjoint : ∀ key, f.Ignore key ∨ x.Ignore key) : (f.both x).Need key := by
  intro o ms b hkey hgive
  obtain ⟨g, a, -, ha, -⟩ := hgive.of_both hdisjoint
  exact h o ms a hkey ha

end Fields

/-! ### Records -/

namespace Record

theorem read_object_iff {r : Record α} {o : Origin} {ms : List (String × Json)} {a : α} :
    r.read o (.ofJson (.object ms)) = .ok a ↔ r.fields.Give o ms a := by
  rw [Draft.ofJson, read]
  constructor
  · exact bind_eq_ok
  · rintro ⟨state, hs, ha⟩
    rw [hs]
    exact ha

theorem conveys {r : Record α} {names : List String} {a b : α} (h : r.fields.Conveys names a b)
    (hn : names.Nodup) : r.codec.Conveys a b := by
  have hnodup : ((r.fields.write a).map (·.1)).Nodup := hn.sublist h.writes
  intro o
  constructor
  · exact read_object_iff.mpr (h.gives o _ hnodup fun _ _ => .inl rfl)
  · refine read_object_iff.mpr (h.gives o _ (ascending_sortMembers _).nodup fun key _ => .inr ?_)
    rw [lookup_sortMembers (by rwa [keys_normalMembers]), lookup_normalMembers]
    rfl

theorem conveys_of_carries {r : Record α} {names : List String} {a b : α} (h : r.fields.Carries names a b)
    (hn : names.Nodup) : r.codec.Conveys a b :=
  conveys (h hn) hn

theorem read_object_error {r : Record α} {key : String} (h : r.fields.Need key) (o : Origin)
    {ms : List (String × Json)} (hkey : key ∉ ms.map (·.1)) :
    ∃ fault, r.codec.read o (.ofJson (.object ms)) = .error fault := by
  simp only [codec, Draft.ofJson, read]
  cases hstate : offerAll r.fields o (Draft.ofMembers ms) r.fields.start with
  | error fault => exact ⟨fault, rfl⟩
  | ok state =>
    cases hfinish : r.fields.finish state with
    | error fault => exact ⟨fault, hfinish⟩
    | ok a => exact absurd ⟨state, hstate, hfinish⟩ (h o ms a hkey)

end Record

end ReleaseDesk.Wire
