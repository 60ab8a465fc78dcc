import ReleaseDesk.Proofs.Wire.Conveyance

/-! Codecs of unions. In an untagged union the first reader that succeeds determines the variant, so
a later variant is conveyed if the readers before it require a member that it lacks. In a tagged
union the tag is found at any position, and the reader of its variant receives the other members in
order. -/

namespace ReleaseDesk.Wire

open ReleaseDesk.Json

/-! ### Untagged unions -/

namespace Codec

@[simp] theorem readAside_ofJson (read : Draft → Except Fault α) (v : Json) :
    readAside read (.ofJson v) = read (.ofJson v) := by
  simp [readAside]

theorem readFirst_ok {read : Draft → Except Fault α} {d : Draft} {a : α} (h : read d = .ok a) (type : String)
    (rest : List (Draft → Except Fault α)) : readFirst type (read :: rest) d = .ok a := by
  rw [readFirst, h]

theorem readFirst_error {read : Draft → Except Fault α} {d : Draft} {fault : Fault}
    (h : read d = .error fault)
    (type : String) (rest : List (Draft → Except Fault α)) :
    readFirst type (read :: rest) d = readFirst type rest d := by
  rw [readFirst, h]

end Codec

theorem notMem_keys_normal {ms : List (String × Json)} {key : String} (h : key ∉ ms.map (·.1)) :
    key ∉ (sortMembers (normalMembers ms)).map (·.1) := by
  intro hmem
  obtain ⟨m, hm, hkey⟩ := List.mem_map.mp hmem
  apply h
  rw [← keys_normalMembers, ← hkey]
  exact List.mem_map_of_mem (mem_sortMembers hm)

/-- A record rejects an object without a required key. -/
theorem Record.refuses {r : Record α} {key : String} (h : r.fields.Need key) {ms : List (String × Json)}
    (hkey : key ∉ ms.map (·.1)) (o : Origin) :
    (∃ fault, r.codec.read o (.ofJson (.object ms)) = .error fault) ∧
      ∃ fault, r.codec.read o (.ofJson (Json.object ms).normal) = .error fault :=
  ⟨Record.read_object_error h o hkey, Record.read_object_error h o (notMem_keys_normal hkey)⟩

/-! ### Tagged unions -/

namespace Tagged

variable {t : Tagged α}

theorem gather_cons {key : String} (h : key ≠ t.tag) (v : Json) (k : Option (Draft → Except Fault α))
    (kept : List (Option String × Draft)) (ms : List (String × Json)) :
    t.gather k kept (Draft.ofMembers ((key, v) :: ms)) =
      t.gather k ((some key, .ofJson v) :: kept) (Draft.ofMembers ms) := by
  have hwritten : (Draft.ofJson v).written?.isSome = true := by simp
  exact (if_neg h).trans (if_pos hwritten)

theorem gather_other {ms : List (String × Json)} (h : t.tag ∉ ms.map (·.1))
    (k : Option (Draft → Except Fault α)) (kept : List (Option String × Draft)) :
    t.gather k kept (Draft.ofMembers ms) = .ok (k, kept.reverse ++ Draft.ofMembers ms) := by
  induction ms generalizing kept with
  | nil => simp [Draft.ofMembers, gather]
  | cons m ms ih =>
    simp only [List.map_cons, List.mem_cons, not_or] at h
    rw [gather_cons (Ne.symm h.1), ih h.2, Draft.ofMembers]
    simp

theorem gather_tag {v : Json} {k : Draft → Except Fault α} (hk : t.kind (.ofJson v) = .ok k)
    {before after : List (String × Json)} (hbefore : t.tag ∉ before.map (·.1))
    (hafter : t.tag ∉ after.map (·.1)) (kept : List (Option String × Draft)) :
    t.gather none kept (Draft.ofMembers (before ++ (t.tag, v) :: after)) =
      .ok (some k, kept.reverse ++ Draft.ofMembers (before ++ after)) := by
  induction before generalizing kept with
  | nil =>
    have hstep : t.gather none kept (Draft.ofMembers ((t.tag, v) :: after)) =
        (t.kind (.ofJson v)).bind fun k => t.gather (some k) kept (Draft.ofMembers after) := if_pos rfl
    rw [List.nil_append, List.nil_append, hstep, hk]
    exact gather_other hafter (some k) kept
  | cons m before ih =>
    simp only [List.map_cons, List.mem_cons, not_or] at hbefore
    rw [List.cons_append, gather_cons (Ne.symm hbefore.1), ih hbefore.2, List.cons_append, Draft.ofMembers]
    simp

/-- The reading of a tagged object is that of its variant on the other members, in any order. -/
theorem read_object {ms : List (String × Json)} (hnodup : (ms.map (·.1)).Nodup) {name : String}
    (htag : ms.lookup t.tag = some (.string name)) {k : Draft → Except Fault α}
    (hk : t.kinds.find? (·.1 = name) = some (name, k)) {a : α}
    (hread : ∀ rest, (rest.map (·.1)).Nodup → (∀ key ≠ t.tag, rest.lookup key = ms.lookup key) →
      k (.ofJson (.object rest)) = .ok a) :
    t.read (.ofJson (.object ms)) = .ok a := by
  obtain ⟨before, after, rfl, -⟩ := List.lookup_eq_some_iff.mp htag
  simp only [List.map_append, List.map_cons] at hnodup
  obtain ⟨htags, hrest⟩ := List.nodup_cons.mp (List.perm_middle.nodup_iff.mp hnodup)
  rw [List.mem_append, not_or] at htags
  have hkind : t.kind (.ofJson (.string name)) = .ok k := by
    simp only [Draft.ofJson, kind, hk]
  have hlookup : ∀ key ≠ t.tag,
      (before ++ after).lookup key = (before ++ (t.tag, Json.string name) :: after).lookup key := by
    intro key hkey
    rw [List.lookup_append, List.lookup_append, lookup_cons, if_neg hkey]
  have hgather : t.gather none [] (Draft.ofMembers (before ++ (t.tag, Json.string name) :: after)) =
      .ok (some k, Draft.ofMembers (before ++ after)) :=
    gather_tag hkind htags.1 htags.2 []
  rw [Draft.ofJson, read, hgather, ok_bind]
  exact hread (before ++ after) (by rwa [List.map_append]) hlookup

/-- A value is conveyed if its variant is, provided that the tag is not a member of the variant. -/
theorem conveys {r : Record β} {f : β → α} {names : List String} {name : String} {b : β}
    (hk : t.kinds.find? (·.1 = name) = some (name, fun d => (r.read .aside d).map f))
    (hfields : r.fields.Conveys names b b) (hnames : (t.tag :: names).Nodup) :
    t.read (.ofJson (.object ((t.tag, .string name) :: r.members b))) = .ok (f b) ∧
      t.read (.ofJson (Json.object ((t.tag, .string name) :: r.members b)).normal) = .ok (f b) := by
  have htag : t.tag ∉ (r.members b).map (·.1) := fun hmem =>
    (List.nodup_cons.mp hnames).1 (hfields.writes.subset hmem)
  have hnodup : (((t.tag, Json.string name) :: r.members b).map (·.1)).Nodup :=
    List.nodup_cons.mpr ⟨htag, (List.nodup_cons.mp hnames).2.sublist hfields.writes⟩
  have hread {ms rest : List (String × Json)} (hrest : (rest.map (·.1)).Nodup)
      (hlookup : ∀ key ≠ t.tag, rest.lookup key = ms.lookup key)
      (hshows : ∀ key ≠ t.tag, Fields.Shows ms (r.fields.write b) key) :
      (r.read .aside (.ofJson (.object rest))).map f = .ok (f b) := by
    have hgive : r.fields.Give .aside rest b := by
      refine hfields.gives .aside rest hrest fun key hkey => ?_
      have hne : key ≠ t.tag := fun heq => (List.nodup_cons.mp hnames).1 (heq ▸ hkey)
      rw [Fields.Shows, hlookup key hne]
      exact hshows key hne
    rw [Record.read_object_iff.mpr hgive]
    rfl
  constructor
  · have hfirst : ((t.tag, Json.string name) :: r.members b).lookup t.tag = some (.string name) := by
      rw [lookup_cons, if_pos rfl]
    refine read_object hnodup hfirst hk fun rest hrest hlookup => hread hrest hlookup fun key hkey => .inl ?_
    rw [lookup_cons, if_neg hkey]
    rfl
  · have hsorted (key : String) :
        (sortMembers (normalMembers ((t.tag, Json.string name) :: r.members b))).lookup key =
          (((t.tag, Json.string name) :: r.members b).lookup key).map normal := by
      rw [lookup_sortMembers (by rwa [keys_normalMembers]), lookup_normalMembers]
    have hfirst : (sortMembers (normalMembers ((t.tag, Json.string name) :: r.members b))).lookup t.tag =
        some (.string name) := by
      rw [hsorted, lookup_cons, if_pos rfl]
      rfl
    refine read_object (ascending_sortMembers _).nodup hfirst hk fun rest hrest hlookup =>
      hread hrest hlookup fun key hkey => .inr ?_
    rw [hsorted, lookup_cons, if_neg hkey]
    rfl

end Tagged

end ReleaseDesk.Wire
