import Mathlib.Tactic.Common
import ReleaseDesk.Proofs.Json.Number

/-! Normal forms of JSON values. Sorting is the identity on sorted members, so the normal form is
idempotent. It does not increase the depth of a value, and has the same numbers. -/

namespace ReleaseDesk.Json

/-! ### Sorted members -/

/-- Members sorted by key, without repetitions. -/
def Ascending (ms : List (String × Json)) : Prop := ms.Pairwise fun a b => a.1 < b.1

theorem mem_insertMember {key : String} {v : Json} {ms : List (String × Json)} {m : String × Json}
    (h : m ∈ insertMember key v ms) : m = (key, v) ∨ m ∈ ms := by
  induction ms with
  | nil => exact .inl (List.mem_singleton.mp h)
  | cons n ms ih =>
    simp only [insertMember] at h
    split_ifs at h with hlt heq
    · exact List.mem_cons.mp h
    · rcases List.mem_cons.mp h with rfl | h
      · exact .inl rfl
      · exact .inr (List.mem_cons_of_mem _ h)
    · rcases List.mem_cons.mp h with rfl | h
      · exact .inr List.mem_cons_self
      · exact (ih h).imp_right (List.mem_cons_of_mem _)

theorem ascending_insertMember {ms : List (String × Json)} (h : Ascending ms) (key : String)
    (v : Json) : Ascending (insertMember key v ms) := by
  induction ms with
  | nil => exact List.pairwise_singleton _ _
  | cons n ms ih =>
    obtain ⟨hn, hms⟩ := List.pairwise_cons.mp h
    simp only [insertMember]
    split_ifs with hlt heq
    · refine List.pairwise_cons.mpr ⟨fun m hm => ?_, h⟩
      rcases List.mem_cons.mp hm with rfl | hm
      · exact hlt
      · exact String.lt_trans hlt (hn m hm)
    · refine List.pairwise_cons.mpr ⟨fun m hm => ?_, hms⟩
      exact heq ▸ hn m hm
    · refine List.pairwise_cons.mpr ⟨fun m hm => ?_, ih hms⟩
      rcases mem_insertMember hm with rfl | hm
      · exact (String.le_total key n.1).elim
          (fun hle => absurd (String.le_antisymm hle (String.not_lt.mp hlt)) heq)
          (fun hle => Classical.byContradiction fun hnot =>
            heq (String.le_antisymm (String.not_lt.mp hnot) hle))
      · exact hn m hm

theorem ascending_sortMembers (ms : List (String × Json)) : Ascending (sortMembers ms) := by
  unfold sortMembers
  have key (acc : List (String × Json)) (h : Ascending acc) :
      Ascending (ms.foldl (fun sorted m => insertMember m.1 m.2 sorted) acc) := by
    induction ms generalizing acc with
    | nil => exact h
    | cons m ms ih => exact ih _ (ascending_insertMember h _ _)
  exact key [] List.Pairwise.nil

theorem mem_sortMembers {ms : List (String × Json)} {m : String × Json}
    (h : m ∈ sortMembers ms) : m ∈ ms := by
  have key (acc ms : List (String × Json))
      (h : m ∈ ms.foldl (fun sorted m => insertMember m.1 m.2 sorted) acc) :
      m ∈ acc ∨ m ∈ ms := by
    induction ms generalizing acc with
    | nil => exact .inl h
    | cons n ms ih =>
      rcases ih _ h with hm | hm
      · rcases mem_insertMember hm with rfl | hm
        · exact .inr List.mem_cons_self
        · exact .inl hm
      · exact .inr (List.mem_cons_of_mem _ hm)
  exact (key [] ms h).resolve_left List.not_mem_nil

theorem insertMember_last {ms : List (String × Json)} {key : String} {v : Json}
    (h : ∀ m ∈ ms, m.1 < key) : insertMember key v ms = ms ++ [(key, v)] := by
  induction ms with
  | nil => rfl
  | cons m ms ih =>
    obtain ⟨hm, hms⟩ := List.forall_mem_cons.mp h
    have hne : key ≠ m.1 := fun heq => String.lt_irrefl _ (heq ▸ hm)
    simp only [insertMember, if_neg (String.lt_asymm hm), if_neg hne, ih hms, List.cons_append]

theorem sortMembers_of_ascending {ms : List (String × Json)} (h : Ascending ms) :
    sortMembers ms = ms := by
  have key (acc ms : List (String × Json)) (h : Ascending (acc ++ ms)) :
      ms.foldl (fun sorted m => insertMember m.1 m.2 sorted) acc = acc ++ ms := by
    induction ms generalizing acc with
    | nil => simp
    | cons m ms ih =>
      have hlast : ∀ n ∈ acc, n.1 < m.1 := fun n hn =>
        (List.pairwise_append.mp h).2.2 n hn m List.mem_cons_self
      rw [List.foldl_cons, insertMember_last hlast, ih]
      · simp
      · simpa using h
  exact key [] ms h

theorem Ascending.nodup {ms : List (String × Json)} (h : Ascending ms) :
    (ms.map (·.1)).Nodup := by
  refine List.pairwise_map.mpr (List.Pairwise.imp ?_ h)
  intro a b hlt heq
  exact String.lt_irrefl b.1 (heq ▸ hlt)

theorem lookup_cons (key : String) (m : String × Json) (ms : List (String × Json)) :
    (m :: ms).lookup key = if key = m.1 then some m.2 else ms.lookup key := by
  rw [List.lookup_cons]
  by_cases h : key = m.1
  · simp [h]
  · simp [h, beq_false_of_ne h]

theorem lookup_insertMember (key k : String) (v : Json) (ms : List (String × Json)) :
    (insertMember k v ms).lookup key = if key = k then some v else ms.lookup key := by
  induction ms with
  | nil => exact lookup_cons key (k, v) []
  | cons m ms ih =>
    simp only [insertMember]
    split_ifs with hlt heq hk hk hk <;> simp only [lookup_cons, ih] <;> split_ifs <;> simp_all

theorem lookup_eq_none_of_notMem {ms : List (String × Json)} {key : String}
    (h : key ∉ ms.map (·.1)) : ms.lookup key = none :=
  List.lookup_eq_none_iff.mpr fun _ hm =>
    bne_iff_ne.mpr fun heq => h (heq ▸ List.mem_map_of_mem (f := Prod.fst) hm)

/-- Sorting keeps the last of the members with one key. -/
theorem lookup_sortMembers_reverse (ms : List (String × Json)) (key : String) :
    (sortMembers ms).lookup key = ms.reverse.lookup key := by
  have go (acc : List (String × Json)) :
      (ms.foldl (fun sorted m => insertMember m.1 m.2 sorted) acc).lookup key =
        (ms.reverse.lookup key).or (acc.lookup key) := by
    induction ms generalizing acc with
    | nil => rfl
    | cons m ms ih =>
      rw [List.foldl_cons, ih, lookup_insertMember, List.reverse_cons, List.lookup_append,
        lookup_cons]
      split_ifs <;> simp
  have hgo := go []
  rwa [List.lookup_nil, Option.or_none] at hgo

theorem lookup_eq_some_of_mem {ms : List (String × Json)} (h : (ms.map (·.1)).Nodup)
    {m : String × Json} (hm : m ∈ ms) : ms.lookup m.1 = some m.2 := by
  induction ms with
  | nil => cases hm
  | cons n ms ih =>
    obtain ⟨hn, hms⟩ := List.nodup_cons.mp h
    rw [lookup_cons]
    rcases List.mem_cons.mp hm with rfl | hm
    · exact if_pos rfl
    · have hne : m.1 ≠ n.1 := fun heq => hn (List.mem_map.mpr ⟨m, hm, heq⟩)
      rw [if_neg hne]
      exact ih hms hm

theorem lookup_sortMembers {ms : List (String × Json)} (h : (ms.map (·.1)).Nodup) (key : String) :
    (sortMembers ms).lookup key = ms.lookup key := by
  rw [lookup_sortMembers_reverse]
  by_cases hkey : key ∈ ms.map (·.1)
  · obtain ⟨m, hm, rfl⟩ := List.mem_map.mp hkey
    have hreverse : (ms.reverse.map (·.1)).Nodup := by
      rw [List.map_reverse]
      exact List.pairwise_reverse.mpr (h.imp Ne.symm)
    rw [lookup_eq_some_of_mem h hm, lookup_eq_some_of_mem hreverse (List.mem_reverse.mpr hm)]
  · rw [lookup_eq_none_of_notMem hkey, lookup_eq_none_of_notMem (by simpa using hkey)]

/-! ### Normal forms -/

theorem normalMembers_eq_map (ms : List (String × Json)) :
    normalMembers ms = ms.map fun m => (m.1, m.2.normal) := by
  induction ms with
  | nil => rfl
  | cons m rest ih => rw [normalMembers, ih, List.map_cons]

theorem lookup_normalMembers (ms : List (String × Json)) (key : String) :
    (normalMembers ms).lookup key = (ms.lookup key).map normal := by
  induction ms with
  | nil => rfl
  | cons m ms ih =>
    rw [normalMembers, lookup_cons, lookup_cons, ih]
    split_ifs <;> rfl

theorem keys_normalMembers (ms : List (String × Json)) :
    (normalMembers ms).map (·.1) = ms.map (·.1) := by
  rw [normalMembers_eq_map, List.map_map]
  rfl

theorem normalMembers_insertMember (key : String) (v : Json) (ms : List (String × Json)) :
    normalMembers (insertMember key v ms) = insertMember key v.normal (normalMembers ms) := by
  induction ms with
  | nil => rfl
  | cons m ms ih =>
    simp only [insertMember, normalMembers]
    split_ifs <;> simp [normalMembers, ih]

theorem normalMembers_sortMembers (ms : List (String × Json)) :
    normalMembers (sortMembers ms) = sortMembers (normalMembers ms) := by
  have key (acc : List (String × Json)) :
      normalMembers (ms.foldl (fun sorted m => insertMember m.1 m.2 sorted) acc) =
        (normalMembers ms).foldl (fun sorted m => insertMember m.1 m.2 sorted)
          (normalMembers acc) := by
    induction ms generalizing acc with
    | nil => rfl
    | cons m ms ih => rw [List.foldl_cons, ih, normalMembers_insertMember, normalMembers,
        List.foldl_cons]
  exact key []

mutual

@[simp] theorem normal_normal : (v : Json) → v.normal.normal = v.normal
  | .null => rfl
  | .bool _ => rfl
  | .number _ => rfl
  | .string _ => rfl
  | .array items => by rw [normal, normal, normalItems_normalItems items]
  | .object members => by
    rw [normal, normal, normalMembers_sortMembers, normalMembers_normalMembers members,
      sortMembers_of_ascending (ascending_sortMembers _)]

theorem normalItems_normalItems : (items : List Json) →
    normalItems (normalItems items) = normalItems items
  | [] => rfl
  | v :: rest => by
    rw [normalItems, normalItems, normal_normal v, normalItems_normalItems rest]

theorem normalMembers_normalMembers : (members : List (String × Json)) →
    normalMembers (normalMembers members) = normalMembers members
  | [] => rfl
  | (_, v) :: rest => by
    rw [normalMembers, normalMembers, normal_normal v, normalMembers_normalMembers rest]

end

/-! ### Depth and legibility -/

mutual

/-- The nesting depth of arrays and objects. -/
def depth : Json → Nat
  | .null => 0
  | .bool _ => 0
  | .number _ => 0
  | .string _ => 0
  | .array items => itemsDepth items + 1
  | .object members => membersDepth members + 1

def itemsDepth : List Json → Nat
  | [] => 0
  | v :: rest => max v.depth (itemsDepth rest)

def membersDepth : List (String × Json) → Nat
  | [] => 0
  | (_, v) :: rest => max v.depth (membersDepth rest)

end

mutual

/-- Every number of a value reads back. -/
def Legible : Json → Prop
  | .null => True
  | .bool _ => True
  | .number n => ReadsBack n
  | .string _ => True
  | .array items => LegibleItems items
  | .object members => LegibleMembers members

def LegibleItems : List Json → Prop
  | [] => True
  | v :: rest => v.Legible ∧ LegibleItems rest

def LegibleMembers : List (String × Json) → Prop
  | [] => True
  | (_, v) :: rest => v.Legible ∧ LegibleMembers rest

end

theorem itemsDepth_le_iff {vs : List Json} {d : Nat} : itemsDepth vs ≤ d ↔ ∀ v ∈ vs, v.depth ≤ d := by
  induction vs with
  | nil => simp [itemsDepth]
  | cons v vs ih => rw [itemsDepth, Nat.max_le, ih, List.forall_mem_cons]

theorem legibleItems_iff {vs : List Json} : LegibleItems vs ↔ ∀ v ∈ vs, v.Legible := by
  induction vs with
  | nil => simp [LegibleItems]
  | cons v vs ih => rw [LegibleItems, ih, List.forall_mem_cons]

theorem membersDepth_le_iff {ms : List (String × Json)} {d : Nat} :
    membersDepth ms ≤ d ↔ ∀ m ∈ ms, m.2.depth ≤ d := by
  induction ms with
  | nil => simp [membersDepth]
  | cons m ms ih => rw [membersDepth, Nat.max_le, ih, List.forall_mem_cons]

theorem legibleMembers_iff {ms : List (String × Json)} :
    LegibleMembers ms ↔ ∀ m ∈ ms, m.2.Legible := by
  induction ms with
  | nil => simp [LegibleMembers]
  | cons m ms ih => rw [LegibleMembers, ih, List.forall_mem_cons]

theorem array_plain {vs : List Json} {d : Nat} (h : ∀ v ∈ vs, v.depth ≤ d ∧ v.Legible) :
    (array vs).depth ≤ d + 1 ∧ (array vs).Legible :=
  ⟨Nat.succ_le_succ (itemsDepth_le_iff.mpr fun v hv => (h v hv).1),
    legibleItems_iff.mpr fun v hv => (h v hv).2⟩

theorem object_plain {ms : List (String × Json)} {d : Nat} (h : ∀ m ∈ ms, m.2.depth ≤ d ∧ m.2.Legible) :
    (object ms).depth ≤ d + 1 ∧ (object ms).Legible :=
  ⟨Nat.succ_le_succ (membersDepth_le_iff.mpr fun m hm => (h m hm).1),
    legibleMembers_iff.mpr fun m hm => (h m hm).2⟩

theorem membersDepth_sortMembers_le (ms : List (String × Json)) :
    membersDepth (sortMembers ms) ≤ membersDepth ms :=
  membersDepth_le_iff.mpr fun _ hm => membersDepth_le_iff.mp (Nat.le_refl _) _ (mem_sortMembers hm)

theorem legibleMembers_sortMembers {ms : List (String × Json)} (h : LegibleMembers ms) :
    LegibleMembers (sortMembers ms) :=
  legibleMembers_iff.mpr fun _ hm => legibleMembers_iff.mp h _ (mem_sortMembers hm)

mutual

theorem depth_normal_le : (v : Json) → v.normal.depth ≤ v.depth
  | .null => Nat.le_refl _
  | .bool _ => Nat.le_refl _
  | .number _ => Nat.le_refl _
  | .string _ => Nat.le_refl _
  | .array items => Nat.succ_le_succ (itemsDepth_normal_le items)
  | .object members => Nat.succ_le_succ <|
    Nat.le_trans (membersDepth_sortMembers_le _) (membersDepth_normal_le members)

theorem itemsDepth_normal_le : (items : List Json) →
    itemsDepth (normalItems items) ≤ itemsDepth items
  | [] => Nat.le_refl _
  | v :: rest => by
    have hv := depth_normal_le v
    have hrest := itemsDepth_normal_le rest
    simp only [normalItems, itemsDepth]
    omega

theorem membersDepth_normal_le : (members : List (String × Json)) →
    membersDepth (normalMembers members) ≤ membersDepth members
  | [] => Nat.le_refl _
  | (_, v) :: rest => by
    have hv := depth_normal_le v
    have hrest := membersDepth_normal_le rest
    simp only [normalMembers, membersDepth]
    omega

end

mutual

theorem Legible.normal : (v : Json) → v.Legible → v.normal.Legible
  | .null, h => h
  | .bool _, h => h
  | .number _, h => h
  | .string _, h => h
  | .array items, h => LegibleItems.normal items h
  | .object members, h => legibleMembers_sortMembers (LegibleMembers.normal members h)

theorem LegibleItems.normal : (items : List Json) → LegibleItems items →
    LegibleItems (normalItems items)
  | [], h => h
  | v :: rest, h => ⟨Legible.normal v h.1, LegibleItems.normal rest h.2⟩

theorem LegibleMembers.normal : (members : List (String × Json)) → LegibleMembers members →
    LegibleMembers (normalMembers members)
  | [], h => h
  | (_, v) :: rest, h => ⟨Legible.normal v h.1, LegibleMembers.normal rest h.2⟩

end

/-! ### Drafts of values -/

namespace Draft

mutual

@[simp] theorem written?_ofJson : (v : Json) → (ofJson v).written? = some v
  | .null => rfl
  | .bool _ => rfl
  | .number _ => rfl
  | .string _ => rfl
  | .array items => by rw [ofJson, written?, writtenItems?_ofItems items, Option.map_some]
  | .object members => by rw [ofJson, written?, writtenMembers?_ofMembers members, Option.map_some]

theorem writtenItems?_ofItems : (items : List Json) → writtenItems? (ofItems items) = some items
  | [] => rfl
  | v :: rest => by
    rw [ofItems, writtenItems?, written?_ofJson v, writtenItems?_ofItems rest]
    rfl

theorem writtenMembers?_ofMembers : (members : List (String × Json)) →
    writtenMembers? (ofMembers members) = some members
  | [] => rfl
  | (k, v) :: rest => by
    rw [ofMembers, writtenMembers?, written?_ofJson v, writtenMembers?_ofMembers rest]
    rfl

end

@[simp] theorem value?_ofJson (v : Json) : (ofJson v).value? = some v.normal := by
  simp [value?]

mutual

@[simp] theorem skippable_ofJson : (v : Json) → (ofJson v).skippable = true
  | .null => rfl
  | .bool _ => rfl
  | .number _ => rfl
  | .string _ => rfl
  | .array items => skippableItems_ofItems items
  | .object members => skippableMembers_ofMembers members

theorem skippableItems_ofItems : (items : List Json) → skippableItems (ofItems items) = true
  | [] => rfl
  | v :: rest => by
    rw [ofItems, skippableItems, skippable_ofJson v, skippableItems_ofItems rest]
    rfl

theorem skippableMembers_ofMembers : (members : List (String × Json)) →
    skippableMembers (ofMembers members) = true
  | [] => rfl
  | (k, v) :: rest => by
    rw [ofMembers, skippableMembers, skippable_ofJson v, skippableMembers_ofMembers rest]
    rfl

end

end Draft

end ReleaseDesk.Json
