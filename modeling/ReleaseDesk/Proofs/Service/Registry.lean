import Mathlib.Data.List.Nodup
import Mathlib.Tactic.Common
import ReleaseDesk.Service.Registry

/-! Lookup in a registry. Registration makes the handler available under its key and does not affect
other keys. Handlers with valid, distinct, unused keys can be registered together. -/

namespace ReleaseDesk.Service

/-! ### Sorted maps -/

namespace SortedMap

theorem find?_place {entries : List (String × α)} {key : String}
    (h : entries.find? (·.1 = key) = none) (a : α) (k : String) :
    (place key a entries).find? (·.1 = k) =
      if key = k then some (key, a) else entries.find? (·.1 = k) := by
  induction entries with
  | nil => by_cases hk : key = k <;> simp [place, hk]
  | cons first rest ih =>
    obtain ⟨other, b⟩ := first
    have hother : other ≠ key := by
      have hall := List.find?_eq_none.mp h (other, b) List.mem_cons_self
      simpa using hall
    have hrest : rest.find? (·.1 = key) = none := by
      rw [List.find?_cons, decide_eq_false hother] at h
      exact h
    rw [place]
    split_ifs with hlt hk hk
    · simp [hk]
    · simp [hk]
    · subst hk
      rw [List.find?_cons, decide_eq_false hother, ih hrest, if_pos rfl]
    · rw [List.find?_cons, List.find?_cons, ih hrest, if_neg hk]

theorem perm_place (key : String) (a : α) (entries : List (String × α)) :
    (place key a entries).Perm ((key, a) :: entries) := by
  induction entries with
  | nil => exact .refl _
  | cons first rest ih =>
    obtain ⟨k, b⟩ := first
    rw [place]
    split_ifs
    · exact .refl _
    · exact (ih.cons _).trans (.swap _ _ _)

theorem add_of_free {s : SortedMap α} {kind key : String} (h : s.get? key = none) (a : α) :
    s.add kind key a = .ok { entries := place key a s.entries } := by
  simp only [add, h]

theorem add_ok {s s' : SortedMap α} {kind key : String} {a : α} (h : s.add kind key a = .ok s') :
    s.get? key = none ∧ s' = ⟨place key a s.entries⟩ := by
  unfold add at h
  cases hk : s.get? key with
  | some b =>
    rw [hk] at h
    cases h
  | none =>
    rw [hk] at h
    cases h
    exact ⟨rfl, rfl⟩

theorem get?_add {s : SortedMap α} {key : String} (h : s.get? key = none) (a : α) (k : String) :
    ({ entries := place key a s.entries } : SortedMap α).get? k =
      if key = k then some a else s.get? k := by
  have hfree : s.entries.find? (·.1 = key) = none := Option.map_eq_none_iff.mp h
  unfold get?
  rw [find?_place hfree]
  split_ifs <;> rfl

end SortedMap

/-! ### Keys -/

theorem checkName_iff {kind s : String} : checkName kind s = .ok () ↔ isName s = true := by
  unfold checkName
  split_ifs with h
  · exact iff_of_true rfl h
  · exact iff_of_false nofun h

theorem checkUri_iff {s : String} : checkUri s = .ok () ↔ isUri s = true := by
  unfold checkUri
  split_ifs with h
  · exact iff_of_true rfl h
  · exact iff_of_false nofun h

/-! ### Registries -/

/-- A kind with a name or a URI. -/
inductive Key
  | tool (name : String)
  | resource (uri : String)
  | prompt (name : String)
deriving DecidableEq

/-- The name or URI is in the language of its kind. -/
def Key.isValid : Key → Bool
  | tool name => isName name
  | resource uri => isUri uri
  | prompt name => isName name

def Handler.key : Handler ω → Key
  | tool h => .tool h.tool.name
  | resource h => .resource h.resource.uri
  | prompt h => .prompt h.prompt.name

namespace Registry

def get? (r : Registry ω) : Key → Option (Handler ω)
  | .tool name => (r.tools.get? name).map .tool
  | .resource uri => (r.resources.get? uri).map .resource
  | .prompt name => (r.prompts.get? name).map .prompt

@[simp] theorem get?_empty (k : Key) : ({} : Registry ω).get? k = none := by
  cases k <;> rfl

/-- A handler with a valid, unused key can be registered; lookup then returns it under its key and
is unchanged elsewhere. -/
theorem exists_register {r : Registry ω} {h : Handler ω} (hvalid : h.key.isValid)
    (hfree : r.get? h.key = none) :
    ∃ r', r.register h = .ok r' ∧ ∀ k, r'.get? k = if h.key = k then some h else r.get? k := by
  cases h with
  | tool h =>
    have hname : isName h.tool.name = true := hvalid
    have hfree : r.tools.get? h.tool.name = none := Option.map_eq_none_iff.mp hfree
    have hok : r.register (.tool h) = .ok { r with
        tools := ⟨SortedMap.place h.tool.name h r.tools.entries⟩ } := by
      simp only [register, checkName, hname, if_true, SortedMap.add_of_free hfree]
      rfl
    refine ⟨_, hok, fun k => ?_⟩
    cases k with
    | tool name =>
      simp only [get?, SortedMap.get?_add hfree, Handler.key, Key.tool.injEq]
      split_ifs <;> rfl
    | resource uri => rfl
    | prompt name => rfl
  | resource h =>
    have huri : isUri h.resource.uri = true := hvalid
    have hfree : r.resources.get? h.resource.uri = none := Option.map_eq_none_iff.mp hfree
    have hok : r.register (.resource h) = .ok { r with
        resources := ⟨SortedMap.place h.resource.uri h r.resources.entries⟩ } := by
      simp only [register, checkUri, huri, if_true, SortedMap.add_of_free hfree]
      rfl
    refine ⟨_, hok, fun k => ?_⟩
    cases k with
    | tool name => rfl
    | resource uri =>
      simp only [get?, SortedMap.get?_add hfree, Handler.key, Key.resource.injEq]
      split_ifs <;> rfl
    | prompt name => rfl
  | prompt h =>
    have hname : isName h.prompt.name = true := hvalid
    have hfree : r.prompts.get? h.prompt.name = none := Option.map_eq_none_iff.mp hfree
    have hok : r.register (.prompt h) = .ok { r with
        prompts := ⟨SortedMap.place h.prompt.name h r.prompts.entries⟩ } := by
      simp only [register, checkName, hname, if_true, SortedMap.add_of_free hfree]
      rfl
    refine ⟨_, hok, fun k => ?_⟩
    cases k with
    | tool name => rfl
    | resource uri => rfl
    | prompt name =>
      simp only [get?, SortedMap.get?_add hfree, Handler.key, Key.prompt.injEq]
      split_ifs <;> rfl

/-- Handlers with valid, distinct, unused keys can be registered together. -/
theorem exists_registerAll {r : Registry ω} {handlers : List (Handler ω)}
    (hvalid : ∀ h ∈ handlers, h.key.isValid) (hdistinct : (handlers.map Handler.key).Nodup)
    (hfree : ∀ h ∈ handlers, r.get? h.key = none) :
    ∃ r', r.registerAll handlers = (.ok (), r') ∧
      ∀ k, r'.get? k = (handlers.find? (·.key = k)).or (r.get? k) := by
  induction handlers generalizing r with
  | nil => exact ⟨r, rfl, fun k => rfl⟩
  | cons h rest ih =>
    obtain ⟨hvalid, hrestValid⟩ := List.forall_mem_cons.mp hvalid
    obtain ⟨hfree, hrestFree⟩ := List.forall_mem_cons.mp hfree
    obtain ⟨hnew, hrestDistinct⟩ := List.nodup_cons.mp hdistinct
    obtain ⟨r', hok, hget⟩ := exists_register hvalid hfree
    have hstillFree : ∀ other ∈ rest, r'.get? other.key = none := by
      intro other hother
      have hne : h.key ≠ other.key := fun he => hnew (he ▸ List.mem_map_of_mem hother)
      rw [hget, if_neg hne, hrestFree other hother]
    obtain ⟨r'', hall, hgetAll⟩ := ih hrestValid hrestDistinct hstillFree
    refine ⟨r'', by simp only [registerAll, hok, hall], fun k => ?_⟩
    rw [hgetAll, hget, List.find?_cons]
    by_cases hk : h.key = k
    · have hlater : rest.find? (·.key = k) = none := by
        rw [List.find?_eq_none]
        intro other hother hsame
        have hsame : other.key = k := of_decide_eq_true hsame
        exact hnew ((hk.trans hsame.symm) ▸ List.mem_map_of_mem hother)
      simp [hk, hlater]
    · simp [hk]

theorem registerAll_append {r r'' : Registry ω} {first second : List (Handler ω)}
    (h : r.registerAll (first ++ second) = (.ok (), r'')) :
    ∃ r', r.registerAll first = (.ok (), r') ∧ r'.registerAll second = (.ok (), r'') := by
  induction first generalizing r with
  | nil => exact ⟨r, rfl, h⟩
  | cons handler first ih =>
    simp only [List.cons_append, registerAll] at h ⊢
    cases hok : r.register handler with
    | error fault => simp [hok] at h
    | ok r' =>
      simp only [hok] at h ⊢
      exact ih h

end Registry

end ReleaseDesk.Service
