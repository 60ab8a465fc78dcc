import Mathlib.Data.List.TakeWhile
import ReleaseDesk.Proofs.Service.Catalogue

/-! Installing a list of handlers in a registry. The handlers are registered in order up to the
first whose key is in use; those before it stay registered, as does everything registered earlier.
Handlers cannot be removed, so installing the same list again has no effect. -/

namespace ReleaseDesk.Service

/-! ### Keys in use -/

namespace Key

/-- The kind of a key, as error messages name it. -/
def kind : Key → String
  | tool _ => "tool"
  | resource _ => "resource"
  | prompt _ => "prompt"

def text : Key → String
  | tool name => name
  | resource uri => uri
  | prompt name => name

/-- The refusal of a handler whose key is in use. -/
def taken (k : Key) : ConfigFault :=
  .invalidValue k.kind (k.kind ++ " '" ++ k.text ++ "' is already registered")

end Key

theorem SortedMap.add_of_taken {s : SortedMap α} {kind key : String} {b : α}
    (h : s.get? key = some b) (a : α) :
    s.add kind key a = .error (.invalidValue kind (kind ++ " '" ++ key ++ "' is already registered")) := by
  simp only [add, h]

namespace Registry

variable {r r' : Registry ω} {h : Handler ω}

def isFree (r : Registry ω) (k : Key) : Bool := (r.get? k).isNone

theorem isFree_iff {k : Key} : r.isFree k = true ↔ r.get? k = none := Option.isNone_iff_eq_none

theorem isFree_eq_false_iff {k : Key} : r.isFree k = false ↔ ∃ other, r.get? k = some other := by
  rw [isFree, Option.isNone_eq_false_iff, Option.isSome_iff_exists]

theorem register_of_taken (hvalid : h.key.isValid) (htaken : r.isFree h.key = false) :
    r.register h = .error h.key.taken := by
  obtain ⟨other, hother⟩ := isFree_eq_false_iff.mp htaken
  cases h with
  | tool h =>
    obtain ⟨b, hb, -⟩ := Option.map_eq_some_iff.mp hother
    simp only [register, checkName_iff.mpr hvalid, SortedMap.add_of_taken hb]
    rfl
  | resource h =>
    obtain ⟨b, hb, -⟩ := Option.map_eq_some_iff.mp hother
    simp only [register, checkUri_iff.mpr hvalid, SortedMap.add_of_taken hb]
    rfl
  | prompt h =>
    obtain ⟨b, hb, -⟩ := Option.map_eq_some_iff.mp hother
    simp only [register, checkName_iff.mpr hvalid, SortedMap.add_of_taken hb]
    rfl

theorem registerAll_of_taken (hvalid : h.key.isValid) (htaken : r.isFree h.key = false)
    (rest : List (Handler ω)) : r.registerAll (h :: rest) = (.error h.key.taken, r) := by
  simp only [registerAll, register_of_taken hvalid htaken]

/-! ### Installing -/

/-- The handlers before the first whose key is in use. -/
def admitted (r : Registry ω) (handlers : List (Handler ω)) : List (Handler ω) :=
  handlers.takeWhile fun h => r.isFree h.key

/-- The first handler whose key is in use. -/
def clash? (r : Registry ω) (handlers : List (Handler ω)) : Option (Handler ω) :=
  handlers.find? fun h => !r.isFree h.key

/-- The result of installing a list. It fails if a key is in use, with the refusal of the first such
handler; the handlers before that one are added, all of them if there is none, and earlier entries
are kept. -/
structure Installs (r : Registry ω) (handlers : List (Handler ω)) : Prop where
  outcome : (r.registerAll handlers).1 =
    match r.clash? handlers with
    | none => .ok ()
    | some h => .error h.key.taken
  found : ∀ k, (r.registerAll handlers).2.get? k =
    (r.get? k).or ((r.admitted handlers).find? (·.key = k))
  perm : ∀ kind : Kind, (kind.table (r.registerAll handlers).2).toList.Perm
    ((kind.table r).toList ++ (r.admitted handlers).filterMap kind.member?)

variable {rest : List (Handler ω)}

theorem admitted_cons_of_free (hfree : r.isFree h.key = true) :
    r.admitted (h :: rest) = h :: r.admitted rest := List.takeWhile_cons_of_pos hfree

theorem admitted_cons_of_taken (htaken : r.isFree h.key = false) : r.admitted (h :: rest) = [] :=
  List.takeWhile_cons_of_neg (by simp [htaken])

theorem clash?_cons_of_free (hfree : r.isFree h.key = true) :
    r.clash? (h :: rest) = r.clash? rest := List.find?_cons_of_neg (by simp [hfree])

theorem clash?_cons_of_taken (htaken : r.isFree h.key = false) : r.clash? (h :: rest) = some h :=
  List.find?_cons_of_pos (by simp [htaken])

/-- The prefix that is admitted depends only on which keys are in use. -/
theorem admitted_congr (hsame : ∀ other ∈ rest, r'.isFree other.key = r.isFree other.key) :
    r'.admitted rest = r.admitted rest ∧ r'.clash? rest = r.clash? rest := by
  induction rest with
  | nil => exact ⟨rfl, rfl⟩
  | cons other rest ih =>
    obtain ⟨hother, hrest⟩ := List.forall_mem_cons.mp hsame
    obtain ⟨hadmitted, hclash⟩ := ih hrest
    cases hfree : r.isFree other.key with
    | true =>
      rw [admitted_cons_of_free hfree, admitted_cons_of_free (hother.trans hfree), hadmitted,
        clash?_cons_of_free hfree, clash?_cons_of_free (hother.trans hfree), hclash]
      exact ⟨rfl, rfl⟩
    | false =>
      rw [admitted_cons_of_taken hfree, admitted_cons_of_taken (hother.trans hfree),
        clash?_cons_of_taken hfree, clash?_cons_of_taken (hother.trans hfree)]
      exact ⟨rfl, rfl⟩

namespace Installs

theorem of_taken (hvalid : h.key.isValid) (htaken : r.isFree h.key = false) : Installs r (h :: rest) where
  outcome := by rw [registerAll_of_taken hvalid htaken, clash?_cons_of_taken htaken]
  found k := by
    rw [registerAll_of_taken hvalid htaken, admitted_cons_of_taken htaken, List.find?_nil, Option.or_none]
  perm kind := by
    rw [registerAll_of_taken hvalid htaken, admitted_cons_of_taken htaken, List.filterMap_nil,
      List.append_nil]

/-- Installing a list with an unused first key registers the first handler and then installs the
rest. -/
theorem of_free (hfree : r.isFree h.key = true) (hok : r.register h = .ok r')
    (hget : ∀ k, r'.get? k = if h.key = k then some h else r.get? k)
    (hdistinct : h.key ∉ rest.map Handler.key) (t : Installs r' rest) : Installs r (h :: rest) := by
  have hall : r.registerAll (h :: rest) = r'.registerAll rest := by simp only [registerAll, hok]
  have hsame : ∀ other ∈ rest, r'.isFree other.key = r.isFree other.key := by
    intro other hother
    have hne : h.key ≠ other.key := fun heq => hdistinct (heq ▸ List.mem_map_of_mem hother)
    rw [isFree, hget, if_neg hne, isFree]
  obtain ⟨hadmitted, hclash⟩ := admitted_congr hsame
  refine ⟨?_, fun k => ?_, fun kind => ?_⟩
  · rw [hall, t.outcome, hclash, clash?_cons_of_free hfree]
  · rw [hall, t.found, hget, hadmitted, admitted_cons_of_free hfree, List.find?_cons]
    by_cases hk : h.key = k
    · simp [hk, hk ▸ isFree_iff.mp hfree]
    · simp [hk]
  · rw [hall, admitted_cons_of_free hfree, ← List.singleton_append, List.filterMap_append,
      ← List.append_assoc, ← hadmitted]
    exact (t.perm kind).trans ((perm_register hok kind).append_right _)

/-- Handlers with valid, distinct keys can be installed in any registry. -/
theorem of_distinct {handlers : List (Handler ω)} (r : Registry ω)
    (hvalid : ∀ h ∈ handlers, h.key.isValid) (hdistinct : (handlers.map Handler.key).Nodup) :
    Installs r handlers := by
  induction handlers generalizing r with
  | nil => exact ⟨rfl, fun k => (Option.or_none).symm, fun kind => by simp [registerAll, admitted]⟩
  | cons h rest ih =>
    obtain ⟨hvalid, hrest⟩ := List.forall_mem_cons.mp hvalid
    obtain ⟨hnew, hdistinct⟩ := List.nodup_cons.mp hdistinct
    cases hfree : r.isFree h.key with
    | false => exact .of_taken hvalid hfree
    | true =>
      obtain ⟨r', hok, hget⟩ := exists_register hvalid (isFree_iff.mp hfree)
      exact .of_free hfree hok hget hnew (ih r' hrest hdistinct)

theorem whole_iff {handlers : List (Handler ω)} (t : Installs r handlers) :
    (r.registerAll handlers).1 = .ok () ↔ r.admitted handlers = handlers := by
  rw [t.outcome, admitted, List.takeWhile_eq_self_iff]
  cases hclash : r.clash? handlers with
  | none =>
    refine iff_of_true rfl fun h hh => ?_
    simpa using List.find?_eq_none.mp hclash h hh
  | some h =>
    refine iff_of_false nofun fun hfree => ?_
    have htaken := List.find?_some hclash
    rw [hfree h (List.mem_of_find?_eq_some hclash)] at htaken
    cases htaken

/-- Afterwards the first key is in use. -/
theorem first_taken (t : Installs r (h :: rest)) :
    (r.registerAll (h :: rest)).2.isFree h.key = false := by
  rw [isFree_eq_false_iff, t.found]
  cases hfree : r.isFree h.key with
  | true => exact ⟨h, by simp [isFree_iff.mp hfree, admitted_cons_of_free hfree]⟩
  | false =>
    obtain ⟨other, hother⟩ := isFree_eq_false_iff.mp hfree
    exact ⟨other, by rw [hother, Option.some_or]⟩

/-- The registry is unchanged if and only if the first key was in use before. -/
theorem unchanged_iff (t : Installs r (h :: rest)) (hvalid : h.key.isValid) :
    (r.registerAll (h :: rest)).2 = r ↔ r.isFree h.key = false := by
  constructor
  · intro hsame
    rw [← t.first_taken, hsame]
  · intro htaken
    rw [registerAll_of_taken hvalid htaken]

/-- Installing the same list again fails and leaves the registry unchanged. -/
theorem again (t : Installs r (h :: rest)) (hvalid : h.key.isValid) :
    (r.registerAll (h :: rest)).2.registerAll (h :: rest) =
      (.error h.key.taken, (r.registerAll (h :: rest)).2) :=
  registerAll_of_taken hvalid t.first_taken rest

end Installs

/-- Installing a list, and installing it again. The first installation succeeds if and only if all
handlers are added, and leaves the registry unchanged if and only if the first key was in use.
Afterwards the first key is in use, so the second installation fails and leaves the registry
unchanged. -/
structure InstallsOnce (r : Registry ω) (handlers : List (Handler ω)) : Prop extends
    Installs r handlers where
  whole : (r.registerAll handlers).1 = .ok () ↔ r.admitted handlers = handlers
  unchanged : (r.registerAll handlers).2 = r ↔ ∃ first ∈ handlers.head?, r.isFree first.key = false
  again : ∃ first ∈ handlers.head?, (r.registerAll handlers).2.registerAll handlers =
    (.error first.key.taken, (r.registerAll handlers).2)

theorem InstallsOnce.of_distinct (r : Registry ω) (hvalid : ∀ other ∈ h :: rest, other.key.isValid)
    (hdistinct : ((h :: rest).map Handler.key).Nodup) : InstallsOnce r (h :: rest) := by
  have t : Installs r (h :: rest) := .of_distinct r hvalid hdistinct
  have hfirst : h.key.isValid := hvalid h List.mem_cons_self
  exact {
    t with
    whole := t.whole_iff
    unchanged := by simpa using t.unchanged_iff hfirst
    again := ⟨h, rfl, t.again hfirst⟩ }

end Registry

end ReleaseDesk.Service
