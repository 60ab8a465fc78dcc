import Mathlib.Data.String.Basic
import Mathlib.Tactic.Common
import ReleaseDesk.Proofs.Service.Registry
import ReleaseDesk.Proofs.Service.Answer

/-! Listings and lookup in a registry that grows while the server runs. The listing of a kind holds
the definitions of the handlers registered, in strictly ascending order of their keys; a key keeps
the handler that was first registered under it; and a call reaches a handler if and only if its key
is in the listing. -/

namespace ReleaseDesk.Service

open ReleaseDesk.Protocol ReleaseDesk.Wire

/-! ### Sorted maps -/

namespace SortedMap

theorem get?_eq_none {s : SortedMap α} {key : String} : s.get? key = none ↔ key ∉ s.keys := by
  rw [get?, Option.map_eq_none_iff, List.find?_eq_none, keys, List.mem_map]
  constructor
  · rintro h ⟨entry, hentry, rfl⟩
    exact h entry hentry (decide_eq_true rfl)
  · intro h entry hentry hkey
    exact h ⟨entry, hentry, of_decide_eq_true hkey⟩

/-- Insertion under a new key keeps the keys ascending. -/
theorem ascending_place {key : String} {entries : List (String × α)} (hfree : key ∉ entries.map (·.1))
    (h : (entries.map (·.1)).Pairwise (· < ·)) (a : α) :
    ((place key a entries).map (·.1)).Pairwise (· < ·) := by
  induction entries with
  | nil => exact List.pairwise_singleton _ _
  | cons first rest ih =>
    obtain ⟨k, b⟩ := first
    simp only [List.map_cons, List.mem_cons, not_or] at hfree
    obtain ⟨hfirst, hrest⟩ := List.pairwise_cons.mp h
    rw [place]
    split_ifs with hlt
    · refine List.pairwise_cons.mpr ⟨fun other hother => ?_, h⟩
      rcases List.mem_cons.mp hother with rfl | hother
      · exact hlt
      · exact hlt.trans (hfirst other hother)
    · have hkey : k < key := lt_of_le_of_ne (not_lt.mp hlt) (Ne.symm hfree.1)
      refine List.pairwise_cons.mpr ⟨fun other hother => ?_, ih hfree.2 hrest⟩
      rcases List.mem_cons.mp (((perm_place key a rest).map (·.1)).mem_iff.mp hother) with rfl | hother
      · exact hkey
      · exact hfirst other hother

/-- The keys ascend, and every value is stored under its own name. -/
structure WellFormed (name : α → String) (s : SortedMap α) : Prop where
  ascending : s.keys.Pairwise (· < ·)
  named : ∀ entry ∈ s.entries, entry.1 = name entry.2

namespace WellFormed

variable {name : α → String} {s : SortedMap α}

theorem empty : WellFormed name {} := ⟨.nil, nofun⟩

theorem map_name (h : WellFormed name s) : s.toList.map name = s.keys := by
  rw [toList, keys, List.map_map]
  exact List.map_congr_left fun entry hentry => (h.named entry hentry).symm

theorem place (h : WellFormed name s) {a : α} (hfree : s.get? (name a) = none) :
    WellFormed name ⟨SortedMap.place (name a) a s.entries⟩ where
  ascending := ascending_place (get?_eq_none.mp hfree) h.ascending a
  named entry hentry := by
    rcases List.mem_cons.mp ((perm_place _ _ _).mem_iff.mp hentry) with rfl | hentry
    · rfl
    · exact h.named entry hentry

end WellFormed

end SortedMap

/-! ### Kinds -/

/-- The three kinds of handlers, each with a listing method and a call method. -/
inductive Kind
  | tool
  | resource
  | prompt
deriving DecidableEq

namespace Kind

def Member (ω : Type) : Kind → Type
  | tool => ToolHandler ω
  | resource => ResourceHandler ω
  | prompt => PromptHandler ω

/-- The type of the entries of a listing. -/
def Definition : Kind → Type
  | tool => Tool
  | resource => Resource
  | prompt => Prompt

def definition : (kind : Kind) → kind.Member ω → kind.Definition
  | tool, h => ToolHandler.tool h
  | resource, h => ResourceHandler.resource h
  | prompt, h => PromptHandler.prompt h

def name : (kind : Kind) → kind.Definition → String
  | tool, d => Tool.name d
  | resource, d => Resource.uri d
  | prompt, d => Prompt.name d

def table : (kind : Kind) → Registry ω → SortedMap (kind.Member ω)
  | tool, r => r.tools
  | resource, r => r.resources
  | prompt, r => r.prompts

/-- The handler, if it is of this kind. -/
def member? : (kind : Kind) → Handler ω → Option (kind.Member ω)
  | tool, .tool h => some h
  | resource, .resource h => some h
  | prompt, .prompt h => some h
  | _, _ => none

def listed (kind : Kind) (r : Registry ω) : List kind.Definition :=
  (kind.table r).toList.map kind.definition

/-- The result of the listing method, given the definitions. -/
def page : (kind : Kind) → List kind.Definition → Json
  | tool, tools => ToolPage.codec.toJson { tools }
  | resource, resources => ResourcePage.codec.toJson { resources }
  | prompt, prompts => PromptPage.codec.toJson { prompts }

def listMethod : Kind → String
  | tool => "tools/list"
  | resource => "resources/list"
  | prompt => "prompts/list"

def callMethod : Kind → String
  | tool => "tools/call"
  | resource => "resources/read"
  | prompt => "prompts/get"

/-- The key that the parameters of the call method ask for; `none` if they do not decode. -/
def requestedKey? (params : Option Json) : Kind → Option String
  | tool => (readParams ToolCall.codec params).toOption.map (·.name)
  | resource => (readParams ResourceRead.codec params).toOption.map (·.uri)
  | prompt => (readParams PromptFill.codec params).toOption.map (·.name)

end Kind

/-! ### Registration -/

namespace Registry

variable {r r' : Registry ω} {h : Handler ω}

/-- A successful registration has a valid, unused key, and inserts into the map of its kind only. -/
theorem of_register (hok : r.register h = .ok r') :
    h.key.isValid ∧ r.get? h.key = none ∧ ∀ kind : Kind,
      (∃ a, kind.member? h = some a ∧ (kind.table r).get? (kind.name (kind.definition a)) = none ∧
        kind.table r' = ⟨SortedMap.place (kind.name (kind.definition a)) a (kind.table r).entries⟩) ∨
      kind.member? h = none ∧ kind.table r' = kind.table r := by
  cases h with
  | tool h =>
    obtain ⟨_, hname, hok⟩ := bind_eq_ok hok
    obtain ⟨tools, hadd, hok⟩ := bind_eq_ok hok
    obtain ⟨hfree, rfl⟩ := SortedMap.add_ok hadd
    cases hok
    refine ⟨checkName_iff.mp hname, Option.map_eq_none_iff.mpr hfree, fun kind => ?_⟩
    cases kind with
    | tool => exact .inl ⟨h, rfl, hfree, rfl⟩
    | resource => exact .inr ⟨rfl, rfl⟩
    | prompt => exact .inr ⟨rfl, rfl⟩
  | resource h =>
    obtain ⟨_, huri, hok⟩ := bind_eq_ok hok
    obtain ⟨resources, hadd, hok⟩ := bind_eq_ok hok
    obtain ⟨hfree, rfl⟩ := SortedMap.add_ok hadd
    cases hok
    refine ⟨checkUri_iff.mp huri, Option.map_eq_none_iff.mpr hfree, fun kind => ?_⟩
    cases kind with
    | tool => exact .inr ⟨rfl, rfl⟩
    | resource => exact .inl ⟨h, rfl, hfree, rfl⟩
    | prompt => exact .inr ⟨rfl, rfl⟩
  | prompt h =>
    obtain ⟨_, hname, hok⟩ := bind_eq_ok hok
    obtain ⟨prompts, hadd, hok⟩ := bind_eq_ok hok
    obtain ⟨hfree, rfl⟩ := SortedMap.add_ok hadd
    cases hok
    refine ⟨checkName_iff.mp hname, Option.map_eq_none_iff.mpr hfree, fun kind => ?_⟩
    cases kind with
    | tool => exact .inr ⟨rfl, rfl⟩
    | resource => exact .inr ⟨rfl, rfl⟩
    | prompt => exact .inl ⟨h, rfl, hfree, rfl⟩

theorem perm_register (hok : r.register h = .ok r') (kind : Kind) :
    (kind.table r').toList.Perm ((kind.table r).toList ++ [h].filterMap kind.member?) := by
  obtain ⟨-, -, hshelves⟩ := of_register hok
  rcases hshelves kind with ⟨a, hmember, -, htable⟩ | ⟨hmember, htable⟩
  · have hplace := (SortedMap.perm_place (kind.name (kind.definition a)) a (kind.table r).entries).map (·.2)
    have hlast : [h].filterMap kind.member? = [a] := by simp [hmember]
    rw [htable, hlast]
    exact hplace.trans (List.perm_append_singleton a _).symm
  · have hlast : [h].filterMap kind.member? = [] := by simp [hmember]
    rw [htable, hlast, List.append_nil]

theorem registerAll_singleton_of_ok (hok : r.register h = .ok r') : r.registerAll [h] = (.ok (), r') := by
  simp only [registerAll, hok]

theorem registerAll_singleton_of_error {fault : ConfigFault} (herror : r.register h = .error fault) :
    r.registerAll [h] = (.error fault, r) := by
  simp only [registerAll, herror]

/-- A registration succeeds if and only if the key is valid and unused; otherwise the registry is
unchanged. -/
theorem registerAll_singleton (r : Registry ω) (h : Handler ω) :
    ((r.registerAll [h]).1.isOk ↔ h.key.isValid ∧ r.get? h.key = none) ∧
    (¬(r.registerAll [h]).1.isOk → (r.registerAll [h]).2 = r) := by
  cases hregister : r.register h with
  | ok r' =>
    rw [registerAll_singleton_of_ok hregister]
    obtain ⟨hvalid, hfree, -⟩ := of_register hregister
    exact ⟨iff_of_true rfl ⟨hvalid, hfree⟩, fun hne => absurd rfl hne⟩
  | error fault =>
    rw [registerAll_singleton_of_error hregister]
    refine ⟨iff_of_false nofun fun ⟨hvalid, hfree⟩ => ?_, fun _ => rfl⟩
    obtain ⟨r', hok, -⟩ := exists_register hvalid hfree
    rw [hregister] at hok
    cases hok

/-- `r` is the result of registering `done`, in this order. -/
structure Catalogues (r : Registry ω) (done : List (Handler ω)) : Prop where
  found : ∀ k, r.get? k = done.find? (·.key = k)
  wellFormed : ∀ kind : Kind, (kind.table r).WellFormed fun a => kind.name (kind.definition a)
  perm : ∀ kind : Kind, (kind.table r).toList.Perm (done.filterMap kind.member?)

namespace Catalogues

variable {done : List (Handler ω)}

theorem empty : Catalogues ({} : Registry ω) [] where
  found := get?_empty
  wellFormed kind := by cases kind <;> exact .empty
  perm kind := by cases kind <;> exact .refl _

theorem register (c : Catalogues r done) (hok : r.register h = .ok r') : Catalogues r' (done ++ [h]) where
  found k := by
    obtain ⟨hvalid, hfree, -⟩ := of_register hok
    obtain ⟨other, hother, hget⟩ := exists_register hvalid hfree
    rw [hok] at hother
    cases hother
    rw [hget, List.find?_append, ← c.found]
    split_ifs with hk
    · rw [← hk, hfree]
      simp
    · simp [hk]
  wellFormed kind := by
    obtain ⟨-, -, hshelves⟩ := of_register hok
    rcases hshelves kind with ⟨a, -, hfree, htable⟩ | ⟨-, htable⟩
    · exact htable ▸ (c.wellFormed kind).place hfree
    · exact htable ▸ c.wellFormed kind
  perm kind := by
    rw [List.filterMap_append]
    exact (perm_register hok kind).trans ((c.perm kind).append_right _)

theorem registerAll {handlers : List (Handler ω)} (c : Catalogues r done)
    (hok : (r.registerAll handlers).1 = .ok ()) :
    Catalogues (r.registerAll handlers).2 (done ++ handlers) := by
  induction handlers generalizing r done with
  | nil =>
    rw [List.append_nil]
    exact c
  | cons h rest ih =>
    simp only [Registry.registerAll] at hok ⊢
    cases hregister : r.register h with
    | error fault =>
      rw [hregister] at hok
      cases hok
    | ok r' =>
      rw [hregister] at hok
      have hrest := ih (c.register hregister) hok
      rwa [List.append_assoc] at hrest

theorem ascending (c : Catalogues r done) (kind : Kind) :
    ((kind.listed r).map kind.name).Pairwise (· < ·) := by
  rw [Kind.listed, List.map_map]
  exact (c.wellFormed kind).map_name ▸ (c.wellFormed kind).ascending

theorem perm_listed (c : Catalogues r done) (kind : Kind) :
    (kind.listed r).Perm ((done.filterMap kind.member?).map kind.definition) :=
  (c.perm kind).map _

theorem get?_eq_none (c : Catalogues r done) (kind : Kind) (name : String) :
    (kind.table r).get? name = none ↔ name ∉ (kind.listed r).map kind.name := by
  rw [SortedMap.get?_eq_none, Kind.listed, List.map_map]
  exact (c.wellFormed kind).map_name ▸ Iff.rfl

end Catalogues

end Registry

/-! ### Calls and listings -/

namespace Dispatcher

variable {o : Dispatcher ω} {kind : Kind} {params : Option Json} {key : String} {c : Context}

theorem route_list (o : Dispatcher ω) (kind : Kind) (params : Option Json) (c : Context) :
    o.route kind.listMethod params c = pure (.ok (kind.page (kind.listed o.registry))) := by
  cases kind <;> rfl

theorem readParams_of_asked {codec : Codec α} {name : α → String}
    (h : (readParams codec params).toOption.map name = some key) :
    ∃ a, readParams codec params = .ok a ∧ name a = key := by
  cases hread : readParams codec params with
  | error fault => simp [hread, Except.toOption] at h
  | ok a => exact ⟨a, rfl, by simpa [hread, Except.toOption] using h⟩

theorem withParams_of_read {codec : Codec α} {a : α} (h : readParams codec params = .ok a)
    (go : α → Action ω (Except Rpc.Fault Json)) : withParams codec params go = go a := by
  rw [withParams, h]

theorem route_tool {call : ToolCall} {handler : ToolHandler ω}
    (hread : readParams ToolCall.codec params = .ok call)
    (hfound : o.registry.tools.get? call.name = some handler) (c : Context) :
    o.route "tools/call" params c = handled ToolResult.codec <$> handler.call call.arguments c := by
  have hroute : o.route "tools/call" params c = o.callTool call c := withParams_of_read hread _
  rw [hroute, callTool, hfound]

theorem route_resource {read : ResourceRead} {handler : ResourceHandler ω}
    (hread : readParams ResourceRead.codec params = .ok read)
    (hfound : o.registry.resources.get? read.uri = some handler) (c : Context) :
    o.route "resources/read" params c = handled ResourceResult.codec <$> handler.read c := by
  have hroute : o.route "resources/read" params c = o.readResource read c := withParams_of_read hread _
  rw [hroute, readResource, hfound]

/-- The action never fails with a not-found error. -/
def NeverNotFound (action : Action ω (Except Rpc.Fault Json)) : Prop :=
  ∀ scene fault, (action.run scene).1 = .error fault → fault.code ≠ -32601

theorem neverNotFound_handled (codec : Codec α) (action : Action ω (Except Failure α)) :
    NeverNotFound (handled codec <$> action) := by
  intro scene fault h
  change handled codec (action.run scene).1 = .error fault at h
  cases hresult : (action.run scene).1 with
  | ok a =>
    rw [hresult] at h
    cases h
  | error failure =>
    rw [hresult] at h
    cases h
    simp [Rpc.Fault.code]

/-- A call for a key outside the map of its kind fails with not-found, and a call for a key inside
never does. -/
theorem route_call (c : Context) (hasked : kind.requestedKey? params = some key) :
    ((kind.table o.registry).get? key = none →
      o.route kind.callMethod params c = pure (.error (.methodNotFound key))) ∧
    ((kind.table o.registry).get? key ≠ none → NeverNotFound (o.route kind.callMethod params c)) := by
  cases kind with
  | tool =>
    obtain ⟨call, hread, rfl⟩ := readParams_of_asked hasked
    have hroute : o.route Kind.tool.callMethod params c = o.callTool call c := withParams_of_read hread _
    rw [hroute, callTool]
    cases hh : o.registry.tools.get? call.name with
    | none => exact ⟨fun _ => rfl, fun h => absurd hh h⟩
    | some handler => exact ⟨fun h => absurd (hh.symm.trans h) nofun, fun _ => neverNotFound_handled _ _⟩
  | resource =>
    obtain ⟨read, hread, rfl⟩ := readParams_of_asked hasked
    have hroute : o.route Kind.resource.callMethod params c = o.readResource read c :=
      withParams_of_read hread _
    rw [hroute, readResource]
    cases hh : o.registry.resources.get? read.uri with
    | none => exact ⟨fun _ => rfl, fun h => absurd hh h⟩
    | some handler => exact ⟨fun h => absurd (hh.symm.trans h) nofun, fun _ => neverNotFound_handled _ _⟩
  | prompt =>
    obtain ⟨fill, hread, rfl⟩ := readParams_of_asked hasked
    have hroute : o.route Kind.prompt.callMethod params c = o.getPrompt fill c := withParams_of_read hread _
    rw [hroute, getPrompt]
    cases hh : o.registry.prompts.get? fill.name with
    | none => exact ⟨fun _ => rfl, fun h => absurd hh h⟩
    | some handler =>
      refine ⟨fun h => absurd (hh.symm.trans h) nofun, fun _ => ?_⟩
      dsimp only
      cases handler.prompt.missing fill.arguments with
      | nil => exact neverNotFound_handled _ _
      | cons name names =>
        -- the only missing thing left is an argument of a prompt
        rintro scene fault ⟨⟩
        simp [Rpc.Fault.code]

end Dispatcher

/-! ### Servers -/

/-- An event at a running server: a registration or a request. -/
inductive ServerEvent (ω : Type)
  | register (h : Handler ω)
  | request (r : Rpc.Request)

namespace Server

def apply (s : Server ω) : ServerEvent ω → Server ω
  | .register h =>
    { s with service := { s.service with registry := (s.service.registry.registerAll [h]).2 } }
  | .request r => (s.handle r).2.2

/-- The handlers that an event adds: the one of a successful registration. -/
def registers (s : Server ω) : ServerEvent ω → List (Handler ω)
  | .register h => if (s.service.registry.registerAll [h]).1.isOk then [h] else []
  | .request _ => []

def applyAll (s : Server ω) (events : List (ServerEvent ω)) : Server ω := events.foldl apply s

/-- The handlers that a run adds, in order. -/
def registered (s : Server ω) : List (ServerEvent ω) → List (Handler ω)
  | [] => []
  | e :: rest => s.registers e ++ (s.apply e).registered rest

theorem handle_service (s : Server ω) (r : Rpc.Request) : (s.handle r).2.2.service = s.service := rfl

variable {s : Server ω} {done : List (Handler ω)}

theorem catalogues_apply (c : s.service.registry.Catalogues done) (e : ServerEvent ω) :
    (s.apply e).service.registry.Catalogues (done ++ s.registers e) := by
  cases e with
  | request r =>
    rw [registers, List.append_nil, apply, handle_service]
    exact c
  | register h =>
    simp only [apply, registers]
    cases hregister : s.service.registry.register h with
    | ok r' =>
      rw [Registry.registerAll_singleton_of_ok hregister]
      exact c.register hregister
    | error fault =>
      rw [Registry.registerAll_singleton_of_error hregister]
      simpa [Except.isOk, Except.toBool] using c

theorem catalogues_applyAll (c : s.service.registry.Catalogues done) (events : List (ServerEvent ω)) :
    (s.applyAll events).service.registry.Catalogues (done ++ s.registered events) := by
  induction events generalizing s done with
  | nil => simpa [applyAll, registered] using c
  | cons e rest ih =>
    rw [registered, ← List.append_assoc]
    exact ih (catalogues_apply c e)

/-- Lookup is stable: a later run keeps the handler of a key. -/
theorem get?_applyAll (c : s.service.registry.Catalogues done) (later : List (ServerEvent ω)) {key : Key}
    {h : Handler ω} (hfound : s.service.registry.get? key = some h) :
    (s.applyAll later).service.registry.get? key = some h := by
  rw [c.found] at hfound
  rw [(catalogues_applyAll c later).found, List.find?_append, hfound]
  rfl

/-- A call is answered with not-found, and the key as its data, if and only if the key is not
listed. -/
theorem answer_call (c : s.service.registry.Catalogues done) {kind : Kind} {request : Rpc.Request}
    {id : Rpc.RequestId} {key : String} (hid : request.id = some id)
    (hmethod : request.method = kind.callMethod) (hasked : kind.requestedKey? request.params = some key) :
    ∃ answer, (s.handle request).2.1 = some answer ∧
      ((∃ e, answer.error = some e ∧ e.code = -32601) ↔
        key ∉ (kind.listed s.service.registry).map kind.name) ∧
      ∀ e, answer.error = some e → e.code = -32601 → e.data = some (.string key) := by
  obtain ⟨hnone, hsome⟩ := Dispatcher.route_call (o := s.service) (s.service.context request) hasked
  rw [Server.handle_answer, hid, hmethod]
  refine ⟨_, rfl, ?_⟩
  rw [← c.get?_eq_none]
  by_cases hfree : (kind.table s.service.registry).get? key = none
  · rw [hnone hfree]
    refine ⟨iff_of_true ⟨_, rfl, rfl⟩ hfree, ?_⟩
    rintro e ⟨⟩ -
    rfl
  · have hfinds := hsome hfree { s.scene with sent := [] }
    generalize ((s.service.route _ _ _).run _).1 = outcome at hfinds ⊢
    have hcode : ∀ e, (answerOf id outcome).error = some e → e.code ≠ -32601 := by
      intro e he
      cases outcome with
      | ok v => cases he
      | error fault =>
        cases he
        have hfault := hfinds fault rfl
        cases fault <;> exact hfault
    exact ⟨iff_of_false (fun ⟨e, he, hc⟩ => hcode e he hc) hfree, fun e he hc => absurd hc (hcode e he)⟩

theorem answer_list {kind : Kind} {request : Rpc.Request} {id : Rpc.RequestId} (hid : request.id = some id)
    (hmethod : request.method = kind.listMethod) :
    (s.handle request).2.1 =
      some (.success (some id) (kind.page (kind.listed s.service.registry))) := by
  rw [Server.handle_answer, hid, hmethod, Dispatcher.route_list]
  rfl

/-- For every interleaving of registrations and requests at a server with an empty registry: a
registration succeeds if and only if its key is valid and unused, and otherwise has no effect;
lookup returns the first handler registered under a key, and goes on to do so; a listing ascends
strictly by name in code points and consists of the definitions of the handlers registered; and a
call with decodable parameters is answered with not-found, and the key as its data, if and only if
the key is not in the listing that the server returns. -/
theorem listing_agrees_with_lookup (hs : s.service.registry = {}) (events : List (ServerEvent ω)) :
    let now := s.applyAll events
    let registry := now.service.registry
    (∀ h, ((registry.registerAll [h]).1.isOk ↔ h.key.isValid ∧ registry.get? h.key = none) ∧
      (¬(registry.registerAll [h]).1.isOk → (now.apply (.register h)).service.registry = registry)) ∧
    (∀ key, registry.get? key = (s.registered events).find? (·.key = key)) ∧
    (∀ later key h, registry.get? key = some h →
      (s.applyAll (events ++ later)).service.registry.get? key = some h) ∧
    ∀ kind : Kind,
      ((kind.listed registry).map kind.name).Pairwise (· < ·) ∧
      (kind.listed registry).Perm (((s.registered events).filterMap kind.member?).map kind.definition) ∧
      ∀ (request : Rpc.Request) (id : Rpc.RequestId), request.id = some id →
        (request.method = kind.listMethod →
          (now.handle request).2.1 = some (.success (some id) (kind.page (kind.listed registry)))) ∧
        (request.method = kind.callMethod → ∀ key, kind.requestedKey? request.params = some key →
          ∃ answer, (now.handle request).2.1 = some answer ∧
            ((∃ e, answer.error = some e ∧ e.code = -32601) ↔
              key ∉ (kind.listed registry).map kind.name) ∧
            ∀ e, answer.error = some e → e.code = -32601 → e.data = some (.string key)) := by
  intro now registry
  have hempty : s.service.registry.Catalogues [] := hs ▸ .empty
  have c : registry.Catalogues (s.registered events) := catalogues_applyAll hempty events
  refine ⟨registry.registerAll_singleton, c.found, ?_, fun kind => ⟨c.ascending kind, c.perm_listed kind, ?_⟩⟩
  · intro later key h hfound
    rw [applyAll, List.foldl_append]
    exact get?_applyAll c later hfound
  · intro request id hid
    exact ⟨answer_list hid, fun hmethod key hasked => answer_call c hid hmethod hasked⟩

def emptyServer : Server Unit :=
  { service := { info := { name := "desk", version := "1" } }
    scene := { world := (), supply := { now := .epoch, next := 0 } } }

/-- A tool with a constant text as its result. -/
def constantTool (name words : String) : Handler Unit :=
  .tool { tool := { name, inputSchema := .null }, call := fun _ _ => pure (.ok (.ofText words)) }

def callOf (name : String) : Rpc.Request :=
  { id := some (.number 1), method := "tools/call", params := some (.object [("name", .string name)]) }

/-- Two valid tools, between them an invalid name, a name in use, and a call. -/
def registrations : List (ServerEvent Unit) :=
  [.register (constantTool "plan" "first"), .register (constantTool "No Name" ""), .request (callOf "bump"),
    .register (constantTool "plan" "second"), .register (constantTool "bump" "bumped")]

/-- Afterwards the tools are listed by name, the first keeps its name, and a call of an unknown tool
is refused. -/
theorem listing_agrees_with_lookup_interleaved :
    emptyServer.service.registry = {} ∧
    ((Kind.tool.listed (emptyServer.applyAll registrations).service.registry).map Kind.tool.name =
      ["bump", "plan"]) ∧
    (emptyServer.applyAll registrations).service.registry.get? (.tool "plan") =
      some (constantTool "plan" "first") ∧
    ∃ answer, ((emptyServer.applyAll registrations).handle (callOf "No Name")).2.1 = some answer ∧
      ∃ e, answer.error = some e ∧ e.code = -32601 ∧ e.data = some (.string "No Name") := by
  have hnames : (Kind.tool.listed (emptyServer.applyAll registrations).service.registry).map
      Kind.tool.name = ["bump", "plan"] := rfl
  obtain ⟨-, hfound, -, hkinds⟩ := listing_agrees_with_lookup (s := emptyServer) rfl registrations
  obtain ⟨-, -, hanswers⟩ := hkinds .tool
  obtain ⟨answer, hanswer, habsent, hdata⟩ :=
    (hanswers (callOf "No Name") (.number 1) rfl).2 rfl "No Name" rfl
  have hunlisted : "No Name" ∉ (Kind.tool.listed (emptyServer.applyAll registrations).service.registry).map
      Kind.tool.name := by
    rw [hnames]
    decide
  obtain ⟨e, he, hcode⟩ := habsent.mpr hunlisted
  exact ⟨rfl, hnames, (hfound _).trans rfl, answer, hanswer, e, he, hcode, hdata e he hcode⟩

end Server

end ReleaseDesk.Service
