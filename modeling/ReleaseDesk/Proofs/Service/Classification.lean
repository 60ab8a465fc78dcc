import ReleaseDesk.Proofs.Service.Ruling

/-! Classification of responses. Each error code has one cause, a result comes either from the
dispatcher or from the handler that the request names, no other handler is invoked, and none more
than once. A notification invokes the same handlers and has no response. -/

namespace ReleaseDesk.Service

open ReleaseDesk.Protocol ReleaseDesk.Wire

namespace Dispatcher

variable {o : Dispatcher ω} {name : String} {params : Option Json}

/-! ### Recorded invocations -/

theorem keys_recording (o : Dispatcher ω) (kind : Kind) :
    (kind.table o.recording.registry).keys = (kind.table o.registry).keys := by
  cases kind <;> exact SortedMap.keys_map _ _

theorem listed_recording (o : Dispatcher ω) (kind : Kind) :
    kind.listed o.recording.registry = kind.listed o.registry := by
  cases kind <;> exact SortedMap.map_toList_map _ _ _

theorem Unknown.recording {key : String} (h : o.Unknown name params key) :
    o.recording.Unknown name params key := by
  cases h with
  | method h => exact .method h
  | key hname hasked habsent => exact .key hname hasked (keys_recording o _ ▸ habsent)

theorem Malformed.recording {detail : String} (h : o.Malformed name params detail) :
    o.recording.Malformed name params detail := by
  obtain ⟨α, record, htakes, hunreadable⟩ := h
  refine ⟨α, record, ?_, hunreadable⟩
  cases htakes with
  | greet => exact .greet
  | call => exact .call
  | read => exact .read
  | fill => exact .fill
  | level hlogging => exact .level hlogging

theorem LacksArguments.recording {names : List String} (h : o.LacksArguments name params names) :
    o.recording.LacksArguments name params names := by
  obtain ⟨fill, h, hname, hread, hfound, hnames⟩ := h
  exact ⟨fill, h.recording, hname, hread, by simp [Dispatcher.recording, hfound], hnames⟩

theorem Answers.recording {result : Json} {level : Option LogLevel} (h : o.Answers name params result level) :
    o.recording.Answers name params result level := by
  cases h with
  | greet hname hread => exact .greet hname hread
  | heard hname => exact .heard hname
  | list kind hname => exact listed_recording o kind ▸ .list kind hname
  | level hname hlogging hread => exact .level hname hlogging hread

theorem Invokes.recording {i : Invocation ω} (h : o.Invokes name params i) :
    o.recording.Invokes name params i.recording := by
  cases h with
  | call hname hread hfound => exact .call hname hread (by simp [Dispatcher.recording, hfound])
  | read hname hread hfound => exact .read hname hread (by simp [Dispatcher.recording, hfound])
  | fill hname hread hfound hgiven => exact .fill hname hread (by simp [Dispatcher.recording, hfound]) hgiven

end Dispatcher

namespace Ruling

/-- The ruling with every handler recording its invocation. -/
def recording : Ruling ω → Ruling (ω × List (Invoked ω))
  | refuse fault => refuse fault
  | answer result level => answer result level
  | ask i => ask i.recording

/-- The invocations of carrying out a ruling. -/
def invoked (c : Context) (scene : Scene ω) : Ruling ω → List (Invoked ω)
  | ask i => [⟨i, c, ((i.perform c).run scene).1⟩]
  | _ => []

theorem recording_run (ruling : Ruling ω) (c : Context) (scene : Scene ω) (seen : List (Invoked ω)) :
    (ruling.recording.carryOut c).run (scene.map fun world => (world, seen)) =
      (((ruling.carryOut c).run scene).1,
        ((ruling.carryOut c).run scene).2.map fun world => (world, seen ++ ruling.invoked c scene)) := by
  cases ruling with
  | refuse fault => simp only [invoked, List.append_nil]; rfl
  | answer result level => simp only [invoked, List.append_nil]; rfl
  | ask i =>
    simp only [recording, carryOut, StateT.run_map, i.recording_run]
    rfl

end Ruling

namespace Dispatcher

variable {o : Dispatcher ω} {name : String} {params : Option Json}

theorem Rules.recording {ruling : Ruling ω} (h : o.Rules name params ruling) :
    o.recording.Rules name params ruling.recording := by
  cases h with
  | unknown h => exact .unknown h.recording
  | malformed h => exact .malformed h.recording
  | lacksArguments h => exact .lacksArguments h.recording
  | answers h => exact .answers h.recording
  | invokes h => exact .invokes h.recording

variable {r : Rpc.Request} {ruling : Ruling ω}

theorem dispatch_of_rules (h : o.Rules r.method r.params ruling) (scene : Scene ω) :
    (o.dispatch r).run scene =
      (r.id.map fun id => answerOf id ((ruling.carryOut (o.context r)).run scene).1,
        ((ruling.carryOut (o.context r)).run scene).2) := by
  rw [dispatch_run, route_of_rules h]

theorem recording_of_rules (h : o.Rules r.method r.params ruling) (scene : Scene ω)
    (seen : List (Invoked ω)) :
    (o.recording.dispatch r).run (scene.map fun world => (world, seen)) =
      (((o.dispatch r).run scene).1,
        ((o.dispatch r).run scene).2.map fun world =>
          (world, seen ++ ruling.invoked (o.context r) scene)) := by
  have hcontext : o.recording.context r = o.context r := rfl
  rw [dispatch_of_rules h.recording, hcontext, ruling.recording_run, dispatch_of_rules h]

theorem invoked_of_rules (h : o.Rules r.method r.params ruling) (scene : Scene ω) :
    o.invoked r scene = ruling.invoked (o.context r) scene := by
  rw [invoked, recording_of_rules h]
  rfl

/-- Recording does not change the response or the final scene, apart from the record. -/
theorem recording_dispatch (o : Dispatcher ω) (r : Rpc.Request) (scene : Scene ω) (seen : List (Invoked ω)) :
    (o.recording.dispatch r).run (scene.map fun world => (world, seen)) =
      (((o.dispatch r).run scene).1,
        ((o.dispatch r).run scene).2.map fun world => (world, seen ++ o.invoked r scene)) := by
  obtain ⟨ruling, h⟩ := o.exists_rules r.method r.params
  rw [invoked_of_rules h, recording_of_rules h]

/-! ### Outcomes -/

/-- The outcome of a request and its invocations, one constructor for each way that dispatch ends.
-/
inductive DispatchCase (o : Dispatcher ω) (r : Rpc.Request) : Except Rpc.Fault Json → List (Invoked ω) → Prop
  | unknown {key : String} (h : o.Unknown r.method r.params key) :
    DispatchCase o r (.error (.methodNotFound key)) []
  | malformed {detail : String} (h : o.Malformed r.method r.params detail) :
    DispatchCase o r (.error (.invalidParams detail)) []
  | lacksArguments {names : List String} (h : o.LacksArguments r.method r.params names) :
    DispatchCase o r (.error (.invalidParams ("missing required arguments: " ++ ", ".intercalate names))) []
  | answers {v : Json} {level : Option LogLevel} (h : o.Answers r.method r.params v level) :
    DispatchCase o r (.ok v) []
  | given {i : Invocation ω} {v : Json} (h : o.Invokes r.method r.params i) :
    DispatchCase o r (.ok v) [⟨i, o.context r, .ok v⟩]
  | failed {i : Invocation ω} {failure : Failure} (h : o.Invokes r.method r.params i) :
    DispatchCase o r (.error (.internal failure.message)) [⟨i, o.context r, .error failure⟩]

theorem dispatchCase (o : Dispatcher ω) (r : Rpc.Request) (scene : Scene ω) :
    o.DispatchCase r ((o.route r.method r.params (o.context r)).run scene).1 (o.invoked r scene) := by
  obtain ⟨ruling, h⟩ := o.exists_rules r.method r.params
  rw [route_of_rules h, invoked_of_rules h]
  cases h with
  | unknown h => exact .unknown h
  | malformed h => exact .malformed h
  | lacksArguments h => exact .lacksArguments h
  | answers h => exact .answers h
  | @invokes i h =>
    have houtcome : (((Ruling.ask i).carryOut (o.context r)).run scene).1 =
        handlerOutcome ((i.perform (o.context r)).run scene).1 := rfl
    rw [houtcome, Ruling.invoked]
    cases ((i.perform (o.context r)).run scene).1 with
    | ok v => exact .given h
    | error failure => exact .failed h

namespace DispatchCase

variable {outcome : Except Rpc.Fault Json} {fault : Rpc.Fault} {entries : List (Invoked ω)}

theorem exists_unknown (h : o.DispatchCase r (.error fault) entries) (hcode : fault.code = -32601) :
    ∃ key, o.Unknown r.method r.params key := by
  cases h with
  | unknown h => exact ⟨_, h⟩
  | _ => cases hcode

theorem exists_malformed_or_lacksArguments (h : o.DispatchCase r (.error fault) entries)
    (hcode : fault.code = -32602) :
    (∃ detail, o.Malformed r.method r.params detail) ∨ ∃ names, o.LacksArguments r.method r.params names := by
  cases h with
  | malformed h => exact .inl ⟨_, h⟩
  | lacksArguments h => exact .inr ⟨_, h⟩
  | _ => cases hcode

theorem internal_iff (h : o.DispatchCase r outcome entries) :
    (∃ fault, outcome = .error fault ∧ fault.code = -32603) ↔
      ∃ entry ∈ entries, ∃ failure, entry.outcome = .error failure := by
  constructor
  · rintro ⟨fault, rfl, hcode⟩
    cases h with
    | failed => exact ⟨_, List.mem_singleton_self _, _, rfl⟩
    | _ => cases hcode
  · rintro ⟨entry, hentry, failure, hfailure⟩
    cases h with
    | failed => exact ⟨_, rfl, rfl⟩
    | given =>
      obtain rfl := List.mem_singleton.mp hentry
      cases hfailure
    | _ => cases hentry

theorem given_or_answers {v : Json} (h : o.DispatchCase r (.ok v) entries) :
    (∃ entry ∈ entries, entry.outcome = .ok v) ∨ ∃ level, o.Answers r.method r.params v level := by
  cases h with
  | answers h => exact .inr ⟨_, h⟩
  | given => exact .inl ⟨_, List.mem_singleton_self _, rfl⟩

theorem outcome_of_given {v : Json} {entry : Invoked ω} (h : o.DispatchCase r outcome entries)
    (hentry : entry ∈ entries) (hv : entry.outcome = .ok v) : outcome = .ok v := by
  cases h with
  | given =>
    obtain rfl := List.mem_singleton.mp hentry
    cases hv
    rfl
  | failed =>
    obtain rfl := List.mem_singleton.mp hentry
    cases hv
  | _ => cases hentry

theorem code_mem (h : o.DispatchCase r (.error fault) entries) : fault.code ∈ [-32601, -32602, -32603] := by
  cases h <;> simp [Rpc.Fault.code]

/-- If a handler is invoked, it is the one that the request names, and the outcome is its result, or
its failure as an internal error. -/
theorem of_entries (h : o.DispatchCase r outcome entries) (hne : entries ≠ []) :
    (∃ i, o.Invokes r.method r.params i) ∧
      ((∃ fault, outcome = .error fault ∧ fault.code = -32603) ∨ ∃ v, outcome = .ok v) := by
  cases h with
  | given h => exact ⟨⟨_, h⟩, .inr ⟨_, rfl⟩⟩
  | failed h => exact ⟨⟨_, h⟩, .inl ⟨_, rfl, rfl⟩⟩
  | _ => exact absurd rfl hne

end DispatchCase

/-! ### Responses -/

theorem errorObject_code_eq (fault : Rpc.Fault) : fault.errorObject.code = fault.code := by
  cases fault <;> rfl

theorem answerOf_code {id : Rpc.RequestId} {outcome : Except Rpc.Fault Json} {code : Int} :
    (answerOf id outcome).error.map (·.code) = some code ↔
      ∃ fault, outcome = .error fault ∧ fault.code = code := by
  cases outcome <;> simp [answerOf, Rpc.Response.success, Rpc.Response.failure, errorObject_code_eq]

theorem answerOf_result {id : Rpc.RequestId} {outcome : Except Rpc.Fault Json} {v : Json} :
    (answerOf id outcome).result = some v ↔ outcome = .ok v := by
  cases outcome <;> simp [answerOf, Rpc.Response.success, Rpc.Response.failure]

theorem answerOf_either (id : Rpc.RequestId) (outcome : Except Rpc.Fault Json) :
    (answerOf id outcome).result.isSome ↔ (answerOf id outcome).error = none := by
  cases outcome <;> simp [answerOf, Rpc.Response.success, Rpc.Response.failure]

/-- A response together with the invocations, against the request. -/
structure Classifies (o : Dispatcher ω) (r : Rpc.Request) (scene : Scene ω) (answer : Rpc.Response) :
    Prop where
  id : answer.id = r.id
  either : answer.result.isSome ↔ answer.error = none
  unknown : answer.error.map (·.code) = some (-32601) ↔ ∃ key, o.Unknown r.method r.params key
  named {key : String} (h : o.Unknown r.method r.params key) :
    answer.error.bind (·.data) = some (.string key)
  invalid : answer.error.map (·.code) = some (-32602) ↔
    (∃ detail, o.Malformed r.method r.params detail) ∨ ∃ names, o.LacksArguments r.method r.params names
  malformed {detail : String} (h : o.Malformed r.method r.params detail) :
    answer.error.map (·.message) = some ("Invalid params: " ++ detail)
  lacksArguments {names : List String} (h : o.LacksArguments r.method r.params names) :
    answer.error.map (·.message) =
      some ("Invalid params: missing required arguments: " ++ ", ".intercalate names)
  internal : answer.error.map (·.code) = some (-32603) ↔
    ∃ entry ∈ o.invoked r scene, ∃ failure, entry.outcome = .error failure
  codes (e : Rpc.ErrorObject) (he : answer.error = some e) : e.code ∈ [-32601, -32602, -32603]
  result (v : Json) : answer.result = some v ↔
    (∃ entry ∈ o.invoked r scene, entry.outcome = .ok v) ∨ ∃ level, o.Answers r.method r.params v level
  asked {i : Invocation ω} (h : o.Invokes r.method r.params i) :
    o.invoked r scene = [⟨i, o.context r, ((i.perform (o.context r)).run scene).1⟩]
  unasked (h : ∀ i, ¬o.Invokes r.method r.params i) : o.invoked r scene = []
  late (h : o.invoked r scene ≠ []) :
    answer.error.map (·.code) = some (-32603) ∨ answer.result.isSome

theorem classifies (o : Dispatcher ω) {r : Rpc.Request} {id : Rpc.RequestId} (hid : r.id = some id)
    (scene : Scene ω) :
    o.Classifies r scene (answerOf id ((o.route r.method r.params (o.context r)).run scene).1) := by
  have hcomes := o.dispatchCase r scene
  have hrules {ruling : Ruling ω} (h : o.Rules r.method r.params ruling) :
      ((o.route r.method r.params (o.context r)).run scene).1 =
        ((ruling.carryOut (o.context r)).run scene).1 := by rw [route_of_rules h]
  generalize ((o.route r.method r.params (o.context r)).run scene).1 = outcome at hcomes hrules ⊢
  constructor
  case id => rw [answerOf_id, hid]
  case either => exact answerOf_either id outcome
  case unknown =>
    rw [answerOf_code]
    constructor
    · rintro ⟨fault, rfl, hcode⟩
      exact hcomes.exists_unknown hcode
    · rintro ⟨key, h⟩
      exact ⟨_, hrules (.unknown h), rfl⟩
  case named =>
    intro key h
    rw [hrules (.unknown h)]
    rfl
  case invalid =>
    rw [answerOf_code]
    constructor
    · rintro ⟨fault, rfl, hcode⟩
      exact hcomes.exists_malformed_or_lacksArguments hcode
    · rintro (⟨detail, h⟩ | ⟨names, h⟩)
      · exact ⟨_, hrules (.malformed h), rfl⟩
      · exact ⟨_, hrules (.lacksArguments h), rfl⟩
  case malformed =>
    intro detail h
    rw [hrules (.malformed h)]
    rfl
  case lacksArguments =>
    intro names h
    rw [hrules (.lacksArguments h)]
    rfl
  case internal => exact answerOf_code.trans hcomes.internal_iff
  case codes =>
    intro e he
    cases outcome with
    | ok v => cases he
    | error fault =>
      cases he
      exact errorObject_code_eq fault ▸ hcomes.code_mem
  case result =>
    intro v
    rw [answerOf_result]
    constructor
    · rintro rfl
      exact hcomes.given_or_answers
    · rintro (⟨entry, hentry, hv⟩ | ⟨level, h⟩)
      · exact hcomes.outcome_of_given hentry hv
      · exact hrules (.answers h)
  case asked =>
    intro i h
    exact invoked_of_rules (.invokes h) scene
  case unasked =>
    intro h
    by_contra hne
    obtain ⟨⟨i, hi⟩, -⟩ := hcomes.of_entries hne
    exact h i hi
  case late =>
    intro h
    obtain ⟨-, hfault | ⟨v, hv⟩⟩ := hcomes.of_entries h
    · exact .inl (answerOf_code.mpr hfault)
    · exact .inr (Option.isSome_iff_exists.mpr ⟨v, answerOf_result.mpr hv⟩)

/-- A request with an id has a response under this id, classified together with the invocations on
the way. The same request without an id has no response and the same invocations. Recording the
invocations does not affect either. -/
theorem dispatch_classifies (o : Dispatcher ω) (r : Rpc.Request) (id : Rpc.RequestId) (scene : Scene ω) :
    let request := { r with id := some id }
    let notification := { r with id := none }
    (∃ answer, ((o.dispatch request).run scene).1 = some answer ∧ o.Classifies request scene answer) ∧
    ((o.dispatch notification).run scene).1 = none ∧
    (o.invoked notification scene).map (·.invocation) = (o.invoked request scene).map (·.invocation) ∧
    ∀ r, (o.recording.dispatch r).run (scene.map fun world => (world, [])) =
      (((o.dispatch r).run scene).1,
        ((o.dispatch r).run scene).2.map fun world => (world, o.invoked r scene)) := by
  intro request notification
  refine ⟨⟨_, ?_, o.classifies (r := request) rfl scene⟩, ?_, ?_, fun r => o.recording_dispatch r scene []⟩
  · rw [dispatch_run]
    rfl
  · rw [dispatch_run]
    rfl
  · obtain ⟨ruling, h⟩ := o.exists_rules r.method r.params
    have hrequest : o.invoked request scene = ruling.invoked (o.context request) scene :=
      invoked_of_rules (r := request) h scene
    have hnotification : o.invoked notification scene = ruling.invoked (o.context notification) scene :=
      invoked_of_rules (r := notification) h scene
    rw [hrequest, hnotification]
    cases ruling <;> rfl

end Dispatcher

end ReleaseDesk.Service
