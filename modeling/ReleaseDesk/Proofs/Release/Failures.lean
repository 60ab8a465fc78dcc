import ReleaseDesk.Proofs.Release.Assembly
import ReleaseDesk.Proofs.Release.Recording
import ReleaseDesk.Proofs.Stream.Delivery

/-! Failures at a release server. A refusal of the adapter or a fault of the plugin manager is a result that
shows its message; errors answer the calls that the protocol does not know or cannot decode. -/

namespace ReleaseDesk.Release

open ReleaseDesk.Service ReleaseDesk.Plugin ReleaseDesk.Protocol ReleaseDesk.Wire

variable {σ π : Type}

/-! ### Methods -/

theorem find?_rel {R : α → β → Prop} {p : α → Bool} {q : β → Bool} {l : List α} {l' : List β}
    (h : List.Forall₂ R l l') (hpq : ∀ a b, R a b → p a = q b) :
    Option.Rel R (l.find? p) (l'.find? q) := by
  induction h with
  | nil => exact .none
  | cons hab _ ih =>
    rw [List.find?_cons, List.find?_cons, hpq _ _ hab]
    split
    · exact .some hab
    · exact ih

theorem rel_of_map {R : γ → δ → Prop} {S : α → β → Prop} {f : α → γ} {g : β → δ} {x : Option α}
    {y : Option β} (h : Option.Rel R (x.map f) (y.map g)) (hS : ∀ a b, R (f a) (g b) → S a b) :
    Option.Rel S x y := by
  cases x with
  | none =>
    cases y with
    | none => exact .none
    | some b => cases h
  | some a =>
    cases y with
    | none => cases h
    | some b =>
      cases h with
      | some hab => exact .some (hS a b hab)

theorem exists_of_rel_some {S : α → β → Prop} {a : α} {x : Option α} {y : Option β}
    (h : Option.Rel S x y) (hx : x = some a) : ∃ b, y = some b ∧ S a b := by
  subst hx
  cases h with
  | some hab => exact ⟨_, rfl, hab⟩

theorem RecordedAs.handled {shows : String → α → Prop} {x : Action (Backend σ π) (Except Failure α)}
    {y : Action (RecordedBackend σ π) (Except Failure α)} (h : RecordedAs shows x y) (codec : Codec α)
    (scene : Scene (Backend σ π)) :
    ∃ a, ((handled codec <$> x).run scene).1 = .ok (codec.toJson a) ∧
      ∀ text ∈ ((handled codec <$> y).run (recordedScene scene)).2.world.errors, shows text a := by
  obtain ⟨a, hvalue, hshows⟩ := h.shows scene
  have hsame : (x.run scene).1 = .ok a := (value_eq_recorded h.commutes scene).trans hvalue
  exact ⟨a, congrArg (Service.handled codec) hsame, hshows⟩

theorem HandlerRecordedAs.key_eq {h : Handler (Backend σ π)} {h' : Handler (RecordedBackend σ π)}
    (hh : HandlerRecordedAs h h') : h.key = h'.key := by
  cases hh with
  | tool hkey _ => exact congrArg Key.tool hkey
  | resource hkey _ => exact congrArg Key.resource hkey
  | prompt hkey _ => exact congrArg Key.prompt hkey

/-- A server and its recording version. -/
structure Paired (o : Dispatcher (Backend σ π)) (o' : Dispatcher (RecordedBackend σ π)) : Prop where
  info : o'.info = o.info
  capabilities : o'.capabilities = o.capabilities
  handlers : ∀ k, Option.Rel HandlerRecordedAs (o.registry.get? k) (o'.registry.get? k)

namespace Paired

variable {o : Dispatcher (Backend σ π)} {o' : Dispatcher (RecordedBackend σ π)}

theorem tool (h : Paired o o') (name : String) :
    Option.Rel (fun t t' => ∀ v c, RecordedAs ToolResult.Shows (t.call v c) (t'.call v c))
      (o.registry.tools.get? name) (o'.registry.tools.get? name) :=
  rel_of_map (h.handlers (.tool name)) fun _ _ (.tool _ hcall) => hcall

theorem resource (h : Paired o o') (uri : String) :
    Option.Rel (fun r r' => ∀ c, RecordedAs ResourceResult.Shows (r.read c) (r'.read c))
      (o.registry.resources.get? uri) (o'.registry.resources.get? uri) :=
  rel_of_map (h.handlers (.resource uri)) fun _ _ (.resource _ hread) => hread

theorem prompt (h : Paired o o') (name : String) :
    Option.Rel (fun p p' => ∀ arguments c,
        RecordedAs (fun _ _ => False) (p.fill arguments c) (p'.fill arguments c))
      (o.registry.prompts.get? name) (o'.registry.prompts.get? name) :=
  rel_of_map (h.handlers (.prompt name)) fun _ _ (.prompt _ hfill) => hfill

/-- A method never fails with an internal error. -/
theorem fault_of_route (h : Paired o o') {name : String} {params : Option Json} {c : Context}
    {scene : Scene (Backend σ π)} {fault : Rpc.Fault}
    (hf : ((o.route name params c).run scene).1 = .error fault) (detail : String) :
    fault ≠ .internal detail := by
  have hcovers : Dispatcher.Covers o c fun action => ∀ scene fault,
      (action.run scene).1 = .error fault → ∀ detail, fault ≠ .internal detail := {
    refused := by
      rintro fault hnot scene _ ⟨⟩
      exact hnot
    record := by
      rintro α r a scene fault ⟨⟩
    nothing := by
      rintro scene fault ⟨⟩
    level := by
      rintro level scene fault ⟨⟩
    tool := by
      intro name t ht arguments scene fault hf
      obtain ⟨t', -, hrecords⟩ := exists_of_rel_some (h.tool name) ht
      obtain ⟨result, hresult, -⟩ := (hrecords arguments c).handled ToolResult.codec scene
      cases hresult.symm.trans hf
    resource := by
      intro uri r hr scene fault hf
      obtain ⟨r', -, hrecords⟩ := exists_of_rel_some (h.resource uri) hr
      obtain ⟨result, hresult, -⟩ := (hrecords c).handled ResourceResult.codec scene
      cases hresult.symm.trans hf
    prompt := by
      intro name p hp arguments scene fault hf
      obtain ⟨p', -, hrecords⟩ := exists_of_rel_some (h.prompt name) hp
      obtain ⟨result, hresult, -⟩ := (hrecords arguments c).handled PromptResult.codec scene
      cases hresult.symm.trans hf }
  exact hcovers.route name params scene fault hf detail

end Paired

/-! ### Results -/

/-- A method and its recording version. It has a result if its handler is found, and if an error message was
recorded it has a result that shows it. -/
structure ShowsFailures (codec : Codec α) (shows : String → α → Prop) (finds : Prop)
    (x : Action (Backend σ π) (Except Rpc.Fault Json))
    (y : Action (RecordedBackend σ π) (Except Rpc.Fault Json)) : Prop where
  commutes : Commutes Backend.erase x y
  found : finds → ∀ scene, ∃ a, (x.run scene).1 = .ok (codec.toJson a)
  shown : ∀ scene, ∀ text ∈ (y.run (recordedScene scene)).2.world.errors,
    ∃ a, (x.run scene).1 = .ok (codec.toJson a) ∧ shows text a

section

variable {codec : Codec α} {shows : String → α → Prop}

theorem ShowsFailures.refused (fault : Rpc.Fault) {finds : Prop} (h : ¬finds) :
    ShowsFailures (σ := σ) (π := π) codec shows finds (pure (.error fault)) (pure (.error fault)) where
  commutes := .pure _
  found hfinds := absurd hfinds h
  shown scene := forall_mem_errors_recordedScene scene

theorem ShowsFailures.handled {x : Action (Backend σ π) (Except Failure α)}
    {y : Action (RecordedBackend σ π) (Except Failure α)} (h : RecordedAs shows x y) (finds : Prop) :
    ShowsFailures codec shows finds (Service.handled codec <$> x) (Service.handled codec <$> y) where
  commutes := h.commutes.map _
  found _ scene := by
    obtain ⟨a, hresult, -⟩ := h.handled codec scene
    exact ⟨a, hresult⟩
  shown scene text htext := by
    obtain ⟨a, hresult, hshows⟩ := h.handled codec scene
    exact ⟨a, hresult, hshows text htext⟩

theorem ShowsFailures.withParams {parameters : Codec β} {params : Option Json} {finds : β → Prop}
    {go : β → Action (Backend σ π) (Except Rpc.Fault Json)}
    {go' : β → Action (RecordedBackend σ π) (Except Rpc.Fault Json)}
    (h : ∀ b, ShowsFailures codec shows (finds b) (go b) (go' b)) :
    ShowsFailures codec shows (∃ b, readParams parameters params = .ok b ∧ finds b)
      (Dispatcher.withParams parameters params go) (Dispatcher.withParams parameters params go') := by
  unfold Dispatcher.withParams
  cases readParams parameters params with
  | error fault => exact .refused fault (by simp)
  | ok b => simpa using h b

end

namespace Paired

variable {o : Dispatcher (Backend σ π)} {o' : Dispatcher (RecordedBackend σ π)}

theorem callTool (h : Paired o o') (call : ToolCall) (c : Context) :
    ShowsFailures ToolResult.codec ToolResult.Shows (o.registry.tools.get? call.name).isSome
      (o.callTool call c) (o'.callTool call c) := by
  have hrel := h.tool call.name
  unfold Dispatcher.callTool
  generalize o.registry.tools.get? call.name = found at hrel ⊢
  generalize o'.registry.tools.get? call.name = found' at hrel ⊢
  cases hrel with
  | none => exact .refused _ (by simp)
  | some hrecords => exact .handled (hrecords call.arguments c) _

theorem readResource (h : Paired o o') (read : ResourceRead) (c : Context) :
    ShowsFailures ResourceResult.codec ResourceResult.Shows (o.registry.resources.get? read.uri).isSome
      (o.readResource read c) (o'.readResource read c) := by
  have hrel := h.resource read.uri
  unfold Dispatcher.readResource
  generalize o.registry.resources.get? read.uri = found at hrel ⊢
  generalize o'.registry.resources.get? read.uri = found' at hrel ⊢
  cases hrel with
  | none => exact .refused _ (by simp)
  | some hrecords => exact .handled (hrecords c) _

theorem route_call (h : Paired o o') (params : Option Json) (c : Context) :
    ShowsFailures ToolResult.codec ToolResult.Shows
      (∃ call, readParams ToolCall.codec params = .ok call ∧
        (o.registry.tools.get? call.name).isSome)
      (o.route "tools/call" params c) (o'.route "tools/call" params c) :=
  ShowsFailures.withParams fun call => h.callTool call c

theorem route_read (h : Paired o o') (params : Option Json) (c : Context) :
    ShowsFailures ResourceResult.codec ResourceResult.Shows
      (∃ read, readParams ResourceRead.codec params = .ok read ∧
        (o.registry.resources.get? read.uri).isSome)
      (o.route "resources/read" params c) (o'.route "resources/read" params c) :=
  ShowsFailures.withParams fun read => h.readResource read c

end Paired

/-! ### Turns -/

open ReleaseDesk.Stream

/-- The error messages recorded during the dispatch of a request. -/
def errorsDuring (o' : Dispatcher (RecordedBackend σ π)) (r : Rpc.Request) (scene : Scene (Backend σ π)) :
    List String :=
  ((Action.observed (o'.dispatch r)).run (recordedScene scene)).2.world.errors

/-- The turn of a release server on a segment of its input. The codes of its errors are those of the
protocol; a call of a registered tool, and a read of a registered resource, is answered with a result; and
if an error message was recorded the result is an error with that message as its first text. -/
structure FailuresInResults (o' : Dispatcher (RecordedBackend σ π)) (s : Server (Backend σ π))
    (segment : List UInt8) :
    Prop where
  codes : ∀ r e, (serveSegment s segment).1.answer = some r → r.error = some e →
    e.code ∈ [-32700, -32600, -32601, -32602]
  called : ∀ r id call, arrivalOfOctets segment = some (.request r) → r.id = some id →
    r.method = "tools/call" → readParams ToolCall.codec r.params = .ok call →
    (s.service.registry.tools.get? call.name).isSome → ∃ result,
      (serveSegment s segment).1.answer = some (.success (some id) (ToolResult.codec.toJson result))
  read : ∀ r id read, arrivalOfOctets segment = some (.request r) → r.id = some id →
    r.method = "resources/read" → readParams ResourceRead.codec r.params = .ok read →
    (s.service.registry.resources.get? read.uri).isSome → ∃ result,
      (serveSegment s segment).1.answer = some (.success (some id) (ResourceResult.codec.toJson result))
  callFailed : ∀ r id, arrivalOfOctets segment = some (.request r) → r.id = some id →
    r.method = "tools/call" → ∀ text ∈ errorsDuring o' r s.scene, ∃ result,
      (serveSegment s segment).1.answer = some (.success (some id) (ToolResult.codec.toJson result)) ∧
        result.isError = true ∧ result.firstText? = some text
  readFailed : ∀ r id, arrivalOfOctets segment = some (.request r) → r.id = some id →
    r.method = "resources/read" → ∀ text ∈ errorsDuring o' r s.scene, ∃ result,
      (serveSegment s segment).1.answer = some (.success (some id) (ResourceResult.codec.toJson result)) ∧
        result.isError = true ∧ result.firstText? = some text

theorem code_mem {fault : Rpc.Fault} (h : ∀ detail, fault ≠ .internal detail) :
    fault.errorObject.code ∈ [-32700, -32600, -32601, -32602] := by
  cases fault with
  | parse => decide
  | invalidRequest detail => exact .tail _ (.head _)
  | methodNotFound name => exact .tail _ (.tail _ (.head _))
  | invalidParams detail => exact .tail _ (.tail _ (.tail _ (.head _)))
  | internal detail => exact absurd rfl (h detail)

theorem fault_of_arrival {segment : List UInt8} {fault : Rpc.Fault}
    (h : arrivalOfOctets segment = some (.refused fault)) (detail : String) :
    fault ≠ .internal detail := by
  unfold arrivalOfOctets at h
  split at h
  · cases h
    nofun
  · cases h
  · split at h
    next r hp => cases h
    next refusal hp =>
      cases h
      cases refusal <;> nofun

theorem answer_of_request (s : Server ω) {segment : List UInt8} {r : Rpc.Request} {id : Rpc.RequestId}
    (harrival : arrivalOfOctets segment = some (.request r)) (hid : r.id = some id) :
    (serveSegment s segment).1.answer = some (answerOf id
      ((s.service.route r.method r.params (s.service.context r)).run { s.scene with sent := [] }).1) := by
  simp only [serveSegment, harrival, s.handle_answer, hid, Option.map_some]

namespace Paired

variable {s : Server (Backend σ π)} {o' : Dispatcher (RecordedBackend σ π)}

theorem errorsDuring_eq (h : Paired s.service o') (r : Rpc.Request) :
    errorsDuring o' r s.scene =
      ((o'.route r.method r.params (s.service.context r)).run
        (recordedScene { s.scene with sent := [] })).2.world.errors := by
  have hcontext : o'.context r = s.service.context r := by
    simp only [Dispatcher.context, h.info]
  simp only [errorsDuring, Action.observed_run, Dispatcher.dispatch_run, hcontext]
  rfl

theorem codes (h : Paired s.service o') {segment : List UInt8} {r : Rpc.Response}
    {e : Rpc.ErrorObject} (hr : (serveSegment s segment).1.answer = some r) (he : r.error = some e) :
    e.code ∈ [-32700, -32600, -32601, -32602] := by
  rcases arrivalOfOctets_cases segment with harrival | ⟨request, harrival⟩ | ⟨fault, harrival⟩
  · simp [serveSegment, harrival] at hr
  · cases hid : request.id with
    | none => simp [serveSegment, harrival, s.handle_answer, hid] at hr
    | some id =>
      rw [answer_of_request s harrival hid, Option.some.injEq] at hr
      cases houtcome : ((s.service.route request.method request.params
        (s.service.context request)).run { s.scene with sent := [] }).1 with
      | ok v =>
        rw [houtcome] at hr
        subst hr
        cases he
      | error fault =>
        rw [houtcome] at hr
        subst hr
        cases he
        exact code_mem (h.fault_of_route houtcome)
  · have hreply : r = fault.reply := by
      simpa [serveSegment, harrival, eq_comm] using hr
    subst hreply
    cases he
    exact code_mem (fault_of_arrival harrival)

end Paired

theorem ShowsFailures.answer_of_found {s : Server (Backend σ π)} {o' : Dispatcher (RecordedBackend σ π)}
    {codec : Codec α} {shows : String → α → Prop} {finds : Prop} {segment : List UInt8}
    {r : Rpc.Request} {id : Rpc.RequestId}
    (h : ShowsFailures codec shows finds (s.service.route r.method r.params (s.service.context r))
      (o'.route r.method r.params (s.service.context r)))
    (harrival : arrivalOfOctets segment = some (.request r)) (hid : r.id = some id) (hfinds : finds) :
    ∃ result,
      (serveSegment s segment).1.answer = some (.success (some id) (codec.toJson result)) := by
  obtain ⟨result, hresult⟩ := h.found hfinds { s.scene with sent := [] }
  refine ⟨result, ?_⟩
  rw [answer_of_request s harrival hid, hresult]
  rfl

theorem ShowsFailures.answer_of_error {s : Server (Backend σ π)} {o' : Dispatcher (RecordedBackend σ π)}
    {codec : Codec α} {shows : String → α → Prop} {finds : Prop} {segment : List UInt8}
    {r : Rpc.Request} {id : Rpc.RequestId} (hp : Paired s.service o')
    (h : ShowsFailures codec shows finds (s.service.route r.method r.params (s.service.context r))
      (o'.route r.method r.params (s.service.context r)))
    (harrival : arrivalOfOctets segment = some (.request r)) (hid : r.id = some id) {text : String}
    (htext : text ∈ errorsDuring o' r s.scene) :
    ∃ result, (serveSegment s segment).1.answer = some (.success (some id) (codec.toJson result)) ∧
      shows text result := by
  rw [hp.errorsDuring_eq] at htext
  obtain ⟨result, hresult, hshows⟩ := h.shown _ text htext
  refine ⟨result, ?_, hshows⟩
  rw [answer_of_request s harrival hid, hresult]
  rfl

namespace Paired

variable {s : Server (Backend σ π)} {o' : Dispatcher (RecordedBackend σ π)}

theorem showsFailures_call (h : Paired s.service o') {r : Rpc.Request} (hmethod : r.method = "tools/call") :
    ShowsFailures ToolResult.codec ToolResult.Shows
      (∃ call, readParams ToolCall.codec r.params = .ok call ∧
        (s.service.registry.tools.get? call.name).isSome)
      (s.service.route r.method r.params (s.service.context r))
      (o'.route r.method r.params (s.service.context r)) := by
  rw [hmethod]
  exact h.route_call r.params (s.service.context r)

theorem showsFailures_read (h : Paired s.service o') {r : Rpc.Request}
    (hmethod : r.method = "resources/read") :
    ShowsFailures ResourceResult.codec ResourceResult.Shows
      (∃ read, readParams ResourceRead.codec r.params = .ok read ∧
        (s.service.registry.resources.get? read.uri).isSome)
      (s.service.route r.method r.params (s.service.context r))
      (o'.route r.method r.params (s.service.context r)) := by
  rw [hmethod]
  exact h.route_read r.params (s.service.context r)

/-- The dispatch of a call or a read commutes with erasure. -/
theorem commutes_dispatch (h : Paired s.service o') {r : Rpc.Request}
    (hmethod : r.method = "tools/call" ∨ r.method = "resources/read") :
    Commutes Backend.erase (s.service.dispatch r) (o'.dispatch r) := by
  refine Commutes.dispatch h.info ?_
  rcases hmethod with hmethod | hmethod
  · exact (h.showsFailures_call hmethod).commutes
  · exact (h.showsFailures_read hmethod).commutes

theorem failuresInResults (h : Paired s.service o') (segment : List UInt8) :
    FailuresInResults o' s segment where
  codes _ _ hr he := h.codes hr he
  called _ _ call harrival hid hmethod hparams hfound :=
    (h.showsFailures_call hmethod).answer_of_found harrival hid ⟨call, hparams, hfound⟩
  read _ _ read harrival hid hmethod hparams hfound :=
    (h.showsFailures_read hmethod).answer_of_found harrival hid ⟨read, hparams, hfound⟩
  callFailed _ _ harrival hid hmethod _ htext :=
    (h.showsFailures_call hmethod).answer_of_error h harrival hid htext
  readFailed _ _ harrival hid hmethod _ htext :=
    (h.showsFailures_read hmethod).answer_of_error h harrival hid htext

end Paired

/-! ### Sessions -/

theorem paired_serverOf [Adapter σ] [Manager π] (config : Config) (backend : Backend σ π)
    (supply : Supply) {registry : Registry (Backend σ π)} {registry' : Registry (RecordedBackend σ π)}
    (h : ∀ k, registry.get? k = serverHandlers.find? (·.key = k))
    (h' : ∀ k, registry'.get? k = serverHandlers.find? (·.key = k)) :
    Paired (serverOf config registry backend supply).service
      (serverOf config registry' backend.recorded supply).service where
  info := rfl
  capabilities := rfl
  handlers k := by
    have hrel : Option.Rel HandlerRecordedAs (registry.get? k) (registry'.get? k) := by
      rw [h, h']
      exact find?_rel records_serverHandlers fun handler handler' hrecords => by rw [hrecords.key_eq]
    exact hrel

/-- For every adapter, plugin manager, pipe and input, a release server can be assembled, and also over the
recording backend, with which the dispatch of calls and reads commutes. A session consists of the turns on
some first segments of the input, all of them unless a write fails; and every failure in these turns is
shown in a result. -/
theorem failures_are_results [Adapter σ] [Manager π] (config : Config) (backend : Backend σ π)
    (supply : Supply) (pipe : Pipe) (input : List UInt8) :
    ∃ server recorded, assemble (some config) backend supply = .ok server ∧
      assemble (some config) backend.recorded supply = .ok recorded ∧
      (∀ r, r.method = "tools/call" ∨ r.method = "resources/read" →
        Commutes Backend.erase (server.service.dispatch r) (recorded.service.dispatch r)) ∧
      ∃ taken left, segments input = taken ++ left ∧
        ((writeAll Turn.deliver (serveSegments server.entering taken).1 pipe).1 = .ok () → left = []) ∧
        runSession server pipe input =
          { server := (serveSegments server.entering taken).2.leaving
            link := (writeAll Turn.deliver (serveSegments server.entering taken).1 pipe).2
            outcome := some
              ((writeAll Turn.deliver (serveSegments server.entering taken).1 pipe).1.mapError
                .transport) } ∧
        ∀ before segment after, taken = before ++ segment :: after →
          FailuresInResults recorded.service (serveSegments server.entering before).2 segment := by
  obtain ⟨registry, hserver, hget⟩ := exists_assemble config backend supply
  obtain ⟨registry', hrecorded, hget'⟩ := exists_assemble config backend.recorded supply
  have hpaired := paired_serverOf config backend supply hget hget'
  obtain ⟨taken, left, hinput, hwhole, hrun⟩ :=
    runSession_eq (serverOf config registry backend supply) pipe input rfl
  refine ⟨_, _, hserver, hrecorded, fun r hmethod => hpaired.commutes_dispatch hmethod, taken, left, hinput,
    hwhole, hrun, fun before segment _ _ => Paired.failuresInResults ?_ segment⟩
  rw [serveSegments_service]
  exact hpaired

end ReleaseDesk.Release
