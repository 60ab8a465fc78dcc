import ReleaseDesk.Plugin.Roster
import ReleaseDesk.Proofs.Release.Failures
import ReleaseDesk.Proofs.Service.Ruling
import ReleaseDesk.Proofs.Stream.Isolation
import ReleaseDesk.Proofs.Supply

/-! Progress notifications of a release server. A bump or a publication that reaches the adapter is
enclosed in the start and the completion of a fresh progress token, whatever the outcome of the
step. No other request touches the tracker, so there is no active token between two segments. -/

namespace ReleaseDesk.Release

open ReleaseDesk.Service ReleaseDesk.Plugin ReleaseDesk.Protocol ReleaseDesk.Wire

variable {σ π : Type}

/-! ### Supplies -/

/-- The supplies reachable from `supply` by drawing identifiers and by steps of the adapter. -/
inductive DrawnFrom (σ : Type) [Adapter σ] (supply : Supply) : Supply → Prop
  | nothing : DrawnFrom σ supply supply
  | taken {supply' : Supply} (h : DrawnFrom σ supply supply') : DrawnFrom σ supply supply'.taken
  | drawn {supply' : Supply} (h : DrawnFrom σ supply supply') (s : Step) (input : s.Input) (a : σ) :
    DrawnFrom σ supply (Adapter.perform s input supply' a).2.2

/-- The adapter never moves a supply backwards. -/
def SupplyMonotone (σ : Type) [Adapter σ] : Prop :=
  ∀ (s : Step) (input : s.Input) (supply : Supply) (a : σ),
    supply.next ≤ (Adapter.perform s input supply a).2.2.next

theorem DrawnFrom.trans [Adapter σ] {first second third : Supply} (h : DrawnFrom σ first second)
    (h' : DrawnFrom σ second third) : DrawnFrom σ first third := by
  induction h' with
  | nothing => exact h
  | taken _ ih => exact ih.taken
  | drawn _ s input a ih => exact ih.drawn s input a

theorem DrawnFrom.next_le [Adapter σ] {supply supply' : Supply} (h : DrawnFrom σ supply supply')
    (ho : SupplyMonotone σ) : supply.next ≤ supply'.next := by
  induction h with
  | nothing => exact le_rfl
  | taken _ ih => exact ih.trans (Nat.le_succ _)
  | drawn _ s input a ih => exact ih.trans (ho s input _ a)

/-! ### Actions without progress -/

/-- No token has been started, updated or completed between the two scenes. -/
structure TrackerUnchanged [Adapter σ] (before after : Scene (Backend σ π)) : Prop where
  tracker : after.tracker = before.tracker
  sent : ∃ added, after.sent = before.sent ++ added ∧ ∀ n ∈ added, n.method ≠ progressMethod
  supply : DrawnFrom σ before.supply after.supply

namespace TrackerUnchanged

variable [Adapter σ] {before between after : Scene (Backend σ π)}

theorem of_silent (ht : after.tracker = before.tracker) (hs : after.sent = before.sent)
    (hsupply : DrawnFrom σ before.supply after.supply) : TrackerUnchanged before after :=
  ⟨ht, ⟨[], by rw [hs, List.append_nil], List.forall_mem_nil _⟩, hsupply⟩

theorem refl (scene : Scene (Backend σ π)) : TrackerUnchanged scene scene := of_silent rfl rfl .nothing

theorem trans (h : TrackerUnchanged before between) (h' : TrackerUnchanged between after) :
    TrackerUnchanged before after := by
  obtain ⟨added, hsent, hadded⟩ := h.sent
  obtain ⟨more, hmore, hall⟩ := h'.sent
  refine ⟨h'.tracker.trans h.tracker, ⟨added ++ more, ?_, List.forall_mem_append.mpr ⟨hadded, hall⟩⟩,
    h.supply.trans h'.supply⟩
  rw [hmore, hsent, List.append_assoc]

end TrackerUnchanged

theorem Parametric.trackerUnchanged {c : Context} {x : ∀ p : Parties, Action (Backend p.σ p.π) α}
    (h : Parametric c false x) (p : Parties) (scene : Scene (Backend p.σ p.π)) :
    TrackerUnchanged scene ((x p).run scene).2 := by
  induction h generalizing scene with
  | pure | hasAdapter => exact .refl scene
  | bind _ _ ihx ihf => exact (ihx scene).trans (ihf _ _)
  | clock _ ih => exact ih scene.supply.now scene
  | perform s input =>
    unfold Backend.perform
    simp only [StateT.run_bind, StateT.run_get, pure_bind]
    cases scene.world.adapter with
    | none => exact .refl scene
    | some a => exact .of_silent rfl rfl (.drawn .nothing s input a)
  | plugins | plugin | run =>
    unfold Backend.ask
    simp only [StateT.run_bind, StateT.run_get, pure_bind]
    cases scene.world.manager with
    | none => exact .refl scene
    | some m => exact .of_silent rfl rfl .nothing
  | log call =>
    rw [LogCall.perform_run, LogCall.passed]
    refine ⟨rfl, ⟨_, rfl, ?_⟩, .nothing⟩
    split_ifs
    · refine List.forall_mem_singleton.mpr ?_
      change messageMethod ≠ progressMethod
      decide
    · exact List.forall_mem_nil _
  | start h | complete h => cases h

/-- Every run of the handler leaves the tracker unchanged. -/
def Handler.TrackerUnchanged [Adapter σ] : Handler (Backend σ π) → Prop
  | .tool h => ∀ v c scene, Release.TrackerUnchanged scene ((h.call v c).run scene).2
  | .resource h => ∀ c scene, Release.TrackerUnchanged scene ((h.read c).run scene).2
  | .prompt h => ∀ arguments c scene, Release.TrackerUnchanged scene ((h.fill arguments c).run scene).2

theorem ParametricHandler.trackerUnchanged {h : ∀ p : Parties, Handler (Backend p.σ p.π)}
    (hh : ParametricHandler false h) (p : Parties) : Handler.TrackerUnchanged (h p) := by
  cases hh with
  | tool _ hcall => exact fun v c => (hcall v c).trackerUnchanged p
  | resource _ hread => exact fun c => (hread c).trackerUnchanged p
  | prompt _ hfill => exact fun arguments c => (hfill arguments c).trackerUnchanged p

theorem trackerUnchanged_serverHandlers [Adapter σ] [Manager π] :
    ∀ h ∈ serverHandlers (σ := σ) (π := π), (∃ s : Step, h = .tool s.handler) ∨
    Handler.TrackerUnchanged h := by
  rw [← map_handlerFamilies ⟨σ, π⟩, List.forall_mem_map]
  intro h hh
  obtain ⟨s, rfl⟩ | hquiet := parametric_families h hh
  · exact .inl ⟨s, rfl⟩
  · exact .inr (hquiet.trackerUnchanged ⟨σ, π⟩)

/-! ### Steps -/

namespace Step

/-- The notification that starts a step. -/
def startReport (token : ProgressToken) (startMessage : String) : Progress :=
  { token, kind := .begin, done := 0, total := some 1, percentage := .zero, message := some startMessage }

/-- The notification that completes a step. -/
def completionReport (token : ProgressToken) (endMessage : String) : Progress :=
  { token, kind := .finish, done := 1, total := some 1, percentage := .hundred
    message := some endMessage }

/-- The notifications of an enclosed step: start, completion, and the log message of its outcome if
that passes the filter. -/
def progressNotices (s : Step) (startMessage : String) (token : ProgressToken)
    (outcome : Except Refusal s.Output)
    (logger : Option String) (least : LogLevel) : List Rpc.Notification :=
  (startReport token startMessage).notification ::
  (completionReport token (s.endMessage outcome)).notification ::
    (s.logCall? outcome).toList.flatMap (·.passed { logger } least)

/-- Two progress notifications, and at most one log message after them. -/
theorem progressNotices_methods (s : Step) (startMessage : String) (token : ProgressToken)
    (outcome : Except Refusal s.Output) (logger : Option String) (least : LogLevel) :
    (s.progressNotices startMessage token outcome logger least).map (·.method) =
      [progressMethod, progressMethod] ++
        ((s.logCall? outcome).toList.filter (·.level.passes least)).map fun _ => messageMethod := by
  unfold progressNotices
  cases s.logCall? outcome with
  | none => rfl
  | some call =>
    by_cases h : call.level.passes least = true
    · simp [LogCall.passed, h]
      exact ⟨rfl, rfl, rfl⟩
    · simp [LogCall.passed, h]
      exact ⟨rfl, rfl⟩

theorem start_of_idle {tracker : Tracker} (h : tracker.active = []) (token : ProgressToken)
    (startMessage : String) :
    tracker.start token 1 startMessage = (startReport token startMessage, { active := [(token, 1)] }) := by
  simp only [Tracker.start, Tracker.drop, h, List.filter_nil]
  rfl

theorem complete_of_only (token : ProgressToken) (endMessage : String) :
    Tracker.complete { active := [(token, 1)] } token endMessage =
    (some (completionReport token endMessage), {}) := by
  simp [Tracker.complete, Tracker.total?, Tracker.drop, completionReport]

/-- Running a step enclosed in progress, from a tracker without active tokens. -/
theorem enclosed_run_enclosed [Adapter σ] {scene : Scene (Backend σ π)} {s : Step} {input : s.Input}
    {startMessage : String} (hs : s.startMessage? input = some startMessage) {a : σ}
    (ha : scene.world.adapter = some a) (hidle : scene.tracker.active = []) (c : Context) :
    (s.enclosed c input).run scene = ((Adapter.perform s input scene.supply.taken a).1,
      { scene with
        world.adapter := some (Adapter.perform s input scene.supply.taken a).2.1
        supply := (Adapter.perform s input scene.supply.taken a).2.2
        tracker := {}
        sent := scene.sent ++ s.progressNotices startMessage (.string scene.supply.fresh)
          (Adapter.perform s input scene.supply.taken a).1 c.logger scene.level }) := by
  rw [enclosed_run_of_startMessage ha hs, start_of_idle hidle, complete_of_only]
  simp only [progressNotices, List.append_assoc, Option.toList_some, List.map_cons, List.map_nil,
    List.cons_append, List.nil_append]
  rfl

/-- The tool of an enclosed step that reaches the adapter, from a tracker without active tokens. -/
theorem handler_run_enclosed [Adapter σ] {scene : Scene (Backend σ π)} {s : Step} {v : Json}
    {input : s.Input} (hinput : s.readInput v = .ok input) {startMessage : String}
    (hs : s.startMessage? input = some startMessage) {a : σ} (ha : scene.world.adapter = some a)
    (hidle : scene.tracker.active = []) (c : Context) :
    (s.handler.call v c).run scene = (.ok (s.result (Adapter.perform s input scene.supply.taken a).1),
      { scene with
        world.adapter := some (Adapter.perform s input scene.supply.taken a).2.1
        supply := (Adapter.perform s input scene.supply.taken a).2.2
        tracker := {}
        sent := scene.sent ++ s.progressNotices startMessage (.string scene.supply.fresh)
          (Adapter.perform s input scene.supply.taken a).1 c.logger scene.level }) := by
  have hcall : (s.handler.call v c).run scene =
      (s.enclosed c input >>= fun outcome => pure (Except.ok (s.result outcome))).run scene := by
    simp only [handler, hinput, StateT.run_bind, Backend.hasAdapter_run, ha, Option.isSome_some]
    rfl
  rw [hcall, StateT.run_bind, enclosed_run_enclosed hs ha hidle]
  rfl

/-- The tool of a step uses the tracker only if the step is enclosed and reaches the adapter. -/
theorem trackerUnchanged_handler [Adapter σ] [Manager π] (s : Step) (v : Json) (c : Context)
    (scene : Scene (Backend σ π)) :
    (∃ input a startMessage, s.readInput v = .ok input ∧ scene.world.adapter = some a ∧
      s.startMessage? input = some startMessage) ∨
      TrackerUnchanged scene ((s.handler.call v c).run scene).2 := by
  cases ha : scene.world.adapter with
  | none =>
    refine .inr ?_
    cases hinput : s.readInput v with
    | error inputError =>
      rw [handler_run_inputError hinput]
      exact .refl scene
    | ok input =>
      rw [handler_run_none hinput ha]
      exact .refl scene
  | some a =>
    by_cases hstart : ∃ input startMessage, s.readInput v = .ok input ∧
        s.startMessage? input = some startMessage
    · obtain ⟨input, startMessage, hinput, hs⟩ := hstart
      exact .inl ⟨input, a, startMessage, hinput, rfl, hs⟩
    · refine .inr ((parametric_call fun input hinput hs => ?_).trackerUnchanged ⟨σ, π⟩ scene)
      obtain ⟨startMessage, hs⟩ := Option.isSome_iff_exists.mp hs
      exact absurd ⟨input, startMessage, hinput, hs⟩ hstart

end Step

/-! ### Requests -/

/-- The request calls the tool of step `s` with arguments that decode as `input`. -/
structure Orders (r : Rpc.Request) (s : Step) (input : s.Input) : Prop where
  method : r.method = "tools/call"
  read : ∃ arguments, readParams ToolCall.codec r.params = .ok { name := s.toolName, arguments } ∧
    s.readInput arguments = .ok input

section

variable [Adapter σ] [Manager π] {o : Dispatcher (Backend σ π)}

theorem route_call_of_hasReleaseHandlers (h : HasReleaseHandlers o.registry) {s : Step}
    {params : Option Json} {arguments : Json}
    (hread : readParams ToolCall.codec params = .ok { name := s.toolName, arguments }) (c : Context) :
    o.route "tools/call" params c = handled ToolResult.codec <$> s.handler.call arguments c :=
  Dispatcher.route_tool hread (h.tools s) c

/-- A request uses the tracker only if it orders an enclosed step and there is an adapter. -/
theorem trackerUnchanged_route (h : HasReleaseHandlers o.registry) (r : Rpc.Request) (c : Context)
    (scene : Scene (Backend σ π)) :
    (∃ s input a startMessage, Orders r s input ∧ scene.world.adapter = some a ∧
      s.startMessage? input = some startMessage) ∨
      TrackerUnchanged scene ((o.route r.method r.params c).run scene).2 := by
  obtain ⟨ruling, hrules⟩ := o.exists_rules r.method r.params
  rw [Dispatcher.route_of_rules hrules]
  cases hrules with
  | unknown | malformed | lacksArguments => exact .inr (.refl scene)
  | answers => exact .inr (.of_silent rfl rfl .nothing)
  | invokes hasks =>
    cases hasks with
    | @call call handler hname hread hfound =>
      obtain ⟨hmem, hkey⟩ := h.mem (k := .tool call.name) (congrArg (Option.map Handler.tool) hfound)
      obtain ⟨s, hs⟩ | hunchanged := trackerUnchanged_serverHandlers _ hmem
      · obtain rfl := Handler.tool.inj hs
        have hname' : s.toolName = call.name := Key.tool.inj hkey
        have hcall : call = { name := s.toolName, arguments := call.arguments } := by
          rw [hname']
        rw [hcall] at hread
        obtain ⟨input, a, startMessage, hinput, ha, hstart⟩ | hunchanged :=
          s.trackerUnchanged_handler call.arguments c scene
        · exact .inl ⟨s, input, a, startMessage, ⟨hname, _, hread, hinput⟩, ha, hstart⟩
        · exact .inr hunchanged
      · exact .inr (hunchanged call.arguments c scene)
    | @read read handler hname hread hfound =>
      obtain ⟨hmem, -⟩ := h.mem (k := .resource read.uri) (congrArg (Option.map Handler.resource) hfound)
      obtain ⟨s, hs⟩ | hunchanged := trackerUnchanged_serverHandlers _ hmem
      · cases hs
      · exact .inr (hunchanged c scene)
    | @fill fill handler hname hread hfound hgiven =>
      obtain ⟨hmem, -⟩ := h.mem (k := .prompt fill.name) (congrArg (Option.map Handler.prompt) hfound)
      obtain ⟨s, hs⟩ | hunchanged := trackerUnchanged_serverHandlers _ hmem
      · cases hs
      · exact .inr (hunchanged fill.arguments c scene)

end

/-! ### Segments -/

open ReleaseDesk.Stream

/-- The segment is a request that makes the server perform `step` at its adapter. -/
structure Reaches (s : Server (Backend σ π)) (segment : List UInt8) (r : Rpc.Request) (step : Step)
    (input : step.Input) (a : σ) : Prop where
  arrival : arrivalOfOctets segment = some (.request r)
  orders : Orders r step input
  adapter : s.scene.world.adapter = some a

/-- The segment is a request for an enclosed step. -/
def StartsProgress (s : Server (Backend σ π)) (segment : List UInt8) : Prop :=
  ∃ r step input a startMessage, Reaches s segment r step input a ∧
    step.startMessage? input = some startMessage

/-- The progress notifications of handling a segment. An enclosed step that reaches the adapter
starts and completes one token, the next of the supply, whatever its outcome; everything else sends
none. -/
structure ProgressEnclosed [Adapter σ] (s : Server (Backend σ π)) (segment : List UInt8) : Prop where
  idle : (serveSegment s segment).2.scene.tracker.active = []
  reached : ∀ r step input a startMessage, Reaches s segment r step input a →
    step.startMessage? input = some startMessage →
    let done := Adapter.perform step input s.scene.supply.taken a
    (serveSegment s segment).1 =
      { sent := step.progressNotices startMessage (.string s.scene.supply.fresh) done.1
          (some s.service.info.name) s.scene.level
        answer := r.id.map fun id =>
          .success (some id) (ToolResult.codec.toJson (step.result done.1)) } ∧
    (serveSegment s segment).2.scene = { s.scene with
      world.adapter := some done.2.1, supply := done.2.2, tracker := {}, sent := [] }
  refused : ∀ r (step : Step) arguments, arrivalOfOctets segment = some (.request r) →
    r.method = "tools/call" →
    readParams ToolCall.codec r.params = .ok { name := step.toolName, arguments } →
    (∃ inputError, step.readInput arguments = .error inputError) ∨ s.scene.world.adapter = none →
    (serveSegment s segment).1.sent = [] ∧ (serveSegment s segment).2.scene = { s.scene with sent := [] }
  others : ¬StartsProgress s segment → ∀ n ∈ (serveSegment s segment).1.sent, n.method ≠ progressMethod

section

variable [Adapter σ] [Manager π] {s : Server (Backend σ π)} {segment : List UInt8}

theorem serveSegment_request (s : Server ω) {segment : List UInt8} {r : Rpc.Request}
    (h : arrivalOfOctets segment = some (.request r)) :
    serveSegment s segment =
      let route := (s.service.route r.method r.params (s.service.context r)).run { s.scene with sent := [] }
      ({ sent := route.2.sent, answer := r.id.map fun id => answerOf id route.1 },
        { s with phase := s.phase.after r.method, scene := { route.2 with sent := [] } }) := by
  simp only [serveSegment, h, s.handle_eq]

theorem serveSegment_reached (h : HasReleaseHandlers s.service.registry) (hidle : s.scene.tracker.active = [])
    {r : Rpc.Request} {step : Step} {input : step.Input} {a : σ} {startMessage : String}
    (hr : Reaches s segment r step input a) (ho : step.startMessage? input = some startMessage) :
    let done := Adapter.perform step input s.scene.supply.taken a
    serveSegment s segment =
      ({ sent := step.progressNotices startMessage (.string s.scene.supply.fresh) done.1
          (some s.service.info.name) s.scene.level
         answer := r.id.map fun id =>
          .success (some id) (ToolResult.codec.toJson (step.result done.1)) },
        { s with
          phase := s.phase.after r.method
          scene := { s.scene with
            world.adapter := some done.2.1, supply := done.2.2, tracker := {}, sent := [] } }) := by
  obtain ⟨arguments, hread, hinput⟩ := hr.orders.read
  have ha : ({ s.scene with sent := [] } : Scene (Backend σ π)).world.adapter = some a := hr.adapter
  have hrun := Step.handler_run_enclosed hinput ho ha hidle (s.service.context r)
  rw [serveSegment_request s hr.arrival, hr.orders.method, route_call_of_hasReleaseHandlers h hread,
    StateT.run_map, hrun]
  rfl

theorem serveSegment_refused (h : HasReleaseHandlers s.service.registry) {r : Rpc.Request}
    {step : Step} {arguments : Json}
    (harrival : arrivalOfOctets segment = some (.request r)) (hmethod : r.method = "tools/call")
    (hread : readParams ToolCall.codec r.params = .ok { name := step.toolName, arguments })
    (hnot : (∃ inputError, step.readInput arguments = .error inputError) ∨
      s.scene.world.adapter = none) :
    (serveSegment s segment).1.sent = [] ∧
      (serveSegment s segment).2.scene = { s.scene with sent := [] } := by
  have hrun (c : Context) : ((step.handler.call arguments c).run { s.scene with sent := [] }).2 =
      { s.scene with sent := [] } := by
    cases hinput : step.readInput arguments with
    | error inputError => rw [Step.handler_run_inputError hinput]
    | ok input =>
      have ha : s.scene.world.adapter = none := hnot.resolve_left (by simp [hinput])
      rw [Step.handler_run_none hinput (by exact ha)]
  rw [serveSegment_request s harrival, hmethod, route_call_of_hasReleaseHandlers h hread, StateT.run_map]
  exact ⟨congrArg Scene.sent (hrun _), congrArg (fun scene => { scene with sent := [] }) (hrun _)⟩

theorem trackerUnchanged_serveSegment (h : HasReleaseHandlers s.service.registry)
    (hnot : ¬StartsProgress s segment) :
    DrawnFrom σ s.scene.supply (serveSegment s segment).2.scene.supply ∧
      (serveSegment s segment).2.scene.tracker = s.scene.tracker ∧
      ∀ n ∈ (serveSegment s segment).1.sent, n.method ≠ progressMethod := by
  rcases arrivalOfOctets_cases segment with hnone | ⟨r, hr⟩ | ⟨fault, hf⟩
  · simp only [serveSegment, hnone]
    exact ⟨.nothing, trivial, List.forall_mem_nil _⟩
  · obtain ⟨step, input, a, startMessage, horders, ha, ho⟩ | hunchanged :=
      trackerUnchanged_route h r (s.service.context r) { s.scene with sent := [] }
    · exact absurd ⟨r, step, input, a, startMessage, ⟨hr, horders, ha⟩, ho⟩ hnot
    · rw [serveSegment_request s hr]
      obtain ⟨added, hsent, hadded⟩ := hunchanged.sent
      refine ⟨hunchanged.supply, hunchanged.tracker, ?_⟩
      rwa [← List.nil_append added, ← hsent] at hadded
  · simp only [serveSegment, hf]
    exact ⟨.nothing, trivial, List.forall_mem_nil _⟩

theorem enclosed (h : HasReleaseHandlers s.service.registry) (hidle : s.scene.tracker.active = [])
    (segment : List UInt8) : ProgressEnclosed s segment where
  idle := by
    by_cases hbegins : StartsProgress s segment
    · obtain ⟨r, step, input, a, startMessage, hr, ho⟩ := hbegins
      rw [serveSegment_reached h hidle hr ho]
    · rw [(trackerUnchanged_serveSegment h hbegins).2.1, hidle]
  reached r step input a startMessage hr ho := by
    rw [serveSegment_reached h hidle hr ho]
    exact ⟨rfl, rfl⟩
  refused r step arguments := serveSegment_refused h
  others hnot := (trackerUnchanged_serveSegment h hnot).2.2

theorem drawnFrom_serveSegment (h : HasReleaseHandlers s.service.registry)
    (hidle : s.scene.tracker.active = [])
    (segment : List UInt8) :
    DrawnFrom σ s.scene.supply (serveSegment s segment).2.scene.supply ∧
      (StartsProgress s segment →
        DrawnFrom σ s.scene.supply.taken (serveSegment s segment).2.scene.supply) := by
  by_cases hbegins : StartsProgress s segment
  · obtain ⟨r, step, input, a, startMessage, hr, ho⟩ := id hbegins
    rw [serveSegment_reached h hidle hr ho]
    exact ⟨.drawn (.taken .nothing) step input a, fun _ => .drawn .nothing step input a⟩
  · exact ⟨(trackerUnchanged_serveSegment h hbegins).1, fun hb => absurd hb hbegins⟩

/-! ### Sessions -/

/-- The tracker has no active tokens after any number of segments. -/
theorem idle_serveSegments (h : HasReleaseHandlers s.service.registry) (hidle : s.scene.tracker.active = [])
    (segments : List (List UInt8)) :
    (serveSegments s segments).2.scene.tracker.active = [] ∧
      DrawnFrom σ s.scene.supply (serveSegments s segments).2.scene.supply := by
  induction segments generalizing s with
  | nil => exact ⟨hidle, .nothing⟩
  | cons segment segments ih =>
    obtain ⟨hlater, hdrawn⟩ := ih (s := (serveSegment s segment).2) (by rwa [serveSegment_service])
      (enclosed h hidle segment).idle
    exact ⟨hlater, (drawnFrom_serveSegment h hidle segment).1.trans hdrawn⟩

/-- Two enclosed steps of a session have distinct tokens, if the adapter moves the supply forward
only and the supply is not exhausted in between. -/
theorem fresh_ne_fresh (h : HasReleaseHandlers s.service.registry) (hidle : s.scene.tracker.active = [])
    (ho : SupplyMonotone σ) (hbegins : StartsProgress s segment) {between : List (List UInt8)}
    (hfew : (serveSegments s (segment :: between)).2.scene.supply.next <
      s.scene.supply.next + identifierCount) :
    s.scene.supply.fresh ≠ (serveSegments s (segment :: between)).2.scene.supply.fresh := by
  have hfirst := ((drawnFrom_serveSegment h hidle segment).2 hbegins).next_le ho
  have hrest := (idle_serveSegments (s := (serveSegment s segment).2) (by rwa [serveSegment_service])
    (enclosed h hidle segment).idle between).2.next_le ho
  have hlt : s.scene.supply.next < (serveSegments s (segment :: between)).2.scene.supply.next :=
    Nat.lt_of_lt_of_le (Nat.lt_succ_self _) (hfirst.trans hrest)
  rw [Supply.fresh, Supply.fresh, Ne, identifier_eq_iff, identifierCount]
  rw [identifierCount] at hfew
  omega

end

/-- For every adapter and every plugin manager, the release server can be assembled. After each
segment of a session, following any earlier session, no token is active, and the progress
notifications are those that enclose a bump or a publication of this segment. The tokens of two
segments are distinct, if the adapter moves the supply forward only and fewer identifiers are drawn
in between than there are. The output of a session over any pipe consists of what the server sends
segment by segment. -/
theorem progress_never_leaks [Adapter σ] [Manager π] (config : Config) (backend : Backend σ π)
    (supply : Supply) :
    ∃ server, assemble (some config) backend supply = .ok server ∧
      ∀ s : Server (Backend σ π), s.service = server.service →
        (∀ before segment, ProgressEnclosed (serveSegments s.entering before).2 segment) ∧
        (SupplyMonotone σ → ∀ before segment between,
          let earlier := (serveSegments s.entering before).2
          let later := (serveSegments earlier (segment :: between)).2
          StartsProgress earlier segment →
          later.scene.supply.next < earlier.scene.supply.next + identifierCount →
          earlier.scene.supply.fresh ≠ later.scene.supply.fresh) ∧
        (s.stopRequested = false → ∀ (pipe : Pipe) (input : List UInt8), ∃ taken left,
          segments input = taken ++ left ∧
          ((writeAll Turn.deliver (serveSegments s.entering taken).1 pipe).1 = .ok () → left = []) ∧
          runSession s pipe input =
            { server := (serveSegments s.entering taken).2.leaving
              link := (writeAll Turn.deliver (serveSegments s.entering taken).1 pipe).2
              outcome := some
                ((writeAll Turn.deliver (serveSegments s.entering taken).1 pipe).1.mapError
                  .transport) }) := by
  obtain ⟨registry, hserver, hget⟩ := exists_assemble config backend supply
  refine ⟨_, hserver, fun s hs => ?_⟩
  have hhandlers : HasReleaseHandlers s.entering.service.registry := by
    have hservice : s.entering.service = s.service := rfl
    rw [hservice, hs]
    exact hget
  have hlater (before : List (List UInt8)) :
      HasReleaseHandlers (serveSegments s.entering before).2.service.registry := by
    rwa [serveSegments_service]
  have hidle (before : List (List UInt8)) :
      (serveSegments s.entering before).2.scene.tracker.active = [] :=
    (idle_serveSegments hhandlers rfl before).1
  refine ⟨fun before segment => enclosed (hlater before) (hidle before) segment, ?_,
    fun hw pipe input => runSession_eq s pipe input hw⟩
  intro honward before segment between earlier later hbegins hfew
  exact fresh_ne_fresh (hlater before) (hidle before) honward hbegins hfew

/-- A bump and a publication, both refused by the adapter. -/
theorem progress_never_leaks_refused :
    let backend : Backend Refusal Roster := { adapter := some .noActiveRelease }
    let line (tool : String) := lineOctets (Rpc.Request.codec.render (requestWith 1 "tools/call" "name" tool))
    ∃ server, assemble (some {}) backend { now := .epoch, next := 0 } = .ok server ∧
      let bumped := serveSegment server.entering (line "relicta.bump")
      let published := serveSegment bumped.2 (line "relicta.publish")
      bumped.1.sent.map (·.method) = [progressMethod, progressMethod] ∧
      published.1.sent.map (·.method) = [progressMethod, progressMethod, messageMethod] ∧
      published.2.scene.tracker.active = [] ∧
      server.entering.scene.supply.fresh ≠ bumped.2.scene.supply.fresh := by
  intro backend line
  have harrival (tool : String) : arrivalOfOctets (line tool) =
      some (.request (requestWith 1 "tools/call" "name" tool)) :=
      arrival_requestWith ⟨by decide, by decide⟩ _ _ _
  clear_value line
  obtain ⟨server, hserver, hall⟩ := progress_never_leaks {} backend { now := .epoch, next := 0 }
  obtain ⟨registry, hassembled, -⟩ := exists_assemble {} backend { now := .epoch, next := 0 }
  have hscene : server.scene = { world := backend, supply := { now := .epoch, next := 0 } } := by
    rw [Except.ok.inj (hserver.symm.trans hassembled)]
    rfl
  obtain ⟨hturns, hfresh, -⟩ := hall server rfl
  have hread (tool : String) : readParams ToolCall.codec (requestWith 1 "tools/call" "name" tool).params =
      .ok { name := tool, arguments := .null } := rfl
  have hadapter : server.entering.scene.world.adapter = some .noActiveRelease := by
    rw [Server.entering, hscene]
  have hbump : Reaches server.entering (line "relicta.bump")
    (requestWith 1 "tools/call" "name" "relicta.bump")
      .bump {} .noActiveRelease :=
    ⟨harrival _, ⟨rfl, .null, hread _, rfl⟩, hadapter⟩
  have hfirst : ProgressEnclosed server.entering (line "relicta.bump") := hturns [] _
  have hsecond : ProgressEnclosed (serveSegment server.entering (line "relicta.bump")).2
    (line "relicta.publish") :=
    hturns [line "relicta.bump"] _
  obtain ⟨hbumped, hafter⟩ := hfirst.reached _ _ _ _ _ hbump rfl
  have hpublish : Reaches (serveSegment server.entering (line "relicta.bump")).2 (line "relicta.publish")
      (requestWith 1 "tools/call" "name" "relicta.publish") .publish {} .noActiveRelease :=
    ⟨harrival _, ⟨rfl, .null, hread _, rfl⟩, by rw [hafter]; rfl⟩
  obtain ⟨hpublished, -⟩ := hsecond.reached _ _ _ _ _ hpublish rfl
  have hdistinct := hfresh (fun _ _ _ _ => le_rfl) [] (line "relicta.bump") []
    ⟨_, _, _, _, _, hbump, rfl⟩
  simp only [serveSegments] at hdistinct
  refine ⟨server, hserver, ?_, ?_, hsecond.idle, hdistinct ?_⟩
  · rw [hbumped, Step.progressNotices_methods]
    rfl
  · have hlevel : (serveSegment server.entering (line "relicta.bump")).2.scene.level = .info := by
      rw [hafter, Server.entering, hscene]
    rw [hpublished, Step.progressNotices_methods, hlevel]
    rfl
  · rw [hafter, Server.entering, hscene]
    exact Nat.lt_of_lt_of_le (m := 2) Nat.one_lt_two (le_add_left (by decide))

end ReleaseDesk.Release
