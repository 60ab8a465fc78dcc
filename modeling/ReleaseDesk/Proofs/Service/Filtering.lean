import ReleaseDesk.Proofs.Release.Assembly
import ReleaseDesk.Proofs.Service.Interaction
import ReleaseDesk.Proofs.Service.Lifecycle

/-! The level filter over a session. The filter keeps the level it has at the start until a request
sets it, and then has the level that was set last; handlers that use only their context do not set
it. So a call to log during a session sends its message if and only if the message has at least the
level that was set last. -/

namespace ReleaseDesk.Service

open ReleaseDesk.Protocol ReleaseDesk.Wire

/-! ### Setting the filter -/

/-- The level that a ruling sets. -/
def Ruling.level? : Ruling ω → Option LogLevel
  | answer _ level => level
  | _ => none

theorem ofName?_eq_setLevel {method : String} (h : Method.ofName? method = some .setLevel) :
    method = "logging/setLevel" := by
  unfold Method.ofName? at h
  split at h <;> simp_all

namespace Dispatcher

variable {o : Dispatcher ω} {r : Rpc.Request} {level : LogLevel}

theorem setting?_level (hlogging : o.capabilities.logging.isSome) (hmethod : r.method = "logging/setLevel") :
    o.setting? r = (readParams LevelSetting.codec r.params).toOption.map (·.level) := by
  rw [setting?, hmethod, method?_level hlogging]

/-- A request sets the filter if and only if it is a `logging/setLevel` with decodable parameters,
at a server with the logging capability. -/
theorem setting?_eq_some_iff : o.setting? r = some level ↔ r.method = "logging/setLevel" ∧
    o.capabilities.logging.isSome ∧ readParams LevelSetting.codec r.params = .ok { level } := by
  constructor
  · intro h
    obtain ⟨hname, hlogging⟩ : r.method = "logging/setLevel" ∧ o.capabilities.logging.isSome := by
      cases hm : o.method? r.method with
      | none => simp [setting?, hm] at h
      | some m =>
        obtain rfl : m = .setLevel := by
          cases m <;> simp [setting?, hm] at h ⊢
        obtain ⟨hname, hlogging⟩ := Option.filter_eq_some_iff.mp hm
        exact ⟨ofName?_eq_setLevel hname, by simpa using hlogging⟩
    rw [setting?_level hlogging hname] at h
    refine ⟨hname, hlogging, ?_⟩
    cases hread : readParams LevelSetting.codec r.params with
    | error fault => simp [hread, Except.toOption] at h
    | ok setting =>
      rw [hread] at h
      cases h
      rfl
  · rintro ⟨hname, hlogging, hread⟩
    rw [setting?_level hlogging hname, hread]
    rfl

theorem Rules.setting? {ruling : Ruling ω} (h : o.Rules r.method r.params ruling) :
    o.setting? r = ruling.level? := by
  obtain ⟨version, id, method, params⟩ := r
  dsimp only at h
  cases h with
  | unknown h =>
    cases h with
    | method h =>
      rw [Dispatcher.setting?, method?_of_not_offers h]
      rfl
    | @key kind key hname hasked habsent =>
      subst hname
      cases kind <;> rfl
  | malformed h =>
    obtain ⟨α, record, htakes, hdetail⟩ := h
    cases htakes with
    | level hlogging =>
      have hread : readParams LevelSetting.codec params = .error (.invalidParams _) :=
        readParams_error.mpr ⟨_, hdetail, rfl⟩
      rw [setting?_level hlogging rfl, hread]
      rfl
    | _ => rfl
  | lacksArguments h =>
    obtain ⟨fill, handler, rfl, -⟩ := h
    rfl
  | answers h =>
    cases h with
    | greet hname =>
      subst hname
      rfl
    | heard hname =>
      simp only [List.mem_cons, List.not_mem_nil, or_false] at hname
      obtain rfl | rfl | rfl := hname <;> rfl
    | list kind hname =>
      subst hname
      cases kind <;> rfl
    | level hname hlogging hread =>
      rw [setting?_level hlogging hname, hread]
      rfl
  | invokes h =>
    cases h with
    | call hname =>
      subst hname
      rfl
    | read hname =>
      subst hname
      rfl
    | fill hname =>
      subst hname
      rfl

end Dispatcher

/-! ### One request -/

variable {tree : Invocation ω → Context → Interaction ω (Except Failure Json)}

/-- The calls to log while a ruling is carried out. -/
def Ruling.logged (tree : Invocation ω → Context → Interaction ω (Except Failure Json)) (c : Context)
    (scene : Scene ω) : Ruling ω → List Logged
  | ask i => (tree i c).logged c scene
  | _ => []

namespace Server

variable {s : Server ω}

theorem handle_of_rules {r : Rpc.Request} {ruling : Ruling ω} (h : s.service.Rules r.method r.params ruling) :
    (s.handle r).1 = ((ruling.carryOut (s.service.context r)).run { s.scene with sent := [] }).2.sent ∧
      (s.handle r).2.2.scene.level =
        ((ruling.carryOut (s.service.context r)).run { s.scene with sent := [] }).2.level := by
  rw [handle_eq, Dispatcher.route_of_rules h]
  exact ⟨rfl, rfl⟩

theorem logged_of_rules {r : Rpc.Request} {ruling : Ruling ω} (h : s.service.Rules r.method r.params ruling) :
    s.logged tree r = ruling.logged tree (s.service.context r) { s.scene with sent := [] } := by
  rw [logged, Dispatcher.invoked_of_rules h]
  cases ruling <;> simp [Ruling.invoked, Ruling.logged]

theorem level_handle (h : s.service.registry.Follows tree) (r : Rpc.Request) :
    (s.handle r).2.2.scene.level = (s.service.setting? r).getD s.scene.level := by
  obtain ⟨ruling, hr⟩ := s.service.exists_rules r.method r.params
  rw [(handle_of_rules hr).2, hr.setting?]
  cases hr with
  | @invokes i hi =>
    have hlevel := (tree i (s.service.context r)).level_perform
      (s.service.context r) { s.scene with sent := [] }
    rwa [← h i hi.has] at hlevel
  | _ => rfl

/-- The log messages of a request are those of its calls to log that pass the filter. -/
theorem filter_handle (h : s.service.registry.Follows tree) (r : Rpc.Request) :
    (s.handle r).1.filter isLog = (s.logged tree r).flatMap (·.sent) := by
  obtain ⟨ruling, hr⟩ := s.service.exists_rules r.method r.params
  rw [(handle_of_rules hr).1, logged_of_rules hr]
  cases hr with
  | @invokes i hi =>
    have hsent := (tree i (s.service.context r)).filter_sent (s.service.context r) { s.scene with sent := [] }
    rwa [← h i hi.has] at hsent
  | _ => rfl

/-- A call to log sends its message if the message passes the filter at the start of the request,
and nothing else. -/
theorem sent_of_logged (s : Server ω) (r : Rpc.Request) :
    ∀ e ∈ s.logged tree r, e.sent = e.call.passed (s.service.context r) s.scene.level := by
  obtain ⟨ruling, hr⟩ := s.service.exists_rules r.method r.params
  rw [logged_of_rules hr]
  cases ruling with
  | ask i => exact Interaction.sent_of_logged _ _ { s.scene with sent := [] }
  | _ => exact List.forall_mem_nil _

end Server

/-! ### A session -/

theorem lastSetting_concat (o : Dispatcher ω) (level : LogLevel) (arrivals : List Arrival) (a : Arrival) :
    lastSetting o level (arrivals ++ [a]) = (a.setting? o).getD (lastSetting o level arrivals) := by
  induction arrivals generalizing level with
  | nil => rw [List.nil_append, lastSetting_cons]; rfl
  | cons b arrivals ih => rw [List.cons_append, lastSetting_cons, lastSetting_cons, ih]

/-- The segment that a transition reads. -/
def Transition.arrival? : Transition τ → Option Arrival
  | .read a => some a
  | _ => none

def arrivalsOf (moves : List (Transition τ)) : List Arrival := moves.filterMap Transition.arrival?

theorem arrivalsOf_concat (moves : List (Transition τ)) (m : Transition τ) :
    arrivalsOf (moves ++ [m]) = arrivalsOf moves ++ m.arrival?.toList := by
  rw [arrivalsOf, List.filterMap_append]
  cases m <;> rfl

/-- The segment that has been read and is not yet handled. -/
def ControlState.inProgress : ControlState → List Arrival
  | .holding r => [.request r]
  | _ => []

namespace Loop

/-- The loop at the start of a session. -/
def sessionStart (server : Server ω) (link : τ) : Loop ω τ :=
    { server := server.entering, link, position := .looking }

/-- The level filter after the transitions `moves` of a session of `server`. -/
structure LevelInvariant (server : Server ω) (moves : List (Transition τ)) (l : Loop ω τ) : Prop where
  service : l.server.service = server.service
  level : ∃ earlier, arrivalsOf moves = earlier ++ l.position.inProgress ∧
    l.server.scene.level = lastSetting server.service server.scene.level earlier

namespace LevelInvariant

variable {server : Server ω} {moves : List (Transition τ)} {l l' : Loop ω τ}

theorem sessionStart (server : Server ω) (link : τ) : LevelInvariant server [] (sessionStart server link) :=
  ⟨rfl, [], rfl, rfl⟩

theorem level_eq (h : LevelInvariant server moves l) (hfree : l.position.inProgress = []) :
    l.server.scene.level = lastSetting server.service server.scene.level (arrivalsOf moves) := by
  obtain ⟨earlier, harrivals, hlevel⟩ := h.level
  rw [hfree, List.append_nil] at harrivals
  rwa [harrivals]

/-- A transition that handles no request keeps the level. -/
theorem keep (h : LevelInvariant server moves l) (hfree : l.position.inProgress = []) {m : Transition τ}
    (hserver : l'.server.service = l.server.service ∧ l'.server.scene.level = l.server.scene.level)
    (hread : ∀ a ∈ m.arrival?, a.setting? server.service = none) (hfree' : l'.position.inProgress = []) :
    LevelInvariant server (moves ++ [m]) l' := by
  refine ⟨hserver.1.trans h.service, arrivalsOf (moves ++ [m]), ?_, ?_⟩
  · rw [hfree', List.append_nil]
  · rw [hserver.2, h.level_eq hfree, arrivalsOf_concat]
    cases ha : m.arrival? with
    | none => rw [Option.toList_none, List.append_nil]
    | some a =>
      rw [Option.toList_some, lastSetting_concat, hread a ha]
      rfl

theorem step [Outlet τ] (hf : server.service.registry.Follows tree)
    (h : LevelInvariant server moves l) {m : Transition τ}
    (hm : l.Step m l') (hone : m.isEnter = false) : LevelInvariant server (moves ++ [m]) l' := by
  cases hm with
  | stop =>
    obtain ⟨earlier, harrivals, hlevel⟩ := h.level
    refine ⟨h.service, earlier, ?_, hlevel⟩
    rw [arrivalsOf_concat, harrivals]
    exact List.append_nil _
  | enter here link => cases hone
  | halt here asked | proceed here notStopped =>
    have hfree : l.position.inProgress = [] := by
      rw [here]
      rfl
    exact h.keep hfree ⟨rfl, rfl⟩ (fun _ h => absurd h (Option.not_mem_none _)) rfl
  | read here a =>
    have hfree : l.position.inProgress = [] := by
      rw [here]
      rfl
    cases a with
    | request r => exact ⟨h.service, _, arrivalsOf_concat moves _, h.level_eq hfree⟩
    | refused fault => exact h.keep hfree ⟨rfl, rfl⟩ (by rintro _ ⟨⟩; rfl) rfl
    | ended => exact h.keep hfree ⟨rfl, rfl⟩ (by rintro _ ⟨⟩; rfl) rfl
    | failed fault => cases fault <;> exact h.keep hfree ⟨rfl, rfl⟩ (by rintro _ ⟨⟩; rfl) rfl
  | @carryOut r here =>
    obtain ⟨earlier, harrivals, hlevel⟩ := h.level
    rw [here] at harrivals
    have hfollows : l.server.service.registry.Follows tree := h.service ▸ hf
    have hhand : (l.carryOut r).position.inProgress = [] := by
      simp only [Loop.carryOut]
      cases (l.server.handle r).2.1 <;> rfl
    refine ⟨h.service, earlier ++ [.request r], ?_, ?_⟩
    · rw [arrivalsOf_concat, hhand, harrivals]
      rfl
    · rw [lastSetting_concat, ← hlevel]
      have hset := Server.level_handle hfollows r
      rwa [h.service] at hset
  | @write r outcome link here wrote =>
    have hfree : l.position.inProgress = [] := by
      rw [here]
      rfl
    cases outcome <;> exact h.keep hfree ⟨rfl, rfl⟩ (fun _ h => absurd h (Option.not_mem_none _)) rfl

theorem of_trace [Outlet τ] (hf : server.service.registry.Follows tree) {link : τ}
    (h : (Loop.sessionStart server link).Trace moves l) (hone : ∀ m ∈ moves, m.isEnter = false) :
    LevelInvariant server moves l := by
  generalize hstart : Loop.sessionStart server link = start at h
  induction h with
  | nil =>
    subst hstart
    exact .sessionStart server link
  | concat _ last ih =>
    obtain ⟨hmoves, hm⟩ := List.forall_mem_append.mp hone
    exact (ih hmoves).step hf last (hm _ (List.mem_singleton.mpr rfl))

end LevelInvariant

/-- The log messages of handling a request, when the filter is at `level`. -/
structure LogsFiltered [Outlet τ]
    (tree : Invocation ω → Context → Interaction ω (Except Failure Json)) (level : LogLevel)
    (l : Loop ω τ) (r : Rpc.Request) : Prop where
  calls : ∀ e ∈ l.server.logged tree r, e.sent =
    if level.severity ≤ e.call.level.severity then [LogMessage.notification
      { level := e.call.level, logger := some (e.call.name.getD l.server.service.info.name)
        data := .object (("message", .string e.call.text) :: (e.call.data.map fun d => ("data", d)).toList) }]
    else []
  only : (l.server.handle r).1.filter (·.method = "notifications/message") =
    (l.server.logged tree r).flatMap (·.sent)
  written : (l.carryOut r).link = (l.server.handle r).1.foldl (fun link n => (Outlet.notify n link).2) l.link
  level : (l.carryOut r).server.scene.level = (l.server.service.setting? r).getD level

/-- Over every session of a server whose handlers use only their context, for every input, every
write failure and every stop: a request finds the filter at the level that the last
`logging/setLevel` before it has set, or at the initial level. Each of its calls to log sends its
message if and only if the message has at least this level, and no other log messages are sent. A
request sets the filter if and only if it is a `logging/setLevel` with decodable parameters at a
server with the logging capability, with or without an id. -/
theorem log_filtered_over_session [Outlet τ] {server : Server ω}
    {tree : Invocation ω → Context → Interaction ω (Except Failure Json)}
    (hf : server.service.registry.Follows tree) {link : τ} {moves : List (Transition τ)} {l : Loop ω τ}
    (h : (Loop.sessionStart server link).Trace moves l) (hone : ∀ m ∈ moves, m.isEnter = false) :
    (∀ r, l.position = .holding r → ∃ earlier, arrivalsOf moves = earlier ++ [.request r] ∧
      l.LogsFiltered tree (lastSetting server.service server.scene.level earlier) r) ∧
    (l.position.inProgress = [] →
      l.server.scene.level = lastSetting server.service server.scene.level (arrivalsOf moves)) ∧
    (∀ r level, server.service.setting? r = some level ↔ r.method = "logging/setLevel" ∧
      server.service.capabilities.logging.isSome ∧
      readParams LevelSetting.codec r.params = .ok { level }) ∧
    (∀ r id, server.service.setting? { r with id } = server.service.setting? r) := by
  have hinvariant := LevelInvariant.of_trace hf h hone
  refine ⟨fun r hr => ?_, hinvariant.level_eq, fun r level => Dispatcher.setting?_eq_some_iff, fun r id => rfl⟩
  obtain ⟨earlier, harrivals, hlevel⟩ := hinvariant.level
  rw [hr] at harrivals
  have hfollows : l.server.service.registry.Follows tree := hinvariant.service ▸ hf
  refine ⟨earlier, harrivals, ?_, Server.filter_handle hfollows r, rfl, ?_⟩
  · intro e he
    have hsent := l.server.sent_of_logged r e he
    rw [hlevel] at hsent
    rw [hsent, LogCall.passed, LogLevel.passes, LogCall.notification, LogCall.logger, Dispatcher.context]
    simp only [decide_eq_true_eq, Option.or_some]
    rfl
  · rw [← hlevel]
    exact Server.level_handle hfollows r

end Loop

/-- The release server for the in-memory adapter: a notification sets the level to `error`, and a
call of the tool `relicta.publish` fails without a release. -/
theorem log_filtered_over_session_errors :
    let setting : Rpc.Request :=
      { method := "logging/setLevel", params := some (.object [("level", .string "error")]) }
    let call : Rpc.Request :=
      { id := some (.number 1), method := "tools/call"
        params := some (.object [("name", .string "relicta.publish")]) }
    let moves : List (Transition Stream.Pipe) :=
      [.proceed, .read (.request setting), .carryOut, .proceed, .read (.request call)]
    ∃ tree l, Release.memoryServer.service.registry.Follows tree ∧
      (Loop.sessionStart Release.memoryServer {}).Trace moves l ∧ l.LogsFiltered tree .error call ∧
      (l.server.handle call).1.map (·.method) =
        ["notifications/progress", "notifications/progress", "notifications/message"] := by
  intro setting call moves
  obtain ⟨tree, hfollows, -⟩ := Release.exists_follows_memoryServer
  have htrace := Loop.Trace.concat (.concat (.concat (.concat (.concat
    (.nil (Loop.sessionStart Release.memoryServer ({} : Stream.Pipe))) (.proceed rfl rfl))
    (.read rfl (.request setting))) (.carryOut rfl)) (.proceed rfl rfl)) (.read rfl (.request call))
  obtain ⟨hcall, -⟩ := Loop.log_filtered_over_session hfollows htrace (by decide)
  obtain ⟨earlier, harrivals, hfilters⟩ := hcall call rfl
  have hsplit : [Arrival.request setting] ++ [.request call] = earlier ++ [.request call] := harrivals
  obtain rfl := List.append_cancel_right hsplit
  exact ⟨tree, _, hfollows, htrace, hfilters, by decide +kernel⟩

end ReleaseDesk.Service
