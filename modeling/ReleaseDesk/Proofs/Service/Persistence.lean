import ReleaseDesk.Proofs.Service.Stateless
import ReleaseDesk.Proofs.Service.Session

/-! The state that survives a session. For every input and every write failure, a server with
stateless handlers keeps the level filter, at the level last set, and the position of its token
supply; the start of the next session resets everything else. -/

namespace ReleaseDesk.Service

open ReleaseDesk.Protocol

/-! ### The level filter -/

/-- The level that a segment sets. -/
def Arrival.setting? (o : Dispatcher ω) : Arrival → Option LogLevel
  | .request r => o.setting? r
  | _ => none

/-- The level after a list of segments: the one set last, or `level`. -/
def lastSetting (o : Dispatcher ω) (level : LogLevel) (arrivals : List Arrival) : LogLevel :=
  (arrivals.filterMap (Arrival.setting? o)).getLast?.getD level

theorem lastSetting_cons (o : Dispatcher ω) (level : LogLevel) (a : Arrival) (arrivals : List Arrival) :
    lastSetting o level (a :: arrivals) = lastSetting o ((a.setting? o).getD level) arrivals := by
  unfold lastSetting
  cases ha : a.setting? o with
  | none => rw [List.filterMap_cons_none ha, Option.getD_none]
  | some set =>
    rw [List.filterMap_cons_some ha, List.getLast?_cons, Option.getD_some, Option.getD_some]

/-! ### The server -/

namespace Server

/-- The server with its initial state, except for the level filter and the token supply. -/
def rebuilt (s : Server ω) (level : LogLevel) (supply : Supply) : Server ω :=
  { service := s.service, scene := { world := s.scene.world, supply, level } }

/-- `s` has the handlers and the world of `server`, and its filter is at `level`. -/
structure SurvivesSession (server : Server ω) (level : LogLevel) (s : Server ω) : Prop where
  service : s.service = server.service
  world : s.scene.world = server.scene.world
  level : s.scene.level = level
  notStopped : s.stopRequested = false

namespace SurvivesSession

variable {server s : Server ω} {level : LogLevel}

theorem refl (h : server.stopRequested = false) : SurvivesSession server server.scene.level server :=
  ⟨rfl, rfl, rfl, h⟩

theorem entering (h : SurvivesSession server level s) : SurvivesSession server level s.entering :=
  ⟨h.service, h.world, h.level, h.notStopped⟩

theorem leaving (h : SurvivesSession server level s) : SurvivesSession server level s.leaving :=
  ⟨h.service, h.world, h.level, h.notStopped⟩

/-- A segment changes only the level, the supply, the active tokens and the phase of a server with
stateless handlers. -/
theorem after (h : SurvivesSession server level s) (hr : server.service.registry.Stateless) (a : Arrival) :
    SurvivesSession server ((a.setting? server.service).getD level) (s.after a) := by
  cases a with
  | request r =>
    rw [← h.service] at hr
    obtain ⟨hworld, hlevel⟩ :=
      Dispatcher.route_preserves hr r (s.service.context r) { s.scene with sent := [] }
    refine ⟨h.service, ?_, ?_, h.notStopped⟩
    · simp only [Server.after, handle, Action.observed_run, Dispatcher.dispatch_run]
      exact hworld.trans h.world
    · simp only [Server.after, handle, Action.observed_run, Dispatcher.dispatch_run, Arrival.setting?,
        ← h.service, ← h.level]
      exact hlevel
  | refused fault => exact h
  | ended => exact h
  | failed fault => exact h

/-- A session of `s` starts in the same state as a session of the rebuilt server. -/
theorem start_eq (h : SurvivesSession server level s) (link : τ) :
    Session.start s link = Session.start (server.rebuilt level s.scene.supply) link := by
  obtain ⟨service, ⟨world, supply, filter, tracker, sent⟩, phase, running, stopRequested⟩ := s
  obtain ⟨rfl, rfl, rfl, rfl⟩ := h
  rfl

end SurvivesSession

end Server

/-! ### Sessions -/

/-- The state after a session depends on the segments that the session handled: all of them, or
those up to its end. -/
theorem survives_of_run [Outlet τ] {server : Server ω} {level : LogLevel}
    (hr : server.service.registry.Stateless) {s : Session ω τ} (h : server.SurvivesSession level s.server)
    (arrivals : List Arrival) :
    ∃ taken rest, arrivals = taken ++ rest ∧ (rest ≠ [] → (taken.foldl Session.receive s).isOver) ∧
      server.SurvivesSession (lastSetting server.service level taken)
        (arrivals.foldl Session.receive s).server := by
  induction arrivals generalizing s level with
  | nil => exact ⟨[], [], rfl, fun hne => absurd rfl hne, h⟩
  | cons a arrivals ih =>
    cases ho : s.outcome with
    | some outcome =>
      have hover := isOver_of_outcome ho
      refine ⟨[], a :: arrivals, rfl, fun _ => hover, ?_⟩
      rw [foldl_receive_over hover]
      exact h
    | none =>
      have hnext : server.SurvivesSession ((a.setting? server.service).getD level) (s.receive a).server := by
        rcases receive_server ho h.notStopped a with hserver | hserver
        · exact hserver ▸ h.after hr a
        · exact hserver ▸ (h.after hr a).leaving
      obtain ⟨taken, rest, harrivals, hover, hsurvives⟩ := ih hnext
      refine ⟨a :: taken, rest, by rw [harrivals, List.cons_append], hover, ?_⟩
      rwa [lastSetting_cons]

end ReleaseDesk.Service
