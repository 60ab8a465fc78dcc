import ReleaseDesk.Service.Session

/-! Sessions over arbitrary transports. A segment has the same effect on the server whether or not
its response can be written, except that a failure ends the session; after the end, segments have no
effect. -/

namespace ReleaseDesk.Service

/-- The server after a segment, up to the end of the session. -/
def Server.after (s : Server ω) : Arrival → Server ω
  | .request r => (s.handle r).2.2
  | _ => s

variable {s : Session ω τ}

theorem turn_of_notStopped (h : s.server.stopRequested = false) : s.turn = s := by
  simp [Session.turn, h]

theorem isOver_of_outcome {outcome} (h : s.outcome = some outcome) : s.isOver := by
  simp [Session.isOver, h]

variable [Outlet τ]

theorem receive_over (h : s.isOver) (a : Arrival) : s.receive a = s := by
  unfold Session.receive
  cases ho : s.outcome with
  | none => simp [Session.isOver, ho] at h
  | some outcome => rfl

theorem foldl_receive_over (h : s.isOver) (arrivals : List Arrival) :
    arrivals.foldl Session.receive s = s := by
  induction arrivals with
  | nil => rfl
  | cons a arrivals ih => rw [List.foldl_cons, receive_over h, ih]

theorem answer_server (hw : s.server.stopRequested = false) (r : Rpc.Response) :
    (s.answer r).server = s.server ∨ (s.answer r).server = s.server.leaving := by
  unfold Session.answer
  generalize Outlet.respond r s.link = written
  obtain ⟨outcome, link⟩ := written
  cases outcome with
  | error fault => exact .inr rfl
  | ok _ =>
    refine .inl ?_
    dsimp only
    rw [turn_of_notStopped (s := { s with link }) hw]

/-- During a session without a stop request, the effect of a segment on the server does not depend
on the transport. -/
theorem receive_server (ho : s.outcome = none) (hw : s.server.stopRequested = false) (a : Arrival) :
    (s.receive a).server = s.server.after a ∨ (s.receive a).server = (s.server.after a).leaving := by
  obtain ⟨server, link, outcome⟩ := s
  subst ho
  cases a with
  | request r =>
    have hwilling : (server.handle r).2.2.stopRequested = false := hw
    simp only [Session.receive, Server.after]
    generalize server.handle r = handled at hwilling
    obtain ⟨sent, answer, server'⟩ := handled
    cases answer with
    | none =>
      refine .inl ?_
      dsimp only
      rw [turn_of_notStopped hwilling]
      rfl
    | some response => exact answer_server hwilling response
  | refused fault => exact answer_server hw fault.reply
  | ended => exact .inr rfl
  | failed fault => cases fault <;> exact .inr rfl

end ReleaseDesk.Service
