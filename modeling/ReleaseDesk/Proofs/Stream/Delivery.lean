import Mathlib.Tactic.Common
import ReleaseDesk.Proofs.Stream.Transcript

/-! Sessions over arbitrary pipes, which may be closed or have faults. The turns of a server, that
is what it writes about each message, are determined by the input alone; the pipe determines only
how far the session gets. It ends with the first response that cannot be written, or with its input.
-/

namespace ReleaseDesk.Stream

open ReleaseDesk.Service ReleaseDesk.Rpc

/-- The turn of a server on a segment of its input, and the next server. -/
def serveSegment (s : Server ω) (segment : List UInt8) : Turn × Server ω :=
  match arrivalOfOctets segment with
  | some (.request r) => ({ sent := (s.handle r).1, answer := (s.handle r).2.1 }, (s.handle r).2.2)
  | some (.refused fault) => ({ answer := some fault.reply }, s)
  | some .ended => ({}, s)
  | some (.failed _) => ({}, s)
  | none => ({}, s)

def serveSegments (s : Server ω) : List (List UInt8) → List Turn × Server ω
  | [] => ([], s)
  | segment :: segments =>
    let (turn, s) := serveSegment s segment
    let (turns, s) := serveSegments s segments
    (turn :: turns, s)

/-- Writes a turn. Errors in writing notifications are ignored. -/
def Turn.deliver [Outlet τ] (t : Turn) (link : τ) : Except TransportFault Unit × τ :=
  let link := t.sent.foldl (fun link n => (Outlet.notify n link).2) link
  match t.answer with
  | none => (.ok (), link)
  | some r => Outlet.respond r link

theorem arrivalOfOctets_cases (segment : List UInt8) :
    arrivalOfOctets segment = none ∨ (∃ r, arrivalOfOctets segment = some (.request r)) ∨
      ∃ fault, arrivalOfOctets segment = some (.refused fault) := by
  unfold arrivalOfOctets
  split
  · exact .inr (.inr ⟨_, rfl⟩)
  · exact .inl rfl
  · split
    · exact .inr (.inl ⟨_, rfl⟩)
    · exact .inr (.inr ⟨_, rfl⟩)

/-! ### One segment -/

theorem serveSegment_service (s : Server ω) (segment : List UInt8) :
    (serveSegment s segment).2.service = s.service := by
  unfold serveSegment
  split <;> rfl

theorem serveSegment_stopRequested (s : Server ω) (segment : List UInt8) :
    (serveSegment s segment).2.stopRequested = s.stopRequested := by
  unfold serveSegment
  split <;> rfl

theorem serveSegments_service (s : Server ω) (segments : List (List UInt8)) :
    (serveSegments s segments).2.service = s.service := by
  induction segments generalizing s with
  | nil => rfl
  | cons segment segments ih => exact (ih _).trans (serveSegment_service s segment)

theorem serveSegments_append (s : Server ω) (before after : List (List UInt8)) :
    serveSegments s (before ++ after) =
      ((serveSegments s before).1 ++ (serveSegments (serveSegments s before).2 after).1,
        (serveSegments (serveSegments s before).2 after).2) := by
  induction before generalizing s with
  | nil => rfl
  | cons first before ih => simp only [List.cons_append, serveSegments, ih]

theorem serveSegments_concat (s : Server ω) (segments : List (List UInt8)) (segment : List UInt8) :
    serveSegments s (segments ++ [segment]) =
      ((serveSegments s segments).1 ++ [(serveSegment (serveSegments s segments).2 segment).1],
        (serveSegment (serveSegments s segments).2 segment).2) :=
  serveSegments_append s segments [segment]

theorem receiveSegment_of_inProgress {s : Session ω Pipe} (h : InProgress s) (segment : List UInt8) :
    receiveSegment s segment = advance s (serveSegment s.server segment).2
    (serveSegment s.server segment).1 := by
  rcases arrivalOfOctets_cases segment with hnone | ⟨r, hr⟩ | ⟨fault, hf⟩
  · simp [receiveSegment, serveSegment, hnone, advance, Turn.lines]
  · simp only [receiveSegment, serveSegment, hr]
    exact h.request r
  · simp only [receiveSegment, serveSegment, hf]
    exact h.refused fault

/-- A session after a turn: it continues unless the response could not be written. -/
def afterTurn (s : Session ω Pipe) (attended : Turn × Server ω) : Session ω Pipe :=
  match attended.1.deliver s.link with
  | (.ok (), link) => { server := attended.2, link }
  | (.error fault, link) =>
    { server := attended.2.leaving, link, outcome := some (.error (.transport fault)) }

theorem answer_eq {s : Session ω Pipe} (ho : s.outcome = none) (hw : s.server.stopRequested = false)
    (r : Response) : s.answer r = afterTurn s ({ answer := some r }, s.server) := by
  obtain ⟨server, link, outcome⟩ := s
  subst ho
  have hdeliver : ({ answer := some r } : Turn).deliver link = Outlet.respond r link := rfl
  rw [Session.answer, afterTurn, hdeliver]
  generalize Outlet.respond r link = result
  obtain ⟨outcome, link⟩ := result
  cases outcome with
  | ok _ => exact turn_of_notStopped hw
  | error fault => rfl

theorem receiveSegment_eq {s : Session ω Pipe} (ho : s.outcome = none)
    (hw : s.server.stopRequested = false) (segment : List UInt8) :
    receiveSegment s segment = afterTurn s (serveSegment s.server segment) := by
  obtain ⟨server, link, outcome⟩ := s
  subst ho
  rcases arrivalOfOctets_cases segment with h | ⟨r, h⟩ | ⟨fault, h⟩
  · simp only [receiveSegment, serveSegment, h]
    rfl
  · simp only [receiveSegment, serveSegment, h, Session.receive]
    generalize hhandle : server.handle r = result
    obtain ⟨sent, answer, server'⟩ := result
    have hw' : server'.stopRequested = false := by
      have hserver : (server.handle r).2.2.stopRequested = server.stopRequested := rfl
      rw [hhandle] at hserver
      exact hserver.trans hw
    cases answer with
    | none => exact turn_of_notStopped hw'
    | some r => exact answer_eq rfl hw' r
  · simp only [receiveSegment, serveSegment, h]
    exact answer_eq rfl hw fault.reply

/-! ### The whole session -/

theorem foldl_receiveSegment {s : Session ω Pipe} (ho : s.outcome = none)
    (hw : s.server.stopRequested = false) (input : List (List UInt8)) :
    ∃ taken left, input = taken ++ left ∧
      ((writeAll Turn.deliver (serveSegments s.server taken).1 s.link).1 = .ok () → left = []) ∧
      (input.foldl receiveSegment s).receive .ended =
        { server := (serveSegments s.server taken).2.leaving
          link := (writeAll Turn.deliver (serveSegments s.server taken).1 s.link).2
          outcome := some
            ((writeAll Turn.deliver (serveSegments s.server taken).1 s.link).1.mapError .transport) } := by
  induction input generalizing s with
  | nil =>
    refine ⟨[], [], rfl, fun _ => rfl, ?_⟩
    simp only [List.foldl_nil, Session.receive, ho]
    rfl
  | cons segment rest ih =>
    rw [List.foldl_cons, receiveSegment_eq ho hw]
    obtain ⟨outcome, link, hdeliver⟩ : ∃ outcome link,
        (serveSegment s.server segment).1.deliver s.link = (outcome, link) := ⟨_, _, rfl⟩
    cases outcome with
    | ok _ =>
      have hafter : afterTurn s (serveSegment s.server segment) =
          { server := (serveSegment s.server segment).2, link } := by
        simp only [afterTurn, hdeliver]
      rw [hafter]
      obtain ⟨taken, left, hinput, hall, hrun⟩ := ih (s := { server := _, link }) rfl
        ((serveSegment_stopRequested s.server segment).trans hw)
      refine ⟨segment :: taken, left, by rw [hinput, List.cons_append], ?_, ?_⟩
      · simpa only [serveSegments, writeAll, hdeliver] using hall
      · simpa only [serveSegments, writeAll, hdeliver] using hrun
    | error fault =>
      have hafter : afterTurn s (serveSegment s.server segment) =
          { server := (serveSegment s.server segment).2.leaving, link
            outcome := some (.error (.transport fault)) } := by
        simp only [afterTurn, hdeliver]
      have hover : (afterTurn s (serveSegment s.server segment)).isOver := by
        rw [hafter]
        rfl
      rw [foldl_receiveSegment_over hover, receive_over hover, hafter]
      refine ⟨[segment], rest, rfl, ?_, ?_⟩
      · intro hok
        simp only [serveSegments, writeAll, hdeliver] at hok
        cases hok
      · simp only [serveSegments, writeAll, hdeliver]
        rfl

/-- Without a stop request, a session over any pipe delivers the turns on an initial part of the
segments of its input: on all of them, unless a response cannot be written. -/
theorem runSession_eq (server : Server ω) (pipe : Pipe) (input : List UInt8)
    (hw : server.stopRequested = false) :
    ∃ taken left, segments input = taken ++ left ∧
      ((writeAll Turn.deliver (serveSegments server.entering taken).1 pipe).1 = .ok () → left = []) ∧
      runSession server pipe input =
        { server := (serveSegments server.entering taken).2.leaving
          link := (writeAll Turn.deliver (serveSegments server.entering taken).1 pipe).2
          outcome := some
            ((writeAll Turn.deliver (serveSegments server.entering taken).1 pipe).1.mapError .transport) } := by
  have hstart : Session.start server pipe = { server := server.entering, link := pipe } :=
    turn_of_notStopped hw
  rw [runSession, drain_eq_foldl, hstart]
  exact foldl_receiveSegment (s := { server := server.entering, link := pipe }) rfl hw (segments input)

/-! ### The output of the session -/

theorem Turn.deliver_of_takes (t : Turn) {p : Pipe} (h : p.takes = true) :
    t.deliver p = (.ok (), p.after t.lines) := by
  obtain ⟨sent, answer⟩ := t
  simp only [deliver, Pipe.notifyAll_of_takes sent h]
  cases answer with
  | none => simp [lines]
  | some r =>
    have htakes : (p.after (sent.map Notification.codec.render)).takes = true := by simpa using h
    have hrespond : Outlet.respond r (p.after (sent.map Notification.codec.render)) = _ :=
      Pipe.writeLine_of_takes htakes (Response.codec.render r)
    dsimp only
    rw [hrespond, Pipe.after_after]
    rfl

theorem Turn.deliver_of_stalled (t : Turn) {p q : Pipe} (h : p.Stalled q) :
    p.Stalled (t.deliver q).2 := by
  obtain ⟨sent, answer⟩ := t
  have hsent : p.Stalled (sent.foldl (fun link n => (Outlet.notify n link).2) q) := by
    induction sent generalizing q with
    | nil => exact h
    | cons n sent ih =>
      obtain ⟨fault, q', hwrite, h'⟩ := h.writeLine (Notification.codec.render n)
      have hnotify : (Outlet.notify n q).2 = q' := congrArg Prod.snd hwrite
      rw [List.foldl_cons, hnotify]
      exact ih h'
  unfold deliver
  dsimp only
  generalize sent.foldl (fun link n => (Outlet.notify n link).2) q = q₁ at hsent
  cases answer with
  | none => exact hsent
  | some r =>
    obtain ⟨fault, q', hwrite, h'⟩ := hsent.writeLine (Response.codec.render r)
    have hrespond : (Outlet.respond r q₁).2 = q' := congrArg Prod.snd hwrite
    dsimp only
    rwa [hrespond]

theorem writeAll_of_takes (turns : List Turn) {p : Pipe} (h : p.takes = true) :
    writeAll Turn.deliver turns p = (.ok (), p.after (turns.flatMap Turn.lines)) := by
  induction turns generalizing p with
  | nil => rfl
  | cons t turns ih =>
    simp only [writeAll, t.deliver_of_takes h]
    rw [ih (by simpa using h), Pipe.after_after, List.flatMap_cons]

theorem writeAll_of_stalled (turns : List Turn) {p q : Pipe} (h : p.Stalled q) :
    p.Stalled (writeAll Turn.deliver turns q).2 := by
  induction turns generalizing q with
  | nil => exact h
  | cons t turns ih =>
    have ht := t.deliver_of_stalled h
    rw [writeAll]
    generalize t.deliver q = delivered at ht
    obtain ⟨outcome, q'⟩ := delivered
    cases outcome with
    | ok _ => exact ih ht
    | error fault => exact ht

theorem runSession_of_takes {server : Server ω} (hw : server.stopRequested = false) {pipe : Pipe}
    (h : pipe.takes = true) (input : List UInt8) :
    runSession server pipe input =
      { server := (serveSegments server.entering (segments input)).2.leaving
        link := pipe.after ((serveSegments server.entering (segments input)).1.flatMap Turn.lines)
        outcome := some (.ok ()) } := by
  obtain ⟨taken, left, hinput, hall, hrun⟩ := runSession_eq server pipe input hw
  rw [writeAll_of_takes _ h] at hall hrun
  rw [hall rfl, List.append_nil] at hinput
  rw [hrun, hinput]
  rfl

/-- Without a stop request, the output of a session consists of the lines of all turns, or of
nothing if the pipe cannot be written. -/
theorem runSession_written {server : Server ω} (hw : server.stopRequested = false) (pipe : Pipe)
    (input : List UInt8) :
    (runSession server pipe input).link.written =
      if pipe.takes then
        (pipe.after ((serveSegments server.entering (segments input)).1.flatMap Turn.lines)).written
      else pipe.written := by
  split_ifs with htakes
  · rw [runSession_of_takes hw htakes]
  · obtain ⟨taken, left, -, -, hrun⟩ := runSession_eq server pipe input hw
    rw [hrun]
    exact (writeAll_of_stalled _ ⟨by simpa using htakes, rfl⟩).written

end ReleaseDesk.Stream
