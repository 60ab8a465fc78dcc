import Mathlib.Tactic.Common
import ReleaseDesk.Proofs.Service.Answer
import ReleaseDesk.Proofs.Stream.Pipe
import ReleaseDesk.Proofs.Stream.Segment
import ReleaseDesk.Proofs.Text.Utf8

/-! Transcripts of sessions. `Serves` specifies the turn of a server on one segment of its input by
cases, and `ServesAll` the turns on all of them. A session on a clear pipe, without a stop request,
processes its whole input, ends without an error, and writes exactly the lines of its transcript. -/

namespace ReleaseDesk.Stream

open ReleaseDesk.Service ReleaseDesk.Rpc ReleaseDesk.Text

/-! ### Segments -/

theorem lineText_encode (cs : List Char) :
    lineText (Utf8.encode cs) = .ok (String.ofList (trim cs)) := by
  simp [lineText, Utf8.decode_encode, Except.map]

theorem lineText_of_noText {bytes : List UInt8} (h : ∀ cs, Utf8.encode cs ≠ bytes) :
    ∃ fault, lineText bytes = .error fault := by
  obtain ⟨fault, hf⟩ := Utf8.decode_eq_error_iff.2 h
  exact ⟨fault, by simp [lineText, hf, Except.map]⟩

theorem arrivalOfOctets_of_noText {bytes : List UInt8} (h : ∀ cs, Utf8.encode cs ≠ bytes) :
    arrivalOfOctets bytes = some (.refused .parse) := by
  obtain ⟨fault, hf⟩ := lineText_of_noText h
  simp [arrivalOfOctets, hf]

theorem arrivalOfOctets_blank {cs : List Char} (h : trim cs = []) :
    arrivalOfOctets (Utf8.encode cs) = none := by
  simp [arrivalOfOctets, lineText_encode, h]

theorem arrivalOfOctets_text {cs : List Char} (h : trim cs ≠ []) :
    arrivalOfOctets (Utf8.encode cs) = some (match Request.parse (String.ofList (trim cs)) with
      | .ok r => .request r
      | .error refusal => .refused refusal.fault) := by
  have hne : String.ofList (trim cs) ≠ "" := by simpa using h
  simp only [arrivalOfOctets, lineText_encode]
  generalize String.ofList (trim cs) = s at hne
  cases hp : Request.parse s <;> (split <;> simp_all)

/-! ### Turns -/

/-- The output on one segment: the notifications, and then the response, if any. -/
structure Turn where
  sent : List Notification := []
  answer : Option Response := none

def Turn.lines (t : Turn) : List String :=
  t.sent.map Notification.codec.render ++ t.answer.toList.map Response.codec.render

/-- The specification of a turn: an error under the null id for a segment that is not a text, not
JSON or not a request, nothing for a blank line, exactly one response under its own id to a request
with an id, and none to a request without. -/
inductive Serves (s : Server ω) : List UInt8 → Turn → Server ω → Prop
  | noText {segment} (h : ∀ cs, Utf8.encode cs ≠ segment) :
    Serves s segment { answer := some (.failure none { code := -32700, message := "Parse error" }) } s
  | blank {cs} (h : trim cs = []) : Serves s (Utf8.encode cs) {} s
  | noJson {cs} (h : trim cs ≠ []) (hj : Json.parse? (String.ofList (trim cs)) = none) :
    Serves s (Utf8.encode cs)
      { answer := some (.failure none { code := -32700, message := "Parse error" }) } s
  | noRequest {cs v refusal detail} (h : trim cs ≠ [])
      (hj : Json.parse? (String.ofList (trim cs)) = some v)
      (hr : Request.ofJson v = .error refusal) (hd : refusal.fault = .invalidRequest detail) :
    Serves s (Utf8.encode cs)
      { answer := some (.failure none
          { code := -32600, message := "Invalid request: " ++ detail }) } s
  | request {cs r id sent response scene} (h : trim cs ≠ [])
      (hp : Request.parse (String.ofList (trim cs)) = .ok r) (hid : r.id = some id)
      (hd : (Action.observed (s.service.dispatch r)).run s.scene = ((some response, sent), scene))
      (hr : response.id = some id) :
    Serves s (Utf8.encode cs) { sent, answer := some response }
      { s with phase := s.phase.after r.method, scene }
  | notification {cs r sent scene} (h : trim cs ≠ [])
      (hp : Request.parse (String.ofList (trim cs)) = .ok r) (hid : r.id = none)
      (hd : (Action.observed (s.service.dispatch r)).run s.scene = ((none, sent), scene)) :
    Serves s (Utf8.encode cs) { sent } { s with phase := s.phase.after r.method, scene }

/-- The turns on successive segments. -/
inductive ServesAll : Server ω → List (List UInt8) → List Turn → Server ω → Prop
  | nil (s : Server ω) : ServesAll s [] [] s
  | cons {s s' s'' : Server ω} {segment segments turn turns} (h : Serves s segment turn s')
      (hs : ServesAll s' segments turns s'') : ServesAll s (segment :: segments) (turn :: turns) s''

/-! ### The transcript of a session -/

/-- A session in progress on a clear pipe, without a stop request. -/
structure InProgress (s : Session ω Pipe) : Prop where
  isOpen : s.outcome = none
  notStopped : s.server.stopRequested = false
  isClear : s.link.Clear

def advance (s : Session ω Pipe) (server : Server ω) (turn : Turn) : Session ω Pipe :=
  { s with server, link := s.link.withLines turn.lines }

theorem InProgress.next {s : Session ω Pipe} (h : InProgress s) {server : Server ω}
    (hw : server.stopRequested = false) (turn : Turn) : InProgress (advance s server turn) :=
  ⟨h.isOpen, hw, h.isClear.withLines _⟩

theorem InProgress.answer {s : Session ω Pipe} (h : InProgress s) (r : Response) :
    s.answer r = { s with link := s.link.withLines [Response.codec.render r] } := by
  have hr : Outlet.respond r s.link = (.ok (), s.link.withLines [Response.codec.render r]) :=
    h.isClear.write _ r
  simp only [Session.answer, hr]
  exact turn_of_notStopped h.notStopped

theorem InProgress.refused {s : Session ω Pipe} (h : InProgress s) (fault : Fault) :
    s.receive (.refused fault) = advance s s.server { answer := some fault.reply } := by
  simp only [Session.receive, h.isOpen]
  exact h.answer _

theorem InProgress.request {s : Session ω Pipe} (h : InProgress s) (r : Request) :
    s.receive (.request r) = advance s (s.server.handle r).2.2
      { sent := (s.server.handle r).1, answer := (s.server.handle r).2.1 } := by
  have hw : (s.server.handle r).2.2.stopRequested = false := h.notStopped
  have hsent := h.next hw { sent := (s.server.handle r).1 }
  have hnotify : ({ server := (s.server.handle r).2.2, link := s.link } : Session ω Pipe).notifyAll
      (s.server.handle r).1 =
      advance s (s.server.handle r).2.2 { sent := (s.server.handle r).1 } := by
    simp only [Session.notifyAll, h.isClear.notifyAll, advance, h.isOpen, Turn.lines,
      Option.toList_none, List.map_nil, List.append_nil]
  cases ha : (s.server.handle r).2.1 with
  | none =>
    simp only [Session.receive, h.isOpen, ha, hnotify]
    exact turn_of_notStopped hsent.notStopped
  | some response =>
    simp only [Session.receive, h.isOpen, ha, hnotify]
    refine (hsent.answer response).trans ?_
    simp [advance, Turn.lines]

theorem serves_request (s : Server ω) {cs : List Char} {r : Request} (h : trim cs ≠ [])
    (hp : Request.parse (String.ofList (trim cs)) = .ok r) :
    Serves s (Utf8.encode cs) { sent := (s.handle r).1, answer := (s.handle r).2.1 }
      (s.handle r).2.2 := by
  have hd : (Action.observed (s.service.dispatch r)).run s.scene =
      (((s.handle r).2.1, (s.handle r).1), (s.handle r).2.2.scene) := rfl
  have ha := s.handle_answer r
  cases hid : r.id with
  | none =>
    rw [hid, Option.map_none] at ha
    rw [ha] at hd ⊢
    exact .notification h hp hid hd
  | some id =>
    rw [hid, Option.map_some] at ha
    rw [ha] at hd ⊢
    exact .request h hp hid hd (answerOf_id _ _)

theorem serves_refused (s : Server ω) {cs : List Char} {refusal : Refusal} (h : trim cs ≠ [])
    (hp : Request.parse (String.ofList (trim cs)) = .error refusal) :
    Serves s (Utf8.encode cs) { answer := some refusal.fault.reply } s := by
  unfold Request.parse at hp
  split at hp
  next hj =>
    cases hp
    exact .noJson h hj
  next v hj =>
    obtain ⟨detail, hd⟩ := Request.ofJson_fault hp
    have := Serves.noRequest (s := s) h hj hp hd
    rwa [hd]

/-- One step of a session, according to the specification. -/
theorem InProgress.exists_turn {s : Session ω Pipe} (h : InProgress s) (segment : List UInt8) :
    ∃ turn server, Serves s.server segment turn server ∧ server.stopRequested = false ∧
      receiveSegment s segment = advance s server turn := by
  by_cases ht : ∃ cs, Utf8.encode cs = segment
  · obtain ⟨cs, rfl⟩ := ht
    by_cases hb : trim cs = []
    · refine ⟨{}, s.server, .blank hb, h.notStopped, ?_⟩
      simp [receiveSegment, arrivalOfOctets_blank hb, advance, Turn.lines]
    · unfold receiveSegment
      rw [arrivalOfOctets_text hb]
      cases hp : Request.parse (String.ofList (trim cs)) with
      | ok r => exact ⟨_, _, serves_request s.server hb hp, h.notStopped, h.request r⟩
      | error refusal => exact ⟨_, _, serves_refused s.server hb hp, h.notStopped, h.refused _⟩
  · have ht' : ∀ cs, Utf8.encode cs ≠ segment := fun cs hc => ht ⟨cs, hc⟩
    refine ⟨_, s.server, .noText ht', h.notStopped, ?_⟩
    simp only [receiveSegment, arrivalOfOctets_of_noText ht']
    exact h.refused .parse

/-- A whole run, by induction on the segments. -/
theorem InProgress.exists_turns {s : Session ω Pipe} (h : InProgress s) (input : List (List UInt8)) :
    ∃ turns server, ServesAll s.server input turns server ∧
      input.foldl receiveSegment s =
        { s with server, link := s.link.withLines (turns.flatMap Turn.lines) } := by
  induction input generalizing s with
  | nil => exact ⟨[], s.server, .nil _, by simp⟩
  | cons segment rest ih =>
    obtain ⟨turn, server, hs, hw, ht⟩ := h.exists_turn segment
    obtain ⟨turns, final, hall, hf⟩ := ih (h.next hw turn)
    refine ⟨turn :: turns, final, .cons hs hall, ?_⟩
    rw [List.foldl_cons, ht, hf]
    simp [advance]

/-- A session on a clear pipe, without a stop request, processes its whole input, ends without an
error, and writes exactly the lines of a transcript of the segments. -/
theorem session_transcript (server : Server ω) (pipe : Pipe) (input : List UInt8)
    (hwilling : server.stopRequested = false) (hclear : pipe.Clear) :
    ∃ turns final, ServesAll server.entering (segments input) turns final ∧
      drain true (.start server pipe) (signals input) =
        ({ server := final.leaving, link := pipe.withLines (turns.flatMap Turn.lines)
           outcome := some (.ok ()) }, []) := by
  have hstart : Session.start server pipe = { server := server.entering, link := pipe } :=
    turn_of_notStopped hwilling
  have hs : InProgress (Session.start server pipe) := hstart ▸ ⟨rfl, hwilling, hclear⟩
  obtain ⟨turns, final, hall, hf⟩ := hs.exists_turns (segments input)
  rw [hstart] at hall hf
  refine ⟨turns, final, hall, Prod.ext ?_ ?_⟩
  · rw [drain_eq_foldl, hstart, hf]
    rfl
  · exact drain_leaves_nothing (by rw [hstart, hf])

/-- A ping, a blank line, an octet that is not a text, and a notification without a line feed. -/
theorem session_transcript_mixed :
    let server : Server Unit :=
      { service := { info := ⟨"desk", "1"⟩ }, scene := { world := (), supply := ⟨.epoch, 0⟩ } }
    let input := Utf8.encode "\x7b\"jsonrpc\":\"2.0\",\"id\":null,\"method\":\"ping\"\x7d\n \n".toList ++
      [0xFF, 0x0A] ++ Utf8.encode "\x7b\"jsonrpc\":\"2.0\",\"method\":\"initialized\"\x7d".toList
    server.stopRequested = false ∧ ({} : Pipe).Clear ∧
      ∃ turns final, ServesAll server.entering (segments input) turns final ∧
        drain true (.start server {}) (signals input) =
          ({ server := final.leaving, link := ({} : Pipe).withLines (turns.flatMap Turn.lines)
             outcome := some (.ok ()) }, []) :=
  ⟨rfl, ⟨rfl, rfl, rfl⟩, session_transcript _ _ _ rfl ⟨rfl, rfl, rfl⟩⟩

end ReleaseDesk.Stream
