import ReleaseDesk.Client.Stream
import ReleaseDesk.Proofs.Stream.Pipe
import ReleaseDesk.Proofs.Stream.Segment

/-! Correlation of requests and responses on an arbitrary stream. Each request reads on from where
the one before it stopped, up to the first line with its response, and returns the notifications on
the lines before it; all other lines are skipped. -/

namespace ReleaseDesk.Client

open ReleaseDesk.Rpc ReleaseDesk.Stream ReleaseDesk.Wire

/-! ### A line -/

def message? (line : List UInt8) : Option Message :=
  match lineText line with
  | .ok s => (Message.codec.ofText s).toOption
  | .error _ => none

/-- The response on a line to the request with an id. -/
def answer? (id : Option RequestId) (line : List UInt8) : Option Response :=
  match message? line with
  | some (.response r) => if r.id = id then some r else none
  | _ => none

/-- The notification on a line. -/
def heard? (line : List UInt8) : Option Notification :=
  match message? line with
  | some (.request r) => if r.id = none then some { method := r.method, params := r.params } else none
  | _ => none

theorem ofText_empty : Message.codec.ofText "" = .error .malformed := rfl

theorem readLine_eq (id : Option RequestId) (line : List UInt8) :
    readLine id line = match message? line with
      | some (.response r) => if r.id = id then .answer r else .other
      | some (.request r) =>
        if r.id = none then .notification { method := r.method, params := r.params } else .other
      | none => .other := by
  unfold readLine message?
  cases lineText line with
  | error fault => rfl
  | ok s =>
    by_cases hs : s = ""
    · subst hs
      simp only [ofText_empty]
      rfl
    · simp only
      cases Message.codec.ofText s with
      | error fault => rfl
      | ok m =>
        cases m with
        | response r => rfl
        | request r => simp [Except.toOption, Request.isNotification]

theorem readLine_answer {id : Option RequestId} {line : List UInt8} {r : Response}
    (h : answer? id line = some r) : readLine id line = .answer r := by
  rw [readLine_eq]
  unfold answer? at h
  split at h
  next r' hm =>
    split_ifs at h with hr
    cases h
    simp [hm, hr]
  next => cases h

theorem readLine_heard {id : Option RequestId} {line : List UInt8} {n : Notification}
    (h : heard? line = some n) : readLine id line = .notification n := by
  rw [readLine_eq]
  unfold heard? at h
  split at h
  next r hm =>
    split_ifs at h with hr
    cases h
    simp [hm, hr]
  next => cases h

theorem readLine_other {id : Option RequestId} {line : List UInt8} (ha : answer? id line = none)
    (hn : heard? line = none) : readLine id line = .other := by
  rw [readLine_eq]
  unfold answer? at ha
  unfold heard? at hn
  cases hm : message? line with
  | none => rfl
  | some m =>
    rw [hm] at ha hn
    cases m with
    | response r =>
      dsimp only at ha ⊢
      split_ifs at ha with hr
      rw [if_neg hr]
    | request r =>
      dsimp only at hn ⊢
      split_ifs at hn with hr
      rw [if_neg hr]

theorem heard?_of_answer {id : Option RequestId} {line : List UInt8} {r : Response}
    (h : answer? id line = some r) : heard? line = none := by
  unfold answer? at h
  unfold heard?
  split at h
  next hm => rw [hm]
  next => cases h

/-! ### A wait -/

/-- A wait for a response: the id, the lines read, the outcome, and the notifications returned with
it. -/
structure Wait where
  id : Option RequestId
  examined : List (List UInt8)
  outcome : Except TransportFault Response
  arrived : List Notification

/-- The specification of a wait that left the lines `rest`: it returned the notifications on its
lines in order, and either the last line is the first with its response, which is the outcome, or
there is no response and the stream is at its end. -/
structure Wait.Settled (w : Wait) (rest : List (List UInt8)) : Prop where
  arrived : w.arrived = w.examined.filterMap heard?
  outcome :
    (∃ passed last r, w.examined = passed ++ [last] ∧ (∀ l ∈ passed, answer? w.id l = none) ∧
      answer? w.id last = some r ∧ w.outcome = .ok r) ∨
    ((∀ l ∈ w.examined, answer? w.id l = none) ∧ rest = [] ∧ w.outcome = .error .disconnected)

def Wait.after (line : List UInt8) (w : Wait) : Wait :=
  { w with examined := line :: w.examined, arrived := (heard? line).toList ++ w.arrived }

theorem Wait.Settled.after {w : Wait} {rest : List (List UInt8)} (h : w.Settled rest)
    {line : List UInt8} (ha : answer? w.id line = none) : (w.after line).Settled rest where
  arrived := by
    simp only [Wait.after, List.filterMap_cons, h.arrived]
    cases heard? line <;> rfl
  outcome := by
    rcases h.outcome with ⟨passed, last, r, he, hp, hl, ho⟩ | ⟨hp, hr, ho⟩
    · refine .inl ⟨line :: passed, last, r, by simp [Wait.after, he], ?_, hl, ho⟩
      exact List.forall_mem_cons.mpr ⟨ha, hp⟩
    · exact .inr ⟨List.forall_mem_cons.mpr ⟨ha, hp⟩, hr, ho⟩

theorem await_of_segments {id : Option RequestId} {input l : List UInt8} {ls : List (List UInt8)}
    (h : segments input = l :: ls) (arrived : List Notification) :
    await id arrived (signals input) = match answer? id l with
      | some r => (.ok r, arrived, signals ls.flatten)
      | none => await id (arrived ++ (heard? l).toList) (signals ls.flatten) := by
  rw [await, line?_of_segments h]
  have hlt : (signals ls.flatten).length < (signals input).length := by
    simpa only [length_signals] using length_flatten_lt h
  cases ha : answer? id l with
  | some r => simp only [readLine_answer ha]
  | none =>
    cases hn : heard? l with
    | some n => simp only [readLine_heard hn, if_pos hlt, Option.toList_some]
    | none => simp only [readLine_other ha hn, if_pos hlt, Option.toList_none, List.append_nil]

/-- Waiting reads an initial part of the lines, according to the specification. -/
theorem await_settled (id : Option RequestId) (arrived : List Notification)
    {input : List UInt8} {ls : List (List UInt8)} (h : segments input = ls) :
    ∃ (w : Wait) (rest : List (List UInt8)), w.id = id ∧ w.examined ++ rest = ls ∧ w.Settled rest ∧
      segments rest.flatten = rest ∧
      await id arrived (signals input) =
        (w.outcome, arrived ++ w.arrived, signals rest.flatten) := by
  induction ls generalizing input arrived with
  | nil =>
    rw [segments_eq_nil_iff] at h
    subst h
    refine ⟨⟨id, [], .error .disconnected, []⟩, [], rfl, rfl, ⟨rfl, .inr ⟨?_, rfl, rfl⟩⟩, rfl, ?_⟩
    · exact List.forall_mem_nil _
    · rw [await, signals_nil, line?_nil]
      simp
  | cons l ls ih =>
    have htail := segments_flatten_tail h
    rw [await_of_segments h]
    cases ha : answer? id l with
    | some r =>
      refine ⟨⟨id, [l], .ok r, []⟩, ls, rfl, rfl, ⟨?_, .inl ⟨[], l, r, rfl, ?_, ha, rfl⟩⟩, htail, ?_⟩
      · simp [heard?_of_answer ha]
      · exact List.forall_mem_nil _
      · simp
    | none =>
      obtain ⟨w, rest, rfl, hls, hw, hrest, hawait⟩ := ih (arrived ++ (heard? l).toList) htail
      refine ⟨w.after l, rest, rfl, ?_, hw.after ha, hrest, ?_⟩
      · rw [← hls]
        rfl
      · rw [hawait]
        simp [Wait.after, List.append_assoc]

/-! ### A sequence of requests -/

namespace Channel

/-- The outcomes of successive requests. -/
def requests :
    List Request → Channel → List (Except TransportFault Response × List Notification) × Channel
  | [], c => ([], c)
  | r :: rs, c =>
    let (outcome, arrived, c) := request r c
    let (outcomes, c) := requests rs c
    ((outcome, arrived) :: outcomes, c)

theorem request_of_clear {pipe : Pipe} (h : pipe.Clear) (incoming : List Signal) (r : Request) :
    request r ⟨pipe, incoming⟩ =
      ((await r.id [] incoming).1, (await r.id [] incoming).2.1,
        ⟨pipe.withLines [Request.codec.render r], (await r.id [] incoming).2.2⟩) := by
  unfold request Channel.write
  rw [h.write]

/-- Successive requests partition the lines of a stream: the waits read consecutive parts, with
`rest` left over, and each meets its specification. -/
structure Shares (rs : List Request) (lines : List (List UInt8))
    (outcomes : List (Except TransportFault Response × List Notification)) (waits : List Wait)
    (rest : List (List UInt8)) : Prop where
  ids : waits.map (·.id) = rs.map (·.id)
  outcomes : outcomes = waits.map fun w => (w.outcome, w.arrived)
  lines : (waits.map (·.examined)).flatten ++ rest = lines
  settled : ∀ before w after, waits = before ++ w :: after →
    w.Settled ((after.map (·.examined)).flatten ++ rest)

theorem Shares.cons {r : Request} {rs : List Request} {left rest : List (List UInt8)}
    {outcomes : List (Except TransportFault Response × List Notification)} {w : Wait}
    {waits : List Wait} (h : Shares rs left outcomes waits rest) (hid : w.id = r.id)
    (hw : w.Settled left) :
    Shares (r :: rs) (w.examined ++ left) ((w.outcome, w.arrived) :: outcomes) (w :: waits) rest where
  ids := by rw [List.map_cons, List.map_cons, hid, h.ids]
  outcomes := by rw [List.map_cons, h.outcomes]
  lines := by rw [List.map_cons, List.flatten_cons, List.append_assoc, h.lines]
  settled before w' after hsplit := by
    cases before with
    | nil =>
      cases hsplit
      rwa [h.lines]
    | cons first before =>
      cases hsplit
      exact h.settled before w' after rfl

/-- Successive requests on a channel that can be written partition the lines of any input, and are
themselves written one on each line. -/
theorem requests_share {pipe : Pipe} (h : pipe.Clear) (input : List UInt8) (rs : List Request) :
    ∃ waits rest, Shares rs (segments input) (requests rs ⟨pipe, signals input⟩).1 waits rest ∧
      (requests rs ⟨pipe, signals input⟩).2 =
        ⟨pipe.withLines (rs.map Request.codec.render), signals rest.flatten⟩ := by
  induction rs generalizing pipe input with
  | nil =>
    refine ⟨[], segments input, ⟨rfl, rfl, rfl, ?_⟩, ?_⟩
    · intro before w after hw
      simp at hw
    · rw [flatten_segments]
      simp [requests]
  | cons r rs ih =>
    obtain ⟨w, left, hid, hexamined, hw, hleft, hawait⟩ :=
      await_settled r.id [] (rfl : segments input = _)
    have hr : request r ⟨pipe, signals input⟩ = (w.outcome, w.arrived,
        ⟨pipe.withLines [Request.codec.render r], signals left.flatten⟩) := by
      rw [request_of_clear h, hawait]
      rfl
    obtain ⟨waits, rest, hshares, hend⟩ :=
      ih (h.withLines [Request.codec.render r]) left.flatten
    rw [hleft] at hshares
    refine ⟨w :: waits, rest, ?_, ?_⟩
    · rw [← hexamined]
      simp only [requests, hr]
      exact hshares.cons hid hw
    · simp only [requests, hr, hend, Pipe.withLines_withLines]
      rfl

/-- A notification, the response to another request, and the response on a line without a line feed.
-/
theorem requests_share_foreign :
    let input := Text.Utf8.encode
      ("\x7b\"jsonrpc\":\"2.0\",\"method\":\"notifications/message\"\x7d\n" ++
        "\x7b\"jsonrpc\":\"2.0\",\"id\":\"1\",\"result\":\x7b\x7d\x7d\n" ++
        "\x7b\"jsonrpc\":\"2.0\",\"id\":1,\"result\":\x7b\x7d\x7d").toList
    let ping : Request := { id := some (.number 1), method := "ping" }
    ({} : Pipe).Clear ∧ ∃ waits rest,
      Shares [ping] (segments input) (requests [ping] ⟨{}, signals input⟩).1 waits rest ∧
        (requests [ping] ⟨{}, signals input⟩).2 =
          ⟨({} : Pipe).withLines [Request.codec.render ping], signals rest.flatten⟩ :=
  ⟨⟨rfl, rfl, rfl⟩, requests_share ⟨rfl, rfl, rfl⟩ _ _⟩

end Channel

end ReleaseDesk.Client
