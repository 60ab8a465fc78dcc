import ReleaseDesk.Client
import ReleaseDesk.Proofs.Client.Remote

/-! Null in responses. A response is written with its id and its result even if they are null, but a
null id is decoded as an absent id, and a null result as an absent result. So a response is returned
to the client unchanged if and only if neither is null. With a null id it is skipped by the client,
and with a null result it is an error. -/

namespace ReleaseDesk.Client

open ReleaseDesk.Json ReleaseDesk.Rpc ReleaseDesk.Service ReleaseDesk.Stream ReleaseDesk.Text

def answerText (id : RequestId) (v : Json) : String :=
  (Outlet.respond (.success (some id) v) ({} : Pipe)).2.written

theorem answerText_eq (id : RequestId) (v : Json) :
    answerText id v = unlines [Response.codec.render (.success (some id) v)] := by
  have hclear : ({} : Pipe).Clear := ⟨rfl, rfl, rfl⟩
  have hwrite : Outlet.respond (.success (some id) v) ({} : Pipe) =
      (.ok (), Pipe.withLines {} [Response.codec.render (.success (some id) v)]) :=
    hclear.write Response.codec _
  rw [answerText, hwrite]
  simp [Pipe.withLines]

section

variable {id : RequestId} {v : Json}

theorem success_inRange (hid : id.InRange) : (Response.success (some id) v).InRange where
  id i hi := by
    obtain rfl : id = i := by simpa [Response.success] using hi
    exact hid
  code e he := by simp [Response.success] at he

theorem success_arrived (id : RequestId) (v : Json) :
    (Response.success (some id) v).arrived =
      { id := if id = .null then none else some id, result := arrivedValue (some v) } := by
  by_cases hid : id = .null
  · simp [Response.success, Response.arrived, hid]
  · simp [Response.success, Response.arrived, hid]

theorem message?_success (hid : id.InRange) (hd : v.depth ≤ 126) (hl : v.Legible) :
    message? (lineOctets (Response.codec.render (.success (some id) v))) =
      some (.response (Response.success (some id) v).arrived) :=
  message?_response (success_inRange hid) (Response.fits_success hid hd hl)

theorem heard?_success (hid : id.InRange) (hd : v.depth ≤ 126) (hl : v.Legible) :
    heard? (lineOctets (Response.codec.render (.success (some id) v))) = none := by
  rw [heard?, message?_success hid hd hl]

theorem answer?_success (hid : id.InRange) (hd : v.depth ≤ 126) (hl : v.Legible) :
    answer? (some id) (lineOctets (Response.codec.render (.success (some id) v))) =
      if id = .null then none else some { id := some id, result := arrivedValue (some v) } := by
  rw [answer?, message?_success hid hd hl, success_arrived]
  by_cases hnull : id = .null
  · simp [hnull]
  · simp [hnull]

theorem segments_answer (id : RequestId) (v : Json) (later : List UInt8) :
    segments (lineOctets (Response.codec.render (.success (some id) v)) ++ later) =
      lineOctets (Response.codec.render (.success (some id) v)) :: segments later := by
  have hfeed : lineFeed ∉ Utf8.encode (Response.codec.render (.success (some id) v)).toList :=
    fun hmem => lineFeed_notMem_render _ (Utf8.lineFeed_mem_encode.mp hmem)
  have hline : lineOctets (Response.codec.render (.success (some id) v)) =
      Utf8.encode (Response.codec.render (.success (some id) v)).toList ++ [lineFeed] := by
    rw [lineOctets, Utf8.encode_append]
    rfl
  rw [hline, List.append_assoc]
  exact segments_append_lineFeed hfeed later

/-- Waiting under the id of a response returns it, unless the id is null, in which case it is
skipped. -/
theorem await_answer (hid : id.InRange) (hd : v.depth ≤ 126) (hl : v.Legible) (later : List UInt8) :
    await (some id) [] (Wired.textSignals (answerText id v) ++ signals later) =
      if id = .null then await (some id) [] (signals later)
      else (.ok { id := some id, result := arrivedValue (some v) }, [], signals later) := by
  have hsignals : Wired.textSignals (answerText id v) ++ signals later =
      signals (lineOctets (Response.codec.render (.success (some id) v)) ++ later) := by
    rw [answerText_eq, Wired.textSignals_line]
    simp [signals]
  rw [hsignals, await_of_segments (segments_answer id v later), answer?_success hid hd hl,
    heard?_success hid hd hl, flatten_segments]
  by_cases hnull : id = .null
  · simp [hnull]
  · simp [hnull]

end

theorem arrivedValue_eq_some_iff {v w : Json} :
    arrivedValue (some v) = some w ↔ v ≠ .null ∧ v.normal = w := by
  by_cases hv : v = .null
  · subst hv
    simp [arrivedValue]
  · simp [arrivedValue_some hv, hv]

def resultIn : Option Json → Except Fault Json
  | some w => .ok w
  | none => .error (.unexpected "response has no result")

theorem resultOf_arrived (id : RequestId) (v : Json) :
    Talk.resultOf id { id := some id, result := arrivedValue (some v) } =
      resultIn (arrivedValue (some v)) := by
  cases h : arrivedValue (some v) with
  | none => simp [Talk.resultOf, resultIn]
  | some w => simp [Talk.resultOf, resultIn]

section

variable {id : RequestId} {v : Json} {pipe : Pipe}

/-- A request under the id of a response returns it, unless the id is null: then the line of the
response has no effect. -/
theorem Channel.request_answer (hid : id.InRange) (hd : v.depth ≤ 126) (hl : v.Legible)
    (hp : pipe.Clear) {r : Request} (hr : r.id = some id) (later : List UInt8) :
    Channel.request r ⟨pipe, Wired.textSignals (answerText id v) ++ signals later⟩ =
      if id = .null then Channel.request r ⟨pipe, signals later⟩
      else (.ok { id := some id, result := arrivedValue (some v) }, [],
        ⟨pipe.withLines [Request.codec.render r], signals later⟩) := by
  rw [Channel.request_of_clear hp, Channel.request_of_clear hp, hr, await_answer hid hd hl]
  by_cases hnull : id = .null
  · simp [hnull]
  · simp [hnull]

theorem Talk.run_call_rehearsal {c : Caller Rehearsal κ} (hopen : c.closed = false)
    (hid : id = .number c.nextId)
    (hreplies : c.link.replies.head? = some { answer := .ok (.success (some id) v) }) (method : String)
    (params : Option Json) : ((Talk.call .json method params).run.run c).1 = .ok v.normal := by
  obtain ⟨replies, hlink⟩ := List.head?_eq_some_iff.mp hreplies
  have hexchange : Link.request { id := some (.number c.nextId), method, params } c.link =
      (.ok (.success (some id) v), [], { replies, record := c.link.record ++
        [{ id := some (.number c.nextId), method, params }] }) := by
    show Rehearsal.request _ _ = _
    simp only [Rehearsal.request, hlink]
  have hresult : Talk.resultOf (.number c.nextId) (.success (some id) v) = .ok v := by
    simp [Talk.resultOf, Response.success, hid]
  rw [Talk.run_call_response hopen hexchange, hresult]
  rfl

theorem Talk.run_call_answer (hid : id.InRange) (hd : v.depth ≤ 126) (hl : v.Legible)
    (hp : pipe.Clear) {c : Caller Channel κ} (hopen : c.closed = false) (hnumber : id = .number c.nextId)
    (hlink : c.link = ⟨pipe, Wired.textSignals (answerText id v)⟩) (method : String)
    (params : Option Json) :
    ((Talk.call .json method params).run.run c).1 = resultIn (arrivedValue (some v)) := by
  have hne : id ≠ .null := by
    rw [hnumber]
    exact RequestId.noConfusion
  have hexchange := Channel.request_answer hid hd hl hp
    (r := { id := some (.number c.nextId), method, params }) (by rw [hnumber]) []
  rw [signals_nil, List.append_nil, if_neg hne, ← hlink] at hexchange
  have hresult := resultOf_arrived id v
  rw [hnumber] at hresult hexchange
  rw [Talk.run_call_response hopen hexchange, hresult]
  cases hv : arrivedValue (some v) with
  | none => rfl
  | some w =>
    obtain ⟨-, rfl⟩ := arrivedValue_eq_some_iff.mp hv
    simp [resultIn, Except.map, Json.normal_normal]

end

/-- A client that waits under the id of a response receives it unchanged if and only if neither the
id nor the result is null. Under the null id the response is skipped, as if nothing had been
written, and a null result is decoded as absent. So over a stream a client returns the same result
as over an in-memory transport, unless the result is null, which is an error. -/
theorem answer_returned_iff_not_null {id : RequestId} (hid : id.InRange) {v : Json}
    (hd : v.depth ≤ 126) (hl : v.Legible) {pipe : Pipe} (hp : pipe.Clear) :
    (∀ r later, r.id = some id →
      Channel.request r ⟨pipe, Wired.textSignals (answerText id v) ++ signals later⟩ =
        if id = .null then Channel.request r ⟨pipe, signals later⟩
        else (.ok { id := some id, result := arrivedValue (some v) }, [],
          ⟨pipe.withLines [Request.codec.render r], signals later⟩)) ∧
    (∀ r, r.id = some id →
      ((Channel.request r ⟨pipe, Wired.textSignals (answerText id v)⟩).1 =
          .ok (.success (some id) v.normal) ↔ id ≠ .null ∧ v ≠ .null)) ∧
    (∀ (κ : Type) (c : Caller Rehearsal κ) method params, c.closed = false →
      id = .number c.nextId → c.link.replies.head? = some { answer := .ok (.success (some id) v) } →
      ((Talk.call .json method params).run.run c).1 = .ok v.normal) ∧
    (∀ (κ : Type) (c : Caller Channel κ) method params, c.closed = false →
      id = .number c.nextId → c.link = ⟨pipe, Wired.textSignals (answerText id v)⟩ →
      ((Talk.call .json method params).run.run c).1 = resultIn (arrivedValue (some v))) := by
  refine ⟨fun r later hr => Channel.request_answer hid hd hl hp hr later, ?_, ?_, ?_⟩
  · intro r hr
    have hlast := Channel.request_answer hid hd hl hp hr []
    rw [signals_nil, List.append_nil] at hlast
    rw [hlast]
    by_cases hnull : id = .null
    · rw [if_pos hnull, Channel.request_of_clear hp, await, line?_nil]
      simp [hnull]
    · rw [if_neg hnull]
      simp [hnull, Response.success, arrivedValue_eq_some_iff]
  · intro κ c method params hopen hnumber hreplies
    exact Talk.run_call_rehearsal hopen hnumber hreplies method params
  · intro κ c method params hopen hnumber hlink
    exact Talk.run_call_answer hid hd hl hp hopen hnumber hlink method params

/-- A null result is lost over a stream, while prepared replies return it. -/
theorem answer_returned_iff_not_null_number :
    (RequestId.number 1).InRange ∧ Json.null.depth ≤ 126 ∧ Json.null.Legible ∧ ({} : Pipe).Clear ∧
    (Channel.request { id := some (.number 1), method := "ping" }
        ⟨{}, Wired.textSignals (answerText (.number 1) .null)⟩).1 ≠
      .ok (.success (some (.number 1)) .null) ∧
    ((Talk.call .json "ping" none).run.run
        ({ link := { replies := [{ answer := .ok (.success (some (.number 1)) .null) }] },
           info := { name := "", version := "" } } : Caller Rehearsal Nat)).1 = .ok .null ∧
    ((Talk.call .json "ping" none).run.run
        ({ link := ⟨{}, Wired.textSignals (answerText (.number 1) .null)⟩,
           info := { name := "", version := "" } } : Caller Channel Nat)).1 =
      .error (.unexpected "response has no result") := by
  have hid : (RequestId.number 1).InRange := by simp [RequestId.InRange, Number.least]
  have hd : Json.null.depth ≤ 126 := by decide
  have hl : Json.null.Legible := trivial
  have hp : ({} : Pipe).Clear := ⟨rfl, rfl, rfl⟩
  obtain ⟨-, hreturned, hhanded, hstream⟩ := answer_returned_iff_not_null hid hd hl hp
  refine ⟨hid, hd, hl, hp, ?_, ?_, ?_⟩
  · intro h
    exact ((hreturned _ rfl).mp h).2 rfl
  · exact hhanded Nat _ "ping" none rfl rfl rfl
  · exact hstream Nat _ "ping" none rfl rfl rfl

/-- A response with a null result is not received unchanged, and neither is one with a null id. -/
theorem null_not_returned :
    ¬ ∀ (id : RequestId) (v : Json), id.InRange → v.depth ≤ 126 → v.Legible → ∀ r, r.id = some id →
      (Channel.request r ⟨{}, Wired.textSignals (answerText id v)⟩).1 =
      .ok (.success (some id) v.normal) := by
  intro h
  have hid : (RequestId.number 1).InRange := by simp [RequestId.InRange, Number.least]
  have hd : Json.null.depth ≤ 126 := by decide
  have hl : Json.null.Legible := trivial
  have hp : ({} : Pipe).Clear := ⟨rfl, rfl, rfl⟩
  have hreturned := h (.number 1) .null hid hd hl { id := some (.number 1), method := "ping" } rfl
  have hawait := await_answer hid hd hl []
  rw [signals_nil, List.append_nil] at hawait
  rw [Channel.request_of_clear hp, hawait] at hreturned
  simp [Response.success, arrivedValue] at hreturned

end ReleaseDesk.Client
