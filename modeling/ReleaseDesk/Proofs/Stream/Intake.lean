import ReleaseDesk.Proofs.Stream.Wire

/-! Client to server. Requests and notifications are written one on each line and read one by one in
order, each with its id and its parameters, up to the end of the stream. -/

namespace ReleaseDesk.Stream

open ReleaseDesk.Rpc ReleaseDesk.Service ReleaseDesk.Text

/-! ### Successive reads -/

/-- The results of a number of successive reads. -/
def Channel.nexts : Nat → Channel → List Arrival × Channel
  | 0, c => ([], c)
  | n + 1, c =>
    let (a, c) := c.next
    let (as, c) := nexts n c
    (a :: as, c)

theorem Channel.next_of_segments {input l : List UInt8} {ls : List (List UInt8)}
    (h : segments input = l :: ls) {a : Arrival} (ha : arrivalOfOctets l = some a) :
    Channel.next { incoming := signals input } = (a, { incoming := signals ls.flatten }) := by
  have harrival : arrival? true (signals input) = some (a, signals ls.flatten) := by
    rw [arrival?_of_segments h, ha]
  simp only [Channel.next, harrival, Bool.false_eq_true, if_false]

theorem Channel.next_at_end : Channel.next {} = (.ended, {}) := by
  simp only [Channel.next, arrival?_nil, Bool.false_eq_true, if_false]

theorem Channel.nexts_at_end (n : Nat) : (Channel.nexts n {}).1 = List.replicate n .ended := by
  induction n with
  | zero => rfl
  | succ n ih => simp only [Channel.nexts, next_at_end, ih, List.replicate_succ]

theorem Channel.nexts_of_segments {input : List UInt8} {ls : List (List UInt8)}
    (h : segments input = ls) {as : List Arrival} (ha : ls.map arrivalOfOctets = as.map some)
    (further : Nat) :
    (Channel.nexts (as.length + further) { incoming := signals input }).1 =
      as ++ List.replicate further .ended := by
  induction ls generalizing input as with
  | nil =>
    obtain rfl : as = [] := by simpa using ha.symm
    obtain rfl : input = [] := segments_eq_nil_iff.mp h
    simpa using nexts_at_end further
  | cons l ls ih =>
    cases as with
    | nil => cases ha
    | cons a as =>
      obtain ⟨hl, hls⟩ := List.cons_eq_cons.mp ha
      rw [List.length_cons, Nat.add_right_comm]
      simp only [Channel.nexts, next_of_segments h hl, ih (segments_flatten_tail h) hls,
        List.cons_append]

end ReleaseDesk.Stream

namespace ReleaseDesk.Client

open ReleaseDesk.Json ReleaseDesk.Rpc ReleaseDesk.Stream ReleaseDesk.Text

/-! ### Messages of a client -/

/-- A message that a client sends. -/
inductive Outgoing
  | request (r : Request)
  | notification (n : Notification)

namespace Outgoing

def write : Outgoing → Pipe → Except TransportFault Unit × Pipe
  | request r, p => p.write Request.codec r
  | notification n, p => p.write Notification.codec n

def asRequest : Outgoing → Request
  | request r => r
  | notification n => n.toRequest

/-- The request received for a message, with its parameters in normal form. -/
def arrived (m : Outgoing) : Request :=
  { m.asRequest with params := m.asRequest.params.map normal }

/-- The version is the current one, a numeric id fits 64 bits, and the parameters can be printed and
parsed inside an envelope. -/
structure Encodable (m : Outgoing) : Prop where
  version : m.asRequest.version = Rpc.version
  id : ∀ id, m.asRequest.id = some id → id.InRange
  params : ∀ v, m.asRequest.params = some v → v ≠ .null ∧ v.depth ≤ 126 ∧ v.Legible

theorem write_eq (m : Outgoing) (p : Pipe) :
    m.write p = p.writeLine (Request.codec.render m.asRequest) := by
  cases m with
  | request r => rfl
  | notification n =>
    have hrender : Notification.codec.render n = Request.codec.render n.toRequest :=
      congrArg Json.render n.write_eq
    simp only [write, asRequest, Pipe.write, hrender]

theorem Encodable.arrived_eq {m : Outgoing} (h : m.Encodable) : m.asRequest.arrived = m.arrived := by
  have hparams : arrivedValue m.asRequest.params = m.asRequest.params.map normal := by
    cases hv : m.asRequest.params with
    | none => rfl
    | some v => exact arrivedValue_some (h.params v hv).1
  simp only [Request.arrived, Outgoing.arrived, hparams]

theorem Encodable.arrival {m : Outgoing} (h : m.Encodable) :
    arrivalOfOctets (lineOctets (Request.codec.render m.asRequest)) = some (.request m.arrived) := by
  rw [arrivalOfOctets_request h.id h.version (Request.fits h.id fun v hv => (h.params v hv).2),
    h.arrived_eq]

end Outgoing

/-- All requests and notifications that a client writes are written without errors and are received
in order, after which every read returns the end of the stream. -/
theorem requests_cross {sent : List Outgoing} (h : ∀ m ∈ sent, m.Encodable) (further : Nat) :
    ∃ pipe : Pipe, writeAll Outgoing.write sent {} = (.ok (), pipe) ∧
      (Channel.nexts (sent.length + further)
        { incoming := signals (Utf8.encode pipe.written.toList) }).1 =
        sent.map (fun m => .request m.arrived) ++ List.replicate further .ended := by
  obtain ⟨pipe, hwritten, hlines⟩ :=
    segments_writeAll Outgoing.write_eq (fun _ => lineFeed_notMem_render _) sent
  refine ⟨pipe, hwritten, ?_⟩
  have harrivals : (sent.map fun m => lineOctets (Request.codec.render m.asRequest)).map
      Stream.arrivalOfOctets = (sent.map fun m => .request m.arrived).map some := by
    simp only [List.map_map, Function.comp_def]
    exact List.map_congr_left fun m hm => (h m hm).arrival
  have hreads := Channel.nexts_of_segments hlines harrivals further
  rwa [List.length_map] at hreads

/-- A request with the null id and a line feed in its method, one with a numeric id and parameters,
and a notification. -/
theorem requests_cross_null :
    let sent : List Outgoing :=
      [.request { id := some .null, method := "a\nb" },
        .request { id := some (.number 7), method := "", params := some (.object [("", .null)]) },
        .notification { method := "initialized" }]
    (∀ m ∈ sent, m.Encodable) ∧
      ∃ pipe : Pipe, writeAll Outgoing.write sent {} = (.ok (), pipe) ∧
        (Channel.nexts (sent.length + 1)
          { incoming := signals (Utf8.encode pipe.written.toList) }).1 =
          sent.map (fun m => .request m.arrived) ++ List.replicate 1 .ended := by
  intro sent
  have hsent : ∀ m ∈ sent, m.Encodable := by
    refine List.forall_mem_cons.mpr ⟨⟨rfl, ?_, nofun⟩, List.forall_mem_cons.mpr ⟨⟨rfl, ?_, ?_⟩,
      List.forall_mem_singleton.mpr ⟨rfl, nofun, nofun⟩⟩⟩
    · rintro id ⟨⟩
      trivial
    · rintro id ⟨⟩
      exact ⟨by decide, by decide⟩
    · rintro v ⟨⟩
      exact ⟨nofun, by decide, trivial, trivial⟩
  exact ⟨hsent, requests_cross hsent 1⟩

end ReleaseDesk.Client
