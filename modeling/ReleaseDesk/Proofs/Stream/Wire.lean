import ReleaseDesk.Proofs.Client.Correlation
import ReleaseDesk.Proofs.Rpc.Envelope
import ReleaseDesk.Proofs.Stream.Framing

/-! Envelopes on lines. A value of admissible depth whose numbers read back can be written on a line
and parsed from it. So the server reads the request that the client wrote, and the client reads the
responses and notifications of the server. -/

namespace ReleaseDesk.Json

/-- Printing the value and parsing the text returns its normal form. -/
structure Fits (v : Json) : Prop where
  shallow : v.depth ≤ depthLimit
  legible : v.Legible

end ReleaseDesk.Json

namespace ReleaseDesk.Wire.Codec

open ReleaseDesk.Json

theorem ofText_render {c : Codec α} {a b : α} (h : c.Conveys a b) (hf : (c.write a).Fits) :
    c.ofText (c.render a) = .ok b := by
  unfold ofText Codec.render
  rw [draft_render hf.legible hf.shallow]
  simp only [(h .text).1, bind, Except.bind, ↓reduceIte]
  rfl

end ReleaseDesk.Wire.Codec

namespace ReleaseDesk.Rpc

open ReleaseDesk.Json

theorem Request.parse_render {r : Request} (h : ∀ id, r.id = some id → id.InRange)
    (hv : r.version = Rpc.version) (hf : (codec.write r).Fits) :
    Request.parse (codec.render r) = .ok r.arrived := by
  have hread : codec.ofJson (codec.write r).normal = .ok r.arrived := by
    rw [Wire.Codec.ofJson, normal_normal]
    exact (Request.conveys h .tree).2
  have hparse : Json.parse? (codec.render r) = some (codec.write r).normal :=
    parse?_render hf.legible hf.shallow
  have harrived : r.arrived.version = Rpc.version := hv
  simp only [Request.parse, hparse, Request.ofJson, hread, Except.mapError, bind, Except.bind,
    harrived, ↓reduceIte]
  rfl

theorem RequestId.write_plain {id : RequestId} (h : id.InRange) :
    (codec.write id).depth = 0 ∧ (codec.write id).Legible := by
  cases id with
  | string s => exact ⟨rfl, trivial⟩
  | null => exact ⟨rfl, trivial⟩
  | number n =>
    have hbound : n < Number.bound := Int.lt_trans h.2 (by decide)
    exact ⟨rfl, readsBack_integer h.1 hbound⟩

theorem Request.members_eq (r : Request) :
    record.members r = ("jsonrpc", .string r.version) ::
      ((r.id.map fun id => ("id", RequestId.codec.write id)).toList ++
        ("method", .string r.method) :: (r.params.map fun v => ("params", v.normal)).toList) := by
  obtain ⟨version, id, method, params⟩ := r
  cases id <;> cases params <;> rfl

theorem Request.fits {r : Request} (h : ∀ id, r.id = some id → id.InRange)
    (hp : ∀ v, r.params = some v → v.depth ≤ 126 ∧ v.Legible) : (codec.write r).Fits := by
  have members : ∀ m ∈ record.members r, m.2.depth ≤ 126 ∧ m.2.Legible := by
    intro m hm
    simp only [members_eq, List.mem_cons, List.mem_append, Option.mem_toList,
      Option.map_eq_some_iff] at hm
    rcases hm with rfl | ⟨id, hid, rfl⟩ | rfl | ⟨v, hv, rfl⟩
    · exact ⟨Nat.zero_le _, trivial⟩
    · obtain ⟨hdepth, hlegible⟩ := RequestId.write_plain (h id hid)
      exact ⟨hdepth ▸ Nat.zero_le _, hlegible⟩
    · exact ⟨Nat.zero_le _, trivial⟩
    · obtain ⟨hdepth, hlegible⟩ := hp v hv
      exact ⟨Nat.le_trans (depth_normal_le v) hdepth, hlegible.normal⟩
  obtain ⟨hdepth, hlegible⟩ := object_plain members
  exact ⟨hdepth, hlegible⟩

theorem Response.fits_success {id : RequestId} {v : Json} (hid : id.InRange) (hd : v.depth ≤ 126)
    (hl : v.Legible) : (codec.write (.success (some id) v)).Fits := by
  obtain ⟨hdepth, hlegible⟩ := RequestId.write_plain hid
  show (Json.object [("jsonrpc", .string Rpc.version), ("id", RequestId.codec.write id),
    ("result", v.normal)]).Fits
  constructor
  · have hv := depth_normal_le v
    simp only [depth, membersDepth, hdepth, depthLimit]
    omega
  · exact ⟨trivial, hlegible, hl.normal, trivial⟩

end ReleaseDesk.Rpc

namespace ReleaseDesk.Stream

open ReleaseDesk.Json ReleaseDesk.Rpc ReleaseDesk.Service ReleaseDesk.Client

theorem lineText_record (r : Wire.Record α) (a : α) :
    lineText (lineOctets (r.codec.render a)) = .ok (r.codec.render a) :=
  lineText_lineOctets (r.members a)

theorem arrivalOfOctets_request {r : Request} (h : ∀ id, r.id = some id → id.InRange)
    (hv : r.version = Rpc.version) (hf : (Request.codec.write r).Fits) :
    arrivalOfOctets (lineOctets (Request.codec.render r)) = some (.request r.arrived) := by
  have hline : lineText (lineOctets (Request.codec.render r)) = .ok (Request.codec.render r) :=
    lineText_record Request.record r
  have hne : Request.codec.render r ≠ "" := by
    intro he
    have hparse := Request.parse_render h hv hf
    rw [he] at hparse
    cases hparse
  unfold arrivalOfOctets
  rw [hline]
  simp only [Request.parse_render h hv hf]

theorem message?_response {r : Response} (h : r.InRange) (hf : (Response.codec.write r).Fits) :
    message? (lineOctets (Response.codec.render r)) = some (.response r.arrived) := by
  have hline : lineText (lineOctets (Response.codec.render r)) = .ok (Response.codec.render r) :=
    lineText_record Response.record r
  have hwrite : Message.codec.write (.response r) = Response.codec.write r := rfl
  have hrender : Response.codec.render r = Message.codec.render (.response r) :=
    congrArg Json.render hwrite.symm
  have htext : Message.codec.ofText (Response.codec.render r) = .ok (.response r.arrived) := by
    rw [hrender]
    exact Wire.Codec.ofText_render (Message.conveys_response h) (hwrite ▸ hf)
  simp only [message?, hline, htext]
  rfl

theorem message?_notification {n : Notification} (hf : (Notification.codec.write n).Fits) :
    message? (lineOctets (Notification.codec.render n)) = some (.request n.toRequest.arrived) := by
  have hline : lineText (lineOctets (Notification.codec.render n)) =
      .ok (Notification.codec.render n) := lineText_record Notification.record n
  have hrender : Notification.codec.render n = Message.codec.render (.request n.toRequest) :=
    congrArg Json.render n.write_eq
  have htext : Message.codec.ofText (Notification.codec.render n) =
      .ok (.request n.toRequest.arrived) := by
    rw [hrender]
    refine Wire.Codec.ofText_render (Message.conveys_request fun id hid => ?_) (n.write_eq ▸ hf)
    cases hid
  simp only [message?, hline, htext]
  rfl

end ReleaseDesk.Stream
