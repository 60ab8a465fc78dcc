import ReleaseDesk.Proofs.Json.RoundTrip
import ReleaseDesk.Proofs.Wire.Alternative
import ReleaseDesk.Rpc.Envelope

/-! Encoding followed by decoding of envelopes. Each is conveyed as itself, up to the normal form of
its JSON values and up to null, which is decoded as absent where a value is optional. A response is
distinguished from a request by its lack of a method. -/

namespace ReleaseDesk.Rpc

open ReleaseDesk.Json ReleaseDesk.Wire ReleaseDesk.Wire.Fields

/-- An optional value after encoding and decoding: in normal form, with null as absent. -/
def arrivedValue : Option Json → Option Json
  | some .null => none
  | v => v.map normal

@[simp] theorem arrivedValue_none : arrivedValue none = none := rfl

theorem arrivedValue_some {v : Json} (h : v ≠ .null) : arrivedValue (some v) = some v.normal := by
  cases v <;> first | exact absurd rfl h | rfl

theorem conveys_optional_json (name : String) (v : Option Json) :
    (Member.optional name Codec.json).Conveys v (arrivedValue v) := by
  cases v with
  | none => exact Member.conveys_optional_none name _
  | some v =>
    refine Member.conveys_optional_some ?_ name
    by_cases h : v = .null
    · subst h
      exact Codec.conveys_nullable_of_null rfl
    · rw [arrivedValue_some h]
      exact (Codec.conveys_json v).nullable_some fun hn => h (Codec.normal_eq_null.mp hn)

/-! ### Ids -/

/-- A numeric id fits a signed 64-bit integer. -/
def RequestId.InRange : RequestId → Prop
  | .number n => Number.least ≤ n ∧ n < -Number.least
  | _ => True

theorem RequestId.conveys {id : RequestId} (h : id.InRange) : RequestId.codec.Conveys id id := by
  intro o
  cases id with
  | string s => exact ⟨rfl, rfl⟩
  | null => exact ⟨rfl, rfl⟩
  | number n =>
    have hlong : Codec.long.read .aside (.ofJson (.integer n)) = .ok n :=
      (Codec.conveys_integer h.1 h.2 .aside).1
    have hread : RequestId.codec.read o (.ofJson (.integer n)) = .ok (.number n) := by
      simp only [codec, Codec.readAside_ofJson, Codec.readFirst, hlong]
      rfl
    exact ⟨hread, hread⟩

theorem RequestId.write_eq_null {id : RequestId} : RequestId.codec.write id = .null ↔ id = .null := by
  cases id <;> simp [codec, Json.integer]

/-! ### Requests -/

/-- A request after encoding and decoding. -/
def Request.arrived (r : Request) : Request := { r with params := arrivedValue r.params }

theorem Request.conveys {r : Request} (h : ∀ id, r.id = some id → id.InRange) :
    Request.codec.Conveys r r.arrived := by
  have hid : (Member.present "id" RequestId.codec).Conveys r.id r.id := by
    cases hr : r.id with
    | none => exact Member.conveys_present_none _ _
    | some id => exact Member.conveys_present_some (RequestId.conveys (h id hr)) _
  have hfields : Request.record.fields.Conveys ["jsonrpc", "id", "method", "params"] r r.arrived :=
    ((((conveys_nothing r Request.mk).both
      (conveys_one (Member.conveys_required (Codec.conveys_string r.version) "jsonrpc"))).both
      (conveys_one hid)).both
      (conveys_one (Member.conveys_required (Codec.conveys_string r.method) "method"))).both
      (conveys_one (conveys_optional_json "params" r.params))
  exact Record.conveys hfields (by decide)

theorem Request.ofJson_fault {v : Json} {refusal : Refusal} (h : ofJson v = .error refusal) :
    ∃ detail, refusal.fault = .invalidRequest detail := by
  unfold ofJson at h
  obtain h | ⟨r, -, h⟩ := bind_eq_error.mp h
  · cases hread : codec.ofJson v with
    | error fault =>
      rw [hread] at h
      cases h
      exact ⟨_, rfl⟩
    | ok r =>
      rw [hread] at h
      cases h
  · split_ifs at h
    · cases h
    · cases h
      exact ⟨_, rfl⟩

/-! ### Responses -/

def ErrorObject.arrived (e : ErrorObject) : ErrorObject := { e with data := arrivedValue e.data }

theorem ErrorObject.conveys {e : ErrorObject} (hl : -0x80000000 ≤ e.code) (hb : e.code < 0x80000000) :
    ErrorObject.codec.Conveys e e.arrived := by
  have hfields : ErrorObject.record.fields.Conveys ["code", "message", "data"] e e.arrived :=
    (((conveys_nothing e ErrorObject.mk).both
      (conveys_one (Member.conveys_required (Codec.conveys_integer hl hb) "code"))).both
      (conveys_one (Member.conveys_required (Codec.conveys_string e.message) "message"))).both
      (conveys_one (conveys_optional_json "data" e.data))
  exact Record.conveys hfields (by decide)

/-- A response after encoding and decoding. A null id is decoded as absent. -/
def Response.arrived (r : Response) : Response where
  version := r.version
  id := if r.id = some .null then none else r.id
  result := arrivedValue r.result
  error := r.error.map ErrorObject.arrived

/-- The id and the error code are in the ranges of their codecs. -/
structure Response.InRange (r : Response) : Prop where
  id : ∀ id, r.id = some id → id.InRange
  code : ∀ e, r.error = some e → -0x80000000 ≤ e.code ∧ e.code < 0x80000000

theorem Response.fields_convey {r : Response} (h : r.InRange) :
    Response.record.fields.Conveys ["jsonrpc", "id", "result", "error"] r r.arrived := by
  have hid' : (Member.explicit "id" RequestId.codec).Conveys r.id r.arrived.id := by
    refine Member.conveys_explicit ?_ _
    unfold arrived
    split_ifs with hnull
    · rw [hnull]
      exact Codec.conveys_nullable_of_null rfl
    · cases hr : r.id with
      | none => exact Codec.conveys_nullable_of_null rfl
      | some id =>
        refine (RequestId.conveys (h.id id hr)).nullable_some fun hn => hnull ?_
        rw [hr, RequestId.write_eq_null.mp hn]
  have herror : (Member.optional "error" ErrorObject.codec).Conveys r.error r.arrived.error := by
    unfold arrived
    cases hr : r.error with
    | none => exact Member.conveys_optional_none _ _
    | some e =>
      obtain ⟨hl, hb⟩ := h.code e hr
      refine Member.conveys_optional_some ((ErrorObject.conveys hl hb).nullable_some ?_) _
      exact fun hn => Json.noConfusion hn
  exact ((((conveys_nothing r Response.mk).both
    (conveys_one (Member.conveys_required (Codec.conveys_string r.version) "jsonrpc"))).both
    (conveys_one hid')).both
    (conveys_one (conveys_optional_json "result" r.result))).both
    (conveys_one herror)

theorem Response.conveys {r : Response} (h : r.InRange) : Response.codec.Conveys r r.arrived :=
  Record.conveys (fields_convey h) (by decide)

/-! ### Messages -/

theorem Request.need_method : Request.record.fields.Need "method" :=
  have before {key : String} (hv : key ≠ "jsonrpc") (hi : key ≠ "id") :=
    have version : (required "jsonrpc" .string Request.version).Ignore key := one_ignore hv
    have id : (one (.present "id" RequestId.codec) Request.id).Ignore key := one_ignore hi
    both_ignore (both_ignore (nothing_ignore Request.mk key) version) id
  have method : ("params" : String) ≠ "method" := by decide
  ((need_required "method" .string Request.method).both_right
    (ignore_or_one _ (before (by decide) (by decide)))).both_left
    (ignore_or_one _ (both_ignore (before (by decide) (by decide)) (one_ignore method)))

theorem Message.read_request {v : Json} {r : Request}
    (h : Request.codec.read .aside (.ofJson v) = .ok r) (o : Origin) :
    Message.codec.read o (.ofJson v) = .ok (.request r) := by
  simp only [codec, Codec.readAside_ofJson, Codec.readFirst, h]
  rfl

theorem Message.read_response {v : Json} {fault : Wire.Fault} {r : Response}
    (h : Request.codec.read .aside (.ofJson v) = .error fault)
    (hr : Response.codec.read .aside (.ofJson v) = .ok r) (o : Origin) :
    Message.codec.read o (.ofJson v) = .ok (.response r) := by
  simp only [codec, Codec.readAside_ofJson, Codec.readFirst, h, hr]
  rfl

theorem Message.conveys_request {r : Request} (h : ∀ id, r.id = some id → id.InRange) :
    Message.codec.Conveys (.request r) (.request r.arrived) :=
  fun o => ⟨read_request (Request.conveys h .aside).1 o, read_request (Request.conveys h .aside).2 o⟩

theorem Message.conveys_response {r : Response} (h : r.InRange) :
    Message.codec.Conveys (.response r) (.response r.arrived) := by
  have hkey : "method" ∉ (Response.record.members r).map (·.1) := fun hmem =>
    absurd ((Response.fields_convey h).writes.subset hmem) (by decide)
  obtain ⟨⟨fault, hf⟩, ⟨fault', hf'⟩⟩ := Record.refuses Request.need_method hkey .aside
  intro o
  exact ⟨read_response hf (Response.conveys h .aside).1 o,
    read_response hf' (Response.conveys h .aside).2 o⟩

/-! ### Notifications -/

theorem Notification.write_eq (n : Notification) :
    Notification.codec.write n = Request.codec.write n.toRequest := by
  obtain ⟨version, method, params⟩ := n
  cases params <;> rfl

end ReleaseDesk.Rpc
