import ReleaseDesk.Proofs.Json.Acceptance
import ReleaseDesk.Proofs.Rpc.Envelope

/-! The texts accepted as requests. A request is an object in which the last member with a key
counts. The version and the method are strings; the id is absent, null, a string or a 64-bit
integer; the parameters are any value, with null for none. Other members are ignored. -/

namespace ReleaseDesk.Rpc

open ReleaseDesk.Json ReleaseDesk.Wire ReleaseDesk.Wire.Fields

def lastMember? (ms : List (String × Json)) (key : String) : Option Json := ms.reverse.lookup key

/-! ### Ids -/

/-- The id given by a member: none if it is absent, and the null id if it is null. -/
inductive Identifies : Option Json → Option RequestId → Prop
  | absent : Identifies none none
  | null : Identifies (some .null) (some .null)
  | string {s : String} : Identifies (some (.string s)) (some (.string s))
  | number {n : Int} : -0x8000000000000000 ≤ n → n < 0x8000000000000000 →
      Identifies (some (.number (.integer n))) (some (.number n))

theorem RequestId.read_eq (o : Origin) (v : Json) : RequestId.codec.read o (.ofJson v) =
    Codec.readFirst "RequestId" [
      fun d => (Codec.string.read .aside d).map string,
      fun d => (Codec.long.read .aside d).map number,
      fun d => (Codec.readUnit d).map fun _ => null] (.ofJson v) := by
  simp [codec, Codec.readAside]

theorem RequestId.read_iff {o : Origin} {v : Json} {id : RequestId} :
    RequestId.codec.read o (.ofJson v) = .ok id ↔ Identifies (some v) (some id) := by
  constructor
  · intro h
    rw [read_eq] at h
    cases v with
    | null =>
      cases h
      exact .null
    | string s =>
      cases h
      exact .string
    | number n =>
      cases n with
      | real => cases h
      | integer i =>
        simp only [Codec.readFirst, Draft.ofJson, Codec.long, Codec.integer, Codec.readInteger] at h
        by_cases hrange : (decide (Number.least ≤ i) && decide (i < -Number.least)) = true
        · rw [if_pos hrange] at h
          cases h
          simp only [Bool.and_eq_true, decide_eq_true_eq] at hrange
          exact .number hrange.1 hrange.2
        · rw [if_neg hrange] at h
          cases h
    | bool => cases h
    | array => cases h
    | object => cases h
  · intro h
    cases h with
    | null => rfl
    | string => rfl
    | @number n hl hb =>
      have hrange : (RequestId.number n).InRange := ⟨hl, hb⟩
      exact (RequestId.conveys hrange o).1

/-! ### Requests -/

/-- The members of an object constitute a request. -/
structure Envelope (ms : List (String × Json)) (r : Request) : Prop where
  version : lastMember? ms "jsonrpc" = some (.string "2.0") ∧ r.version = "2.0"
  id : Identifies (lastMember? ms "id") r.id
  method : lastMember? ms "method" = some (.string r.method)
  params : r.params = arrivedValue (lastMember? ms "params")

theorem lookup_normal (ms : List (String × Json)) (key : String) :
    (sortMembers (normalMembers ms)).lookup key = (lastMember? ms key).map normal := by
  rw [lookup_sortMembers_reverse, normalMembers_eq_map, ← List.map_reverse, ← normalMembers_eq_map,
    lookup_normalMembers]
  rfl

theorem identifies_normal {v : Option Json} {id : Option RequestId} :
    Identifies (v.map normal) id ↔ Identifies v id := by
  constructor
  · intro h
    match v, h with
    | none, h => exact h
    | some .null, h => exact h
    | some (.bool _), h => exact h
    | some (.number _), h => exact h
    | some (.string _), h => exact h
    | some (.array _), h => cases h
    | some (.object _), h => cases h
  · intro h
    cases h with
    | absent => exact .absent
    | null => exact .null
    | string => exact .string
    | number hl hb => exact .number hl hb

theorem arrivedValue_normal (v : Option Json) : arrivedValue (v.map normal) = arrivedValue v := by
  cases v with
  | none => rfl
  | some v =>
    by_cases h : v = .null
    · subst h
      rfl
    · rw [Option.map_some, arrivedValue_some h,
        arrivedValue_some fun hn => h (Codec.normal_eq_null.mp hn), normal_normal]

theorem map_normal_eq_string {v : Option Json} {s : String} :
    v.map normal = some (.string s) ↔ v = some (.string s) := by
  cases v with
  | none => simp
  | some v => cases v <;> simp [normal]

theorem read_string_iff {o : Origin} {v : Json} {s : String} :
    Codec.string.read o (.ofJson v) = .ok s ↔ v = .string s := by
  cases v <;> simp [Codec.string, Draft.ofJson]

theorem read_optional_iff {o : Origin} {v : Json} {p : Option Json} :
    Codec.json.nullable.read o (.ofJson v) = .ok p ↔ p = arrivedValue (some v) := by
  by_cases h : v = .null
  · subst h
    simp [Codec.nullable, Draft.ofJson, arrivedValue, eq_comm]
  · rw [Codec.nullable_read h, arrivedValue_some h]
    simp [Codec.json, Except.map, eq_comm]

section Members

variable {σ : Type} {o : Origin} {ms : List (String × Json)}

theorem give_string_iff (h : (ms.map (·.1)).Nodup) {name s : String} {get : σ → String} :
    (required name .string get).Give o ms s ↔ ms.lookup name = some (.string s) := by
  rw [required, give_one_iff h]
  cases hv : ms.lookup name <;> simp [Member.required, hv, read_string_iff]

theorem give_optional_iff (h : (ms.map (·.1)).Nodup) {name : String} {p : Option Json}
    {get : σ → Option Json} :
    (optional name .json get).Give o ms p ↔ p = arrivedValue (ms.lookup name) := by
  rw [Wire.optional, give_one_iff h]
  cases hv : ms.lookup name with
  | none => simp [Member.optional, hv, eq_comm]
  | some v => simp [Member.optional, hv, read_optional_iff]

theorem give_identity_iff (h : (ms.map (·.1)).Nodup) {name : String} {id : Option RequestId}
    {get : σ → Option RequestId} :
    (one (.present name RequestId.codec) get).Give o ms id ↔ Identifies (ms.lookup name) id := by
  rw [give_one_iff h]
  cases hv : ms.lookup name with
  | none =>
    simp only [Member.present, hv]
    constructor
    · rintro ⟨⟩
      exact .absent
    · rintro ⟨⟩
      rfl
  | some v =>
    simp only [Member.present, hv]
    cases id with
    | none =>
      refine iff_of_false (fun heq => ?_) (by rintro ⟨⟩)
      cases hr : RequestId.codec.read o (.ofJson v) <;> simp [hr, Except.map] at heq
    | some id =>
      rw [← RequestId.read_iff (o := o)]
      cases RequestId.codec.read o (.ofJson v) <;> simp [Except.map]

theorem Request.give_iff (h : (ms.map (·.1)).Nodup) {r : Request} :
    Request.record.fields.Give o ms r ↔
      ms.lookup "jsonrpc" = some (.string r.version) ∧ Identifies (ms.lookup "id") r.id ∧
        ms.lookup "method" = some (.string r.method) ∧
        r.params = arrivedValue (ms.lookup "params") := by
  have hversion {key : String} (hv : key ≠ "jsonrpc") : ((nothing Request.mk).both
      (required "jsonrpc" .string Request.version)).Ignore key :=
    both_ignore (nothing_ignore Request.mk key) (one_ignore hv)
  have hid {key : String} (hv : key ≠ "jsonrpc") (hi : key ≠ "id") :
      (((nothing Request.mk).both (required "jsonrpc" .string Request.version)).both
        (one (.present "id" RequestId.codec) Request.id)).Ignore key :=
    both_ignore (hversion hv) (one_ignore hi)
  have hmethod {key : String} (hv : key ≠ "jsonrpc") (hi : key ≠ "id") (hm : key ≠ "method") :
      ((((nothing Request.mk).both (required "jsonrpc" .string Request.version)).both
        (one (.present "id" RequestId.codec) Request.id)).both
        (required "method" .string Request.method)).Ignore key :=
    both_ignore (hid hv hi) (one_ignore hm)
  have dversion := ignore_or_one (m := .required "jsonrpc" .string) Request.version
    (nothing_ignore Request.mk "jsonrpc")
  have did := ignore_or_one (m := .present "id" RequestId.codec) Request.id (hversion (by decide))
  have dmethod := ignore_or_one (m := .required "method" .string) Request.method
    (hid (by decide) (by decide))
  have dparams := ignore_or_one (m := .optional "params" .json) Request.params
    (hmethod (by decide) (by decide) (by decide))
  constructor
  · intro hr
    obtain ⟨_, params, h₃, hp, rfl⟩ := hr.of_both dparams
    obtain ⟨_, method, h₂, hm, rfl⟩ := h₃.of_both dmethod
    obtain ⟨_, id, h₁, hi, rfl⟩ := h₂.of_both did
    obtain ⟨_, version, h₀, hv, rfl⟩ := h₁.of_both dversion
    obtain rfl := give_nothing_iff.mp h₀
    exact ⟨(give_string_iff h).mp hv, (give_identity_iff h).mp hi, (give_string_iff h).mp hm,
      (give_optional_iff h).mp hp⟩
  · rintro ⟨hv, hi, hm, hp⟩
    have h₀ : (nothing Request.mk : Fields Request _).Give o ms Request.mk := give_nothing_iff.mpr rfl
    exact (((h₀.both ((give_string_iff h).mpr hv) dversion).both
      ((give_identity_iff h).mpr hi) did).both ((give_string_iff h).mpr hm) dmethod).both
      ((give_optional_iff h).mpr hp) dparams

end Members

theorem Request.read_iff {ms : List (String × Json)} {r : Request} :
    codec.ofJson (.object ms) = .ok r ↔
      lastMember? ms "jsonrpc" = some (.string r.version) ∧ Identifies (lastMember? ms "id") r.id ∧
        lastMember? ms "method" = some (.string r.method) ∧
        r.params = arrivedValue (lastMember? ms "params") := by
  refine Record.read_object_iff.trans ((give_iff (ascending_sortMembers _).nodup).trans ?_)
  simp only [lookup_normal, identifies_normal, arrivedValue_normal, map_normal_eq_string]

theorem Request.ofJson_eq_ok {v : Json} {r : Request} :
    ofJson v = .ok r ↔ codec.ofJson v = .ok r ∧ r.version = "2.0" := by
  unfold ofJson
  cases hread : codec.ofJson v with
  | error fault =>
    simp [Except.mapError, bind, Except.bind]
  | ok r' =>
    simp only [Except.mapError, bind, Except.bind, pure, Except.pure, Except.ok.injEq]
    split_ifs with hversion
    · simp only [Except.ok.injEq]
      exact ⟨fun h => ⟨h, h ▸ hversion⟩, And.left⟩
    · refine iff_of_false nofun ?_
      rintro ⟨rfl, h⟩
      exact hversion h

/-- An object is decoded to a request if and only if its members constitute it. -/
theorem Request.ofJson_object_iff {ms : List (String × Json)} {r : Request} :
    ofJson (.object ms) = .ok r ↔ Envelope ms r := by
  rw [ofJson_eq_ok, read_iff]
  constructor
  · rintro ⟨⟨hversion, hid, hmethod, hparams⟩, h⟩
    exact ⟨⟨h ▸ hversion, h⟩, hid, hmethod, hparams⟩
  · rintro ⟨⟨hversion, h⟩, hid, hmethod, hparams⟩
    exact ⟨⟨h ▸ hversion, hid, hmethod, hparams⟩, h⟩

theorem Request.ofJson_normal (v : Json) : ofJson v.normal = ofJson v := by
  rw [ofJson, ofJson, Codec.ofJson_normal]

/-! ### Texts -/

theorem Request.parse_document {s : String} {v : Json} (h : Document s.toList v) :
    parse s = ofJson v := by
  rw [parse, parse?_eq_some_iff.mpr ⟨v, h, rfl⟩]
  exact ofJson_normal v

/-- A text that is not a document is a parse error. An object is accepted if and only if its members
constitute a request, as that request, and is an invalid request otherwise. -/
theorem Request.parse_exact (s : String) :
    ((∃ refusal, parse s = .error refusal ∧ refusal.fault = .parse) ↔
        ¬∃ v, Document s.toList v) ∧
      ∀ ms, Document s.toList (.object ms) →
        (∀ r, parse s = .ok r ↔ Envelope ms r) ∧
        ((¬∃ r, Envelope ms r) → ∃ refusal detail, parse s = .error refusal ∧
          refusal.fault = .invalidRequest detail) := by
  constructor
  · rw [← parse?_eq_none_iff]
    constructor
    · rintro ⟨refusal, h, hfault⟩
      unfold parse at h
      split at h
      next hnone => exact hnone
      next v _ =>
        obtain ⟨detail, hdetail⟩ := ofJson_fault h
        cases hfault.symm.trans hdetail
    · intro h
      exact ⟨.notJson, by rw [parse, h], rfl⟩
  · intro ms hdocument
    rw [parse_document hdocument]
    refine ⟨fun r => ofJson_object_iff, fun hnone => ?_⟩
    cases h : ofJson (.object ms) with
    | ok r => exact absurd ⟨r, ofJson_object_iff.mp h⟩ hnone
    | error refusal =>
      obtain ⟨detail, hdetail⟩ := ofJson_fault h
      exact ⟨refusal, detail, rfl, hdetail⟩

/-- A repeated id, the last of which is null, and the id `-0`. -/
theorem Request.parse_exact_repeated :
    let accepted := [("method", .string "ping"), ("id", .integer 7), ("x", .array []),
      ("jsonrpc", .string "2.0"), ("id", .null)]
    let refused := [("jsonrpc", .string "2.0"), ("method", .string "m"),
      ("id", .real ⟨true, 0, by decide⟩)]
    let text := "\x7b\"method\":\"p\\u0069ng\",\"id\":7, \"x\":[],\"jsonrpc\":\"2.0\",\"id\":null\x7d"
    let text' := "\x7b\"jsonrpc\":\"2.0\",\"method\":\"m\",\"id\":-0\x7d"
    (Document text.toList (.object accepted) ∧ parse text = .ok { id := some .null, method := "ping" }) ∧
      Document text'.toList (.object refused) ∧ (¬∃ r, Envelope refused r) ∧
      ∃ refusal detail, parse text' = .error refusal ∧ refusal.fault = .invalidRequest detail := by
  intro accepted refused text text'
  have haccepted : Document text.toList (.object accepted) := by
    refine document_iff.mpr ⟨.ofJson (.object accepted), ?_, Draft.written?_ofJson _⟩
    simp only [text, accepted, String.reduceToList]
    rfl
  have hrefused : Document text'.toList (.object refused) := by
    refine document_iff.mpr ⟨.ofJson (.object refused), ?_, Draft.written?_ofJson _⟩
    simp only [text', refused, String.reduceToList]
    rfl
  have hnone : ¬∃ r, Envelope refused r := by
    rintro ⟨r, h⟩
    cases h.id
  refine ⟨⟨haccepted, ?_⟩, hrefused, hnone, ((parse_exact text').2 refused hrefused).2 hnone⟩
  exact (((parse_exact text).2 accepted haccepted).1 _).mpr ⟨⟨rfl, rfl⟩, .null, rfl, rfl⟩

/-! ### A number below the greatest double -/

/-- The greatest double written with nineteen digits overflows when it is read, so that the request
is rejected. -/
theorem Request.parse_refuses_greatest :
    ¬ ∀ (number : List Char) (l : Literal), Spells number l → l.magnitude.LeGreatest →
      ∃ r, parse (String.ofList ("\x7b\"jsonrpc\":\"2.0\",\"id\":1,\"method\":\"ping\",\"x\":".toList ++
        (number ++ ['\x7d']))) = .ok r := by
  intro h
  have hwhole : Whole ['1', '7', '9', '7', '6', '9', '3', '1', '3', '4', '8', '6', '2', '3', '1', '5',
      '7', '0', '0'] := .leading rfl (by decide) (List.all_eq_true.mp rfl)
  have hpower : Exponent ['e', '2', '9', '0'] (some 290) :=
    .plain (.inl rfl) ⟨by decide, List.all_eq_true.mp rfl⟩
  obtain ⟨r, hr⟩ := h _ _ (.parts false hwhole .absent hpower) (by decide +kernel)
  have hok := congrArg Except.isOk hr
  rw [show (Except.ok r).isOk = true from rfl] at hok
  exact absurd hok (by decide +kernel)

end ReleaseDesk.Rpc
