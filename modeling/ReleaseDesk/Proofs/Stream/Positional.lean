import ReleaseDesk.Proofs.Rpc.Acceptance
import ReleaseDesk.Proofs.Stream.Delivery

/-! Lines with a JSON value that is not an object. A request is decoded like any other record, hence
also from an array of exactly its four members in order, and is then carried out. Any other such
value is an invalid request: it is answered under the null id, and the session continues as if the
line had not been there. -/

namespace ReleaseDesk

namespace Wire

open ReleaseDesk.Json

/-! ### Reading arrays -/

section Items

variable {σ : Type} {o : Origin} {short : Nat → Fault} {index : Nat} {items rest : List Draft}

theorem Fields.inOrder_nothing_iff {a b : α} :
    (nothing a : Fields σ α).inOrder o short index items = .ok (b, rest) ↔ b = a ∧ rest = items := by
  simp [nothing, eq_comm]

/-- A member consumes the first item, or takes its default at the end of the array. -/
theorem Fields.inOrder_one_iff {m : Member α} {get : σ → α} {a : α} :
    (one m get).inOrder o short index items = .ok (a, rest) ↔
      (∃ d, items = d :: rest ∧ m.read o d = .ok a) ∨ items = [] ∧ rest = [] ∧ m.short = some a := by
  cases items with
  | nil => cases h : m.short <;> simp [one, h, eq_comm, and_comm]
  | cons d items =>
    simp only [one, List.cons.injEq, reduceCtorEq, false_and, or_false]
    constructor
    · intro h
      cases hd : m.read o d with
      | error fault => simp [hd, Except.map] at h
      | ok b =>
        simp only [hd, Except.map, Except.ok.injEq, Prod.mk.injEq] at h
        exact ⟨d, ⟨rfl, h.2⟩, h.1 ▸ hd⟩
    · rintro ⟨_, ⟨rfl, rfl⟩, hd⟩
      rw [hd]
      rfl

theorem Fields.inOrder_both_iff {f : Fields σ (α → β)} {x : Fields σ α} {b : β} :
    (f.both x).inOrder o short index items = .ok (b, rest) ↔
      ∃ g a left, f.inOrder o short index items = .ok (g, left) ∧
        x.inOrder o short (index + f.size) left = .ok (a, rest) ∧ b = g a := by
  constructor
  · intro h
    obtain ⟨⟨g, left⟩, hf, h⟩ := bind_eq_ok h
    obtain ⟨⟨a, _⟩, hx, h⟩ := bind_eq_ok h
    cases h
    exact ⟨g, a, left, hf, hx, rfl⟩
  · rintro ⟨g, a, left, hf, hx, rfl⟩
    simp only [both, hf, hx, bind, Except.bind, pure, Except.pure]

/-- A record is read from an array if and only if its fields consume all items. -/
theorem Record.read_array_iff {r : Record α} {a : α} : r.read o (.array items) = .ok a ↔
    r.fields.inOrder o
      (fun n => .invalidLength n (r.title ++ " with " ++ elements r.fields.size)) 0 items =
        .ok (a, []) := by
  constructor
  · intro h
    obtain ⟨⟨b, rest⟩, hb, h⟩ := bind_eq_ok h
    dsimp only at h
    split_ifs at h with hrest
    · cases h
      rw [hb, List.isEmpty_iff.mp hrest]
  · intro h
    simp only [read, h, bind, Except.bind, pure, Except.pure, List.isEmpty_nil, ↓reduceIte]

end Items

end Wire

namespace Rpc

open ReleaseDesk.Json ReleaseDesk.Wire

/-! ### Positional requests -/

/-- An array of the version, the id, the method and the parameters of a request. -/
inductive Positional : Json → Request → Prop
  | items {id params : Json} {identity : RequestId} {method : String}
      (h : Identifies (some id) (some identity)) :
    Positional (.array [.string "2.0", id, .string method, params])
      { id := some identity, method, params := arrivedValue (some params) }

/-- The items of a request. All four are required, since the last two members have no default. -/
theorem Request.inOrder_iff {o : Origin} {short : Nat → Wire.Fault} {items : List Draft}
    {r : Request} : record.fields.inOrder o short 0 items = .ok (r, []) ↔
      ∃ version id method params, items = [version, id, method, params] ∧
        Codec.string.read o version = .ok r.version ∧
        (RequestId.codec.read o id).map some = .ok r.id ∧
        Codec.string.read o method = .ok r.method ∧
        Codec.json.nullable.read o params = .ok r.params := by
  constructor
  · intro h
    obtain ⟨_, params, _, h₃, hparams, rfl⟩ := Fields.inOrder_both_iff.mp h
    obtain ⟨_, method, _, h₂, hmethod, rfl⟩ := Fields.inOrder_both_iff.mp h₃
    obtain ⟨_, id, _, h₁, hid, rfl⟩ := Fields.inOrder_both_iff.mp h₂
    obtain ⟨_, version, _, h₀, hversion, rfl⟩ := Fields.inOrder_both_iff.mp h₁
    obtain ⟨rfl, rfl⟩ := Fields.inOrder_nothing_iff.mp h₀
    obtain ⟨dp, rfl, hp⟩ | ⟨-, -, hp⟩ := Fields.inOrder_one_iff.mp hparams
    swap
    · cases hp
    obtain ⟨dm, rfl, hm⟩ | ⟨-, -, hm⟩ := Fields.inOrder_one_iff.mp hmethod
    swap
    · cases hm
    obtain ⟨di, rfl, hi⟩ | ⟨-, hi, -⟩ := Fields.inOrder_one_iff.mp hid
    swap
    · cases hi
    obtain ⟨dv, rfl, hv⟩ | ⟨-, hv, -⟩ := Fields.inOrder_one_iff.mp hversion
    swap
    · cases hv
    exact ⟨dv, di, dm, dp, rfl, hv, hi, hm, hp⟩
  · rintro ⟨version, id, method, params, rfl, hversion, hid, hmethod, hparams⟩
    have h₀ : (Fields.nothing Request.mk : Fields Request _).inOrder o short 0
        [version, id, method, params] = .ok (Request.mk, [version, id, method, params]) := rfl
    have hv : (required "jsonrpc" .string Request.version).inOrder o short 0
        [version, id, method, params] = .ok (r.version, [id, method, params]) :=
      Fields.inOrder_one_iff.mpr (.inl ⟨version, rfl, hversion⟩)
    have hi : (Fields.one (.present "id" RequestId.codec) Request.id).inOrder o short 1
        [id, method, params] = .ok (r.id, [method, params]) :=
      Fields.inOrder_one_iff.mpr (.inl ⟨id, rfl, hid⟩)
    have hm : (required "method" .string Request.method).inOrder o short 2 [method, params] =
        .ok (r.method, [params]) :=
      Fields.inOrder_one_iff.mpr (.inl ⟨method, rfl, hmethod⟩)
    have hp : (Wire.optional "params" .json Request.params).inOrder o short 3 [params] =
        .ok (r.params, []) :=
      Fields.inOrder_one_iff.mpr (.inl ⟨params, rfl, hparams⟩)
    have h₁ := Fields.inOrder_both_iff.mpr ⟨_, _, _, h₀, hv, rfl⟩
    have h₂ := Fields.inOrder_both_iff.mpr ⟨_, _, _, h₁, hi, rfl⟩
    have h₃ := Fields.inOrder_both_iff.mpr ⟨_, _, _, h₂, hm, rfl⟩
    exact Fields.inOrder_both_iff.mpr ⟨_, _, _, h₃, hp, rfl⟩

theorem Request.ofJson_positional_iff {v : Json} (hv : ∀ ms, v ≠ .object ms) {r : Request} :
    ofJson v = .ok r ↔ Positional v r := by
  rw [ofJson_eq_ok]
  constructor
  · rintro ⟨hread, htwo⟩
    cases v with
    | object ms => exact absurd rfl (hv ms)
    | array items =>
      obtain ⟨_, _, _, _, hitems, hversion, hid, hmethod, hparams⟩ :=
        inOrder_iff.mp (Record.read_array_iff.mp hread)
      obtain _ | ⟨version, _ | ⟨id, _ | ⟨method, _ | ⟨params, _ | ⟨_, _⟩⟩⟩⟩⟩ := items <;>
        cases hitems
      obtain ⟨_, _, _, _⟩ := r
      obtain rfl : version = .string "2.0" := by
        have hnormal := congrArg some (read_string_iff.mp hversion)
        exact Option.some.inj (map_normal_eq_string.mp (htwo ▸ hnormal))
      obtain rfl := htwo
      obtain rfl := Option.some.inj
        (map_normal_eq_string.mp (congrArg some (read_string_iff.mp hmethod)))
      obtain rfl := (read_optional_iff.mp hparams).trans (arrivedValue_normal (some params))
      cases hi : RequestId.codec.read .tree (.ofJson id.normal) with
      | error fault => simp [hi, Except.map] at hid
      | ok identity =>
        rw [hi] at hid
        cases hid
        exact .items (identifies_normal.mp (RequestId.read_iff.mp hi))
    | _ => cases hread
  · rintro ⟨h⟩
    have hid := RequestId.read_iff (o := .tree) |>.mpr (identifies_normal.mpr h)
    refine ⟨Record.read_array_iff.mpr (inOrder_iff.mpr ⟨_, _, _, _, rfl, rfl, ?_, rfl, ?_⟩), rfl⟩
    · exact congrArg (Except.map some) hid
    · exact read_optional_iff.mpr (arrivedValue_normal (some _)).symm

/-- The first item of a batch is an object, so that it is not a positional request. -/
theorem not_positional_batch (ms : List (String × Json)) (rest : List Json) (r : Request) :
    ¬Positional (.array (.object ms :: rest)) r := nofun

end Rpc

namespace Stream

open ReleaseDesk.Json ReleaseDesk.Rpc ReleaseDesk.Service ReleaseDesk.Text

/-- The turn on a line with a document. -/
theorem serveSegment_document {cs : List Char} {v : Json} (h : Document (trim cs) v) (s : Server ω) :
    serveSegment s (Utf8.encode cs) = match Request.ofJson v with
      | .ok r => ({ sent := (s.handle r).1, answer := (s.handle r).2.1 }, (s.handle r).2.2)
      | .error refusal => ({ answer := some refusal.fault.reply }, s) := by
  have htrim : trim cs ≠ [] := by
    intro hnil
    rw [hnil] at h
    obtain ⟨d, hd, -⟩ := document_iff.mp h
    cases hd
  have hparse : Request.parse (String.ofList (trim cs)) = Request.ofJson v :=
    Request.parse_document (by rwa [String.toList_ofList])
  rw [serveSegment, arrivalOfOctets_text htrim, hparse]
  cases Request.ofJson v <;> rfl

/-- A line that leaves every server unchanged adds its turn to the session. -/
theorem runSession_insert {segment : List UInt8} {turn : Turn}
    (h : ∀ s : Server ω, serveSegment s segment = (turn, s)) {server : Server ω}
    (hw : server.stopRequested = false) {pipe : Pipe} (hp : pipe.takes = true) {input input' : List UInt8}
    {before after : List (List UInt8)} (hinput : segments input = before ++ segment :: after)
    (hinput' : segments input' = before ++ after) :
    ∃ ts us, (runSession server pipe input').link = pipe.after ((ts ++ us).flatMap Turn.lines) ∧
      runSession server pipe input =
        { runSession server pipe input' with
          link := pipe.after ((ts ++ turn :: us).flatMap Turn.lines) } := by
  have hserve : serveSegments server.entering (before ++ segment :: after) =
      ((serveSegments server.entering before).1 ++
        turn :: (serveSegments (serveSegments server.entering before).2 after).1,
        (serveSegments (serveSegments server.entering before).2 after).2) := by
    rw [serveSegments_append, serveSegments, h]
  rw [runSession_of_takes hw hp, runSession_of_takes hw hp, hinput, hinput', hserve,
    serveSegments_append]
  exact ⟨_, _, rfl, rfl⟩

/-- A line with a JSON value that is not an object is carried out if the value is a positional
request. Otherwise it is answered with an invalid-request error under the null id, the server is
unchanged, and the rest of the session is the same as without the line. -/
theorem only_positional_carried_out {cs : List Char} {v : Json} (h : Document (trim cs) v)
    (hv : ∀ ms, v ≠ .object ms) :
    (∀ r, Positional v r → ∀ s : Server ω, serveSegment s (Utf8.encode cs) =
      ({ sent := (s.handle r).1, answer := (s.handle r).2.1 }, (s.handle r).2.2)) ∧
    ((¬∃ r, Positional v r) → ∃ detail,
      let turn : Turn :=
        { answer := some (.failure none { code := -32600, message := "Invalid request: " ++ detail }) }
      (∀ s : Server ω, serveSegment s (Utf8.encode cs) = (turn, s)) ∧
      ∀ server : Server ω, server.stopRequested = false → ∀ pipe : Pipe, pipe.takes = true →
        ∀ input input' before after, segments input = before ++ Utf8.encode cs :: after →
        segments input' = before ++ after →
        ∃ ts us, (runSession server pipe input').link = pipe.after ((ts ++ us).flatMap Turn.lines) ∧
          runSession server pipe input = { runSession server pipe input' with
            link := pipe.after ((ts ++ turn :: us).flatMap Turn.lines) }) := by
  constructor
  · intro r hr s
    rw [serveSegment_document h, (Request.ofJson_positional_iff hv).mpr hr]
  · intro hnone
    cases hread : Request.ofJson v with
    | ok r => exact absurd ⟨r, (Request.ofJson_positional_iff hv).mp hread⟩ hnone
    | error refusal =>
      obtain ⟨detail, hdetail⟩ := Request.ofJson_fault hread
      have hserve (s : Server ω) : serveSegment s (Utf8.encode cs) =
          ({ answer := some (Fault.invalidRequest detail).reply }, s) := by
        rw [serveSegment_document h, hread, ← hdetail]
      exact ⟨detail, hserve, fun server hw pipe hp input input' before after hinput hinput' =>
        runSession_insert hserve hw hp hinput hinput'⟩

/-! ### A positional setting -/

/-- A server with the logging capability and no handlers. -/
def logger : Server Unit where
  service := { info := ⟨"relicta-mcp", "0.1.0"⟩, capabilities := { logging := some {} } }
  scene := { world := (), supply := ⟨.epoch, 0⟩ }

def positionalSetLevel : Json :=
  .array [.string "2.0", .integer 1, .string "logging/setLevel", .object [("level", .string "error")]]

def positionalLine : String := "[\"2.0\",1,\"logging/setLevel\",\x7b\"level\":\"error\"\x7d]\n"

def batch : Json :=
  .array [.object [("jsonrpc", .string "2.0"), ("id", .integer 1), ("method", .string "ping")]]

def batchLine : String := "[\x7b\"jsonrpc\":\"2.0\",\"id\":1,\"method\":\"ping\"\x7d]\n"

theorem document_batchLine : Document batchLine.toList batch := by
  have hdraft : draft batchLine.toList = (.ofJson batch, true) := by
    simp only [batchLine, batch, String.reduceToList]
    rfl
  exact document_iff.mpr ⟨_, hdraft, Draft.written?_ofJson batch⟩

theorem document_positionalLine : Document positionalLine.toList positionalSetLevel := by
  have hdraft : draft positionalLine.toList = (.ofJson positionalSetLevel, true) := by
    simp only [positionalLine, positionalSetLevel, String.reduceToList]
    rfl
  exact document_iff.mpr ⟨_, hdraft, Draft.written?_ofJson positionalSetLevel⟩

def setLevelRequest : Request :=
  { id := some (.number 1), method := "logging/setLevel"
    params := some (.object [("level", .string "error")]) }

theorem positional_setLevelRequest : Positional positionalSetLevel setLevelRequest :=
  .items (.number (by decide) (by decide))

/-- A batch is rejected, while a positional request is carried out. -/
theorem only_positional_carried_out_logger :
    (∃ detail, serveSegment logger (Utf8.encode batchLine.toList) =
        ({ answer := some (.failure none { code := -32600, message := "Invalid request: " ++ detail }) },
          logger)) ∧
      serveSegment logger (Utf8.encode positionalLine.toList) =
        ({ sent := (logger.handle setLevelRequest).1, answer := (logger.handle setLevelRequest).2.1 },
          (logger.handle setLevelRequest).2.2) := by
  obtain ⟨detail, hbatch, -⟩ := (only_positional_carried_out document_batchLine.trim nofun).2
    fun ⟨r, hr⟩ => not_positional_batch _ _ r hr
  exact ⟨⟨detail, hbatch logger⟩,
    (only_positional_carried_out document_positionalLine.trim nofun).1 setLevelRequest
      positional_setLevelRequest logger⟩

/-- A positional request is answered with a result and sets the log filter. -/
theorem level_set_by_position :
    ¬∀ (cs : List Char) (v : Json), Document cs v → (∀ ms, v ≠ .object ms) →
      ∀ s : Server Unit, ∃ detail, serveSegment s (Utf8.encode cs) = ({ answer := some (.failure none
        { code := -32600, message := "Invalid request: " ++ detail }) }, s) := by
  intro h
  have hobject (ms : List (String × Json)) : positionalSetLevel ≠ .object ms := nofun
  obtain ⟨detail, hserve⟩ := h positionalLine.toList positionalSetLevel document_positionalLine hobject logger
  have hread : Request.ofJson positionalSetLevel = .ok setLevelRequest :=
    (Request.ofJson_positional_iff hobject).mpr positional_setLevelRequest
  rw [serveSegment_document document_positionalLine.trim, hread] at hserve
  have hlevel : (logger.handle setLevelRequest).2.2.scene.level = logger.scene.level :=
    congrArg (·.2.scene.level) hserve
  revert hlevel
  decide

end Stream

end ReleaseDesk
