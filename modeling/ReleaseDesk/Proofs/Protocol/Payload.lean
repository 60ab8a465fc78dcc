import ReleaseDesk.Protocol.Call
import ReleaseDesk.Protocol.Catalogue
import ReleaseDesk.Protocol.Handshake
import ReleaseDesk.Protocol.Notice
import ReleaseDesk.Proofs.Rpc.Envelope

/-! Encoding followed by decoding of the payloads of the protocol. Records are conveyed since their
members are. Untagged resource contents are distinguished by the member `text`, and content items by
their tag. Results of calls are of bounded depth and contain no numbers. -/

namespace ReleaseDesk.Protocol

open ReleaseDesk.Json ReleaseDesk.Wire ReleaseDesk.Wire.Fields

theorem write_ne_null (r : Record α) (a : α) : r.codec.write a ≠ .null := nofun

theorem conveys_words {get : σ → Option String} (s : σ) (name : String) :
    (optional name .string get).Conveys [name] s (get s) :=
  conveys_optional (fun w _ => Codec.conveys_string w) (fun _ _ => nofun) name

/-- An optional flag, for which `none` and `some false` are encoded differently. -/
theorem conveys_flag {get : σ → Option Bool} (s : σ) (name : String) :
    (optional name .bool get).Conveys [name] s (get s) :=
  conveys_optional (fun b _ => Codec.conveys_bool b) (fun _ _ => nofun) name

/-! ### The handshake -/

theorem Implementation.conveys (i : Implementation) : codec.Conveys i i := by
  have hfields : record.fields.Carries ["name", "version"] i i :=
    ((carries_nothing i Implementation.mk).both
      (conveys_required (Codec.conveys_string i.name) "name")).both
      (conveys_required (Codec.conveys_string i.version) "version")
  exact Record.conveys_of_carries hfields (by decide)

theorem ToolsCapability.conveys (c : ToolsCapability) : codec.Conveys c c :=
  Record.conveys_of_carries ((carries_nothing c ToolsCapability.mk).both
    (conveys_flag c "listChanged")) (by decide)

theorem ResourcesCapability.conveys (c : ResourcesCapability) : codec.Conveys c c := by
  have hfields : record.fields.Carries ["subscribe", "listChanged"] c c :=
    ((carries_nothing c ResourcesCapability.mk).both (conveys_flag c "subscribe")).both
      (conveys_flag c "listChanged")
  exact Record.conveys_of_carries hfields (by decide)

theorem PromptsCapability.conveys (c : PromptsCapability) : codec.Conveys c c :=
  Record.conveys_of_carries ((carries_nothing c PromptsCapability.mk).both
    (conveys_flag c "listChanged")) (by decide)

theorem LoggingCapability.conveys (c : LoggingCapability) : codec.Conveys c c :=
  Record.conveys (conveys_nothing c c) (by decide)

theorem ServerCapabilities.conveys (c : ServerCapabilities) : codec.Conveys c c := by
  have hfields : record.fields.Carries ["tools", "resources", "prompts", "logging"] c c :=
    ((((carries_nothing c ServerCapabilities.mk).both
      (conveys_optional (fun t _ => t.conveys) (fun t _ => write_ne_null _ t) "tools")).both
      (conveys_optional (fun r _ => r.conveys) (fun r _ => write_ne_null _ r) "resources")).both
      (conveys_optional (fun p _ => p.conveys) (fun p _ => write_ne_null _ p) "prompts")).both
      (conveys_optional (fun l _ => l.conveys) (fun l _ => write_ne_null _ l) "logging")
  exact Record.conveys_of_carries hfields (by decide)

theorem Welcome.conveys (w : Welcome) : codec.Conveys w w := by
  have hfields : record.fields.Carries ["protocolVersion", "capabilities", "serverInfo",
    "instructions"] w w :=
    ((((carries_nothing w Welcome.mk).both
      (conveys_required (Codec.conveys_string w.protocolVersion) "protocolVersion")).both
      (conveys_required w.capabilities.conveys "capabilities")).both
      (conveys_required w.serverInfo.conveys "serverInfo")).both
      (conveys_words w "instructions")
  exact Record.conveys_of_carries hfields (by decide)

/-! ### The catalogue -/

/-- A tool after encoding and decoding, with its schema in normal form. -/
def Tool.arrived (t : Tool) : Tool := { t with inputSchema := t.inputSchema.normal }

theorem Tool.conveys (t : Tool) : codec.Conveys t t.arrived := by
  have hfields : record.fields.Carries ["name", "description", "inputSchema"] t t.arrived :=
    (((carries_nothing t Tool.mk).both
      (conveys_required (Codec.conveys_string t.name) "name")).both
      (conveys_words t "description")).both
      (conveys_required (Codec.conveys_json t.inputSchema) "inputSchema")
  exact Record.conveys_of_carries hfields (by decide)

def ToolPage.arrived (p : ToolPage) : ToolPage := { p with tools := p.tools.map Tool.arrived }

theorem ToolPage.conveys (p : ToolPage) : codec.Conveys p p.arrived := by
  have hfields : record.fields.Carries ["tools", "nextCursor"] p p.arrived :=
    ((carries_nothing p ToolPage.mk).both
      (conveys_required (Codec.conveys_list_map fun t _ => t.conveys) "tools")).both
      (conveys_words p "nextCursor")
  exact Record.conveys_of_carries hfields (by decide)

theorem ToolPage.arrived_of_normal {p : ToolPage} (h : ∀ t ∈ p.tools, t.inputSchema.normal = t.inputSchema) :
    p.arrived = p := by
  have hsame : ∀ t ∈ p.tools, t.arrived = id t := by
    intro t ht
    rw [Tool.arrived, h t ht, id]
  rw [arrived, List.map_congr_left hsame, List.map_id]

theorem Resource.conveys (r : Resource) : codec.Conveys r r := by
  have hfields : record.fields.Carries ["uri", "name", "description", "mimeType"] r r :=
    ((((carries_nothing r Resource.mk).both
      (conveys_required (Codec.conveys_string r.uri) "uri")).both
      (conveys_required (Codec.conveys_string r.name) "name")).both
      (conveys_words r "description")).both
      (conveys_words r "mimeType")
  exact Record.conveys_of_carries hfields (by decide)

theorem ResourcePage.conveys (p : ResourcePage) : codec.Conveys p p := by
  have hfields : record.fields.Carries ["resources", "nextCursor"] p p :=
    ((carries_nothing p ResourcePage.mk).both
      (conveys_required (Codec.conveys_list fun r _ => r.conveys) "resources")).both
      (conveys_words p "nextCursor")
  exact Record.conveys_of_carries hfields (by decide)

theorem PromptArgument.conveys (a : PromptArgument) : codec.Conveys a a := by
  have hfields : record.fields.Carries ["name", "description", "required"] a a :=
    (((carries_nothing a PromptArgument.mk).both
      (conveys_required (Codec.conveys_string a.name) "name")).both
      (conveys_words a "description")).both
      (conveys_flag a "required")
  exact Record.conveys_of_carries hfields (by decide)

theorem Prompt.conveys (p : Prompt) : codec.Conveys p p := by
  have hfields : record.fields.Carries ["name", "description", "arguments"] p p :=
    (((carries_nothing p Prompt.mk).both
      (conveys_required (Codec.conveys_string p.name) "name")).both
      (conveys_words p "description")).both
      (conveys_optional (fun _ _ => Codec.conveys_list fun a _ => a.conveys) (fun _ _ => nofun) "arguments")
  exact Record.conveys_of_carries hfields (by decide)

theorem PromptPage.conveys (p : PromptPage) : codec.Conveys p p := by
  have hfields : record.fields.Carries ["prompts", "nextCursor"] p p :=
    ((carries_nothing p PromptPage.mk).both
      (conveys_required (Codec.conveys_list fun q _ => q.conveys) "prompts")).both
      (conveys_words p "nextCursor")
  exact Record.conveys_of_carries hfields (by decide)

/-! ### Contents -/

theorem TextContents.conveys (t : TextContents) : record.codec.Conveys t t := by
  have hfields : record.fields.Carries ["uri", "mimeType", "text"] t t :=
    (((carries_nothing t TextContents.mk).both
      (conveys_required (Codec.conveys_string t.uri) "uri")).both
      (conveys_words t "mimeType")).both
      (conveys_required (Codec.conveys_string t.text) "text")
  exact Record.conveys_of_carries hfields (by decide)

theorem BlobContents.fields_convey (b : BlobContents) :
    record.fields.Conveys ["uri", "mimeType", "blob"] b b := by
  have hfields : record.fields.Carries ["uri", "mimeType", "blob"] b b :=
    (((carries_nothing b BlobContents.mk).both
      (conveys_required (Codec.conveys_string b.uri) "uri")).both
      (conveys_words b "mimeType")).both
      (conveys_required (Codec.conveys_string b.blob) "blob")
  exact hfields (by decide)

theorem TextContents.need_text : record.fields.Need "text" :=
  have uri : (required "uri" .string TextContents.uri).Ignore "text" := one_ignore (by decide)
  have mimeType : (optional "mimeType" .string TextContents.mimeType).Ignore "text" := one_ignore (by decide)
  (need_required "text" .string TextContents.text).both_right
    (ignore_or_one _ (both_ignore (both_ignore (nothing_ignore TextContents.mk "text") uri) mimeType))

theorem ResourceContents.conveys (r : ResourceContents) : codec.Conveys r r := by
  cases r with
  | text t =>
    have hread {v : Json} (h : TextContents.record.codec.read .aside (.ofJson v) = .ok t) (o : Origin) :
        codec.read o (.ofJson v) = .ok (text t) := by
      have hfirst : (TextContents.record.codec.read .aside (.ofJson v)).map text = .ok (text t) := by
        rw [h]
        rfl
      exact (Codec.readAside_ofJson _ v).trans (Codec.readFirst_ok hfirst _ _)
    exact fun o => ⟨hread (t.conveys .aside).1 o, hread (t.conveys .aside).2 o⟩
  | blob b =>
    have hconveys : BlobContents.record.codec.Conveys b b := Record.conveys b.fields_convey (by decide)
    have hread {v : Json} {fault : Fault}
        (htext : TextContents.record.codec.read .aside (.ofJson v) = .error fault)
        (h : BlobContents.record.codec.read .aside (.ofJson v) = .ok b) (o : Origin) :
        codec.read o (.ofJson v) = .ok (blob b) := by
      have hfirst : (TextContents.record.codec.read .aside (.ofJson v)).map text = .error fault := by
        rw [htext]
        rfl
      have hnext : (BlobContents.record.codec.read .aside (.ofJson v)).map blob = .ok (blob b) := by
        rw [h]
        rfl
      exact (Codec.readAside_ofJson _ v).trans
        ((Codec.readFirst_error hfirst _ _).trans (Codec.readFirst_ok hnext _ _))
    have hkey : "text" ∉ (BlobContents.record.members b).map (·.1) := fun hmem =>
      absurd (b.fields_convey.writes.subset hmem) (by decide)
    obtain ⟨⟨fault, hf⟩, ⟨fault', hf'⟩⟩ := Record.refuses TextContents.need_text hkey .aside
    exact fun o => ⟨hread hf (hconveys .aside).1 o, hread hf' (hconveys .aside).2 o⟩

theorem Content.conveys (c : Content) : codec.Conveys c c := by
  cases c with
  | text s =>
    have hfields : textRecord.fields.Conveys ["text"] s s :=
      conveys_required (Codec.conveys_string s) "text"
    have hkind : tagged.kinds.find? (·.1 = "text") =
        some ("text", fun d => (textRecord.read .aside d).map text) := rfl
    exact fun _ => Tagged.conveys hkind hfields (by decide)
  | image data mimeType =>
    have hfields : imageRecord.fields.Carries ["data", "mimeType"] (data, mimeType) (data, mimeType) :=
      ((carries_nothing (data, mimeType) Prod.mk).both
        (conveys_required (Codec.conveys_string data) "data")).both
        (conveys_required (Codec.conveys_string mimeType) "mimeType")
    have hkind : tagged.kinds.find? (·.1 = "image") = some ("image", fun d =>
        (imageRecord.read .aside d).map fun i => image i.1 i.2) := rfl
    exact fun _ => Tagged.conveys hkind (hfields (by decide)) (by decide)
  | resource r =>
    have hfields : resourceRecord.fields.Conveys ["resource"] r r := conveys_required r.conveys "resource"
    have hkind : tagged.kinds.find? (·.1 = "resource") =
        some ("resource", fun d => (resourceRecord.read .aside d).map resource) := rfl
    exact fun _ => Tagged.conveys hkind hfields (by decide)

/-! ### Results of calls -/

theorem ToolResult.conveys (r : ToolResult) : codec.Conveys r r := by
  have hfields : record.fields.Carries ["content", "isError"] r r :=
    ((carries_nothing r ToolResult.mk).both
      (conveys_required (Codec.conveys_list fun c _ => c.conveys) "content")).both
      (conveys_defaulted (Codec.conveys_bool r.isError) "isError" false)
  exact Record.conveys_of_carries hfields (by decide)

theorem ResourceResult.conveys (r : ResourceResult) : codec.Conveys r r := by
  have hfields : record.fields.Carries ["contents", "isError"] r r :=
    ((carries_nothing r ResourceResult.mk).both
      (conveys_required (Codec.conveys_list fun c _ => c.conveys) "contents")).both
      (conveys_defaulted (Codec.conveys_bool r.isError) "isError" false)
  exact Record.conveys_of_carries hfields (by decide)

theorem PromptMessage.conveys (m : PromptMessage) : codec.Conveys m m := by
  have hrole : Role.choice.codec.Conveys m.role m.role := Choice.conveys (by cases m.role <;> decide)
  have hfields : record.fields.Carries ["role", "content"] m m :=
    ((carries_nothing m PromptMessage.mk).both (conveys_required hrole "role")).both
      (conveys_required m.content.conveys "content")
  exact Record.conveys_of_carries hfields (by decide)

theorem PromptResult.conveys (r : PromptResult) : codec.Conveys r r := by
  have hfields : record.fields.Carries ["description", "messages"] r r :=
    ((carries_nothing r PromptResult.mk).both (conveys_words r "description")).both
      (conveys_required (Codec.conveys_list fun m _ => m.conveys) "messages")
  exact Record.conveys_of_carries hfields (by decide)

/-! ### Notices -/

theorem LogMessage.conveys {m : LogMessage} (h : m.data.normal = m.data) : codec.Conveys m m := by
  have hlevel : LogLevel.choice.codec.Conveys m.level m.level := Choice.conveys (by cases m.level <;> decide)
  have hdata : Codec.json.Conveys m.data m.data := by
    have hnormal := Codec.conveys_json m.data
    rwa [h] at hnormal
  have hfields : record.fields.Carries ["level", "logger", "data"] m m :=
    (((carries_nothing m LogMessage.mk).both (conveys_required hlevel "level")).both
      (conveys_words m "logger")).both
      (conveys_required hdata "data")
  exact Record.conveys_of_carries hfields (by decide)

/-- A numeric token fits a signed 64-bit integer. -/
def ProgressToken.InRange : ProgressToken → Prop
  | .string _ => True
  | .number n => Number.least ≤ n ∧ n < -Number.least

theorem ProgressToken.conveys {t : ProgressToken} (h : t.InRange) : codec.Conveys t t := by
  intro o
  cases t with
  | string s => exact ⟨rfl, rfl⟩
  | number n =>
    have hlong : Codec.long.read .aside (.ofJson (.integer n)) = .ok n :=
      (Codec.conveys_integer h.1 h.2 .aside).1
    have hread : codec.read o (.ofJson (.integer n)) = .ok (.number n) := by
      simp only [codec, Codec.readAside_ofJson, Codec.readFirst, hlong]
      rfl
    exact ⟨hread, hread⟩

/-- The numbers of a report fit 64 bits. -/
structure Progress.InRange (p : Progress) : Prop where
  token : p.token.InRange
  done : (p.done : Int) < Number.bound
  total : ∀ n ∈ p.total, (n : Int) < Number.bound

theorem Progress.conveys {p : Progress} (h : p.InRange) : codec.Conveys p p := by
  have hkind : ProgressKind.choice.codec.Conveys p.kind p.kind := Choice.conveys (by cases p.kind <;> decide)
  have hfields : record.fields.Carries
      ["progressToken", "kind", "progress", "total", "percentage", "message"] p p :=
    ((((((carries_nothing p Progress.mk).both
      (conveys_required (ProgressToken.conveys h.token) "progressToken")).both
      (conveys_required hkind "kind")).both
      (conveys_required (Codec.conveys_natural h.done) "progress")).both
      (conveys_optional (fun n hn => Codec.conveys_natural (h.total n hn)) (fun _ _ => nofun) "total")).both
      (conveys_required (Codec.conveys_real p.percentage) "percentage")).both
      (conveys_words p "message")
  exact Record.conveys_of_carries hfields (by decide)

/-! ### Round trips -/

/-- Encoding to a JSON value and decoding it returns the value. -/
def Returns (c : Codec α) (a : α) : Prop := c.ofJson (c.toJson a) = .ok a

theorem Returns.inj {c : Codec α} {a b : α} (ha : Returns c a) (hb : Returns c b)
    (h : c.toJson a = c.toJson b) : a = b := by
  have hsame : (Except.ok a : Except Fault α) = .ok b :=
    calc Except.ok a = c.ofJson (c.toJson a) := ha.symm
      _ = c.ofJson (c.toJson b) := by rw [h]
      _ = .ok b := hb
  exact Except.ok.inj hsame

/-- Every payload that a server sends is returned by encoding and decoding. JSON values inside a
payload are in normal form, and the numbers of a progress report fit 64 bits. In particular, the
variant of a content item, of resource contents and of a token is preserved, and encoding server
capabilities is injective. -/
theorem payloads_return :
    (∀ w, Returns Welcome.codec w) ∧
    (∀ p : ToolPage, (∀ t ∈ p.tools, t.inputSchema.normal = t.inputSchema) → Returns ToolPage.codec p) ∧
    (∀ p, Returns ResourcePage.codec p) ∧
    (∀ p, Returns PromptPage.codec p) ∧
    (∀ r, Returns ToolResult.codec r) ∧
    (∀ r, Returns ResourceResult.codec r) ∧
    (∀ r, Returns PromptResult.codec r) ∧
    (∀ m : LogMessage, m.data.normal = m.data → Returns LogMessage.codec m) ∧
    (∀ p : Progress, p.InRange → Returns Progress.codec p) ∧
    (∀ c, Returns Content.codec c) ∧
    (∀ r, Returns ResourceContents.codec r) ∧
    (∀ s, Returns ProgressToken.codec (.string s)) ∧
    (∀ c c', ServerCapabilities.codec.toJson c = ServerCapabilities.codec.toJson c' → c = c') := by
  have capabilities (c : ServerCapabilities) : Returns ServerCapabilities.codec c := c.conveys.ofJson_toJson
  refine ⟨fun w => w.conveys.ofJson_toJson,
    fun p h => p.conveys.ofJson_toJson.trans (congrArg _ (ToolPage.arrived_of_normal h)),
    fun p => p.conveys.ofJson_toJson, fun p => p.conveys.ofJson_toJson, fun r => r.conveys.ofJson_toJson,
    fun r => r.conveys.ofJson_toJson, fun r => r.conveys.ofJson_toJson,
    fun m h => (LogMessage.conveys h).ofJson_toJson, fun p h => (Progress.conveys h).ofJson_toJson,
    fun c => c.conveys.ofJson_toJson, fun r => r.conveys.ofJson_toJson, fun s => ?_, fun c c' h => ?_⟩
  · have token : ProgressToken.codec.Conveys (.string s) (.string s) := ProgressToken.conveys trivial
    exact token.ofJson_toJson
  · exact (capabilities c).inj (capabilities c') h

/-- A tool with a schema, a log message with data, and a report with a numeric token. -/
theorem payloads_return_in_memory :
    Returns ToolPage.codec
      { tools := [{
          name := "plan"
          inputSchema := .object [("properties", .object []), ("type", .string "object")] }],
        nextCursor := some "" } ∧
    Returns LogMessage.codec { level := .warning, data := .array [.null, .object [("", .integer (-1))]] } ∧
    Returns Progress.codec
      { token := .number (-7), kind := .report, done := 3, total := some 0, percentage := .hundred } := by
  refine ⟨payloads_return.2.1 _ ?_, payloads_return.2.2.2.2.2.2.2.1 _ ?_,
    payloads_return.2.2.2.2.2.2.2.2.1 _ ?_⟩
  · intro t ht
    rw [List.mem_singleton.mp ht]
    rfl
  · rfl
  · exact ⟨⟨by decide, by decide⟩, by decide, by simp [Number.bound]⟩

/-! ### Sizes of results -/

theorem TextContents.members_eq (t : TextContents) :
    record.members t = ("uri", .string t.uri) ::
      ((t.mimeType.map fun s => ("mimeType", .string s)).toList ++ [("text", .string t.text)]) := by
  obtain ⟨uri, mimeType, text⟩ := t
  cases mimeType <;> rfl

theorem BlobContents.members_eq (b : BlobContents) :
    record.members b = ("uri", .string b.uri) ::
      ((b.mimeType.map fun s => ("mimeType", .string s)).toList ++ [("blob", .string b.blob)]) := by
  obtain ⟨uri, mimeType, blob⟩ := b
  cases mimeType <;> rfl

theorem strings_plain {ms : List (String × Json)} (h : ∀ m ∈ ms, ∃ s, m.2 = .string s) :
    (Json.object ms).depth ≤ 1 ∧ (Json.object ms).Legible := by
  refine object_plain fun m hm => ?_
  obtain ⟨s, hs⟩ := h m hm
  rw [hs]
  exact ⟨Nat.le_refl 0, trivial⟩

theorem ResourceContents.write_plain (r : ResourceContents) :
    (codec.write r).depth ≤ 1 ∧ (codec.write r).Legible := by
  cases r with
  | text t =>
    show (Json.object (TextContents.record.members t)).depth ≤ 1 ∧
      (Json.object (TextContents.record.members t)).Legible
    rw [TextContents.members_eq]
    apply strings_plain
    cases t.mimeType <;> simp
  | blob b =>
    show (Json.object (BlobContents.record.members b)).depth ≤ 1 ∧
      (Json.object (BlobContents.record.members b)).Legible
    rw [BlobContents.members_eq]
    apply strings_plain
    cases b.mimeType <;> simp

theorem Content.write_plain (c : Content) : (codec.write c).depth ≤ 2 ∧ (codec.write c).Legible := by
  have hstring (s : String) : (Json.string s).depth ≤ 1 ∧ (Json.string s).Legible := ⟨Nat.zero_le 1, trivial⟩
  cases c with
  | text s =>
    show (Json.object [("type", .string "text"), ("text", .string s)]).depth ≤ 2 ∧ _
    apply object_plain
    simp [hstring]
  | image data mimeType =>
    show (Json.object [("type", .string "image"), ("data", .string data),
      ("mimeType", .string mimeType)]).depth ≤ 2 ∧ _
    apply object_plain
    simp [hstring]
  | resource r =>
    show (Json.object [("type", .string "resource"),
      ("resource", ResourceContents.codec.write r)]).depth ≤ 2 ∧ _
    apply object_plain
    simp [hstring, r.write_plain]

theorem flagged_plain {vs : List Json} {d : Nat} (h : ∀ v ∈ vs, v.depth ≤ d ∧ v.Legible) (name : String)
    (flag : Bool) : (Json.object [(name, .array vs), ("isError", .bool flag)]).depth ≤ d + 2 ∧
      (Json.object [(name, .array vs), ("isError", .bool flag)]).Legible := by
  have hflag : (Json.bool flag).depth ≤ d + 1 ∧ (Json.bool flag).Legible := ⟨Nat.zero_le _, trivial⟩
  apply object_plain
  simp [hflag, array_plain h]

theorem ToolResult.write_plain (r : ToolResult) : (codec.write r).depth ≤ 4 ∧ (codec.write r).Legible :=
  flagged_plain (List.forall_mem_map.mpr fun c _ => c.write_plain) "content" r.isError

theorem ResourceResult.write_plain (r : ResourceResult) :
    (codec.write r).depth ≤ 3 ∧ (codec.write r).Legible :=
  flagged_plain (List.forall_mem_map.mpr fun c _ => c.write_plain) "contents" r.isError

end ReleaseDesk.Protocol
