import ReleaseDesk.Client
import ReleaseDesk.Proofs.Client.Null
import ReleaseDesk.Proofs.Protocol.Payload

/-! Typed results. A tool or a resource prints a value as an indented text inside its result, which
is itself printed when it is sent. Decoding undoes both: results are conveyed and of bounded depth,
the first text of a result is found behind items without one, and the indented text of a value is
decoded like the value. -/

namespace ReleaseDesk.Client

open ReleaseDesk.Json ReleaseDesk.Protocol ReleaseDesk.Rpc ReleaseDesk.Stream ReleaseDesk.Wire

/-! ### Over a line -/

theorem Talk.run_call_textSignals {c : Codec α} {v : Json} {b : α}
    (hread : c.ofJson v.normal = .ok b) (hv : v ≠ .null)
    (hd : v.depth ≤ 126) (hl : v.Legible) {caller : Caller Channel κ} (hopen : caller.closed = false)
    (hclear : caller.link.pipe.Clear) (hid : (RequestId.number caller.nextId).InRange)
    (hincoming : caller.link.incoming = Wired.textSignals (answerText (.number caller.nextId) v))
    (method : String)
    (params : Option Json) : ((Talk.call c method params).run.run caller).1 = .ok b := by
  have hawait : await (some (.number caller.nextId)) [] caller.link.incoming =
      (.ok { id := some (.number caller.nextId), result := some v.normal }, [], []) := by
    have hanswer := await_answer hid hd hl []
    rwa [signals_nil, List.append_nil, if_neg (by simp), arrivedValue_some hv, ← hincoming] at hanswer
  have hrequest : Link.request { id := some (.number caller.nextId), method, params } caller.link =
      (.ok { id := some (.number caller.nextId), result := some v.normal }, [],
        ⟨caller.link.pipe.withLines
          [Request.codec.render { id := some (.number caller.nextId), method, params }],
          []⟩) := by
    show Channel.request _ _ = _
    rw [Channel.request_of_clear hclear, hawait]
  have hresult := Talk.run_request hopen hrequest
  have hvalue : Talk.resultOf (.number caller.nextId)
      { id := some (.number caller.nextId), result := some v.normal } = .ok v.normal := by
    simp [Talk.resultOf]
  rw [hvalue] at hresult
  unfold Talk.call
  rw [Talk.run_bind_ok hresult]
  simp only [hread]
  rfl

/-- Encoding `a` and decoding it gives `b`: on a line, and in the response to a call over a stream.
-/
structure TransmitsAs (c : Codec α) (a b : α) : Prop where
  line : ∃ s, lineText (lineOctets (c.render a)) = .ok s ∧ c.ofText s = .ok b
  call : ∀ {κ : Type} (caller : Caller Channel κ) (method : String) (params : Option Json),
    caller.closed = false → caller.link.pipe.Clear → (RequestId.number caller.nextId).InRange →
    caller.link.incoming = Wired.textSignals (answerText (.number caller.nextId) (c.toJson a)) →
    ((Talk.call c method params).run.run caller).1 = .ok b

theorem TransmitsAs.of_conveys {r : Record α} {a b : α} (h : r.codec.Conveys a b)
    (hd : (r.codec.write a).depth ≤ 126) (hl : (r.codec.write a).Legible) : TransmitsAs r.codec a b where
  line := ⟨r.codec.render a, lineText_record r a, Codec.ofText_render h ⟨Nat.le_succ_of_le hd, hl⟩⟩
  call caller method params hopen hclear hid hincoming := by
    have hread : r.codec.ofJson (r.codec.toJson a).normal = .ok b := by
      rw [Codec.ofJson_normal]
      exact h.ofJson_toJson
    have hne : r.codec.toJson a ≠ .null := fun hnull => write_ne_null r a (Codec.normal_eq_null.mp hnull)
    have hdepth : (r.codec.toJson a).depth ≤ 126 := Nat.le_trans (depth_normal_le _) hd
    exact Talk.run_call_textSignals hread hne hdepth hl.normal hopen hclear hid hincoming method params

theorem ToolResult.transmitsAs (r : ToolResult) : TransmitsAs ToolResult.codec r r :=
  .of_conveys r.conveys (Nat.le_trans r.write_plain.1 (by decide)) r.write_plain.2

theorem ResourceResult.transmitsAs (r : ResourceResult) : TransmitsAs ResourceResult.codec r r :=
  .of_conveys r.conveys (Nat.le_trans r.write_plain.1 (by decide)) r.write_plain.2

/-! ### From the text -/

theorem ofText_pretty {v : Json} (hv : v.Fits) : Codec.json.ofText v.pretty = .ok v.normal := by
  have hread : Codec.json.read .text (.ofJson v) = .ok v.normal := by simp [Codec.json]
  rw [Codec.ofText, draft_pretty hv.legible hv.shallow]
  simp only [hread, ok_bind]
  rfl

theorem findSome?_behind {f : α → Option β} {before : List α} (h : ∀ a ∈ before, f a = none) {a : α} {b : β}
    (ha : f a = some b) (after : List α) : (before ++ a :: after).findSome? f = some b := by
  rw [List.findSome?_append, List.findSome?_eq_none_iff.mpr h, List.findSome?_cons, ha]
  rfl

theorem readFirstText_pretty {v : Json} (hv : v.Fits) :
    readFirstText .json false false (some v.pretty) = .ok v.normal := by
  simp only [readFirstText, Bool.false_eq_true, ↓reduceIte, ofText_pretty hv]
  rfl

def toolResultOf (before : List Content) (v : Json) (after : List Content) : ToolResult :=
  { content := before ++ (ToolResult.ofJson v).content ++ after }

def resourceResultOf (before : List ResourceContents) (uri : String) (v : Json)
    (after : List ResourceContents) :
    ResourceResult :=
  { contents := before ++ .ofJson uri v :: after }

theorem ofToolResult_json {v : Json} (hv : v.Fits) {before : List Content} (h : ∀ c ∈ before, c.text? = none)
    (after : List Content) : ofToolResult .json (toolResultOf before v after) = .ok v.normal := by
  have hitems : before ++ (ToolResult.ofJson v).content ++ after = before ++ .text v.pretty :: after :=
    List.append_assoc ..
  have htext : (toolResultOf before v after).firstText? = some v.pretty := by
    rw [ToolResult.firstText?, toolResultOf, hitems]
    exact findSome?_behind h rfl after
  have hsome : (toolResultOf before v after).content.isEmpty = false := by
    rw [toolResultOf, hitems]
    simp
  rw [ofToolResult, hsome, htext]
  exact readFirstText_pretty hv

theorem ofResourceResult_json {v : Json} (hv : v.Fits) {before : List ResourceContents}
    (h : ∀ c ∈ before, c.text? = none) (uri : String) (after : List ResourceContents) :
    ofResourceResult .json (resourceResultOf before uri v after) = .ok v.normal := by
  have htext : (resourceResultOf before uri v after).firstText? = some v.pretty :=
    findSome?_behind h rfl after
  have hsome : (resourceResultOf before uri v after).contents.isEmpty = false := by simp [resourceResultOf]
  rw [ofResourceResult, hsome, htext]
  exact readFirstText_pretty hv

/-- A value that a tool or a resource prints into its result is the value that a client decodes from
it, provided that it can be printed and parsed: whatever items without a text precede it and
whatever items follow it, before and after the result is sent. A failure is returned with its
message, for every result type. -/
theorem typed_result_undoes_json :
    (∀ v before after, v.Fits → (∀ c ∈ before, Content.text? c = none) →
      ofToolResult .json (toolResultOf before v after) = .ok v.normal ∧
      ∃ r, TransmitsAs ToolResult.codec (toolResultOf before v after) r ∧ ofToolResult .json r =
      .ok v.normal) ∧
    (∀ v uri before after, v.Fits → (∀ c ∈ before, ResourceContents.text? c = none) →
      ofResourceResult .json (resourceResultOf before uri v after) = .ok v.normal ∧
      ∃ r, TransmitsAs ResourceResult.codec (resourceResultOf before uri v after) r ∧
        ofResourceResult .json r = .ok v.normal) ∧
    (∀ (α : Type) (c : Codec α) m, ofToolResult c (.failure m) = .error (.tool m)) ∧
    (∀ (α : Type) (c : Codec α) uri m, ofResourceResult c (.failure uri m) = .error (.tool m)) := by
  refine ⟨fun v before after hv h => ?_, fun v uri before after hv h => ?_, fun _ _ _ => rfl,
    fun _ _ _ _ => rfl⟩
  · have hread := ofToolResult_json hv h after
    exact ⟨hread, _, ToolResult.transmitsAs _, hread⟩
  · have hread := ofResourceResult_json hv h uri after
    exact ⟨hread, _, ResourceResult.transmitsAs _, hread⟩

/-- Quotes, line feeds and empty containers, behind an image and before another text. -/
theorem typed_result_undoes_json_nested :
    let v : Json := .object [("\"\n", .array [.array [], .object [], .string "\\", .integer (-1)])]
    ofToolResult .json (toolResultOf [.image "AA==" "image/png"] v [.text "later"]) = .ok v.normal ∧
    ofResourceResult .json (resourceResultOf [] "a:b" v []) = .ok v.normal := by
  intro v
  have hfits : v.Fits :=
    ⟨by decide, ⟨⟨trivial, trivial, trivial, readsBack_integer (by decide) (by decide), trivial⟩, trivial⟩⟩
  have himage : ∀ c ∈ [Content.image "AA==" "image/png"], c.text? = none := by simp [Content.text?]
  obtain ⟨htool, hresource, -⟩ := typed_result_undoes_json
  exact ⟨(htool v _ _ hfits himage).1, (hresource v _ _ _ hfits (List.forall_mem_nil _)).1⟩

end ReleaseDesk.Client
