import Mathlib.Data.List.Forall2
import ReleaseDesk.Proofs.Stream.Wire

/-! Server to client. Responses and notifications are written one on each line, and decoding a line
as a message returns a response for a response and a request without an id for a notification, with
all their contents. -/

namespace ReleaseDesk.Service

open ReleaseDesk.Json ReleaseDesk.Rpc ReleaseDesk.Stream ReleaseDesk.Text

/-- A message that a server sends. -/
inductive Outgoing
  | response (r : Response)
  | notification (n : Notification)

namespace Outgoing

def write : Outgoing → Pipe → Except TransportFault Unit × Pipe
  | response r => Outlet.respond r
  | notification n => Outlet.notify n

def text : Outgoing → String
  | response r => Response.codec.render r
  | notification n => Notification.codec.render n

/-- The message decoded by a client, with its JSON values in normal form. -/
def message : Outgoing → Message
  | response r => .response
    { r with
      result := r.result.map normal
      error := r.error.map fun e => { e with data := e.data.map normal } }
  | notification n => .request
    { version := n.version, id := none, method := n.method, params := n.params.map normal }

/-- The id of a response is absent, a string or a 64-bit integer, and its error code fits 32 bits.
The contents are not null, and the envelope can be printed and parsed. -/
def Encodable : Outgoing → Prop
  | response r => r.InRange ∧ r.id ≠ some .null ∧ r.result ≠ some .null ∧
    (∀ e, r.error = some e → e.data ≠ some .null) ∧ (Response.codec.write r).Fits
  | notification n => n.params ≠ some .null ∧ (Notification.codec.write n).Fits

theorem write_eq (m : Outgoing) (p : Pipe) : m.write p = p.writeLine m.text := by
  cases m with
  | response r => simp only [write, text, Outlet.respond, Pipe.write]
  | notification n => simp only [write, text, Outlet.notify, Pipe.write]

theorem lineFeed_notMem_text (m : Outgoing) : '\n' ∉ m.text.toList := by
  cases m <;> exact lineFeed_notMem_render _

theorem text_ne_empty (m : Outgoing) : m.text ≠ "" := by
  have hne (members : List (String × Json)) : (Json.object members).render ≠ "" := by
    obtain ⟨cs, hcs⟩ := chars_object members
    simp [render, hcs]
  cases m with
  | response r => exact hne (Response.record.members r)
  | notification n => exact hne (Notification.record.members n)

theorem arrivedValue_of_ne {v : Option Json} (h : v ≠ some .null) :
    arrivedValue v = v.map normal := by
  cases v with
  | none => rfl
  | some v => exact arrivedValue_some fun hv => h (congrArg some hv)

theorem Encodable.message? {m : Outgoing} (h : m.Encodable) :
    Client.message? (lineOctets m.text) = some m.message := by
  cases m with
  | response r =>
    obtain ⟨hrange, hid, hresult, herror, hfits⟩ := h
    have harrived : r.arrived = { r with
        result := r.result.map normal
        error := r.error.map fun e => { e with data := e.data.map normal } } := by
      have herrors : r.error.map ErrorObject.arrived =
          r.error.map fun e => { e with data := e.data.map normal } := by
        refine Option.map_congr fun e he => ?_
        rw [ErrorObject.arrived, arrivedValue_of_ne (herror e he)]
      simp only [Response.arrived, if_neg hid, arrivedValue_of_ne hresult, herrors]
    rw [text, message, message?_response hrange hfits, harrived]
  | notification n =>
    obtain ⟨hparams, hfits⟩ := h
    rw [text, message, message?_notification hfits]
    simp only [Request.arrived, Notification.toRequest, arrivedValue_of_ne hparams]

end Outgoing

/-- All responses and notifications that a server writes are written without errors, and the
segments of the output are one nonempty line for each, in order, which is decoded to just this
response or notification. -/
theorem output_decodes {sent : List Outgoing} (h : ∀ m ∈ sent, m.Encodable) :
    ∃ pipe : Pipe, writeAll Outgoing.write sent {} = (.ok (), pipe) ∧
      List.Forall₂ (fun (m : Outgoing) line =>
          (∃ text, line = lineOctets text ∧ text ≠ "" ∧ '\n' ∉ text.toList) ∧
            Client.message? line = some m.message)
        sent (segments (Utf8.encode pipe.written.toList)) := by
  obtain ⟨pipe, hwritten, hlines⟩ :=
    segments_writeAll Outgoing.write_eq Outgoing.lineFeed_notMem_text sent
  refine ⟨pipe, hwritten, ?_⟩
  rw [hlines, List.forall₂_map_right_iff, List.forall₂_same]
  exact fun m hm =>
    ⟨⟨m.text, rfl, m.text_ne_empty, m.lineFeed_notMem_text⟩, (h m hm).message?⟩

/-- A response without an id, a result and an error, one to a string id with a line feed in it, and
a notification. -/
theorem output_decodes_bare :
    let sent : List Outgoing :=
      [.response { id := none },
        .response (.success (some (.string "a\nb")) (.array [])),
        .response (.failure (some (.number (-1))) { code := -32700, message := "" }),
        .notification { method := "id", params := some (.object []) }]
    (∀ m ∈ sent, m.Encodable) ∧ ∃ pipe : Pipe, writeAll Outgoing.write sent {} = (.ok (), pipe) ∧
      List.Forall₂ (fun (m : Outgoing) line =>
          (∃ text, line = lineOctets text ∧ text ≠ "" ∧ '\n' ∉ text.toList) ∧
            Client.message? line = some m.message)
        sent (segments (Utf8.encode pipe.written.toList)) := by
  intro sent
  have hcode : ReadsBack (.integer (-32700)) := readsBack_integer (by decide) (by decide)
  have hid : ReadsBack (.integer (-1)) := readsBack_integer (by decide) (by decide)
  have hsent : ∀ m ∈ sent, m.Encodable := by
    refine List.forall_mem_cons.mpr ⟨?bare, List.forall_mem_cons.mpr ⟨?success,
      List.forall_mem_cons.mpr ⟨?failure, List.forall_mem_singleton.mpr ?notification⟩⟩⟩
    case bare =>
      have hfits : (Response.codec.write { id := none }).Fits :=
        ⟨by decide, trivial, trivial, trivial⟩
      exact ⟨⟨nofun, nofun⟩, nofun, nofun, nofun, hfits⟩
    case success =>
      have hfits : (Response.codec.write (.success (some (.string "a\nb")) (.array []))).Fits :=
        ⟨by decide, trivial, trivial, trivial, trivial⟩
      refine ⟨⟨?_, nofun⟩, nofun, nofun, nofun, hfits⟩
      rintro id ⟨⟩
      trivial
    case failure =>
      have hfits : (Response.codec.write
          (.failure (some (.number (-1))) { code := -32700, message := "" })).Fits :=
        ⟨by decide, trivial, hid, ⟨hcode, trivial, trivial⟩, trivial⟩
      refine ⟨⟨?_, ?_⟩, nofun, nofun, ?_, hfits⟩
      · rintro id ⟨⟩
        exact ⟨by decide, by decide⟩
      · rintro e ⟨⟩
        exact ⟨by decide, by decide⟩
      · rintro e ⟨⟩
        nofun
    case notification =>
      have hfits : (Notification.codec.write
          { method := "id", params := some (.object []) }).Fits :=
        ⟨by decide, trivial, trivial, trivial, trivial⟩
      exact ⟨nofun, hfits⟩
  exact ⟨hsent, output_decodes hsent⟩

end ReleaseDesk.Service
