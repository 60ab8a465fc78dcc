import ReleaseDesk.Proofs.Json.RoundTrip
import ReleaseDesk.Proofs.Stream.Transcript

/-! Framing by lines. The text of a value contains no line feed, and the text of an object is not
affected by trimming. So values written line by line are segmented into the same lines, and each
line yields the text written. -/

namespace ReleaseDesk.Json

open ReleaseDesk.Text

theorem lineFeed_notMem_escape (c : Char) : '\n' ∉ escape c := by
  unfold escape
  split_ifs with hquote hslash hn hr ht hb hf hcontrol
  · decide
  · decide
  · decide
  · decide
  · decide
  · decide
  · decide
  · have key : ∀ n < 0x20, '\n' ∉ hex4 n := by decide
    intro h
    rcases List.mem_append.mp h with h | h
    · revert h
      decide
    · exact key _ hcontrol h
  · exact fun h => hn (List.mem_singleton.mp h).symm

theorem lineFeed_notMem_stringChars (s : String) : '\n' ∉ stringChars s := by
  intro h
  rcases List.mem_cons.mp h with h | h
  · exact absurd h (by decide)
  · rcases List.mem_append.mp h with h | h
    · obtain ⟨c, -, hc⟩ := List.mem_flatMap.mp h
      exact lineFeed_notMem_escape c hc
    · exact absurd (List.mem_singleton.mp h) (by decide)

mutual

theorem lineFeed_notMem_chars : (v : Json) → '\n' ∉ v.chars
  | .null => by decide
  | .bool true => by decide
  | .bool false => by decide
  | .number n => fun h => absurd (isNumeric_of_mem_numberChars n _ h) (by decide)
  | .string s => lineFeed_notMem_stringChars s
  | .array [] => by simp [chars]
  | .array (v :: rest) => by
    simp [chars, lineFeed_notMem_chars v, lineFeed_notMem_itemChars rest]
  | .object [] => by simp [chars]
  | .object ((k, v) :: rest) => by
    simp [chars, lineFeed_notMem_stringChars k, lineFeed_notMem_chars v,
      lineFeed_notMem_memberChars rest]

theorem lineFeed_notMem_itemChars : (items : List Json) → '\n' ∉ itemChars items
  | [] => by simp [itemChars]
  | v :: rest => by
    simp [itemChars, lineFeed_notMem_chars v, lineFeed_notMem_itemChars rest]

theorem lineFeed_notMem_memberChars : (members : List (String × Json)) →
    '\n' ∉ memberChars members
  | [] => by simp [memberChars]
  | (k, v) :: rest => by
    simp [memberChars, lineFeed_notMem_stringChars k, lineFeed_notMem_chars v,
      lineFeed_notMem_memberChars rest]

end

theorem lineFeed_notMem_render (v : Json) : '\n' ∉ v.render.toList := by
  rw [render, String.toList_ofList]
  exact lineFeed_notMem_chars v

theorem memberChars_ends : (members : List (String × Json)) →
    ∃ cs, memberChars members = cs ++ ['}']
  | [] => ⟨[], rfl⟩
  | (k, v) :: rest => by
    obtain ⟨cs, hcs⟩ := memberChars_ends rest
    exact ⟨',' :: (stringChars k ++ ':' :: (v.chars ++ cs)), by simp [memberChars, hcs]⟩

theorem chars_object (members : List (String × Json)) :
    ∃ cs, (object members).chars = '{' :: (cs ++ ['}']) := by
  cases members with
  | nil => exact ⟨[], rfl⟩
  | cons m rest =>
    obtain ⟨cs, hcs⟩ := memberChars_ends rest
    exact ⟨stringChars m.1 ++ ':' :: (m.2.chars ++ cs), by simp [chars, hcs]⟩

theorem trim_object (members : List (String × Json)) :
    trim ((object members).chars ++ ['\n']) = (object members).chars := by
  obtain ⟨cs, hcs⟩ := chars_object members
  rw [hcs]
  have hbare : Bare ('{' :: (cs ++ ['}'])) := .between (by decide) (by decide) cs
  exact hbare.trim (nofun : Blank []) (List.forall_mem_singleton.mpr (by decide))

end ReleaseDesk.Json

namespace ReleaseDesk.Stream

open ReleaseDesk.Json ReleaseDesk.Text

/-- The octets of a line with its line feed. -/
def lineOctets (line : String) : List UInt8 := Utf8.encode (line.toList ++ ['\n'])

theorem segments_unlines {ls : List String} (h : ∀ l ∈ ls, '\n' ∉ l.toList) :
    segments (Utf8.encode (unlines ls).toList) = ls.map lineOctets := by
  induction ls with
  | nil => rfl
  | cons l ls ih =>
    obtain ⟨hl, hls⟩ := List.forall_mem_cons.mp h
    have hfeed : lineFeed ∉ Utf8.encode l.toList := fun hmem =>
      hl (Utf8.lineFeed_mem_encode.mp hmem)
    have hend (cs : List Char) : Utf8.encode ('\n' :: cs) = lineFeed :: Utf8.encode cs := rfl
    rw [unlines_cons, String.toList_append, String.toList_append, Utf8.encode_append,
      Utf8.encode_append, List.append_assoc]
    have hcut := segments_append_lineFeed hfeed (Utf8.encode (unlines ls).toList)
    rw [ih hls] at hcut
    rw [List.map_cons, lineOctets, Utf8.encode_append]
    exact hcut

theorem segments_writeAll {write : α → Pipe → Except TransportFault Unit × Pipe} {text : α → String}
    (hwrite : ∀ a p, write a p = p.writeLine (text a)) (htext : ∀ a, '\n' ∉ (text a).toList)
    (as : List α) :
    ∃ pipe : Pipe, writeAll write as {} = (.ok (), pipe) ∧
      segments (Utf8.encode pipe.written.toList) = as.map fun a => lineOctets (text a) := by
  have hclear : ({} : Pipe).Clear := ⟨rfl, rfl, rfl⟩
  refine ⟨_, hclear.writeAll hwrite as, ?_⟩
  have hlines : ∀ l ∈ as.map text, '\n' ∉ l.toList := List.forall_mem_map.mpr fun a _ => htext a
  rw [Pipe.withLines, String.empty_append, segments_unlines hlines, List.map_map]
  simp only [Function.comp_def]

theorem lineText_lineOctets (members : List (String × Json)) :
    lineText (lineOctets (Json.object members).render) = .ok (Json.object members).render := by
  rw [lineOctets, lineText_encode, render, String.toList_ofList, trim_object]

end ReleaseDesk.Stream
