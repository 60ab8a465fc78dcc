import Mathlib.Tactic.Common
import ReleaseDesk.Proofs.Service.Session
import ReleaseDesk.Stream.Server

/-! Segments of an input: the lines with their line feeds, and the rest after the last one. On a
stream that has ended, each read consumes a segment, so that a session over a whole input is a fold
over its segments. -/

namespace ReleaseDesk.Stream

open ReleaseDesk.Service

def segments : List UInt8 → List (List UInt8)
  | [] => []
  | b :: rest =>
    if b = lineFeed then [b] :: segments rest
    else match segments rest with
      | [] => [[b]]
      | l :: ls => (b :: l) :: ls

theorem segments_lineFeed (rest : List UInt8) :
    segments (lineFeed :: rest) = [lineFeed] :: segments rest := by
  simp [segments]

theorem flatten_segments (input : List UInt8) : (segments input).flatten = input := by
  induction input with
  | nil => rfl
  | cons b rest ih =>
    simp only [segments]
    split_ifs with hb
    · simp [ih]
    · split <;> simp_all

@[simp] theorem segments_eq_nil_iff {input : List UInt8} : segments input = [] ↔ input = [] := by
  constructor
  · intro h
    rw [← flatten_segments input, h, List.flatten_nil]
  · rintro rfl
    rfl

theorem ne_nil_of_mem_segments {input l : List UInt8} (h : l ∈ segments input) : l ≠ [] := by
  induction input generalizing l with
  | nil => cases h
  | cons b rest ih =>
    simp only [segments] at h
    split_ifs at h with hb
    · rcases List.mem_cons.1 h with rfl | h
      · simp
      · exact ih h
    · split at h
      · simp_all
      next m ms hm =>
        rcases List.mem_cons.1 h with rfl | h
        · simp
        · exact ih (hm ▸ List.mem_cons_of_mem _ h)

theorem segments_append_lineFeed {line : List UInt8} (h : lineFeed ∉ line) (rest : List UInt8) :
    segments (line ++ lineFeed :: rest) = (line ++ [lineFeed]) :: segments rest := by
  induction line with
  | nil => exact segments_lineFeed rest
  | cons b line ih =>
    simp only [List.mem_cons, not_or] at h
    simp only [List.cons_append, segments, if_neg (Ne.symm h.1), ih h.2]

/-! ### Lines -/

@[simp] theorem signals_nil : signals [] = [] := rfl

@[simp] theorem signals_cons (b : UInt8) (rest : List UInt8) :
    signals (b :: rest) = .octet b :: signals rest := rfl

@[simp] theorem length_signals (l : List UInt8) : (signals l).length = l.length := by
  simp [signals]

theorem lineFrom?_signals (taken input : List UInt8) :
    lineFrom? true taken (signals input) = some (match segments input with
      | [] => (if taken = [] then .ended else .octets taken.reverse, [])
      | l :: ls => (.octets (taken.reverse ++ l), signals ls.flatten)) := by
  induction input generalizing taken with
  | nil => rfl
  | cons b rest ih =>
    rw [signals_cons, lineFrom?]
    by_cases hb : b = lineFeed
    · simp [segments, hb, flatten_segments]
    · rw [if_neg hb, ih]
      cases hs : segments rest with
      | nil => simp [segments, hb, hs]
      | cons l ls => simp [segments, hb, hs]

theorem line?_of_segments {input l : List UInt8} {ls : List (List UInt8)}
    (h : segments input = l :: ls) :
    line? true (signals input) = some (.octets l, signals ls.flatten) := by
  simp [line?, lineFrom?_signals, h]

theorem line?_nil : line? true [] = some (.ended, []) := rfl

theorem line?_of_complete {line : List UInt8} (h : lineFeed ∉ line) (ended : Bool)
    (rest : List Signal) :
    line? ended (signals (line ++ [lineFeed]) ++ rest) = some (.octets (line ++ [lineFeed]), rest) := by
  have key (taken : List UInt8) : lineFrom? ended taken (signals (line ++ [lineFeed]) ++ rest) =
      some (.octets (taken.reverse ++ line ++ [lineFeed]), rest) := by
    induction line generalizing taken with
    | nil => simp [lineFrom?]
    | cons b line ih =>
      simp only [List.mem_cons, not_or] at h
      simp only [List.cons_append, signals_cons, lineFrom?, if_neg (Ne.symm h.1)]
      rw [ih h.2]
      simp
  exact key []

theorem length_flatten_lt {input l : List UInt8} {ls : List (List UInt8)}
    (h : segments input = l :: ls) : ls.flatten.length < input.length := by
  have hl : l ≠ [] := ne_nil_of_mem_segments (h ▸ List.mem_cons_self)
  have := congrArg List.length (flatten_segments input)
  rw [h, List.flatten_cons, List.length_append] at this
  have := List.length_pos_iff.2 hl
  omega

theorem segments_flatten_tail {input l : List UInt8} {ls : List (List UInt8)}
    (h : segments input = l :: ls) : segments ls.flatten = ls := by
  induction input generalizing l ls with
  | nil => cases h
  | cons b rest ih =>
    simp only [segments] at h
    split_ifs at h with hb
    · cases h
      rw [flatten_segments]
    · split at h
      next hr =>
        cases h
        rfl
      next m ms hm =>
        cases h
        exact ih hm

/-! ### Sessions -/

theorem drain_over {s : Session ω Pipe} (h : s.isOver) (ended : Bool) (incoming : List Signal) :
    drain ended s incoming = (s, incoming) := by
  unfold drain
  cases ho : s.outcome with
  | none => simp [Session.isOver, ho] at h
  | some outcome => rfl

/-- A session after the message on a segment, if there is one. -/
def receiveSegment (s : Session ω Pipe) (segment : List UInt8) : Session ω Pipe :=
  match arrivalOfOctets segment with
  | some a => s.receive a
  | none => s

theorem arrival?_nil : arrival? true [] = some (.ended, []) := by
  rw [arrival?]
  rfl

theorem arrival?_of_segments {input l : List UInt8} {ls : List (List UInt8)}
    (h : segments input = l :: ls) : arrival? true (signals input) =
      match arrivalOfOctets l with
      | some a => some (a, signals ls.flatten)
      | none => arrival? true (signals ls.flatten) := by
  rw [arrival?, line?_of_segments h]
  simp only [Line.arrival]
  cases arrivalOfOctets l with
  | some a => rfl
  | none =>
    dsimp only
    rw [if_pos (by simpa only [length_signals] using length_flatten_lt h)]

theorem drain_nil (s : Session ω Pipe) : drain true s [] = (s.receive .ended, []) := by
  rw [drain]
  cases ho : s.outcome with
  | some outcome => simp [receive_over (s := s) (by simp [Session.isOver, ho])]
  | none => simp [arrival?_nil]

theorem exists_arrival? (ls : List (List UInt8)) (hs : segments ls.flatten = ls) :
    ∃ a rest, arrival? true (signals ls.flatten) = some (a, rest) ∧
      (rest.length < ls.flatten.length ∨ (a = .ended ∧ rest = [])) := by
  induction ls with
  | nil => exact ⟨.ended, [], arrival?_nil, .inr ⟨rfl, rfl⟩⟩
  | cons l ls ih =>
    have hlt := length_flatten_lt hs
    rw [arrival?_of_segments hs]
    cases arrivalOfOctets l with
    | some a => exact ⟨a, _, rfl, .inl (by rwa [length_signals])⟩
    | none =>
      obtain ⟨a, rest, ha, hr⟩ := ih (segments_flatten_tail hs)
      refine ⟨a, rest, ha, ?_⟩
      rcases hr with hr | ⟨rfl, rfl⟩
      · exact .inl (by omega)
      · exact .inr ⟨rfl, rfl⟩

theorem receive_ended_isOver (s : Session ω Pipe) : (s.receive .ended).isOver := by
  unfold Session.receive
  cases ho : s.outcome <;> simp [Session.finish, Session.isOver, ho]

theorem drain_of_segments {s : Session ω Pipe} (ho : s.outcome = none) {input l : List UInt8}
    {ls : List (List UInt8)} (h : segments input = l :: ls) :
    drain true s (signals input) = drain true (receiveSegment s l) (signals ls.flatten) := by
  have hlt := length_flatten_lt h
  rw [drain, ho, arrival?_of_segments h, receiveSegment]
  cases arrivalOfOctets l with
  | some a => simp only [length_signals, if_pos hlt]
  | none =>
    dsimp only
    -- A segment that brings nothing is passed over within one step of the drain.
    obtain ⟨a, rest, ha, hr⟩ := exists_arrival? ls (segments_flatten_tail h)
    rw [drain, ho, ha]
    dsimp only
    rw [if_pos (by rw [length_signals]; rcases hr with hr | ⟨-, rfl⟩ <;> simp_all <;> omega)]
    rcases hr with hr | ⟨rfl, rfl⟩
    · rw [if_pos (by rwa [length_signals])]
    · rw [drain_over (receive_ended_isOver s)]
      simp

theorem receiveSegment_over {s : Session ω Pipe} (h : s.isOver) (segment : List UInt8) :
    receiveSegment s segment = s := by
  unfold receiveSegment
  cases arrivalOfOctets segment with
  | some a => exact receive_over h a
  | none => rfl

theorem foldl_receiveSegment_over {s : Session ω Pipe} (h : s.isOver) (ls : List (List UInt8)) :
    ls.foldl receiveSegment s = s := by
  induction ls with
  | nil => rfl
  | cons l ls ih => rw [List.foldl_cons, receiveSegment_over h, ih]

/-- A session over a whole input is a fold over its segments, followed by the end of the input. -/
theorem drain_eq_foldl (s : Session ω Pipe) (input : List UInt8) :
    (drain true s (signals input)).1 = ((segments input).foldl receiveSegment s).receive .ended := by
  generalize hs : segments input = ls
  induction ls generalizing s input with
  | nil =>
    rw [segments_eq_nil_iff] at hs
    subst hs
    exact congrArg Prod.fst (drain_nil s)
  | cons l ls ih =>
    cases ho : s.outcome with
    | none => rw [drain_of_segments ho hs, ih _ _ (segments_flatten_tail hs), List.foldl_cons]
    | some outcome =>
      have hover := isOver_of_outcome ho
      rw [drain_over hover, foldl_receiveSegment_over hover, receive_over hover]

theorem drain_leaves_nothing {s : Session ω Pipe} {input : List UInt8}
    (h : ((segments input).foldl receiveSegment s).outcome = none) :
    (drain true s (signals input)).2 = [] := by
  generalize hs : segments input = ls at h
  induction ls generalizing s input with
  | nil =>
    rw [segments_eq_nil_iff] at hs
    subst hs
    exact congrArg Prod.snd (drain_nil s)
  | cons l ls ih =>
    cases ho : s.outcome with
    | none => rw [drain_of_segments ho hs]; exact ih (segments_flatten_tail hs) h
    | some outcome =>
      rw [foldl_receiveSegment_over (isOver_of_outcome ho), ho] at h
      cases h

end ReleaseDesk.Stream
