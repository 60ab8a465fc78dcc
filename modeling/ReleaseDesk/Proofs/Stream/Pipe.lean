import Mathlib.Tactic.Common
import ReleaseDesk.Stream.Server

/-! Writing to a pipe. A pipe that is open and has no write fault writes every line, of any length,
after what its buffer holds. On any other pipe nothing is written to the stream. A clear pipe has an
empty buffer, and stays clear. -/

namespace ReleaseDesk.Stream

open ReleaseDesk.Service

/-- The text of lines, each terminated by a line feed. -/
def unlines (ls : List String) : String := ls.foldr (fun l rest => l ++ "\n" ++ rest) ""

@[simp] theorem unlines_nil : unlines [] = "" := rfl

@[simp] theorem unlines_cons (l : String) (ls : List String) :
    unlines (l :: ls) = l ++ "\n" ++ unlines ls := rfl

theorem unlines_append (ls ms : List String) : unlines (ls ++ ms) = unlines ls ++ unlines ms := by
  induction ls with
  | nil => simp
  | cons l ls ih => simp [ih, String.append_assoc]

/-- Performs writes up to the first error. -/
def writeAll (write : α → τ → Except TransportFault Unit × τ) :
    List α → τ → Except TransportFault Unit × τ
  | [], link => (.ok (), link)
  | a :: as, link =>
    match write a link with
    | (.ok (), link) => writeAll write as link
    | (.error fault, link) => (.error fault, link)

namespace Pipe

/-! ### Open and stalled pipes -/

def takes (p : Pipe) : Bool := !p.closed && p.writeFault.isNone

/-- A pipe after lines are written: the buffer is flushed before the first of them. -/
def after (p : Pipe) (ls : List String) : Pipe :=
  if ls = [] then p else { p with buffer := "", written := p.written ++ p.buffer ++ unlines ls }

@[simp] theorem after_nil (p : Pipe) : p.after [] = p := rfl

@[simp] theorem takes_after (p : Pipe) (ls : List String) : (p.after ls).takes = p.takes := by
  unfold after
  split_ifs <;> rfl

theorem after_after (p : Pipe) (ls ms : List String) : (p.after ls).after ms = p.after (ls ++ ms) := by
  cases ls with
  | nil => rfl
  | cons l ls =>
    cases ms with
    | nil => rw [List.append_nil, after_nil]
    | cons m ms => simp [after, unlines_append, String.append_assoc]

theorem flush_of_takes {p : Pipe} (h : p.takes = true) :
    p.flush = (.ok (), { p with buffer := "", written := p.written ++ p.buffer }) := by
  obtain ⟨closed, buffer, written, shut, writeFault, shutFault⟩ := p
  obtain rfl : writeFault = none := by simpa [takes] using (Bool.and_eq_true_iff.mp h).2
  by_cases hb : buffer = "" <;> simp [flush, put, hb]

theorem put_of_takes {p : Pipe} (h : p.takes = true) (s : String) :
    p.put s = (.ok (), { p with written := p.written ++ s }) := by
  have hnone : p.writeFault = none := by simpa [takes] using (Bool.and_eq_true_iff.mp h).2
  simp only [put, hnone]

theorem flush_store_of_takes {p : Pipe} (h : p.takes = true) (s : String) :
    (p.store s).1 = .ok () ∧ (p.store s).2.flush =
      (.ok (), { p with buffer := "", written := p.written ++ p.buffer ++ s }) := by
  by_cases hfit : bufferSize < p.buffer.utf8ByteSize + s.utf8ByteSize
  · have hflushed : takes { p with buffer := "", written := p.written ++ p.buffer } = true := h
    by_cases hlong : bufferSize ≤ s.utf8ByteSize
    · simp only [store, if_pos hfit, if_pos hlong, flush_of_takes h, put_of_takes hflushed]
      exact ⟨trivial, rfl⟩
    · have hstored : takes { p with buffer := s, written := p.written ++ p.buffer } = true := h
      simp [store, hfit, hlong, flush_of_takes h, flush_of_takes hstored]
  · by_cases hlong : bufferSize ≤ s.utf8ByteSize
    · -- The text leaves no room for anything in the buffer besides.
      have hempty : p.buffer = "" := by
        rw [← String.utf8ByteSize_eq_zero_iff]
        omega
      simp [store, hlong, put_of_takes h, flush, hempty]
    · have hstored : takes { p with buffer := p.buffer ++ s } = true := h
      simp [store, hfit, hlong, flush_of_takes hstored, String.append_assoc]

theorem writeLine_of_takes {p : Pipe} (h : p.takes = true) (s : String) :
    p.writeLine s = (.ok (), p.after [s]) := by
  obtain ⟨hok, hflush⟩ := flush_store_of_takes h (s ++ "\n")
  have hopen : p.closed = false := by simpa using (Bool.and_eq_true_iff.mp h).1
  generalize hstore : p.store (s ++ "\n") = stored at hok hflush
  obtain ⟨outcome, q⟩ := stored
  dsimp only at hok hflush
  subst hok
  simp [writeLine, hopen, hstore, hflush, after]

theorem store_of_fault {p : Pipe} {fault : WriteFault} (h : p.writeFault = some fault) (s : String) :
    p.store s = (.error fault, p) ∨ p.store s = (.ok (), { p with buffer := p.buffer ++ s }) := by
  have hput (t : String) : p.put t = (.error fault, p) := by simp only [put, h]
  have hflush : p.flush = (.error fault, p) ∨ p.flush = (.ok (), p) := by
    unfold flush
    split_ifs
    · exact .inr rfl
    · simp only [hput, true_or]
  unfold store
  split_ifs with hfit hlong hlong
  · rcases hflush with hflush | hflush <;> simp only [hflush, hput, true_or]
  · rcases hflush with hflush | hflush <;> simp only [hflush, true_or, or_true]
  · simp only [hput, true_or]
  · exact .inr rfl

/-- A pipe on which nothing can be written, with the output of another one. -/
structure Stalled (p q : Pipe) : Prop where
  takes : q.takes = false
  written : q.written = p.written

theorem Stalled.writeLine {p q : Pipe} (h : Stalled p q) (s : String) :
    ∃ fault q', q.writeLine s = (.error fault, q') ∧ Stalled p q' := by
  unfold Pipe.writeLine
  cases hclosed : q.closed with
  | true => exact ⟨_, _, rfl, h⟩
  | false =>
    have hfault : ∃ fault, q.writeFault = some fault := by
      simpa [Pipe.takes, hclosed, Option.isSome_iff_exists] using h.takes
    obtain ⟨fault, hfault⟩ := hfault
    rcases store_of_fault hfault (s ++ "\n") with hstore | hstore
    · rw [hstore]
      exact ⟨_, _, rfl, h⟩
    · have hflush : flush { q with buffer := q.buffer ++ (s ++ "\n") } =
          (.error fault, { q with buffer := q.buffer ++ (s ++ "\n") }) := by
        simp [flush, put, hfault]
      rw [hstore]
      dsimp only
      rw [hflush]
      exact ⟨_, _, rfl, h.takes, h.written⟩

theorem notifyAll_of_takes (sent : List Rpc.Notification) {p : Pipe} (h : p.takes = true) :
    sent.foldl (fun link n => (Outlet.notify n link).2) p =
      p.after (sent.map Rpc.Notification.codec.render) := by
  induction sent generalizing p with
  | nil => rfl
  | cons n sent ih =>
    have hnotify : (Outlet.notify n p).2 = p.after [Rpc.Notification.codec.render n] :=
      congrArg Prod.snd (writeLine_of_takes h (Rpc.Notification.codec.render n))
    rw [List.foldl_cons, hnotify, ih (by simpa using h), after_after]
    rfl

/-! ### Clear pipes -/

/-- A pipe that is open, with an empty buffer and without faults. -/
structure Clear (p : Pipe) : Prop where
  isOpen : p.closed = false
  isEmpty : p.buffer = ""
  isWhole : p.writeFault = none

def withLines (p : Pipe) (ls : List String) : Pipe := { p with written := p.written ++ unlines ls }

@[simp] theorem withLines_nil (p : Pipe) : p.withLines [] = p := by
  simp [withLines]

@[simp] theorem withLines_withLines (p : Pipe) (ls ms : List String) :
    (p.withLines ls).withLines ms = p.withLines (ls ++ ms) := by
  simp [withLines, unlines_append, String.append_assoc]

theorem Clear.withLines {p : Pipe} (h : p.Clear) (ls : List String) : (p.withLines ls).Clear :=
  ⟨h.isOpen, h.isEmpty, h.isWhole⟩

theorem Clear.takes {p : Pipe} (h : p.Clear) : p.takes = true := by
  simp [Pipe.takes, h.isOpen, h.isWhole]

theorem Clear.after_eq {p : Pipe} (h : p.Clear) (ls : List String) : p.after ls = p.withLines ls := by
  cases ls with
  | nil => rw [after_nil, withLines_nil]
  | cons l ls => simp [Pipe.after, Pipe.withLines, h.isEmpty]

theorem Clear.writeLine {p : Pipe} (h : p.Clear) (s : String) :
    p.writeLine s = (.ok (), p.withLines [s]) := by
  rw [writeLine_of_takes h.takes, h.after_eq]

theorem Clear.write {p : Pipe} (h : p.Clear) (c : Wire.Codec α) (a : α) :
    p.write c a = (.ok (), p.withLines [c.render a]) :=
  h.writeLine _

theorem Clear.notifyAll {p : Pipe} (h : p.Clear) (sent : List Rpc.Notification) :
    sent.foldl (fun link n => (Outlet.notify n link).2) p =
      p.withLines (sent.map Rpc.Notification.codec.render) := by
  rw [notifyAll_of_takes sent h.takes, h.after_eq]

theorem Clear.writeAll {p : Pipe} (h : p.Clear) {write : α → Pipe → Except TransportFault Unit × Pipe}
    {text : α → String} (hwrite : ∀ a q, write a q = q.writeLine (text a)) (as : List α) :
    Stream.writeAll write as p = (.ok (), p.withLines (as.map text)) := by
  induction as generalizing p with
  | nil => simp [Stream.writeAll]
  | cons a as ih =>
    simp only [Stream.writeAll, hwrite, h.writeLine, ih (h.withLines _), withLines_withLines]
    rfl

end Pipe

end ReleaseDesk.Stream
