import ReleaseDesk.Proofs.Service.Loop
import ReleaseDesk.Stream.Server

/-! The lifecycle over several sessions, with stop requests at arbitrary times. The phase of a
session is determined by the methods read in it; a stop request takes effect when the loop checks
the flag, after at most one more segment, or in the following session; and a session ends with an
error only if the transport fails. -/

namespace ReleaseDesk.Service

/-! ### Stop requests -/

/-- A decomposition of a list that has grown by one element at its end. -/
theorem concat_eq_iff {moves before after : List α} {m x : α} :
    moves ++ [m] = before ++ x :: after ↔
      (after = [] ∧ before = moves ∧ x = m) ∨
        ∃ rest, after = rest ++ [m] ∧ moves = before ++ x :: rest := by
  constructor
  · intro h
    obtain rfl | ⟨rest, y, rfl⟩ := List.eq_nil_or_concat after
    · obtain ⟨rfl, hm⟩ := List.append_inj' h rfl
      cases hm
      exact .inl ⟨rfl, rfl, rfl⟩
    · rw [List.concat_eq_append, ← List.cons_append, ← List.append_assoc] at h
      obtain ⟨rfl, hm⟩ := List.append_inj' h rfl
      cases hm
      exact .inr ⟨rest, List.concat_eq_append, rfl⟩
  · rintro (⟨rfl, rfl, rfl⟩ | ⟨rest, rfl, rfl⟩)
    · rfl
    · rw [List.append_assoc, List.cons_append]

theorem pending_concat_stop (moves : List (Transition τ)) : Pending (moves ++ [.stop]) :=
  ⟨moves, [], rfl, List.not_mem_nil⟩

theorem not_pending_concat_halt (moves : List (Transition τ)) : ¬ Pending (moves ++ [.halt]) := by
  rintro ⟨before, after, h, hafter⟩
  obtain ⟨-, -, hm⟩ | ⟨rest, rfl, -⟩ := concat_eq_iff.mp h
  · cases hm
  · simp at hafter

theorem pending_concat {moves : List (Transition τ)} {m : Transition τ} (hstop : m ≠ .stop)
    (hhalt : m ≠ .halt) :
    Pending (moves ++ [m]) ↔ Pending moves := by
  constructor
  · rintro ⟨before, after, h, hafter⟩
    obtain ⟨-, -, hm⟩ | ⟨rest, rfl, hmoves⟩ := concat_eq_iff.mp h
    · exact absurd hm.symm hstop
    · exact ⟨before, rest, hmoves, fun hmem => hafter (List.mem_append_left _ hmem)⟩
  · rintro ⟨before, after, rfl, hafter⟩
    refine ⟨before, after ++ [m], by simp, ?_⟩
    simp [hafter, hhalt.symm]

/-- A stop request before the last halt is no longer pending. -/
theorem stop_mem_of_pending {before mid : List (Transition τ)} (h : Pending (before ++ .halt :: mid)) :
    .stop ∈ mid := by
  obtain ⟨before', after', hsplit, hhalt⟩ := h
  obtain ⟨middle, -, hmiddle⟩ | ⟨middle, -, hmiddle⟩ := List.append_eq_append_iff.mp hsplit
  · cases middle with
    | nil => cases hmiddle
    | cons m middle =>
      obtain ⟨-, rfl⟩ := List.cons.inj hmiddle
      exact List.mem_append_right _ List.mem_cons_self
  · cases middle with
    | nil => cases hmiddle
    | cons m middle =>
      obtain ⟨-, rfl⟩ := List.cons.inj hmiddle
      exact absurd (List.mem_append_right _ List.mem_cons_self) hhalt

/-! ### An invariant of traces -/

/-- The loop after `moves`, from a server that has never run. -/
structure TraceInvariant (moves : List (Transition τ)) (l : Loop ω τ) : Prop where
  phaseApplied : l.PhaseApplied
  during : l.position.isServing = true →
    l.server.running = true ∧ l.server.phase = phaseOf (methodsOf moves)
  resting : ∀ last, l.position = .resting last →
    last = (moves.filterMap Transition.ending?).getLast? ∧ l.server.running = false ∧
      l.server.phase = if last.isSome then .stopped else .created
  entered : moves.countP Transition.isEnter =
    (moves.filterMap Transition.ending?).length + if l.position.isServing then 1 else 0
  asked : l.server.stopRequested = true ↔ Pending moves

namespace TraceInvariant

variable {moves : List (Transition τ)} {l l' : Loop ω τ} {m : Transition τ}

theorem new (service : Dispatcher ω) (scene : Scene ω) (link : τ) :
    TraceInvariant [] { server := { service, scene }, link } where
  phaseApplied := nofun
  during := nofun
  resting last h := by
    cases h
    exact ⟨rfl, rfl, rfl⟩
  entered := rfl
  asked := by simp [Pending]

variable [Outlet τ]

theorem phaseApplied_step (h : TraceInvariant moves l) (hm : l.Step m l') : l'.PhaseApplied := by
  obtain ⟨server, link, position⟩ := l
  intro r hr
  cases hm with
  | stop => exact h.phaseApplied r hr
  | enter => cases hr
  | halt => cases hr
  | proceed => cases hr
  | read here a =>
    cases a with
    | request r' =>
      cases hr
      exact Phase.after_after server.phase r.method
    | refused fault => cases hr
    | ended => cases hr
    | failed fault => cases fault <;> cases hr
  | @carryOut r' here =>
    simp only [Loop.carryOut] at hr
    cases hresponse : (server.handle r').2.1 <;> simp [hresponse] at hr
  | @write r' outcome link' here wrote => cases outcome <;> cases hr

theorem step (h : TraceInvariant moves l) (hm : l.Step m l') : TraceInvariant (moves ++ [m]) l' := by
  have happlied := h.phaseApplied_step hm
  cases Loop.stepCases hm h.phaseApplied with
  | stop =>
    exact {
      phaseApplied := happlied
      during := by
        intro hserving
        rw [methodsOf_concat]
        simpa [Transition.isEnter, Transition.methods, Server.stop] using h.during hserving
      resting := by
        intro last hlast
        simpa [Transition.ending?, Server.stop] using h.resting last hlast
      entered := by simpa [Transition.isEnter, Transition.ending?, List.filterMap_cons] using h.entered
      asked := ⟨fun _ => pending_concat_stop moves, fun _ => rfl⟩ }
  | enter resting link =>
    exact {
      phaseApplied := happlied
      during := by
        intro _
        rw [methodsOf_concat]
        exact ⟨rfl, rfl⟩
      resting := nofun
      entered := by
        have hentered := h.entered
        rw [resting] at hentered
        simpa [Transition.isEnter, Transition.ending?, List.filterMap_cons,
          ControlState.isServing] using hentered
      asked := by
        rw [pending_concat (m := .enter link) nofun nofun]
        exact h.asked }
  | endSession ending serving rests stopped running asked =>
    have hkind : m.isEnter = false ∧ m ≠ .stop := by
      cases m with
      | stop | enter => cases ending
      | _ => exact ⟨rfl, nofun⟩
    exact {
      phaseApplied := happlied
      during := by
        intro hserving
        rw [rests] at hserving
        cases hserving
      resting := by
        intro last hlast
        rw [rests] at hlast
        cases hlast
        refine ⟨?_, running, stopped⟩
        rw [List.filterMap_append, List.filterMap_cons_some ending, List.filterMap_nil,
          List.getLast?_concat]
      entered := by
        rw [List.countP_append, h.entered, serving, rests, List.filterMap_append,
          List.filterMap_cons_some ending]
        simp [hkind.1, ControlState.isServing]
      asked := by
        obtain ⟨rfl, -, hforgotten⟩ | ⟨hhalt, hsame⟩ := asked
        · rw [hforgotten]
          exact ⟨nofun, fun hpending => absurd hpending (not_pending_concat_halt moves)⟩
        · rw [hsame, h.asked, pending_concat hkind.2 hhalt] }
  | further ending kind serving serves running phase asked =>
    obtain ⟨hrunning, hphase⟩ := h.during serving
    have hhalt : m ≠ .halt := by
      rintro rfl
      cases ending
    exact {
      phaseApplied := happlied
      during := by
        intro _
        rw [running, phase, hphase, methodsOf_concat, kind.1, ← phaseOf_append]
        exact ⟨hrunning, rfl⟩
      resting := by
        intro last hlast
        rw [hlast] at serves
        cases serves
      entered := by
        rw [List.countP_append, h.entered, serving, serves, List.filterMap_append,
          List.filterMap_cons_none ending]
        simp [kind.1]
      asked := by rw [asked, h.asked, pending_concat kind.2 hhalt] }

theorem of_trace {service : Dispatcher ω} {scene : Scene ω} {link : τ}
    (h : Loop.Trace { server := { service, scene }, link } moves l) : TraceInvariant moves l := by
  generalize hstart : ({ server := { service, scene }, link } : Loop ω τ) = start at h
  induction h with
  | nil => exact hstart ▸ new service scene link
  | concat _ last ih => exact ih.step last

end TraceInvariant

/-! ### After a stop request -/

/-- The number of reads before the next check of the flag, at most. -/
def ControlState.reads : ControlState → Nat
  | .waiting => 1
  | _ => 0

/-- The number of requests carried out before the next check, at most. -/
def ControlState.carryOuts : ControlState → Nat
  | .waiting | .holding _ => 1
  | _ => 0

/-- The number of writes before the next check, at most. -/
def ControlState.writes : ControlState → Nat
  | .waiting | .holding _ | .replying _ => 1
  | _ => 0

/-- The transitions since a pending stop request: the loop has not passed a check, it has read,
carried out and written at most one segment, and a session entered in between has done nothing. -/
structure SinceStop (after : List (Transition τ)) (l : Loop ω τ) : Prop where
  asked : l.server.stopRequested = true
  proceed : .proceed ∉ after
  reads : after.countP Transition.isRead + l.position.reads ≤ 1
  carryOuts : after.countP Transition.isCarryOut + l.position.carryOuts ≤ 1
  writes : after.countP Transition.isWrite + l.position.writes ≤ 1
  idle : ∀ mid link rest, after = mid ++ .enter link :: rest →
    (∀ m ∈ rest, m = .stop) ∧ l.position = .looking ∧ l.link = link

namespace SinceStop

variable {after : List (Transition τ)} {l l' : Loop ω τ} {m : Transition τ}

theorem start (l : Loop ω τ) : SinceStop [] { l with server := l.server.stop } where
  asked := rfl
  proceed := List.not_mem_nil
  reads := by cases l.position <;> simp [ControlState.reads]
  carryOuts := by cases l.position <;> simp [ControlState.carryOuts]
  writes := by cases l.position <;> simp [ControlState.writes]
  idle mid link rest h := by simp at h

/-- Away from the check, no session has been entered. -/
theorem enter_notMem (h : SinceStop after l) (hpos : l.position ≠ .looking) (link : τ) :
    .enter link ∉ after := by
  intro hmem
  obtain ⟨mid, rest, hafter⟩ := List.append_of_mem hmem
  exact hpos (h.idle mid link rest hafter).2.1

/-- A transition between two checks. -/
theorem inner (h : SinceStop after l) (hpos : l.position ≠ .looking) (hm : m.isEnter = false)
    (hproceed : m ≠ .proceed) (hasked : l'.server.stopRequested = l.server.stopRequested)
    (hreads : (if m.isRead then 1 else 0) + l'.position.reads ≤ l.position.reads)
    (hcarryOuts : (if m.isCarryOut then 1 else 0) + l'.position.carryOuts ≤ l.position.carryOuts)
    (hwrites : (if m.isWrite then 1 else 0) + l'.position.writes ≤ l.position.writes) :
    SinceStop (after ++ [m]) l' where
  asked := hasked.trans h.asked
  proceed := by simp [h.proceed, hproceed.symm]
  reads := by
    have := h.reads
    rw [List.countP_append, List.countP_singleton]
    omega
  carryOuts := by
    have := h.carryOuts
    rw [List.countP_append, List.countP_singleton]
    omega
  writes := by
    have := h.writes
    rw [List.countP_append, List.countP_singleton]
    omega
  idle mid link rest hsplit := by
    obtain ⟨-, -, rfl⟩ | ⟨rest', -, hafter⟩ := concat_eq_iff.mp hsplit
    · cases hm
    · refine absurd ?_ (h.enter_notMem hpos link)
      rw [hafter]
      exact List.mem_append_right _ List.mem_cons_self

variable [Outlet τ]

/-- The position after carrying out a request: a response to write, or the check. -/
theorem carryOut_position (l : Loop ω τ) (r : Rpc.Request) :
    (l.carryOut r).position.reads = 0 ∧ (l.carryOut r).position.carryOuts = 0 ∧
      (l.carryOut r).position.writes ≤ 1 := by
  simp only [Loop.carryOut]
  cases (l.server.handle r).2.1 with
  | none => exact ⟨rfl, rfl, Nat.zero_le _⟩
  | some response => exact ⟨rfl, rfl, Nat.le_refl _⟩

theorem step (h : SinceStop after l) (hm : l.Step m l') (hhalt : m ≠ .halt) :
    SinceStop (after ++ [m]) l' := by
  obtain ⟨server, link, position⟩ := l
  cases hm with
  | stop =>
    exact {
      asked := rfl
      proceed := by simp [h.proceed]
      reads := by simpa [Transition.isRead] using h.reads
      carryOuts := by simpa [Transition.isCarryOut] using h.carryOuts
      writes := by simpa [Transition.isWrite] using h.writes
      idle := by
        intro mid link' rest hsplit
        obtain ⟨-, -, hm⟩ | ⟨rest', rfl, hafter⟩ := concat_eq_iff.mp hsplit
        · cases hm
        · obtain ⟨hrest, hlooking, hlink⟩ := h.idle mid link' rest' hafter
          refine ⟨?_, hlooking, hlink⟩
          intro m hm
          obtain hm | rfl := List.mem_append.mp hm |>.imp_right List.mem_singleton.mp
          · exact hrest m hm
          · rfl }
  | enter here link' =>
    cases here
    exact {
      asked := h.asked
      proceed := by simp [h.proceed]
      reads := by simpa [Transition.isRead, ControlState.reads] using h.reads
      carryOuts := by simpa [Transition.isCarryOut, ControlState.carryOuts] using h.carryOuts
      writes := by simpa [Transition.isWrite, ControlState.writes] using h.writes
      idle := by
        intro mid link'' rest hsplit
        obtain ⟨rfl, -, hm⟩ | ⟨rest', -, hafter⟩ := concat_eq_iff.mp hsplit
        · cases hm
          exact ⟨nofun, rfl, rfl⟩
        · refine absurd ?_ (h.enter_notMem nofun link'')
          rw [hafter]
          exact List.mem_append_right _ List.mem_cons_self }
  | halt => exact absurd rfl hhalt
  | proceed here notStopped => exact absurd (h.asked.symm.trans notStopped) nofun
  | read here a =>
    cases here
    cases a with
    | request r => exact h.inner nofun rfl nofun rfl (Nat.le_refl _) (Nat.le_refl _) (Nat.le_refl _)
    | refused fault => exact h.inner nofun rfl nofun rfl (Nat.le_refl _) (Nat.zero_le _) (Nat.le_refl _)
    | ended => exact h.inner nofun rfl nofun rfl (Nat.le_refl _) (Nat.zero_le _) (Nat.zero_le _)
    | failed fault =>
      cases fault <;>
        exact h.inner nofun rfl nofun rfl (Nat.le_refl _) (Nat.zero_le _) (Nat.zero_le _)
  | @carryOut r here =>
    cases here
    obtain ⟨hreads, hcarryOuts, hwrites⟩ := carryOut_position { server, link, position := .holding r } r
    refine h.inner nofun rfl nofun rfl ?_ ?_ ?_
    · rw [hreads]
      exact Nat.le_refl _
    · rw [hcarryOuts]
      exact Nat.le_refl _
    · exact Nat.le_trans (Nat.le_of_eq (Nat.zero_add _)) hwrites
  | @write r outcome link' here wrote =>
    cases here
    cases outcome <;> exact h.inner nofun rfl nofun rfl (Nat.le_refl _) (Nat.le_refl _) (Nat.le_refl _)

theorem of_trace {start : Loop ω τ} {moves before : List (Transition τ)} (h : start.Trace moves l)
    (hmoves : moves = before ++ .stop :: after) (hhalt : .halt ∉ after) : SinceStop after l := by
  induction h generalizing before after with
  | nil => simp at hmoves
  | concat _ last ih =>
    obtain ⟨rfl, -, rfl⟩ | ⟨rest, rfl, hrest⟩ := concat_eq_iff.mp hmoves
    · cases last
      exact .start _
    · rw [List.mem_append, not_or] at hhalt
      obtain ⟨hhalt, hlast⟩ := hhalt
      have hclosing := ih hrest hhalt
      exact hclosing.step last fun hm => hlast (by simp [hm])

end SinceStop

/-! ### Traces -/

namespace Loop

variable [Outlet τ] {start l l' : Loop ω τ} {moves more : List (Transition τ)}

theorem Trace.single {m : Transition τ} (h : l.Step m l') : l.Trace [m] l' :=
  .concat (.nil l) h

theorem Trace.append (h : start.Trace moves l) (hmore : l.Trace more l') :
    start.Trace (moves ++ more) l' := by
  induction hmore with
  | nil => simpa using h
  | concat _ last ih =>
    rw [← List.append_assoc]
    exact .concat ih last

/-- A trace passes through a state at each of its transitions. -/
theorem Trace.split {before after : List (Transition τ)} {m : Transition τ} (h : start.Trace moves l)
    (hmoves : moves = before ++ m :: after) :
    ∃ l₁ l₂, start.Trace before l₁ ∧ l₁.Step m l₂ := by
  induction h generalizing after with
  | nil => simp at hmoves
  | concat trace last ih =>
    obtain ⟨-, rfl, rfl⟩ | ⟨rest, -, hrest⟩ := concat_eq_iff.mp hmoves
    · exact ⟨_, _, trace, last⟩
    · exact ih hrest

/-- The loop leaves the session by internal transitions only. -/
def LeavesSession (l : Loop ω τ) : Prop :=
  ∃ moves l' last, l.Trace moves l' ∧ (∀ m ∈ moves, m.isInner = true) ∧ l'.position = .resting last

theorem LeavesSession.resting {last} (h : l.position = .resting last) : l.LeavesSession :=
  ⟨[], l, last, .nil l, nofun, h⟩

theorem LeavesSession.step {m : Transition τ} (hm : l.Step m l') (hinner : m.isInner = true)
    (h : l'.LeavesSession) : l.LeavesSession := by
  obtain ⟨moves, l'', last, htrace, hmoves, hlast⟩ := h
  refine ⟨m :: moves, l'', last, (Trace.single hm).append htrace, ?_, hlast⟩
  rw [List.forall_mem_cons]
  exact ⟨hinner, hmoves⟩

theorem LeavesSession.looking (hasked : l.server.stopRequested = true) (h : l.position = .looking) :
    l.LeavesSession :=
  .step (.halt h hasked) rfl (.resting rfl)

theorem LeavesSession.replying {r} (hasked : l.server.stopRequested = true)
    (h : l.position = .replying r) : l.LeavesSession := by
  obtain ⟨outcome, link, hwrote⟩ : ∃ outcome link, Outlet.respond r l.link = (outcome, link) :=
    ⟨_, _, rfl⟩
  refine .step (.write h hwrote) rfl ?_
  cases outcome with
  | ok _ => exact .looking hasked rfl
  | error fault => exact .resting rfl

/-- With a stop request pending, the loop leaves the session, unless it waits for input. -/
theorem leavesSession (hasked : l.server.stopRequested = true) (hwaiting : l.position ≠ .waiting) :
    l.LeavesSession := by
  cases hposition : l.position with
  | resting last => exact .resting hposition
  | looking => exact .looking hasked hposition
  | waiting => exact absurd hposition hwaiting
  | replying r => exact .replying hasked hposition
  | holding r =>
    refine .step (.carryOut hposition) rfl ?_
    cases hresponse : (l.server.handle r).2.1 with
    | none => exact .looking hasked (by simp only [Loop.carryOut, hresponse])
    | some response =>
      exact .replying (r := response) hasked (by simp only [Loop.carryOut, hresponse])

/-- With a stop request pending, the loop leaves the session after the next segment. -/
theorem leavesSession_take (hasked : l.server.stopRequested = true) (a : Arrival) :
    (l.take a).LeavesSession := by
  cases a with
  | request r => exact leavesSession hasked nofun
  | refused fault => exact leavesSession hasked nofun
  | ended => exact .resting rfl
  | failed fault => cases fault <;> exact .resting rfl

end Loop

/-! ### Sessions and their ends -/

def Phase.rank : Phase → Nat
  | .created => 0
  | .opening => 1
  | .running => 2
  | .stopped => 3

theorem Phase.rank_le_after (p : Phase) (method : String) : p.rank ≤ (p.after method).rank := by
  unfold Phase.after
  cases Method.ofName? method with
  | none => cases p <;> exact Nat.le_refl _
  | some m => cases p <;> cases m <;> decide

theorem Phase.rank_le_foldl (p : Phase) (methods : List String) :
    p.rank ≤ (methods.foldl Phase.after p).rank := by
  induction methods generalizing p with
  | nil => exact Nat.le_refl _
  | cons method methods ih => exact Nat.le_trans (p.rank_le_after method) (ih (p.after method))

theorem Phase.rank_le_stopped (p : Phase) : p.rank ≤ Phase.stopped.rank := by
  cases p <;> decide

namespace TraceInvariant

variable [Outlet τ] {moves after : List (Transition τ)} {l l' : Loop ω τ} {m : Transition τ}

theorem rank_le_step (h : TraceInvariant moves l) (hm : l.Step m l') (henter : m.isEnter = false) :
    l.server.phase.rank ≤ l'.server.phase.rank := by
  cases Loop.stepCases hm h.phaseApplied with
  | stop => exact Nat.le_refl _
  | enter => cases henter
  | endSession _ _ _ stopped =>
    rw [stopped]
    exact Phase.rank_le_stopped _
  | further _ _ _ _ _ phase =>
    rw [phase]
    exact Phase.rank_le_foldl _ _

/-- The phase never decreases within a session. -/
theorem rank_le (h : TraceInvariant moves l) (htrace : l.Trace after l')
    (henter : ∀ m ∈ after, m.isEnter = false) :
    TraceInvariant (moves ++ after) l' ∧ l.server.phase.rank ≤ l'.server.phase.rank := by
  induction htrace with
  | nil => simpa using h
  | concat _ last ih =>
    rw [List.forall_mem_append, List.forall_mem_singleton] at henter
    obtain ⟨hinvariant, hle⟩ := ih henter.1
    rw [← List.append_assoc]
    exact ⟨hinvariant.step last, Nat.le_trans hle (hinvariant.rank_le_step last henter.2)⟩

end TraceInvariant

/-- The transitions that end a session with an error. -/
theorem Transition.fails_iff {m : Transition τ} :
    (∃ failure, m.ending? = some (.error failure)) ↔
      (∃ fault, fault ≠ .closed ∧ m = .read (.failed fault)) ∨
        ∃ fault, m = .write (.error fault) := by
  constructor
  · rintro ⟨failure, h⟩
    cases m with
    | stop | enter | proceed | carryOut => cases h
    | halt => cases h
    | read a =>
      cases a with
      | request | refused | ended => cases h
      | failed fault =>
        refine .inl ⟨fault, ?_, rfl⟩
        rintro rfl
        cases h
    | write outcome =>
      cases outcome with
      | ok => cases h
      | error fault => exact .inr ⟨fault, rfl⟩
  · rintro (⟨fault, hfault, rfl⟩ | ⟨fault, rfl⟩)
    · cases fault with
      | closed => exact absurd rfl hfault
      | _ => exact ⟨_, rfl⟩
    · exact ⟨_, rfl⟩

/-- The loop after `moves`, from a server that has never run. -/
structure Lifecycle [Outlet τ] (new : Loop ω τ) (moves : List (Transition τ)) (l : Loop ω τ) : Prop where
  /-- Every transition is a step of the session. -/
  sessions : ∀ before m after l₁ l₂, moves = before ++ m :: after → new.Trace before l₁ →
    l₁.Step m l₂ → (m = .stop → l₁.position.isIdle = true) → l₂.session = m.onSession l₁.session
  /-- During a session the phase is determined by the methods read in it, -/
  during : l.position.isServing = true →
    l.server.running = true ∧ l.server.phase = phaseOf (methodsOf moves)
  /-- and never decreases. -/
  forward : ∀ before after l₁, moves = before ++ after → new.Trace before l₁ →
    l₁.Trace after l → (∀ m ∈ after, m.isEnter = false) →
    l₁.server.phase.rank ≤ l.server.phase.rank
  /-- At a check the loop halts if a stop request is pending, and goes on otherwise. -/
  looks : ∀ before m after, moves = before ++ m :: after →
    (m = .halt → Pending before) ∧ (m = .proceed → ¬ Pending before)
  /-- Every stop request takes effect once. -/
  once : ∀ before mid after, moves = before ++ .halt :: mid ++ .halt :: after → .stop ∈ mid
  /-- Before it does, at most one more segment is read and carried out, and a session entered in
  between does nothing. -/
  sinceStop : ∀ before after, moves = before ++ .stop :: after → .halt ∉ after → SinceStop after l
  /-- It takes effect, or the session ends, after at most one more segment. -/
  returns : Pending moves →
    (l.position ≠ .waiting → l.LeavesSession) ∧ ∀ a, l.position = .waiting → (l.take a).LeavesSession
  /-- Every session entered ends once, unless it is still going on. -/
  entered : moves.countP Transition.isEnter =
    (moves.filterMap Transition.ending?).length + if l.position.isServing then 1 else 0
  /-- Outside a session the server is not running; after a first session its phase is `stopped`, and
  the outcome is that of the last transition of the session. -/
  resting : ∀ last, l.position = .resting last →
    last = (moves.filterMap Transition.ending?).getLast? ∧ l.server.running = false ∧
      l.server.phase = if last.isSome then .stopped else .created
  /-- A session ends with an error if and only if a read fails, on a transport that was not closed, or
  the write of a response fails. -/
  fails : ∀ m ∈ moves, (∃ failure, m.ending? = some (.error failure)) ↔
    (∃ fault, fault ≠ .closed ∧ m = .read (.failed fault)) ∨ ∃ fault, m = .write (.error fault)

/-- Every trace of a new server has the properties of `Lifecycle`, for every transport and every
time of a stop request. -/
theorem lifecycle_of_trace [Outlet τ] (service : Dispatcher ω) (scene : Scene ω) (link : τ)
    {moves : List (Transition τ)} {l : Loop ω τ}
    (h : Loop.Trace { server := { service, scene }, link } moves l) :
    Lifecycle { server := { service, scene }, link } moves l := by
  have hinvariant := TraceInvariant.of_trace h
  have looks : ∀ before m after, moves = before ++ m :: after →
      (m = .halt → Pending before) ∧ (m = .proceed → ¬ Pending before) := by
    intro before m after hmoves
    obtain ⟨l₁, l₂, htrace, hstep⟩ := h.split hmoves
    rw [← (TraceInvariant.of_trace htrace).asked]
    constructor
    · rintro rfl
      cases hstep
      assumption
    · rintro rfl
      cases hstep with
      | proceed here notStopped => simp [notStopped]
  exact {
    sessions := fun _ _ _ _ _ _ _ hstep hm => Loop.session_step hstep hm
    during := hinvariant.during
    forward := by
      intro before after l₁ _ hbefore hafter henter
      exact ((TraceInvariant.of_trace hbefore).rank_le hafter henter).2
    looks
    once := by
      intro before mid after hmoves
      exact stop_mem_of_pending ((looks _ _ _ hmoves).1 rfl)
    sinceStop := fun before after hmoves hhalt => SinceStop.of_trace h hmoves hhalt
    returns := by
      intro hpending
      have hasked := hinvariant.asked.mpr hpending
      exact ⟨Loop.leavesSession hasked, fun a _ => Loop.leavesSession_take hasked a⟩
    entered := hinvariant.entered
    resting := hinvariant.resting
    fails := fun m _ => m.fails_iff }

/-- A stop request while the server waits for input, and one more request before it takes effect. -/
theorem lifecycle_of_trace_stopped :
    let new : Loop Unit Stream.Pipe := {
      server := {
        service := { info := { name := "desk", version := "1" } }
        scene := { world := (), supply := { now := .epoch, next := 0 } } }
      link := {} }
    let moves : List (Transition Stream.Pipe) :=
      [.enter {}, .proceed, .stop, .read (.request { method := "initialize" }), .carryOut, .halt]
    ∃ l, new.Trace moves l ∧ Lifecycle new moves l ∧ l.position = .resting (some (.ok ())) := by
  intro new moves
  have htrace := Loop.Trace.concat (.concat (.concat (.concat (.concat (.concat (.nil new)
    (.enter rfl {})) (.proceed rfl rfl)) (.stop _)) (.read rfl (.request { method := "initialize" })))
    (.carryOut rfl)) (.halt rfl rfl)
  exact ⟨_, htrace, lifecycle_of_trace _ _ _ htrace, rfl⟩

end ReleaseDesk.Service
