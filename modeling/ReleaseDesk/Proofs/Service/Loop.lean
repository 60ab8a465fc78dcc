import ReleaseDesk.Proofs.Service.Session

/-! The loop of a server as a transition system: enter a session, check the stop flag, read, carry
out, write, with stop requests at arbitrary times. Its traces are the sessions, in small steps.
`Loop.stepCases` says once what a transition can do to a server. -/

namespace ReleaseDesk.Service

open ReleaseDesk.Protocol

/-! ### Transitions -/

/-- The control state: outside a session, with the outcome of the last one; at the check of the stop
flag; waiting for input; with a request to carry out; with a response to write. -/
inductive ControlState
  | resting (last : Option (Except Failure Unit))
  | looking
  | waiting
  | holding (r : Rpc.Request)
  | replying (r : Rpc.Response)

/-- A server in the control state of its loop, with the transport of its session. -/
structure Loop (ω τ : Type) where
  server : Server ω
  link : τ
  position : ControlState := .resting none

/-- The transitions: a stop request; entering a session; the check of the flag, which halts or goes
on; reading a segment; carrying out a request; writing a response, with the result of the write. -/
inductive Transition (τ : Type)
  | stop
  | enter (link : τ)
  | halt
  | proceed
  | read (a : Arrival)
  | carryOut
  | write (outcome : Except TransportFault Unit)

namespace Loop

def endSession (l : Loop ω τ) (outcome : Except Failure Unit) : Loop ω τ :=
  { l with server := l.server.leaving, position := .resting (some outcome) }

/-- Handles a segment up to the request in it. -/
def take (l : Loop ω τ) : Arrival → Loop ω τ
  | .request r =>
    { l with server := { l.server with phase := l.server.phase.after r.method }, position := .holding r }
  | .refused fault => { l with position := .replying fault.reply }
  | .ended => l.endSession (.ok ())
  | .failed .closed => l.endSession (.ok ())
  | .failed fault => l.endSession (.error (.transport fault))

/-- Carries out a request up to the writing of its response. -/
def carryOut [Outlet τ] (l : Loop ω τ) (r : Rpc.Request) : Loop ω τ :=
  let (sent, response, server) := l.server.handle r
  { server
    link := sent.foldl (fun link n => (Outlet.notify n link).2) l.link
    position := match response with
      | some response => .replying response
      | none => .looking }

/-- Handles the result of a write. -/
def written (l : Loop ω τ) : Except TransportFault Unit → Loop ω τ
  | .ok () => { l with position := .looking }
  | .error fault => l.endSession (.error (.transport fault))

/-- The step relation. A stop request may come in every control state. -/
inductive Step [Outlet τ] : Loop ω τ → Transition τ → Loop ω τ → Prop
  | stop (l : Loop ω τ) : Step l .stop { l with server := l.server.stop }
  | enter {l : Loop ω τ} {last} (here : l.position = .resting last) (link : τ) :
    Step l (.enter link) { server := l.server.entering, link, position := .looking }
  | halt {l : Loop ω τ} (here : l.position = .looking) (asked : l.server.stopRequested = true) :
    Step l .halt (endSession { l with server := { l.server with stopRequested := false } } (.ok ()))
  | proceed {l : Loop ω τ} (here : l.position = .looking) (notStopped : l.server.stopRequested = false) :
    Step l .proceed { l with position := .waiting }
  | read {l : Loop ω τ} (here : l.position = .waiting) (a : Arrival) : Step l (.read a) (l.take a)
  | carryOut {l : Loop ω τ} {r} (here : l.position = .holding r) : Step l .carryOut (l.carryOut r)
  | write {l : Loop ω τ} {r outcome link} (here : l.position = .replying r)
      (wrote : Outlet.respond r l.link = (outcome, link)) :
    Step l (.write outcome) (written { l with link } outcome)

/-- The transitions of a run, the latest last. -/
inductive Trace [Outlet τ] : Loop ω τ → List (Transition τ) → Loop ω τ → Prop
  | nil (l : Loop ω τ) : Trace l [] l
  | concat {l l' l'' : Loop ω τ} {moves : List (Transition τ)} {m : Transition τ} (before : Trace l moves l')
      (last : Step l' m l'') : Trace l (moves ++ [m]) l''

/-! ### The loop and the session -/

/-- The session as it is after the segment in progress. -/
def session [Outlet τ] (l : Loop ω τ) : Session ω τ :=
  match l.position with
  | .resting last => { server := l.server, link := l.link, outcome := some (last.getD (.ok ())) }
  | .looking => Session.turn { server := l.server, link := l.link }
  | .waiting => { server := l.server, link := l.link }
  | .holding r => Session.receive { server := l.server, link := l.link } (.request r)
  | .replying r => Session.answer { server := l.server, link := l.link } r

end Loop

/-- A method advances the phase once. -/
theorem Phase.after_after (p : Phase) (method : String) :
    (p.after method).after method = p.after method := by
  unfold Phase.after
  cases Method.ofName? method with
  | none => cases p <;> rfl
  | some m => cases p <;> cases m <;> rfl

/-- The effect of a transition on the session. -/
def Transition.onSession [Outlet τ] : Transition τ → Session ω τ → Session ω τ
  | .stop, s => { s with server := s.server.stop }
  | .enter link, s => Session.start s.server link
  | .read a, s => s.receive a
  | _, s => s

/-- No segment is in progress. -/
def ControlState.isIdle : ControlState → Bool
  | .resting _ | .waiting => true
  | _ => false

namespace Loop

variable [Outlet τ] {l l' : Loop ω τ} {m : Transition τ}

theorem handle_take (server : Server ω) (r : Rpc.Request) :
    { server with phase := server.phase.after r.method }.handle r = server.handle r := by
  simp only [Server.handle, Phase.after_after]

/-- The transitions of the loop refine those of the session. A segment in progress counts as handled
there, so a stop request in the middle of it has no counterpart. -/
theorem session_step (h : Step l m l') (hm : m = .stop → l.position.isIdle = true) :
    l'.session = m.onSession l.session := by
  obtain ⟨server, link, position⟩ := l
  cases h with
  | stop =>
    cases position with
    | resting last => rfl
    | waiting => rfl
    | looking | holding | replying => cases hm rfl
  | enter here link' =>
    cases here
    rfl
  | halt here asked =>
    cases here
    simp only [session, Transition.onSession, Session.turn]
    rw [if_pos asked]
    rfl
  | proceed here notStopped =>
    cases here
    simp only [session, Transition.onSession, Session.turn]
    rw [if_neg (by simpa using notStopped)]
  | read here a =>
    cases here
    cases a with
    | request r =>
      simp only [take, session, Transition.onSession, Session.receive, handle_take]
    | refused fault => rfl
    | ended => rfl
    | failed fault => cases fault <;> rfl
  | @carryOut r here =>
    cases here
    simp only [Loop.carryOut, session, Transition.onSession, Session.receive]
    generalize server.handle r = handled
    obtain ⟨sent, response, server'⟩ := handled
    cases response <;> rfl
  | @write r outcome link' here wrote =>
    cases here
    simp only [session, Transition.onSession, Session.answer]
    rw [show Outlet.respond r link = (outcome, link') from wrote]
    cases outcome <;> rfl

end Loop

/-! ### Traces -/

/-- The phase of a session in which these methods have been read. -/
def phaseOf (methods : List String) : Phase :=
  match methods.dropWhile (· ≠ "initialize") with
  | [] => .created
  | _ :: later =>
    if later.any fun method => method = "initialized" ∨ method = "notifications/initialized" then .running
    else .opening

/-- A stop request has not taken effect. -/
def Pending (moves : List (Transition τ)) : Prop :=
  ∃ before after, moves = before ++ .stop :: after ∧ .halt ∉ after

namespace Transition

/-- The outcome of the session that ends with this transition. -/
def ending? : Transition τ → Option (Except Failure Unit)
  | .halt => some (.ok ())
  | .read .ended => some (.ok ())
  | .read (.failed .closed) => some (.ok ())
  | .read (.failed fault) => some (.error (.transport fault))
  | .write (.error fault) => some (.error (.transport fault))
  | _ => none

def isEnter : Transition τ → Bool
  | .enter _ => true
  | _ => false

def isRead : Transition τ → Bool
  | .read _ => true
  | _ => false

def isCarryOut : Transition τ → Bool
  | .carryOut => true
  | _ => false

def isWrite : Transition τ → Bool
  | .write _ => true
  | _ => false

/-- The server performs the transition without input or output. -/
def isInner : Transition τ → Bool
  | .halt | .proceed | .carryOut | .write _ => true
  | _ => false

/-- The method of the request that is read. -/
def methods : Transition τ → List String
  | .read (.request r) => [r.method]
  | _ => []

end Transition

/-- The methods read since the session was entered. -/
def methodsOf (moves : List (Transition τ)) : List String :=
  moves.foldl (fun methods m => if m.isEnter then [] else methods ++ m.methods) []

theorem ofName?_eq_greet {method : String} (h : Method.ofName? method = some .greet) :
    method = "initialize" := by
  unfold Method.ofName? at h
  split at h <;> simp_all

theorem ofName?_eq_greeted {method : String} (h : Method.ofName? method = some .greeted) :
    method = "initialized" ∨ method = "notifications/initialized" := by
  unfold Method.ofName? at h
  split at h <;> simp_all

theorem after_created (method : String) :
    Phase.created.after method = if method = "initialize" then .opening else .created := by
  by_cases h : method = "initialize"
  · subst h
    rfl
  · rw [if_neg h]
    unfold Phase.after
    cases hm : Method.ofName? method with
    | none => rfl
    | some m =>
      cases m with
      | greet => exact absurd (ofName?_eq_greet hm) h
      | _ => rfl

theorem after_opening (method : String) :
    Phase.opening.after method =
      if method = "initialized" ∨ method = "notifications/initialized" then .running
      else .opening := by
  by_cases h : method = "initialized" ∨ method = "notifications/initialized"
  · obtain rfl | rfl := h <;> rfl
  · rw [if_neg h]
    unfold Phase.after
    cases hm : Method.ofName? method with
    | none => rfl
    | some m =>
      cases m with
      | greeted => exact absurd (ofName?_eq_greeted hm) h
      | _ => rfl

theorem phaseOf_concat (methods : List String) (method : String) :
    phaseOf (methods ++ [method]) = (phaseOf methods).after method := by
  unfold phaseOf
  rw [List.dropWhile_append]
  cases methods.dropWhile (· ≠ "initialize") with
  | nil =>
    rw [after_created]
    by_cases h : method = "initialize"
    · simp [h]
    · simp [h]
  | cons first later =>
    simp only [List.isEmpty_cons, List.cons_append, List.any_append, List.any_cons, List.any_nil,
      Bool.false_eq_true, if_false, Bool.or_false]
    cases later.any fun method => method = "initialized" ∨ method = "notifications/initialized" with
    | true => rfl
    | false =>
      rw [if_neg Bool.false_ne_true, after_opening]
      simp

theorem phaseOf_append (methods more : List String) :
    phaseOf (methods ++ more) = more.foldl Phase.after (phaseOf methods) := by
  induction more generalizing methods with
  | nil => rw [List.append_nil, List.foldl_nil]
  | cons method more ih =>
    have hone := ih (methods ++ [method])
    rwa [List.append_assoc, List.singleton_append, phaseOf_concat] at hone

theorem methodsOf_concat (moves : List (Transition τ)) (m : Transition τ) :
    methodsOf (moves ++ [m]) = if m.isEnter then [] else methodsOf moves ++ m.methods := by
  rw [methodsOf, List.foldl_append]
  rfl

/-! ### Inversion of a transition -/

def ControlState.isServing : ControlState → Bool
  | .resting _ => false
  | _ => true

/-- The phase already includes the request in progress. -/
def Loop.PhaseApplied (l : Loop ω τ) : Prop :=
  ∀ r, l.position = .holding r → l.server.phase.after r.method = l.server.phase

/-- The effect of a transition on the server: a stop request, the start of a session, its end, or
its continuation. -/
inductive Loop.StepCases (l : Loop ω τ) : Transition τ → Loop ω τ → Prop
  | stop : StepCases l .stop { l with server := l.server.stop }
  | enter {last} (resting : l.position = .resting last) (link : τ) :
    StepCases l (.enter link) { server := l.server.entering, link, position := .looking }
  | endSession {m : Transition τ} {l' : Loop ω τ} {outcome} (ending : m.ending? = some outcome)
      (serving : l.position.isServing = true) (rests : l'.position = .resting (some outcome))
      (stopped : l'.server.phase = .stopped) (running : l'.server.running = false)
      (asked : (m = .halt ∧ l.server.stopRequested = true ∧ l'.server.stopRequested = false) ∨
        (m ≠ .halt ∧ l'.server.stopRequested = l.server.stopRequested)) : StepCases l m l'
  | further {m : Transition τ} {l' : Loop ω τ} (ending : m.ending? = none)
      (kind : m.isEnter = false ∧ m ≠ .stop) (serving : l.position.isServing = true)
      (serves : l'.position.isServing = true)
      (running : l'.server.running = l.server.running)
      (phase : l'.server.phase = m.methods.foldl Phase.after l.server.phase)
      (asked : l'.server.stopRequested = l.server.stopRequested) : StepCases l m l'

namespace Loop

variable [Outlet τ] {l l' : Loop ω τ} {m : Transition τ}

theorem stepCases (h : Step l m l') (happlied : l.PhaseApplied) : l.StepCases m l' := by
  obtain ⟨server, link, position⟩ := l
  cases h with
  | stop => exact .stop
  | enter here link' => exact .enter here link'
  | halt here asked =>
    cases here
    exact .endSession rfl rfl rfl rfl rfl (.inl ⟨rfl, asked, rfl⟩)
  | proceed here notStopped =>
    cases here
    exact .further rfl ⟨rfl, nofun⟩ rfl rfl rfl rfl rfl
  | read here a =>
    cases here
    cases a with
    | request r => exact .further rfl ⟨rfl, nofun⟩ rfl rfl rfl rfl rfl
    | refused fault => exact .further rfl ⟨rfl, nofun⟩ rfl rfl rfl rfl rfl
    | ended => exact .endSession rfl rfl rfl rfl rfl (.inr ⟨nofun, rfl⟩)
    | failed fault => cases fault <;> exact .endSession rfl rfl rfl rfl rfl (.inr ⟨nofun, rfl⟩)
  | @carryOut r here =>
    cases here
    refine .further rfl ⟨rfl, nofun⟩ rfl ?_ rfl (happlied r rfl) rfl
    simp only [Loop.carryOut]
    cases (server.handle r).2.1 <;> rfl
  | @write r outcome link' here wrote =>
    cases here
    cases outcome with
    | ok _ => exact .further rfl ⟨rfl, nofun⟩ rfl rfl rfl rfl rfl
    | error fault => exact .endSession rfl rfl rfl rfl rfl (.inr ⟨nofun, rfl⟩)

end Loop

end ReleaseDesk.Service
