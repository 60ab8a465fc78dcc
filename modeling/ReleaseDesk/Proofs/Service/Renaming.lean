import Mathlib.Data.List.Forall2
import ReleaseDesk.Proofs.Service.Stateless
import ReleaseDesk.Proofs.Supply

/-! Renaming of progress tokens. Two scenes are renamings of each other if they differ only in the
names of their tokens and in the position of the token supply; actions that refer to tokens by index
preserve this, and send notifications that differ only in tokens. -/

namespace ReleaseDesk.Service

open ReleaseDesk.Protocol

/-! ### Tokens -/

/-- The token drawn after `k` others from position `first`. -/
def drawn (first k : Nat) : ProgressToken := .string (identifier (first + k))

theorem drawn_eq_iff {m m' i j : Nat} : drawn m i = drawn m j ↔ drawn m' i = drawn m' j := by
  simpa [drawn] using identifier_add_eq_iff

/-- Corresponding tokens: the same index below `n` in the sequences from `m` and from `m'`. -/
def Paired (m m' n : Nat) (token token' : ProgressToken) : Prop :=
  ∃ k < n, token = drawn m k ∧ token' = drawn m' k

variable {m m' n n' : Nat}

namespace Paired

theorem mono {token token' : ProgressToken} (h : Paired m m' n token token') (hn : n ≤ n') :
    Paired m m' n' token token' := by
  obtain ⟨k, hk, heq⟩ := h
  exact ⟨k, Nat.lt_of_lt_of_le hk hn, heq⟩

/-- The correspondence is injective in both directions. -/
theorem eq_iff {token token' other other' : ProgressToken} (h : Paired m m' n token token')
    (hother : Paired m m' n other other') : token = other ↔ token' = other' := by
  obtain ⟨k, -, rfl, rfl⟩ := h
  obtain ⟨j, -, rfl, rfl⟩ := hother
  exact drawn_eq_iff

end Paired

/-- Notifications that are equal up to corresponding tokens. -/
inductive RenamedNotification (m m' n : Nat) : Rpc.Notification → Rpc.Notification → Prop
  | same (a : Rpc.Notification) : RenamedNotification m m' n a a
  | report (p : Progress) {token' : ProgressToken} (h : Paired m m' n p.token token') :
    RenamedNotification m m' n p.notification { p with token := token' }.notification

theorem RenamedNotification.mono {a a' : Rpc.Notification} (h : RenamedNotification m m' n a a')
    (hn : n ≤ n') :
    RenamedNotification m m' n' a a' := by
  cases h with
  | same a => exact .same a
  | report p h => exact .report p (h.mono hn)

/-! ### Active tokens -/

def PairedWork (m m' n : Nat) (x x' : ProgressToken × Nat) : Prop :=
  Paired m m' n x.1 x'.1 ∧ x.2 = x'.2

/-- Trackers with corresponding tokens and equal totals. -/
def Tracker.Renamed (m m' n : Nat) (t t' : Tracker) : Prop :=
  List.Forall₂ (PairedWork m m' n) t.active t'.active

namespace Tracker.Renamed

variable {t t' : Tracker} {token token' : ProgressToken}

theorem mono (h : Tracker.Renamed m m' n t t') (hn : n ≤ n') : Tracker.Renamed m m' n' t t' :=
  List.Forall₂.imp (fun _ _ hx => ⟨hx.1.mono hn, hx.2⟩) h

theorem count_eq (h : Tracker.Renamed m m' n t t') : t.count = t'.count := h.length_eq

theorem total?_eq (h : Tracker.Renamed m m' n t t') (hp : Paired m m' n token token') :
    t.total? token = t'.total? token' := by
  obtain ⟨active⟩ := t
  obtain ⟨active'⟩ := t'
  change List.Forall₂ (PairedWork m m' n) active active' at h
  unfold total?
  dsimp only
  induction h with
  | nil => rfl
  | @cons x x' rest rest' hx _ ih =>
    have hsame : decide (x.1 = token) = decide (x'.1 = token') :=
      decide_eq_decide.mpr (hx.1.eq_iff hp)
    rw [List.find?_cons, List.find?_cons, hsame]
    cases decide (x'.1 = token') with
    | true => exact congrArg some hx.2
    | false => exact ih

theorem isActive_eq (h : Tracker.Renamed m m' n t t') (hp : Paired m m' n token token') :
    t.isActive token = t'.isActive token' := by
  rw [isActive, isActive, h.total?_eq hp]

theorem drop (h : Tracker.Renamed m m' n t t') (hp : Paired m m' n token token') :
    Tracker.Renamed m m' n (t.drop token) (t'.drop token') := by
  refine List.rel_filter (fun x x' hx => ?_) h
  simpa using not_congr (hx.1.eq_iff hp)

theorem start (h : Tracker.Renamed m m' n t t') (hp : Paired m m' n token token') (total : Nat)
    (message : String) :
    RenamedNotification m m' n (t.start token total message).1.notification
        (t'.start token' total message).1.notification ∧
      Tracker.Renamed m m' n (t.start token total message).2 (t'.start token' total message).2 :=
  ⟨.report (t.start token total message).1 hp, .cons ⟨hp, rfl⟩ (h.drop hp)⟩

theorem update (h : Tracker.Renamed m m' n t t') (hp : Paired m m' n token token') (done : Nat)
    (message : String) :
    List.Forall₂ (RenamedNotification m m' n) ((t.update token done message).toList.map Progress.notification)
      ((t'.update token' done message).toList.map Progress.notification) := by
  unfold Tracker.update
  rw [h.total?_eq hp]
  cases t'.total? token' with
  | none => exact .nil
  | some total => exact .cons (.report _ hp) .nil

theorem complete (h : Tracker.Renamed m m' n t t') (hp : Paired m m' n token token')
    (message : String) :
    List.Forall₂ (RenamedNotification m m' n) ((t.complete token message).1.toList.map Progress.notification)
        ((t'.complete token' message).1.toList.map Progress.notification) ∧
      Tracker.Renamed m m' n (t.complete token message).2 (t'.complete token' message).2 := by
  refine ⟨?_, h.drop hp⟩
  unfold Tracker.complete
  rw [h.total?_eq hp]
  cases t'.total? token' with
  | none => exact .nil
  | some total => exact .cons (.report _ hp) .nil

end Tracker.Renamed

/-! ### Scenes -/

/-- Scenes that are equal up to the names of the `n` tokens drawn and the position of the supply. -/
structure Scene.Renamed (m m' n : Nat) (s s' : Scene ω) : Prop where
  world : s.world = s'.world
  level : s.level = s'.level
  next : s.supply.next = m + n
  next' : s'.supply.next = m' + n
  tracker : Tracker.Renamed m m' n s.tracker s'.tracker
  sent : List.Forall₂ (RenamedNotification m m' n) s.sent s'.sent

namespace Scene.Renamed

variable {s s' : Scene ω}

theorem tell (h : Scene.Renamed m m' n s s') {added added' : List Rpc.Notification}
    (ht : List.Forall₂ (RenamedNotification m m' n) added added') :
    Scene.Renamed m m' n { s with sent := s.sent ++ added } { s' with sent := s'.sent ++ added' } :=
  { h with sent := List.rel_append h.sent ht }

end Scene.Renamed

/-! ### Actions -/

/-- After `n` tokens, the actions take renamed scenes to renamed scenes with results in `R` at the
number of tokens drawn, and send corresponding notifications. -/
def Parallel (m m' n : Nat) (R : Nat → α → β → Prop) (x : Action ω α) (x' : Action ω β) : Prop :=
  ∀ s s', Scene.Renamed m m' n s s' →
    ∃ n', n ≤ n' ∧ R n' (x.run s).1 (x'.run s').1 ∧ Scene.Renamed m m' n' (x.run s).2 (x'.run s').2

def Same (_ : Nat) (a a' : α) : Prop := a = a'

namespace Parallel

theorem pure {R : Nat → α → β → Prop} {a : α} {b : β} (h : R n a b) :
    Parallel (ω := ω) m m' n R (Pure.pure a) (Pure.pure b) :=
  fun _ _ hs => ⟨n, n.le_refl, h, hs⟩

theorem bind {R : Nat → α → β → Prop} {Q : Nat → γ → δ → Prop} {x : Action ω α} {x' : Action ω β}
    {next : α → Action ω γ} {next' : β → Action ω δ} (h : Parallel m m' n R x x')
    (hnext : ∀ n', n ≤ n' → ∀ a b, R n' a b → Parallel m m' n' Q (next a) (next' b)) :
    Parallel m m' n Q (x >>= next) (x' >>= next') := by
  intro s s' hs
  obtain ⟨n₁, hn₁, hr, hs₁⟩ := h s s' hs
  obtain ⟨n₂, hn₂, hq, hs₂⟩ := hnext n₁ hn₁ _ _ hr _ _ hs₁
  exact ⟨n₂, Nat.le_trans hn₁ hn₂, hq, hs₂⟩

theorem map {R : Nat → α → β → Prop} {Q : Nat → γ → δ → Prop} {x : Action ω α} {x' : Action ω β}
    {f : α → γ} {g : β → δ} (h : Parallel m m' n R x x') (hfg : ∀ n' a b, R n' a b → Q n' (f a) (g b)) :
    Parallel m m' n Q (f <$> x) (g <$> x') := by
  intro s s' hs
  obtain ⟨n₁, hn₁, hr, hs₁⟩ := h s s' hs
  exact ⟨n₁, hn₁, hfg _ _ _ hr, hs₁⟩

theorem get : Parallel (ω := ω) m m' n (Scene.Renamed m m') MonadState.get MonadState.get :=
  fun _ _ hs => ⟨n, n.le_refl, hs, hs⟩

/-! ### Operations of a context -/

theorem log (c : Context) (level : LogLevel) (text : String) (data : Option Json) :
    Parallel (ω := ω) m m' n Same (Action.log c level text data) (Action.log c level text data) := by
  intro s s' hs
  have hpasses : level.passes s.level = level.passes s'.level := by rw [hs.level]
  rw [Action.log_run, Action.log_run, hpasses]
  refine ⟨n, n.le_refl, rfl, ?_⟩
  split_ifs
  · exact hs.tell (.cons (.same _) .nil)
  · exact hs

theorem startProgress (total : Nat) (message : String) :
    Parallel (ω := ω) m m' n (Paired m m') (Action.startProgress total message)
      (Action.startProgress total message) := by
  intro s s' hs
  have hpaired : Paired m m' (n + 1) (.string s.supply.fresh) (.string s'.supply.fresh) := by
    rw [Supply.fresh, Supply.fresh, hs.next, hs.next']
    exact ⟨n, n.lt_succ_self, rfl, rfl⟩
  obtain ⟨hreport, htracker⟩ := (hs.tracker.mono n.le_succ).start hpaired total message
  have hsent := hs.sent.imp fun _ _ h => h.mono n.le_succ
  refine ⟨n + 1, n.le_succ, hpaired, ?_⟩
  rw [Action.startProgress_run, Action.startProgress_run]
  exact {
    world := hs.world
    level := hs.level
    next := congrArg (· + 1) hs.next
    next' := congrArg (· + 1) hs.next'
    tracker := htracker
    sent := List.rel_append hsent (.cons hreport .nil) }

variable {token token' : ProgressToken}

theorem updateProgress (hp : Paired m m' n token token') (done : Nat) (message : String) :
    Parallel (ω := ω) m m' n Same (Action.updateProgress token done message)
      (Action.updateProgress token' done message) := by
  intro s s' hs
  rw [Action.updateProgress_run, Action.updateProgress_run]
  exact ⟨n, n.le_refl, rfl, hs.tell (hs.tracker.update hp done message)⟩

theorem completeProgress (hp : Paired m m' n token token') (message : String) :
    Parallel (ω := ω) m m' n Same (Action.completeProgress token message)
      (Action.completeProgress token' message) := by
  intro s s' hs
  obtain ⟨hreport, htracker⟩ := hs.tracker.complete hp message
  rw [Action.completeProgress_run, Action.completeProgress_run]
  exact ⟨n, n.le_refl, rfl, { hs.tell hreport with tracker := htracker }⟩

/-! ### Scripts -/

/-- The tokens that two runs of a script have started. -/
abbrev Begun (m m' n : Nat) : List ProgressToken → List ProgressToken → Prop :=
  List.Forall₂ (Paired m m' n)

/-- An index below the number of tokens refers to corresponding tokens, and other indices to none.
-/
theorem Begun.piece {begun begun' : List ProgressToken} (hb : Begun m m' n begun begun') (i : Nat) :
    (begun[i]? = none ∧ begun'[i]? = none) ∨
      ∃ token token', begun[i]? = some token ∧ begun'[i]? = some token' ∧
        Paired m m' n token token' := by
  induction hb generalizing i with
  | nil => exact .inl ⟨rfl, rfl⟩
  | cons hp _ ih =>
    cases i with
    | zero => exact .inr ⟨_, _, rfl, rfl, hp⟩
    | succ i => exact ih i

theorem act {begun begun' : List ProgressToken} (hb : Begun m m' n begun begun') (c : Context)
    (act : Act) : Parallel (ω := ω) m m' n (Begun m m') (act.perform c begun) (act.perform c begun') := by
  have later (n' : Nat) (hn : n ≤ n') : Begun m m' n' begun begun' := hb.imp fun _ _ h => h.mono hn
  cases act with
  | log level text data => exact (log c level text data).bind fun n' hn _ _ _ => pure (later n' hn)
  | start total message =>
    refine (startProgress total message).bind fun n' hn token token' hp => pure ?_
    exact List.rel_append (later n' hn) (.cons hp .nil)
  | update piece done message =>
    rcases hb.piece piece with ⟨hnone, hnone'⟩ | ⟨token, token', hsome, hsome', hp⟩
    · simp only [Act.perform, hnone, hnone']
      exact pure hb
    · simp only [Act.perform, hsome, hsome']
      exact (updateProgress hp done message).bind fun n' hn _ _ _ => pure (later n' hn)
  | complete piece message =>
    rcases hb.piece piece with ⟨hnone, hnone'⟩ | ⟨token, token', hsome, hsome', hp⟩
    · simp only [Act.perform, hnone, hnone']
      exact pure hb
    · simp only [Act.perform, hsome, hsome']
      exact (completeProgress hp message).bind fun n' hn _ _ _ => pure (later n' hn)

/-- Scripts preserve renaming. -/
theorem script {begun begun' : List ProgressToken} (hb : Begun m m' n begun begun')
    (script : HandlerScript α) :
    Parallel (ω := ω) m m' n Same (script.perform begun) (script.perform begun') := by
  induction script generalizing n begun begun' with
  | give a => exact pure rfl
  | send c act next ih => exact (Parallel.act hb c act).bind fun _ _ _ _ hb => ih hb
  | isActive piece next ih =>
    refine get.bind fun n' hn s s' hs => ?_
    have hsame : begun[piece]?.any s.tracker.isActive = begun'[piece]?.any s'.tracker.isActive := by
      rcases hb.piece piece with ⟨hnone, hnone'⟩ | ⟨token, token', hsome, hsome', hp⟩
      · rw [hnone, hnone']
        rfl
      · rw [hsome, hsome']
        exact hs.tracker.isActive_eq (hp.mono hn)
    rw [hsame]
    exact ih _ (hb.imp fun _ _ h => h.mono hn)
  | count next ih =>
    refine get.bind fun n' hn s s' hs => ?_
    rw [hs.tracker.count_eq]
    exact ih _ (hb.imp fun _ _ h => h.mono hn)

end Parallel

/-! ### Requests -/

namespace Dispatcher

variable {o : Dispatcher ω}

theorem parallel_route (h : o.registry.Scripted) (name : String) (params : Option Json) (c : Context) :
    Parallel m m' n Same (o.route name params c) (o.route name params c) := by
  have hcovers : Covers o c fun x => Parallel m m' n Same x x := {
    refused := fun _ _ => .pure rfl
    record := fun _ _ => .pure rfl
    nothing := .pure rfl
    level := fun level s s' hs => ⟨n, n.le_refl, rfl, { hs with level := rfl }⟩
    tool := fun _ handler hh arguments => by
      obtain ⟨script, hscript⟩ := h.tools handler (SortedMap.mem_of_get? hh) arguments c
      exact hscript ▸ (Parallel.script .nil script).map fun _ _ _ => congrArg _
    resource := fun _ handler hh => by
      obtain ⟨script, hscript⟩ := h.resources handler (SortedMap.mem_of_get? hh) c
      exact hscript ▸ (Parallel.script .nil script).map fun _ _ _ => congrArg _
    prompt := fun _ handler hh arguments => by
      obtain ⟨script, hscript⟩ := h.prompts handler (SortedMap.mem_of_get? hh) arguments c
      exact hscript ▸ (Parallel.script .nil script).map fun _ _ _ => congrArg _ }
  exact hcovers.route name params

end Dispatcher

/-- Servers that are equal up to the names of tokens. -/
structure Server.Renamed (m m' n : Nat) (s s' : Server ω) : Prop where
  service : s.service = s'.service
  scene : Scene.Renamed m m' n s.scene s'.scene
  phase : s.phase = s'.phase
  running : s.running = s'.running
  stopRequested : s.stopRequested = s'.stopRequested

/-- Renamed servers have equal responses to a request, and send corresponding notifications. -/
theorem Server.Renamed.handle {s s' : Server ω} (h : Server.Renamed m m' n s s')
    (hr : s.service.registry.Scripted) (r : Rpc.Request) :
    ∃ n', n ≤ n' ∧ List.Forall₂ (RenamedNotification m m' n') (s.handle r).1 (s'.handle r).1 ∧
      (s.handle r).2.1 = (s'.handle r).2.1 ∧
      Server.Renamed m m' n' (s.handle r).2.2 (s'.handle r).2.2 := by
  obtain ⟨n', hn, hsame, hscene⟩ := Dispatcher.parallel_route hr r.method r.params
    (s.service.context r) { s.scene with sent := [] } { s'.scene with sent := [] }
    { h.scene with sent := .nil }
  refine ⟨n', hn, ?_⟩
  simp only [Server.handle, Action.observed_run, Dispatcher.dispatch_run, ← h.service]
  refine ⟨hscene.sent, ?_, rfl, { hscene with sent := .nil }, ?_, h.running, h.stopRequested⟩
  · rw [hsame]
  · rw [h.phase]

end ReleaseDesk.Service
