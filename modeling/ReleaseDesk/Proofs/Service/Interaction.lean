import ReleaseDesk.Proofs.Service.Classification
import ReleaseDesk.Proofs.Service.Persistence
import ReleaseDesk.Proofs.Service.Notice

/-! Interaction trees of handlers. A handler that uses its context only logs and reports progress,
reads the world, the supply and the progress tracker, and writes the world. Such an action is given
by a tree, from which its calls to log can be read off, with the notifications that each of them
sends. It never reads the level filter. -/

namespace ReleaseDesk.Service

open ReleaseDesk.Protocol

/-! ### Calls to log -/

/-- The arguments of a call to log. The name is that of the context if none is given. -/
structure LogCall where
  level : LogLevel
  text : String
  data : Option Json := none
  name : Option String := none

namespace LogCall

def logger (c : Context) (call : LogCall) : Option String := call.name.or c.logger

def perform (c : Context) (call : LogCall) : Action ω Unit :=
  Action.log { c with logger := call.logger c } call.level call.text call.data

def notification (c : Context) (call : LogCall) : Rpc.Notification :=
  (logMessage (call.logger c) call.level call.text call.data).notification

/-- The notifications sent if the filter is at a level. -/
def passed (c : Context) (least : LogLevel) (call : LogCall) : List Rpc.Notification :=
  if call.level.passes least then [call.notification c] else []

theorem perform_run (c : Context) (call : LogCall) (scene : Scene ω) :
    (call.perform c).run scene = ((), { scene with sent := scene.sent ++ call.passed c scene.level }) := by
  rw [perform, Action.log_run, passed]
  split_ifs
  · rfl
  · rw [List.append_nil]

end LogCall

/-- A call to log with the notifications that it sends. -/
structure Logged where
  call : LogCall
  sent : List Rpc.Notification

def isLog (n : Rpc.Notification) : Bool := n.method = messageMethod

@[simp] theorem isLog_message (m : LogMessage) : isLog m.notification = true := rfl

@[simp] theorem isLog_progress (p : Progress) : isLog p.notification = false := by
  simp [isLog, Progress.notification, progressMethod, messageMethod]

theorem filter_passed (c : Context) (least : LogLevel) (call : LogCall) :
    (call.passed c least).filter isLog = call.passed c least := by
  unfold LogCall.passed
  split_ifs <;> rfl

theorem filter_progress (reports : List Progress) :
    (reports.map Progress.notification).filter isLog = [] := by
  rw [List.filter_eq_nil_iff]
  simp

/-! ### Interaction trees -/

/-- An interaction tree: the operations of a context in order, up to a value. Reading branches on
the world, the supply and the tracker. -/
inductive Interaction (ω α : Type)
  | done (a : α)
  | log (call : LogCall) (next : Interaction ω α)
  | start (total : Nat) (message : String) (next : ProgressToken → Interaction ω α)
  | update (token : ProgressToken) (steps : Nat) (message : String) (next : Interaction ω α)
  | complete (token : ProgressToken) (message : String) (next : Interaction ω α)
  | read (next : ω → Supply → Tracker → Interaction ω α)
  | write (world : ω) (supply : Supply) (next : Interaction ω α)

namespace Interaction

/-- The action given by a tree. -/
def perform (c : Context) : Interaction ω α → Action ω α
  | done a => pure a
  | log call next => do
    call.perform c
    next.perform c
  | start total message next => do
    let token ← Action.startProgress total message
    (next token).perform c
  | update token steps message next => do
    Action.updateProgress token steps message
    next.perform c
  | complete token message next => do
    Action.completeProgress token message
    next.perform c
  | read next => do
    let scene ← get
    (next scene.world scene.supply scene.tracker).perform c
  | write world supply next => do
    modify fun scene => { scene with world, supply }
    next.perform c

/-- The calls to log from a scene on, in order, each with what it adds to the notifications sent. -/
def logged (c : Context) : Interaction ω α → Scene ω → List Logged
  | done _, _ => []
  | log call next, scene =>
    let after := ((call.perform c).run scene).2
    { call, sent := after.sent.drop scene.sent.length } :: next.logged c after
  | start total message next, scene =>
    let (token, after) := (Action.startProgress total message).run scene
    (next token).logged c after
  | update token steps message next, scene =>
    next.logged c ((Action.updateProgress token steps message).run scene).2
  | complete token message next, scene => next.logged c ((Action.completeProgress token message).run scene).2
  | read next, scene => (next scene.world scene.supply scene.tracker).logged c scene
  | write world supply next, scene => next.logged c { scene with world, supply }

section

variable (c : Context) (scene : Scene ω)

abbrev sending (sent : List Rpc.Notification) : Scene ω := { scene with sent := scene.sent ++ sent }

theorem run_log (call : LogCall) (next : Interaction ω α) :
    ((log call next).perform c).run scene =
      (next.perform c).run (sending scene (call.passed c scene.level)) := by
  rw [perform, StateT.run_bind, LogCall.perform_run]
  rfl

theorem logged_log (call : LogCall) (next : Interaction ω α) :
    (log call next).logged c scene =
      { call, sent := call.passed c scene.level } ::
        next.logged c (sending scene (call.passed c scene.level)) := by
  simp only [logged, LogCall.perform_run, List.drop_left]

theorem run_update (token : ProgressToken) (steps : Nat) (message : String) (next : Interaction ω α) :
    ((update token steps message next).perform c).run scene = (next.perform c).run
      (sending scene ((scene.tracker.update token steps message).toList.map Progress.notification)) := by
  rw [perform, StateT.run_bind, Action.updateProgress_run]
  rfl

theorem logged_update (token : ProgressToken) (steps : Nat) (message : String) (next : Interaction ω α) :
    (update token steps message next).logged c scene = next.logged c
      (sending scene ((scene.tracker.update token steps message).toList.map Progress.notification)) := by
  rw [logged, Action.updateProgress_run]

theorem run_complete (token : ProgressToken) (message : String) (next : Interaction ω α) :
    ((complete token message next).perform c).run scene = (next.perform c).run
      (sending { scene with tracker := (scene.tracker.complete token message).2 }
        ((scene.tracker.complete token message).1.toList.map Progress.notification)) := by
  rw [perform, StateT.run_bind, Action.completeProgress_run]
  rfl

theorem logged_complete (token : ProgressToken) (message : String) (next : Interaction ω α) :
    (complete token message next).logged c scene = next.logged c
      (sending { scene with tracker := (scene.tracker.complete token message).2 }
        ((scene.tracker.complete token message).1.toList.map Progress.notification)) := by
  rw [logged, Action.completeProgress_run]

end

theorem level_perform (c : Context) (tree : Interaction ω α) (scene : Scene ω) :
    ((tree.perform c).run scene).2.level = scene.level := by
  induction tree generalizing scene with
  | done a => rfl
  | log call next ih => rw [run_log, ih]
  | start total message next ih => exact ih _ ((Action.startProgress total message).run scene).2
  | update token steps message next ih => rw [run_update, ih]
  | complete token message next ih => rw [run_complete, ih]
  | read next ih => exact ih _ _ _ scene
  | write world supply next ih => exact ih { scene with world, supply }

/-- A call to log sends its message if and only if it passes the filter that the tree starts with.
-/
theorem sent_of_logged (c : Context) (tree : Interaction ω α) (scene : Scene ω) :
    ∀ e ∈ tree.logged c scene, e.sent = e.call.passed c scene.level := by
  induction tree generalizing scene with
  | done a => exact List.forall_mem_nil _
  | log call next ih =>
    rw [logged_log]
    exact List.forall_mem_cons.mpr ⟨rfl, ih (sending scene _)⟩
  | start total message next ih => exact ih _ ((Action.startProgress total message).run scene).2
  | update token steps message next ih =>
    rw [logged_update]
    exact ih (sending scene _)
  | complete token message next ih =>
    rw [logged_complete]
    exact ih (sending { scene with tracker := _ } _)
  | read next ih => exact ih _ _ _ scene
  | write world supply next ih => exact ih { scene with world, supply }

/-- The log messages sent are those of the calls to log, in order. -/
theorem filter_sent (c : Context) (tree : Interaction ω α) (scene : Scene ω) :
    ((tree.perform c).run scene).2.sent.filter isLog =
      scene.sent.filter isLog ++ (tree.logged c scene).flatMap (·.sent) := by
  induction tree generalizing scene with
  | done a => exact (List.append_nil _).symm
  | log call next ih =>
    rw [run_log, ih, logged_log, List.filter_append, filter_passed, List.flatMap_cons, List.append_assoc]
  | start total message next ih =>
    refine (ih _ ((Action.startProgress total message).run scene).2).trans ?_
    rw [Action.startProgress_run, List.filter_append, List.filter_cons_of_neg (by simp), List.filter_nil,
      List.append_nil]
    rfl
  | update token steps message next ih =>
    rw [run_update, ih, logged_update, List.filter_append, filter_progress, List.append_nil]
  | complete token message next ih =>
    rw [run_complete, ih, logged_complete, List.filter_append, filter_progress, List.append_nil]
  | read next ih => exact ih _ _ _ scene
  | write world supply next ih => exact ih { scene with world, supply }

theorem sendsNotices (c : Context) (tree : Interaction ω α) : SendsNotices (tree.perform c) := by
  induction tree with
  | done a => exact .pure a
  | log call next ih => exact (SendsNotices.log _ _ _ _).bind fun _ => ih
  | start total message next ih => exact (SendsNotices.startProgress _ _).bind ih
  | update token steps message next ih => exact (SendsNotices.updateProgress _ _ _).bind fun _ => ih
  | complete token message next ih => exact (SendsNotices.completeProgress _ _).bind fun _ => ih
  | read next ih => exact (SendsNotices.of_silent fun _ => rfl).bind fun scene => ih _ _ _
  | write world supply next ih => exact (SendsNotices.of_silent fun _ => rfl).bind fun _ => ih

end Interaction

/-! ### Handlers -/

/-- The handler of an invocation is found in a registry. -/
def Registry.Has (r : Registry ω) : Invocation ω → Prop
  | .call h _ => ∃ name, r.tools.get? name = some h
  | .read h => ∃ uri, r.resources.get? uri = some h
  | .fill h _ => ∃ name, r.prompts.get? name = some h

theorem Dispatcher.Invokes.has {o : Dispatcher ω} {name : String} {params : Option Json} {i : Invocation ω}
    (h : o.Invokes name params i) : o.registry.Has i := by
  cases h with
  | call _ _ hfound => exact ⟨_, hfound⟩
  | read _ _ hfound => exact ⟨_, hfound⟩
  | fill _ _ hfound _ => exact ⟨_, hfound⟩

/-- The handlers of a registry are given by trees. -/
def Registry.Follows (r : Registry ω)
    (tree : Invocation ω → Context → Interaction ω (Except Failure Json)) : Prop :=
  ∀ i, r.Has i → ∀ c, i.perform c = (tree i c).perform c

/-- The calls to log of the handlers invoked by a request. -/
def Server.logged (s : Server ω) (tree : Invocation ω → Context → Interaction ω (Except Failure Json))
    (r : Rpc.Request) : List Logged :=
  (s.service.invoked r { s.scene with sent := [] }).flatMap fun e =>
    (tree e.invocation e.context).logged e.context { s.scene with sent := [] }

/-! ### Actions given by trees -/

def Interaction.bind : Interaction ω α → (α → Interaction ω β) → Interaction ω β
  | .done a, f => f a
  | .log call next, f => .log call (next.bind f)
  | .start total message next, f => .start total message fun token => (next token).bind f
  | .update token steps message next, f => .update token steps message (next.bind f)
  | .complete token message next, f => .complete token message (next.bind f)
  | .read next, f => .read fun world supply tracker => (next world supply tracker).bind f
  | .write world supply next, f => .write world supply (next.bind f)

theorem Interaction.perform_bind (c : Context) (x : Interaction ω α) (f : α → Interaction ω β) :
    (x.bind f).perform c = x.perform c >>= fun a => (f a).perform c := by
  induction x with
  | done a => rfl
  | log call next ih => rw [bind, perform, ih, perform, bind_assoc]
  | start total message next ih =>
    rw [bind, perform, perform, bind_assoc]
    congr 1
    funext token
    exact ih token
  | update token steps message next ih => rw [bind, perform, ih, perform, bind_assoc]
  | complete token message next ih => rw [bind, perform, ih, perform, bind_assoc]
  | read next ih =>
    rw [bind, perform, perform, bind_assoc]
    congr 1
    funext scene
    exact ih _ _ _
  | write world supply next ih => rw [bind, perform, ih, perform, bind_assoc]

/-- An action is given by a tree. -/
def IsTree (c : Context) (action : Action ω α) : Prop := ∃ tree : Interaction ω α, action = tree.perform c

namespace IsTree

variable {c : Context}

theorem pure (a : α) : IsTree (ω := ω) c (Pure.pure a) := ⟨.done a, rfl⟩

theorem bind {x : Action ω α} {next : α → Action ω β} (hx : IsTree c x) (hnext : ∀ a, IsTree c (next a)) :
    IsTree c (x >>= next) := by
  obtain ⟨tree, rfl⟩ := hx
  choose f hf using hnext
  refine ⟨tree.bind f, ?_⟩
  rw [Interaction.perform_bind]
  congr 1
  funext a
  exact hf a

theorem map {x : Action ω α} (f : α → β) (hx : IsTree c x) : IsTree c (f <$> x) :=
  hx.bind fun a => pure (f a)

theorem startProgress (total : Nat) (message : String) :
    IsTree (ω := ω) c (Action.startProgress total message) :=
  ⟨.start total message .done, rfl⟩

theorem completeProgress (token : ProgressToken) (message : String) :
    IsTree (ω := ω) c (Action.completeProgress token message) := ⟨.complete token message (.done ()), rfl⟩

/-- An action that reads and writes the world and the supply. -/
theorem of_run {action : Action ω α} (f : ω → Supply → Tracker → α × ω × Supply)
    (h : ∀ scene, action.run scene = ((f scene.world scene.supply scene.tracker).1,
      { scene with
        world := (f scene.world scene.supply scene.tracker).2.1
        supply := (f scene.world scene.supply scene.tracker).2.2 })) : IsTree c action := by
  refine ⟨.read fun world supply tracker => .write (f world supply tracker).2.1 (f world supply tracker).2.2
    (.done (f world supply tracker).1), ?_⟩
  funext scene
  exact h scene

/-- A read may depend neither on the level filter nor on the notifications sent. -/
theorem read {next : Scene ω → Action ω α} (h : ∀ scene, IsTree c (next scene))
    (hsame : ∀ s s' : Scene ω, s.world = s'.world → s.supply = s'.supply → s.tracker = s'.tracker →
      next s = next s') : IsTree c (get >>= next) := by
  choose f hf using h
  refine ⟨.read fun world supply tracker => f { world, supply, tracker }, ?_⟩
  rw [Interaction.perform]
  congr 1
  funext scene
  rw [← hf]
  exact hsame _ _ rfl rfl rfl

end IsTree

def Handler.IsTree : Handler ω → Prop
  | .tool h => ∀ arguments c, Service.IsTree c (h.call arguments c)
  | .resource h => ∀ c, Service.IsTree c (h.read c)
  | .prompt h => ∀ arguments c, Service.IsTree c (h.fill arguments c)

theorem IsTree.sendsNotices {c : Context} {action : Action ω α} (h : IsTree c action) :
    SendsNotices action := by
  obtain ⟨tree, rfl⟩ := h
  exact tree.sendsNotices c

theorem Handler.IsTree.sendsNotices {h : Handler ω} (hh : h.IsTree) : h.SendsNotices := by
  cases h with
  | tool h => exact fun arguments c => (hh arguments c).sendsNotices
  | resource h => exact fun c => (hh c).sendsNotices
  | prompt h => exact fun arguments c => (hh arguments c).sendsNotices

theorem Registry.exists_follows {r : Registry ω} (h : ∀ k handler, r.get? k = some handler → handler.IsTree) :
    ∃ tree, r.Follows tree := by
  have hone (i : Invocation ω) (hi : r.Has i) (c : Context) :
      ∃ tree : Interaction ω (Except Failure Json), i.perform c = tree.perform c := by
    cases i with
    | call handler arguments =>
      obtain ⟨name, hfound⟩ := hi
      exact (h (.tool name) _ (congrArg (Option.map Handler.tool) hfound) arguments c).map _
    | read handler =>
      obtain ⟨uri, hfound⟩ := hi
      exact (h (.resource uri) _ (congrArg (Option.map Handler.resource) hfound) c).map _
    | fill handler arguments =>
      obtain ⟨name, hfound⟩ := hi
      exact (h (.prompt name) _ (congrArg (Option.map Handler.prompt) hfound) arguments c).map _
  have : Nonempty (Interaction ω (Except Failure Json)) := ⟨.done (.ok .null)⟩
  choose! tree htree using hone
  exact ⟨tree, htree⟩

end ReleaseDesk.Service
