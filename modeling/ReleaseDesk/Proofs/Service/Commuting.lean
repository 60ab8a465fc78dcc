import ReleaseDesk.Proofs.Service.Answer

/-! Actions that commute with a map of worlds. The map may forget part of the world; the supply, the
level filter, the active progress tokens and the notifications are the same on both sides. The
operations of a context commute with every map. -/

namespace ReleaseDesk.Service

open ReleaseDesk.Protocol

/-- The image of a scene under a map of worlds. -/
def Scene.map (f : ω → ω') (scene : Scene ω) : Scene ω' where
  world := f scene.world
  supply := scene.supply
  level := scene.level
  tracker := scene.tracker
  sent := scene.sent

@[simp] theorem Scene.map_level (f : ω → ω') (scene : Scene ω) :
    (scene.map f).level = scene.level := rfl

/-- On the image of a scene, `x` gives the value of `y` and the image of the scene after `y`. -/
def Commutes (f : ω → ω') (x : Action ω' α) (y : Action ω α) : Prop :=
  ∀ scene, x.run (scene.map f) = ((y.run scene).1, (y.run scene).2.map f)

namespace Commutes

variable {f : ω → ω'}

theorem pure (a : α) : Commutes f (Pure.pure a) (Pure.pure a) := fun _ => rfl

theorem bind {x : Action ω' α} {y : Action ω α} {next : α → Action ω' β} {next' : α → Action ω β}
    (h : Commutes f x y) (hnext : ∀ a, Commutes f (next a) (next' a)) :
    Commutes f (x >>= next) (y >>= next') := by
  intro scene
  rw [StateT.run_bind, h scene]
  exact hnext _ _

theorem map {x : Action ω' α} {y : Action ω α} (g : α → β) (h : Commutes f x y) :
    Commutes f (g <$> x) (g <$> y) := by
  intro scene
  rw [StateT.run_map, h scene]
  rfl

theorem get_bind {next : Scene ω' → Action ω' α} {next' : Scene ω → Action ω α}
    (h : ∀ scene, Commutes f (next (scene.map f)) (next' scene)) :
    Commutes f (get >>= next) (get >>= next') := fun scene => h scene scene

/-! ### Operations of a context -/

theorem log (c : Context) (level : LogLevel) (text : String) (data : Option Json) :
    Commutes f (Action.log c level text data) (Action.log c level text data) := by
  intro scene
  rw [Action.log_run, Action.log_run, Scene.map_level]
  split_ifs <;> rfl

theorem startProgress (total : Nat) (message : String) :
    Commutes f (Action.startProgress total message) (Action.startProgress total message) := fun _ => rfl

theorem completeProgress (token : ProgressToken) (message : String) :
    Commutes f (Action.completeProgress token message) (Action.completeProgress token message) := by
  intro scene
  rw [Action.completeProgress_run, Action.completeProgress_run]
  rfl

/-! ### Requests -/

theorem dispatch {o : Dispatcher ω'} {o' : Dispatcher ω} (hinfo : o'.info = o.info) {r : Rpc.Request}
    (h : Commutes f (o.route r.method r.params (o.context r)) (o'.route r.method r.params (o.context r))) :
    Commutes f (o.dispatch r) (o'.dispatch r) := by
  intro scene
  have hcontext : o'.context r = o.context r := by
    simp only [Dispatcher.context, hinfo]
  rw [Dispatcher.dispatch_run, Dispatcher.dispatch_run, hcontext, h scene]

end Commutes

end ReleaseDesk.Service
