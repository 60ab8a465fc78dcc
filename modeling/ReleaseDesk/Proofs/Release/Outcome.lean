import Mathlib.Tactic.Common
import ReleaseDesk.Release.MemoryAdapter

/-! What a step of the in-memory adapter has done when it was not refused, and that it has done nothing
when it was. A computation that is refused leaves what it had written, so the latter rests on the order
of checks and writes: every step first computes what can be refused from a state that it only reads, and
then writes what cannot be refused. -/

namespace ReleaseDesk.Release

namespace Attempt

variable {α β : Type} {a a' : MemoryAdapter} {x : Attempt α} {f : α → Attempt β}

@[simp] theorem on_pure (b : α) : Attempt.on (pure b) a = (.ok b, a) := rfl

@[simp] theorem on_throw (refusal : Refusal) :
    Attempt.on (throw refusal : Attempt α) a = (.error refusal, a) := rfl

@[simp] theorem on_get : Attempt.on get a = (.ok a, a) := rfl

@[simp] theorem on_set (after : MemoryAdapter) : Attempt.on (set after) a = (.ok ⟨⟩, after) := rfl

@[simp] theorem on_modify (g : MemoryAdapter → MemoryAdapter) :
    Attempt.on (modify g) a = (.ok ⟨⟩, g a) := rfl

@[simp] theorem on_lift (outcome : Except Refusal α) :
    Attempt.on (liftM outcome) a = (outcome, a) := rfl

/-- A computation goes on from the state that the one before it has left, whatever its outcome. -/
theorem on_bind : Attempt.on (x >>= f) a = match x.on a with
    | (.ok b, after) => (f b).on after
    | (.error refusal, after) => (.error refusal, after) := by
  change (ExceptT.bindCont f (x.on a).1).run (x.on a).2 = _
  rcases x.on a with ⟨_ | _, _⟩ <;> rfl

@[simp] theorem on_map (g : α → β) :
    Attempt.on (g <$> x) a = ((x.on a).1.map g, (x.on a).2) := by
  rw [← bind_pure_comp, on_bind]
  rcases x.on a with ⟨_ | _, _⟩ <;> rfl

theorem bind_ok {b : β} (h : Attempt.on (x >>= f) a = (.ok b, a')) :
    ∃ c after, x.on a = (.ok c, after) ∧ (f c).on after = (.ok b, a') := by
  rw [on_bind] at h
  split at h
  next c after hx => exact ⟨c, after, hx, h⟩
  next => cases h

theorem lift_ok {outcome : Except Refusal α} {b : α}
    (h : Attempt.on (liftM outcome) a = (.ok b, a')) : outcome = .ok b ∧ a' = a := by
  rw [on_lift] at h
  cases h
  exact ⟨rfl, rfl⟩

theorem bind_error_iff {refusal : Refusal} : (Attempt.on (x >>= f) a).1 = .error refusal ↔
    (x.on a).1 = .error refusal ∨
      ∃ c after, x.on a = (.ok c, after) ∧ ((f c).on after).1 = .error refusal := by
  rw [on_bind]
  rcases x.on a with ⟨_ | c, after⟩ <;> simp

/-! ### Checks before writes -/

/-- A computation that writes nothing. -/
def ReadOnly (x : Attempt α) : Prop := ∀ a, (x.on a).2 = a

/-- A computation that is never refused. -/
def Granted (x : Attempt α) : Prop := ∀ a refusal, (x.on a).1 ≠ .error refusal

/-- A computation that leaves the adapter as it was if it is refused. -/
def Atomic (x : Attempt α) : Prop :=
  ∀ a refusal, (x.on a).1 = .error refusal → (x.on a).2 = a

theorem readOnly_get : ReadOnly get := fun _ => rfl

theorem readOnly_lift (outcome : Except Refusal α) : ReadOnly (liftM outcome) := fun _ => rfl

theorem granted_pure (b : α) : Granted (pure b) := fun _ _ h => by cases h

theorem granted_get : Granted get := fun _ _ h => by cases h

theorem granted_set (after : MemoryAdapter) : Granted (set after) := fun _ _ h => by cases h

theorem granted_modify (g : MemoryAdapter → MemoryAdapter) : Granted (modify g) :=
  fun _ _ h => by cases h

theorem Granted.bind (hx : Granted x) (hf : ∀ b, Granted (f b)) : Granted (x >>= f) := by
  intro a refusal h
  rcases bind_error_iff.mp h with h | ⟨b, after, -, h⟩
  · exact hx a refusal h
  · exact hf b after refusal h

theorem bind_error_iff_of_granted {refusal : Refusal} (hf : ∀ b, Granted (f b)) :
    (Attempt.on (x >>= f) a).1 = .error refusal ↔ (x.on a).1 = .error refusal := by
  rw [bind_error_iff]
  exact or_iff_left fun ⟨b, after, _, h⟩ => hf b after refusal h

theorem Granted.atomic (hx : Granted x) : Atomic x := fun a refusal h => absurd h (hx a refusal)

theorem atomic_throw (refusal : Refusal) : Atomic (throw refusal : Attempt α) := fun _ _ _ => rfl

/-- What only reads may come before what is atomic. -/
theorem ReadOnly.bind_atomic (hx : ReadOnly x) (hf : ∀ b, Atomic (f b)) : Atomic (x >>= f) := by
  intro a refusal h
  have hread := hx a
  rw [on_bind] at h ⊢
  generalize x.on a = result at h hread ⊢
  obtain ⟨_ | b, after⟩ := result
  · exact hread
  · obtain rfl : after = a := hread
    exact hf b after refusal h

/-- What is never refused may come after what is atomic. -/
theorem Atomic.bind_granted (hx : Atomic x) (hf : ∀ b, Granted (f b)) : Atomic (x >>= f) := by
  intro a refusal h
  rcases bind_error_iff.mp h with hrefused | ⟨b, after, -, h⟩
  · have hleft := hx a refusal hrefused
    rw [on_bind]
    generalize x.on a = result at hrefused hleft ⊢
    obtain ⟨_ | b, after⟩ := result
    · exact hleft
    · cases hrefused
  · exact absurd h (hf b after refusal)

end Attempt

namespace MemoryAdapter

open Attempt

variable {α : Type} {a a' : MemoryAdapter} {now : Timestamp} {f : Current → Attempt α}

/-! ### The parts of a step -/

theorem granted_write (g : Current → Current) : Granted (write g) := granted_modify _

theorem granted_stamp (now : Timestamp) : Granted (stamp now) := granted_modify _

theorem granted_unlessDry {writes : Attempt Unit} (h : Granted writes) (dryRun : Bool) :
    Granted (unlessDry dryRun writes) := by
  cases dryRun
  · exact h
  · exact granted_pure _

theorem granted_publication (version : String) (now : Timestamp) : Granted (do
    write ({ · with stage := .published })
    modify ({ · with currentVersion := version })
    stamp now) :=
  (granted_write _).bind fun _ => (granted_modify _).bind fun _ => granted_stamp now

theorem readOnly_require (r : Current) (stage : Stage) (step : String) :
    ReadOnly (require r stage step) := by
  intro a
  unfold require
  split <;> rfl

theorem readOnly_requirePublishable (r : Current) : ReadOnly (requirePublishable r) := by
  intro a
  unfold requirePublishable
  split_ifs <;> rfl

theorem require_ok {r : Current} {stage : Stage} {step : String} {u : Unit}
    (h : (require r stage step).on a = (.ok u, a')) : stage.index ≤ r.stage.index ∧ a' = a := by
  unfold require at h
  split at h
  · cases h
  next hs =>
    cases h
    exact ⟨Nat.not_lt.mp hs, rfl⟩

theorem requirePublishable_ok {r : Current} {u : Unit}
    (h : (requirePublishable r).on a = (.ok u, a')) :
    r.stage ≠ .published ∧ r.approved = true ∧ a' = a := by
  unfold requirePublishable at h
  split_ifs at h with hs ha <;> cases h
  exact ⟨hs, ha, rfl⟩

theorem withRelease_ok {output : α} (h : (withRelease now f).on a = (.ok output, a')) :
    ∃ r after, a.current = some r ∧ (f r).on a = (.ok output, after) ∧
      a' = { after with updatedAt := some now } := by
  obtain ⟨_, _, hget, h⟩ := bind_ok h
  cases hget
  cases hr : a.current with
  | none =>
    rw [hr] at h
    cases h
  | some r =>
    rw [hr] at h
    obtain ⟨output', after, hf, h⟩ := bind_ok h
    cases h
    exact ⟨r, after, rfl, hf, rfl⟩

/-! ### Refused steps -/

theorem atomic_withRelease (hf : ∀ r, Atomic (f r)) : Atomic (withRelease now f) := by
  refine readOnly_get.bind_atomic fun a => ?_
  cases a.current with
  | none => exact atomic_throw _
  | some r =>
    exact (hf r).bind_granted fun b => (granted_stamp now).bind fun _ => granted_pure b

theorem atomic_plan (input : PlanInput) (id : String) : Atomic (plan input id now) := by
  refine readOnly_get.bind_atomic fun a => (readOnly_lift _).bind_atomic fun next => ?_
  exact ((granted_set _).bind fun _ => (granted_stamp now).bind fun _ => granted_pure _).atomic

theorem atomic_bump (input : BumpInput) : Atomic (bump input now) := by
  refine atomic_withRelease fun r => (readOnly_require r _ _).bind_atomic fun _ => ?_
  refine readOnly_get.bind_atomic fun a => (readOnly_lift _).bind_atomic fun version => ?_
  exact ((granted_unlessDry (granted_write _) _).bind fun _ => granted_pure _).atomic

theorem atomic_notes (input : NotesInput) : Atomic (notes input now) := by
  refine atomic_withRelease fun r => (readOnly_require r _ _).bind_atomic fun _ => ?_
  exact (granted_get.bind fun _ => (granted_write _).bind fun _ => granted_pure _).atomic

theorem atomic_evaluate (input : EvaluateInput) : Atomic (evaluate input now) := by
  refine atomic_withRelease fun r => (readOnly_require r _ _).bind_atomic fun _ => ?_
  exact (granted_get.bind fun _ => granted_pure _).atomic

theorem atomic_approve (input : ApproveInput) : Atomic (approve input now) := by
  refine atomic_withRelease fun r => (readOnly_require r _ _).bind_atomic fun _ => ?_
  exact ((granted_write _).bind fun _ => granted_pure _).atomic

theorem atomic_publish (input : PublishInput) : Atomic (publish input now) := by
  refine readOnly_get.bind_atomic fun a => ?_
  cases a.current with
  | none => exact atomic_throw _
  | some r =>
    refine (readOnly_requirePublishable r).bind_atomic fun _ => ?_
    exact ((granted_unlessDry (granted_publication _ now) _).bind fun _ => granted_pure _).atomic

theorem atomic_attempt (supply : Supply) (s : Step) (input : s.Input) :
    Atomic (attempt supply s input) := by
  cases s with
  | status => exact (granted_get.bind fun _ => granted_pure _).atomic
  | plan => exact atomic_plan input _
  | bump => exact atomic_bump input
  | notes => exact atomic_notes input
  | evaluate => exact atomic_evaluate input
  | approve => exact atomic_approve input
  | publish => exact atomic_publish input

/-- A step that is refused leaves the adapter as it was, the time of the last step included. -/
theorem perform_of_refused {s : Step} {supply : Supply} {input : s.Input} {refusal : Refusal}
    (h : (a.perform supply s input).1 = .error refusal) : (a.perform supply s input).2 = a :=
  atomic_attempt supply s input a refusal h

/-! ### Steps that go through -/

/-- The kind of bump that an input asks for, or that the change set implies. -/
def kindOf (a : MemoryAdapter) (input : BumpInput) : BumpKind :=
  if input.bump = .auto then a.changes.implied else input.bump

/-- The output of a bump to a version. -/
def bumpOutput (a : MemoryAdapter) (input : BumpInput) (version : String) : BumpOutput where
  currentVersion := a.currentVersion
  newVersion := version
  bumpType := a.kindOf input
  tagName := a.tagStart ++ version
  autoDetected := input.bump = .auto
  dryRun := input.dryRun

/-- The output of a publication of a release. -/
def publishOutput (a : MemoryAdapter) (r : Current) (input : PublishInput) : PublishOutput where
  version := r.nextVersion.getD ""
  tagName := a.tagStart ++ r.nextVersion.getD ""
  dryRun := input.dryRun

variable {supply : Supply}

theorem plan_ok {input : PlanInput} {output : PlanOutput}
    (h : a.perform supply .plan input = (.ok output, a')) :
    a.versionAfter a.changes.implied none = .ok output.nextVersion ∧
      a' = { a with
        current := some
          { id := supply.fresh, stage := .planned, nextVersion := some output.nextVersion }
        updatedAt := some supply.now } := by
  obtain ⟨_, _, hget, h⟩ := bind_ok h
  cases hget
  obtain ⟨next, _, hnext, h⟩ := bind_ok h
  obtain ⟨hnext, rfl⟩ := lift_ok hnext
  cases h
  exact ⟨hnext, rfl⟩

theorem bump_ok {input : BumpInput} {output : BumpOutput}
    (h : a.perform supply .bump input = (.ok output, a')) :
    ∃ r, a.current = some r ∧ Stage.planned.index ≤ r.stage.index ∧
      a.versionAfter (a.kindOf input) input.prerelease = .ok output.newVersion ∧
      output = a.bumpOutput input output.newVersion ∧
      a' = { a with
        current := some (if input.dryRun then r
          else { r with nextVersion := some output.newVersion, stage := .versioned })
        updatedAt := some supply.now } := by
  obtain ⟨r, after, hr, hbody, rfl⟩ := withRelease_ok h
  obtain ⟨_, _, hrequired, hrest⟩ := bind_ok hbody
  obtain ⟨hs, rfl⟩ := require_ok hrequired
  obtain ⟨_, _, hget, hrest⟩ := bind_ok hrest
  cases hget
  obtain ⟨version, _, hlift, hwrites⟩ := bind_ok hrest
  obtain ⟨hversion, rfl⟩ := lift_ok hlift
  refine ⟨r, hr, hs, ?_⟩
  cases hdry : input.dryRun <;> rw [hdry] at hwrites <;> cases hwrites <;>
    refine ⟨hversion, by rw [bumpOutput, hdry]; rfl, ?_⟩
  · simp [hr]
  · simp [← hr]

theorem notes_ok {input : NotesInput} {output : NotesOutput}
    (h : a.perform supply .notes input = (.ok output, a')) :
    ∃ r, a.current = some r ∧ Stage.versioned.index ≤ r.stage.index ∧
      output.changelog = a.changes.changelog (r.nextVersion.getD "") input.includeAll ∧
      a' = { a with
        current := some { r with notes := some output.changelog, stage := .notesReady }
        updatedAt := some supply.now } := by
  obtain ⟨r, after, hr, hbody, rfl⟩ := withRelease_ok h
  obtain ⟨_, _, hrequired, hrest⟩ := bind_ok hbody
  obtain ⟨hs, rfl⟩ := require_ok hrequired
  cases hrest
  exact ⟨r, hr, hs, rfl, by simp [hr]⟩

theorem evaluate_ok {input : EvaluateInput} {output : EvaluateOutput}
    (h : a.perform supply .evaluate input = (.ok output, a')) :
    ∃ r, a.current = some r ∧ Stage.notesReady.index ≤ r.stage.index ∧
      a' = { a with updatedAt := some supply.now } := by
  obtain ⟨r, after, hr, hbody, rfl⟩ := withRelease_ok h
  obtain ⟨_, _, hrequired, hrest⟩ := bind_ok hbody
  obtain ⟨hs, rfl⟩ := require_ok hrequired
  obtain ⟨_, _, hget, hrest⟩ := bind_ok hrest
  cases hget
  exact ⟨r, hr, hs, by rw [(Prod.mk.inj hrest).2]⟩

theorem approve_ok {input : ApproveInput} {output : ApproveOutput}
    (h : a.perform supply .approve input = (.ok output, a')) :
    ∃ r, a.current = some r ∧ Stage.notesReady.index ≤ r.stage.index ∧
      output.version = r.nextVersion.getD "" ∧
      a' = { a with
        current := some
          { r with notes := input.notes <|> r.notes, approved := true, stage := .approved }
        updatedAt := some supply.now } := by
  obtain ⟨r, after, hr, hbody, rfl⟩ := withRelease_ok h
  obtain ⟨_, _, hrequired, hrest⟩ := bind_ok hbody
  obtain ⟨hs, rfl⟩ := require_ok hrequired
  cases hrest
  exact ⟨r, hr, hs, rfl, by simp [hr]⟩

theorem publish_ok {input : PublishInput} {output : PublishOutput}
    (h : a.perform supply .publish input = (.ok output, a')) :
    ∃ r, a.current = some r ∧ r.stage ≠ .published ∧ r.approved = true ∧
      output = a.publishOutput r input ∧
      a' = if input.dryRun then a else { a with
        current := some { r with stage := .published }
        currentVersion := r.nextVersion.getD ""
        updatedAt := some supply.now } := by
  obtain ⟨_, _, hget, h⟩ := bind_ok h
  cases hget
  cases hr : a.current with
  | none =>
    rw [hr] at h
    cases h
  | some r =>
    rw [hr] at h
    obtain ⟨_, _, hrequired, hrest⟩ := bind_ok h
    obtain ⟨hs, ha, rfl⟩ := requirePublishable_ok hrequired
    refine ⟨r, rfl, hs, ha, ?_⟩
    cases hdry : input.dryRun <;> rw [hdry] at hrest <;> cases hrest
    · exact ⟨by rw [publishOutput, hdry], by simp [hr]⟩
    · exact ⟨by rw [publishOutput, hdry], rfl⟩

end MemoryAdapter

end ReleaseDesk.Release
