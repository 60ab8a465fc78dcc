import ReleaseDesk.Release.Steps
import ReleaseDesk.Timestamp

/-! Release adapters. Every step has a type of inputs and a type of outputs. An adapter performs a
step on a state and returns an output or a refusal, the next state, and the supply that is left.
Nothing is required of the state after a refusal: an adapter without rollback returns whatever was
written before it. -/

namespace ReleaseDesk.Release

open ReleaseDesk.Wire

/-- The operations of an adapter: the status query and the six steps of the release flow. -/
inductive Step
  | status
  | plan
  | bump
  | notes
  | evaluate
  | approve
  | publish
deriving DecidableEq, Repr

namespace Step

def all : List Step := [status, plan, bump, notes, evaluate, approve, publish]

abbrev Input : Step → Type
  | status => Unit
  | plan => PlanInput
  | bump => BumpInput
  | notes => NotesInput
  | evaluate => EvaluateInput
  | approve => ApproveInput
  | publish => PublishInput

abbrev Output : Step → Type
  | status => Status
  | plan => PlanOutput
  | bump => BumpOutput
  | notes => NotesOutput
  | evaluate => EvaluateOutput
  | approve => ApproveOutput
  | publish => PublishOutput

def input : (s : Step) → Codec s.Input
  | status => .anything
  | plan => PlanInput.codec
  | bump => BumpInput.codec
  | notes => NotesInput.codec
  | evaluate => EvaluateInput.codec
  | approve => ApproveInput.codec
  | publish => PublishInput.codec

def output : (s : Step) → Codec s.Output
  | status => Status.codec
  | plan => PlanOutput.codec
  | bump => BumpOutput.codec
  | notes => NotesOutput.codec
  | evaluate => EvaluateOutput.codec
  | approve => ApproveOutput.codec
  | publish => PublishOutput.codec

end Step

/-- Types of adapter states, with the transition function of each step. -/
class Adapter (σ : Type) where
  perform : (s : Step) → s.Input → Supply → σ → Except Refusal s.Output × σ × Supply

/-- The adapter that refuses every step with one refusal. -/
instance : Adapter Refusal where
  perform _ _ supply r := (.error r, r, supply)

instance [Adapter σ] [Adapter τ] : Adapter (σ ⊕ τ) where
  perform s input supply
    | .inl a =>
      let (outcome, a, supply) := Adapter.perform s input supply a
      (outcome, .inl a, supply)
    | .inr b =>
      let (outcome, b, supply) := Adapter.perform s input supply b
      (outcome, .inr b, supply)

end ReleaseDesk.Release
