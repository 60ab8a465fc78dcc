import ReleaseDesk.Plugin.Roster
import ReleaseDesk.Protocol.Call
import ReleaseDesk.Release.MemoryAdapter
import ReleaseDesk.Service.Registry
import ReleaseDesk.Wire.Codec

/-! The tools of the release flow, one for each step, and the backend that they run on. A tool
decodes its arguments, has the adapter perform the step, and returns the output as JSON or the
message of the refusal. Arguments are decoded before the adapter is accessed. Some steps report
progress or send a log message. -/

namespace ReleaseDesk.Release

open ReleaseDesk.Wire

/-! ### Arguments -/

/-- The schema of an argument. -/
def argument (name type description : String) (more : List (String × Json) := []) :
    String × Json :=
  (name, .object ([("type", .string type), ("description", .string description)] ++ more))

/-- The schema of an object. -/
def objectSchema (members : List (String × Json)) (required : List String := []) : Json :=
  .object <| [("type", .string "object"), ("properties", .object members)] ++
    if required = [] then [] else [("required", Json.strings required)]

/-- Decodes the arguments of a tool. Null stands for the default. -/
def readArguments (c : Codec α) (default : α) : Json → Except String α
  | .null => .ok default
  | v => (c.ofJson v).mapError fun fault => "invalid arguments: " ++ fault.message

/-! ### Backend -/

open ReleaseDesk.Service ReleaseDesk.Plugin

/-- An adapter and a plugin manager, each of which may be missing. -/
structure Backend (σ π : Type) where
  adapter : Option σ := none
  manager : Option π := none

namespace Backend

def hasAdapter : Action (Backend σ π) Bool := return (← get).world.adapter.isSome

def perform [Adapter σ] (s : Step) (input : s.Input) :
    Action (Backend σ π) (Except Refusal s.Output) := do
  let scene ← get
  match scene.world.adapter with
  | none => pure (.error .notConfigured)
  | some adapter =>
    let (outcome, adapter, supply) := Adapter.perform s input scene.supply adapter
    set { scene with supply, world := { scene.world with adapter := some adapter } }
    pure outcome

/-- Runs an operation of the plugin manager. -/
def ask (question : π → Except Plugin.Fault α × π) :
    Action (Backend σ π) (Except Plugin.Fault α) := do
  let scene ← get
  match scene.world.manager with
  | none => pure (.error .notConfigured)
  | some manager =>
    let (answer, manager) := question manager
    set { scene with world := { scene.world with manager := some manager } }
    pure answer

end Backend

/-! ### Tools -/

open ReleaseDesk.Protocol ReleaseDesk.Wire ReleaseDesk.Service

namespace Step

def toolName : Step → String
  | status => "relicta.status"
  | plan => "relicta.plan"
  | bump => "relicta.bump"
  | notes => "relicta.notes"
  | evaluate => "relicta.evaluate"
  | approve => "relicta.approve"
  | publish => "relicta.publish"

def toolDescription : Step → String
  | status => "Show the state of the current release."
  | plan => "Analyze changes since the last release and plan the next one."
  | bump =>
    "Compute and apply the next version. 'auto' derives the bump from the planned changes."
  | notes => "Generate release notes and changelog for the planned release."
  | evaluate => "Assess the risk of the planned release."
  | approve => "Approve the planned release for publishing."
  | publish => "Publish the approved release: tag, changelog and release."

/-- The schemas of the arguments of a step. -/
def toolArguments : Step → List (String × Json)
  | status => []
  | plan => [
    argument "from" "string" "Reference to analyze from (default: last release tag)",
    argument "analyze" "boolean" "Include a detailed change analysis"]
  | bump => [
    argument "bump" "string" "Bump type"
      [("enum", Json.strings BumpKind.choice.names), ("default", .string "auto")],
    argument "prerelease" "string" "Pre-release identifier, e.g. 'rc.1'",
    argument "dry_run" "boolean" "Compute the version without applying it"]
  | notes => [
    argument "ai" "boolean" "Use AI-assisted summarization if the adapter supports it",
    argument "include_all" "boolean" "Include empty changelog sections"]
  | evaluate => []
  | approve => [
    argument "approver" "string" "Who approves the release",
    argument "notes" "string" "Edited release notes to publish instead of the generated ones"]
  | publish => [argument "dry_run" "boolean" "Show what would be published without doing it"]

def tool (s : Step) : Tool :=
  { name := s.toolName, description := some s.toolDescription
    inputSchema := objectSchema s.toolArguments }

end Step

/-- The arguments of `relicta.bump`, with the kind of bump as a text. -/
structure BumpArguments where
  bump : Option String := none
  prerelease : Option String := none
  dryRun : Bool := false

def BumpArguments.record : Record BumpArguments where
  title := "struct BumpArgs"
  fields := BumpArguments.mk
    <$> .one ((Member.explicit "bump" .string).orElse none) (·.bump)
    <*> .one ((Member.explicit "prerelease" .string).orElse none) (·.prerelease)
    <*> defaulted "dry_run" .bool false (·.dryRun)

def BumpArguments.input (a : BumpArguments) : Except String BumpInput :=
  match BumpKind.parse (a.bump.getD "") with
  | .ok bump => .ok { bump, prerelease := a.prerelease, dryRun := a.dryRun }
  | .error s => .error (badBump s).message

/-- Decodes the input of a step. The status query takes any arguments. -/
def Step.readInput : (s : Step) → Json → Except String s.Input
  | .status, _ => .ok ()
  | .plan, v => readArguments PlanInput.codec {} v
  | .bump, v => do
    let a ← readArguments BumpArguments.record.codec {} v
    a.input
  | .notes, v => readArguments NotesInput.codec {} v
  | .evaluate, v => readArguments EvaluateInput.codec {} v
  | .approve, v => readArguments ApproveInput.codec {} v
  | .publish, v => readArguments PublishInput.codec {} v

def Step.result (s : Step) : Except Refusal s.Output → ToolResult
  | .ok output => .ofText (s.output.pretty output)
  | .error refusal => .failure refusal.message

open Action in
/-- Performs a step with its notifications. -/
def Step.enclosed [Adapter σ] (c : Context) :
    (s : Step) → s.Input → Action (Backend σ π) (Except Refusal s.Output)
  | .plan, input => do
    let outcome ← Backend.perform .plan input
    if let .ok planned := outcome then
      log c .info
        ("Planned " ++ planned.releaseType.name ++ " release " ++ planned.nextVersion)
    pure outcome
  | .bump, input => do
    let token ← startProgress 1 ("Bumping version (" ++ input.bump.name ++ ")")
    let outcome ← Backend.perform .bump input
    completeProgress token <| match outcome with
      | .ok bumped => "Version " ++ bumped.newVersion
      | .error _ => "Bump failed"
    pure outcome
  | .evaluate, input => do
    let outcome ← Backend.perform .evaluate input
    if let .ok verdict := outcome then
      if !verdict.canAutoApprove then
        log c .warning ("Release needs review: " ++ verdict.severity ++ " risk")
          (some (.object [("risk_score", Codec.double.write verdict.riskScore)]))
    pure outcome
  | .publish, input => do
    let token ← startProgress 1 "Publishing release"
    let outcome ← Backend.perform .publish input
    completeProgress token "Publish finished"
    match outcome with
    | .ok published => log c .info ("Published " ++ published.tagName)
    | .error refusal => log c .error ("Publish failed: " ++ refusal.message)
    pure outcome
  | s, input => Backend.perform s input

def Step.handler [Adapter σ] (s : Step) : ToolHandler (Backend σ π) where
  tool := s.tool
  call v c :=
    match s.readInput v with
    | .error complaint => pure (.ok (.failure complaint))
    | .ok input => do
      if ← Backend.hasAdapter then return .ok (s.result (← s.enclosed c input))
      else return .ok (.failure Refusal.notConfigured.message)

end ReleaseDesk.Release
