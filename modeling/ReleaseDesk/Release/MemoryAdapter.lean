import ReleaseDesk.Release.Adapter

/-! The in-memory adapter. It holds at most one release, which it takes through the steps plan,
bump, notes, evaluate, approve and publish over a fixed change set. A step is a computation on the
adapter's state that may throw a refusal at any point. The state is threaded through a refusal, so
that the writes before it persist. -/

namespace ReleaseDesk.Release

/-- The numbers of changes since the last release. -/
structure Changes where
  breaking : Nat := 0
  features : Nat := 0
  fixes : Nat := 0
deriving DecidableEq

namespace Changes

/-- The number of changes modulo `2 ^ 64`. -/
def total (c : Changes) : Nat := (c.breaking + c.features + c.fixes) % Text.wordBound

/-- The kind of bump that semantic versioning requires for the changes. -/
def implied (c : Changes) : BumpKind :=
  if 0 < c.breaking then .major else if 0 < c.features then .minor else .patch

open Binary64 in
/-- The rank of `n` times so many hundredths. -/
def share (n hundredths : Nat) : Nat := mulRank (nearest n 1) (nearest hundredths 100)

open Binary64 in
/-- The risk score: 0.4 for a breaking change, 0.05 for a feature and 0.01 for a fix, and at most 1.
-/
def risk (c : Changes) : Binary64 :=
  atMost unit (addRank (addRank (share c.breaking 40) (share c.features 5)) (share c.fixes 1))

end Changes

/-- The current release. -/
structure Current where
  id : String
  stage : Stage
  nextVersion : Option String
  notes : Option String := none
  approved : Bool := false
deriving DecidableEq

/-- The state of the adapter: the change set, the tag prefix, the last published version, the
current release, and the time of the last step that set it. -/
structure MemoryAdapter where
  changes : Changes
  tagStart : String := "v"
  currentVersion : String
  current : Option Current := none
  updatedAt : Option Timestamp := none
deriving DecidableEq

/-- The adapter that a server has by default. -/
abbrev Desk := MemoryAdapter

def notesSection (title : String) (n : Nat) : String :=
  "\n### " ++ title ++ "\n\n" ++ toString n ++ " change(s)\n"

/-- The sections of the changelog. Empty ones are included only on request. -/
def Changes.sections (c : Changes) (all : Bool) : String :=
  String.join <|
    ([("Breaking changes", c.breaking), ("Features", c.features), ("Fixes", c.fixes)].filter
      fun s => 0 < s.2 || all).map fun s => notesSection s.1 s.2

def Changes.changelog (c : Changes) (version : String) (all : Bool) : String :=
  "## " ++ version ++ "\n" ++ c.sections all

/-- The severity of a risk score and the decision on it. -/
def verdict (risk : Binary64) : String × String :=
  if Binary64.nearest 7 10 ≤ risk.rank then ("high", "require_review")
  else if Binary64.nearest 3 10 ≤ risk.rank then ("medium", "require_approval")
  else ("low", "approve")

/-- Computations on an adapter that may throw a refusal. The state is threaded through a refusal. -/
abbrev Attempt (α : Type) := ExceptT Refusal (StateM MemoryAdapter) α

/-- Runs a computation: its outcome and the next state. -/
def Attempt.on (x : Attempt α) (a : MemoryAdapter) : Except Refusal α × MemoryAdapter := x.run.run a

namespace MemoryAdapter

/-- Modifies the current release in place. -/
def write (f : Current → Current) : Attempt Unit :=
  modify fun a => { a with current := a.current.map f }

def stamp (now : Timestamp) : Attempt Unit := modify ({ · with updatedAt := some now })

/-- Runs a computation on the current release and then sets the time. -/
def withRelease (now : Timestamp) (f : Current → Attempt α) : Attempt α := do
  match (← get).current with
  | none => throw .noActiveRelease
  | some r =>
    let output ← f r
    stamp now
    pure output

/-- The refusal of a step before the required stage. -/
def tooEarly (step : String) (stage : Stage) : Refusal :=
  .rejected ("cannot " ++ step ++ " a release in state " ++ stage.title)

/-- Throws unless the release has reached a stage. -/
def require (r : Current) (stage : Stage) (step : String) : Attempt Unit :=
  if r.stage.index < stage.index then throw (tooEarly step r.stage) else pure ()

/-- Throws if the release is published or not approved. -/
def requirePublishable (r : Current) : Attempt Unit :=
  if r.stage = .published then throw (.rejected "release already published")
  else if r.approved then pure ()
  else throw (.rejected "release must be approved before publishing")

/-- Omits the writes of a step from a dry run. -/
def unlessDry (dryRun : Bool) (writes : Attempt Unit) : Attempt Unit :=
  if dryRun then pure () else writes

/-- The next version by a kind of bump. -/
def versionAfter (a : MemoryAdapter) (kind : BumpKind) (prerelease : Option String) :
    Except Refusal String :=
  match Version.parse? a.currentVersion with
  | some v => .ok ((v.bump kind).tagged prerelease)
  | none => .error (.invalidInput ("invalid version '" ++ a.currentVersion ++ "'"))

def status (a : MemoryAdapter) : Status :=
  match a.current with
  | some r =>
    { state := r.stage, releaseId := some r.id, currentVersion := a.currentVersion
      nextVersion := r.nextVersion, approved := r.approved, notes := r.notes
      updatedAt := a.updatedAt }
  | none =>
    { state := .idle, currentVersion := a.currentVersion, approved := false
      updatedAt := a.updatedAt }

/-- Replaces the current release by a new one in the planned stage. -/
def plan (_ : PlanInput) (id : String) (now : Timestamp) : Attempt PlanOutput := do
  let a ← get
  let kind := a.changes.implied
  let next ← a.versionAfter kind none
  set { a with current := some { id, stage := .planned, nextVersion := some next } }
  stamp now
  pure
    { releaseId := id, currentVersion := a.currentVersion, nextVersion := next, releaseType := kind
      commitCount := a.changes.total, hasBreaking := 0 < a.changes.breaking
      hasFeatures := 0 < a.changes.features, hasFixes := 0 < a.changes.fixes }

/-- Sets the next version, except in a dry run. -/
def bump (input : BumpInput) (now : Timestamp) : Attempt BumpOutput :=
  withRelease now fun r => do
    require r .planned "bump"
    let a ← get
    let kind := if input.bump = .auto then a.changes.implied else input.bump
    let version ← a.versionAfter kind input.prerelease
    unlessDry input.dryRun do
      write ({ · with nextVersion := some version, stage := .versioned })
    pure
      { currentVersion := a.currentVersion, newVersion := version, bumpType := kind
        tagName := a.tagStart ++ version, autoDetected := input.bump = .auto
        dryRun := input.dryRun }

/-- Generates the changelog. -/
def notes (input : NotesInput) (now : Timestamp) : Attempt NotesOutput :=
  withRelease now fun r => do
    require r .versioned "write notes for"
    let changes := (← get).changes
    let version := r.nextVersion.getD ""
    let changelog := changes.changelog version input.includeAll
    write ({ · with notes := some changelog, stage := .notesReady })
    pure { summary := toString changes.total ++ " changes in " ++ version, changelog }

/-- Computes the risk score and the decision. The release is not modified. -/
def evaluate (_ : EvaluateInput) (now : Timestamp) : Attempt EvaluateOutput :=
  withRelease now fun r => do
    require r .notesReady "evaluate"
    let changes := (← get).changes
    let judged := verdict changes.risk
    let breaking := 0 < changes.breaking
    pure
      { decision := judged.2, riskScore := some changes.risk, severity := judged.1
        canAutoApprove := judged.2 = "approve"
        requiredActions := if breaking then ["document migration steps"] else []
        riskFactors :=
          if breaking then [toString changes.breaking ++ " breaking change(s)"] else [] }

/-- Marks the release as approved. The notes of the input, if any, replace those of the release. -/
def approve (input : ApproveInput) (now : Timestamp) : Attempt ApproveOutput :=
  withRelease now fun r => do
    require r .notesReady "approve"
    write fun r => { r with notes := input.notes <|> r.notes, approved := true, stage := .approved }
    pure
      { approved := true, version := r.nextVersion.getD ""
        approvedBy := input.approver.getD "mcp", approvedAt := now }

/-- Publishes an approved release and advances the current version, except in a dry run. -/
def publish (input : PublishInput) (now : Timestamp) : Attempt PublishOutput := do
  let a ← get
  match a.current with
  | none => throw .noActiveRelease
  | some r =>
    requirePublishable r
    let version := r.nextVersion.getD ""
    unlessDry input.dryRun do
      write ({ · with stage := .published })
      modify ({ · with currentVersion := version })
      stamp now
    pure { version, tagName := a.tagStart ++ version, dryRun := input.dryRun }

def attempt (supply : Supply) : (s : Step) → s.Input → Attempt s.Output
  | .status, _ => return (← get).status
  | .plan, input => plan input supply.fresh supply.now
  | .bump, input => bump input supply.now
  | .notes, input => notes input supply.now
  | .evaluate, input => evaluate input supply.now
  | .approve, input => approve input supply.now
  | .publish, input => publish input supply.now

def perform (a : MemoryAdapter) (supply : Supply) (s : Step) (input : s.Input) :
    Except Refusal s.Output × MemoryAdapter :=
  (attempt supply s input).on a

/-- A plan consumes an identifier of the supply. -/
instance : Adapter MemoryAdapter where
  perform s input supply a :=
    let (outcome, after) := a.perform supply s input
    (outcome, after, if s = .plan then supply.taken else supply)

end MemoryAdapter

end ReleaseDesk.Release
