import ReleaseDesk.Release.Bump

/-! Inputs, outputs and refusals of the release steps, with their codecs. -/

namespace ReleaseDesk.Release

open ReleaseDesk.Wire

/-- The stages of a release. -/
inductive Stage
  | idle
  | planned
  | versioned
  | notesReady
  | approved
  | published
deriving DecidableEq, Repr

namespace Stage

def index : Stage → Nat
  | idle => 0
  | planned => 1
  | versioned => 2
  | notesReady => 3
  | approved => 4
  | published => 5

def name : Stage → String
  | idle => "idle"
  | planned => "planned"
  | versioned => "versioned"
  | notesReady => "notes_ready"
  | approved => "approved"
  | published => "published"

def title : Stage → String
  | idle => "Idle"
  | planned => "Planned"
  | versioned => "Versioned"
  | notesReady => "NotesReady"
  | approved => "Approved"
  | published => "Published"

def choice : Choice Stage := ⟨[idle, planned, versioned, notesReady, approved, published], name⟩

end Stage

/-- The errors of an adapter. -/
inductive Refusal
  | notConfigured
  | noActiveRelease
  | invalidInput (detail : String)
  | rejected (reason : String)
deriving DecidableEq

def Refusal.message : Refusal → String
  | notConfigured => "relicta adapter not configured"
  | noActiveRelease => "no active release; run relicta.plan first"
  | invalidInput detail => "invalid input: " ++ detail
  | rejected reason => reason

def badBump (s : String) : Refusal :=
  .invalidInput ("invalid bump type '" ++ s ++ "'; expected one of major, minor, patch, auto")

/-! ### Status -/

/-- The status that an adapter reports. -/
structure Status where
  state : Stage
  releaseId : Option String := none
  currentVersion : String
  nextVersion : Option String := none
  approved : Bool
  notes : Option String := none
  updatedAt : Option Timestamp := none
deriving DecidableEq

def Status.record : Record Status where
  title := "struct ReleaseStatus"
  fields := Status.mk
    <$> required "state" Stage.choice.codec (·.state)
    <*> optional "release_id" .string (·.releaseId)
    <*> required "current_version" .string (·.currentVersion)
    <*> optional "next_version" .string (·.nextVersion)
    <*> required "approved" .bool (·.approved)
    <*> optional "notes" .string (·.notes)
    <*> optional "updated_at" .time (·.updatedAt)

def Status.codec : Codec Status := record.codec

/-! ### Plan -/

structure PlanInput where
  start : Option String := none
  analyze : Bool := false
deriving DecidableEq

def PlanInput.record : Record PlanInput where
  title := "struct PlanInput"
  fields := PlanInput.mk
    <$> .one ((Member.explicit "from" .string).orElse none) (·.start)
    <*> defaulted "analyze" .bool false (·.analyze)

def PlanInput.codec : Codec PlanInput := record.codec

structure PlanOutput where
  releaseId : String
  currentVersion : String
  nextVersion : String
  releaseType : BumpKind
  commitCount : Nat
  hasBreaking : Bool
  hasFeatures : Bool
  hasFixes : Bool
deriving DecidableEq

def PlanOutput.record : Record PlanOutput where
  title := "struct PlanOutput"
  fields := PlanOutput.mk
    <$> required "release_id" .string (·.releaseId)
    <*> required "current_version" .string (·.currentVersion)
    <*> required "next_version" .string (·.nextVersion)
    <*> required "release_type" BumpKind.choice.codec (·.releaseType)
    <*> required "commit_count" .count (·.commitCount)
    <*> required "has_breaking" .bool (·.hasBreaking)
    <*> required "has_features" .bool (·.hasFeatures)
    <*> required "has_fixes" .bool (·.hasFixes)

def PlanOutput.codec : Codec PlanOutput := record.codec

/-! ### Bump -/

structure BumpInput where
  bump : BumpKind := .auto
  prerelease : Option String := none
  dryRun : Bool := false
deriving DecidableEq

def BumpInput.record : Record BumpInput where
  title := "struct BumpInput"
  fields := BumpInput.mk
    <$> defaulted "bump" BumpKind.choice.codec .auto (·.bump)
    <*> .one ((Member.explicit "prerelease" .string).orElse none) (·.prerelease)
    <*> defaulted "dry_run" .bool false (·.dryRun)

def BumpInput.codec : Codec BumpInput := record.codec

structure BumpOutput where
  currentVersion : String
  newVersion : String
  bumpType : BumpKind
  tagName : String
  autoDetected : Bool
  dryRun : Bool
deriving DecidableEq

def BumpOutput.record : Record BumpOutput where
  title := "struct BumpOutput"
  fields := BumpOutput.mk
    <$> required "current_version" .string (·.currentVersion)
    <*> required "new_version" .string (·.newVersion)
    <*> required "bump_type" BumpKind.choice.codec (·.bumpType)
    <*> required "tag_name" .string (·.tagName)
    <*> required "auto_detected" .bool (·.autoDetected)
    <*> required "dry_run" .bool (·.dryRun)

def BumpOutput.codec : Codec BumpOutput := record.codec

/-! ### Notes -/

structure NotesInput where
  ai : Bool := false
  includeAll : Bool := false
deriving DecidableEq

def NotesInput.record : Record NotesInput where
  title := "struct NotesInput"
  fields := NotesInput.mk
    <$> defaulted "ai" .bool false (·.ai)
    <*> defaulted "include_all" .bool false (·.includeAll)

def NotesInput.codec : Codec NotesInput := record.codec

structure NotesOutput where
  summary : String
  changelog : String
deriving DecidableEq

def NotesOutput.record : Record NotesOutput where
  title := "struct NotesOutput"
  fields := NotesOutput.mk
    <$> required "summary" .string (·.summary)
    <*> required "changelog" .string (·.changelog)

def NotesOutput.codec : Codec NotesOutput := record.codec

/-! ### Evaluation -/

structure EvaluateInput where
deriving DecidableEq

def EvaluateInput.record : Record EvaluateInput where
  title := "struct EvaluateInput"
  fields := pure {}

def EvaluateInput.codec : Codec EvaluateInput := record.codec

/-- The result of an evaluation. The score is `none` if it is not finite. -/
structure EvaluateOutput where
  decision : String
  riskScore : Option Binary64
  severity : String
  canAutoApprove : Bool
  requiredActions : List String
  riskFactors : List String
deriving DecidableEq

def EvaluateOutput.record : Record EvaluateOutput where
  title := "struct EvaluateOutput"
  fields := EvaluateOutput.mk
    <$> required "decision" .string (·.decision)
    <*> required "risk_score" .double (·.riskScore)
    <*> required "severity" .string (·.severity)
    <*> required "can_auto_approve" .bool (·.canAutoApprove)
    <*> required "required_actions" (.list .string) (·.requiredActions)
    <*> required "risk_factors" (.list .string) (·.riskFactors)

def EvaluateOutput.codec : Codec EvaluateOutput := record.codec

/-! ### Approval -/

structure ApproveInput where
  approver : Option String := none
  notes : Option String := none
deriving DecidableEq

def ApproveInput.record : Record ApproveInput where
  title := "struct ApproveInput"
  fields := ApproveInput.mk
    <$> .one ((Member.explicit "approver" .string).orElse none) (·.approver)
    <*> .one ((Member.explicit "notes" .string).orElse none) (·.notes)

def ApproveInput.codec : Codec ApproveInput := record.codec

structure ApproveOutput where
  approved : Bool
  version : String
  approvedBy : String
  approvedAt : Timestamp
deriving DecidableEq

def ApproveOutput.record : Record ApproveOutput where
  title := "struct ApproveOutput"
  fields := ApproveOutput.mk
    <$> required "approved" .bool (·.approved)
    <*> required "version" .string (·.version)
    <*> required "approved_by" .string (·.approvedBy)
    <*> required "approved_at" .time (·.approvedAt)

def ApproveOutput.codec : Codec ApproveOutput := record.codec

/-! ### Publication -/

structure PublishInput where
  dryRun : Bool := false
deriving DecidableEq

def PublishInput.record : Record PublishInput where
  title := "struct PublishInput"
  fields := PublishInput.mk <$> defaulted "dry_run" .bool false (·.dryRun)

def PublishInput.codec : Codec PublishInput := record.codec

structure PublishOutput where
  version : String
  tagName : String
  releaseUrl : Option String := none
  dryRun : Bool
deriving DecidableEq

def PublishOutput.record : Record PublishOutput where
  title := "struct PublishOutput"
  fields := PublishOutput.mk
    <$> required "version" .string (·.version)
    <*> required "tag_name" .string (·.tagName)
    <*> optional "release_url" .string (·.releaseUrl)
    <*> required "dry_run" .bool (·.dryRun)

def PublishOutput.codec : Codec PublishOutput := record.codec

end ReleaseDesk.Release
