import ReleaseDesk.Plugin.Hook
import ReleaseDesk.Timestamp

/-! Plugin managers. A manager lists its plugins, describes one, and runs a hook, with one outcome
for every plugin that handles the hook. A roster is a manager with predetermined answers that logs
the hooks it is asked to run. -/

namespace ReleaseDesk.Plugin

open ReleaseDesk.Wire

structure PluginInfo where
  name : String
  version : String
  description : Option String := none
  enabled : Bool := false
  hooks : List Hook := []
deriving DecidableEq

def PluginInfo.record : Record PluginInfo where
  title := "struct PluginInfo"
  fields := PluginInfo.mk
    <$> required "name" .string (·.name)
    <*> required "version" .string (·.version)
    <*> .one ((Member.optional "description" .string).orElse none) (·.description)
    <*> defaulted "enabled" .bool false (·.enabled)
    <*> defaulted "hooks" (.list Hook.choice.codec) [] (·.hooks)

def PluginInfo.codec : Codec PluginInfo := record.codec

def contextMember (name : String) : Member (Option String) :=
  (Member.optional name .string).orElse none

/-- The description of a release that plugins receive. -/
structure ReleaseContext where
  releaseId : Option String := none
  version : Option String := none
  previousVersion : Option String := none
  tagName : Option String := none
  notes : Option String := none
  dryRun : Bool := false
deriving DecidableEq

def ReleaseContext.record : Record ReleaseContext where
  title := "struct ReleaseContext"
  fields := ReleaseContext.mk
    <$> .one (contextMember "release_id") (·.releaseId)
    <*> .one (contextMember "version") (·.version)
    <*> .one (contextMember "previous_version") (·.previousVersion)
    <*> .one (contextMember "tag_name") (·.tagName)
    <*> .one (contextMember "notes") (·.notes)
    <*> defaulted "dry_run" .bool false (·.dryRun)

def ReleaseContext.codec : Codec ReleaseContext := record.codec

/-- The outcome of one plugin at a hook. -/
structure HookOutcome where
  plugin : String
  success : Bool
  message : Option String := none
  artifacts : List String := []
deriving DecidableEq

def HookOutcome.record : Record HookOutcome where
  title := "struct HookOutcome"
  fields := HookOutcome.mk
    <$> required "plugin" .string (·.plugin)
    <*> required "success" .bool (·.success)
    <*> .one ((Member.optional "message" .string).orElse none) (·.message)
    <*> .one (((Member.required "artifacts" (.list .string)).orElse []).omitWhen List.isEmpty)
      (·.artifacts)

def HookOutcome.codec : Codec HookOutcome := record.codec

/-- The outcomes of all plugins at a hook. -/
structure HookSummary where
  hook : Hook
  executed : Nat
  succeeded : Nat
  failed : Nat
  results : List HookOutcome
  executedAt : Timestamp
deriving DecidableEq

def HookSummary.record : Record HookSummary where
  title := "struct HookExecutionSummary"
  fields := HookSummary.mk
    <$> required "hook" Hook.choice.codec (·.hook)
    <*> required "executed" .count (·.executed)
    <*> required "succeeded" .count (·.succeeded)
    <*> required "failed" .count (·.failed)
    <*> required "results" (.list HookOutcome.codec) (·.results)
    <*> required "executed_at" .time (·.executedAt)

def HookSummary.codec : Codec HookSummary := record.codec

def HookSummary.ofOutcomes (hook : Hook) (results : List HookOutcome) (now : Timestamp) :
    HookSummary :=
  let succeeded := (results.filter (·.success)).length
  { hook, executed := results.length, succeeded, failed := results.length - succeeded, results
    executedAt := now }

/-- Types of plugin manager states, with the transition function of each operation. -/
class Manager (π : Type) where
  plugins : π → Except Fault (List PluginInfo) × π
  plugin : String → π → Except Fault PluginInfo × π
  run : Hook → ReleaseContext → π → Except Fault (List HookOutcome) × π

/-! ### Rosters -/

/-- A manager with predetermined outcomes. The faults are those of its listing and of its hooks; the
record has the most recent hook last. -/
structure Roster where
  plugins : List PluginInfo := []
  outcomes : List HookOutcome := []
  listFault : Option Fault := none
  hookFault : Option Fault := none
  record : List (Hook × ReleaseContext) := []

namespace Roster

def unless? (fault : Option Fault) (a : α) : Except Fault α :=
  match fault with
  | some fault => .error fault
  | none => .ok a

def plugin (r : Roster) (name : String) : Except Fault PluginInfo :=
  match r.plugins.find? (·.name = name) with
  | some info => .ok info
  | none => .error (.notFound name)

instance : Manager Roster where
  plugins r := (unless? r.listFault r.plugins, r)
  plugin name r := (r.plugin name, r)
  run hook context r :=
    (unless? r.hookFault r.outcomes, { r with record := r.record ++ [(hook, context)] })

end Roster

end ReleaseDesk.Plugin
