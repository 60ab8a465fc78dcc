import ReleaseDesk.Release.Tools
import ReleaseDesk.Text.Scan
import ReleaseDesk.Wire.Codec

/-! The tools and the resource for plugins. A hook at which some plugins fail still yields a summary
as its result; only an error of the manager is an error of the tool. -/

namespace ReleaseDesk.Plugin

open ReleaseDesk.Protocol ReleaseDesk.Wire ReleaseDesk.Service ReleaseDesk.Release ReleaseDesk.Text

def pluginsUri : String := "relicta://plugins"

def listHandler [Manager π] : ToolHandler (Backend σ π) where
  tool :=
    { name := "relicta.plugins.list"
      description := some "List installed plugins and the hooks they handle."
      inputSchema := objectSchema [] }
  call _ _ := do
    match ← Backend.ask Manager.plugins with
    | .ok plugins =>
      return .ok (.ofJson (.normal (.object [
        ("count", .natural plugins.length),
        ("plugins", (Codec.list PluginInfo.codec).write plugins)])))
    | .error fault => return .ok (.failure fault.message)

structure InfoArguments where
  name : String := ""

def InfoArguments.record : Record InfoArguments where
  title := "struct InfoArgs"
  fields := InfoArguments.mk <$> defaulted "name" .string "" (·.name)

def infoHandler [Manager π] : ToolHandler (Backend σ π) where
  tool :=
    { name := "relicta.plugins.info"
      description := some "Show details for one plugin."
      inputSchema := objectSchema [argument "name" "string" "Plugin name"] ["name"] }
  call v _ :=
    match readArguments InfoArguments.record.codec {} v with
    | .error complaint => pure (.ok (.failure complaint))
    | .ok { name } =>
      if allBlank name then pure (.ok (.failure "missing required argument: name"))
      else do
        match ← Backend.ask (Manager.plugin name) with
        | .ok info => return .ok (.ofText (PluginInfo.codec.pretty info))
        | .error fault => return .ok (.failure fault.message)

/-- The arguments of the tool that runs a hook. -/
structure HookArguments where
  hook : String := ""
  context : ReleaseContext := {}

def HookArguments.record : Record HookArguments where
  title := "struct ExecuteHookArgs"
  fields := HookArguments.mk
    <$> defaulted "hook" .string "" (·.hook)
    <*> defaulted "context" ReleaseContext.codec {} (·.context)

/-- Decodes the hook and the description of the release. -/
def readHook (v : Json) : Except String (Hook × ReleaseContext) := do
  let a ← readArguments HookArguments.record.codec {} v
  let hook ← (Hook.parse a.hook).mapError Fault.message
  pure (hook, a.context)

def HookSummary.warning (s : HookSummary) : String :=
  toString s.failed ++ " of " ++ toString s.executed ++ " plugin(s) failed on " ++ s.hook.name

/-- The schema of `ReleaseContext`. -/
def contextSchema : Json :=
  .object [
    ("type", .string "object"),
    ("description", .string "Release context passed to the plugins"),
    ("properties", .object (["release_id", "version", "previous_version", "tag_name", "notes"].map
      (fun name => (name, .object [("type", .string "string")])) ++
      [("dry_run", .object [("type", .string "boolean")])]))]

def hookHandler [Manager π] : ToolHandler (Backend σ π) where
  tool :=
    { name := "relicta.plugins.execute_hook"
      description := some
        "Run a lifecycle hook on every plugin that handles it and report each outcome."
      inputSchema := objectSchema
        [argument "hook" "string" "Hook to run" [("enum", Json.strings Hook.choice.names)],
          ("context", contextSchema)] ["hook"] }
  call v c :=
    match readHook v with
    | .error complaint => pure (.ok (.failure complaint))
    | .ok (hook, context) => do
      match ← Backend.ask (Manager.run hook context) with
      | .error fault => return .ok (.failure fault.message)
      | .ok outcomes =>
        let summary := HookSummary.ofOutcomes hook outcomes (← get).supply.now
        if 0 < summary.failed then Action.log c .warning summary.warning
        return .ok (.ofText (HookSummary.codec.pretty summary))

def pluginsHandler [Manager π] : ResourceHandler (Backend σ π) where
  resource :=
    { uri := pluginsUri, name := "Plugins", description := some "Installed plugins as JSON"
      mimeType := some "application/json" }
  read _ := do
    match ← Backend.ask Manager.plugins with
    | .ok plugins =>
      return .ok
        { contents := [.ofJson pluginsUri ((Codec.list PluginInfo.codec).write plugins)] }
    | .error fault => return .ok (.failure pluginsUri fault.message)

end ReleaseDesk.Plugin
