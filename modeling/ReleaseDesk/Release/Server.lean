import ReleaseDesk.Config
import ReleaseDesk.Plugin.Tools
import ReleaseDesk.Release.Tools
import ReleaseDesk.Service.Registry
import ReleaseDesk.Service.Session
import ReleaseDesk.Text.Scan
import ReleaseDesk.Wire.Codec

/-! The release server: its resources, its prompts, and its assembly from a configuration and a
backend. -/

namespace ReleaseDesk.Release

open ReleaseDesk.Protocol ReleaseDesk.Wire ReleaseDesk.Service

/-! ### Resources -/

def statusUri : String := "relicta://status"

def notesUri : String := "relicta://notes"

def statusHandler [Adapter σ] : ResourceHandler (Backend σ π) where
  resource :=
    { uri := statusUri, name := "Release status"
      description := some "State of the current release as JSON"
      mimeType := some "application/json" }
  read _ := do
    match ← Backend.perform .status () with
    | .ok status =>
      return .ok { contents := [.ofJson statusUri (Status.codec.write status)] }
    | .error refusal => return .ok (.failure statusUri refusal.message)

def notesHandler [Adapter σ] : ResourceHandler (Backend σ π) where
  resource :=
    { uri := notesUri, name := "Release notes"
      description := some "Release notes generated for the current release"
      mimeType := some "text/markdown" }
  read _ := do
    match ← Backend.perform .status () with
    | .ok status =>
      match status.notes with
      | some notes => return .ok { contents := [.ofText notesUri notes] }
      | none => return .ok (.failure notesUri "no release notes yet; run relicta.notes first")
    | .error refusal => return .ok (.failure notesUri refusal.message)

/-! ### Prompts -/

open ReleaseDesk.Protocol ReleaseDesk.Service ReleaseDesk.Text

def promptArgument (name description : String) (required : Bool) : PromptArgument :=
  { name, description := some description, required := some required }

def given? (name : String) (arguments : List (String × String)) : Option String :=
  (arguments.find? (·.1 = name)).map (·.2)

def summaryText (version audience : String) : String :=
  "Read the relicta://notes resource and write a short summary of release " ++ version ++ " for " ++
  audience ++ ". Lead with breaking changes and required migration steps, then new features, " ++
  "then fixes. Skip internal refactoring."

def summaryHandler : PromptHandler ω where
  prompt :=
    { name := "release-summary"
      description := some "Summarize a release for a given audience"
      arguments := some [
        promptArgument "version" "Version being released" true,
        promptArgument "audience" "Who the summary is for (default: users)" false] }
  fill arguments _ :=
    let version := (given? "version" arguments).getD ""
    let audience := (given? "audience" arguments).getD "users"
    pure (.ok
      { description := some ("Release summary for " ++ version)
        messages := [.ofUser (summaryText version audience)] })

def reviewText (focus : Option String) : String :=
  let text := "Call relicta.evaluate and review the result. Explain each risk factor, list the " ++
    "required actions, and recommend whether to call relicta.approve."
  match focus with
  | some focus =>
    if allBlank focus then text
    else text ++ " Pay particular attention to " ++ trimmed focus ++ "."
  | none => text

def reviewHandler : PromptHandler ω where
  prompt :=
    { name := "risk-review"
      description := some "Review the risk of the planned release before approval"
      arguments := some [
        promptArgument "focus"
          "Area to pay extra attention to, e.g. 'database migrations'" false] }
  fill arguments _ := pure (.ok
    { description := some "Pre-approval risk review"
      messages := [.ofUser (reviewText (given? "focus" arguments))] })

/-! ### The server -/

open ReleaseDesk.Service ReleaseDesk.Plugin ReleaseDesk.Protocol

def releaseHandlers [Adapter σ] : List (Handler (Backend σ π)) :=
  Step.all.map (fun s => .tool s.handler) ++
    [.resource statusHandler, .resource notesHandler, .prompt summaryHandler, .prompt reviewHandler]

def pluginHandlers [Manager π] : List (Handler (Backend σ π)) :=
  [.tool listHandler, .tool infoHandler, .tool hookHandler, .resource pluginsHandler]

def serverOf (config : Config) (registry : Registry ω) (world : ω) (supply : Supply) : Server ω where
  service :=
    { info := { name := config.name, version := config.version }
      capabilities :=
        (({} : ServerCapabilities).withTools.withResources.withPrompts.withLogging)
      instructions := config.instructions
      registry }
  scene := { world, supply, level := config.logLevel }

/-- Assembles the release server: registers all handlers of releases and of plugins. -/
def assemble [Adapter σ] [Manager π] (config : Option Config) (backend : Backend σ π)
    (supply : Supply) : Except ConfigFault (Server (Backend σ π)) := do
  let some config := config | .error (.missingField "config")
  let (outcome, registry) := ({} : Registry (Backend σ π)).registerAll releaseHandlers
  outcome
  let (outcome, registry) := registry.registerAll pluginHandlers
  outcome
  pure (serverOf config registry backend supply)

end ReleaseDesk.Release
