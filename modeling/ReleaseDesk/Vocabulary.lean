import ReleaseDesk.Config
import ReleaseDesk.Plugin.Roster
import ReleaseDesk.Protocol.Call
import ReleaseDesk.Protocol.Catalogue
import ReleaseDesk.Protocol.Handshake
import ReleaseDesk.Release.Steps

/-! The types with a codec, by name. -/

namespace ReleaseDesk

open ReleaseDesk.Wire ReleaseDesk.Protocol

/-- A named type with its codec. -/
structure Term : Type 1 where
  name : String
  type : Type
  codec : Codec type

namespace Term

def ofRecord (r : Record α) : Term :=
  ⟨String.ofList (r.title.toList.drop "struct ".length), α, r.codec⟩

def ofChoice (name : String) (c : Choice α) : Term := ⟨name, α, c.codec⟩

def calls : List Term := [
  ⟨"RequestId", _, Rpc.RequestId.codec⟩, ofRecord Rpc.Request.record, ofRecord Rpc.Response.record,
  ofRecord Rpc.Notification.record, ofRecord Rpc.ErrorObject.record,
  ⟨"Message", _, Rpc.Message.codec⟩]

def session : List Term := [
  ofRecord Implementation.record, ofRecord ServerCapabilities.record,
  ofRecord ToolsCapability.record, ofRecord ResourcesCapability.record,
  ofRecord PromptsCapability.record, ofRecord LoggingCapability.record,
  ofRecord ClientCapabilities.record, ofRecord RootsCapability.record,
  ofRecord SamplingCapability.record, ofRecord InitializeParams.record, ofRecord Welcome.record,
  ofChoice "LogLevel" LogLevel.choice, ofRecord LogMessage.record, ofRecord LevelSetting.record,
  ⟨"ProgressToken", _, ProgressToken.codec⟩, ofChoice "ProgressKind" ProgressKind.choice,
  ofRecord Progress.record]

def offers : List Term := [
  ofRecord PageParams.record, ofRecord Tool.record, ofRecord ToolPage.record,
  ofRecord ToolCall.record, ofRecord ToolResult.record, ⟨"Content", _, Content.codec⟩,
  ⟨"ResourceContents", _, ResourceContents.codec⟩, ofRecord TextContents.record,
  ofRecord BlobContents.record, ofRecord Resource.record, ofRecord ResourcePage.record,
  ofRecord ResourceRead.record, ofRecord ResourceResult.record, ofRecord Prompt.record,
  ofRecord PromptArgument.record, ofRecord PromptPage.record, ofRecord PromptFill.record,
  ofChoice "Role" Role.choice, ofRecord PromptMessage.record, ofRecord PromptResult.record]

open Release in
def release : List Term := [
  ofChoice "BumpKind" BumpKind.choice, ofChoice "ReleaseState" Stage.choice,
  ofRecord Status.record, ofRecord PlanInput.record, ofRecord PlanOutput.record,
  ofRecord BumpInput.record, ofRecord BumpOutput.record, ofRecord NotesInput.record,
  ofRecord NotesOutput.record, ofRecord EvaluateInput.record, ofRecord EvaluateOutput.record,
  ofRecord ApproveInput.record, ofRecord ApproveOutput.record, ofRecord PublishInput.record,
  ofRecord PublishOutput.record]

open Plugin in
def plugins : List Term := [
  ofChoice "Hook" Hook.choice, ofRecord PluginInfo.record, ofRecord ReleaseContext.record,
  ofRecord HookOutcome.record, ofRecord HookSummary.record,
  ⟨"PluginInfos", _, .list PluginInfo.codec⟩]

def settings : List Term := [
  ofChoice "TransportKind" TransportKind.choice, ofRecord HttpConfig.record,
  ofRecord Config.record]

def all : List Term :=
  ⟨"Value", _, .json⟩ :: (calls ++ session ++ offers ++ release ++ plugins ++ settings)

def ofName? (name : String) : Option Term := all.find? (·.name = name)

end Term

end ReleaseDesk
