import ReleaseDesk.Protocol.Content

/-! Parameters and results of tool calls, resource reads and prompt requests. The flag `isError` of
a result marks an error reported by the handler, as opposed to an error of the protocol. -/

namespace ReleaseDesk.Protocol

open ReleaseDesk.Wire

structure ToolCall where
  name : String
  arguments : Json := .null

def ToolCall.record : Record ToolCall where
  title := "struct CallToolParams"
  fields := ToolCall.mk
    <$> required "name" .string (·.name)
    <*> defaulted "arguments" .json .null (·.arguments)

def ToolCall.codec : Codec ToolCall := record.codec

structure ToolResult where
  content : List Content
  isError : Bool := false
deriving DecidableEq

namespace ToolResult

def record : Record ToolResult where
  title := "struct CallToolResult"
  fields := ToolResult.mk
    <$> required "content" (.list Content.codec) (·.content)
    <*> defaulted "isError" .bool false (·.isError)

def codec : Codec ToolResult := record.codec

def ofText (s : String) : ToolResult := { content := [.text s] }

def failure (message : String) : ToolResult := { content := [.text message], isError := true }

def ofJson (v : Json) : ToolResult := ofText v.pretty

def firstText? (r : ToolResult) : Option String := r.content.findSome? Content.text?

end ToolResult

structure ResourceRead where
  uri : String
deriving DecidableEq

def ResourceRead.record : Record ResourceRead where
  title := "struct ReadResourceParams"
  fields := ResourceRead.mk <$> required "uri" .string (·.uri)

def ResourceRead.codec : Codec ResourceRead := record.codec

structure ResourceResult where
  contents : List ResourceContents
  isError : Bool := false
deriving DecidableEq

namespace ResourceResult

def record : Record ResourceResult where
  title := "struct ReadResourceResult"
  fields := ResourceResult.mk
    <$> required "contents" (.list ResourceContents.codec) (·.contents)
    <*> defaulted "isError" .bool false (·.isError)

def codec : Codec ResourceResult := record.codec

def failure (uri message : String) : ResourceResult :=
  { contents := [.ofText uri message], isError := true }

def firstText? (r : ResourceResult) : Option String := r.contents.findSome? ResourceContents.text?

end ResourceResult

structure PromptFill where
  name : String
  arguments : List (String × String) := []
deriving DecidableEq

def PromptFill.record : Record PromptFill where
  title := "struct GetPromptParams"
  fields := PromptFill.mk
    <$> required "name" .string (·.name)
    <*> defaulted "arguments" (.dictionary .string) [] (·.arguments)

def PromptFill.codec : Codec PromptFill := record.codec

inductive Role
  | user
  | assistant
deriving DecidableEq

def Role.choice : Choice Role where
  values := [.user, .assistant]
  name
    | .user => "user"
    | .assistant => "assistant"

structure PromptMessage where
  role : Role
  content : Content
deriving DecidableEq

def PromptMessage.record : Record PromptMessage where
  title := "struct PromptMessage"
  fields := PromptMessage.mk
    <$> required "role" Role.choice.codec (·.role)
    <*> required "content" Content.codec (·.content)

def PromptMessage.codec : Codec PromptMessage := record.codec

def PromptMessage.ofUser (s : String) : PromptMessage := { role := .user, content := .text s }

structure PromptResult where
  description : Option String := none
  messages : List PromptMessage
deriving DecidableEq

def PromptResult.record : Record PromptResult where
  title := "struct GetPromptResult"
  fields := PromptResult.mk
    <$> optional "description" .string (·.description)
    <*> required "messages" (.list PromptMessage.codec) (·.messages)

def PromptResult.codec : Codec PromptResult := record.codec

end ReleaseDesk.Protocol
