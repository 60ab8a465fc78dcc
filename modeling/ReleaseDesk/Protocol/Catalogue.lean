import ReleaseDesk.Wire.Choice

/-! Descriptors of tools, resources and prompts, and the pages in which they are listed. -/

namespace ReleaseDesk.Protocol

open ReleaseDesk.Wire

structure Tool where
  name : String
  description : Option String := none
  inputSchema : Json

def Tool.record : Record Tool where
  title := "struct Tool"
  fields := Tool.mk
    <$> required "name" .string (·.name)
    <*> optional "description" .string (·.description)
    <*> required "inputSchema" .json (·.inputSchema)

def Tool.codec : Codec Tool := record.codec

structure Resource where
  uri : String
  name : String
  description : Option String := none
  mimeType : Option String := none
deriving DecidableEq

def Resource.record : Record Resource where
  title := "struct Resource"
  fields := Resource.mk
    <$> required "uri" .string (·.uri)
    <*> required "name" .string (·.name)
    <*> optional "description" .string (·.description)
    <*> optional "mimeType" .string (·.mimeType)

def Resource.codec : Codec Resource := record.codec

structure PromptArgument where
  name : String
  description : Option String := none
  required : Option Bool := none
deriving DecidableEq

def PromptArgument.record : Record PromptArgument where
  title := "struct PromptArgument"
  fields := PromptArgument.mk
    <$> Wire.required "name" .string (·.name)
    <*> optional "description" .string (·.description)
    <*> optional "required" .bool (·.required)

def PromptArgument.codec : Codec PromptArgument := record.codec

structure Prompt where
  name : String
  description : Option String := none
  arguments : Option (List PromptArgument) := none
deriving DecidableEq

def Prompt.record : Record Prompt where
  title := "struct Prompt"
  fields := Prompt.mk
    <$> required "name" .string (·.name)
    <*> optional "description" .string (·.description)
    <*> optional "arguments" (.list PromptArgument.codec) (·.arguments)

def Prompt.codec : Codec Prompt := record.codec

/-- The required arguments of a prompt that are not given, in declaration order. -/
def Prompt.missing (p : Prompt) (given : List (String × String)) : List String :=
  (((p.arguments.getD []).filter fun a =>
    a.required = some true && !given.any (·.1 = a.name))).map (·.name)

structure PageParams where
  cursor : Option String := none
deriving DecidableEq

def PageParams.record : Record PageParams where
  title := "struct PaginatedParams"
  fields := PageParams.mk <$> optional "cursor" .string (·.cursor)

def PageParams.codec : Codec PageParams := record.codec

structure ToolPage where
  tools : List Tool
  nextCursor : Option String := none

def ToolPage.record : Record ToolPage where
  title := "struct ListToolsResult"
  fields := ToolPage.mk
    <$> required "tools" (.list Tool.codec) (·.tools)
    <*> optional "nextCursor" .string (·.nextCursor)

def ToolPage.codec : Codec ToolPage := record.codec

structure ResourcePage where
  resources : List Resource
  nextCursor : Option String := none
deriving DecidableEq

def ResourcePage.record : Record ResourcePage where
  title := "struct ListResourcesResult"
  fields := ResourcePage.mk
    <$> required "resources" (.list Resource.codec) (·.resources)
    <*> optional "nextCursor" .string (·.nextCursor)

def ResourcePage.codec : Codec ResourcePage := record.codec

structure PromptPage where
  prompts : List Prompt
  nextCursor : Option String := none
deriving DecidableEq

def PromptPage.record : Record PromptPage where
  title := "struct ListPromptsResult"
  fields := PromptPage.mk
    <$> required "prompts" (.list Prompt.codec) (·.prompts)
    <*> optional "nextCursor" .string (·.nextCursor)

def PromptPage.codec : Codec PromptPage := record.codec

end ReleaseDesk.Protocol
