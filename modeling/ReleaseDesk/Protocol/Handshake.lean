import ReleaseDesk.Wire.Choice

/-! The parameters and the result of the `initialize` request: the implementations and capabilities
of client and server. Optional flags are omitted if `none`, and written if `false`. -/

namespace ReleaseDesk.Protocol

open ReleaseDesk.Wire

def protocolVersion : String := "2024-11-05"

structure Implementation where
  name : String
  version : String
deriving DecidableEq

def Implementation.record : Record Implementation where
  title := "struct Implementation"
  fields := Implementation.mk
    <$> required "name" .string (·.name)
    <*> required "version" .string (·.version)

def Implementation.codec : Codec Implementation := record.codec

structure ToolsCapability where
  listChanged : Option Bool := none
deriving DecidableEq

def ToolsCapability.record : Record ToolsCapability where
  title := "struct ToolsCapability"
  fields := ToolsCapability.mk <$> optional "listChanged" .bool (·.listChanged)

def ToolsCapability.codec : Codec ToolsCapability := record.codec

structure ResourcesCapability where
  subscribe : Option Bool := none
  listChanged : Option Bool := none
deriving DecidableEq

def ResourcesCapability.record : Record ResourcesCapability where
  title := "struct ResourcesCapability"
  fields := ResourcesCapability.mk
    <$> optional "subscribe" .bool (·.subscribe)
    <*> optional "listChanged" .bool (·.listChanged)

def ResourcesCapability.codec : Codec ResourcesCapability := record.codec

structure PromptsCapability where
  listChanged : Option Bool := none
deriving DecidableEq

def PromptsCapability.record : Record PromptsCapability where
  title := "struct PromptsCapability"
  fields := PromptsCapability.mk <$> optional "listChanged" .bool (·.listChanged)

def PromptsCapability.codec : Codec PromptsCapability := record.codec

structure LoggingCapability where
deriving DecidableEq

def LoggingCapability.record : Record LoggingCapability where
  title := "struct LoggingCapability"
  fields := pure {}

def LoggingCapability.codec : Codec LoggingCapability := record.codec

/-- The capabilities of a server. -/
structure ServerCapabilities where
  tools : Option ToolsCapability := none
  resources : Option ResourcesCapability := none
  prompts : Option PromptsCapability := none
  logging : Option LoggingCapability := none
deriving DecidableEq

namespace ServerCapabilities

def record : Record ServerCapabilities where
  title := "struct ServerCapabilities"
  fields := ServerCapabilities.mk
    <$> optional "tools" ToolsCapability.codec (·.tools)
    <*> optional "resources" ResourcesCapability.codec (·.resources)
    <*> optional "prompts" PromptsCapability.codec (·.prompts)
    <*> optional "logging" LoggingCapability.codec (·.logging)

def codec : Codec ServerCapabilities := record.codec

def withTools (c : ServerCapabilities) : ServerCapabilities :=
  { c with tools := some { listChanged := some true } }

def withResources (c : ServerCapabilities) : ServerCapabilities :=
  { c with resources := some { subscribe := some false, listChanged := some true } }

def withPrompts (c : ServerCapabilities) : ServerCapabilities :=
  { c with prompts := some { listChanged := some false } }

def withLogging (c : ServerCapabilities) : ServerCapabilities := { c with logging := some {} }

end ServerCapabilities

structure RootsCapability where
  listChanged : Option Bool := none
deriving DecidableEq

def RootsCapability.record : Record RootsCapability where
  title := "struct RootsCapability"
  fields := RootsCapability.mk <$> optional "listChanged" .bool (·.listChanged)

def RootsCapability.codec : Codec RootsCapability := record.codec

structure SamplingCapability where
deriving DecidableEq

def SamplingCapability.record : Record SamplingCapability where
  title := "struct SamplingCapability"
  fields := pure {}

def SamplingCapability.codec : Codec SamplingCapability := record.codec

structure ClientCapabilities where
  roots : Option RootsCapability := none
  sampling : Option SamplingCapability := none
deriving DecidableEq

def ClientCapabilities.record : Record ClientCapabilities where
  title := "struct ClientCapabilities"
  fields := ClientCapabilities.mk
    <$> optional "roots" RootsCapability.codec (·.roots)
    <*> optional "sampling" SamplingCapability.codec (·.sampling)

def ClientCapabilities.codec : Codec ClientCapabilities := record.codec

/-- The parameters of the `initialize` request. -/
structure InitializeParams where
  protocolVersion : String
  capabilities : ClientCapabilities := {}
  clientInfo : Implementation
deriving DecidableEq

def InitializeParams.record : Record InitializeParams where
  title := "struct InitializeParams"
  fields := InitializeParams.mk
    <$> required "protocolVersion" .string (·.protocolVersion)
    <*> defaulted "capabilities" ClientCapabilities.codec {} (·.capabilities)
    <*> required "clientInfo" Implementation.codec (·.clientInfo)

def InitializeParams.codec : Codec InitializeParams := record.codec

/-- The result of the `initialize` request. -/
structure Welcome where
  protocolVersion : String
  capabilities : ServerCapabilities
  serverInfo : Implementation
  instructions : Option String := none
deriving DecidableEq

def Welcome.record : Record Welcome where
  title := "struct InitializeResult"
  fields := Welcome.mk
    <$> required "protocolVersion" .string (·.protocolVersion)
    <*> required "capabilities" ServerCapabilities.codec (·.capabilities)
    <*> required "serverInfo" Implementation.codec (·.serverInfo)
    <*> optional "instructions" .string (·.instructions)

def Welcome.codec : Codec Welcome := record.codec

end ReleaseDesk.Protocol
