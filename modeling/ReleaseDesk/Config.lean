import ReleaseDesk.Failure
import ReleaseDesk.Protocol.Notice
import ReleaseDesk.Text.Scan

/-! The configuration of a server. It has defaults, can be overridden from environment variables,
and is checked once it is complete. -/

namespace ReleaseDesk

open ReleaseDesk.Wire ReleaseDesk.Text ReleaseDesk.Protocol

def programName : String := "relicta-mcp"

def programVersion : String := "0.1.0"

def defaultInstructions : String :=
  "Release management over MCP. Typical flow: relicta.plan, relicta.bump, relicta.notes, " ++
  "relicta.evaluate, relicta.approve, relicta.publish. Read relicta://status at any time to see " ++
  "where the release stands."

inductive TransportKind
  | stdio
  | http
deriving DecidableEq, Repr

namespace TransportKind

def name : TransportKind → String
  | stdio => "stdio"
  | http => "http"

def choice : Choice TransportKind := ⟨[stdio, http], name⟩

/-- The transport named by a text, up to case and surrounding white space. -/
def parse? (s : String) : Option TransportKind := choice.ofName? (lowercase (trimmed s))

def parse (s : String) : Except ConfigFault TransportKind :=
  match parse? s with
  | some kind => .ok kind
  | none =>
    .error (.invalidValue "transport"
      ("Unknown transport: '" ++ s ++ "'. Valid transports: " ++ ", ".intercalate choice.names))

end TransportKind

structure HttpConfig where
  addr : SocketAddress := .v4 127 0 0 1 8808
  path : String := "/mcp"
deriving DecidableEq

def HttpConfig.record : Record HttpConfig where
  title := "struct HttpConfig"
  fields := HttpConfig.mk
    <$> required "addr" .address (·.addr)
    <*> required "path" .string (·.path)

def HttpConfig.codec : Codec HttpConfig := record.codec

/-- The settings of the program, with their defaults. -/
structure Config where
  name : String := programName
  version : String := programVersion
  instructions : Option String := some defaultInstructions
  transport : TransportKind := .stdio
  logLevel : LogLevel := .info
  http : HttpConfig := {}
deriving DecidableEq

namespace Config

def record : Record Config where
  title := "struct ServerConfig"
  fields := Config.mk
    <$> required "name" .string (·.name)
    <*> required "version" .string (·.version)
    <*> .one (.explicit "instructions" .string) (·.instructions)
    <*> required "transport" TransportKind.choice.codec (·.transport)
    <*> required "log_level" LogLevel.choice.codec (·.logLevel)
    <*> required "http" HttpConfig.codec (·.http)

def codec : Codec Config := record.codec

/-- Sets a field by its name. An unreadable level or address and an unknown name leave the
configuration as it is. -/
def set (c : Config) (name : String) (value : Option String) : Except ConfigFault Config :=
  let text := value.getD ""
  match name with
  | "name" => .ok { c with name := text }
  | "version" => .ok { c with version := text }
  | "instructions" => .ok { c with instructions := value }
  | "transport" => (TransportKind.parse text).map fun transport => { c with transport }
  | "log_level" => .ok { c with logLevel := (LogLevel.parse? text).getD c.logLevel }
  | "http_addr" => .ok { c with http.addr := (SocketAddress.read? text).getD c.http.addr }
  | "http_path" => .ok { c with http.path := text }
  | _ => .ok c

def keys : List String := [
  "RELICTA_MCP_TRANSPORT", "RELICTA_MCP_HTTP_ADDR", "RELICTA_MCP_LOG_LEVEL",
  "RELICTA_MCP_HTTP_PATH", "RELICTA_MCP_INSTRUCTIONS"]

def valueOf (env : String → Option String) (key complaint : String) (read : String → Option α)
    (otherwise : α) : Except ConfigFault α :=
  match env key with
  | none => .ok otherwise
  | some s =>
    match read s with
    | some a => .ok a
    | none => .error (.invalidValue key (complaint ++ ": " ++ s))

/-- Overrides from an environment. The first unreadable value, in the order of the fields here, is
the error. -/
def override (c : Config) (env : String → Option String) : Except ConfigFault Config := do
  let transport ← valueOf env "RELICTA_MCP_TRANSPORT" "Unknown transport" TransportKind.parse?
    c.transport
  let addr ← valueOf env "RELICTA_MCP_HTTP_ADDR" "Invalid socket address"
    (fun s => SocketAddress.read? (trimmed s)) c.http.addr
  let logLevel ← valueOf env "RELICTA_MCP_LOG_LEVEL" "Unknown log level" LogLevel.parse? c.logLevel
  let path := (env "RELICTA_MCP_HTTP_PATH").getD c.http.path
  let instructions := match env "RELICTA_MCP_INSTRUCTIONS" with
    | none => c.instructions
    | some s => if allBlank s then none else some s
  pure { c with transport, logLevel, instructions, http := { addr, path } }

/-- Checks a complete configuration. -/
def check (c : Config) : Except ConfigFault Config :=
  if c.name = "" then .error (.missingField "name")
  else if c.version = "" then .error (.missingField "version")
  else if c.http.path.toList.head? ≠ some '/' then
    .error (.invalidValue "http.path" "Path must start with '/'")
  else .ok c

def ofEnvironment (env : String → Option String) : Except ConfigFault Config := do
  let c ← override {} env
  c.check

end Config

end ReleaseDesk
