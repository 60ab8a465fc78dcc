import ReleaseDesk.Protocol.Handshake
import ReleaseDesk.Rpc.Envelope
import ReleaseDesk.Service.Registry

/-! The dispatcher. The methods of a server are fixed; three of them invoke a handler from the
registry. Every error of a handler becomes an internal error of the protocol. -/

namespace ReleaseDesk.Service

open ReleaseDesk.Protocol ReleaseDesk.Wire

/-- The built-in methods. -/
inductive Method
  | greet
  | greeted
  | ping
  | listTools
  | callTool
  | listResources
  | readResource
  | listPrompts
  | getPrompt
  | setLevel
deriving DecidableEq, Repr

def Method.ofName? : String → Option Method
  | "initialize" => some greet
  | "initialized" => some greeted
  | "notifications/initialized" => some greeted
  | "ping" => some ping
  | "tools/list" => some listTools
  | "tools/call" => some callTool
  | "resources/list" => some listResources
  | "resources/read" => some readResource
  | "prompts/list" => some listPrompts
  | "prompts/get" => some getPrompt
  | "logging/setLevel" => some setLevel
  | _ => none

/-- The identity, capabilities and handlers of a server. -/
structure Dispatcher (ω : Type) where
  info : Implementation
  capabilities : ServerCapabilities := {}
  instructions : Option String := none
  registry : Registry ω := {}

def nothing : Json := .object []

/-- Decodes the parameters of a method that requires some. -/
def readParams (c : Codec α) : Option Json → Except Rpc.Fault α
  | none => .error (.invalidParams "Missing params")
  | some v => (c.ofJson v).mapError fun fault => .invalidParams fault.message

/-- The response payload of a handler's outcome. -/
def handled (c : Codec α) : Except Failure α → Except Rpc.Fault Json
  | .ok a => .ok (c.toJson a)
  | .error failure => .error (.internal failure.message)

namespace Dispatcher

def welcome (o : Dispatcher ω) : Welcome :=
  { protocolVersion, capabilities := o.capabilities, serverInfo := o.info
    instructions := o.instructions }

def callTool (o : Dispatcher ω) (call : ToolCall) (c : Context) : Action ω (Except Rpc.Fault Json) :=
  match o.registry.tools.get? call.name with
  | none => pure (.error (.methodNotFound call.name))
  | some h => handled ToolResult.codec <$> h.call call.arguments c

def readResource (o : Dispatcher ω) (read : ResourceRead) (c : Context) :
    Action ω (Except Rpc.Fault Json) :=
  match o.registry.resources.get? read.uri with
  | none => pure (.error (.methodNotFound read.uri))
  | some h => handled ResourceResult.codec <$> h.read c

/-- Renders a prompt. An absent required argument is an error. -/
def getPrompt (o : Dispatcher ω) (fill : PromptFill) (c : Context) :
    Action ω (Except Rpc.Fault Json) :=
  match o.registry.prompts.get? fill.name with
  | none => pure (.error (.methodNotFound fill.name))
  | some h =>
    match h.prompt.missing fill.arguments with
    | [] => handled PromptResult.codec <$> h.fill fill.arguments c
    | names => pure (.error (.invalidParams
        ("missing required arguments: " ++ ", ".intercalate names)))

def withParams (c : Codec α) (params : Option Json)
    (go : α → Action ω (Except Rpc.Fault Json)) : Action ω (Except Rpc.Fault Json) :=
  match readParams c params with
  | .ok a => go a
  | .error fault => pure (.error fault)

/-- The method of a name, if the server supports it: setting the log level requires the logging
capability. -/
def method? (o : Dispatcher ω) (name : String) : Option Method :=
  (Method.ofName? name).filter fun m => m ≠ .setLevel || o.capabilities.logging.isSome

def carryOut (o : Dispatcher ω) (params : Option Json) (c : Context) :
    Method → Action ω (Except Rpc.Fault Json)
  | .greet =>
    withParams InitializeParams.codec params fun _ => pure (.ok (Welcome.codec.toJson o.welcome))
  | .greeted => pure (.ok nothing)
  | .ping => pure (.ok nothing)
  | .listTools =>
    pure (.ok (ToolPage.codec.toJson { tools := o.registry.tools.toList.map (·.tool) }))
  | .callTool => withParams ToolCall.codec params fun call => o.callTool call c
  | .listResources =>
    pure (.ok (ResourcePage.codec.toJson
      { resources := o.registry.resources.toList.map (·.resource) }))
  | .readResource => withParams ResourceRead.codec params fun read => o.readResource read c
  | .listPrompts =>
    pure (.ok (PromptPage.codec.toJson { prompts := o.registry.prompts.toList.map (·.prompt) }))
  | .getPrompt => withParams PromptFill.codec params fun fill => o.getPrompt fill c
  | .setLevel =>
    withParams LevelSetting.codec params fun setting => do
      modify fun scene => { scene with level := setting.level }
      pure (.ok nothing)

def route (o : Dispatcher ω) (name : String) (params : Option Json) (c : Context) :
    Action ω (Except Rpc.Fault Json) :=
  match o.method? name with
  | some m => o.carryOut params c m
  | none => pure (.error (.methodNotFound name))

/-- The response to a request. A notification is carried out and gets none. -/
def dispatch (o : Dispatcher ω) (r : Rpc.Request) : Action ω (Option Rpc.Response) := do
  let outcome ← o.route r.method r.params
    { requestId := r.id, method := r.method, logger := some o.info.name }
  pure <| r.id.map fun id =>
    match outcome with
    | .ok result => .success (some id) result
    | .error fault => .failure (some id) fault.errorObject

end Dispatcher

end ReleaseDesk.Service
