import ReleaseDesk.Client.Router
import ReleaseDesk.Failure
import ReleaseDesk.Json.Printer
import ReleaseDesk.Protocol.Call
import ReleaseDesk.Protocol.Catalogue
import ReleaseDesk.Protocol.Handshake

/-! The client. It numbers its requests, sends them over a transport, and accepts only the response
with the same id. A closed client sends nothing. -/

namespace ReleaseDesk.Client

open ReleaseDesk.Rpc ReleaseDesk.Text

/-! ### Errors -/

/-- The errors of a client. -/
inductive Fault
  | closed
  | transport (fault : TransportFault)
  | rpc (error : ErrorObject)
  | tool (message : String)
  | noContent
  | decode (fault : Wire.Fault)
  | unexpected (detail : String)

def Fault.message : Fault → String
  | closed => "client is closed"
  | transport fault => "transport error: " ++ fault.message
  | rpc error =>
    "RPC error " ++ String.ofList (intNumeral error.code) ++ ": " ++ error.message ++
      match error.data with
      | some data => " (data: " ++ data.normal.render ++ ")"
      | none => ""
  | tool message => "tool error: " ++ message
  | noContent => "result contained no text content"
  | decode fault => "failed to decode result: " ++ fault.message
  | unexpected detail => "unexpected response: " ++ detail

def shownId : Option RequestId → String
  | none => "None"
  | some (.string s) => "Some(String(" ++ quoted s ++ "))"
  | some (.number n) => "Some(Number(" ++ String.ofList (intNumeral n) ++ "))"
  | some .null => "Some(Null)"

/-- The error of a response with another id. -/
def Fault.foreign (expected : RequestId) (found : Option RequestId) : Fault :=
  .unexpected ("expected id " ++ expected.text ++ ", got " ++ shownId found)

/-! ### Calls -/

open ReleaseDesk.Rpc ReleaseDesk.Protocol ReleaseDesk.Wire

/-- Transports of a client. A request returns its response and the notifications received before it.
-/
class Link (τ : Type) where
  request : Request → τ → Except TransportFault Response × List Notification × τ
  notify : Notification → τ → Except TransportFault Unit × τ
  close : τ → Except TransportFault Unit × τ

/-- The state of a client. `heard` holds the events of its listeners in order. -/
structure Caller (τ κ : Type) where
  link : τ
  info : Implementation
  nextId : Int := 1
  closed : Bool := false
  router : Router κ := {}
  heard : List (Heard κ) := []
  server : Option Welcome := none

/-- The id of the next request, as a 64-bit integer with wraparound. -/
def numberAfter (n : Int) : Int := if n + 1 < -Number.least then n + 1 else Number.least

/-- Computations of a client, which may fail. -/
abbrev Talk (τ κ α : Type) := ExceptT Fault (StateM (Caller τ κ)) α

def Caller.hear (c : Caller τ κ) (n : Notification) : Caller τ κ :=
  let (heard, router) := c.router.handle n
  { c with router, heard := c.heard ++ heard }

namespace Talk

def ensureOpen : Talk τ κ Unit := do
  if (← get).closed then throw .closed

/-- The result in the response to a request. -/
def resultOf (id : RequestId) (r : Response) : Except Fault Json :=
  if r.id ≠ some id then .error (.foreign id r.id)
  else match r.error, r.result with
    | some error, _ => .error (.rpc error)
    | none, some result => .ok result
    | none, none => .error (.unexpected "response has no result")

def request [Link τ] (method : String) (params : Option Json) : Talk τ κ Json := do
  ensureOpen
  let c ← get
  let id := RequestId.number c.nextId
  let (outcome, arrived, link) := Link.request { id := some id, method, params } c.link
  set (arrived.foldl Caller.hear { c with link, nextId := numberAfter c.nextId })
  match outcome with
  | .error fault => throw (.transport fault)
  | .ok response => liftExcept (resultOf id response)
where
  liftExcept : Except Fault Json → Talk τ κ Json
    | .ok v => pure v
    | .error fault => throw fault

/-- Sends a request and decodes its result. -/
def call [Link τ] (c : Codec α) (method : String) (params : Option Json) : Talk τ κ α := do
  let v ← request method params
  match c.ofJson v with
  | .ok a => pure a
  | .error fault => throw (.decode fault)

def notify [Link τ] (method : String) (params : Option Json) : Talk τ κ Unit := do
  ensureOpen
  let c ← get
  let (outcome, link) := Link.notify { method, params } c.link
  set { c with link }
  match outcome with
  | .error fault => throw (.transport fault)
  | .ok () => pure ()

/-- Performs the handshake. The welcome is recorded once the server has been notified. -/
def greet [Link τ] : Talk τ κ Welcome := do
  ensureOpen
  let greeting : InitializeParams := { protocolVersion, clientInfo := (← get).info }
  let welcome ← call Welcome.codec "initialize" (some (InitializeParams.codec.toJson greeting))
  notify "notifications/initialized" none
  modify fun c => { c with server := some welcome }
  pure welcome

def ping [Link τ] : Talk τ κ Unit := do
  let _ ← request "ping" none

def listTools [Link τ] : Talk τ κ (List Tool) :=
  return (← call ToolPage.codec "tools/list" (some (.object []))).tools

def listResources [Link τ] : Talk τ κ (List Resource) :=
  return (← call ResourcePage.codec "resources/list" (some (.object []))).resources

def listPrompts [Link τ] : Talk τ κ (List Prompt) :=
  return (← call PromptPage.codec "prompts/list" (some (.object []))).prompts

def callTool [Link τ] (name : String) (arguments : Json) : Talk τ κ ToolResult :=
  call ToolResult.codec "tools/call" (some (ToolCall.codec.toJson { name, arguments }))

def readResource [Link τ] (uri : String) : Talk τ κ ResourceResult :=
  call ResourceResult.codec "resources/read" (some (ResourceRead.codec.toJson { uri }))

def getPrompt [Link τ] (name : String) (arguments : List (String × String)) :
    Talk τ κ PromptResult :=
  call PromptResult.codec "prompts/get" (some (PromptFill.codec.toJson { name, arguments }))

def setLevel [Link τ] (level : LogLevel) : Talk τ κ Unit := do
  let _ ← request "logging/setLevel" (some (LevelSetting.codec.toJson { level }))

def onLog (label : κ) : Talk τ κ Unit :=
  modify fun c => { c with router := c.router.onLog label }

def onProgress (token : ProgressToken) (l : Listener κ) : Talk τ κ Unit :=
  modify fun c => { c with router := c.router.register token l }

def offProgress (token : ProgressToken) : Talk τ κ Bool := do
  let c ← get
  let (removed, router) := c.router.unregister token
  set { c with router }
  pure removed

def closeLink [Link τ] : Talk τ κ Unit := do
  let c ← get
  let (outcome, link) := Link.close c.link
  set { c with link }
  match outcome with
  | .error fault => throw (.transport fault)
  | .ok () => pure ()

/-- Closes the client and its transport, once. -/
def close [Link τ] : Talk τ κ Unit := do
  if (← get).closed then return ()
  modify fun c => { c with closed := true }
  closeLink

end Talk

end ReleaseDesk.Client
