import ReleaseDesk.Rpc.Envelope

/-! Errors of servers and of transports. Errors of calls are sent to the client as responses; all
others end a session, prevent a server from being set up, or are the outcome of a handler. -/

namespace ReleaseDesk

/-- The errors of a transport. -/
inductive TransportFault
  | closed
  | disconnected
  | stream (detail : String)
  | json (detail : String)
  | status (code : Nat)
  | http (detail : String)
deriving DecidableEq

def TransportFault.message : TransportFault → String
  | closed => "transport closed"
  | disconnected => "connection closed by peer"
  | stream detail => "IO error: " ++ detail
  | json detail => "JSON error: " ++ detail
  | status code => "HTTP status " ++ toString code
  | http detail => "HTTP error: " ++ detail

/-- The errors of a handler. -/
inductive HandlerFault
  | notFound (detail : String)
  | invalidArguments (detail : String)
  | executionFailed (detail : String)
  | missingArgument (name : String)
deriving DecidableEq

def HandlerFault.message : HandlerFault → String
  | notFound detail => "Handler not found: " ++ detail
  | invalidArguments detail => "Invalid arguments: " ++ detail
  | executionFailed detail => "Execution failed: " ++ detail
  | missingArgument name => "Missing required argument: " ++ name

/-- The errors of a configuration. -/
inductive ConfigFault
  | missingField (name : String)
  | invalidValue (field message : String)
deriving DecidableEq

def ConfigFault.message : ConfigFault → String
  | missingField name => "Missing required field: " ++ name
  | invalidValue field message => "Invalid value for " ++ field ++ ": " ++ message

inductive Failure
  | protocol (fault : Rpc.Fault)
  | transport (fault : TransportFault)
  | handler (fault : HandlerFault)
  | config (fault : ConfigFault)
  | stream (detail : String)
  | json (detail : String)
  | internal (detail : String)
deriving DecidableEq

namespace Failure

def message : Failure → String
  | protocol fault => "Protocol error: " ++ fault.message
  | transport fault => "Transport error: " ++ fault.message
  | handler fault => "Handler error: " ++ fault.message
  | config fault => "Configuration error: " ++ fault.message
  | stream detail => "IO error: " ++ detail
  | json detail => "JSON error: " ++ detail
  | internal detail => "Internal error: " ++ detail

def isClosed (f : Failure) : Bool := f = transport .closed

end Failure

end ReleaseDesk
