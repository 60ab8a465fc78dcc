import ReleaseDesk.Service.Scene

/-! Scripts of progress and log operations, for handlers that are given as data. A script refers to
its progress sequences by their number. -/

namespace ReleaseDesk.Service

open ReleaseDesk.Protocol

/-- The operations of a scripted handler. Progress is referred to by the index of its start. -/
inductive Act
  | log (level : LogLevel) (text : String) (data : Option Json)
  | start (total : Nat) (message : String)
  | update (piece done : Nat) (message : String)
  | complete (piece : Nat) (message : String)

/-- Runs an operation, given the tokens of the progress sequences begun so far. -/
def Act.perform (c : Context) (begun : List ProgressToken) : Act → Action ω (List ProgressToken)
  | log level text data => do
    Action.log c level text data
    pure begun
  | start total message => do
    let token ← Action.startProgress total message
    pure (begun ++ [token])
  | update piece done message => do
    if let some token := begun[piece]? then Action.updateProgress token done message
    pure begun
  | complete piece message => do
    if let some token := begun[piece]? then Action.completeProgress token message
    pure begun

def perform (c : Context) (script : List Act) : Action ω Unit := do
  let _ ← script.foldlM (Act.perform c) []

end ReleaseDesk.Service
