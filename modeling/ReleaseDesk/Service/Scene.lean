import ReleaseDesk.Failure
import ReleaseDesk.Protocol.Notice
import ReleaseDesk.Timestamp

/-! Handler actions. A handler runs in a state monad over its own world, the supply of time and
identifiers, the log filter, the progress tracker, and the notifications sent so far. The tracker
holds the progress sequences that have begun and not ended; operations on other tokens have no
effect. -/

namespace ReleaseDesk.Service

open ReleaseDesk.Protocol

/-! ### Progress -/

/-- `done / total` in percent, at most 100. It is 100 if `total` is zero. -/
def percentage (done total : Nat) : Binary64 :=
  if total = 0 then .hundred
  else .atMost .hundred <| Binary64.mulRank
    (Binary64.divRank (Binary64.nearest done 1) (Binary64.nearest total 1)) Binary64.hundred.rank

/-- The active progress sequences, with their totals. -/
structure Tracker where
  active : List (ProgressToken × Nat) := []

namespace Tracker

def total? (t : Tracker) (token : ProgressToken) : Option Nat :=
  (t.active.find? (·.1 = token)).map (·.2)

def isActive (t : Tracker) (token : ProgressToken) : Bool := (t.total? token).isSome

def count (t : Tracker) : Nat := t.active.length

def drop (t : Tracker) (token : ProgressToken) : Tracker :=
  { active := t.active.filter (·.1 ≠ token) }

def start (t : Tracker) (token : ProgressToken) (total : Nat) (message : String) :
    Progress × Tracker :=
  ({ token, kind := .begin, done := 0, total := some total, percentage := .zero
     message := some message },
    { active := (token, total) :: (t.drop token).active })

/-- The report of an update, if the token is active. -/
def update (t : Tracker) (token : ProgressToken) (done : Nat) (message : String) :
    Option Progress :=
  (t.total? token).map fun total =>
    { token, kind := .report, done, total := some total, percentage := percentage done total
      message := some message }

/-- The final report, if the token is active, and the tracker without the token. -/
def complete (t : Tracker) (token : ProgressToken) (message : String) :
    Option Progress × Tracker :=
  ((t.total? token).map fun total =>
    { token, kind := .finish, done := total, total := some total, percentage := .hundred
      message := some message },
    t.drop token)

end Tracker

/-! ### Actions -/

open ReleaseDesk.Protocol

/-- The state of a handler action. The notifications are in the order sent. -/
structure Scene (ω : Type) where
  world : ω
  supply : Supply
  level : LogLevel := .info
  tracker : Tracker := {}
  sent : List Rpc.Notification := []

abbrev Action (ω α : Type) := StateM (Scene ω) α

/-- The request that a handler serves, and the name of its logger. -/
structure Context where
  requestId : Option Rpc.RequestId := none
  method : String := ""
  logger : Option String := none

def logMessage (logger : Option String) (level : LogLevel) (text : String) (data : Option Json) :
    LogMessage :=
  { level, logger
    data := .object (("message", .string text) :: (data.map fun d => ("data", d)).toList) }

namespace Action

/-- Runs an action with no notifications sent, and returns those that it sends. -/
def observed (action : Action ω α) : Action ω (α × List Rpc.Notification) := do
  modify fun s => { s with sent := [] }
  let a ← action
  let s ← get
  set { s with sent := [] }
  pure (a, s.sent)

def send (n : Rpc.Notification) : Action ω Unit :=
  modify fun s => { s with sent := s.sent ++ [n] }

/-- Sends a log message if its level passes the filter. -/
def log (c : Context) (level : LogLevel) (text : String) (data : Option Json := none) :
    Action ω Unit := do
  if level.passes (← get).level then send (logMessage c.logger level text data).notification

/-- Begins a progress sequence with a fresh token. -/
def startProgress (total : Nat) (message : String) : Action ω ProgressToken := do
  let s ← get
  let token := ProgressToken.string s.supply.fresh
  let (report, tracker) := s.tracker.start token total message
  set { s with tracker, supply := s.supply.taken }
  send report.notification
  pure token

def updateProgress (token : ProgressToken) (done : Nat) (message : String) : Action ω Unit := do
  match (← get).tracker.update token done message with
  | some report => send report.notification
  | none => pure ()

def completeProgress (token : ProgressToken) (message : String) : Action ω Unit := do
  let s ← get
  let (report, tracker) := s.tracker.complete token message
  set { s with tracker }
  match report with
  | some report => send report.notification
  | none => pure ()

end Action

end ReleaseDesk.Service
