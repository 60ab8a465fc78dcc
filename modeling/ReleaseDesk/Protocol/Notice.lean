import ReleaseDesk.Rpc.Envelope
import ReleaseDesk.Text.Lowercase
import ReleaseDesk.Wire.Choice
import ReleaseDesk.Wire.Codec

/-! Server notifications: log messages, whose levels are ordered by severity, and progress reports.
-/

namespace ReleaseDesk.Protocol

open ReleaseDesk.Wire ReleaseDesk.Text

inductive LogLevel
  | debug
  | info
  | warning
  | error
deriving DecidableEq, Repr

namespace LogLevel

def all : List LogLevel := [debug, info, warning, error]

def severity : LogLevel → Nat
  | debug => 0
  | info => 1
  | warning => 2
  | error => 3

def name : LogLevel → String
  | debug => "debug"
  | info => "info"
  | warning => "warning"
  | error => "error"

def choice : Choice LogLevel := ⟨all, name⟩

/-- The level named by a text, up to case. `warn` is an alias. -/
def parse? (s : String) : Option LogLevel :=
  let s := lowercase s
  if s = "warn" then some warning else choice.ofName? s

/-- A message of level `l` passes a filter at level `least`. -/
def passes (l least : LogLevel) : Bool := least.severity ≤ l.severity

end LogLevel

structure LogMessage where
  level : LogLevel
  logger : Option String := none
  data : Json

def LogMessage.record : Record LogMessage where
  title := "struct LogMessageParams"
  fields := LogMessage.mk
    <$> required "level" LogLevel.choice.codec (·.level)
    <*> optional "logger" .string (·.logger)
    <*> required "data" .json (·.data)

def LogMessage.codec : Codec LogMessage := record.codec

structure LevelSetting where
  level : LogLevel
deriving DecidableEq

def LevelSetting.record : Record LevelSetting where
  title := "struct SetLevelParams"
  fields := LevelSetting.mk <$> required "level" LogLevel.choice.codec (·.level)

def LevelSetting.codec : Codec LevelSetting := record.codec

/-- The token of a progress sequence. -/
inductive ProgressToken
  | string (value : String)
  | number (value : Int)
deriving DecidableEq

namespace ProgressToken

def codec : Codec ProgressToken where
  read _ := Codec.readAside <| Codec.readFirst "ProgressToken" [
    fun d => (Codec.string.read .aside d).map string,
    fun d => (Codec.long.read .aside d).map number]
  write
    | string s => .string s
    | number n => .integer n

def text : ProgressToken → String
  | string s => s
  | number n => String.ofList (intNumeral n)

end ProgressToken

inductive ProgressKind
  | begin
  | report
  | finish
deriving DecidableEq

def ProgressKind.choice : Choice ProgressKind where
  values := [.begin, .report, .finish]
  name
    | .begin => "begin"
    | .report => "report"
    | .finish => "end"

structure Progress where
  token : ProgressToken
  kind : ProgressKind
  done : Nat
  total : Option Nat := none
  percentage : Binary64
  message : Option String := none
deriving DecidableEq

def Progress.record : Record Progress where
  title := "struct ProgressParams"
  fields := Progress.mk
    <$> required "progressToken" ProgressToken.codec (·.token)
    <*> required "kind" ProgressKind.choice.codec (·.kind)
    <*> required "progress" .word (·.done)
    <*> optional "total" .word (·.total)
    <*> required "percentage" .real (·.percentage)
    <*> optional "message" .string (·.message)

def Progress.codec : Codec Progress := record.codec

def progressMethod : String := "notifications/progress"

def messageMethod : String := "notifications/message"

def Progress.notification (p : Progress) : Rpc.Notification :=
  { method := progressMethod, params := some (codec.toJson p) }

def LogMessage.notification (m : LogMessage) : Rpc.Notification :=
  { method := messageMethod, params := some (codec.toJson m) }

end ReleaseDesk.Protocol
