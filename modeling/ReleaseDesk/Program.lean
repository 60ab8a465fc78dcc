import ReleaseDesk.Release.Server
import ReleaseDesk.Stream.Server

/-! The program: a release server without a backend on the standard streams, configured from the
environment. -/

namespace ReleaseDesk.Program

open ReleaseDesk.Release ReleaseDesk.Service ReleaseDesk.Stream

instance : Adapter Empty := ⟨fun _ _ _ a => a.elim⟩

instance : Plugin.Manager Empty := ⟨fun m => m.elim, fun _ m => m.elim, fun _ _ m => m.elim⟩

abbrev World := Backend Empty Empty

def server (config : Config) (supply : Supply) : Except ConfigFault (Server World) :=
  assemble (some config) {} supply

/-- The output and the exit code of the program. -/
structure Result where
  code : Nat := 0
  output : String := ""
  complaint : String := ""

namespace Result

def ofFault (fault : ConfigFault) : Result where
  code := 1
  complaint := "Error: " ++ (Failure.config fault).message ++ "\n\nCaused by:\n    " ++
    "\n    ".intercalate (fault.message.splitOn "\n") ++ "\n"

def ofFailure (failure : Failure) : Result where
  code := 1
  complaint := "Error: " ++ failure.message ++ "\n"

def ofOutcome : Option (Except Failure Unit) → Result
  | some (.error failure) => ofFailure failure
  | _ => {}

end Result

def noNetwork : Failure := .transport (.http "there is no network to listen on")

def start (env : String → Option String) (supply : Supply) : Except Result (Run World) := do
  let config ← (Config.ofEnvironment env).mapError .ofFault
  let server ← (server config supply).mapError .ofFault
  match config.transport with
  | .stdio => pure (Run.idle server).resume
  | .http => throw (.ofFailure noNetwork)

def run (env : String → Option String) (supply : Supply) (input : List UInt8) : Result :=
  match start env supply with
  | .error result => result
  | .ok r =>
    let (output, r) := (r.deliver (signals input)).finish.take
    { Result.ofOutcome r.session.outcome with output }

end ReleaseDesk.Program
