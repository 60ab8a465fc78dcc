import ReleaseDesk.Program

/-! The command line. Standard input is processed line by line. Without an adapter and a plugin
manager no handler uses the clock or the identifiers. -/

namespace ReleaseDesk.Program

open ReleaseDesk.Stream

/-- Processes lines until the input or the session ends. The accumulator `line` is the partial line,
reversed. -/
partial def serveLines (input output : IO.FS.Stream) (line : List UInt8) (r : Run World) :
    IO (Run World) := do
  let octets ← input.read 1
  let ended := octets.size = 0
  let line := octets.toList ++ line
  if ended || line.head? = some lineFeed then
    let r := r.deliver (signals line.reverse)
    let (text, r) := (if ended then r.finish else r).take
    output.putStr text
    output.flush
    if r.session.isOver then return r else serveLines input output [] r
  else serveLines input output line r

def leave (result : Result) : IO UInt32 := do
  (← IO.getStderr).putStr result.complaint
  return result.code.toUInt32

def runOnConsole : IO UInt32 := do
  let values ← Config.keys.mapM fun key => return (key, ← IO.getEnv key)
  let env := fun key => (values.lookup key).join
  let supply : Supply := { now := .epoch, next := 0 }
  match start env supply with
  | .error result => leave result
  | .ok r =>
    let r ← serveLines (← IO.getStdin) (← IO.getStdout) [] r
    leave (.ofOutcome r.session.outcome)

end ReleaseDesk.Program

def main : IO UInt32 := ReleaseDesk.Program.runOnConsole
