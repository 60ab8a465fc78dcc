import ReleaseDesk.Failure
import ReleaseDesk.Text.Encoding
import ReleaseDesk.Text.Scan
import ReleaseDesk.Wire.Codec

/-! Byte streams. The reading side splits a stream into lines, the last of which may lack its line
feed; a read error discards the partial line before it. The writing side buffers a line and flushes
it at once. What cannot be written stays in the buffer and precedes later writes, and a line that
exceeds the buffer bypasses it. Closing flushes the buffer; a broken pipe is then no error. -/

namespace ReleaseDesk.Stream

open ReleaseDesk.Text

/-! ### Lines -/

/-- An event of the reading side: an octet, or a read error. -/
inductive Signal
  | octet (b : UInt8)
  | failure (detail : String)
deriving DecidableEq

def signals (bytes : List UInt8) : List Signal := bytes.map .octet

/-- The result of reading a line. -/
inductive Line
  | octets (bytes : List UInt8)
  | failed (detail : String)
  | ended
deriving DecidableEq

def lineFeed : UInt8 := 10

/-- The next line or read error, and the rest of the stream. The accumulator `taken` is the partial
line, reversed. There is none if the line is incomplete and the stream has not ended. -/
def lineFrom? (ended : Bool) (taken : List UInt8) : List Signal → Option (Line × List Signal)
  | [] =>
    if ended then some (if taken = [] then .ended else .octets taken.reverse, []) else none
  | .failure detail :: rest => some (.failed detail, rest)
  | .octet b :: rest =>
    if b = lineFeed then some (.octets (b :: taken).reverse, rest)
    else lineFrom? ended (b :: taken) rest

def line? (ended : Bool) (incoming : List Signal) : Option (Line × List Signal) :=
  lineFrom? ended [] incoming

/-- The text of a line without surrounding white space. -/
def lineText (bytes : List UInt8) : Except Utf8.Fault String :=
  (Utf8.decode bytes).map fun cs => String.ofList (trim cs)

/-! ### Pipes -/

/-- An error of the operating system in a write. -/
structure WriteFault where
  detail : String
  peerGone : Bool := false
deriving DecidableEq

def bufferSize : Nat := 8192

/-- The writing side of a stream. The faults are those of writing and of shutting down, if any. -/
structure Pipe where
  closed : Bool := false
  buffer : String := ""
  written : String := ""
  shut : Bool := false
  writeFault : Option WriteFault := none
  shutFault : Option WriteFault := none

namespace Pipe

/-- Writes without buffering. -/
def put (p : Pipe) (s : String) : Except WriteFault Unit × Pipe :=
  match p.writeFault with
  | some fault => (.error fault, p)
  | none => (.ok (), { p with written := p.written ++ s })

def flush (p : Pipe) : Except WriteFault Unit × Pipe :=
  if p.buffer = "" then (.ok (), p)
  else match p.put p.buffer with
    | (.ok (), p) => (.ok (), { p with buffer := "" })
    | (.error fault, p) => (.error fault, p)

/-- Appends to the buffer, after a flush if the text does not fit. -/
def store (p : Pipe) (s : String) : Except WriteFault Unit × Pipe :=
  let (outcome, p) :=
    if bufferSize < p.buffer.utf8ByteSize + s.utf8ByteSize then p.flush else (.ok (), p)
  match outcome with
  | .error fault => (.error fault, p)
  | .ok () =>
    if bufferSize ≤ s.utf8ByteSize then p.put s
    else (.ok (), { p with buffer := p.buffer ++ s })

/-- Buffers and flushes a line. -/
def writeLine (p : Pipe) (s : String) : Except TransportFault Unit × Pipe :=
  if p.closed then (.error .closed, p)
  else match p.store (s ++ "\n") with
    | (.error fault, p) => (.error (.stream fault.detail), p)
    | (.ok (), p) =>
      match p.flush with
      | (.error fault, p) => (.error (.stream fault.detail), p)
      | (.ok (), p) => (.ok (), p)

def shutDown (p : Pipe) : Except WriteFault Unit × Pipe :=
  match p.flush with
  | (.error fault, p) => (.error fault, p)
  | (.ok (), p) =>
    (match p.shutFault with
      | some fault => .error fault
      | none => .ok (), { p with shut := true })

/-- Flushes and shuts down the stream, once. -/
def close (p : Pipe) : Except TransportFault Unit × Pipe :=
  if p.closed then (.ok (), p)
  else match shutDown { p with closed := true } with
    | (.ok (), p) => (.ok (), p)
    | (.error fault, p) =>
      (if fault.peerGone then .ok () else .error (.stream fault.detail), p)

/-- Writes the JSON text of a value on a line. -/
def write (p : Pipe) (c : Wire.Codec α) (a : α) : Except TransportFault Unit × Pipe :=
  p.writeLine (c.render a)

/-- Removes and returns the text written. -/
def take (p : Pipe) : String × Pipe := (p.written, { p with written := "" })

end Pipe

/-! ### Channels -/

/-- The writing side of one stream, and the unread part of another. -/
structure Channel where
  pipe : Pipe := {}
  incoming : List Signal := []

namespace Channel

def close (c : Channel) : Except TransportFault Unit × Channel :=
  let (outcome, pipe) := c.pipe.close
  (outcome, { c with pipe })

def write (c : Channel) (codec : Wire.Codec α) (a : α) : Except TransportFault Unit × Channel :=
  let (outcome, pipe) := c.pipe.write codec a
  (outcome, { c with pipe })

end Channel

end ReleaseDesk.Stream
