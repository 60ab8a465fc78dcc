import ReleaseDesk.Text.Scan

/-! Socket addresses: an IPv4 address with a port, or an IPv6 address with a scope and a port. The
text of an IPv6 address compresses the first longest run of at least two zero groups and writes an
embedded IPv4 address as such; the parser accepts all their usual forms. -/

namespace ReleaseDesk

open ReleaseDesk.Text

/-- An IPv4 or IPv6 address with its port. -/
inductive SocketAddress
  | v4 (a b c d : UInt8) (port : UInt16)
  | v6 (groups : Vector UInt16 8) (scope : UInt32) (port : UInt16)
deriving DecidableEq

namespace SocketAddress

def octetChars (a b c d : Nat) : List Char :=
  numeral a ++ '.' :: (numeral b ++ '.' :: (numeral c ++ '.' :: numeral d))

def groupChars : List Nat → List Char
  | [] => []
  | [g] => Nat.toDigits 16 g
  | g :: gs => Nat.toDigits 16 g ++ ':' :: groupChars gs

def leadingZeros (groups : List Nat) : Nat := (groups.takeWhile (· = 0)).length

/-- The position and the length of the first longest run of zero groups. -/
def zeroRun (groups : List Nat) : Nat × Nat :=
  (List.range groups.length).foldl
    (fun best i =>
      let here := leadingZeros (groups.drop i)
      if best.2 < here then (i, here) else best)
    (0, 0)

def groupsText : List Nat → List Char
  | [0, 0, 0, 0, 0, 0xFFFF, g, h] =>
    "::ffff:".toList ++ octetChars (g / 256) (g % 256) (h / 256) (h % 256)
  | groups =>
    let (start, length) := zeroRun groups
    if 1 < length then
      groupChars (groups.take start) ++ ':' :: ':' :: groupChars (groups.drop (start + length))
    else groupChars groups

def chars : SocketAddress → List Char
  | v4 a b c d port =>
    octetChars a.toNat b.toNat c.toNat d.toNat ++ ':' :: numeral port.toNat
  | v6 groups scope port =>
    '[' :: (groupsText (groups.toList.map UInt16.toNat) ++
      ((if scope = 0 then [] else '%' :: numeral scope.toNat) ++ ']' :: ':' :: numeral port.toNat))

def text (a : SocketAddress) : String := String.ofList a.chars

end SocketAddress

end ReleaseDesk

/-! ### Parsing -/

namespace ReleaseDesk.SocketAddress

open ReleaseDesk.Text

def digit? (c : Char) : Option Nat :=
  let n := c.toNat
  if 48 ≤ n && n ≤ 57 then some (n - 48)
  else if 97 ≤ n && n ≤ 102 then some (n - 87)
  else if 65 ≤ n && n ≤ 70 then some (n - 55)
  else none

def isDigitIn (base : Nat) (c : Char) : Bool :=
  match digit? c with
  | some n => n < base
  | none => false

/-- A numeral in a base, of any length, with a value below a bound. -/
def readNumber (base bound : Nat) (cs : List Char) : Option (Nat × List Char) :=
  match cs.takeWhile (isDigitIn base) with
  | [] => none
  | ds =>
    let n := ds.foldl (fun n c => n * base + (digit? c).getD 0) 0
    if n < bound then some (n, cs.dropWhile (isDigitIn base)) else none

/-- An octet: at most three digits, without leading zeros. -/
def readOctet (cs : List Char) : Option (Nat × List Char) :=
  match cs.takeWhile isDigit with
  | '0' :: _ :: _ => none
  | ds => if ds.length ≤ 3 then readNumber 10 256 cs else none

/-- A group: at most four hexadecimal digits. -/
def readGroup (cs : List Char) : Option (Nat × List Char) :=
  if (cs.takeWhile (isDigitIn 16)).length ≤ 4 then readNumber 16 65536 cs else none

def readMark (mark : Char) : List Char → Option (List Char)
  | c :: rest => if c = mark then some rest else none
  | [] => none

def readOctets (cs : List Char) : Option ((Nat × Nat × Nat × Nat) × List Char) := do
  let (a, cs) ← readOctet cs
  let (b, cs) ← readMark '.' cs >>= readOctet
  let (c, cs) ← readMark '.' cs >>= readOctet
  let (d, cs) ← readMark '.' cs >>= readOctet
  pure ((a, b, c, d), cs)

def readSeparator (first : Bool) (cs : List Char) : Option (List Char) :=
  if first then some cs else readMark ':' cs

/-- At most `limit` groups, the last two of which may be written as an IPv4 address, which the
Boolean reports. -/
def readGroups : (limit : Nat) → (first : Bool) → List Char → List Nat × Bool × List Char
  | 0, _, cs => ([], false, cs)
  | limit + 1, first, cs =>
    let short := if 0 < limit then readSeparator first cs >>= readOctets else none
    match short with
    | some ((a, b, c, d), rest) => ([a * 256 + b, c * 256 + d], true, rest)
    | none =>
      match readSeparator first cs >>= readGroup with
      | none => ([], false, cs)
      | some (g, rest) =>
        let (gs, octets, rest) := readGroups limit false rest
        (g :: gs, octets, rest)

/-- Eight groups, with a run of zero groups compressed to `::`. -/
def readEight (cs : List Char) : Option (List Nat × List Char) :=
  let (head, octets, rest) := readGroups 8 true cs
  if head.length = 8 then some (head, rest)
  else if octets then none
  else do
    let rest ← readMark ':' rest >>= readMark ':'
    let (tail, _, rest) := readGroups (7 - head.length) true rest
    pure (head ++ List.replicate (8 - head.length - tail.length) 0 ++ tail, rest)

def readPort (cs : List Char) : Option (Nat × List Char) := readMark ':' cs >>= readNumber 10 65536

def readScope (cs : List Char) : Nat × List Char :=
  match readMark '%' cs >>= readNumber 10 0x100000000 with
  | some (n, rest) => (n, rest)
  | none => (0, cs)

def readShort (cs : List Char) : Option (SocketAddress × List Char) := do
  let ((a, b, c, d), cs) ← readOctets cs
  let (port, cs) ← readPort cs
  pure (v4 (.ofNat a) (.ofNat b) (.ofNat c) (.ofNat d) (.ofNat port), cs)

def readLong (cs : List Char) : Option (SocketAddress × List Char) := do
  let cs ← readMark '[' cs
  let (groups, cs) ← readEight cs
  let (scope, cs) := readScope cs
  let cs ← readMark ']' cs
  let (port, cs) ← readPort cs
  if h : groups.length = 8 then
    let words : Vector UInt16 8 := ⟨(groups.map UInt16.ofNat).toArray, by simp [h]⟩
    pure (v6 words (.ofNat scope) (.ofNat port), cs)
  else none

def read? (s : String) : Option SocketAddress :=
  match readShort s.toList <|> readLong s.toList with
  | some (a, []) => some a
  | _ => none

end ReleaseDesk.SocketAddress
