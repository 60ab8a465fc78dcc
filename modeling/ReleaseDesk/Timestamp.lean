import ReleaseDesk.Text.Scan

/-! Timestamps in UTC with nanoseconds, and supplies of timestamps and identifiers. A leap second is
second 59 with at least `10 ^ 9` nanoseconds. The text of a timestamp is the date, `T`, the time
with groups of three fraction digits as needed, and `Z`; the parser also accepts white space between
the parts, a space for `T`, lowercase letters, and offsets. Identifiers are UUIDs of version 4. -/

namespace ReleaseDesk

open ReleaseDesk.Text

def isLeapYear (year : Int) : Bool := year % 4 = 0 && (year % 100 ≠ 0 || year % 400 = 0)

def daysIn (year : Int) (month : Nat) : Nat :=
  if month = 2 then if isLeapYear year then 29 else 28
  else if month = 4 || month = 6 || month = 9 || month = 11 then 30 else 31

def firstYear : Int := -262143

def lastYear : Int := 262142

/-- A date of the proleptic Gregorian calendar. -/
structure Date where
  year : Int
  month : Nat
  day : Nat
  year_range : firstYear ≤ year ∧ year ≤ lastYear
  month_range : 1 ≤ month ∧ month ≤ 12
  day_range : 1 ≤ day ∧ day ≤ daysIn year month
deriving DecidableEq

namespace Date

def ofParts? (year : Int) (month day : Nat) : Option Date :=
  if hy : firstYear ≤ year ∧ year ≤ lastYear then
    if hm : 1 ≤ month ∧ month ≤ 12 then
      if hd : 1 ≤ day ∧ day ≤ daysIn year month then some ⟨year, month, day, hy, hm, hd⟩ else none
    else none
  else none

def next? (d : Date) : Option Date :=
  if d.day < daysIn d.year d.month then ofParts? d.year d.month (d.day + 1)
  else if d.month < 12 then ofParts? d.year (d.month + 1) 1
  else ofParts? (d.year + 1) 1 1

def previous? (d : Date) : Option Date :=
  if 1 < d.day then ofParts? d.year d.month (d.day - 1)
  else if 1 < d.month then ofParts? d.year (d.month - 1) (daysIn d.year (d.month - 1))
  else ofParts? (d.year - 1) 12 31

/-- Four digits, with a sign if there are more or the year is negative. -/
def yearChars (year : Int) : List Char :=
  if 0 ≤ year ∧ year ≤ 9999 then paddedNumeral 4 year.natAbs
  else (if year < 0 then '-' else '+') :: paddedNumeral 4 year.natAbs

def chars (d : Date) : List Char :=
  yearChars d.year ++ '-' :: (paddedNumeral 2 d.month ++ '-' :: paddedNumeral 2 d.day)

end Date

def minutesPerDay : Nat := 1440

def nanosPerSecond : Nat := 1000000000

/-- A point in time in UTC. A leap second is a nanosecond part of at least `10 ^ 9`. -/
structure Timestamp where
  date : Date
  minute : Nat
  second : Nat
  nano : Nat
  minute_lt : minute < minutesPerDay
  second_lt : second < 60
  nano_lt : nano < nanosPerSecond ∨ second = 59 ∧ nano < 2 * nanosPerSecond
deriving DecidableEq

namespace Timestamp

def ofParts? (date : Date) (minute second nano : Nat) : Option Timestamp :=
  if hm : minute < minutesPerDay then
    if hs : second < 60 then
      if hn : nano < nanosPerSecond ∨ second = 59 ∧ nano < 2 * nanosPerSecond then
        some ⟨date, minute, second, nano, hm, hs, hn⟩
      else none
    else none
  else none

/-- The fraction of a second: none, or three, six or nine digits. -/
def fractionChars (nano : Nat) : List Char :=
  if nano = 0 then []
  else if nano % 1000000 = 0 then '.' :: paddedNumeral 3 (nano / 1000000)
  else if nano % 1000 = 0 then '.' :: paddedNumeral 6 (nano / 1000)
  else '.' :: paddedNumeral 9 nano

/-- A leap second is written as second 60. -/
def chars (t : Timestamp) : List Char :=
  let leap := nanosPerSecond ≤ t.nano
  let second := if leap then t.second + 1 else t.second
  let nano := if leap then t.nano - nanosPerSecond else t.nano
  t.date.chars ++ 'T' :: (paddedNumeral 2 (t.minute / 60) ++ ':' ::
    (paddedNumeral 2 (t.minute % 60) ++ ':' ::
      (paddedNumeral 2 second ++ (fractionChars nano ++ ['Z']))))

def text (t : Timestamp) : String := String.ofList t.chars

def epoch : Timestamp :=
  { date := ⟨1970, 1, 1, by decide, by decide, by decide⟩, minute := 0, second := 0, nano := 0
    minute_lt := by decide, second_lt := by decide, nano_lt := by decide }

end Timestamp

end ReleaseDesk

/-! ### Parsing -/

namespace ReleaseDesk.Timestamp

open ReleaseDesk.Text

inductive Fault
  | outOfRange
  | impossible
  | invalid
  | tooShort
  | tooLong
deriving DecidableEq, Repr

def Fault.message : Fault → String
  | .outOfRange => "input is out of range"
  | .impossible => "no possible date and time matching input"
  | .invalid => "input contains invalid characters"
  | .tooShort => "premature end of input"
  | .tooLong => "trailing input"

/-- One digit, then at most `more` others. -/
def readDigits (more : Nat) : List Char → Except Fault (Nat × List Char)
  | [] => .error .tooShort
  | c :: cs =>
    if isDigit c then
      let ds := (cs.take more).takeWhile isDigit
      .ok (numeralValue (c :: ds), cs.drop ds.length)
    else .error .invalid

def readAllDigits (cs : List Char) : Except Fault (Nat × List Char) := readDigits cs.length cs

/-- A number of at most two digits within bounds, after white space. -/
def readWithin (low high : Nat) (cs : List Char) : Except Fault (Nat × List Char) := do
  let (n, rest) ← readDigits 1 (trimStart cs)
  if low ≤ n && n ≤ high then pure (n, rest) else .error .outOfRange

def readMark (mark : Char) : List Char → Except Fault (Unit × List Char)
  | [] => .error .tooShort
  | c :: rest => if c = mark then .ok ((), rest) else .error .invalid

/-- A year of at most four digits, or of any number of digits after a sign. -/
def readYear (cs : List Char) : Except Fault (Int × List Char) := do
  let (year, rest) ← match trimStart cs with
    | '-' :: rest => do
      let (n, rest) ← readAllDigits rest
      pure (-(n : Int), rest)
    | '+' :: rest => do
      let (n, rest) ← readAllDigits rest
      pure ((n : Int), rest)
    | rest => do
      let (n, rest) ← readDigits 3 rest
      pure ((n : Int), rest)
  if -0x80000000 ≤ year && year < 0x80000000 then pure (year, rest) else .error .outOfRange

/-- The fraction of a second in nanoseconds. Digits after the ninth are ignored. -/
def readFraction : List Char → Except Fault (Nat × List Char)
  | '.' :: cs => do
    let (n, rest) ← readDigits 8 cs
    let used := cs.length - rest.length
    pure (n * Nat.pow 10 (9 - used), rest.dropWhile isDigit)
  | cs => .ok (0, cs)

def readOffsetHours : List Char → Except Fault (Nat × List Char)
  | a :: b :: rest =>
    if isDigit a && isDigit b then .ok (digitValue a * 10 + digitValue b, rest)
    else .error .invalid
  | [c] => if c.toNat < 0x80 then .error .tooShort else .error .invalid
  | [] => .error .tooShort

def readOffsetMinutes (cs : List Char) : Except Fault (Nat × List Char) := do
  let (n, rest) ← readOffsetHours cs
  if n < 60 then pure (n, rest) else .error .outOfRange

def smallLetter (c : Char) : Char :=
  if 65 ≤ c.toNat && c.toNat ≤ 90 then Char.ofNat (c.toNat + 32) else c

/-- The offset from UTC in minutes. -/
def readZone (cs : List Char) : Except Fault (Int × List Char) :=
  if (cs.take 3).map smallLetter = ['u', 't', 'c'] then .ok (0, cs.drop 3)
  else match cs with
    | [] => .error .tooShort
    | c :: rest =>
      if c = 'Z' || c = 'z' then .ok (0, rest)
      else if c = '+' || c = '-' || c = '−' then do
        let (hours, rest) ← readOffsetHours rest
        let (minutes, rest) ← readOffsetMinutes (rest.dropWhile (fun c => c = ':' || isBlank c))
        let offset : Int := hours * 60 + minutes
        pure (if c = '+' then offset else -offset, rest)
      else .error .invalid

/-- The fields of a timestamp as parsed, before they are checked. -/
structure Parts where
  year : Int
  month : Nat
  day : Nat
  hour : Nat
  minute : Nat
  second : Nat
  nano : Nat
  offset : Int

def readParts (cs : List Char) : Except Fault (Parts × List Char) := do
  let (year, cs) ← readYear cs
  let ((), cs) ← readMark '-' (trimStart cs)
  let (month, cs) ← readWithin 1 12 cs
  let ((), cs) ← readMark '-' (trimStart cs)
  let (day, cs) ← readWithin 1 31 cs
  let cs ← match cs with
    | [] => .error .tooShort
    | c :: rest => if c = 't' || c = 'T' || c = ' ' then .ok rest else .error .invalid
  let (hour, cs) ← readWithin 0 23 cs
  let ((), cs) ← readMark ':' (trimStart cs)
  let (minute, cs) ← readWithin 0 59 cs
  let ((), cs) ← readMark ':' (trimStart cs)
  let (second, cs) ← readWithin 0 60 cs
  let (nano, cs) ← readFraction cs
  let (offset, cs) ← readZone (trimStart cs)
  pure ({ year, month, day, hour, minute, second, nano, offset }, cs)

/-- The timestamp at a number of minutes from the start of a date, which may fall on an adjacent
date. -/
def onDay (date : Date) (minute : Int) (second nano : Nat) : Option Timestamp :=
  if minute < 0 then do
    let date ← date.previous?
    ofParts? date (minute + minutesPerDay).toNat second nano
  else if minute < minutesPerDay then ofParts? date minute.toNat second nano
  else do
    let date ← date.next?
    ofParts? date (minute - minutesPerDay).toNat second nano

def Parts.timestamp (p : Parts) : Except Fault Timestamp := do
  let some date := Date.ofParts? p.year p.month p.day | .error .outOfRange
  if p.offset.natAbs < minutesPerDay then
    let second := if p.second = 60 then 59 else p.second
    let nano := if p.second = 60 then p.nano + nanosPerSecond else p.nano
    match onDay date ((p.hour * 60 + p.minute : Nat) - p.offset) second nano with
    | some t => .ok t
    | none => .error .impossible
  else .error .outOfRange

def read (s : String) : Except Fault Timestamp := do
  let (parts, rest) ← readParts s.toList
  if rest.all isBlank then parts.timestamp else .error .tooLong

end ReleaseDesk.Timestamp

/-! ### Supplies -/

namespace ReleaseDesk

def hexPadded (width n : Nat) : List Char :=
  let ds := Nat.toDigits 16 n
  List.replicate (width - ds.length) '0' ++ ds

/-- The canonical text of a version 4 UUID with 122 random bits. -/
def identifierChars (n : Nat) : List Char :=
  hexPadded 8 (n >>> 90 % 0x100000000) ++ '-' :: (hexPadded 4 (n >>> 74 % 0x10000) ++ '-' :: '4' ::
    (hexPadded 3 (n >>> 62 % 0x1000) ++ '-' :: (hexPadded 1 (8 + n >>> 60 % 4) ++
      (hexPadded 3 (n >>> 48 % 0x1000) ++ '-' :: hexPadded 12 (n % 0x1000000000000)))))

def identifier (n : Nat) : String := String.ofList (identifierChars n)

/-- The current time and the number of the next identifier. -/
structure Supply where
  now : Timestamp
  next : Nat

namespace Supply

def fresh (s : Supply) : String := identifier s.next

def taken (s : Supply) : Supply := { s with next := s.next + 1 }

end Supply

end ReleaseDesk
