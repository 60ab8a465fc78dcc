import ReleaseDesk.Binary64
import ReleaseDesk.Json

/-! Parsing of JSON texts, by the strict grammar. The nesting of arrays and objects is
limited to `depthLimit`. -/

namespace ReleaseDesk.Json

open ReleaseDesk.Text

def isSpace (c : Char) : Bool := c = ' ' || c = '\n' || c = '\t' || c = '\r'

def skipSpace (cs : List Char) : List Char := cs.dropWhile isSpace

/-! ### Numbers -/

/-- A number literal: the sign, the digits of the integer part and of the fraction, and the exponent
if one is given. -/
structure Literal where
  negative : Bool
  whole : List Char
  fraction : List Char
  power : Option Int

/-- The digits of an integer part, which has no leading zeros. -/
def wholeDigits? (cs : List Char) : Option (List Char × List Char) :=
  match spanDigits cs with
  | ([], _) => none
  | ('0' :: _ :: _, _) => none
  | (ds, rest) => some (ds, rest)

def fraction? : List Char → Option (List Char × List Char)
  | '.' :: cs =>
    match spanDigits cs with
    | ([], _) => none
    | (ds, rest) => some (ds, rest)
  | cs => some ([], cs)

def power? : List Char → Option (Option Int × List Char)
  | e :: cs =>
    if e = 'e' || e = 'E' then
      let (negative, cs) := match cs with
        | '-' :: cs => (true, cs)
        | '+' :: cs => (false, cs)
        | cs => (false, cs)
      match spanDigits cs with
      | ([], _) => none
      | (ds, rest) =>
        let n : Int := numeralValue ds
        some (some (if negative then -n else n), rest)
    else some (none, e :: cs)
  | [] => some (none, [])

/-- The number literal at the start of a text. -/
def literal? (cs : List Char) : Option (Literal × List Char) := do
  let (negative, cs) := match cs with
    | '-' :: cs => (true, cs)
    | cs => (false, cs)
  let (ds, cs) ← wholeDigits? cs
  let (fs, cs) ← fraction? cs
  let (power, cs) ← power? cs
  pure (⟨negative, ds, fs, power⟩, cs)

/-- The decimal of a literal. Its digits are those that fit 64 bits: an integer digit that does not
is counted in the exponent, and a fraction digit that does not is dropped with all that follow. -/
def Literal.decimal (l : Literal) : Binary64.Decimal :=
  let (n, left) := appendDigits 0 l.whole
  let (n, dropped) := appendDigits n l.fraction
  ⟨n, left.length - (l.fraction.length - dropped.length : Nat) + l.power.getD 0⟩

/-- The number of a literal, if it is in range: an integer if it has neither fraction nor exponent
and fits 64 bits, and a double otherwise. `-0` is a double. -/
def Literal.number? (l : Literal) : Option Number :=
  let n := numeralValue l.whole
  let i : Int := if l.negative then -(n : Int) else n
  if l.fraction.isEmpty && l.power.isNone && Number.least ≤ i && i < Number.bound &&
      !(l.negative && n = 0) then
    some (.integer i)
  else (Binary64.ofDecimal? l.negative l.decimal).map .real

/-! ### Strings -/

def hexValue? (c : Char) : Option Nat :=
  let n := c.toNat
  if 48 ≤ n && n ≤ 57 then some (n - 48)
  else if 97 ≤ n && n ≤ 102 then some (n - 87)
  else if 65 ≤ n && n ≤ 70 then some (n - 55)
  else none

def hex4? (a b c d : Char) : Option Nat := do
  let a ← hexValue? a
  let b ← hexValue? b
  let c ← hexValue? c
  let d ← hexValue? d
  pure (((a * 16 + b) * 16 + c) * 16 + d)

def unescape? (c : Char) : Option Char :=
  if c = '"' || c = '\\' || c = '/' then some c
  else if c = 'b' then some '\u0008'
  else if c = 'f' then some '\u000c'
  else if c = 'n' then some '\n'
  else if c = 'r' then some '\r'
  else if c = 't' then some '\t'
  else none

/-- The characters of a string read so far, reversed, or `none` after an unpaired surrogate. -/
abbrev Partial := Option (List Char)

/-- Whether the last escape of an open string was a high surrogate. -/
inductive Half
  | none
  | high (unit : Nat)

def Partial.add (read : Partial) (half : Half) (c : Char) : Partial :=
  match half with
  | .none => read.map (c :: ·)
  | .high _ => none

/-- Appends the code unit of an escape. A high surrogate is held until the next code unit. -/
def Partial.addUnit (read : Partial) (half : Half) (n : Nat) : Partial × Half :=
  match half with
  | .none =>
    if 0xD800 ≤ n && n < 0xDC00 then (read, .high n)
    else if 0xDC00 ≤ n && n < 0xE000 then (none, .none)
    else (read.map (Char.ofNat n :: ·), .none)
  | .high m =>
    if 0xDC00 ≤ n && n < 0xE000 then
      (read.map (Char.ofNat (0x10000 + (m - 0xD800) * 0x400 + (n - 0xDC00)) :: ·), .none)
    else (none, .none)

/-- Reads a string after its opening quote. The string is `none` if it has an unpaired surrogate. -/
def stringBody : Partial → Half → List Char → Option (Option String × List Char)
  | _, _, [] => none
  | read, half, '"' :: rest =>
    let read := match half with
      | .none => read
      | .high _ => none
    some (read.map (fun cs => String.ofList cs.reverse), rest)
  | read, half, '\\' :: 'u' :: a :: b :: c :: d :: rest =>
    match hex4? a b c d with
    | none => none
    | some n =>
      let (read, half) := read.addUnit half n
      stringBody read half rest
  | read, half, '\\' :: c :: rest =>
    match unescape? c with
    | none => none
    | some c => stringBody (read.add half c) .none rest
  | read, half, c :: rest =>
    if c.toNat < 0x20 || c = '\\' then none else stringBody (read.add half c) .none rest

/-! ### Values -/

def depthLimit : Nat := 127

/-- A draft and the rest of the text, which is `none` after a syntax error. -/
abbrev Reading := Draft × Option (List Char)

/-- Marks an array or object as unreadable if it is nested beyond the limit. -/
def atDepth (depth : Nat) (r : Reading) : Reading :=
  if depth ≤ depthLimit then r
  else if r.2.isSome then (.unreadable, r.2) else (.broken, none)

mutual

/-- Reads a value at a nesting depth. The fuel bounds the number of values. -/
def value : (fuel : Nat) → (depth : Nat) → List Char → Reading
  | 0, _, _ => (.broken, none)
  | fuel + 1, depth, cs =>
    match skipSpace cs with
    | 'n' :: 'u' :: 'l' :: 'l' :: rest => (.null, some rest)
    | 't' :: 'r' :: 'u' :: 'e' :: rest => (.bool true, some rest)
    | 'f' :: 'a' :: 'l' :: 's' :: 'e' :: rest => (.bool false, some rest)
    | '"' :: rest =>
      match stringBody (some []) .none rest with
      | some (some s, rest) => (.string s, some rest)
      | some (none, rest) => (.unreadable, some rest)
      | none => (.broken, none)
    | '[' :: rest =>
      match skipSpace rest with
      | ']' :: rest => atDepth (depth + 1) (.array [], some rest)
      | rest =>
        let (ds, rest) := items fuel (depth + 1) rest
        atDepth (depth + 1) (.array ds, rest)
    | '{' :: rest =>
      match skipSpace rest with
      | '}' :: rest => atDepth (depth + 1) (.object [], some rest)
      | rest =>
        let (ms, rest) := members fuel (depth + 1) rest
        atDepth (depth + 1) (.object ms, rest)
    | rest =>
      match literal? rest with
      | some (l, rest) =>
        match l.number? with
        | some n => (.number n, some rest)
        | none => (.unreadable, some rest)
      | none => (.broken, none)

def items : (fuel : Nat) → (depth : Nat) → List Char → List Draft × Option (List Char)
  | 0, _, _ => ([.broken], none)
  | fuel + 1, depth, cs =>
    match value fuel depth cs with
    | (d, none) => ([d], none)
    | (d, some rest) =>
      match skipSpace rest with
      | ']' :: rest => ([d], some rest)
      | ',' :: rest =>
        let (ds, rest) := items fuel depth rest
        (d :: ds, rest)
      | _ => ([d, .broken], none)

def members : (fuel : Nat) → (depth : Nat) → List Char →
    List (Option String × Draft) × Option (List Char)
  | 0, _, _ => ([(none, .broken)], none)
  | fuel + 1, depth, cs =>
    match skipSpace cs with
    | '"' :: rest =>
      match stringBody (some []) .none rest with
      | none => ([(none, .broken)], none)
      | some (key, rest) =>
        match skipSpace rest with
        | ':' :: rest =>
          match value fuel depth rest with
          | (d, none) => ([(key, d)], none)
          | (d, some rest) =>
            match skipSpace rest with
            | '}' :: rest => ([(key, d)], some rest)
            | ',' :: rest =>
              let (ms, rest) := members fuel depth rest
              ((key, d) :: ms, rest)
            | _ => ([(key, d), (none, .broken)], none)
        | _ => ([(key, .broken)], none)
    | _ => ([(none, .broken)], none)

end

/-- The draft of a whole text, and whether only white space follows it. -/
def draft (cs : List Char) : Draft × Bool :=
  match value (2 * cs.length + 2) 0 cs with
  | (d, none) => (d, false)
  | (d, some rest) => (d, (skipSpace rest).isEmpty)

/-- The normal form of the value of a JSON text. -/
def parse? (s : String) : Option Json :=
  match draft s.toList with
  | (d, true) => d.value?
  | (_, false) => none

end ReleaseDesk.Json
