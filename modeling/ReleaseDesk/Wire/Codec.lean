import ReleaseDesk.Binary64
import ReleaseDesk.Json
import ReleaseDesk.Json.Printer
import ReleaseDesk.Json.Reader
import ReleaseDesk.SocketAddress
import ReleaseDesk.Text.Quoted
import ReleaseDesk.Timestamp

/-! Codecs between types and JSON. A reader runs over a draft in the order written and stops at the
first error. Its origin matters in a few places: behind the end of what it expects, a text may be
malformed, while a value in memory is known to be JSON. -/

namespace ReleaseDesk.Wire

open ReleaseDesk.Json ReleaseDesk.Text

/-! ### Errors -/

/-- The JSON value found in place of the expected one. -/
inductive Found
  | null
  | bool (value : Bool)
  | number (value : Number)
  | string (value : String)
  | sequence
  | map
deriving DecidableEq

def Found.message : Found → String
  | .null => "null"
  | .bool true => "boolean `true`"
  | .bool false => "boolean `false`"
  | .number (.integer i) => "integer `" ++ String.ofList (intNumeral i) ++ "`"
  | .number (.real x) => "floating point `" ++ x.text ++ "`"
  | .string s => "string " ++ quoted s
  | .sequence => "sequence"
  | .map => "map"

/-- The errors of a reader. `malformed` stands for a syntax error. -/
inductive Fault
  | malformed
  | invalidType (found : Found) (expected : String)
  | invalidValue (found : Found) (expected : String)
  | invalidLength (length : Nat) (expected : String)
  | unknownVariant (name : String) (known : List String)
  | missingField (name : String)
  | duplicateField (name : String)
  | noVariant (type : String)
  | badTime (cause : Timestamp.Fault)
  | badAddress
deriving DecidableEq

def ticked (name : String) : String := "`" ++ name ++ "`"

def alternatives : List String → String
  | [a, b] => "expected " ++ ticked a ++ " or " ++ ticked b
  | names => "expected one of " ++ ", ".intercalate (names.map ticked)

def Fault.message : Fault → String
  | .malformed => "not a JSON text"
  | .invalidType found expected => "invalid type: " ++ found.message ++ ", expected " ++ expected
  | .invalidValue found expected => "invalid value: " ++ found.message ++ ", expected " ++ expected
  | .invalidLength length expected =>
    "invalid length " ++ toString length ++ ", expected " ++ expected
  | .unknownVariant name known => "unknown variant " ++ ticked name ++ ", " ++ alternatives known
  | .missingField name => "missing field " ++ ticked name
  | .duplicateField name => "duplicate field " ++ ticked name
  | .noVariant type => "data did not match any variant of untagged enum " ++ type
  | .badTime cause => cause.message
  | .badAddress => "invalid socket address syntax"

/-- The error of a draft that is not of the expected kind. -/
def mismatch (expected : String) : Draft → Fault
  | .null => .invalidType .null expected
  | .bool b => .invalidType (.bool b) expected
  | .number n => .invalidType (.number n) expected
  | .string s => .invalidType (.string s) expected
  | .array _ => .invalidType .sequence expected
  | .object _ => .invalidType .map expected
  | .unreadable => .malformed
  | .broken => .malformed

/-! ### Codecs -/

open ReleaseDesk.Json

/-- The origin of a draft: a text, a value in memory, or a value buffered until its type was known.
-/
inductive Origin
  | text
  | tree
  | aside
deriving DecidableEq

/-- A decoder and an encoder of one type. -/
structure Codec (α : Type) where
  read : Origin → Draft → Except Fault α
  write : α → Json

namespace Codec

/-- Decodes a value in memory. -/
def ofJson (c : Codec α) (v : Json) : Except Fault α := c.read .tree (Draft.ofJson v.normal)

def string : Codec String where
  read _ d := match d with
    | .string s => .ok s
    | d => .error (mismatch "a string" d)
  write := .string

def bool : Codec Bool where
  read _ d := match d with
    | .bool b => .ok b
    | d => .error (mismatch "a boolean" d)
  write := .bool

def readInteger (name : String) (low bound : Int) : Draft → Except Fault Int
  | .number (.integer i) =>
    if low ≤ i && i < bound then .ok i else .error (.invalidValue (.number (.integer i)) name)
  | d => .error (mismatch name d)

def integer (name : String) (low bound : Int) : Codec Int where
  read _ d := readInteger name low bound d
  write := .integer

def natural (name : String) (bound : Int) : Codec Nat where
  read _ d := (readInteger name 0 bound d).map Int.toNat
  write := .natural

def word : Codec Nat := natural "u64" Number.bound

def count : Codec Nat := natural "usize" Number.bound

def code : Codec Int := integer "i32" (-0x80000000) 0x80000000

def long : Codec Int := integer "i64" Number.least (-Number.least)

/-- A double, read from any number. -/
def real : Codec Binary64 where
  read _ d := match d with
    | .number (.real x) => .ok x
    | .number (.integer i) =>
      match Binary64.ofInt? i with
      | some x => .ok x
      | none => .error (mismatch "f64" d)
    | d => .error (mismatch "f64" d)
  write := .real

/-- A double that may be infinite or NaN, which is written as null. -/
def double : Codec (Option Binary64) where
  read o d := (real.read o d).map some
  write
    | some x => .real x
    | none => .null

/-- Any JSON value, in normal form. -/
def json : Codec Json where
  read _ d := match d.value? with
    | some v => .ok v
    | none => .error .malformed
  write := Json.normal

/-- Ignores the value. -/
def anything : Codec Unit where
  read _ _ := .ok ()
  write _ := .object []

def readUnit : Draft → Except Fault Unit
  | .null => .ok ()
  | d => .error (mismatch "unit" d)

def time : Codec Timestamp where
  read _ d := match d with
    | .string s => (Timestamp.read s).mapError .badTime
    | d => .error (mismatch "an RFC 3339 formatted date and time string" d)
  write t := .string t.text

def address : Codec SocketAddress where
  read _ d := match d with
    | .string s =>
      match SocketAddress.read? s with
      | some a => .ok a
      | none => .error .badAddress
    | d => .error (mismatch "socket address" d)
  write a := .string a.text

/-- A value, or null for `none`. -/
def nullable (c : Codec α) : Codec (Option α) where
  read o d := match d with
    | .null => .ok none
    | d => (c.read o d).map some
  write
    | none => .null
    | some a => c.write a

def readItems (read : Draft → Except Fault α) : List Draft → Except Fault (List α)
  | [] => .ok []
  | d :: rest => do
    let a ← read d
    let as ← readItems read rest
    pure (a :: as)

def list (c : Codec α) : Codec (List α) where
  read o d := match d with
    | .array items => readItems (c.read o) items
    | d => .error (mismatch "a sequence" d)
  write as := .array (as.map c.write)

/-- Inserts an entry into a list sorted by key, replacing one with an equal key. -/
def insertEntry (key : String) (a : α) : List (String × α) → List (String × α)
  | [] => [(key, a)]
  | (k, b) :: rest =>
    if key < k then (key, a) :: (k, b) :: rest
    else if key = k then (key, a) :: rest
    else (k, b) :: insertEntry key a rest

def readEntries (read : Draft → Except Fault α) :
    List (String × α) → List (Option String × Draft) → Except Fault (List (String × α))
  | entries, [] => .ok entries
  | _, (none, _) :: _ => .error .malformed
  | entries, (some k, d) :: rest => do
    let a ← read d
    readEntries read (insertEntry k a entries) rest

/-- A dictionary as a list sorted by key. -/
def dictionary (c : Codec α) : Codec (List (String × α)) where
  read o d := match d with
    | .object members => readEntries (c.read o) [] members
    | d => .error (mismatch "a map" d)
  write entries := .object (entries.map fun (k, a) => (k, c.write a))

/-- Reads a buffered value, all of which must be JSON. -/
def readAside (read : Draft → Except Fault α) (d : Draft) : Except Fault α :=
  if d.written?.isSome then read d else .error .malformed

/-- Reads an untagged union: the first alternative that succeeds. -/
def readFirst (type : String) : List (Draft → Except Fault α) → Draft → Except Fault α
  | [], _ => .error (.noVariant type)
  | read :: rest, d =>
    match read d with
    | .ok a => .ok a
    | .error _ => readFirst type rest d

end Codec

end ReleaseDesk.Wire

/-! ### Texts -/

namespace ReleaseDesk.Wire.Codec

open ReleaseDesk.Json

/-- Decodes a text. Only white space may follow the value. -/
def ofText (c : Codec α) (s : String) : Except Fault α :=
  match draft s.toList with
  | (d, complete) => do
    let a ← c.read .text d
    if complete then pure a else .error .malformed

/-- Decodes a text by way of its JSON value. -/
def ofTree (c : Codec α) (s : String) : Except Fault α :=
  match parse? s with
  | some v => c.ofJson v
  | none => .error .malformed

/-- The compact text of a value, members in declaration order. -/
def render (c : Codec α) (a : α) : String := (c.write a).render

/-- The indented text of a value, members in declaration order. -/
def pretty (c : Codec α) (a : α) : String := (c.write a).pretty

/-- The JSON value of a value, in normal form. -/
def toJson (c : Codec α) (a : α) : Json := (c.write a).normal

end ReleaseDesk.Wire.Codec
