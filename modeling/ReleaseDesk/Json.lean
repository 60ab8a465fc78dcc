import ReleaseDesk.Binary64

/-! JSON values and drafts. The members of an object are a list in the order written. The normal
form of a value has the members of every object sorted by key, the last of those with equal keys
retained.

A draft is the tree of a JSON text as far as it can be parsed, with repeated keys. It has two
markers for parts without a value: `unreadable` for a part that is delimited but not representable
(a number out of range, an unpaired surrogate, nesting beyond the limit), which can be skipped, and
`broken` for a syntax error, at which the draft ends. -/

namespace ReleaseDesk

/-- A JSON number: an integer in the range of a signed or an unsigned 64-bit integer, or a double.
-/
inductive Number
  | integer (value : Int)
  | real (value : Binary64)
deriving DecidableEq

def Number.least : Int := -0x8000000000000000

/-- The strict upper bound of the integers, `2 ^ 64`. -/
def Number.bound : Int := 0x10000000000000000

inductive Json
  | null
  | bool (value : Bool)
  | number (value : Number)
  | string (value : String)
  | array (items : List Json)
  | object (members : List (String × Json))

namespace Json

def integer (i : Int) : Json := number (.integer i)

def natural (n : Nat) : Json := number (.integer n)

def real (x : Binary64) : Json := number (.real x)

def strings (ss : List String) : Json := array (ss.map string)

/-- Inserts a member into a list sorted by key, replacing one with an equal key. -/
def insertMember (key : String) (value : Json) : List (String × Json) → List (String × Json)
  | [] => [(key, value)]
  | (k, v) :: rest =>
    if key < k then (key, value) :: (k, v) :: rest
    else if key = k then (key, value) :: rest
    else (k, v) :: insertMember key value rest

def sortMembers (members : List (String × Json)) : List (String × Json) :=
  members.foldl (fun sorted m => insertMember m.1 m.2 sorted) []

mutual

/-- The normal form: the members of every object sorted by key, each key once. -/
def normal : Json → Json
  | array items => array (normalItems items)
  | object members => object (sortMembers (normalMembers members))
  | null => null
  | bool b => bool b
  | number n => number n
  | string s => string s

def normalItems : List Json → List Json
  | [] => []
  | v :: rest => normal v :: normalItems rest

def normalMembers : List (String × Json) → List (String × Json)
  | [] => []
  | (k, v) :: rest => (k, normal v) :: normalMembers rest

end

def entries : Json → List (String × Json)
  | object members => members
  | _ => []

def elements : Json → List Json
  | array items => items
  | _ => []

def text? : Json → Option String
  | string s => some s
  | _ => none

def member? (v : Json) (key : String) : Option Json := v.entries.lookup key

/-- The first member with a key, `null` if there is none. -/
def field (v : Json) (key : String) : Json := (v.member? key).getD null

end Json

end ReleaseDesk

/-! ### Drafts -/

namespace ReleaseDesk.Json

/-- The tree of a JSON text as far as it can be parsed. A key that is not representable is `none`.
-/
inductive Draft
  | null
  | bool (value : Bool)
  | number (value : Number)
  | string (value : String)
  | array (items : List Draft)
  | object (members : List (Option String × Draft))
  | unreadable
  | broken

namespace Draft

mutual

/-- A draft without a syntax error, which a reader can skip. -/
def skippable : Draft → Bool
  | array items => skippableItems items
  | object members => skippableMembers members
  | broken => false
  | null => true
  | bool _ => true
  | number _ => true
  | string _ => true
  | unreadable => true

def skippableItems : List Draft → Bool
  | [] => true
  | d :: rest => skippable d && skippableItems rest

def skippableMembers : List (Option String × Draft) → Bool
  | [] => true
  | (_, d) :: rest => skippable d && skippableMembers rest

end

mutual

/-- The value of a draft as written, if every part has one. -/
def written? : Draft → Option Json
  | null => some .null
  | bool b => some (.bool b)
  | number n => some (.number n)
  | string s => some (.string s)
  | array items => (writtenItems? items).map .array
  | object members => (writtenMembers? members).map .object
  | unreadable => none
  | broken => none

def writtenItems? : List Draft → Option (List Json)
  | [] => some []
  | d :: rest => do
    let v ← written? d
    let vs ← writtenItems? rest
    pure (v :: vs)

def writtenMembers? : List (Option String × Draft) → Option (List (String × Json))
  | [] => some []
  | (none, _) :: _ => none
  | (some k, d) :: rest => do
    let v ← written? d
    let vs ← writtenMembers? rest
    pure ((k, v) :: vs)

end

/-- The normal form of the value of a draft. -/
def value? (d : Draft) : Option Json := d.written?.map normal

mutual

def ofJson : Json → Draft
  | .null => null
  | .bool b => bool b
  | .number n => number n
  | .string s => string s
  | .array items => array (ofItems items)
  | .object members => object (ofMembers members)

def ofItems : List Json → List Draft
  | [] => []
  | v :: rest => ofJson v :: ofItems rest

def ofMembers : List (String × Json) → List (Option String × Draft)
  | [] => []
  | (k, v) :: rest => (some k, ofJson v) :: ofMembers rest

end

end Draft

end ReleaseDesk.Json
