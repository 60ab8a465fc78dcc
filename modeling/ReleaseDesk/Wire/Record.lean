import ReleaseDesk.Wire.Codec

/-! Codecs of records. A record is described by the list of its members, which determines its reader
and its writer. It is read from an object, whose members may come in any order and among unknown
ones, or from an array of its members in order. It is written as an object in declaration order. -/

namespace ReleaseDesk.Wire

open ReleaseDesk.Json

/-- A member of a record. `absent` is its default in an object, `short` its default at the end of an
array; `write` may omit it. -/
structure Member (α : Type) where
  name : String
  read : Origin → Draft → Except Fault α
  absent : Option α
  short : Option α
  write : α → Option Json

namespace Member

/-- A required member. -/
def required (name : String) (c : Codec α) : Member α where
  name := name
  read := c.read
  absent := none
  short := none
  write a := some (c.write a)

/-- A member that may be null or absent, omitted if it is `none`. -/
def optional (name : String) (c : Codec α) : Member (Option α) where
  name := name
  read := c.nullable.read
  absent := some none
  short := none
  write a := a.map c.write

/-- A member that may be null or absent, written as null if it is `none`. -/
def explicit (name : String) (c : Codec α) : Member (Option α) where
  name := name
  read := c.nullable.read
  absent := some none
  short := none
  write a := some (c.nullable.write a)

/-- A member that may be absent, for which null is a value. -/
def present (name : String) (c : Codec α) : Member (Option α) where
  name := name
  read o d := (c.read o d).map some
  absent := some none
  short := some none
  write a := a.map c.write

/-- The member with a default. -/
def orElse (m : Member α) (a : α) : Member α := { m with absent := some a, short := some a }

def omitWhen (m : Member α) (p : α → Bool) : Member α :=
  { m with write := fun a => if p a then none else m.write a }

end Member

/-- Descriptions of members of a record `σ` that determine an `α`, as an applicative functor in `α`.
An object is read by offering its members one by one to a state, an array by consuming its items. -/
structure Fields (σ α : Type) : Type 1 where
  State : Type
  start : State
  offer : Origin → String → Draft → State → Option (Except Fault State)
  finish : State → Except Fault α
  size : Nat
  inOrder : Origin → (short : Nat → Fault) → (index : Nat) → List Draft →
    Except Fault (α × List Draft)
  write : σ → List (String × Json)

namespace Fields

def nothing (a : α) : Fields σ α where
  State := Unit
  start := ()
  offer _ _ _ _ := none
  finish _ := .ok a
  size := 0
  inOrder _ _ _ items := .ok (a, items)
  write _ := []

def one (m : Member α) (get : σ → α) : Fields σ α where
  State := Option α
  start := none
  offer o key d state :=
    if key = m.name then
      some <| match state with
        | some _ => .error (.duplicateField m.name)
        | none => (m.read o d).map some
    else none
  finish
    | some a => .ok a
    | none =>
      match m.absent with
      | some a => .ok a
      | none => .error (.missingField m.name)
  size := 1
  inOrder
    | o, _, _, d :: rest => (m.read o d).map fun a => (a, rest)
    | _, short, index, [] =>
      match m.short with
      | some a => .ok (a, [])
      | none => .error (short index)
  write s :=
    match m.write (get s) with
    | some v => [(m.name, v)]
    | none => []

def both (f : Fields σ (α → β)) (x : Fields σ α) : Fields σ β where
  State := f.State × x.State
  start := (f.start, x.start)
  offer o key d state :=
    match f.offer o key d state.1 with
    | some r => some (r.map fun s => (s, state.2))
    | none => (x.offer o key d state.2).map fun r => r.map fun s => (state.1, s)
  finish state := do
    let g ← f.finish state.1
    let a ← x.finish state.2
    pure (g a)
  size := f.size + x.size
  inOrder o short index items := do
    let (g, items) ← f.inOrder o short index items
    let (a, items) ← x.inOrder o short (index + f.size) items
    pure (g a, items)
  write s := f.write s ++ x.write s

instance : Functor (Fields σ) where
  map g x := both (nothing g) x

instance : Applicative (Fields σ) where
  pure := nothing
  seq f x := both f (x ())

end Fields

def required (name : String) (c : Codec α) (get : σ → α) : Fields σ α :=
  .one (.required name c) get

def optional (name : String) (c : Codec α) (get : σ → Option α) : Fields σ (Option α) :=
  .one (.optional name c) get

def defaulted (name : String) (c : Codec α) (a : α) (get : σ → α) : Fields σ α :=
  .one ((Member.required name c).orElse a) get

/-- A record type: its name in errors, and its members. -/
structure Record (α : Type) where
  title : String
  fields : Fields α α

namespace Record

def elements (n : Nat) : String := if n = 1 then "1 element" else toString n ++ " elements"

/-- Offers the members of an object in order, ignoring unknown ones. -/
def offerAll (f : Fields σ α) (o : Origin) :
    List (Option String × Draft) → f.State → Except Fault f.State
  | [], state => .ok state
  | (none, _) :: _, _ => .error .malformed
  | (some key, d) :: rest, state =>
    match f.offer o key d state with
    | some r => r.bind fun state => offerAll f o rest state
    | none => if d.skippable then offerAll f o rest state else .error .malformed

/-- The error of an array with more items than members. -/
def surplus (o : Origin) (size length : Nat) : Fault :=
  match o with
  | .text => .malformed
  | .tree => .invalidLength length "fewer elements in array"
  | .aside => .invalidLength length (elements size ++ " in sequence")

def read (r : Record α) (o : Origin) : Draft → Except Fault α
  | .object members => do
    let state ← offerAll r.fields o members r.fields.start
    r.fields.finish state
  | .array items => do
    let short := fun n => .invalidLength n (r.title ++ " with " ++ elements r.fields.size)
    let (a, rest) ← r.fields.inOrder o short 0 items
    if rest.isEmpty then pure a else .error (surplus o r.fields.size items.length)
  | d => .error (mismatch r.title d)

def members (r : Record α) (a : α) : List (String × Json) := r.fields.write a

def codec (r : Record α) : Codec α where
  read := r.read
  write a := .object (r.members a)

end Record

end ReleaseDesk.Wire
