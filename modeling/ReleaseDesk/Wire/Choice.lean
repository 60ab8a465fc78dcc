import ReleaseDesk.Wire.Record

/-! Codecs of enumerations and of tagged unions. -/

namespace ReleaseDesk.Wire

open ReleaseDesk.Json

/-- An enumeration: its values with their names. -/
structure Choice (α : Type) where
  values : List α
  name : α → String

namespace Choice

def names (c : Choice α) : List String := c.values.map c.name

def ofName? (c : Choice α) (s : String) : Option α := c.values.find? (c.name · = s)

def ofName (c : Choice α) (s : String) : Except Fault α :=
  match c.ofName? s with
  | some a => .ok a
  | none => .error (.unknownVariant s c.names)

/-- Reads a value from its name, or from an object with the name as its only key and a null value.
-/
def read (c : Choice α) (o : Origin) : Draft → Except Fault α
  | .string s => c.ofName s
  | .object [(some key, d)] => do
    let a ← c.ofName key
    Codec.readUnit d
    pure a
  | .object ((some key, d) :: _) =>
    match o with
    | .text => do
      let _ ← c.ofName key
      Codec.readUnit d
      .error .malformed
    | _ => .error (.invalidValue .map "map with a single key")
  | .object _ =>
    match o with
    | .text => .error .malformed
    | _ => .error (.invalidValue .map "map with a single key")
  | d =>
    match o with
    | .text => .error .malformed
    | _ => .error (mismatch "string or map" d)

def codec (c : Choice α) : Codec α where
  read := c.read
  write a := .string (c.name a)

end Choice

/-- An internally tagged union: the member `tag` names the variant, and the other members are its
fields. -/
structure Tagged (α : Type) where
  title : String
  tag : String
  kinds : List (String × (Draft → Except Fault α))

namespace Tagged

def kind (t : Tagged α) : Draft → Except Fault (Draft → Except Fault α)
  | .string s =>
    match t.kinds.find? (·.1 = s) with
    | some k => .ok k.2
    | none => .error (.unknownVariant s (t.kinds.map (·.1)))
  | d => .error (mismatch "variant identifier" d)

/-- Reads the tag from the members of an object and buffers the others, in reverse order. -/
def gather (t : Tagged α) (kind : Option (Draft → Except Fault α))
    (kept : List (Option String × Draft)) :
    List (Option String × Draft) →
      Except Fault (Option (Draft → Except Fault α) × List (Option String × Draft))
  | [] => .ok (kind, kept.reverse)
  | (none, _) :: _ => .error .malformed
  | (some key, d) :: rest =>
    if key = t.tag then
      match kind with
      | some _ => .error (.duplicateField t.tag)
      | none => do
        let k ← t.kind d
        gather t (some k) kept rest
    else if d.written?.isSome then gather t kind ((some key, d) :: kept) rest
    else .error .malformed

/-- Reads an object, or an array of the tag and the members of the variant in order. -/
def read (t : Tagged α) : Draft → Except Fault α
  | .object members => do
    match ← t.gather none [] members with
    | (none, _) => .error (.missingField t.tag)
    | (some k, kept) => k (.object kept)
  | .array [] => .error (.missingField t.tag)
  | .array (d :: rest) => do
    let k ← t.kind d
    Codec.readAside k (.array rest)
  | d => .error (mismatch ("internally tagged enum " ++ t.title) d)

end Tagged

end ReleaseDesk.Wire
