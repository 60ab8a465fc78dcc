import ReleaseDesk.Failure
import ReleaseDesk.Protocol.Call
import ReleaseDesk.Protocol.Catalogue
import ReleaseDesk.Service.Scene
import ReleaseDesk.Text.Scan

/-! Registries of handlers. A handler is registered under a valid key that is not in use. Names of
tools and prompts are dot-separated segments, resources have URIs. Listings are sorted by key. -/

namespace ReleaseDesk.Service

open ReleaseDesk.Text

/-! ### Names -/

def isNameChar (c : Char) : Bool :=
  ('a' ≤ c && c ≤ 'z') || isDigit c || c = '_' || c = '-'

/-- Dot-separated nonempty segments. The flag `inSegment` is set inside a segment. -/
def isNameFrom (inSegment : Bool) : List Char → Bool
  | [] => inSegment
  | c :: rest => if c = '.' then inSegment && isNameFrom false rest else isNameChar c && isNameFrom true rest

/-- The maximal length of a name in octets. -/
def nameBound : Nat := 128

def isName (s : String) : Bool := s.utf8ByteSize ≤ nameBound && isNameFrom false s.toList

def isLetter (c : Char) : Bool := ('a' ≤ c && c ≤ 'z') || ('A' ≤ c && c ≤ 'Z')

def isSchemeChar (c : Char) : Bool := isLetter c || isDigit c || c = '+' || c = '.' || c = '-'

/-- `://` followed by a nonempty path without white space. -/
def isPathPart : List Char → Bool
  | ':' :: '/' :: '/' :: path => !path.isEmpty && !path.any isBlank
  | _ => false

def isUri (s : String) : Bool :=
  match s.toList with
  | [] => false
  | c :: rest => isLetter c && isPathPart (rest.dropWhile isSchemeChar)

def checkName (kind s : String) : Except ConfigFault Unit :=
  if isName s then .ok ()
  else .error (.invalidValue kind ("'" ++ s ++ "' is not a valid " ++ kind ++ " name"))

def checkUri (s : String) : Except ConfigFault Unit :=
  if isUri s then .ok ()
  else .error (.invalidValue "resource" ("'" ++ s ++ "' is not a valid resource uri"))

/-! ### Registries -/

open ReleaseDesk.Protocol

/-- A tool with its action on the arguments. -/
structure ToolHandler (ω : Type) where
  tool : Tool
  call : Json → Context → Action ω (Except Failure ToolResult)

structure ResourceHandler (ω : Type) where
  resource : Resource
  read : Context → Action ω (Except Failure ResourceResult)

structure PromptHandler (ω : Type) where
  prompt : Prompt
  fill : List (String × String) → Context → Action ω (Except Failure PromptResult)

/-- Maps with string keys, as association lists sorted by key. -/
structure SortedMap (α : Type) where
  entries : List (String × α) := []

namespace SortedMap

def get? (s : SortedMap α) (key : String) : Option α := (s.entries.find? (·.1 = key)).map (·.2)

def place (key : String) (a : α) : List (String × α) → List (String × α)
  | [] => [(key, a)]
  | (k, b) :: rest => if key < k then (key, a) :: (k, b) :: rest else (k, b) :: place key a rest

/-- Inserts a value under a key that must not be in use. -/
def add (s : SortedMap α) (kind key : String) (a : α) : Except ConfigFault (SortedMap α) :=
  match s.get? key with
  | some _ => .error (.invalidValue kind (kind ++ " '" ++ key ++ "' is already registered"))
  | none => .ok { entries := place key a s.entries }

def toList (s : SortedMap α) : List α := s.entries.map (·.2)

def keys (s : SortedMap α) : List String := s.entries.map (·.1)

def size (s : SortedMap α) : Nat := s.entries.length

end SortedMap

/-- The handlers of a server. -/
structure Registry (ω : Type) where
  tools : SortedMap (ToolHandler ω) := {}
  resources : SortedMap (ResourceHandler ω) := {}
  prompts : SortedMap (PromptHandler ω) := {}

inductive Handler (ω : Type)
  | tool (handler : ToolHandler ω)
  | resource (handler : ResourceHandler ω)
  | prompt (handler : PromptHandler ω)

namespace Registry

def register (r : Registry ω) : Handler ω → Except ConfigFault (Registry ω)
  | .tool h => do
    checkName "tool" h.tool.name
    let tools ← r.tools.add "tool" h.tool.name h
    pure { r with tools }
  | .resource h => do
    checkUri h.resource.uri
    let resources ← r.resources.add "resource" h.resource.uri h
    pure { r with resources }
  | .prompt h => do
    checkName "prompt" h.prompt.name
    let prompts ← r.prompts.add "prompt" h.prompt.name h
    pure { r with prompts }

/-- Registers a list of handlers up to the first error. The handlers before it remain registered. -/
def registerAll (r : Registry ω) : List (Handler ω) → Except ConfigFault Unit × Registry ω
  | [] => (.ok (), r)
  | h :: rest =>
    match r.register h with
    | .ok r => r.registerAll rest
    | .error fault => (.error fault, r)

end Registry

end ReleaseDesk.Service
