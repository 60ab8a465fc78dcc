import ReleaseDesk.Wire.Choice
import ReleaseDesk.Text.Lowercase

/-! Versions and version bumps. A version is a triple of numbers; in its text, leading `v`s and
everything from the first `-` or `+` are ignored. -/

namespace ReleaseDesk.Release

open ReleaseDesk.Wire ReleaseDesk.Text

/-- The component to increment. `auto` derives it from the changes. -/
inductive BumpKind
  | major
  | minor
  | patch
  | auto
deriving DecidableEq, Repr

namespace BumpKind

def name : BumpKind → String
  | major => "major"
  | minor => "minor"
  | patch => "patch"
  | auto => "auto"

def choice : Choice BumpKind := ⟨[major, minor, patch, auto], name⟩

/-- The kind named by a text, up to case, `auto` for the empty one. The error is the lowercase text.
-/
def parse (s : String) : Except String BumpKind :=
  let s := lowercase s
  if s = "" then .ok auto
  else match choice.ofName? s with
    | some k => .ok k
    | none => .error s

end BumpKind

structure Version where
  major : Nat
  minor : Nat
  patch : Nat
deriving DecidableEq

namespace Version

/-- Splits a text at its points. -/
def pieces (cs : List Char) : List (List Char) :=
  cs.foldr
    (fun c acc => match acc with
      | [] => [[c]]
      | piece :: rest => if c = '.' then [] :: piece :: rest else (c :: piece) :: rest)
    [[]]

/-- A numeral with a value below `2 ^ 64`. -/
def component? (cs : List Char) : Option Nat :=
  if cs ≠ [] ∧ cs.all isDigit ∧ numeralValue cs < wordBound then some (numeralValue cs) else none

/-- The numeric part of a text. -/
def core (cs : List Char) : List Char :=
  (cs.dropWhile (· = 'v')).takeWhile fun c => c ≠ '-' && c ≠ '+'

def parse? (s : String) : Option Version :=
  match (pieces (core s.toList)).mapM component? with
  | some [major, minor, patch] => some { major, minor, patch }
  | _ => none

def text (v : Version) : String :=
  String.ofList (numeral v.major ++ '.' :: (numeral v.minor ++ '.' :: numeral v.patch))

/-- Increments a component and resets those after it. `auto` increments the patch. -/
def bump (v : Version) : BumpKind → Version
  | .major => { major := v.major + 1, minor := 0, patch := 0 }
  | .minor => { major := v.major, minor := v.minor + 1, patch := 0 }
  | .patch => { v with patch := v.patch + 1 }
  | .auto => { v with patch := v.patch + 1 }

/-- The text of a version with a prerelease tag. -/
def tagged (v : Version) (prerelease : Option String) : String :=
  match prerelease with
  | none => v.text
  | some "" => v.text
  | some pre => v.text ++ "-" ++ pre

end Version

end ReleaseDesk.Release
