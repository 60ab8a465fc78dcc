import ReleaseDesk.Binary64
import ReleaseDesk.Json

/-! Printing of JSON values, compact or indented by two spaces. Strings escape quotes, backslashes
and control characters. -/

namespace ReleaseDesk.Json

open ReleaseDesk.Text

def hex4 (n : Nat) : List Char :=
  let ds := Nat.toDigits 16 n
  List.replicate (4 - ds.length) '0' ++ ds

def escape (c : Char) : List Char :=
  if c = '"' then ['\\', '"']
  else if c = '\\' then ['\\', '\\']
  else if c = '\n' then ['\\', 'n']
  else if c = '\r' then ['\\', 'r']
  else if c = '\t' then ['\\', 't']
  else if c = '\u0008' then ['\\', 'b']
  else if c = '\u000c' then ['\\', 'f']
  else if c.toNat < 0x20 then ['\\', 'u'] ++ hex4 c.toNat
  else [c]

def stringChars (s : String) : List Char := '"' :: (s.toList.flatMap escape ++ ['"'])

def numberChars : Number → List Char
  | .integer i => intNumeral i
  | .real x => x.chars

/-! ### Compact printing -/

mutual

def chars : Json → List Char
  | null => "null".toList
  | bool true => "true".toList
  | bool false => "false".toList
  | number n => numberChars n
  | string s => stringChars s
  | array [] => ['[', ']']
  | array (v :: rest) => '[' :: (chars v ++ itemChars rest)
  | object [] => ['{', '}']
  | object ((k, v) :: rest) => '{' :: (stringChars k ++ ':' :: (chars v ++ memberChars rest))

/-- The rest of an array after its first item. -/
def itemChars : List Json → List Char
  | [] => [']']
  | v :: rest => ',' :: (chars v ++ itemChars rest)

/-- The rest of an object after its first member. -/
def memberChars : List (String × Json) → List Char
  | [] => ['}']
  | (k, v) :: rest => ',' :: (stringChars k ++ ':' :: (chars v ++ memberChars rest))

end

def render (v : Json) : String := String.ofList (chars v)

/-! ### Indented printing -/

def newLine (depth : Nat) : List Char := '\n' :: List.replicate (2 * depth) ' '

mutual

def prettyChars (depth : Nat) : Json → List Char
  | null => "null".toList
  | bool true => "true".toList
  | bool false => "false".toList
  | number n => numberChars n
  | string s => stringChars s
  | array [] => ['[', ']']
  | array (v :: rest) =>
    '[' :: (newLine (depth + 1) ++ prettyChars (depth + 1) v ++ prettyItems depth rest)
  | object [] => ['{', '}']
  | object ((k, v) :: rest) =>
    '{' :: (newLine (depth + 1) ++ stringChars k ++ ':' :: ' ' ::
      (prettyChars (depth + 1) v ++ prettyMembers depth rest))

def prettyItems (depth : Nat) : List Json → List Char
  | [] => newLine depth ++ [']']
  | v :: rest =>
    ',' :: (newLine (depth + 1) ++ prettyChars (depth + 1) v ++ prettyItems depth rest)

def prettyMembers (depth : Nat) : List (String × Json) → List Char
  | [] => newLine depth ++ ['}']
  | (k, v) :: rest =>
    ',' :: (newLine (depth + 1) ++ stringChars k ++ ':' :: ' ' ::
      (prettyChars (depth + 1) v ++ prettyMembers depth rest))

end

def pretty (v : Json) : String := String.ofList (prettyChars 0 v)

end ReleaseDesk.Json
