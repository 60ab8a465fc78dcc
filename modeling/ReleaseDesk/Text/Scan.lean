/-! Character classes and decimal numerals. Classes of code points are tables of closed intervals;
white space is the Unicode property `White_Space`, which has twenty-five code points. -/

namespace ReleaseDesk.Text

/-! ### Code point tables -/

/-- The closed interval of code points from `first` to `last`. -/
structure Span where
  first : Nat
  last : Nat

def Span.holds (s : Span) (c : Nat) : Bool := s.first ≤ c && c ≤ s.last

def inSpans (table : List Span) (c : Nat) : Bool := table.any (·.holds c)

/-! ### White space -/

def blankSpans : List Span := [
  ⟨0x09, 0x0D⟩, ⟨0x20, 0x20⟩, ⟨0x85, 0x85⟩, ⟨0xA0, 0xA0⟩, ⟨0x1680, 0x1680⟩, ⟨0x2000, 0x200A⟩,
  ⟨0x2028, 0x2029⟩, ⟨0x202F, 0x202F⟩, ⟨0x205F, 0x205F⟩, ⟨0x3000, 0x3000⟩]

def isBlank (c : Char) : Bool := inSpans blankSpans c.toNat

def trimStart (cs : List Char) : List Char := cs.dropWhile isBlank

def trimEnd (cs : List Char) : List Char := (cs.reverse.dropWhile isBlank).reverse

def trim (cs : List Char) : List Char := trimEnd (trimStart cs)

def trimmed (s : String) : String := String.ofList (trim s.toList)

def allBlank (s : String) : Bool := s.toList.all isBlank

/-! ### Numerals -/

def isDigit (c : Char) : Bool := 48 ≤ c.toNat && c.toNat ≤ 57

def digitValue (c : Char) : Nat := c.toNat - 48

def numeralValue (cs : List Char) : Nat := cs.foldl (fun n c => 10 * n + digitValue c) 0

/-- `2 ^ 64`. -/
def wordBound : Nat := 0x10000000000000000

/-- Appends decimal digits to a number below `2 ^ 64` up to the first that would overflow it.
Returns the number and the digits left. -/
def appendDigits (n : Nat) : List Char → Nat × List Char
  | [] => (n, [])
  | c :: cs =>
    if 10 * n + digitValue c < wordBound then appendDigits (10 * n + digitValue c) cs
    else (n, c :: cs)

def numeral (n : Nat) : List Char := Nat.toDigits 10 n

/-- The decimal numeral of a number, padded with zeros to a width. -/
def paddedNumeral (width n : Nat) : List Char :=
  List.replicate (width - (numeral n).length) '0' ++ numeral n

def intNumeral (i : Int) : List Char :=
  if i < 0 then '-' :: numeral i.natAbs else numeral i.natAbs

def spanDigits (cs : List Char) : List Char × List Char := (cs.takeWhile isDigit, cs.dropWhile isDigit)

end ReleaseDesk.Text
