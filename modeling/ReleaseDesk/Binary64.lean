import ReleaseDesk.Text.Scan

/-! Finite binary64 numbers. The nonnegative ones are enumerated in order, and the index in the
enumeration, the rank, is the number whose binary representation encodes the double. Every double is
a multiple of the least positive one, the unit; arithmetic is exact on multiples of the unit and
then rounds to the nearest rank, ties to even. Decimals are read by scaling the rounded significand
in double arithmetic, which may miss the nearest double by a unit, and printed with the fewest
digits that round to the double. -/

namespace ReleaseDesk

/-- The number of doubles in an interval between successive powers of two, `2 ^ 52`. -/
def binade : Nat := 0x10000000000000

/-- The number of nonnegative finite doubles. -/
def rankBound : Nat := 2047 * binade

/-- A finite double as its sign and the rank of its magnitude. Zero has both signs. -/
structure Binary64 where
  negative : Bool
  rank : Nat
  rank_lt : rank < rankBound
deriving DecidableEq

namespace Binary64

/-- The binary exponent of a rank: doubles near it are spaced by `2 ^ scale` units. -/
def scale (rank : Nat) : Nat := rank / binade - 1

def significand (rank : Nat) : Nat :=
  if rank < binade then rank else binade + rank % binade

/-- The magnitude of a rank in units. -/
def units (rank : Nat) : Nat := significand rank <<< scale rank

def one : Nat := 1 <<< 1074

/-- The quotient rounded to an integer, ties to even. -/
def roundHalfEven (num den : Nat) : Nat :=
  let q := num / den
  let r := num % den
  if 2 * r < den then q else if den < 2 * r then q + 1 else q + q % 2

/-- The rank nearest to a quotient of units. A rank of at least `rankBound` is an overflow. -/
def nearestUnits (num den : Nat) : Nat :=
  let scale := (num / den).log2 - 52
  scale * binade + roundHalfEven num (den <<< scale)

def nearest (num den : Nat) : Nat := nearestUnits (num * one) den

def addRank (a b : Nat) : Nat := nearestUnits (units a + units b) 1

def mulRank (a b : Nat) : Nat := nearestUnits (units a * units b) one

def divRank (a b : Nat) : Nat := nearestUnits (units a * one) (units b)

def ofRank? (negative : Bool) (rank : Nat) : Option Binary64 :=
  if h : rank < rankBound then some ⟨negative, rank, h⟩ else none

def ofRatio? (negative : Bool) (num den : Nat) : Option Binary64 :=
  ofRank? negative (nearest num den)

/-- The minimum of a rank and a finite double. -/
def atMost (limit : Binary64) (rank : Nat) : Binary64 :=
  ⟨false, min rank limit.rank, Nat.lt_of_le_of_lt (Nat.min_le_right _ _) limit.rank_lt⟩

def zero : Binary64 := ⟨false, 0, by decide⟩

def unit : Binary64 := ⟨false, 1023 * binade, by decide⟩

def hundred : Binary64 := ⟨false, 1029 * binade + 9 * (binade / 16), by decide⟩

/-! ### Decimals -/

open ReleaseDesk.Text

/-- The decimal magnitude `digits * 10 ^ exponent`. -/
structure Decimal where
  digits : Nat
  exponent : Int
deriving DecidableEq, Repr

def Decimal.num (d : Decimal) : Nat := d.digits * Nat.pow 10 d.exponent.toNat

def Decimal.den (d : Decimal) : Nat := Nat.pow 10 (-d.exponent).toNat

/-! ### Reading -/

/-- The greatest `k` for which `10 ^ k` is a finite double. -/
def maxPower : Nat := 308

def tenPower (k : Nat) : Nat := nearest (Nat.pow 10 k) 1

/-- Divides a rank up to `n` times by `10 ^ maxPower`, stopping at zero. -/
def lower : (n : Nat) → (rank : Nat) → Nat
  | 0, rank => rank
  | n + 1, rank => if rank = 0 then 0 else lower n (divRank rank (tenPower maxPower))

/-- The rank of the quotient by `10 ^ (k + 1)`, at most `maxPower` powers at a time. -/
def scaleDown (rank k : Nat) : Nat :=
  divRank (lower (k / maxPower) rank) (tenPower (k % maxPower + 1))

/-- The reading of a decimal whose digits fit 64 bits: the digits as a double, multiplied or divided
by the power of ten. A product that overflows is out of range. -/
def ofDecimal? (negative : Bool) (d : Decimal) : Option Binary64 :=
  if d.digits = 0 then some { zero with negative := negative }
  else match d.exponent with
    | .negSucc k => ofRank? negative (scaleDown (nearest d.digits 1) k)
    | .ofNat k =>
      if k ≤ maxPower then ofRank? negative (mulRank (nearest d.digits 1) (tenPower k)) else none

def ofInt? (i : Int) : Option Binary64 := ofRatio? (i < 0) i.natAbs 1

/-! ### Fewest digits -/

/-- A decimal rounds to a rank: it lies between the midpoints to the neighbouring ranks, endpoints
included if the significand is even. Magnitudes are compared in quarters of a unit. -/
def roundsTo (rank : Nat) (d : Decimal) : Bool :=
  let quarters := d.num * (4 * one)
  let middle := 4 * units rank
  let above := 2 <<< scale rank
  let below := if significand rank = binade && 0 < scale rank then 1 <<< scale rank else above
  let low := (middle - below) * d.den
  let high := (middle + above) * d.den
  if significand rank % 2 = 0 then low ≤ quarters && quarters ≤ high
  else low < quarters && quarters < high

/-- The greatest multiple of `10 ^ exponent` not above a rank. -/
def floorAt (rank : Nat) (exponent : Int) : Nat :=
  units rank * Nat.pow 10 (-exponent).toNat / (one * Nat.pow 10 exponent.toNat)

/-- The distance of a decimal from a rank, over a common denominator. -/
def distance (rank : Nat) (d : Decimal) : Nat :=
  let a := d.num * one
  let b := units rank * d.den
  if a ≤ b then b - a else a - b

/-- The multiple of `10 ^ exponent` nearest to a rank, if one rounds to it. -/
def candidate? (rank : Nat) (exponent : Int) : Option Decimal :=
  let low : Decimal := ⟨floorAt rank exponent, exponent⟩
  let high : Decimal := ⟨low.digits + 1, exponent⟩
  match low.digits ≠ 0 && roundsTo rank low, roundsTo rank high with
  | false, false => none
  | true, false => some low
  | false, true => some high
  | true, true =>
    let dl := distance rank low
    let dh := distance rank high
    if dl < dh then some low
    else if dh < dl then some high
    else if low.digits % 2 = 0 then some low else some high

def topFrom (rank : Nat) : Nat → Int → Int
  | 0, k => k
  | fuel + 1, k =>
    if units rank * Nat.pow 10 (-k).toNat < one * Nat.pow 10 k.toNat then k
    else topFrom rank fuel (k + 1)

/-- The least exponent whose power of ten exceeds a positive rank. The search starts at an estimate
from the binary logarithm that is never above it. -/
def top (rank : Nat) : Int :=
  topFrom rank 8 ((((units rank).log2 : Int) - 1074) * 30103 / 100000 - 1)

/-- The shortest decimal that rounds to a positive rank, searched on at most `fuel` grids below `10
^ exponent`. The default is the exact value. -/
def shortestFrom (rank : Nat) : Nat → Int → Decimal
  | 0, _ => ⟨units rank * Nat.pow 5 1074, -1074⟩
  | fuel + 1, exponent =>
    match candidate? rank (exponent - 1) with
    | some d => d
    | none => shortestFrom rank fuel (exponent - 1)

/-- The shortest decimal that rounds to a positive rank. Seventeen digits suffice; the search starts
one grid above the rank, where a power of ten may round to it. -/
def shortest (rank : Nat) : Decimal := shortestFrom rank 18 (top rank + 1)

/-! ### Layout -/

/-- Positional notation if the magnitude is in `[1e-5, 1e16)`, and exponent notation otherwise. -/
def Decimal.layout (d : Decimal) : List Char :=
  let ds := numeral d.digits
  let point : Int := ds.length + d.exponent
  if 0 ≤ d.exponent && point ≤ 16 then
    ds ++ List.replicate d.exponent.toNat '0' ++ ['.', '0']
  else if 0 < point && point ≤ 16 then
    ds.take point.toNat ++ ['.'] ++ ds.drop point.toNat
  else if -5 < point && point ≤ 0 then
    ['0', '.'] ++ List.replicate (-point).toNat '0' ++ ds
  else
    let mantissa := match ds with
      | [] => []
      | [c] => [c]
      | c :: cs => c :: '.' :: cs
    let e := point - 1
    mantissa ++ ['e'] ++ (if e < 0 then ['-'] else ['+']) ++ numeral e.natAbs

def chars (x : Binary64) : List Char :=
  let magnitude := if x.rank = 0 then ['0', '.', '0'] else (shortest x.rank).layout
  if x.negative then '-' :: magnitude else magnitude

def text (x : Binary64) : String := String.ofList x.chars

end ReleaseDesk.Binary64
