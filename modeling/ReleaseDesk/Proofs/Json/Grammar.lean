import ReleaseDesk.Proofs.Binary64.Range
import ReleaseDesk.Proofs.Json.Normal

/-! The grammar of JSON texts, as a relation between texts and values. In addition to the grammar
proper, a number must be in range when read as a double, and arrays and objects are nested at most
127 deep. Members are listed as written, with repeated keys. -/

namespace ReleaseDesk.Json

open ReleaseDesk.Text

/-- White space: spaces, tabs, line feeds and carriage returns. -/
def Blank (cs : List Char) : Prop := ∀ c ∈ cs, c = ' ' ∨ c = '\t' ∨ c = '\n' ∨ c = '\r'

/-! ### Numbers -/

def Digits (ds : List Char) : Prop := ds ≠ [] ∧ ∀ c ∈ ds, isDigit c = true

/-- An integer part, without leading zeros. -/
inductive Whole : List Char → Prop
  | zero : Whole ['0']
  | leading {d : Char} {ds : List Char} : isDigit d = true → d ≠ '0' →
      (∀ c ∈ ds, isDigit c = true) → Whole (d :: ds)

inductive Fraction : List Char → List Char → Prop
  | absent : Fraction [] []
  | point {ds : List Char} : Digits ds → Fraction ('.' :: ds) ds

/-- The exponent of a number, with its value; `none` if there is none. -/
inductive Exponent : List Char → Option Int → Prop
  | absent : Exponent [] none
  | plain {e : Char} {ds : List Char} : e = 'e' ∨ e = 'E' → Digits ds →
      Exponent (e :: ds) (some (numeralValue ds))
  | plus {e : Char} {ds : List Char} : e = 'e' ∨ e = 'E' → Digits ds →
      Exponent (e :: '+' :: ds) (some (numeralValue ds))
  | minus {e : Char} {ds : List Char} : e = 'e' ∨ e = 'E' → Digits ds →
      Exponent (e :: '-' :: ds) (some (-(numeralValue ds : Int)))

def minus : Bool → List Char
  | true => ['-']
  | false => []

/-- A number text and its literal. -/
inductive Spells : List Char → Literal → Prop
  | parts {ds point fs exponent : List Char} {power : Option Int} (negative : Bool) :
      Whole ds → Fraction point fs → Exponent exponent power →
      Spells (minus negative ++ (ds ++ (point ++ exponent))) ⟨negative, ds, fs, power⟩

namespace Literal

def integer (l : Literal) : Int :=
  if l.negative then -(numeralValue l.whole : Int) else numeralValue l.whole

/-- A literal read as an integer: without fraction and exponent, in the range of 64 bits, and not
`-0`. -/
def Integral (l : Literal) : Prop :=
  l.fraction = [] ∧ l.power = none ∧ Number.least ≤ l.integer ∧ l.integer < Number.bound ∧
    ¬(l.negative = true ∧ numeralValue l.whole = 0)

instance (l : Literal) : Decidable l.Integral :=
  inferInstanceAs (Decidable (l.fraction = [] ∧ l.power = none ∧ Number.least ≤ l.integer ∧
    l.integer < Number.bound ∧ ¬(l.negative = true ∧ numeralValue l.whole = 0)))

/-- The exact magnitude of a literal. -/
def magnitude (l : Literal) : Binary64.Decimal :=
  ⟨numeralValue (l.whole ++ l.fraction), l.power.getD 0 - l.fraction.length⟩

/-- The decimal of a literal as the reader forms it: the digits of the integer part that fit 64
bits, then those of the fraction, with an exponent that counts the omitted digits of the integer
part. -/
inductive Scales (l : Literal) : Binary64.Decimal → Prop
  | kept {ds left fs dropped : List Char} : l.whole = ds ++ left → Filled ds left →
      l.fraction = fs ++ dropped → Filled (ds ++ fs) dropped →
      Scales l ⟨numeralValue (ds ++ fs), left.length - fs.length + l.power.getD 0⟩

/-- The number denoted by a literal. -/
inductive Denotes (l : Literal) : Number → Prop
  | integer : l.Integral → Denotes l (.integer l.integer)
  | real {d : Binary64.Decimal} : ¬l.Integral → l.Scales d → d.InRange →
      Denotes l (.real (d.double l.negative))

end Literal

/-! ### Strings -/

def HexDigit (c : Char) (n : Nat) : Prop :=
  n < 16 ∧ (c = n.digitChar ∨ c = n.digitChar.toUpper)

/-- Four hexadecimal digits, with their value. -/
inductive HexUnit : List Char → Nat → Prop
  | digits {a b c d : Char} {w x y z : Nat} :
      HexDigit a w → HexDigit b x → HexDigit c y → HexDigit d z →
      HexUnit [a, b, c, d] (((w * 16 + x) * 16 + y) * 16 + z)

/-- The escapes by letter. -/
def shortEscapes : List (Char × Char) :=
  [('"', '"'), ('\\', '\\'), ('/', '/'), ('b', '\u0008'), ('f', '\u000c'), ('n', '\n'), ('r', '\r'),
    ('t', '\t')]

/-- The body of a string and the characters it denotes. Escaped surrogates occur only in pairs. -/
inductive Spelled : List Char → List Char → Prop
  | nil : Spelled [] []
  | plain {c : Char} {cs meant : List Char} : 0x20 ≤ c.toNat → c ≠ '"' → c ≠ '\\' →
      Spelled cs meant → Spelled (c :: cs) (c :: meant)
  | short {e c : Char} {cs meant : List Char} : (e, c) ∈ shortEscapes →
      Spelled cs meant → Spelled ('\\' :: e :: cs) (c :: meant)
  | unit {hex cs meant : List Char} {n : Nat} : HexUnit hex n → n < 0xD800 ∨ 0xE000 ≤ n →
      Spelled cs meant → Spelled ('\\' :: 'u' :: (hex ++ cs)) (Char.ofNat n :: meant)
  | pair {hex hex' cs meant : List Char} {high low : Nat} :
      HexUnit hex high → 0xD800 ≤ high → high < 0xDC00 →
      HexUnit hex' low → 0xDC00 ≤ low → low < 0xE000 → Spelled cs meant →
      Spelled ('\\' :: 'u' :: (hex ++ '\\' :: 'u' :: (hex' ++ cs)))
        (Char.ofNat (0x10000 + (high - 0xD800) * 0x400 + (low - 0xDC00)) :: meant)

/-- A string in quotes, with its value. -/
inductive Quoted : List Char → String → Prop
  | quotes {cs meant : List Char} : Spelled cs meant →
      Quoted ('"' :: (cs ++ ['"'])) (String.ofList meant)

/-! ### Values -/

mutual

/-- The text of a value, without surrounding white space. -/
inductive Writes : List Char → Json → Prop
  | null : Writes ['n', 'u', 'l', 'l'] .null
  | isTrue : Writes ['t', 'r', 'u', 'e'] (.bool true)
  | isFalse : Writes ['f', 'a', 'l', 's', 'e'] (.bool false)
  | number {cs : List Char} {l : Literal} {n : Number} : Spells cs l → l.Denotes n →
      Writes cs (.number n)
  | string {cs : List Char} {s : String} : Quoted cs s → Writes cs (.string s)
  | emptyArray {blank : List Char} : Blank blank → Writes ('[' :: (blank ++ [']'])) (.array [])
  | array {cs : List Char} {items : List Json} : WritesItems cs items →
      Writes ('[' :: (cs ++ [']'])) (.array items)
  | emptyObject {blank : List Char} : Blank blank → Writes ('{' :: (blank ++ ['}'])) (.object [])
  | object {cs : List Char} {members : List (String × Json)} : WritesMembers cs members →
      Writes ('{' :: (cs ++ ['}'])) (.object members)

inductive WritesItems : List Char → List Json → Prop
  | last {before cs after : List Char} {v : Json} : Blank before → Writes cs v → Blank after →
      WritesItems (before ++ (cs ++ after)) [v]
  | more {before cs after rest : List Char} {v : Json} {items : List Json} :
      Blank before → Writes cs v → Blank after → WritesItems rest items →
      WritesItems (before ++ (cs ++ (after ++ ',' :: rest))) (v :: items)

inductive WritesMembers : List Char → List (String × Json) → Prop
  | last {before key colon gap cs after : List Char} {k : String} {v : Json} :
      Blank before → Quoted key k → Blank colon → Blank gap → Writes cs v → Blank after →
      WritesMembers (before ++ (key ++ (colon ++ ':' :: (gap ++ (cs ++ after))))) [(k, v)]
  | more {before key colon gap cs after rest : List Char} {k : String} {v : Json}
      {members : List (String × Json)} :
      Blank before → Quoted key k → Blank colon → Blank gap → Writes cs v → Blank after →
      WritesMembers rest members →
      WritesMembers (before ++ (key ++ (colon ++ ':' :: (gap ++ (cs ++ (after ++ ',' :: rest))))))
        ((k, v) :: members)

end

/-- A JSON text: a value between white space, nested at most 127 deep. -/
def Document (text : List Char) (v : Json) : Prop :=
  ∃ before cs after, Blank before ∧ Writes cs v ∧ Blank after ∧ text = before ++ (cs ++ after) ∧
    v.depth ≤ 127

end ReleaseDesk.Json
