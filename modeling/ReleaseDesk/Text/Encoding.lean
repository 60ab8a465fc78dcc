/-! UTF-8 and Base64. `Utf8.decode` accepts exactly the well-formed sequences, without overlong
encodings or surrogates; its error is the length of the longest valid prefix and the length of the
ill-formed sequence after it. -/

namespace ReleaseDesk.Text.Utf8

/-- The error of an ill-formed sequence: the number of octets in the longest valid prefix, and the
length of the ill-formed sequence, or `none` if the input ends inside a character. -/
structure Fault where
  valid : Nat
  extent : Option Nat
deriving DecidableEq, Repr

def encodeChar (c : Char) : List UInt8 :=
  let n := c.toNat
  if n < 0x80 then [UInt8.ofNat n]
  else if n < 0x800 then [UInt8.ofNat (0xC0 + n / 0x40), UInt8.ofNat (0x80 + n % 0x40)]
  else if n < 0x10000 then
    [UInt8.ofNat (0xE0 + n / 0x1000), UInt8.ofNat (0x80 + n / 0x40 % 0x40),
      UInt8.ofNat (0x80 + n % 0x40)]
  else
    [UInt8.ofNat (0xF0 + n / 0x40000), UInt8.ofNat (0x80 + n / 0x1000 % 0x40),
      UInt8.ofNat (0x80 + n / 0x40 % 0x40), UInt8.ofNat (0x80 + n % 0x40)]

def encode (cs : List Char) : List UInt8 := cs.flatMap encodeChar

/-- The payload bits of a lead octet, the number of continuation octets, and the bounds of the first
of them. -/
def lead? (b : Nat) : Option (Nat × Nat × Nat × Nat) :=
  if b < 0x80 then some (b, 0, 0x80, 0xBF)
  else if b < 0xC2 then none
  else if b < 0xE0 then some (b - 0xC0, 1, 0x80, 0xBF)
  else if b = 0xE0 then some (0, 2, 0xA0, 0xBF)
  else if b = 0xED then some (0xD, 2, 0x80, 0x9F)
  else if b < 0xF0 then some (b - 0xE0, 2, 0x80, 0xBF)
  else if b = 0xF0 then some (0, 3, 0x90, 0xBF)
  else if b < 0xF4 then some (b - 0xF0, 3, 0x80, 0xBF)
  else if b = 0xF4 then some (4, 3, 0x80, 0x8F)
  else none

/-- The state of the decoder. Inside a character it holds the payload so far, the octets seen, the
octets left, and the bounds of the next one. -/
inductive State
  | between (read : List Char) (taken : Nat)
  | within (read : List Char) (taken payload seen toCome low high : Nat)
  | failed (fault : Fault)

def State.step : State → UInt8 → State
  | .between read taken, b =>
    match lead? b.toNat with
    | none => .failed ⟨taken, some 1⟩
    | some (payload, 0, _, _) => .between (Char.ofNat payload :: read) (taken + 1)
    | some (payload, toCome, low, high) => .within read taken payload 1 toCome low high
  | .within read taken payload seen toCome low high, b =>
    if low ≤ b.toNat && b.toNat ≤ high then
      let payload := payload * 0x40 + (b.toNat - 0x80)
      if toCome ≤ 1 then .between (Char.ofNat payload :: read) (taken + seen + 1)
      else .within read taken payload (seen + 1) (toCome - 1) 0x80 0xBF
    else .failed ⟨taken, some seen⟩
  | .failed fault, _ => .failed fault

def decode (bytes : List UInt8) : Except Fault (List Char) :=
  match bytes.foldl State.step (.between [] 0) with
  | .between read _ => .ok read.reverse
  | .within _ taken .. => .error ⟨taken, none⟩
  | .failed fault => .error fault

def Fault.message (f : Fault) : String :=
  match f.extent with
  | some n => "invalid utf-8 sequence of " ++ toString n ++ " bytes from index " ++ toString f.valid
  | none => "incomplete utf-8 byte sequence from index " ++ toString f.valid

end ReleaseDesk.Text.Utf8

namespace ReleaseDesk.Text.Base64

def digit (n : Nat) : Char :=
  if n < 26 then Char.ofNat (65 + n)
  else if n < 52 then Char.ofNat (97 + (n - 26))
  else if n < 62 then Char.ofNat (48 + (n - 52))
  else if n = 62 then '+' else '/'

def encodeChars : List UInt8 → List Char
  | [] => []
  | [a] => [digit (a.toNat / 4), digit (a.toNat % 4 * 16), '=', '=']
  | [a, b] =>
    [digit (a.toNat / 4), digit (a.toNat % 4 * 16 + b.toNat / 16), digit (b.toNat % 16 * 4), '=']
  | a :: b :: c :: rest =>
    digit (a.toNat / 4) :: digit (a.toNat % 4 * 16 + b.toNat / 16)
      :: digit (b.toNat % 16 * 4 + c.toNat / 64) :: digit (c.toNat % 64) :: encodeChars rest

/-- The Base64 encoding in the standard alphabet, padded with `=`. -/
def encode (bytes : List UInt8) : String := String.ofList (encodeChars bytes)

end ReleaseDesk.Text.Base64
