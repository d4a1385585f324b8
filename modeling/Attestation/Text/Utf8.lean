import Attestation.Bytes

/-!
UTF-8: every text has one encoding, and only the shortest form of a scalar value is read.
-/
namespace Attestation.Utf8

def encodeChar (c : Char) : Bytes :=
  let n := c.toNat
  if n < 0x80 then [UInt8.ofNat n]
  else if n < 0x800 then [UInt8.ofNat (0xc0 + n / 0x40), UInt8.ofNat (0x80 + n % 0x40)]
  else if n < 0x10000 then
    [UInt8.ofNat (0xe0 + n / 0x1000), UInt8.ofNat (0x80 + n / 0x40 % 0x40),
      UInt8.ofNat (0x80 + n % 0x40)]
  else
    [UInt8.ofNat (0xf0 + n / 0x40000), UInt8.ofNat (0x80 + n / 0x1000 % 0x40),
      UInt8.ofNat (0x80 + n / 0x40 % 0x40), UInt8.ofNat (0x80 + n % 0x40)]

def encodeChars (cs : List Char) : Bytes := cs.flatMap encodeChar

def encode (s : String) : Bytes := encodeChars s.toList

/-- The six payload bits of a continuation byte. -/
def continuation? (b : UInt8) : Option Nat :=
  if 0x80 ≤ b.toNat ∧ b.toNat < 0xc0 then some (b.toNat - 0x80) else none

/-- A scalar value not below `least`, the smallest one that needs this length. -/
def scalar? (least n : Nat) : Option Char :=
  if least ≤ n ∧ n.isValidChar then some (Char.ofNat n) else none

/-- Reads the first character; the rest is shorter by at least one byte. -/
def decodeChar? : Bytes → Option (Char × Bytes)
  | [] => none
  | a :: rest =>
    let n := a.toNat
    if n < 0x80 then some (Char.ofNat n, rest)
    else if n < 0xc0 then none
    else if n < 0xe0 then
      match rest with
      | b :: rest => do
        let x ← continuation? b
        let c ← scalar? 0x80 ((n - 0xc0) * 0x40 + x)
        return (c, rest)
      | _ => none
    else if n < 0xf0 then
      match rest with
      | b :: c :: rest => do
        let x ← continuation? b
        let y ← continuation? c
        let c ← scalar? 0x800 (((n - 0xe0) * 0x40 + x) * 0x40 + y)
        return (c, rest)
      | _ => none
    else if n < 0xf8 then
      match rest with
      | b :: c :: d :: rest => do
        let x ← continuation? b
        let y ← continuation? c
        let z ← continuation? d
        let c ← scalar? 0x10000 ((((n - 0xf0) * 0x40 + x) * 0x40 + y) * 0x40 + z)
        return (c, rest)
      | _ => none
    else none

def decodeWithin : Nat → Bytes → Option (List Char)
  | _, [] => some []
  | 0, _ => none
  | fuel + 1, bytes =>
    match decodeChar? bytes with
    | none => none
    | some (c, rest) => (decodeWithin fuel rest).map (c :: ·)

def decodeChars? (bytes : Bytes) : Option (List Char) := decodeWithin bytes.length bytes

def decode? (bytes : Bytes) : Option String := (decodeChars? bytes).map String.ofList

end Attestation.Utf8
