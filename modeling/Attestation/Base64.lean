import Attestation.Bytes

/-!
Base64 in its two standard alphabets. Reading is strict: no character outside the alphabet, padding
exactly where the form asks for it, and no bit set after the last byte.
-/
namespace Attestation.Base64

/-- The alphabets differ in the digits 62 and 63. -/
structure Alphabet where
  digit62 : Char
  digit63 : Char

def standard : Alphabet := ⟨'+', '/'⟩

def urlSafe : Alphabet := ⟨'-', '_'⟩

def Alphabet.digit (a : Alphabet) (n : Nat) : Char :=
  if n < 26 then Char.ofNat (65 + n)
  else if n < 52 then Char.ofNat (71 + n)
  else if n < 62 then Char.ofNat (n - 4)
  else if n = 62 then a.digit62
  else a.digit63

def Alphabet.value? (a : Alphabet) (c : Char) : Option Nat :=
  if 'A' ≤ c ∧ c ≤ 'Z' then some (c.toNat - 65)
  else if 'a' ≤ c ∧ c ≤ 'z' then some (c.toNat - 71)
  else if '0' ≤ c ∧ c ≤ '9' then some (c.toNat + 4)
  else if c = a.digit62 then some 62
  else if c = a.digit63 then some 63
  else none

/-- The groups of six bits of a byte string, the last one filled up with zero bits. -/
def sextets : Bytes → List Nat
  | [] => []
  | [a] => [a.toNat / 4, a.toNat % 4 * 16]
  | [a, b] => [a.toNat / 4, a.toNat % 4 * 16 + b.toNat / 16, b.toNat % 16 * 4]
  | a :: b :: c :: rest =>
    a.toNat / 4 :: (a.toNat % 4 * 16 + b.toNat / 16) :: (b.toNat % 16 * 4 + c.toNat / 64) ::
      (c.toNat % 64) :: sextets rest

/-- The byte string with the given groups of six bits; the bits after its last byte are zero. -/
def ofSextets? : List Nat → Option Bytes
  | [] => some []
  | [_] => none
  | [a, b] => if b % 16 = 0 then some [UInt8.ofNat (a * 4 + b / 16)] else none
  | [a, b, c] =>
    if c % 4 = 0 then some [UInt8.ofNat (a * 4 + b / 16), UInt8.ofNat (b % 16 * 16 + c / 4)]
    else none
  | a :: b :: c :: d :: rest =>
    (ofSextets? rest).map fun tail =>
      UInt8.ofNat (a * 4 + b / 16) :: UInt8.ofNat (b % 16 * 16 + c / 4) ::
        UInt8.ofNat (c % 4 * 64 + d) :: tail

def padding (digits : Nat) : List Char := List.replicate ((4 - digits % 4) % 4) '='

def encodeChars (a : Alphabet) (bytes : Bytes) : List Char := (sextets bytes).map a.digit

/-- The text filled up with `=` to a multiple of four characters. -/
def encode (a : Alphabet) (bytes : Bytes) : String :=
  let digits := encodeChars a bytes
  String.ofList (digits ++ padding digits.length)

def decodeUnpadded? (a : Alphabet) (text : List Char) : Option Bytes :=
  text.mapM a.value? >>= ofSextets?

def decode? (a : Alphabet) (text : List Char) : Option Bytes :=
  let digits := text.takeWhile (· ≠ '=')
  if text.dropWhile (· ≠ '=') = padding digits.length then decodeUnpadded? a digits else none

end Attestation.Base64
