import Attestation.Der
import Attestation.Digest.Sha2
import Attestation.Modular

/-!
RSA signatures: public keys, and the two ways in which a digest is put into a signature.
-/
namespace Attestation.Rsa

/-- A digest with the encoding that names it in signatures. -/
structure Hash where
  width : Nat
  digest : Bytes → Bytes
  /-- The encoded identifier that stands before the digest. -/
  label : Bytes

def labelOf (last width : UInt8) : Bytes :=
  [0x30, width + 17, 0x30, 0x0d, 0x06, 0x09, 0x60, 0x86, 0x48, 0x01, 0x65, 0x03, 0x04, 0x02, last,
    0x05, 0x00, 0x04, width]

def sha256 : Hash := ⟨32, Sha2.sha256, labelOf 1 32⟩

def sha384 : Hash := ⟨48, Sha2.sha384, labelOf 2 48⟩

def sha512 : Hash := ⟨64, Sha2.sha512, labelOf 3 64⟩

/-- A modulus of 256 to 1024 bytes, without a leading zero byte and odd, and an odd exponent from
three to below `2 ^ 33`. -/
structure PublicKey where
  modulus : Nat
  exponent : Nat
  /-- Bytes of the modulus. -/
  width : Nat
  deriving DecidableEq, Repr

namespace PublicKey

def leastWidth : Nat := 256

def greatestWidth : Nat := 1024

def greatestExponent : Nat := 1 <<< 33 - 1

/-- Bytes that an exponent has at most. -/
def exponentWidth : Nat := 5

def startsWithZero (bytes : Bytes) : Bool := bytes.head? == some 0

def ofComponents? (modulus exponent : Bytes) : Option PublicKey :=
  let n := Bytes.toNat modulus
  let e := Bytes.toNat exponent
  if leastWidth ≤ modulus.length ∧ modulus.length ≤ greatestWidth ∧ !startsWithZero modulus ∧
      n % 2 = 1 ∧ exponent.length ≤ exponentWidth ∧ !startsWithZero exponent ∧
      3 ≤ e ∧ e ≤ greatestExponent ∧ e % 2 = 1 then
    some ⟨n, e, modulus.length⟩
  else none

/-- The bytes of an integer above zero, without the zero byte that keeps it positive. -/
def positive? (e : Der.Element) : Option Bytes := do
  let content ← e.expect? Der.integer
  let n ← Der.unsigned? content
  if n = 0 then none
  else match content with
    | 0 :: rest => return rest
    | bytes => return bytes

/-- Reads a sequence of modulus and exponent. -/
def ofDer? (der : Bytes) : Option PublicKey := do
  let outer ← Der.single? der
  match ← outer.inside? Der.sequence with
  | [modulus, exponent] => ofComponents? (← positive? modulus) (← positive? exponent)
  | _ => none

/-- The padded message that a signature was made from; it is as wide as the modulus. -/
def recover? (k : PublicKey) (signature : Bytes) : Option Bytes :=
  let s := Bytes.toNat signature
  if signature.length = k.width ∧ s < k.modulus then
    some (Bytes.ofNat k.width (Modular.pow k.modulus s k.exponent))
  else none

end PublicKey

/-! Signatures with a fixed padding. -/

/-- The digest with its label, filled up to the given width. -/
def padded (h : Hash) (width : Nat) (message : Bytes) : Bytes :=
  let content := h.label ++ h.digest message
  0 :: 1 :: (List.replicate (width - 3 - content.length) 0xff ++ 0 :: content)

def verifyPadded (k : PublicKey) (h : Hash) (message signature : Bytes) : Bool :=
  k.recover? signature == some (padded h k.width message)

/-! Signatures with a salted padding; the salt is as long as the digest. -/

/-- As many bytes as needed from the digests of the seed and a counter. -/
def mask (h : Hash) (seed : Bytes) (width : Nat) : Bytes :=
  let blocks := (width + h.width - 1) / h.width
  ((List.range blocks).flatMap fun i => h.digest (seed ++ Bytes.ofNat 4 i)).take width

/-- Clears the high bits of the first byte beyond those that are in use. -/
def clearTop (bits : Nat) : Bytes → Bytes
  | [] => []
  | first :: rest => UInt8.ofNat (first.toNat % (1 <<< bits)) :: rest

/-- Whether a masked block and a digest, both taken from a signature, fit a message. `bits` is the
number of bits in use in the first byte. -/
def saltedFits (h : Hash) (bits : Nat) (message masked check : Bytes) : Bool :=
  let block := clearTop bits (Bytes.xor masked (mask h check masked.length))
  let filler := masked.length - h.width - 1
  let salt := block.drop (filler + 1)
  (masked.headD 0).toNat < 1 <<< bits &&
    block.take (filler + 1) == List.replicate filler 0 ++ [1] &&
    h.digest (List.replicate 8 0 ++ h.digest message ++ salt) == check

/-- The last byte of a salted padding. -/
def saltedTrailer : UInt8 := 0xbc

def verifySalted (k : PublicKey) (h : Hash) (message signature : Bytes) : Bool :=
  let bits := k.modulus.log2
  let width := (bits + 7) / 8
  match k.recover? signature with
  | none => false
  | some recovered =>
    let spare := recovered.take (k.width - width)
    let encoded := recovered.drop (k.width - width)
    let masked := encoded.take (width - h.width - 1)
    let rest := encoded.drop (width - h.width - 1)
    spare.all (· == 0) && rest.getLast? == some saltedTrailer &&
      saltedFits h (bits - 8 * (width - 1)) message masked rest.dropLast

end Attestation.Rsa
