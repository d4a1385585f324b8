import Attestation.Ecdsa.Signature
import Attestation.Jwt.Algorithm
import Attestation.Rsa

/-!
Keys that tokens are verified with. A key belongs to a family, and its family alone decides which
algorithms it may be used with. Whether it is a valid key shows only when a signature is checked.
-/
namespace Attestation.Jwt

inductive VerificationKey where
  /-- The bytes of modulus and exponent. -/
  | rsaComponents (modulus exponent : Bytes)
  /-- An encoded pair of modulus and exponent. -/
  | rsaEncoded (der : Bytes)
  /-- An encoded point of a curve. -/
  | curvePoint (octets : Bytes)
  deriving DecidableEq, Repr

namespace VerificationKey

def rsaAlgorithms : List Algorithm := [.rs256, .rs384, .rs512, .ps256, .ps384, .ps512]

def curveAlgorithms : List Algorithm := [.es256, .es384]

def algorithms : VerificationKey → List Algorithm
  | rsaComponents _ _ => rsaAlgorithms
  | rsaEncoded _ => rsaAlgorithms
  | curvePoint _ => curveAlgorithms

def rsaKey? : VerificationKey → Option Rsa.PublicKey
  | rsaComponents modulus exponent => Rsa.PublicKey.ofComponents? modulus exponent
  | rsaEncoded der => Rsa.PublicKey.ofDer? der
  | curvePoint _ => none

/-- Only points with both coordinates are keys of tokens. -/
def point? (c : Ecdsa.Curve) : VerificationKey → Option Ecdsa.Point
  | curvePoint (4 :: rest) => c.point? (4 :: rest)
  | _ => none

def verifyOnCurve (k : VerificationKey) (c : Ecdsa.Curve) (digest signature : Bytes) : Bool :=
  match k.point? c, Ecdsa.Signature.ofRaw? c signature with
  | some point, some s => Ecdsa.verify c point digest s
  | _, _ => false

def verifyRsa (k : VerificationKey) (check : Rsa.PublicKey → Bool) : Bool := k.rsaKey?.any check

/-- Whether the key signed the message. -/
def verify (k : VerificationKey) (message signature : Bytes) : Algorithm → Bool
  | .rs256 => k.verifyRsa (Rsa.verifyPadded · Rsa.sha256 message signature)
  | .rs384 => k.verifyRsa (Rsa.verifyPadded · Rsa.sha384 message signature)
  | .rs512 => k.verifyRsa (Rsa.verifyPadded · Rsa.sha512 message signature)
  | .ps256 => k.verifyRsa (Rsa.verifySalted · Rsa.sha256 message signature)
  | .ps384 => k.verifyRsa (Rsa.verifySalted · Rsa.sha384 message signature)
  | .ps512 => k.verifyRsa (Rsa.verifySalted · Rsa.sha512 message signature)
  | .es256 => k.verifyOnCurve Ecdsa.p256 (Sha2.sha256 message) signature
  | .es384 => k.verifyOnCurve Ecdsa.p384 (Sha2.sha384 message) signature
  | _ => false

end VerificationKey

end Attestation.Jwt
