import Attestation.Digest.Sha2
import Attestation.Ecdsa.Signature

/-!
Signatures on the curve P-384 over SHA-384 digests, given by the bytes of key and signature.
-/
namespace Attestation.Ecdsa.P384

inductive Error where
  | rawSignature (length : Nat)
  | publicKey
  | signatureEncoding
  | verification
  deriving DecidableEq, Repr

def Error.message : Error → String
  | rawSignature length =>
    "invalid raw P-384 signature (" ++ toString length ++ " bytes): signature error"
  | publicKey => "invalid P-384 public key: signature error"
  | signatureEncoding => "invalid P-384 signature encoding: signature error"
  | verification => "P-384 signature verification failed: signature error"

/-- Encodes the two scalars of a fixed-width signature as a sequence of integers. -/
def derOfRaw (raw : Bytes) : Except Error Bytes :=
  match Signature.ofRaw? p384 raw with
  | some signature => .ok signature.toDer
  | none => .error (.rawSignature raw.length)

def verifyDer (key message signature : Bytes) : Except Error Unit :=
  match p384.point? key with
  | none => .error .publicKey
  | some point =>
    match Signature.ofDer? p384 signature with
    | none => .error .signatureEncoding
    | some s => if verify p384 point (Sha2.sha384 message) s then .ok () else .error .verification

def verifyRaw (key message signature : Bytes) : Except Error Unit := do
  let der ← derOfRaw signature
  verifyDer key message der

end Attestation.Ecdsa.P384
