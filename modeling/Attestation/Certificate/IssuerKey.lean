import Attestation.Certificate.Basic
import Attestation.Digest.Sha2
import Attestation.Ecdsa.Signature

/-!
The keys by which certificates vouch for one another: elliptic curve keys on two curves, with the
digests of the SHA-2 family.
-/
namespace Attestation.Certificate

structure IssuerKey where
  curve : Ecdsa.Curve
  point : Ecdsa.Point

namespace IssuerKey

inductive Error where
  | unknownAlgorithm (id : ObjectId)
  | invalidKey
  | undecodable
  | invalidSignature
  | verificationFailed
  deriving DecidableEq, Repr

def Error.message : Error → String
  | unknownAlgorithm id => "Unknown OID: " ++ id.text
  | invalidKey => "Invalid key"
  | undecodable => "Decode failure"
  | invalidSignature => "Invalid signature"
  | verificationFailed => "Verification failure"

def curves : List (ObjectId × Ecdsa.Curve) :=
  [(.ofNumbers [1, 2, 840, 10045, 3, 1, 7], Ecdsa.p256),
    (.ofNumbers [1, 3, 132, 0, 34], Ecdsa.p384)]

/-- The digests that signatures of certificates are made with. -/
def digests : List (ObjectId × (Bytes → Bytes)) :=
  [(.ofNumbers [1, 2, 840, 10045, 4, 3, 1], Sha2.sha224),
    (.ofNumbers [1, 2, 840, 10045, 4, 3, 2], Sha2.sha256),
    (.ofNumbers [1, 2, 840, 10045, 4, 3, 3], Sha2.sha384),
    (.ofNumbers [1, 2, 840, 10045, 4, 3, 4], Sha2.sha512)]

/-- The curve named by the parameters of a key. The content octets of the parameters are read as an
identifier, whatever their type. -/
def curveOf : Option Der.Element → Except Error Ecdsa.Curve
  | none => .error .invalidKey
  | some parameters =>
    match ObjectId.ofOctets? parameters.content with
    | none => .error .undecodable
    | some id =>
      match List.lookup id curves with
      | some curve => .ok curve
      | none => .error (.unknownAlgorithm id)

/-- The subject's key, as a key that can vouch for others: the octets of the bit string, whether or
not all their bits are used. -/
def ofCertificate (c : Certificate) : Except Error IssuerKey :=
  if c.keyAlgorithm.id = ecKey then do
    let curve ← curveOf c.keyAlgorithm.parameters
    match curve.point? c.key.octets with
    | some point => .ok ⟨curve, point⟩
    | none => .error .invalidKey
  else .error (.unknownAlgorithm c.keyAlgorithm.id)

/-- Checks that the key signed the certificate. Signatures are whole octets; this is asked before
the algorithm. -/
def verify (k : IssuerKey) (c : Certificate) : Except Error Unit :=
  match c.signature.whole? with
  | none => .error .undecodable
  | some octets =>
    match List.lookup c.signatureAlgorithm.id digests with
    | none => .error (.unknownAlgorithm c.signatureAlgorithm.id)
    | some digest =>
      match Ecdsa.Signature.ofDer? k.curve octets with
      | none => .error .invalidSignature
      | some signature =>
        if Ecdsa.verify k.curve k.point (digest c.signedBytes) signature then .ok ()
        else .error .verificationFailed

end IssuerKey

end Attestation.Certificate
