import Attestation.Base64
import Attestation.Certificate.Basic
import Attestation.Jwt.Jwk
import Attestation.Jwt.VerificationKey
import Attestation.Table

/-!
Sets of signing keys as their owners publish them. A key is given by its parameters or inside a
certificate, which here is a mere carrier: nothing is asked of it but the key. Keys that cannot be
used are left out.
-/
namespace Attestation

abbrev KeySet := Table String Jwt.VerificationKey

namespace KeySet

open Json

/-- Why a key is left out. -/
inductive Defect where
  | noId
  | emptyChain (id : String)
  | chainNotBase64 (id : String)
  | unreadableCertificate (id : String) (cause : Certificate.Error)
  | unsuitableCertificate (cause : Certificate.Error)
  | notJwk (id : String)
  | unsupportedType (id : String)
  | unreadableParameters (id : String)
  deriving DecidableEq, Repr

def Defect.message : Defect → String
  | noId => "key has no kid"
  | emptyChain id => "key " ++ id ++ " has an empty x5c"
  | chainNotBase64 id => "key " ++ id ++ ": x5c is not base64: unreadable text"
  | unreadableCertificate id cause => "key " ++ id ++ ": " ++ cause.message
  | unsuitableCertificate cause => cause.message
  | notJwk id => "key " ++ id ++ " is not a JWK: not a key"
  | unsupportedType id => "key " ++ id ++ " has an unsupported key type"
  | unreadableParameters id => "key " ++ id ++ " is unusable: Base64 error: unreadable text"

def keyOfCertificate (c : Certificate) : Except Certificate.Error Jwt.VerificationKey := do
  let octets ← c.publicKey
  match ← c.keyFamily with
  | .rsa => return .rsaEncoded octets
  | .ec => return .curvePoint octets

/-- The key in the first certificate of a chain; the others are not looked at. -/
def keyOfChain (id : String) (chain : List Json) : Except Defect Jwt.VerificationKey :=
  match chain with
  | .string leaf :: _ =>
    match Base64.decode? Base64.standard leaf.toList with
    | none => .error (.chainNotBase64 id)
    | some der =>
      match Certificate.read der with
      | .error cause => .error (.unreadableCertificate id cause)
      | .ok c => (keyOfCertificate c).mapError .unsuitableCertificate
  | _ => .error (.emptyChain id)

def bytesOf (id text : String) : Except Defect Bytes :=
  match Base64.decodeUnpadded? Base64.urlSafe text.toList with
  | some bytes => .ok bytes
  | none => .error (.unreadableParameters id)

/-- The form of a point that is given by both coordinates. -/
def pointForm : UInt8 := 4

def keyOfParameters (id : String) : Jwt.KeyParameters → Except Defect Jwt.VerificationKey
  | .rsa modulus exponent => do
    let n ← bytesOf id modulus
    let e ← bytesOf id exponent
    return .rsaComponents n e
  | .ellipticCurve _ x y => do
    let x ← bytesOf id x
    let y ← bytesOf id y
    return .curvePoint (pointForm :: (x ++ y))
  | _ => .error (.unsupportedType id)

def keyOfJwk (id : String) (raw : Json) : Except Defect Jwt.VerificationKey :=
  match Jwt.Jwk.ofTree? Tree.depthLimit (Tree.ofJson raw) with
  | some jwk => keyOfParameters id jwk.parameters
  | none => .error (.notJwk id)

/-- Reads one key and its name. -/
def readKey (raw : Json) : Except Defect (String × Jwt.VerificationKey) :=
  match raw.get? "kid" with
  | some (.string id) =>
    match raw.get? "x5c" with
    | some (.array chain) => (keyOfChain id chain).map (id, ·)
    | _ => (keyOfJwk id raw).map (id, ·)
  | _ => .error .noId

/-- A key set with the defects of the keys that it leaves out, in their order. -/
structure Reading where
  keys : KeySet
  skipped : List Defect

def usable? : Except Defect (String × Jwt.VerificationKey) → Option (String × Jwt.VerificationKey)
  | .ok found => some found
  | .error _ => none

def defect? : Except Defect (String × Jwt.VerificationKey) → Option Defect
  | .ok _ => none
  | .error defect => some defect

/-- Of two usable keys of one name the later one stands. -/
def ofKeys (raws : List Json) : Reading :=
  let read := raws.map readKey
  ⟨Table.ofList (read.filterMap usable?), read.filterMap defect?⟩

/-- Keys are nested two levels deep in their document. -/
def keyDepth : Nat := Tree.depthLimit - 2

/-- The keys that a document lists, if it is a key set at all. -/
def keysOf? (document : String) : Option (List Json) := do
  let t ← Tree.parse? (Utf8.encode document)
  match ← t.record? [⟨"keys", .required⟩] with
  | [some keys] => (← keys.asItems?).mapM (Tree.valueWithin? keyDepth)
  | _ => none

def ofDocument? (document : String) : Option Reading := (keysOf? document).map ofKeys

end KeySet

end Attestation
