import Attestation.Certificate.IssuerKey
import Attestation.Table

/-!
Trusted roots, and the walk that leads from them down a chain of certificates to its leaf. Issuers
are found by the text of their names, trusted ones first. Revocation is not considered.
-/
namespace Attestation

/-- A certificate and its decoded key. -/
structure Identity where
  certificate : Certificate
  key : Certificate.IssuerKey

structure TrustStore where
  trusted : Table String Identity
  now : Instant

namespace TrustStore

inductive Error where
  | rootNotValid
  | undecodableKey (cause : Certificate.IssuerKey.Error)
  | emptyChain
  | chainNotValid
  | unknownIssuer (name : String)
  | badSignature (subject : String) (cause : Certificate.IssuerKey.Error)
  | constraints (cause : Certificate.Error)
  | notAuthority (subject : String)
  deriving DecidableEq, Repr

def Error.message : Error → String
  | rootNotValid => "trusted root certificate is not valid at the verification time"
  | undecodableKey cause => "failed to decode key from certificate: " ++ cause.message
  | emptyChain => "certificate chain is empty"
  | chainNotValid => "certificate chain is expired or not yet valid"
  | unknownIssuer name => "failed to find trusted issuer " ++ name
  | badSignature subject cause =>
    "failed to verify signature of " ++ subject ++ ": " ++ cause.message
  | constraints cause => cause.message
  | notAuthority subject => "intermediate certificate " ++ subject ++ " is not a CA"

def decodeKey (c : Certificate) : Except Error Identity :=
  match Certificate.IssuerKey.ofCertificate c with
  | .ok key => .ok ⟨c, key⟩
  | .error cause => .error (.undecodableKey cause)

/-- Adds a root; a root of the same subject takes the place of an earlier one. -/
def addRoot (now : Instant) (trusted : Table String Identity) (root : Certificate) :
    Except Error (Table String Identity) :=
  if root.validAt now then do
    let identity ← decodeKey root
    return trusted.insert root.subject.text identity
  else .error .rootNotValid

/-- The store of the given roots, all of which must be valid. -/
def ofRoots (now : Instant) (roots : List Certificate) : Except Error TrustStore := do
  let trusted ← roots.foldlM (addRoot now) Table.empty
  return ⟨trusted, now⟩

def issuer (store : TrustStore) (known : Table String Identity) (name : String) :
    Except Error Identity :=
  match (store.trusted.get? name).or (known.get? name) with
  | some identity => .ok identity
  | none => .error (.unknownIssuer name)

/-- Checks that a trusted or known identity signed the certificate. -/
def vouch (store : TrustStore) (known : Table String Identity) (c : Certificate) :
    Except Error Identity := do
  let signer ← store.issuer known c.issuer.text
  match signer.key.verify c with
  | .ok () => decodeKey c
  | .error cause => .error (.badSignature c.subject.text cause)

/-- Checks that a certificate other than the leaf may sign. -/
def requireAuthority (c : Certificate) : Except Error Unit :=
  match c.isAuthority with
  | .ok true => .ok ()
  | .ok false => .error (.notAuthority c.subject.text)
  | .error cause => .error (.constraints cause)

/-- Walks a chain whose leaf comes last; every certificate before the leaf becomes known. -/
def walk (store : TrustStore) : Table String Identity → List Certificate → Except Error Identity
  | _, [] => .error .emptyChain
  | known, [leaf] => store.vouch known leaf
  | known, c :: rest => do
    let identity ← store.vouch known c
    requireAuthority c
    store.walk (known.insert c.subject.text identity) rest

/-- The leaf of a chain that is valid and rooted in the store. The chain has its leaf first. -/
def verifyLeaf (store : TrustStore) (chain : List Certificate) : Except Error Identity :=
  if chain.isEmpty then .error .emptyChain
  else if Certificate.allValidAt chain store.now then store.walk Table.empty chain.reverse
  else .error .chainNotValid

end TrustStore

end Attestation
