import Attestation.EnclaveClaims
import Attestation.LogEvent
import Attestation.Nitro.Audit

/-!
Verification of Nitro evidence: the envelope is read, its certificates are followed to the root, its
signature is checked with the key of the first certificate, and only then the policy is asked.
-/
namespace Attestation.Nitro

def readEnvelope (evidence : Bytes) : Except VerificationError Envelope :=
  (Envelope.decode evidence).mapError fun e => .badFormat (.envelope e)

/-- Reads a document that comes without an envelope. -/
def readDocument (payload : Bytes) : Except VerificationError Document :=
  (Document.ofBytes payload).mapError fun e => .badFormat (.document e)

def readChain (d : Document) : Except VerificationError (List Certificate) :=
  (d.chain.mapM Certificate.read).mapError fun e => .badFormat (.certificate e)

/-- The certificate that signed the envelope, if its chain leads to the root. -/
def leafOf (root : Certificate) (now : Instant) (chain : List Certificate) :
    Except VerificationError Certificate := do
  let store ← (TrustStore.ofRoots now [root]).mapError fun e => .certChainInvalid (.root e)
  let leaf ← (store.verifyLeaf chain).mapError fun e => .certChainInvalid (.path e)
  return leaf.certificate

def checkSignature (e : Envelope) (leaf : Certificate) : Except VerificationError Unit := do
  let key ← leaf.publicKey.mapError fun e => .signatureInvalid (.leafKey e)
  (Ecdsa.P384.verifyRaw key e.signedMessage e.signature).mapError fun e =>
    .signatureInvalid (.leaf e)

def judge (d : Document) (expectedKey : Option String) : Except VerificationError EnclaveClaims := do
  let id ← (Policy.enclaveId d expectedKey).mapError fun v => .policyViolation (.nitro v)
  return { enclaveId := id, platform := .nitro, rawClaims := d.audit, workload := none }

def verify (root : Certificate) (evidence : Bytes) (expectedKey : Option String)
    (now : Instant) : Except VerificationError EnclaveClaims := do
  let envelope ← readEnvelope evidence
  let chain ← readChain envelope.document
  let leaf ← leafOf root now chain
  checkSignature envelope leaf
  judge envelope.document expectedKey

end Attestation.Nitro
