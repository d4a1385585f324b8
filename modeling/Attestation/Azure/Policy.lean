import Attestation.Azure.Payload
import Attestation.EnclaveId
import Attestation.Text.LowerCase
import Attestation.Text.Quoted

/-!
What the claims about a confidential container must state, and its identifier.
-/
namespace Attestation.Azure

inductive Violation where
  | attestationType (found : String)
  | complianceStatus (found : String)
  | debuggable
  | region (place name : String)
  | noKey
  | otherKey
  | noPolicyDigest
  deriving DecidableEq, Repr

def Violation.reason : Violation → String
  | attestationType found => "attestation type " ++ Text.quoted found ++ " is not SEV-SNP"
  | complianceStatus found =>
    "compliance status " ++ Text.quoted found ++ " is not an Azure compliant utility VM"
  | debuggable => "VM is debuggable"
  | region place name =>
    "location " ++ Text.quoted place ++ " is in disallowed region " ++ Text.quoted name
  | noKey => "no public key to bind the token to"
  | otherKey => "runtime public key does not match the expected key"
  | noPolicyDigest => "CCE policy digest is missing"

namespace Policy

def defaultRegions : List String := ["china", "europe"]

/-- A location is in a region if the name of the region is part of it, whatever their case. -/
def isIn (location region : String) : Bool :=
  Text.occursIn (Text.lowerCase region.toList) (Text.lowerCase location.toList)

def checkKind (p : Payload) : Except Violation Unit :=
  if !p.isSevSnp then .error (.attestationType p.attestationType)
  else if !p.isCompliantUtility then .error (.complianceStatus p.complianceStatus)
  else if p.debuggable then .error .debuggable
  else .ok ()

def checkRegion (p : Payload) (regions : List String) : Except Violation Unit :=
  match regions.find? (isIn p.runtime.location) with
  | some region => .error (.region p.runtime.location region)
  | none => .ok ()

def checkKey (p : Payload) : Option String → Except Violation Unit
  | none => .error .noKey
  | some expected => if p.runtime.publicKey = expected then .ok () else .error .otherKey

/-- The identifier is the digest of the launch policy, as the service reports it. -/
def enclaveId (p : Payload) (expectedKey : Option String) (regions : List String) :
    Except Violation EnclaveId := do
  checkKind p
  checkRegion p regions
  checkKey p expectedKey
  if p.policyDigest = "" then .error .noPolicyDigest else return ⟨p.policyDigest⟩

end Policy

end Attestation.Azure
