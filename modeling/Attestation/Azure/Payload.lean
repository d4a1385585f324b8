import Attestation.Json.Record

/-!
The claims by which the Azure attestation service describes a confidential container.
-/
namespace Attestation.Azure

/-- What the workload bound into its request. -/
structure Runtime where
  location : String
  /-- The public key of the workload in base64. -/
  publicKey : String
  attestationUrl : Option String
  deriving DecidableEq, Repr

structure Payload where
  attestationType : String
  complianceStatus : String
  debuggable : Bool
  /-- The digest of the policy that the container group was launched with. -/
  policyDigest : String
  runtime : Runtime
  deriving DecidableEq, Repr

namespace Runtime

open Json

def empty : Runtime := ⟨"", "", none⟩

def fields : List Tree.Field :=
  ["location", "publicKey", "attestationUrl"].map (⟨·, .defaulted⟩)

def ofTree? (t : Tree) : Option Runtime := do
  match ← t.record? fields with
  | [location, publicKey, url] =>
    return {
      location := ← Tree.orDefault? "" Tree.asString? location
      publicKey := ← Tree.orDefault? "" Tree.asString? publicKey
      attestationUrl := ← Tree.orAbsent? Tree.asString? url }
  | _ => none

/-- An absent URL is left out. -/
def toJson (r : Runtime) : Json :=
  let url := r.attestationUrl.toList.map fun u => ("attestationUrl", Json.string u)
  .ofMembers ([("location", .string r.location), ("publicKey", .string r.publicKey)] ++ url)

end Runtime

namespace Payload

open Json

def fields : List Tree.Field :=
  ["x-ms-attestation-type", "x-ms-compliance-status", "x-ms-sevsnpvm-is-debuggable",
    "x-ms-sevsnpvm-hostdata", "x-ms-runtime"].map (⟨·, .defaulted⟩)

/-- A token that does not say whether the machine is debuggable counts as if it were. -/
def ofTree? (t : Tree) : Option Payload := do
  match ← t.record? fields with
  | [type, status, debuggable, digest, runtime] =>
    return {
      attestationType := ← Tree.orDefault? "" Tree.asString? type
      complianceStatus := ← Tree.orDefault? "" Tree.asString? status
      debuggable := ← Tree.orDefault? true Tree.asBool? debuggable
      policyDigest := ← Tree.orDefault? "" Tree.asString? digest
      runtime := ← Tree.orDefault? Runtime.empty Runtime.ofTree? runtime }
  | _ => none

def ofJson? (claims : Json) : Option Payload := ofTree? (Tree.ofJson claims)

def toJson (p : Payload) : Json :=
  .ofMembers [
    ("x-ms-attestation-type", .string p.attestationType),
    ("x-ms-compliance-status", .string p.complianceStatus),
    ("x-ms-sevsnpvm-is-debuggable", .bool p.debuggable),
    ("x-ms-sevsnpvm-hostdata", .string p.policyDigest),
    ("x-ms-runtime", p.runtime.toJson)]

/-- A virtual machine with encrypted and attested memory. -/
def isSevSnp (p : Payload) : Bool := p.attestationType == "sevsnpvm"

/-- A utility machine that the service itself vouches for. -/
def isCompliantUtility (p : Payload) : Bool := p.complianceStatus == "azure-compliant-uvm"

end Payload

end Attestation.Azure
