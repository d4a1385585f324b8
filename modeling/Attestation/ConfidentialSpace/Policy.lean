import Attestation.ConfidentialSpace.EnvironmentPolicy
import Attestation.ConfidentialSpace.Payload
import Attestation.EnclaveId
import Attestation.Text.Utf8

/-!
What the claims about a workload must state, its identifier and its scope.
-/
namespace Attestation.ConfidentialSpace

inductive Violation where
  | software (found : String)
  | notStable
  | restartPolicy (found : String)
  | commandOverridden
  | noOverrides
  | missingOverride (name : String)
  | unexpectedOverride (name : String)
  | scope (cause : ScopeError)
  | noImageDigest
  deriving DecidableEq, Repr

def Violation.reason : Violation → String
  | software found => "software " ++ Text.quoted found ++ " is not Confidential Space"
  | notStable => "Confidential Space image is not STABLE"
  | restartPolicy found => "restart policy " ++ Text.quoted found ++ " is not Never"
  | commandOverridden => "container command is overridden"
  | noOverrides => "env overrides are empty"
  | missingOverride name => "required env override " ++ name ++ " is missing"
  | unexpectedOverride name => "env override " ++ name ++ " is not allowed"
  | scope cause => cause.reason
  | noImageDigest => "workload image digest is missing"

/-- What a workload that passes is known by. -/
structure Approval where
  enclaveId : EnclaveId
  scope : Scope
  deriving DecidableEq, Repr

namespace Policy

def checkPlatform (p : Payload) : Except Violation Unit :=
  if !p.isConfidentialSpace then .error (.software p.softwareName)
  else if !p.isDebug && !p.isStable then .error .notStable
  else if !p.neverRestarts then .error (.restartPolicy p.restartPolicy)
  else if !p.commandOverrides.isEmpty then .error .commandOverridden
  else .ok ()

/-- The environment that the variables name, if it is known. -/
def environment? (p : Payload) : Option Environment :=
  p.environmentOverrides.get? environmentVariable >>= fun value => (Environment.parse value).toOption

/-- Whether a variable may be set. In an unknown environment only required ones may. -/
def isAllowed (rules : EnvironmentPolicy) (e : Option Environment) (name : String) : Bool :=
  rules.required.contains name || e.any fun e => (rules.optional e).contains name

def checkOverrides (p : Payload) (rules : EnvironmentPolicy) : Except Violation Unit :=
  if p.environmentOverrides.isEmpty then .error .noOverrides
  else
    match rules.required.toList.find? (!p.environmentOverrides.contains ·) with
    | some missing => .error (.missingOverride missing)
    | none =>
      match p.environmentOverrides.keys.find? (!isAllowed rules (environment? p) ·) with
      | some unexpected => .error (.unexpectedOverride unexpected)
      | none => .ok ()

/-- Reads a variable that must be set. -/
def readOverride {α : Type} (p : Payload) (name : String) (parse : String → Except ScopeError α) :
    Except Violation α :=
  match p.environmentOverrides.get? name with
  | none => .error (.missingOverride name)
  | some value => (parse value).mapError .scope

/-- The version of the rules that identifiers are made by. -/
def version : Nat := 1

/-- The version, the debug flag and the digest of the image, separated by commas. -/
def preimage (p : Payload) : String :=
  toString version ++ "," ++ (if p.isDebug then "true" else "false") ++ "," ++ p.imageDigest

def approve (p : Payload) (rules : EnvironmentPolicy) : Except Violation Approval := do
  checkPlatform p
  checkOverrides p rules
  let environment ← readOverride p environmentVariable Environment.parse
  let identityScope ← readOverride p identityScopeVariable IdentityScope.parse
  if p.imageDigest = "" then .error .noImageDigest
  else return ⟨EnclaveId.digestOf (Utf8.encode (preimage p)), ⟨environment, identityScope⟩⟩

end Policy

end Attestation.ConfidentialSpace
