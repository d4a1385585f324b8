import Attestation.ConfidentialSpace.Scope
import Attestation.Json.Record
import Attestation.Table

/-!
Which variables of a workload must be set from outside, and which others may be.
-/
namespace Attestation.ConfidentialSpace

structure EnvironmentPolicy where
  required : NameSet
  /-- Further variables that may be set in production. -/
  optionalProd : Option NameSet
  /-- Further variables that may be set in integration. -/
  optionalInteg : Option NameSet
  deriving DecidableEq

/-- The variable that names the environment. -/
def environmentVariable : String := "DEPLOYMENT_ENVIRONMENT"

/-- The variable that names the identity scope. -/
def identityScopeVariable : String := "IDENTITY_SCOPE"

namespace EnvironmentPolicy

open Json

def optional (p : EnvironmentPolicy) : Environment → NameSet
  | .prod => p.optionalProd.getD .empty
  | .integ => p.optionalInteg.getD .empty

def standard : EnvironmentPolicy where
  required := .ofList [environmentVariable, identityScopeVariable, "API_TOKEN_SECRET_NAME"]
  optionalProd := none
  optionalInteg := some (.ofList ["CORE_BASE_URL", "OPTOUT_BASE_URL"])

def nameSet? (t : Tree) : Option NameSet := t.asStrings?.map NameSet.ofList

/-- The variables for one environment more; the later of two lists for one environment stands. -/
def withOptional? (p : EnvironmentPolicy) (m : Option String × Tree) : Option EnvironmentPolicy := do
  let names ← nameSet? m.2
  match ← m.1 >>= Environment.ofName? with
  | .prod => return { p with optionalProd := some names }
  | .integ => return { p with optionalInteg := some names }

def withRequired (required : NameSet) : EnvironmentPolicy := ⟨required, none, none⟩

def ofParts? (required : NameSet) : Option Tree → Option EnvironmentPolicy
  | none => some (withRequired required)
  | some (.object members) => members.foldlM withOptional? (withRequired required)
  | some _ => none

def ofTree? (t : Tree) : Option EnvironmentPolicy := do
  match ← t.record? [⟨"required", .required⟩, ⟨"optional", .defaulted⟩] with
  | [some required, optional] =>
    let names ← nameSet? required
    ofParts? names optional
  | _ => none

def optionalMember (e : Environment) (names : Option NameSet) : List (String × Json) :=
  names.toList.map fun n => (e.name, .strings n.toList)

def toJson (p : EnvironmentPolicy) : Json :=
  .ofMembers [
    ("required", .strings p.required.toList),
    ("optional", .ofMembers
      (optionalMember .prod p.optionalProd ++ optionalMember .integ p.optionalInteg))]

end EnvironmentPolicy

end Attestation.ConfidentialSpace
