import Attestation.Text.LowerCase
import Attestation.Text.Quoted

/-!
Where a workload is deployed and in which scope it knows identities.
-/
namespace Attestation.ConfidentialSpace

inductive Environment where
  | prod
  | integ
  deriving DecidableEq, Repr

inductive IdentityScope where
  | uid2
  | euid
  deriving DecidableEq, Repr

structure Scope where
  environment : Environment
  identityScope : IdentityScope
  deriving DecidableEq, Repr

inductive ScopeError where
  | unknownEnvironment (text : String)
  | unknownIdentityScope (text : String)
  deriving DecidableEq, Repr

def ScopeError.reason : ScopeError → String
  | unknownEnvironment text => "unknown environment " ++ Text.quoted text
  | unknownIdentityScope text => "unknown identity scope " ++ Text.quoted text

def lowerAscii (text : String) : String := String.ofList (text.toList.map Text.lowerAscii)

namespace Environment

def name : Environment → String
  | prod => "prod"
  | integ => "integ"

def ofName? (text : String) : Option Environment := [prod, integ].find? (·.name == text)

/-- Reads a name in upper or lower case. -/
def parse (text : String) : Except ScopeError Environment :=
  match ofName? (lowerAscii text) with
  | some e => .ok e
  | none => .error (.unknownEnvironment text)

end Environment

namespace IdentityScope

def name : IdentityScope → String
  | uid2 => "uid2"
  | euid => "euid"

/-- The name with a capital letter, as it stands in reports. -/
def title : IdentityScope → String
  | uid2 => "Uid2"
  | euid => "Euid"

def ofName? (text : String) : Option IdentityScope := [uid2, euid].find? (·.name == text)

/-- Reads a name in upper or lower case. -/
def parse (text : String) : Except ScopeError IdentityScope :=
  match ofName? (lowerAscii text) with
  | some s => .ok s
  | none => .error (.unknownIdentityScope text)

end IdentityScope

end Attestation.ConfidentialSpace
