import Attestation.Json.Record
import Attestation.Jwt.Fault

/-!
The claims that say who issued a token and for whom, and the check against what is expected.
-/
namespace Attestation.Jwt

structure Expectations where
  issuer : String
  /-- Without one the audience is not checked. -/
  audience : Option String
  deriving DecidableEq, Repr

/-- A claim that a token may be required to have. -/
inductive RequiredClaim where
  | expiry
  | issuer
  | audience
  deriving DecidableEq, Repr

def RequiredClaim.name : RequiredClaim → String
  | expiry => "exp"
  | issuer => "iss"
  | audience => "aud"

/-- Required claims are a set, so that they are looked for in any order, and in another one at the
next verification. -/
structure SearchOrder where
  claims : List RequiredClaim
  complete : claims.Perm [.expiry, .issuer, .audience] := by decide

def SearchOrder.standard : SearchOrder := { claims := [.expiry, .issuer, .audience] }

/-- The audience is required only where one is expected. -/
def Expectations.requires (expected : Expectations) : RequiredClaim → Bool
  | .audience => expected.audience.isSome
  | _ => true

structure Identity where
  /-- Whether there is an expiry time that can be read as seconds. -/
  hasExpiry : Bool
  issuers : Option (List String)
  audiences : Option (List String)
  deriving DecidableEq, Repr

namespace Identity

open Json

def fields : List Tree.Field := ["exp", "nbf", "sub", "iss", "aud"].map (⟨·, .optional⟩)

/-- Seconds are at least zero and below `2 ^ 64`. -/
def isSeconds : Tree → Bool
  | .number (some (.integer n)) => 0 ≤ n
  | .number (some (.real x)) => x.isNonnegative && x.truncate < 1 <<< 64
  | _ => false

/-- Times must not be filled arrays or objects. -/
def mayBeTime : Tree → Bool
  | .array items => items.isEmpty
  | .object members => members.isEmpty
  | _ => true

def mayBeSubject : Tree → Bool
  | .array _ => false
  | .object _ => false
  | _ => true

/-- One name or a list of names. All else counts as no name at all. -/
def names? : Tree → Option (List String)
  | .string s => s.map ([·])
  | t => t.asStrings?

/-- None of the five claims may occur twice. -/
def ofTree? (t : Tree) : Option Identity := do
  match ← t.record? fields with
  | [expiry, start, subject, issuer, audience] =>
    if expiry.all mayBeTime && start.all mayBeTime && subject.all mayBeSubject then
      return ⟨expiry.any isSeconds, issuer >>= names?, audience >>= names?⟩
    else none
  | _ => none

def has (i : Identity) : RequiredClaim → Bool
  | .expiry => i.hasExpiry
  | .issuer => i.issuers.isSome
  | .audience => i.audiences.isSome

/-- The first claim in the order that is required and is not there. -/
def missing? (i : Identity) (expected : Expectations) (order : SearchOrder) :
    Option RequiredClaim :=
  order.claims.find? fun c => expected.requires c && !i.has c

def compare (i : Identity) (expected : Expectations) : Except Fault Unit :=
  if !i.issuers.any (·.contains expected.issuer) then .error .invalidIssuer
  else if !expected.audience.all (fun audience => i.audiences.any (·.contains audience)) then
    .error .invalidAudience
  else .ok ()

/-- All claims that are required must be there before any of them is compared. -/
def check (i : Identity) (expected : Expectations) (order : SearchOrder) : Except Fault Unit :=
  match i.missing? expected order with
  | some c => .error (.missingClaim c.name)
  | none => i.compare expected

end Identity

end Attestation.Jwt
