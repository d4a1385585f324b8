import Attestation.Json.Record

/-!
Public keys in the form of structured values.
-/
namespace Attestation.Jwt

inductive KeyParameters where
  | ellipticCurve (curve x y : String)
  | rsa (modulus exponent : String)
  | octets (value : String)
  | octetPair (curve x : String)
  deriving DecidableEq, Repr

structure Jwk where
  use : Option String
  operations : Option (List String)
  algorithm : Option String
  id : Option String
  certificateUrl : Option String
  certificates : Option (List String)
  sha1Thumbprint : Option String
  sha256Thumbprint : Option String
  parameters : KeyParameters
  deriving DecidableEq, Repr

namespace KeyParameters

open Json

def curves : List String := ["P-256", "P-384", "P-521", "Ed25519"]

def required (names : List String) : List Tree.Field := names.map (⟨·, .required⟩)

def ofKind? (kind : String) (t : Tree) : Option Unit := do
  if (← t.asVariant?) = kind then return () else none

def curve? (t : Tree) : Option String := do
  let name ← t.asVariant?
  if curves.contains name then return name else none

def ellipticCurve? (t : Tree) : Option KeyParameters := do
  match ← t.record? (required ["kty", "crv", "x", "y"]) with
  | [some kind, some curve, some x, some y] =>
    ofKind? "EC" kind
    return ellipticCurve (← curve? curve) (← x.asString?) (← y.asString?)
  | _ => none

def rsa? (t : Tree) : Option KeyParameters := do
  match ← t.record? (required ["kty", "n", "e"]) with
  | [some kind, some modulus, some exponent] =>
    ofKind? "RSA" kind
    return rsa (← modulus.asString?) (← exponent.asString?)
  | _ => none

def octets? (t : Tree) : Option KeyParameters := do
  match ← t.record? (required ["kty", "k"]) with
  | [some kind, some value] =>
    ofKind? "oct" kind
    return octets (← value.asString?)
  | _ => none

def octetPair? (t : Tree) : Option KeyParameters := do
  match ← t.record? (required ["kty", "crv", "x"]) with
  | [some kind, some curve, some x] =>
    ofKind? "OKP" kind
    return octetPair (← curve? curve) (← x.asString?)
  | _ => none

def ofTree? (t : Tree) : Option KeyParameters :=
  ellipticCurve? t <|> rsa? t <|> octets? t <|> octetPair? t

def members : KeyParameters → List (String × Json)
  | ellipticCurve curve x y =>
    [("kty", .string "EC"), ("crv", .string curve), ("x", .string x), ("y", .string y)]
  | rsa modulus exponent =>
    [("kty", .string "RSA"), ("n", .string modulus), ("e", .string exponent)]
  | octets value => [("kty", .string "oct"), ("k", .string value)]
  | octetPair curve x => [("kty", .string "OKP"), ("crv", .string curve), ("x", .string x)]

end KeyParameters

namespace Jwk

open Json

/-- The names that the algorithm of a key may have. -/
def algorithms : List String :=
  ["HS256", "HS384", "HS512", "ES256", "ES384", "RS256", "RS384", "RS512", "PS256", "PS384",
    "PS512", "EdDSA", "RSA1_5", "RSA-OAEP", "RSA-OAEP-256"]

def algorithm? (t : Tree) : Option String := do
  let name ← t.asOpenVariant?
  if algorithms.contains name then return name else none

def fields : List Tree.Field :=
  ["use", "key_ops", "alg", "kid", "x5u", "x5c", "x5t", "x5t#S256"].map (⟨·, .optional⟩)

def ofRecord? (t : Tree) : Option Jwk := do
  match ← t.record? fields with
  | [use, operations, algorithm, id, url, certificates, sha1, sha256] =>
    return {
      use := ← Tree.orAbsent? Tree.asString? use
      operations := ← Tree.orAbsent? Tree.asStrings? operations
      algorithm := ← Tree.orAbsent? algorithm? algorithm
      id := ← Tree.orAbsent? Tree.asString? id
      certificateUrl := ← Tree.orAbsent? Tree.asString? url
      certificates := ← Tree.orAbsent? Tree.asStrings? certificates
      sha1Thumbprint := ← Tree.orAbsent? Tree.asString? sha1
      sha256Thumbprint := ← Tree.orAbsent? Tree.asString? sha256
      parameters := ← KeyParameters.ofTree? t }
  | _ => none

/-- Reads a key from an object nested less than `depth` deep. Its other members must have a meaning
too. -/
def ofTree? (depth : Nat) (t : Tree) : Option Jwk :=
  match t with
  | .object _ => if (t.valueWithin? depth).isSome then ofRecord? t else none
  | _ => none

def members (k : Jwk) : List (String × Json) :=
  [("use", k.use.map .string), ("key_ops", k.operations.map .strings),
    ("alg", k.algorithm.map .string), ("kid", k.id.map .string),
    ("x5u", k.certificateUrl.map .string), ("x5c", k.certificates.map .strings),
    ("x5t", k.sha1Thumbprint.map .string), ("x5t#S256", k.sha256Thumbprint.map .string)].filterMap
      (fun m => m.2.map (m.1, ·)) ++ k.parameters.members

/-- Absent members are left out. -/
def toJson (k : Jwk) : Json := .ofMembers k.members

end Jwk

end Attestation.Jwt
