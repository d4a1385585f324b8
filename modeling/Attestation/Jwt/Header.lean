import Attestation.Jwt.Algorithm
import Attestation.Jwt.Jwk

/-!
The header of a token: how it is signed, and by which key.
-/
namespace Attestation.Jwt

structure Header where
  type : Option String
  algorithm : Algorithm
  contentType : Option String
  keySetUrl : Option String
  key : Option Jwk
  keyId : Option String
  certificateUrl : Option String
  certificates : Option (List String)
  sha1Thumbprint : Option String
  sha256Thumbprint : Option String
  deriving DecidableEq, Repr

namespace Header

open Json

def algorithm? (t : Tree) : Option Algorithm := t.asVariant? >>= Algorithm.ofName?

def fields : List Tree.Field :=
  [⟨"typ", .optional⟩, ⟨"alg", .required⟩, ⟨"cty", .optional⟩, ⟨"jku", .optional⟩,
    ⟨"jwk", .optional⟩, ⟨"kid", .optional⟩, ⟨"x5u", .optional⟩, ⟨"x5c", .optional⟩,
    ⟨"x5t", .optional⟩, ⟨"x5t#S256", .optional⟩]

/-- A key is nested one level deep in the header. -/
def keyDepth : Nat := Tree.depthLimit - 1

def ofTree? (t : Tree) : Option Header := do
  match ← t.record? fields with
  | [type, some algorithm, contentType, keySetUrl, key, keyId, url, certificates, sha1, sha256] =>
    return {
      type := ← Tree.orAbsent? Tree.asString? type
      algorithm := ← algorithm? algorithm
      contentType := ← Tree.orAbsent? Tree.asString? contentType
      keySetUrl := ← Tree.orAbsent? Tree.asString? keySetUrl
      key := ← Tree.orAbsent? (Jwk.ofTree? keyDepth) key
      keyId := ← Tree.orAbsent? Tree.asString? keyId
      certificateUrl := ← Tree.orAbsent? Tree.asString? url
      certificates := ← Tree.orAbsent? Tree.asStrings? certificates
      sha1Thumbprint := ← Tree.orAbsent? Tree.asString? sha1
      sha256Thumbprint := ← Tree.orAbsent? Tree.asString? sha256 }
  | _ => none

def ofBytes? (bytes : Bytes) : Option Header := Tree.parse? bytes >>= ofTree?

/-- Absent members are left out. -/
def toJson (h : Header) : Json :=
  .ofMembers <|
    [("typ", h.type.map .string), ("alg", some (.string h.algorithm.name)),
      ("cty", h.contentType.map .string), ("jku", h.keySetUrl.map .string),
      ("jwk", h.key.map Jwk.toJson), ("kid", h.keyId.map .string),
      ("x5u", h.certificateUrl.map .string), ("x5c", h.certificates.map .strings),
      ("x5t", h.sha1Thumbprint.map .string),
      ("x5t#S256", h.sha256Thumbprint.map .string)].filterMap fun m => m.2.map (m.1, ·)

end Header

end Attestation.Jwt
