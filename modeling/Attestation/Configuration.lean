import Attestation.Azure.Policy
import Attestation.ConfidentialSpace.EnvironmentPolicy
import Attestation.KeyCache
import Attestation.Nitro.Root
import Attestation.Platform
import Attestation.Text.Blank

/-!
The settings of a platform and of the key cache, and their form as structured values.
-/
namespace Attestation

open Json

inductive PlatformConfig where
  /-- The one certificate, in text form, that every chain must end in. -/
  | nitro (root : String)
  /-- The attestation service, and the regions that workloads must not run in. -/
  | azure (endpoint : String) (regions : List String)
  | gcp (policy : ConfidentialSpace.EnvironmentPolicy)
  deriving DecidableEq

namespace PlatformConfig

def platform : PlatformConfig → Platform
  | nitro _ => .nitro
  | azure _ _ => .azure
  | gcp _ => .gcp

def isSlash (c : Char) : Bool := c == '/'

/-- The endpoint without slashes at its end; tokens name it as their issuer. -/
def issuer (endpoint : String) : String := String.ofList (Text.trimEnd isSlash endpoint.toList)

/-- Where the keys of an attestation service are published. -/
def certificatesUrl (endpoint : String) : String := issuer endpoint ++ "/certs"

def tag : String := "platform"

def nitroOf? (t : Tree) : Option PlatformConfig := do
  match ← t.record? [⟨"root_certificate_pem", .defaulted⟩] with
  | [root] => return nitro (← Tree.orDefault? Nitro.rootCertificate Tree.asString? root)
  | _ => none

def azureOf? (t : Tree) : Option PlatformConfig := do
  match ← t.record? [⟨"maa_endpoint", .required⟩, ⟨"disallowed_regions", .defaulted⟩] with
  | [some endpoint, regions] =>
    return azure (← endpoint.asString?)
      (← Tree.orDefault? Azure.Policy.defaultRegions Tree.asStrings? regions)
  | _ => none

def gcpOf? (t : Tree) : Option PlatformConfig := do
  match ← t.record? [⟨"policy", .defaulted⟩] with
  | [policy] =>
    return gcp (← Tree.orDefault? ConfidentialSpace.EnvironmentPolicy.standard
      ConfidentialSpace.EnvironmentPolicy.ofTree? policy)
  | _ => none

def ofFields? (fields : Tree) : Platform → Option PlatformConfig
  | .nitro => nitroOf? fields
  | .azure => azureOf? fields
  | .gcp => gcpOf? fields

/-- The name of the platform and the fields beside it: a member, or the first item of an array. -/
def tagged? : Tree → Option (Tree × Tree)
  | .object members => do
    let name ← Tree.member? members tag
    return (← name, .object members)
  | .array (name :: items) => some (name, .array items)
  | _ => none

/-- Every part of a configuration must have a meaning, also those that are skipped. -/
def ofTree? (t : Tree) : Option PlatformConfig := do
  if (t.valueWithin? Tree.depthLimit).isNone then none
  else
    let (name, fields) ← tagged? t
    let platform ← name.asString? >>= Platform.ofName?
    ofFields? fields platform

def parse? (text : String) : Option PlatformConfig := Tree.parse? (Utf8.encode text) >>= ofTree?

def ofJson? (value : Json) : Option PlatformConfig := ofTree? (Tree.ofJson value)

def toJson (c : PlatformConfig) : Json :=
  let name := (tag, Json.string c.platform.name)
  match c with
  | nitro root => .ofMembers [name, ("root_certificate_pem", .string root)]
  | azure endpoint regions =>
    .ofMembers [name, ("maa_endpoint", .string endpoint), ("disallowed_regions", .strings regions)]
  | gcp policy => .ofMembers [name, ("policy", policy.toJson)]

end PlatformConfig

/-- Settings of the key cache, in seconds. -/
structure KeyCacheConfig where
  ttl : UInt64
  minRefetch : UInt64
  deriving DecidableEq, Repr

namespace KeyCacheConfig

def defaultTtl : UInt64 := 3600

def defaultMinRefetch : UInt64 := 300

def standard : KeyCacheConfig := ⟨defaultTtl, defaultMinRefetch⟩

def fields : List Tree.Field := ["ttl_secs", "min_refetch_secs"].map (⟨·, .defaulted⟩)

def seconds? : Tree → Option UInt64
  | .number (some (.integer n)) => if 0 ≤ n then some (UInt64.ofNat n.toNat) else none
  | _ => none

def ofTree? (t : Tree) : Option KeyCacheConfig := do
  match ← t.record? fields with
  | [ttl, minRefetch] =>
    return {
      ttl := ← Tree.orDefault? defaultTtl seconds? ttl
      minRefetch := ← Tree.orDefault? defaultMinRefetch seconds? minRefetch }
  | _ => none

def parse? (text : String) : Option KeyCacheConfig := Tree.parse? (Utf8.encode text) >>= ofTree?

def ofJson? (value : Json) : Option KeyCacheConfig := ofTree? (Tree.ofJson value)

def toJson (c : KeyCacheConfig) : Json :=
  .ofMembers [("ttl_secs", .nat c.ttl.toNat), ("min_refetch_secs", .nat c.minRefetch.toNat)]

end KeyCacheConfig

/-- The empty cache with the given settings. -/
def KeyCache.ofConfig (c : KeyCacheConfig) : KeyCache :=
  .new (Instant.perSecond * c.ttl.toNat) (Instant.perSecond * c.minRefetch.toNat)

end Attestation
