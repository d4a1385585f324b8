import Attestation.Json.Record
import Attestation.Table

/-!
The claims by which Confidential Space describes a workload. They are nested in tokens; here they
are laid out flat.
-/
namespace Attestation.ConfidentialSpace

structure Payload where
  debugStatus : String
  softwareName : String
  softwareVersion : Option String
  supportedAttributes : List String
  imageReference : String
  imageDigest : String
  /-- Arguments that take the place of the command of the image. -/
  commandOverrides : List String
  /-- Variables set from outside. -/
  environmentOverrides : Table String String
  restartPolicy : String
  zone : Option String
  deriving DecidableEq

/-- The claims about the container of a workload. -/
structure Container where
  imageReference : String
  imageDigest : String
  restartPolicy : String
  commandOverrides : Option (List String)
  environmentOverrides : Option (Table String String)
  deriving DecidableEq

/-- The claims of the parts that make up the platform. -/
structure Parts where
  supportedAttributes : Option (List String)
  container : Container
  zone : Option String
  deriving DecidableEq

open Json

/-- Values by name; the later of two values of one name stands. -/
def stringTable? : Tree → Option (Table String String)
  | .object members => do
    let entries ← members.mapM fun (name, value) => do return (← name, ← value.asString?)
    return Table.ofList entries
  | _ => none

namespace Container

def empty : Container := ⟨"", "", "", none, none⟩

def fields : List Tree.Field :=
  ["image_reference", "image_digest", "restart_policy", "cmd_override", "env_override"].map
    (⟨·, .defaulted⟩)

def ofTree? (t : Tree) : Option Container := do
  match ← t.record? fields with
  | [reference, digest, restart, command, environment] =>
    return {
      imageReference := ← Tree.orDefault? "" Tree.asString? reference
      imageDigest := ← Tree.orDefault? "" Tree.asString? digest
      restartPolicy := ← Tree.orDefault? "" Tree.asString? restart
      commandOverrides := ← Tree.orAbsent? Tree.asStrings? command
      environmentOverrides := ← Tree.orAbsent? stringTable? environment }
  | _ => none

end Container

namespace Parts

def empty : Parts := ⟨none, .empty, none⟩

/-- The one field of a record, which may be absent or null. -/
def only? {α : Type} (name : String) (read? : Tree → Option α) (t : Tree) : Option (Option α) := do
  match ← t.record? [⟨name, .defaulted⟩] with
  | [value] => Tree.orAbsent? read? value
  | _ => none

def fields : List Tree.Field :=
  ["confidential_space", "container", "gce"].map (⟨·, .defaulted⟩)

def ofTree? (t : Tree) : Option Parts := do
  match ← t.record? fields with
  | [space, container, machine] =>
    let attributes ← Tree.orAbsent? (only? "support_attributes" Tree.asStrings?) space
    let container ← Tree.orAbsent? Container.ofTree? container
    let zone ← Tree.orAbsent? (only? "zone" Tree.asString?) machine
    return ⟨attributes.join, container.getD .empty, zone.join⟩
  | _ => none

end Parts

namespace Payload

/-- A version is one text or a list of texts, of which the first counts. -/
def versions? : Tree → Option (List String)
  | .string s => s.map ([·])
  | t => t.asStrings?

def fields : List Tree.Field := ["dbgstat", "swname", "swversion", "submods"].map (⟨·, .defaulted⟩)

def ofTree? (t : Tree) : Option Payload := do
  match ← t.record? fields with
  | [status, name, version, parts] =>
    let versions ← Tree.orAbsent? versions? version
    let parts ← Tree.orDefault? Parts.empty Parts.ofTree? parts
    return {
      debugStatus := ← Tree.orDefault? "" Tree.asString? status
      softwareName := ← Tree.orDefault? "" Tree.asString? name
      softwareVersion := versions >>= List.head?
      supportedAttributes := parts.supportedAttributes.getD []
      imageReference := parts.container.imageReference
      imageDigest := parts.container.imageDigest
      commandOverrides := parts.container.commandOverrides.getD []
      environmentOverrides := parts.container.environmentOverrides.getD .empty
      restartPolicy := parts.container.restartPolicy
      zone := parts.zone }
  | _ => none

def ofJson? (claims : Json) : Option Payload := ofTree? (Tree.ofJson claims)

def toJson (p : Payload) : Json :=
  .ofMembers [
    ("debug_status", .string p.debugStatus),
    ("software_name", .string p.softwareName),
    ("software_version", .orNull (p.softwareVersion.map .string)),
    ("supported_attributes", .strings p.supportedAttributes),
    ("workload_image_reference", .string p.imageReference),
    ("workload_image_digest", .string p.imageDigest),
    ("cmd_overrides", .strings p.commandOverrides),
    ("env_overrides", .ofMembers (p.environmentOverrides.entries.map fun (k, v) => (k, .string v))),
    ("restart_policy", .string p.restartPolicy),
    ("zone", .orNull (p.zone.map .string))]

/-- Whatever is not the one mark of a locked machine is debug mode. -/
def isDebug (p : Payload) : Bool := p.debugStatus != "disabled-since-boot"

def isStable (p : Payload) : Bool := p.supportedAttributes.contains "STABLE"

def isConfidentialSpace (p : Payload) : Bool := p.softwareName == "CONFIDENTIAL_SPACE"

def neverRestarts (p : Payload) : Bool := p.restartPolicy == "Never"

end Payload

end Attestation.ConfidentialSpace
