import Attestation.Cbor.Item
import Attestation.Table

/-!
Attestation documents of Nitro enclaves: reading them and the constraints on their fields. Nothing
in a document is to be trusted before its envelope and its certificates are verified.
-/
namespace Attestation.Nitro

structure Document where
  moduleId : String
  /-- The name of the function the registers were computed with. -/
  digest : String
  /-- Milliseconds since 1970. -/
  timestamp : Nat
  /-- Platform configuration registers by index. -/
  registers : Table Nat Bytes
  certificate : Bytes
  /-- The issuing certificates, root first. -/
  bundle : List Bytes
  publicKey : Option Bytes
  userData : Option Bytes
  nonce : Option Bytes
  deriving DecidableEq

namespace Document

inductive Error where
  | unreadable
  | notMap
  | nameNotText
  | duplicateField (name : String)
  | missingField (name : String)
  | wrongType (name : String)
  | duplicateRegister (index : Nat)
  | emptyModuleId
  | unsupportedDigest (name : String)
  | zeroTimestamp
  | registerCount
  | invalidRegister (index : Nat)
  | certificateLength
  | bundleLength
  | bundleEntryLength
  | publicKeyLength
  | userDataLength
  | nonceLength
  deriving DecidableEq, Repr

def Error.message : Error → String
  | unreadable => "cannot parse payload CBOR: not an item"
  | notMap => "payload must be a map"
  | nameNotText => "payload keys must be text"
  | duplicateField name => "duplicate field " ++ name
  | missingField name => "missing field " ++ name
  | wrongType name => "field " ++ name ++ " has the wrong type"
  | duplicateRegister index => "duplicate PCR" ++ toString index
  | emptyModuleId => "module_id is empty"
  | unsupportedDigest name => "unsupported digest " ++ name
  | zeroTimestamp => "timestamp is zero"
  | registerCount => "invalid number of PCRs"
  | invalidRegister index => "invalid PCR" ++ toString index
  | certificateLength => "invalid certificate length"
  | bundleLength => "invalid cabundle length"
  | bundleEntryLength => "invalid cabundle entry length"
  | publicKeyLength => "invalid public_key length"
  | userDataLength => "user_data too long"
  | nonceLength => "nonce too long"

/-! Fields. -/

abbrev Fields := Table String Cbor.Item

def addField (fields : Fields) : Cbor.Item × Cbor.Item → Except Error Fields
  | (.text name, value) =>
    if fields.contains name then .error (.duplicateField name) else .ok (fields.insert name value)
  | _ => .error .nameNotText

def fieldsOf (entries : List (Cbor.Item × Cbor.Item)) : Except Error Fields :=
  entries.foldlM addField Table.empty

def required (fields : Fields) (name : String) : Except Error Cbor.Item :=
  match fields.get? name with
  | some value => .ok value
  | none => .error (.missingField name)

def textOf (name : String) : Cbor.Item → Except Error String
  | .text s => .ok s
  | _ => .error (.wrongType name)

def bytesOf (name : String) : Cbor.Item → Except Error Bytes
  | .bytes content => .ok content
  | _ => .error (.wrongType name)

/-- A number from zero to below a limit. -/
def numberOf (name : String) (limit : Nat) : Cbor.Item → Except Error Nat
  | .integer n => if 0 ≤ n ∧ n.toNat < limit then .ok n.toNat else .error (.wrongType name)
  | _ => .error (.wrongType name)

def bundleOf : Cbor.Item → Except Error (List Bytes)
  | .array items => items.mapM (bytesOf "cabundle entry")
  | _ => .error (.wrongType "cabundle")

/-- An absent field and one that is null are the same. -/
def optionalBytes (fields : Fields) (name : String) : Except Error (Option Bytes) :=
  match fields.get? name with
  | none => .ok none
  | some .null => .ok none
  | some value => (bytesOf name value).map some

def addRegister (registers : Table Nat Bytes) (entry : Cbor.Item × Cbor.Item) :
    Except Error (Table Nat Bytes) := do
  let index ← numberOf "pcrs index" (1 <<< 16) entry.1
  let value ← bytesOf "pcrs value" entry.2
  if registers.contains index then .error (.duplicateRegister index)
  else return registers.insert index value

def registersOf : Cbor.Item → Except Error (Table Nat Bytes)
  | .map entries => entries.foldlM addRegister Table.empty
  | _ => .error (.wrongType "pcrs")

def ofFields (fields : Fields) : Except Error Document := do
  let moduleId ← required fields "module_id" >>= textOf "module_id"
  let digest ← required fields "digest" >>= textOf "digest"
  let timestamp ← required fields "timestamp" >>= numberOf "timestamp" (1 <<< 64)
  let registers ← required fields "pcrs" >>= registersOf
  let certificate ← required fields "certificate" >>= bytesOf "certificate"
  let bundle ← required fields "cabundle" >>= bundleOf
  let publicKey ← optionalBytes fields "public_key"
  let userData ← optionalBytes fields "user_data"
  let nonce ← optionalBytes fields "nonce"
  return { moduleId, digest, timestamp, registers, certificate, bundle, publicKey, userData, nonce }

/-! Constraints. -/

def digestName : String := "SHA384"

def registerLimit : Nat := 32

def registerWidths : List Nat := [32, 48, 64]

def bundleLimit : Nat := 10

def certificateLimit : Nat := 1024

def publicKeyLimit : Nat := 1024

def userDataLimit : Nat := 512

def nonceLimit : Nat := 512

def between (low high n : Nat) : Bool := low ≤ n && n ≤ high

def faultIf (broken : Bool) (fault : Error) : List Error := if broken then [fault] else []

def registerFaults (registers : Table Nat Bytes) : List Error :=
  registers.entries.flatMap fun (index, value) =>
    faultIf (registerLimit ≤ index || !registerWidths.contains value.length) (.invalidRegister index)

/-- The constraints that a document breaks, in the order in which they are looked at. -/
def faults (d : Document) : List Error :=
  faultIf (d.moduleId == "") .emptyModuleId ++
  faultIf (d.digest != digestName) (.unsupportedDigest d.digest) ++
  faultIf (d.timestamp == 0) .zeroTimestamp ++
  faultIf (!between 1 registerLimit d.registers.size) .registerCount ++
  registerFaults d.registers ++
  faultIf (!between 1 certificateLimit d.certificate.length) .certificateLength ++
  faultIf (!between 1 bundleLimit d.bundle.length) .bundleLength ++
  faultIf (d.bundle.any fun c => !between 1 certificateLimit c.length) .bundleEntryLength ++
  faultIf (d.publicKey.any fun k => !between 1 publicKeyLimit k.length) .publicKeyLength ++
  faultIf (d.userData.any fun u => userDataLimit < u.length) .userDataLength ++
  faultIf (d.nonce.any fun n => nonceLimit < n.length) .nonceLength

def check (d : Document) : Except Error Document :=
  match d.faults with
  | [] => .ok d
  | fault :: _ => .error fault

def ofItem : Cbor.Item → Except Error Document
  | .map entries => do
    let fields ← fieldsOf entries
    let d ← ofFields fields
    d.check
  | _ => .error .notMap

def ofBytes (payload : Bytes) : Except Error Document :=
  match Cbor.Item.ofBytes? payload with
  | some item => ofItem item
  | none => .error .unreadable

/-- The certificates of a document, the one that signed its envelope first and the root last. -/
def chain (d : Document) : List Bytes := d.certificate :: d.bundle.reverse

end Document

end Attestation.Nitro
