import Attestation.Calendar
import Attestation.Certificate.Name
import Attestation.Instant

/-!
Public key certificates: reading them, the bytes their signature covers, and the few fields that
trust depends on.
-/
namespace Attestation.Certificate

def digit? (b : UInt8) : Option Nat :=
  if 48 ≤ b ∧ b ≤ 57 then some (b.toNat - 48) else none

def twoDigits? : Bytes → Option (Nat × Bytes)
  | a :: b :: rest => do
    let a ← digit? a
    let b ← digit? b
    return (10 * a + b, rest)
  | _ => none

/-- A point in time with the element that states it. -/
structure Time where
  element : Der.Element
  seconds : Nat
  deriving DecidableEq, Repr

namespace Time

/-- The seconds since 1970 of what follows the year: month, day, time of day and a final `Z`. -/
def inYear? (year : Nat) (rest : Bytes) : Option Nat := do
  let (month, rest) ← twoDigits? rest
  let (day, rest) ← twoDigits? rest
  let (hour, rest) ← twoDigits? rest
  let (minute, rest) ← twoDigits? rest
  let (second, rest) ← twoDigits? rest
  let date : Calendar.Date := ⟨year, month, day⟩
  if rest = [90] ∧ date.isValid ∧ hour ≤ 23 ∧ minute ≤ 59 ∧ second ≤ 59 then
    return ((date.toDays * 24 + hour) * 60 + minute) * 60 + second
  else none

/-- Years of two digits lie between 1950 and 2049. -/
def ofElement? (e : Der.Element) : Option Time :=
  if e.tag = Der.utcTime then do
    let (year, rest) ← twoDigits? e.content
    let seconds ← inYear? (if 50 ≤ year then 1900 + year else 2000 + year) rest
    return ⟨e, seconds⟩
  else if e.tag = Der.generalizedTime then do
    let (century, rest) ← twoDigits? e.content
    let (year, rest) ← twoDigits? rest
    let seconds ← inYear? (100 * century + year) rest
    return ⟨e, seconds⟩
  else none

def instant (t : Time) : Instant := .ofSeconds t.seconds

end Time

/-- An algorithm and its parameters. -/
structure Algorithm where
  id : ObjectId
  parameters : Option Der.Element
  deriving DecidableEq, Repr

namespace Algorithm

def ofElement? (e : Der.Element) : Option Algorithm := do
  match ← e.inside? Der.sequence with
  | [id] =>
    let id ← ObjectId.ofElement? id
    return ⟨id, none⟩
  | [id, parameters] =>
    let id ← ObjectId.ofElement? id
    return ⟨id, some parameters⟩
  | _ => none

def element (a : Algorithm) : Der.Element :=
  Der.construct Der.sequence (a.id.element :: a.parameters.toList)

end Algorithm

/-- A string of bits: the unused ones are at the end of the last octet. -/
structure Bits where
  unused : Nat
  octets : Bytes
  deriving DecidableEq, Repr

namespace Bits

def ofElement? (e : Der.Element) (tag : UInt8) : Option Bits := do
  let content ← e.expect? tag
  let (unused, octets) ← Der.bits? content
  return ⟨unused, octets⟩

def element (b : Bits) (tag : UInt8) : Der.Element := ⟨tag, UInt8.ofNat b.unused :: b.octets⟩

/-- The octets of a string that uses all bits of them. -/
def whole? (b : Bits) : Option Bytes := if b.unused = 0 then some b.octets else none

end Bits

structure Extension where
  id : ObjectId
  critical : Bool
  value : Bytes
  deriving DecidableEq, Repr

namespace Extension

def ofElement? (e : Der.Element) : Option Extension := do
  match ← e.inside? Der.sequence with
  | [id, value] =>
    let id ← ObjectId.ofElement? id
    let value ← value.expect? Der.octetString
    return ⟨id, false, value⟩
  | [id, critical, value] =>
    let id ← ObjectId.ofElement? id
    let critical ← critical.expect? Der.boolean >>= Der.boolean?
    let value ← value.expect? Der.octetString
    return ⟨id, critical, value⟩
  | _ => none

/-- A flag that is not set is not written. -/
def element (x : Extension) : Der.Element :=
  let flag := if x.critical then [⟨Der.boolean, [0xff]⟩] else []
  Der.construct Der.sequence (x.id.element :: flag ++ [⟨Der.octetString, x.value⟩])

end Extension

/-- The field tagged with a number, and the elements after it. Tagged fields of a lower number that
stand before it are passed over. -/
def taggedField (n : Nat) : List Der.Element → Option Der.Element × List Der.Element
  | [] => (none, [])
  | e :: rest =>
    match Der.contextNumber? e.tag with
    | none => (none, e :: rest)
    | some m =>
      if m < n then taggedField n rest
      else if m = n then (some e, rest)
      else (none, e :: rest)

/-- The single element inside an explicitly tagged field. -/
def explicit? (n : Nat) (e : Der.Element) : Option Der.Element :=
  e.expect? (Der.contextTag true n) >>= Der.single?

end Certificate

structure Certificate where
  /-- Zero, one or two; zero is not written. -/
  version : Nat
  serial : Bytes
  innerAlgorithm : Certificate.Algorithm
  issuer : Certificate.Name
  notBefore : Certificate.Time
  notAfter : Certificate.Time
  subject : Certificate.Name
  keyAlgorithm : Certificate.Algorithm
  key : Certificate.Bits
  issuerUnique : Option Certificate.Bits
  subjectUnique : Option Certificate.Bits
  extensions : Option (List Certificate.Extension)
  signatureAlgorithm : Certificate.Algorithm
  signature : Certificate.Bits
  deriving DecidableEq, Repr

namespace Certificate

/-- The longest serial number, in octets. -/
def serialLimit : Nat := 21

def serial? (e : Der.Element) : Option Bytes := do
  let octets ← e.expect? Der.integer
  if Der.isMinimal octets ∧ octets.length ≤ serialLimit then return octets else none

def version? : Option Der.Element → Option Nat
  | none => some 0
  | some field => do
    let inner ← explicit? 0 field
    let n ← inner.expect? Der.integer >>= Der.unsigned?
    if n ≤ 2 then return n else none

def uniqueId? (n : Nat) : Option Der.Element → Option (Option Bits)
  | none => some none
  | some field => (Bits.ofElement? field (Der.contextTag false n)).map some

def extensions? : Option Der.Element → Option (Option (List Extension))
  | none => some none
  | some field => do
    let inner ← explicit? 3 field
    let elements ← inner.inside? Der.sequence
    let list ← elements.mapM Extension.ofElement?
    return some list

def validity? (e : Der.Element) : Option (Time × Time) := do
  match ← e.inside? Der.sequence with
  | [a, b] =>
    let a ← Time.ofElement? a
    let b ← Time.ofElement? b
    return (a, b)
  | _ => none

def subjectKey? (e : Der.Element) : Option (Algorithm × Bits) := do
  match ← e.inside? Der.sequence with
  | [algorithm, key] =>
    let algorithm ← Algorithm.ofElement? algorithm
    let key ← Bits.ofElement? key Der.bitString
    return (algorithm, key)
  | _ => none

def ofElements? (signed : List Der.Element) (signatureAlgorithm : Algorithm) (signature : Bits) :
    Option Certificate := do
  let (field, rest) := taggedField 0 signed
  let version ← version? field
  match rest with
  | serial :: inner :: issuer :: validity :: subject :: key :: rest =>
    let serial ← serial? serial
    let innerAlgorithm ← Algorithm.ofElement? inner
    let issuer ← Name.ofElement? issuer
    let (notBefore, notAfter) ← validity? validity
    let subject ← Name.ofElement? subject
    let (keyAlgorithm, key) ← subjectKey? key
    let (field, rest) := taggedField 1 rest
    let issuerUnique ← uniqueId? 1 field
    let (field, rest) := taggedField 2 rest
    let subjectUnique ← uniqueId? 2 field
    let (field, rest) := taggedField 3 rest
    let extensions ← extensions? field
    if rest.isEmpty then
      return { version, serial, innerAlgorithm, issuer, notBefore, notAfter, subject, keyAlgorithm,
               key, issuerUnique, subjectUnique, extensions, signatureAlgorithm, signature }
    else none
  | _ => none

/-- Reads a certificate that takes up the whole byte string. -/
def ofDer? (der : Bytes) : Option Certificate := do
  let outer ← Der.single? der
  match ← outer.inside? Der.sequence with
  | [signed, algorithm, signature] =>
    let elements ← signed.inside? Der.sequence
    let algorithm ← Algorithm.ofElement? algorithm
    let signature ← Bits.ofElement? signature Der.bitString
    ofElements? elements algorithm signature
  | _ => none

/-- The part under the signature, in the one encoding its fields have. -/
def signedElement (c : Certificate) : Der.Element :=
  let version :=
    if c.version = 0 then []
    else [Der.construct (Der.contextTag true 0) [⟨Der.integer, [UInt8.ofNat c.version]⟩]]
  let issuerUnique := c.issuerUnique.toList.map (·.element (Der.contextTag false 1))
  let subjectUnique := c.subjectUnique.toList.map (·.element (Der.contextTag false 2))
  let extensions := c.extensions.toList.map fun list =>
    Der.construct (Der.contextTag true 3)
      [Der.construct Der.sequence (list.map Extension.element)]
  Der.construct Der.sequence <| version ++
    [⟨Der.integer, c.serial⟩, c.innerAlgorithm.element, c.issuer.element,
      Der.construct Der.sequence [c.notBefore.element, c.notAfter.element], c.subject.element,
      Der.construct Der.sequence [c.keyAlgorithm.element, c.key.element Der.bitString]] ++
    issuerUnique ++ subjectUnique ++ extensions

def signedBytes (c : Certificate) : Bytes := c.signedElement.encode

/-- Both ends of the validity window belong to it. -/
def validAt (c : Certificate) (now : Instant) : Bool :=
  c.notBefore.instant ≤ now && now ≤ c.notAfter.instant

def allValidAt (chain : List Certificate) (now : Instant) : Bool := chain.all (·.validAt now)

inductive Error where
  | unreadable
  | unusedKeyBits
  | unsupportedKey (algorithm : ObjectId)
  | malformedConstraints
  deriving DecidableEq, Repr

def Error.message : Error → String
  | unreadable => "invalid DER certificate: not a certificate"
  | unusedKeyBits => "subject public key has unused bits"
  | unsupportedKey algorithm => "unsupported subject public key algorithm " ++ algorithm.text
  | malformedConstraints => "malformed basicConstraints extension: not a constraint"

def read (der : Bytes) : Except Error Certificate :=
  match ofDer? der with
  | some c => .ok c
  | none => .error .unreadable

/-- The subject's key as the certificate carries it. -/
def publicKey (c : Certificate) : Except Error Bytes :=
  match c.key.whole? with
  | some octets => .ok octets
  | none => .error .unusedKeyBits

inductive KeyFamily where
  | rsa
  | ec
  deriving DecidableEq, Repr

def rsaKey : ObjectId := .ofNumbers [1, 2, 840, 113549, 1, 1, 1]

def ecKey : ObjectId := .ofNumbers [1, 2, 840, 10045, 2, 1]

def keyFamily (c : Certificate) : Except Error KeyFamily :=
  if c.keyAlgorithm.id = rsaKey then .ok .rsa
  else if c.keyAlgorithm.id = ecKey then .ok .ec
  else .error (.unsupportedKey c.keyAlgorithm.id)

def basicConstraints : ObjectId := .ofNumbers [2, 5, 29, 19]

/-- The flag of a constraint: it may be left out, and a path length below 256 may follow. -/
def authorityFlag? (value : Bytes) : Option Bool := do
  let outer ← Der.single? value
  let elements ← outer.inside? Der.sequence
  let (flag, rest) ← match elements with
    | e :: rest =>
      if e.tag = Der.boolean then (Der.boolean? e.content).map (·, rest)
      else some (false, elements)
    | [] => some (false, [])
  match rest with
  | [] => return flag
  | [length] =>
    let n ← length.expect? Der.integer >>= Der.unsigned?
    if n < 256 then return flag else none
  | _ => none

/-- Whether the certificate may sign others. The extension that says so may occur once. -/
def isAuthority (c : Certificate) : Except Error Bool :=
  match (c.extensions.getD []).filter (·.id = basicConstraints) with
  | [] => .ok false
  | [x] =>
    match authorityFlag? x.value with
    | some flag => .ok flag
    | none => .error .malformedConstraints
  | _ => .error .malformedConstraints

end Certificate

end Attestation
