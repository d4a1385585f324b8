import Attestation.Base64
import Attestation.Cbor.Writer
import Attestation.Nitro.Document
import Attestation.Text.Blank

/-!
The signed envelope around an attestation document: an array of protected header, unprotected
header, payload and signature, as it is or in base64. The signature covers the bytes of the payload
as they came, not the document read from them.
-/
namespace Attestation.Nitro

structure Envelope where
  protectedHeader : Bytes
  payload : Bytes
  /-- The two scalars side by side. -/
  signature : Bytes
  document : Document
  deriving DecidableEq

namespace Envelope

inductive Error where
  | empty
  | neither
  | unreadable
  | unexpectedTag (n : Nat)
  | notFourParts
  | wrongType (name : String)
  | unreadableHeader
  | headerNotMap
  | headerAlgorithm
  | signatureLength (length : Nat)
  | document (cause : Document.Error)
  deriving DecidableEq, Repr

/-- Bytes of a signature. -/
def signatureWidth : Nat := 96

def Error.message : Error → String
  | empty => "empty evidence"
  | neither => "evidence is neither CBOR nor base64"
  | unreadable => "invalid CBOR: not an item"
  | unexpectedTag n => "unexpected CBOR tag " ++ toString n
  | notFourParts => "COSE_Sign1 must be a 4-element array"
  | wrongType name => "field " ++ name ++ " has the wrong type"
  | unreadableHeader => "invalid protected header: not an item"
  | headerNotMap => "protected header must be a map"
  | headerAlgorithm => "protected header must declare ES384 only"
  | signatureLength length =>
    "signature must be " ++ toString signatureWidth ++ " bytes, got " ++ toString length
  | document cause => cause.message

/-- The tag of envelopes with one signature, which may be left out. -/
def envelopeTag : Nat := 18

def untagged : Cbor.Item → Except Error Cbor.Item
  | .tag n inner => if n = envelopeTag then .ok inner else .error (.unexpectedTag n)
  | item => .ok item

def bytesOf (name : String) : Cbor.Item → Except Error Bytes
  | .bytes content => .ok content
  | _ => .error (.wrongType name)

/-- The header key of the algorithm. -/
def algorithmKey : Int := 1

/-- ECDSA with SHA-384. -/
def algorithm : Int := -35

/-- The protected header names the algorithm and nothing else. -/
def checkHeader (header : Bytes) : Except Error Unit :=
  match Cbor.Item.ofBytes? header with
  | none => .error .unreadableHeader
  | some (.map [(.integer key, .integer value)]) =>
    if key = algorithmKey ∧ value = algorithm then .ok () else .error .headerAlgorithm
  | some (.map _) => .error .headerAlgorithm
  | some _ => .error .headerNotMap

def ofParts (header payload signature : Bytes) : Except Error Envelope := do
  checkHeader header
  if signature.length ≠ signatureWidth then .error (.signatureLength signature.length)
  else
    match Document.ofBytes payload with
    | .ok document => return { protectedHeader := header, payload, signature, document }
    | .error cause => .error (.document cause)

def ofItem (item : Cbor.Item) : Except Error Envelope := do
  match ← untagged item with
  | .array [header, _, payload, signature] =>
    let header ← bytesOf "protected header" header
    let payload ← bytesOf "payload" payload
    let signature ← bytesOf "signature" signature
    ofParts header payload signature
  | _ => .error .notFourParts

/-- Reads an envelope that is not in base64. -/
def ofBytes (bytes : Bytes) : Except Error Envelope :=
  match Cbor.Item.ofBytes? bytes with
  | some item => ofItem item
  | none => .error .unreadable

/-- The bytes that a base64 text stands for; blanks around it do not count. -/
def dearmored? (evidence : Bytes) : Option Bytes := do
  let text ← Utf8.decodeChars? evidence
  Base64.decode? Base64.standard (Text.trim text)

/-- The first byte of an array of four items. -/
def arrayMark : UInt8 := 0x84

/-- The byte of the envelope tag. -/
def tagMark : UInt8 := 0xd2

/-- Reads evidence in either form; its first byte tells them apart. -/
def decode : Bytes → Except Error Envelope
  | [] => .error .empty
  | first :: rest =>
    if first = arrayMark ∨ first = tagMark then ofBytes (first :: rest)
    else
      match dearmored? (first :: rest) with
      | some bytes => ofBytes bytes
      | none => .error .neither

/-- The text that signatures of this kind begin with, `Signature1`. -/
def signatureContext : Bytes := [0x53, 0x69, 0x67, 0x6e, 0x61, 0x74, 0x75, 0x72, 0x65, 0x31]

/-- The bytes under the signature: the context, the protected header, no further data, and the
payload. -/
def signedMessage (e : Envelope) : Bytes :=
  Cbor.writeArray [Cbor.writeText signatureContext, Cbor.writeBytes e.protectedHeader,
    Cbor.writeBytes [], Cbor.writeBytes e.payload]

end Envelope

end Attestation.Nitro
