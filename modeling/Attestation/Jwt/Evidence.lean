import Attestation.Base64
import Attestation.Jwt.Header
import Attestation.Text.Blank

/-!
Tokens in compact form, well-formed but not yet verified: header, payload and signature, each in
base64, separated by dots.
-/
namespace Attestation.Jwt

structure Evidence where
  /-- The token without blanks around it. -/
  token : String
  header : Header
  payload : Bytes
  signature : Bytes
  /-- What the signature covers: header and payload as they are written, with the dot. -/
  signedBytes : Bytes
  deriving DecidableEq, Repr

namespace Evidence

inductive Segment where
  | header
  | payload
  | signature
  deriving DecidableEq, Repr

def Segment.name : Segment → String
  | header => "header"
  | payload => "payload"
  | signature => "signature"

inductive Error where
  | notUtf8
  | segmentCount
  | unsigned
  | notBase64 (segment : Segment)
  | payloadNotObject
  | header
  | noKeyId
  deriving DecidableEq, Repr

def Error.message : Error → String
  | notUtf8 => "token is not UTF-8"
  | segmentCount => "token must have three dot-separated segments"
  | unsigned => "token is unsigned"
  | notBase64 segment => "token " ++ segment.name ++ " is not base64url"
  | payloadNotObject => "token payload is not a claims object"
  | header => "invalid token header: not a header"
  | noKeyId => "token header has no kid"

def segment (name : Segment) (text : List Char) : Except Error Bytes :=
  match Base64.decodeUnpadded? Base64.urlSafe text with
  | some bytes => .ok bytes
  | none => .error (.notBase64 name)

def isObject : Json → Bool
  | .object _ => true
  | _ => false

def ofSegments (token header payload signature : List Char) : Except Error Evidence := do
  if signature.isEmpty then .error .unsigned
  else
    let headerBytes ← segment .header header
    let payloadBytes ← segment .payload payload
    let signatureBytes ← segment .signature signature
    if ((Json.parse? payloadBytes).map isObject).getD false then
      match Header.ofBytes? headerBytes with
      | some parsed =>
        return {
          token := String.ofList token
          header := parsed
          payload := payloadBytes
          signature := signatureBytes
          signedBytes := Utf8.encodeChars (header ++ '.' :: payload) }
      | none => .error .header
    else .error .payloadNotObject

/-- Reads a token from text; blanks around it do not count. -/
def parse (text : List Char) : Except Error Evidence :=
  let token := Text.trim text
  match token.splitOn '.' with
  | [header, payload, signature] => ofSegments token header payload signature
  | _ => .error .segmentCount

def ofBytes (bytes : Bytes) : Except Error Evidence :=
  match Utf8.decodeChars? bytes with
  | some text => parse text
  | none => .error .notUtf8

/-- The name of the key that is said to have signed the token. -/
def keyId (e : Evidence) : Except Error String :=
  match e.header.keyId with
  | some id => .ok id
  | none => .error .noKeyId

end Evidence

end Attestation.Jwt
