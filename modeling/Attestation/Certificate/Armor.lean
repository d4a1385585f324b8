import Attestation.Base64
import Attestation.Text.Blank

/-!
Certificates in text form: base64 between a begin line and an end line.
-/
namespace Attestation.Certificate.Armor

inductive Error where
  | malformed
  | otherLabel (label : String)
  deriving DecidableEq, Repr

def Error.message : Error → String
  | malformed => "invalid PEM: not an armored block"
  | otherLabel label => "expected a CERTIFICATE PEM block, found " ++ label

/-- Looks for a marker: the text before it in reverse order, and the text after it. After a mismatch
the search begins anew behind the character that did not fit. -/
def searchFrom (marker : List Char) : List Char → List Char → List Char →
    Option (List Char × List Char)
  | seen, [], text => some (seen, text)
  | _, _ :: _, [] => none
  | seen, m :: ms, c :: text =>
    if c = m then searchFrom marker (c :: seen) ms text
    else searchFrom marker (c :: seen) marker text

/-- The text before the first occurrence of a marker and the text after it. -/
def splitAt? (marker text : List Char) : Option (List Char × List Char) :=
  (searchFrom marker [] marker text).map fun (seen, rest) =>
    ((seen.drop marker.length).reverse, rest)

def isLayout (c : Char) : Bool := c = ' ' || c = '\n' || c = '\r' || c = '\t'

def lines (text : List Char) : List (List Char) :=
  let all := text.splitOn '\n'
  if all.getLast? = some [] then all.dropLast else all

/-- Header lines stand before the first empty line. -/
def splitHeaders (body : List Char) : List Char × List Char :=
  ((splitAt? ['\n', '\n'] body).or (splitAt? ['\r', '\n', '\r', '\n'] body)).getD ([], body)

/-- The label and the content of the first block in a text. -/
def block? (text : List Char) : Option (String × Bytes) := do
  let (_, rest) ← splitAt? "-----BEGIN ".toList text
  let (label, rest) ← splitAt? "-----".toList rest
  let (body, rest) ← splitAt? "-----END ".toList (rest.dropWhile isLayout)
  let (endLabel, _) ← splitAt? "-----".toList rest
  let (headers, data) := splitHeaders body
  if label ≠ [] ∧ label = endLabel ∧ (lines headers).all (·.contains ':') then
    let content ← Base64.decode? Base64.standard (data.filter fun c => !Text.isBlank c)
    return (String.ofList label, content)
  else none

/-- The content of a block with the label of certificates. -/
def decode (text : String) : Except Error Bytes :=
  match block? text.toList with
  | none => .error .malformed
  | some (label, content) =>
    if label = "CERTIFICATE" then .ok content else .error (.otherLabel label)

end Attestation.Certificate.Armor
