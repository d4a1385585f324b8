import Attestation.Base64
import Attestation.Calendar
import Attestation.Json.Basic
import Attestation.Nitro.Document

/-!
The claims of an attestation document that are kept for audit.
-/
namespace Attestation.Nitro.Document

def base64Json (bytes : Bytes) : Json := .string (Base64.encode Base64.standard bytes)

/-- Registers in hexadecimal under their indices; the time as text, or null if it has none. -/
def audit (d : Document) : Json :=
  .ofMembers [
    ("module_id", .string d.moduleId),
    ("digest", .string d.digest),
    ("timestamp", .orNull ((Calendar.timestamp? d.timestamp).map .string)),
    ("pcrs", .ofMembers (d.registers.entries.map fun (index, value) =>
      (toString index, .string (Hex.encode value)))),
    ("public_key", .orNull (d.publicKey.map base64Json)),
    ("user_data", .orNull (d.userData.map base64Json)),
    ("nonce", .orNull (d.nonce.map base64Json))]

end Attestation.Nitro.Document
