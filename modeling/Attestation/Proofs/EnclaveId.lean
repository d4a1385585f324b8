import Attestation.EnclaveId
import Attestation.Proofs.Base64.RoundTrip

/-!
Identifiers that are made from byte strings. They are equal exactly if the digests are, so they tell
apart whatever the digest tells apart.
-/
namespace Attestation

/-- The digest does not collide on these two byte strings. -/
def Sha2.Separates (x y : Bytes) : Prop := sha256 x = sha256 y → x = y

namespace EnclaveId

variable {x y : Bytes}

theorem digestOf_inj : digestOf x = digestOf y ↔ Sha2.sha256 x = Sha2.sha256 y := by
  simp only [digestOf, EnclaveId.mk.injEq, Base64.encode_inj Base64.standard_lawful]

theorem digestOf_eq_iff (h : Sha2.Separates x y) : digestOf x = digestOf y ↔ x = y :=
  digestOf_inj.trans ⟨h, congrArg Sha2.sha256⟩

end EnclaveId

end Attestation
