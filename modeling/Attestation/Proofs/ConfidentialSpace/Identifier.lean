import Attestation.Proofs.ConfidentialSpace.Acceptance
import Attestation.Proofs.EnclaveId
import Attestation.Proofs.Text.Utf8

/-!
What the identifier of a workload depends on: whether it runs in debug mode, and the digest of its
image. The text that is digested can be read in one way only, since the flag stands before the
digest and neither of its two words is the start of the other.
-/
namespace Attestation.ConfidentialSpace

variable {p₁ p₂ : Payload}

/-- The word for the debug flag. -/
def flagWord (debug : Bool) : List Char :=
  if debug then ['t', 'r', 'u', 'e'] else ['f', 'a', 'l', 's', 'e']

theorem toList_identified (p : Payload) :
    (identified p).toList = '1' :: ',' :: (flagWord p.isDebug ++ ',' :: p.imageDigest.toList) := by
  by_cases h : p.debugStatus = "disabled-since-boot"
  · simp [identified, Payload.isDebug, flagWord, h]
  · simp [identified, Payload.isDebug, flagWord, h]

theorem identified_inj : identified p₁ = identified p₂ ↔
    p₁.isDebug = p₂.isDebug ∧ p₁.imageDigest = p₂.imageDigest := by
  rw [← String.toList_inj, toList_identified, toList_identified]
  -- The first letter of the flag tells where the digest starts.
  cases p₁.isDebug <;> cases p₂.isDebug <;> simp [flagWord, String.toList_inj]

theorem enclaveId_faithful {rules₁ rules₂ : EnvironmentPolicy} {a₁ a₂ : Approval}
    (h₁ : Policy.approve p₁ rules₁ = .ok a₁) (h₂ : Policy.approve p₂ rules₂ = .ok a₂)
    (hdigest : Sha2.Separates (Utf8.encode (identified p₁)) (Utf8.encode (identified p₂))) :
    a₁.enclaveId = a₂.enclaveId ↔
      p₁.isDebug = p₂.isDebug ∧ p₁.imageDigest = p₂.imageDigest := by
  rw [(approve_eq_ok.1 h₁).2, (approve_eq_ok.1 h₂).2, EnclaveId.digestOf_eq_iff hdigest,
    Utf8.encode_inj, identified_inj]

/-- A workload that is accepted, in production unless the status says otherwise. -/
def specimenWorkload (debugStatus imageDigest : String) (overrides : List (String × String)) :
    Payload where
  debugStatus
  softwareName := "CONFIDENTIAL_SPACE"
  softwareVersion := none
  supportedAttributes := ["STABLE"]
  imageReference := ""
  imageDigest
  commandOverrides := []
  environmentOverrides := .ofList overrides
  restartPolicy := "Never"
  zone := none

/-- A digest that begins with the word for the debug mode of the other workload. -/
theorem enclaveId_faithful_comma :
    let p₁ := specimenWorkload "disabled-since-boot" "true,d"
      [("DEPLOYMENT_ENVIRONMENT", "prod"), ("IDENTITY_SCOPE", "uid2"),
        ("API_TOKEN_SECRET_NAME", "k")]
    let p₂ := specimenWorkload "" "d"
      [("DEPLOYMENT_ENVIRONMENT", "Integ"), ("IDENTITY_SCOPE", "EUID")]
    let rules₂ := EnvironmentPolicy.withRequired
      (.ofList ["DEPLOYMENT_ENVIRONMENT", "IDENTITY_SCOPE"])
    ∃ a₁ a₂, Policy.approve p₁ .standard = .ok a₁ ∧ Policy.approve p₂ rules₂ = .ok a₂ ∧
      Sha2.Separates (Utf8.encode (identified p₁)) (Utf8.encode (identified p₂)) ∧
      (a₁.enclaveId = a₂.enclaveId ↔
        p₁.isDebug = p₂.isDebug ∧ p₁.imageDigest = p₂.imageDigest) := by
  intro p₁ p₂ rules₂
  have hok₁ : (Policy.approve p₁ .standard).isOk = true := by decide +kernel
  have hok₂ : (Policy.approve p₂ rules₂).isOk = true := by decide +kernel
  obtain ⟨a₁, h₁⟩ := Checks.isOk_iff.1 hok₁
  obtain ⟨a₂, h₂⟩ := Checks.isOk_iff.1 hok₂
  have hne : Sha2.sha256 (Utf8.encode (identified p₁)) ≠
      Sha2.sha256 (Utf8.encode (identified p₂)) := by decide +kernel
  have hdigest : Sha2.Separates (Utf8.encode (identified p₁)) (Utf8.encode (identified p₂)) :=
    fun h => absurd h hne
  exact ⟨a₁, a₂, h₁, h₂, hdigest, enclaveId_faithful h₁ h₂ hdigest⟩

end Attestation.ConfidentialSpace
