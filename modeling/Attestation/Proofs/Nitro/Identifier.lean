import Attestation.Cbor.Writer
import Attestation.Nitro.Policy
import Attestation.Proofs.Checks
import Attestation.Proofs.EnclaveId
import Mathlib.Tactic.IntervalCases
import Mathlib.Tactic.Tauto

/-!
What the identifier of an enclave depends on: the first three registers of its document one after
another, and nothing else. Registers may be 32, 48 or 64 bytes wide, and nothing marks where one of
them ends. Identifiers therefore tell registers apart as long as the registers of both documents
are divided in the same way, or differ in their total length; for other documents they need not.
-/
namespace Attestation.Nitro

open Checks

/-! The policy. -/

theorem register_eq_ok {d : Document} {index : Nat} {value : Bytes} :
    Policy.register d index = .ok value ↔ d.registers.get? index = some value := by
  unfold Policy.register
  cases d.registers.get? index <;> simp

theorem holdsKey_iff {d : Document} {expected : String} :
    Policy.holdsKey d expected = true ↔
      ∃ key, d.publicKey = some key ∧ Base64.encode Base64.standard key = expected := by
  simp [Policy.holdsKey]

theorem enclaveId_eq_ok {d : Document} {expectedKey : Option String} {id : EnclaveId} :
    Policy.enclaveId d expectedKey = .ok id ↔
      ∃ boot kernel application, d.registers.get? 0 = some boot ∧
        d.registers.get? 1 = some kernel ∧ d.registers.get? 2 = some application ∧
        (∃ b ∈ boot, b ≠ 0) ∧
        (∀ expected, expectedKey = some expected → Policy.holdsKey d expected = true) ∧
        id = EnclaveId.digestOf (boot ++ kernel ++ application) := by
  have hdebug (boot : Bytes) : boot.all (· == 0) = true ↔ ¬∃ b ∈ boot, b ≠ 0 := by simp
  have hkey : expectedKey.any (!Policy.holdsKey d ·) = true ↔
      ¬∀ expected, expectedKey = some expected → Policy.holdsKey d expected = true := by
    cases expectedKey <;> simp
  simp only [Policy.enclaveId, bind_eq_ok, register_eq_ok, ite_error_eq_ok, hdebug, hkey, not_not,
    pure_eq_ok]
  constructor
  · intro h
    obtain ⟨boot, hboot, kernel, hkernel, application, happlication, hchecks⟩ := h
    exact ⟨boot, kernel, application, hboot, hkernel, happlication, hchecks⟩
  · intro h
    obtain ⟨boot, kernel, application, hboot, hkernel, happlication, hchecks⟩ := h
    exact ⟨boot, hboot, kernel, hkernel, application, happlication, hchecks⟩

/-! The decoder. -/

theorem check_eq_ok {d d' : Document} : d.check = .ok d' ↔ d.faults = [] ∧ d = d' := by
  unfold Document.check
  cases d.faults <;> simp

theorem faults_of_ofBytes {payload : Bytes} {d : Document}
    (h : Document.ofBytes payload = .ok d) : d.faults = [] := by
  unfold Document.ofBytes at h
  split at h
  · rename_i item _
    unfold Document.ofItem at h
    split at h
    · simp only [bind_eq_ok, check_eq_ok] at h
      obtain ⟨_, _, _, _, hfaults, rfl⟩ := h
      exact hfaults
    · simp at h
  · simp at h

theorem width_of_faults {d : Document} (h : d.faults = []) {index : Nat} {value : Bytes}
    (hvalue : d.registers.get? index = some value) :
    value.length ∈ Document.registerWidths := by
  have hentry : (index, value) ∈ d.registers.entries := by
    obtain ⟨_, _, hentries, _⟩ := List.lookup_eq_some_iff.1 hvalue
    simp [hentries]
  have hregisters : Document.registerFaults d.registers = [] := by
    simp only [Document.faults, List.append_eq_nil_iff] at h
    tauto
  have hnone := List.flatMap_eq_nil_iff.1 hregisters _ hentry
  simp only [Document.faultIf, ite_eq_right_iff, reduceCtorEq, imp_false, Bool.or_eq_true,
    decide_eq_true_eq, not_or, Bool.not_eq_true, Bool.not_eq_false'] at hnone
  simpa using hnone.2

/-! What is measured. -/

namespace Document

/-- The value of a register; an absent one counts as empty. -/
def registerValue (d : Document) (index : Nat) : Bytes := (d.registers.get? index).getD []

/-- What the identifier is the digest of. -/
def measurement (d : Document) : Bytes :=
  d.registerValue 0 ++ d.registerValue 1 ++ d.registerValue 2

/-- How the measurement is divided. -/
def widths (d : Document) : List Nat := [0, 1, 2].map fun index => (d.registerValue index).length

/-- Documents that agree on the registers that are measured. -/
def SameBoot (d d' : Document) : Prop :=
  ∀ index < 3, d.registers.get? index = d'.registers.get? index

instance (d d' : Document) : Decidable (d.SameBoot d') :=
  inferInstanceAs (Decidable (∀ index < 3, d.registers.get? index = d'.registers.get? index))

/-- The digest tells the measurements of two documents apart. -/
def NoCollision (d d' : Document) : Prop :=
  Sha2.sha256 d.measurement = Sha2.sha256 d'.measurement → d.measurement = d'.measurement

theorem SameBoot.measurement {d d' : Document} (h : d.SameBoot d') :
    d.measurement = d'.measurement := by
  simp [Document.measurement, registerValue, h 0, h 1, h 2]

theorem measurement_length (d : Document) : d.measurement.length = d.widths.sum := by
  simp [measurement, widths]

/-- Measurements that are divided in the same way agree in every part. -/
theorem registerValue_eq_of_measurement {d d' : Document}
    (hwidths : d.widths = d'.widths) (h : d.measurement = d'.measurement) :
    ∀ index < 3, d.registerValue index = d'.registerValue index := by
  simp only [widths, List.map_cons, List.map_nil, List.cons.injEq, and_true] at hwidths
  obtain ⟨hboot, hkernel, happlication⟩ := hwidths
  obtain ⟨hfirst, h₂⟩ := List.append_inj' h happlication
  obtain ⟨h₀, h₁⟩ := List.append_inj hfirst hboot
  intro index hindex
  interval_cases index
  · exact h₀
  · exact h₁
  · exact h₂

end Document

open Document

theorem present_of_enclaveId {d : Document} {expectedKey : Option String} {id : EnclaveId}
    (h : Policy.enclaveId d expectedKey = .ok id) :
    ∀ index < 3, d.registers.get? index = some (d.registerValue index) := by
  obtain ⟨boot, kernel, application, hboot, hkernel, happlication, _⟩ := enclaveId_eq_ok.1 h
  intro index hindex
  interval_cases index
  · simp [registerValue, hboot]
  · simp [registerValue, hkernel]
  · simp [registerValue, happlication]

theorem eq_digestOf_of_enclaveId {d : Document} {expectedKey : Option String} {id : EnclaveId}
    (h : Policy.enclaveId d expectedKey = .ok id) : id = EnclaveId.digestOf d.measurement := by
  obtain ⟨boot, kernel, application, hboot, hkernel, happlication, _, _, rfl⟩ :=
    enclaveId_eq_ok.1 h
  simp [measurement, registerValue, hboot, hkernel, happlication]

/-- Without an expected key, nothing else is asked than three registers outside debug mode. -/
theorem enclaveId_of_present {d : Document}
    (hpresent : ∀ index < 3, (d.registers.get? index).isSome = true)
    (hbyte : ∃ b ∈ d.registerValue 0, b ≠ 0) :
    Policy.enclaveId d none = .ok (EnclaveId.digestOf d.measurement) := by
  have hvalue : ∀ index < 3, d.registers.get? index = some (d.registerValue index) := by
    intro index hindex
    obtain ⟨value, hvalue⟩ := Option.isSome_iff_exists.1 (hpresent index hindex)
    simp [registerValue, hvalue]
  exact enclaveId_eq_ok.2 ⟨_, _, _, hvalue 0 (by decide), hvalue 1 (by decide),
    hvalue 2 (by decide), hbyte, by simp, rfl⟩

/-- How the identifiers of two documents are related. -/
structure Separated (d₁ d₂ : Document) (id₁ id₂ : EnclaveId) : Prop where
  /-- The registers beyond the third, and all other fields, have no influence. -/
  ofSameBoot : d₁.SameBoot d₂ → id₁ = id₂
  measured : d₁.NoCollision d₂ → (id₁ = id₂ ↔ d₁.measurement = d₂.measurement)
  /-- Only where measurements of one length are divided differently, registers that differ may
  share an identifier. -/
  separated : d₁.NoCollision d₂ → d₁.widths = d₂.widths ∨ d₁.widths.sum ≠ d₂.widths.sum →
    (id₁ = id₂ ↔ d₁.SameBoot d₂)
  widths : ∀ w ∈ d₁.widths ++ d₂.widths, w = 32 ∨ w = 48 ∨ w = 64

theorem mem_widths {d : Document} {payload : Bytes} {expectedKey : Option String} {id : EnclaveId}
    (h : Document.ofBytes payload = .ok d) (hid : Policy.enclaveId d expectedKey = .ok id) :
    ∀ w ∈ d.widths, w = 32 ∨ w = 48 ∨ w = 64 := by
  have hwidth : ∀ index < 3, (d.registerValue index).length ∈ registerWidths := fun index hindex =>
    width_of_faults (faults_of_ofBytes h) (present_of_enclaveId hid index hindex)
  intro w hw
  obtain ⟨index, hindex, rfl⟩ := List.mem_map.1 hw
  have hlt : index < 3 := by
    simp only [List.mem_cons, List.not_mem_nil, or_false] at hindex
    omega
  simpa [registerWidths] using hwidth index hlt

theorem enclaveId_separated {p₁ p₂ : Bytes} {d₁ d₂ : Document} {key₁ key₂ : Option String}
    {id₁ id₂ : EnclaveId}
    (h₁ : Document.ofBytes p₁ = .ok d₁) (hid₁ : Policy.enclaveId d₁ key₁ = .ok id₁)
    (h₂ : Document.ofBytes p₂ = .ok d₂) (hid₂ : Policy.enclaveId d₂ key₂ = .ok id₂) :
    Separated d₁ d₂ id₁ id₂ := by
  have hequal : id₁ = id₂ ↔ Sha2.sha256 d₁.measurement = Sha2.sha256 d₂.measurement := by
    rw [eq_digestOf_of_enclaveId hid₁, eq_digestOf_of_enclaveId hid₂, EnclaveId.digestOf_inj]
  have hsame : d₁.SameBoot d₂ → id₁ = id₂ := fun h =>
    hequal.2 (congrArg Sha2.sha256 h.measurement)
  have hmeasured : d₁.NoCollision d₂ → (id₁ = id₂ ↔ d₁.measurement = d₂.measurement) :=
    fun hnone => ⟨fun h => hnone (hequal.1 h), fun h => hequal.2 (congrArg Sha2.sha256 h)⟩
  refine ⟨hsame, hmeasured, ?_, ?_⟩
  · intro hnone hdivided
    refine ⟨?_, hsame⟩
    intro h
    have hmeasurement := (hmeasured hnone).1 h
    have hsum : d₁.widths.sum = d₂.widths.sum := by
      rw [← measurement_length, ← measurement_length, hmeasurement]
    have hvalues := registerValue_eq_of_measurement
      (hdivided.resolve_right (not_not_intro hsum)) hmeasurement
    intro index hindex
    rw [present_of_enclaveId hid₁ index hindex, present_of_enclaveId hid₂ index hindex,
      hvalues index hindex]
  · intro w hw
    rcases List.mem_append.1 hw with hw | hw
    · exact mem_widths h₁ hid₁ w hw
    · exact mem_widths h₂ hid₂ w hw

/-! Documents with no more in them than must be there. -/

def plainDocument (registers : List Bytes) : Document where
  moduleId := "m"
  digest := "SHA384"
  timestamp := 1
  registers := Table.ofList (registers.zipIdx.map Prod.swap)
  certificate := [1]
  bundle := [[1]]
  publicKey := none
  userData := none
  nonce := none

def plainPayload (registers : List Bytes) : Bytes :=
  let text (s : String) := Cbor.writeText (Utf8.encode s)
  let entry (r : Bytes × Nat) := Cbor.writeHead 0 r.2 ++ Cbor.writeBytes r.1
  Cbor.writeHead 5 6 ++ text "module_id" ++ text "m" ++ text "digest" ++ text "SHA384" ++
    text "timestamp" ++ Cbor.writeHead 0 1 ++
    text "pcrs" ++ Cbor.writeHead 5 registers.length ++ registers.zipIdx.flatMap entry ++
    text "certificate" ++ Cbor.writeBytes [1] ++
    text "cabundle" ++ Cbor.writeArray [Cbor.writeBytes [1]]

def ones (width : Nat) : Bytes := List.replicate width 1

/-- The second document differs from the first in the last byte of its third register, and has a
fourth one. -/
theorem enclaveId_separated_plain :
    let registers₁ := [ones 48, ones 32, ones 64]
    let registers₂ := [ones 48, ones 32, ones 63 ++ [2], ones 48]
    let d₁ := plainDocument registers₁
    let d₂ := plainDocument registers₂
    let id₁ := EnclaveId.digestOf d₁.measurement
    let id₂ := EnclaveId.digestOf d₂.measurement
    Document.ofBytes (plainPayload registers₁) = .ok d₁ ∧
      Document.ofBytes (plainPayload registers₂) = .ok d₂ ∧
      Policy.enclaveId d₁ none = .ok id₁ ∧ Policy.enclaveId d₂ none = .ok id₂ ∧
      d₁.NoCollision d₂ ∧ id₁ ≠ id₂ ∧ Separated d₁ d₂ id₁ id₂ := by
  intro registers₁ registers₂ d₁ d₂ id₁ id₂
  have h₁ : Document.ofBytes (plainPayload registers₁) = .ok d₁ := by decide +kernel
  have h₂ : Document.ofBytes (plainPayload registers₂) = .ok d₂ := by decide +kernel
  have hid₁ : Policy.enclaveId d₁ none = .ok id₁ :=
    enclaveId_of_present (by decide +kernel) (by decide +kernel)
  have hid₂ : Policy.enclaveId d₂ none = .ok id₂ :=
    enclaveId_of_present (by decide +kernel) (by decide +kernel)
  have hne : id₁ ≠ id₂ := by decide +kernel
  exact ⟨h₁, h₂, hid₁, hid₂, fun h => absurd (EnclaveId.digestOf_inj.2 h) hne, hne,
    enclaveId_separated h₁ hid₁ h₂ hid₂⟩

/-- Two documents that are accepted and measure the same bytes in registers of other widths. -/
theorem enclaveId_ambiguous :
    let registers₁ := [ones 32, ones 48, ones 64]
    let registers₂ := [ones 48, ones 48, ones 48]
    let d₁ := plainDocument registers₁
    let d₂ := plainDocument registers₂
    let id₁ := EnclaveId.digestOf d₁.measurement
    let id₂ := EnclaveId.digestOf d₂.measurement
    Document.ofBytes (plainPayload registers₁) = .ok d₁ ∧
      Document.ofBytes (plainPayload registers₂) = .ok d₂ ∧
      Policy.enclaveId d₁ none = .ok id₁ ∧ Policy.enclaveId d₂ none = .ok id₂ ∧
      d₁.measurement = d₂.measurement ∧
      ¬(d₁.NoCollision d₂ → (id₁ = id₂ ↔ d₁.SameBoot d₂)) := by
  intro registers₁ registers₂ d₁ d₂ id₁ id₂
  have hid₁ : Policy.enclaveId d₁ none = .ok id₁ :=
    enclaveId_of_present (by decide +kernel) (by decide +kernel)
  have hid₂ : Policy.enclaveId d₂ none = .ok id₂ :=
    enclaveId_of_present (by decide +kernel) (by decide +kernel)
  have hmeasurement : d₁.measurement = d₂.measurement := by decide +kernel
  have hdiffer : ¬d₁.SameBoot d₂ := by decide +kernel
  refine ⟨by decide +kernel, by decide +kernel, hid₁, hid₂, hmeasurement, ?_⟩
  intro hseparated
  exact hdiffer ((hseparated fun _ => hmeasurement).1 (congrArg EnclaveId.digestOf hmeasurement))

end Attestation.Nitro
