import Attestation.Azure.Policy
import Attestation.Proofs.Checks
import Attestation.Proofs.Json.Fields

/-!
What the claims about a container state themselves when the policy accepts them. Claims that are
left out have defaults, and most defaults are refused. Two of them pass: an empty location lies in
no region that has a name, and an empty key is the key that is expected if that is empty too.
-/
namespace Attestation.Azure

open Json Checks

/-- What the claims state under a name. -/
def Payload.stated? (claims : Json) (name : String) : Option Json :=
  claims.field? Payload.fields name

/-- What the claims state of the runtime under a name. -/
def Runtime.stated? (claims : Json) (name : String) : Option Json :=
  Payload.stated? claims "x-ms-runtime" >>= (·.field? Runtime.fields name)

/-! Reading. -/

theorem Runtime.of_ofTree? {v : Json} {r : Runtime}
    (h : Runtime.ofTree? (Tree.ofJson v) = some r) :
    Tree.orDefault? "" Tree.asString? ((v.field? fields "location").map Tree.ofJson) =
        some r.location ∧
      Tree.orDefault? "" Tree.asString? ((v.field? fields "publicKey").map Tree.ofJson) =
        some r.publicKey := by
  simp only [ofTree?, Option.bind_eq_bind, Option.bind_eq_some_iff] at h
  obtain ⟨values, hvalues, h⟩ := h
  obtain rfl : values = [(v.field? fields "location").map Tree.ofJson,
      (v.field? fields "publicKey").map Tree.ofJson,
      (v.field? fields "attestationUrl").map Tree.ofJson] := record?_ofJson (by decide) hvalues
  simp only [Option.bind_eq_some_iff, Option.pure_def, Option.some.injEq] at h
  obtain ⟨location, hlocation, key, hkey, url, _, rfl⟩ := h
  exact ⟨hlocation, hkey⟩

/-- The members of a payload, each read from what the claims state or in its default. -/
structure Payload.Reads (claims : Json) (p : Payload) : Prop where
  attestationType : Tree.orDefault? "" Tree.asString?
    ((stated? claims "x-ms-attestation-type").map Tree.ofJson) = some p.attestationType
  complianceStatus : Tree.orDefault? "" Tree.asString?
    ((stated? claims "x-ms-compliance-status").map Tree.ofJson) = some p.complianceStatus
  debuggable : Tree.orDefault? true Tree.asBool?
    ((stated? claims "x-ms-sevsnpvm-is-debuggable").map Tree.ofJson) = some p.debuggable
  policyDigest : Tree.orDefault? "" Tree.asString?
    ((stated? claims "x-ms-sevsnpvm-hostdata").map Tree.ofJson) = some p.policyDigest
  location : Tree.orDefault? "" Tree.asString?
    ((Runtime.stated? claims "location").map Tree.ofJson) = some p.runtime.location
  publicKey : Tree.orDefault? "" Tree.asString?
    ((Runtime.stated? claims "publicKey").map Tree.ofJson) = some p.runtime.publicKey

theorem Payload.reads_of_ofJson? {claims : Json} {p : Payload}
    (h : Payload.ofJson? claims = some p) : Payload.Reads claims p := by
  simp only [ofJson?, ofTree?, Option.bind_eq_bind, Option.bind_eq_some_iff] at h
  obtain ⟨values, hvalues, h⟩ := h
  obtain rfl : values = [(stated? claims "x-ms-attestation-type").map Tree.ofJson,
      (stated? claims "x-ms-compliance-status").map Tree.ofJson,
      (stated? claims "x-ms-sevsnpvm-is-debuggable").map Tree.ofJson,
      (stated? claims "x-ms-sevsnpvm-hostdata").map Tree.ofJson,
      (stated? claims "x-ms-runtime").map Tree.ofJson] := record?_ofJson (by decide) hvalues
  simp only [Option.bind_eq_some_iff, Option.pure_def, Option.some.injEq] at h
  obtain ⟨type, htype, status, hstatus, debuggable, hdebuggable, digest, hdigest, runtime,
    hruntime, rfl⟩ := h
  rcases orDefault?_eq_some.1 hruntime with ⟨hnone, rfl⟩ | ⟨v, hv, hread⟩
  · -- Without the runtime nothing of it is stated, and all of it is empty.
    have hsilent : ∀ name, Runtime.stated? claims name = none := by
      intro name
      simp [Runtime.stated?, hnone]
    exact ⟨htype, hstatus, hdebuggable, hdigest, by rw [hsilent]; rfl, by rw [hsilent]; rfl⟩
  · have hstated : ∀ name, Runtime.stated? claims name = v.field? Runtime.fields name := by
      intro name
      simp [Runtime.stated?, hv]
    obtain ⟨hlocation, hkey⟩ := Runtime.of_ofTree? hread
    exact ⟨htype, hstatus, hdebuggable, hdigest, by rw [hstated]; exact hlocation,
      by rw [hstated]; exact hkey⟩

/-! The policy. -/

theorem checkKind_eq_ok {p : Payload} {u : Unit} :
    Policy.checkKind p = .ok u ↔ p.attestationType = "sevsnpvm" ∧
      p.complianceStatus = "azure-compliant-uvm" ∧ p.debuggable = false := by
  simp only [Policy.checkKind, ite_error_eq_ok]
  simp [Payload.isSevSnp, Payload.isCompliantUtility]

theorem checkRegion_eq_ok {p : Payload} {regions : List String} {u : Unit} :
    Policy.checkRegion p regions = .ok u ↔
      ∀ region ∈ regions, Policy.isIn p.runtime.location region = false := by
  unfold Policy.checkRegion
  cases h : regions.find? (Policy.isIn p.runtime.location) with
  | some region =>
    simp only [reduceCtorEq, false_iff]
    intro hnone
    have hin := List.find?_some h
    simp [hnone region (List.mem_of_find?_eq_some h)] at hin
  | none => simpa using List.find?_eq_none.1 h

theorem checkKey_eq_ok {p : Payload} {expectedKey : Option String} {u : Unit} :
    Policy.checkKey p expectedKey = .ok u ↔ expectedKey = some p.runtime.publicKey := by
  cases expectedKey with
  | none => simp [Policy.checkKey]
  | some expected => simp [Policy.checkKey, eq_comm]

theorem enclaveId_eq_ok {p : Payload} {expectedKey : Option String} {regions : List String}
    {id : EnclaveId} :
    Policy.enclaveId p expectedKey regions = .ok id ↔
      (p.attestationType = "sevsnpvm" ∧ p.complianceStatus = "azure-compliant-uvm" ∧
        p.debuggable = false) ∧
      (∀ region ∈ regions, Policy.isIn p.runtime.location region = false) ∧
      expectedKey = some p.runtime.publicKey ∧ p.policyDigest ≠ "" ∧ id = ⟨p.policyDigest⟩ := by
  simp only [Policy.enclaveId, bind_eq_ok, checkKind_eq_ok, checkRegion_eq_ok, checkKey_eq_ok,
    exists_const, ite_error_eq_ok, pure_eq_ok, ne_eq]

theorem lowerFrom_eq_nil {before s : List Char} : Text.lowerFrom before s = [] ↔ s = [] := by
  cases s with
  | nil => simp [Text.lowerFrom]
  | cons c rest =>
    have hsome : Text.lowerBetween before c rest ≠ [] := by
      unfold Text.lowerBetween
      split
      · split <;> simp
      · split <;> simp
    simp [Text.lowerFrom, hsome]

/-- The empty location is in the region without a name, and in no other. -/
theorem isIn_empty {region : String} : Policy.isIn "" region = false ↔ region ≠ "" := by
  have hlower : Policy.isIn "" region = (Text.lowerFrom [] region.toList).isEmpty := rfl
  rw [hlower, List.isEmpty_eq_false_iff]
  simp [lowerFrom_eq_nil]

/-! Both together. -/

/-- What claims that are accepted state themselves. The location and the key may be missing, where
no region bars the empty location or the expected key is empty. -/
structure Stated (claims : Json) (expectedKey : Option String) (regions : List String)
    (id : EnclaveId) : Prop where
  attestationType : Payload.stated? claims "x-ms-attestation-type" = some (.string "sevsnpvm")
  complianceStatus :
    Payload.stated? claims "x-ms-compliance-status" = some (.string "azure-compliant-uvm")
  debuggable : Payload.stated? claims "x-ms-sevsnpvm-is-debuggable" = some (.bool false)
  policyDigest : Payload.stated? claims "x-ms-sevsnpvm-hostdata" = some (.string id.text)
  policyDigestFilled : id.text ≠ ""
  location : (∃ location, Runtime.stated? claims "location" = some (.string location) ∧
      ∀ region ∈ regions, Policy.isIn location region = false) ∨
    Runtime.stated? claims "location" = none ∧ "" ∉ regions
  publicKey : ∃ expected, expectedKey = some expected ∧
    (Runtime.stated? claims "publicKey" = some (.string expected) ∨
      Runtime.stated? claims "publicKey" = none ∧ expected = "")

/-- The policy accepts the claims that state all of this, and no other ones. -/
theorem enclaveId_eq_ok_iff_stated {claims : Json} {payload : Payload}
    {expectedKey : Option String} {regions : List String} {id : EnclaveId}
    (hpayload : Payload.ofJson? claims = some payload) :
    Policy.enclaveId payload expectedKey regions = .ok id ↔
      Stated claims expectedKey regions id := by
  obtain ⟨htype, hstatus, hdebuggable, hdigest, hlocation, hkey⟩ :=
    Payload.reads_of_ofJson? hpayload
  rw [text_orDefault?_iff] at htype hstatus hdigest hlocation hkey
  rw [bool_orDefault?_iff] at hdebuggable
  rw [enclaveId_eq_ok]
  constructor
  · intro h
    obtain ⟨⟨hsev, hcompliant, hlocked⟩, hregions, hexpected, hfilled, rfl⟩ := h
    refine ⟨?_, ?_, ?_, ?_, hfilled, ?_, payload.runtime.publicKey, hexpected, ?_⟩
    · rw [hsev] at htype
      exact htype.resolve_left (by simp)
    · rw [hcompliant] at hstatus
      exact hstatus.resolve_left (by simp)
    · rw [hlocked] at hdebuggable
      exact hdebuggable.resolve_left (by simp)
    · exact hdigest.resolve_left fun h => hfilled h.2.symm
    · rcases hlocation with ⟨hnone, hempty⟩ | hstated
      · refine .inr ⟨hnone, fun hmem => ?_⟩
        have hout := hregions "" hmem
        rw [← hempty] at hout
        exact isIn_empty.1 hout rfl
      · exact .inl ⟨_, hstated, hregions⟩
    · rcases hkey with ⟨hnone, hempty⟩ | hstated
      · exact .inr ⟨hnone, hempty.symm⟩
      · exact .inl hstated
  · intro h
    have hsev : "sevsnpvm" = payload.attestationType := by simpa [h.attestationType] using htype
    have hcompliant : "azure-compliant-uvm" = payload.complianceStatus := by
      simpa [h.complianceStatus] using hstatus
    have hlocked : false = payload.debuggable := by simpa [h.debuggable] using hdebuggable
    have hid : id.text = payload.policyDigest := by simpa [h.policyDigest] using hdigest
    refine ⟨⟨hsev.symm, hcompliant.symm, hlocked.symm⟩, ?_, ?_, hid ▸ h.policyDigestFilled, ?_⟩
    · intro region hmem
      rcases h.location with ⟨location, hstated, hregions⟩ | ⟨hnone, hnameless⟩
      · have heq : location = payload.runtime.location := by simpa [hstated] using hlocation
        exact heq ▸ hregions region hmem
      · have hempty : "" = payload.runtime.location := by simpa [hnone] using hlocation
        exact hempty ▸ isIn_empty.2 fun h => hnameless (h ▸ hmem)
    · obtain ⟨expected, rfl, hstated | ⟨hnone, rfl⟩⟩ := h.publicKey
      · have heq : expected = payload.runtime.publicKey := by simpa [hstated] using hkey
        rw [heq]
      · have hempty : "" = payload.runtime.publicKey := by simpa [hnone] using hkey
        rw [hempty]
    · rw [← hid]

/-- Claims that the policy accepts as they are, with the given members in their runtime. -/
def compliantClaims (runtime : List (String × String)) : Json :=
  .ofMembers [
    ("x-ms-attestation-type", .string "sevsnpvm"),
    ("x-ms-compliance-status", .string "azure-compliant-uvm"),
    ("x-ms-sevsnpvm-is-debuggable", .bool false),
    ("x-ms-sevsnpvm-hostdata", .string "d"),
    ("x-ms-runtime", .ofMembers (runtime.map fun (name, text) => (name, .string text)))]

def compliantPayload (location key : String) : Payload :=
  ⟨"sevsnpvm", "azure-compliant-uvm", false, "d", ⟨location, key, none⟩⟩

theorem enclaveId_eq_ok_iff_stated_specimen :
    let claims := compliantClaims [("location", "East US"), ("publicKey", "k")]
    Payload.ofJson? claims = some (compliantPayload "East US" "k") ∧
      Policy.enclaveId (compliantPayload "East US" "k") (some "k") Policy.defaultRegions =
        .ok ⟨"d"⟩ ∧
      Stated claims (some "k") Policy.defaultRegions ⟨"d"⟩ := by
  intro claims
  have hpayload : Payload.ofJson? claims = some (compliantPayload "East US" "k") := by
    decide +kernel
  have hid : Policy.enclaveId (compliantPayload "East US" "k") (some "k") Policy.defaultRegions =
      .ok ⟨"d"⟩ :=
    enclaveId_eq_ok.2 (by decide +kernel)
  exact ⟨hpayload, hid, (enclaveId_eq_ok_iff_stated hpayload).1 hid⟩

/-- Claims that do not say where the container runs pass the list of regions, and claims without a
key pass the comparison with an empty one. -/
theorem accepted_unstated :
    (Payload.ofJson? (compliantClaims [("publicKey", "k")]) = some (compliantPayload "" "k") ∧
      Policy.enclaveId (compliantPayload "" "k") (some "k") Policy.defaultRegions = .ok ⟨"d"⟩ ∧
      (Runtime.stated? (compliantClaims [("publicKey", "k")]) "location").isNone = true) ∧
    Payload.ofJson? (compliantClaims [("location", "East US")]) =
        some (compliantPayload "East US" "") ∧
      Policy.enclaveId (compliantPayload "East US" "") (some "") Policy.defaultRegions =
        .ok ⟨"d"⟩ ∧
      (Runtime.stated? (compliantClaims [("location", "East US")]) "publicKey").isNone = true :=
  ⟨⟨by decide +kernel, enclaveId_eq_ok.2 (by decide +kernel), by decide +kernel⟩,
    by decide +kernel, enclaveId_eq_ok.2 (by decide +kernel), by decide +kernel⟩

end Attestation.Azure
