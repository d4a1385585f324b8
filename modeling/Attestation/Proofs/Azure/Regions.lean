import Attestation.Proofs.Azure.Stated
import Attestation.Proofs.Text.Case

/-!
Which locations the list of regions bars. A location that has the name of a region as a part, up to
the case of letters of ASCII, is refused as long as the capital sigmas of that part have the same
lower-case form in the location and by themselves. Where they have not, the region is overlooked.
-/
namespace Attestation.Azure

open Text

theorem isIn_of_part {location region : String} {before part after : List Char}
    (hlocation : location.toList = before ++ part ++ after)
    (hvariants : CaseVariants part region.toList)
    (hsigmas : SigmasKeep before.reverse part after) : Policy.isIn location region = true := by
  rw [Policy.isIn, occursIn_iff, ← lowerCase_congr hvariants,
    ← lowerPart_eq_lowerCase_iff.2 hsigmas]
  have hlower : lowerCase location.toList = lowerPart [] before (part ++ after) ++
      lowerPart before.reverse part after ++
        lowerFrom (part.reverse ++ before.reverse) after := by
    rw [hlocation, lowerCase, List.append_assoc, lowerFrom_append, lowerFrom_append,
      List.append_nil, List.append_assoc]
  exact ⟨_, _, hlower.symm⟩

theorem enclaveId_refused_of_isIn {p : Payload} {regions : List String} {region : String}
    (hregion : region ∈ regions) (hin : Policy.isIn p.runtime.location region = true)
    (expectedKey : Option String) :
    ∃ violation, Policy.enclaveId p expectedKey regions = .error violation := by
  cases h : Policy.enclaveId p expectedKey regions with
  | error violation => exact ⟨violation, rfl⟩
  | ok id =>
    obtain ⟨_, hout, _⟩ := enclaveId_eq_ok.1 h
    simp [hout region hregion] at hin

theorem listed_region_refused {p : Payload} {regions : List String} {region : String}
    {before part after : List Char} (hregion : region ∈ regions)
    (hlocation : p.runtime.location.toList = before ++ part ++ after)
    (hvariants : CaseVariants part region.toList)
    (hsigmas : SigmasKeep before.reverse part after) (expectedKey : Option String) :
    ∃ violation, Policy.enclaveId p expectedKey regions = .error violation :=
  enclaveId_refused_of_isIn hregion (isIn_of_part hlocation hvariants hsigmas) expectedKey

/-- A region whose last letter is a sigma, at the end of a word in the location too. -/
theorem listed_region_refused_sigma :
    let p := compliantPayload "Azure ZONE ΕΛΛΑΣ 2" "k"
    "zone ΕΛΛΑΣ" ∈ ["china", "zone ΕΛΛΑΣ"] ∧
      p.runtime.location.toList = "Azure ".toList ++ "ZONE ΕΛΛΑΣ".toList ++ " 2".toList ∧
      CaseVariants "ZONE ΕΛΛΑΣ".toList "zone ΕΛΛΑΣ".toList ∧
      SigmasKeep "Azure ".toList.reverse "ZONE ΕΛΛΑΣ".toList " 2".toList ∧
      ∃ violation, Policy.enclaveId p (some "k") ["china", "zone ΕΛΛΑΣ"] = .error violation := by
  intro p
  have hregion : "zone ΕΛΛΑΣ" ∈ ["china", "zone ΕΛΛΑΣ"] := by decide
  have hlocation : p.runtime.location.toList =
      "Azure ".toList ++ "ZONE ΕΛΛΑΣ".toList ++ " 2".toList := by decide +kernel
  have hvariants : CaseVariants "ZONE ΕΛΛΑΣ".toList "zone ΕΛΛΑΣ".toList :=
    (map_lowerAscii_eq_iff (by decide +kernel)).1 (by decide +kernel)
  have hsigmas : SigmasKeep "Azure ".toList.reverse "ZONE ΕΛΛΑΣ".toList " 2".toList :=
    sigmasKeep_of_apart (by decide +kernel) (by decide +kernel)
  exact ⟨hregion, hlocation, hvariants, hsigmas,
    listed_region_refused hregion hlocation hvariants hsigmas (some "k")⟩

/-- The region is the first part of the location, but its sigma ends a word only by itself. -/
theorem region_overlooked :
    let p := compliantPayload "ΟΔΟΣΑ" "k"
    p.runtime.location.toList = [] ++ "ΟΔΟΣ".toList ++ "Α".toList ∧
      CaseVariants "ΟΔΟΣ".toList "ΟΔΟΣ".toList ∧
      Policy.enclaveId p (some "k") ["ΟΔΟΣ"] = .ok ⟨"d"⟩ := by
  intro p
  have hvariants : CaseVariants "ΟΔΟΣ".toList "ΟΔΟΣ".toList :=
    (map_lowerAscii_eq_iff (by decide +kernel)).1 (by decide +kernel)
  exact ⟨by decide +kernel, hvariants, enclaveId_eq_ok.2 (by decide +kernel)⟩

end Attestation.Azure
