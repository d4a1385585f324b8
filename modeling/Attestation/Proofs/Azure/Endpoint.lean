import Attestation.Azure.Verification
import Attestation.ConfidentialSpace.Verification
import Mathlib.Data.List.DropRight

/-!
The addresses of attestation services. How many slashes an endpoint ends in makes no difference, and
nothing else about it is lost on the way to the place where the keys of the service are.
-/
namespace Attestation.PlatformConfig

def slashes (n : Nat) : String := String.ofList (List.replicate n '/')

/-- Endpoints that differ in nothing but the number of slashes at their ends. -/
def SameService (endpoint endpoint' : String) : Prop :=
  ∃ base n m, endpoint = base ++ slashes n ∧ endpoint' = base ++ slashes m

theorem toList_issuer (endpoint : String) :
    (issuer endpoint).toList = endpoint.toList.rdropWhile isSlash :=
  String.toList_ofList

theorem issuer_append_slashes (endpoint : String) (n : Nat) :
    issuer (endpoint ++ slashes n) = issuer endpoint := by
  apply String.toList_inj.1
  rw [toList_issuer, toList_issuer, String.toList_append, slashes, String.toList_ofList]
  induction n with
  | zero => rw [List.replicate_zero, List.append_nil]
  | succ n ih =>
    rw [List.replicate_succ', ← List.append_assoc, List.rdropWhile_concat_pos _ _ _ rfl, ih]

/-- What is cut off an endpoint is slashes. -/
theorem exists_slashes (endpoint : String) : ∃ n, endpoint = issuer endpoint ++ slashes n := by
  have hslashes : endpoint.toList.rtakeWhile isSlash =
      List.replicate (endpoint.toList.rtakeWhile isSlash).length '/' :=
    List.eq_replicate_iff.2 ⟨rfl, fun _ hc => eq_of_beq (List.mem_rtakeWhile_imp (p := isSlash) hc)⟩
  refine ⟨(endpoint.toList.rtakeWhile isSlash).length, ?_⟩
  apply String.toList_inj.1
  rw [String.toList_append, toList_issuer, slashes, String.toList_ofList, ← hslashes,
    List.rdropWhile_append_rtakeWhile]

theorem issuer_eq_iff {endpoint endpoint' : String} :
    issuer endpoint = issuer endpoint' ↔ SameService endpoint endpoint' := by
  constructor
  · intro h
    obtain ⟨n, hn⟩ := exists_slashes endpoint
    obtain ⟨m, hm⟩ := exists_slashes endpoint'
    exact ⟨issuer endpoint, n, m, hn, h ▸ hm⟩
  · rintro ⟨base, n, m, rfl, rfl⟩
    rw [issuer_append_slashes, issuer_append_slashes]

theorem certificatesUrl_inj {endpoint endpoint' : String} :
    certificatesUrl endpoint = certificatesUrl endpoint' ↔ issuer endpoint = issuer endpoint' := by
  simp only [certificatesUrl, String.append_left_inj]

/-- The keys of an attestation service are not where the ones of Confidential Space are. -/
theorem certificatesUrl_ne (endpoint : String) :
    certificatesUrl endpoint ≠ ConfidentialSpace.issuer.keysUrl := by
  intro h
  have hlast := congrArg (fun url => url.toList.getLast?) h
  have hservice : (certificatesUrl endpoint).toList.getLast? = some 's' := by
    rw [certificatesUrl, String.toList_append, List.getLast?_append]
    rfl
  have hplatform : ConfidentialSpace.issuer.keysUrl.toList.getLast? = some 'm' := by decide +kernel
  rw [hservice, hplatform] at hlast
  exact absurd hlast (by decide)

end Attestation.PlatformConfig
