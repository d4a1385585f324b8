import Attestation.Proofs.Engine.Stages
import Attestation.Proofs.Jwt.SearchOrder

/-!
The order in which an engine looks for required claims. Under two orders the outcomes are the same,
but for the claim that is named when several are not there.
-/
namespace Attestation

/-- The results may name different claims that are absent; all else is the same. -/
structure Outcome.Alike (o o' : Outcome) : Prop where
  result : Jwt.Alike o.result o'.result
  cache : o.cache = o'.cache
  fetched : o.fetched = o'.fetched
  log : o.log = o'.log

namespace Engine

theorem report_absence (c : Jwt.RequiredClaim) : report (.error (Jwt.absence c)) = [] := by
  cases c <;> rfl

theorem report_alike {x y : Except VerificationError (EnclaveClaims × LogEvent)}
    (h : Jwt.Alike x y) : report x = report y := by
  rcases h with rfl | ⟨c, c', rfl, rfl⟩
  · rfl
  · rw [report_absence, report_absence]

theorem conclude_alike {l l' : Jwt.Lookup (EnclaveClaims × LogEvent)} (h : l.Alike l') :
    (conclude l).Alike (conclude l') where
  result := h.result.map _
  cache := h.cache
  fetched := h.fetched
  log := by simp only [conclude, h.warnings, report_alike h.result]

theorem verify_order (engine : Engine) (source : KeySource) (cache : KeyCache) (evidence : Bytes)
    (publicKey : Option String) (now : Instant) (order order' : Jwt.SearchOrder) :
    (engine.verify source cache evidence publicKey now order).Alike
      (engine.verify source cache evidence publicKey now order') := by
  cases hissuer : engine.issuer? with
  | none =>
    obtain ⟨root, rfl⟩ := eq_nitro_of_issuer hissuer
    exact ⟨.refl _, rfl, rfl, rfl⟩
  | some issuer =>
    obtain ⟨judge, hverify⟩ := verify_of_issuer hissuer publicKey
    rw [hverify, hverify]
    exact conclude_alike ((Jwt.verify_order cache source issuer evidence now order order').andThen _)

end Engine

end Attestation
