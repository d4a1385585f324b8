import Attestation.Jwt.Verification
import Attestation.Proofs.Checks

/-!
The order in which required claims are looked for. Of several claims that are not there it decides
which one is named in the refusal, and it decides nothing else.
-/
namespace Attestation.Jwt

open Checks

/-- The claim is required and is not there. -/
def Identity.Absent (i : Identity) (expected : Expectations) (c : RequiredClaim) : Prop :=
  expected.requires c = true ∧ i.has c = false

/-- The refusal of a token that lacks a required claim. -/
def absence (c : RequiredClaim) : VerificationError := .ofFault (.missingClaim c.name)

/-- The same result, or two refusals for want of a claim, which need not name the same one. -/
def Alike {α : Type} (x y : Except VerificationError α) : Prop :=
  x = y ∨ ∃ c c', x = .error (absence c) ∧ y = .error (absence c')

structure Lookup.Alike {α : Type} (l l' : Lookup α) : Prop where
  result : Jwt.Alike l.result l'.result
  cache : l.cache = l'.cache
  fetched : l.fetched = l'.fetched
  warnings : l.warnings = l'.warnings

variable {i : Identity} {expected : Expectations} {order : SearchOrder} {c : RequiredClaim}

/-! The claims of one token. -/

theorem SearchOrder.mem_claims (order : SearchOrder) (c : RequiredClaim) : c ∈ order.claims := by
  rw [order.complete.mem_iff]
  cases c <;> decide

theorem missing?_eq_none : i.missing? expected order = none ↔ ∀ c, ¬i.Absent expected c := by
  simp [Identity.missing?, Identity.Absent, order.mem_claims]

theorem absent_of_missing? (h : i.missing? expected order = some c) : i.Absent expected c := by
  simpa [Identity.Absent] using List.find?_some h

theorem check_of_absent (h : i.Absent expected c) (order : SearchOrder) :
    ∃ named, i.Absent expected named ∧
      i.check expected order = .error (.missingClaim named.name) := by
  cases hmissing : i.missing? expected order with
  | none => exact absurd h (missing?_eq_none.1 hmissing c)
  | some named => exact ⟨named, absent_of_missing? hmissing, by rw [Identity.check, hmissing]⟩

theorem check_of_complete (h : ∀ c, ¬i.Absent expected c) (order : SearchOrder) :
    i.check expected order = i.compare expected := by
  rw [Identity.check, missing?_eq_none.2 h]

theorem check_passes_iff : i.check expected order = .ok () ↔
    (∀ c, ¬i.Absent expected c) ∧ i.compare expected = .ok () := by
  have hcomplete := @missing?_eq_none i expected order
  rw [← hcomplete, Identity.check]
  cases i.missing? expected order with
  | none => simp
  | some named => simp

/-- An order that begins with the claim. -/
def SearchOrder.startingWith : RequiredClaim → SearchOrder
  | .expiry => .standard
  | .issuer => { claims := [.issuer, .expiry, .audience] }
  | .audience => { claims := [.audience, .expiry, .issuer] }

theorem RequiredClaim.name_inj {c c' : RequiredClaim} : c.name = c'.name ↔ c = c' := by
  cases c <;> cases c' <;> decide

theorem compare_eq_error {fault : Fault} (h : i.compare expected = .error fault) :
    fault = .invalidIssuer ∨ fault = .invalidAudience ∧ expected.audience ≠ none := by
  unfold Identity.compare at h
  split at h
  · exact .inl (Except.error.inj h).symm
  · split at h
    · rename_i haudience
      refine .inr ⟨(Except.error.inj h).symm, ?_⟩
      intro hnone
      simp [hnone] at haudience
    · cases h

/-- The claims that can be named are the absent ones, each of them under some order. -/
theorem exists_order_iff : (∃ order, i.check expected order = .error (.missingClaim c.name)) ↔
    i.Absent expected c := by
  constructor
  · intro h
    obtain ⟨order, h⟩ := h
    unfold Identity.check at h
    split at h
    · rename_i named hmissing
      obtain rfl : named = c := RequiredClaim.name_inj.1 (by simpa using h)
      exact absent_of_missing? hmissing
    · rcases compare_eq_error h with hfault | ⟨hfault, _⟩
      · cases hfault
      · cases hfault
  · intro h
    obtain ⟨hrequired, hmissing⟩ := h
    refine ⟨.startingWith c, ?_⟩
    have hfirst : i.missing? expected (.startingWith c) = some c := by
      cases c with
      | expiry | issuer | audience =>
        exact List.find?_cons_of_pos (by simp [hrequired, hmissing])
    rw [Identity.check, hfirst]

example : [.standard, .startingWith .issuer].map (Identity.check ⟨false, none, none⟩ ⟨"i", none⟩) =
    [.error (.missingClaim "exp"), .error (.missingClaim "iss")] := rfl

/-- Under two orders the answers are the same, or each names a claim. -/
theorem check_order (i : Identity) (expected : Expectations) (order order' : SearchOrder) :
    i.check expected order = i.check expected order' ∨ ∃ c c' : RequiredClaim,
      i.check expected order = .error (.missingClaim c.name) ∧
        i.check expected order' = .error (.missingClaim c'.name) := by
  by_cases h : ∃ c, i.Absent expected c
  · obtain ⟨c, hc⟩ := h
    obtain ⟨named, _, hnamed⟩ := check_of_absent hc order
    obtain ⟨named', _, hnamed'⟩ := check_of_absent hc order'
    exact .inr ⟨named, named', hnamed, hnamed'⟩
  · have hcomplete := not_exists.1 h
    exact .inl ((check_of_complete hcomplete order).trans (check_of_complete hcomplete order').symm)

/-! Results that differ in the claim that is named stay so through whatever comes after. -/

theorem Alike.refl {α : Type} (x : Except VerificationError α) : Alike x x := .inl rfl

/-- Of a later stage nothing counts but that it leaves refusals as they are. -/
theorem Alike.through {α β : Type} {x y : Except VerificationError α} (h : Alike x y)
    (stage : Except VerificationError α → Except VerificationError β)
    (hstage : ∀ e, stage (.error e) = .error e) : Alike (stage x) (stage y) := by
  rcases h with rfl | ⟨c, c', rfl, rfl⟩
  · exact .refl _
  · exact .inr ⟨c, c', hstage _, hstage _⟩

theorem Alike.bind {α β : Type} {x y : Except VerificationError α} (h : Alike x y)
    (f : α → Except VerificationError β) : Alike (x >>= f) (y >>= f) :=
  h.through (· >>= f) fun _ => rfl

theorem Alike.map {α β : Type} {x y : Except VerificationError α} (h : Alike x y) (f : α → β) :
    Alike (x.map f) (y.map f) :=
  h.through (·.map f) fun _ => rfl

theorem Lookup.Alike.andThen {α β : Type} {l l' : Lookup α} (h : l.Alike l')
    (next : α → Except VerificationError β) : (l.andThen next).Alike (l'.andThen next) :=
  ⟨h.result.bind next, h.cache, h.fetched, h.warnings⟩

theorem authenticate_order (token : Evidence) (key : VerificationKey) (expected : Expectations)
    (order order' : SearchOrder) :
    Alike ((token.authenticate key expected order).mapError VerificationError.ofFault)
      ((token.authenticate key expected order').mapError VerificationError.ofFault) := by
  unfold Evidence.authenticate
  cases token.checkSignature key with
  | error fault => exact .refl _
  | ok _ =>
    simp only [ok_bind]
    split
    · rename_i claims identity _ _
      rcases check_order identity expected order order' with heq | ⟨c, c', hc, hc'⟩
      · rw [heq]
        exact .refl _
      · rw [hc, hc']
        exact .inr ⟨c, c', rfl, rfl⟩
    · exact .refl _

theorem claimsOf_order (token : Evidence) (key : VerificationKey) (expected : Expectations)
    (now : Instant) (order order' : SearchOrder) :
    Alike (claimsOf token key expected now order) (claimsOf token key expected now order') :=
  (authenticate_order token key expected order order').bind _

theorem verify_order (cache : KeyCache) (source : KeySource) (issuer : Issuer) (evidence : Bytes)
    (now : Instant) (order order' : SearchOrder) :
    (verify cache source issuer evidence now order).Alike
      (verify cache source issuer evidence now order') := by
  unfold verify
  cases readToken evidence with
  | error e => exact ⟨.refl _, rfl, rfl, rfl⟩
  | ok found =>
    obtain ⟨token, id⟩ := found
    dsimp only [Lookup.andThen]
    refine ⟨?_, rfl, rfl, rfl⟩
    cases (findKey cache source issuer.keysUrl id now).result with
    | error e => exact .refl _
    | ok key => exact claimsOf_order token key issuer.expected now order order'

end Attestation.Jwt
