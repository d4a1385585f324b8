import Attestation.Engine

/-!
The stages of a verification. Nitro evidence is judged as it is; a token is read, its key is looked
up where its issuer publishes it, and only then its claims are judged.
-/
namespace Attestation

namespace Jwt

variable {cache : KeyCache} {source : KeySource} {issuer : Issuer} {evidence : Bytes}
  {now : Instant} {order : SearchOrder}

theorem verify_of_unread {e : VerificationError} (h : readToken evidence = .error e) :
    verify cache source issuer evidence now order = ⟨.error e, cache, [], []⟩ := by
  simp only [verify, h]

theorem verify_of_read {token : Evidence} {id : String}
    (h : readToken evidence = .ok (token, id)) :
    verify cache source issuer evidence now order =
      (findKey cache source issuer.keysUrl id now).andThen fun key =>
        claimsOf token key issuer.expected now order := by
  simp only [verify, h]

/-- The cache is left as it is or is the one after the look-up of one key. -/
theorem verify_cache (cache : KeyCache) (source : KeySource) (issuer : Issuer) (evidence : Bytes)
    (now : Instant) (order : SearchOrder) :
    (verify cache source issuer evidence now order).cache = cache ∨
      ∃ id, (verify cache source issuer evidence now order).cache =
        (cache.resolve source issuer.keysUrl id now).cache := by
  cases hread : readToken evidence with
  | error e => exact .inl (by rw [verify_of_unread hread])
  | ok found =>
    obtain ⟨token, id⟩ := found
    exact .inr ⟨id, by rw [verify_of_read hread]; rfl⟩

/-- Of a cache nothing but the answer to the look-up of a key counts. -/
theorem verify_result_congr {cache' : KeyCache} (issuer : Issuer) (evidence : Bytes)
    (order : SearchOrder) (h : ∀ id, (cache.resolve source issuer.keysUrl id now).answer =
      (cache'.resolve source issuer.keysUrl id now).answer) :
    (verify cache source issuer evidence now order).result =
      (verify cache' source issuer evidence now order).result := by
  cases hread : readToken evidence with
  | error e => rw [verify_of_unread hread, verify_of_unread hread]
  | ok found =>
    obtain ⟨token, id⟩ := found
    rw [verify_of_read hread, verify_of_read hread]
    simp only [Lookup.andThen, findKey, h id]

end Jwt

namespace Engine

/-- The issuer whose tokens an engine verifies, if it verifies tokens. -/
def issuer? : Engine → Option Jwt.Issuer
  | nitro _ => none
  | azure endpoint _ => some (Azure.issuer endpoint)
  | gcp _ => some ConfidentialSpace.issuer

/-- An engine for tokens verifies one and judges its claims; it does nothing else with a cache. -/
theorem verify_of_issuer {engine : Engine} {issuer : Jwt.Issuer} (h : engine.issuer? = some issuer)
    (publicKey : Option String) : ∃ judge, ∀ source cache evidence now order,
      engine.verify source cache evidence publicKey now order =
        conclude ((Jwt.verify cache source issuer evidence now order).andThen judge) := by
  cases engine with
  | nitro root => simp [issuer?] at h
  | azure endpoint regions =>
    obtain rfl := Option.some.inj h
    exact ⟨Azure.judge regions publicKey, fun _ _ _ _ _ => rfl⟩
  | gcp rules =>
    obtain rfl := Option.some.inj h
    exact ⟨ConfidentialSpace.judge rules, fun _ _ _ _ _ => rfl⟩

/-- Evidence is refused without a look at the cache, or a key is looked up and what follows rests on
the answer alone. -/
theorem verify_cases {engine : Engine} {issuer : Jwt.Issuer} (h : engine.issuer? = some issuer)
    (evidence : Bytes) (publicKey : Option String) (now : Instant) (order : Jwt.SearchOrder) :
    (∃ e, ∀ source cache, engine.verify source cache evidence publicKey now order =
      conclude ⟨.error e, cache, [], []⟩) ∨
    ∃ id, ∃ finish : Except KeyCache.Error Jwt.VerificationKey →
      Except VerificationError (EnclaveClaims × LogEvent),
    ∀ source cache, engine.verify source cache evidence publicKey now order =
      conclude ⟨finish (cache.resolve source issuer.keysUrl id now).answer,
        (cache.resolve source issuer.keysUrl id now).cache,
        (cache.resolve source issuer.keysUrl id now).fetched,
        (cache.resolve source issuer.keysUrl id now).warnings⟩ := by
  obtain ⟨judge, hverify⟩ := verify_of_issuer h publicKey
  cases hread : Jwt.readToken evidence with
  | error e =>
    left
    refine ⟨e, fun source cache => ?_⟩
    rw [hverify, Jwt.verify_of_unread hread]
    rfl
  | ok found =>
    obtain ⟨token, id⟩ := found
    right
    let finish (answer : Except KeyCache.Error Jwt.VerificationKey) := do
      let key ← answer.mapError fun e => VerificationError.keyFetch (.cache e)
      Jwt.claimsOf token key issuer.expected now order
    refine ⟨id, fun answer => finish answer >>= judge, fun source cache => ?_⟩
    rw [hverify, Jwt.verify_of_read hread]
    rfl

theorem eq_nitro_of_issuer {engine : Engine} (h : engine.issuer? = none) :
    ∃ root, engine = nitro root := by
  cases engine with
  | nitro root => exact ⟨root, rfl⟩
  | azure endpoint regions => simp [issuer?] at h
  | gcp rules => simp [issuer?] at h

end Engine

end Attestation
