import Attestation.Proofs.Engine.SearchOrder
import Attestation.Proofs.KeyCache.Transparency

/-!
A key cache that engines and others share. While places publish what they always published, nobody
can tell from the answer to a call what the cache was used for before, or whether it was used. The
answer rests on the call alone, to which the order belongs in which it looks for required claims.
-/
namespace Attestation.SharedCache

/-- A call that uses a shared cache. -/
inductive Use where
  | verify (engine : Engine) (evidence : Bytes) (publicKey : Option String) (now : Instant)
    (order : Jwt.SearchOrder)
  | resolve (url id : String) (now : Instant)

/-- What a call answers: the verdict on evidence, or a key. -/
inductive Answer where
  | verdict (result : Except VerificationError EnclaveClaims)
  | key (result : Except KeyCache.Error Jwt.VerificationKey)

/-- The same answer, or verdicts that differ in the absent claim that they name. -/
inductive Answer.Alike : Answer → Answer → Prop where
  | verdict {x y : Except VerificationError EnclaveClaims} (h : Jwt.Alike x y) :
      Alike (.verdict x) (.verdict y)
  | key (result : Except KeyCache.Error Jwt.VerificationKey) : Alike (.key result) (.key result)

/-- The same call, looking for required claims in another order. -/
def Use.reorder (order : Jwt.SearchOrder) : Use → Use
  | verify engine evidence publicKey now _ => verify engine evidence publicKey now order
  | resolve url id now => resolve url id now

def Use.answer (source : KeySource) (cache : KeyCache) : Use → Answer
  | verify engine evidence publicKey now order =>
    .verdict (engine.verify source cache evidence publicKey now order).result
  | resolve url id now => .key (cache.resolve source url id now).answer

def Use.cache (source : KeySource) (cache : KeyCache) : Use → KeyCache
  | verify engine evidence publicKey now order =>
    (engine.verify source cache evidence publicKey now order).cache
  | resolve url id now => (cache.resolve source url id now).cache

/-- The cache after calls that are made one after another. -/
def after (source : KeySource) (cache : KeyCache) : List Use → KeyCache
  | [] => cache
  | use :: uses => after source (use.cache source cache) uses

variable {source : KeySource} {cache cache' : KeyCache}

theorem verify_mirrors (h : cache.Mirrors source) (engine : Engine) (evidence : Bytes)
    (publicKey : Option String) (now : Instant) (order : Jwt.SearchOrder) :
    (engine.verify source cache evidence publicKey now order).cache.Mirrors source := by
  cases hissuer : engine.issuer? with
  | none =>
    obtain ⟨root, rfl⟩ := Engine.eq_nitro_of_issuer hissuer
    exact h
  | some issuer =>
    obtain ⟨judge, hverify⟩ := Engine.verify_of_issuer hissuer publicKey
    rw [hverify]
    change (Jwt.verify cache source issuer evidence now order).cache.Mirrors source
    rcases Jwt.verify_cache cache source issuer evidence now order with hcache | ⟨id, hcache⟩
    · rw [hcache]
      exact h
    · rw [hcache]
      exact h.resolve issuer.keysUrl id now

/-- One call, whatever it is, keeps what mirrors its places. -/
theorem use_mirrors (h : cache.Mirrors source) (use : Use) :
    (use.cache source cache).Mirrors source := by
  cases use with
  | verify engine evidence publicKey now order =>
    exact verify_mirrors h engine evidence publicKey now order
  | resolve url id now => exact h.resolve url id now

theorem after_mirrors (h : cache.Mirrors source) (uses : List Use) :
    (after source cache uses).Mirrors source := by
  induction uses generalizing cache with
  | nil => exact h
  | cons use uses ih => exact ih (use_mirrors h use)

/-- Two caches that mirror the same places give the same keys, the same errors, and therefore the
same verdicts. -/
theorem answer_eq (h : cache.Mirrors source) (h' : cache'.Mirrors source) (use : Use) :
    use.answer source cache = use.answer source cache' := by
  have hkeys : ∀ url id now, (cache.resolve source url id now).answer =
      (cache'.resolve source url id now).answer := by
    intro url id now
    rw [h.resolve_answer, h'.resolve_answer]
  cases use with
  | resolve url id now => exact congrArg Answer.key (hkeys url id now)
  | verify engine evidence publicKey now order =>
    apply congrArg Answer.verdict
    cases hissuer : engine.issuer? with
    | none =>
      obtain ⟨root, rfl⟩ := Engine.eq_nitro_of_issuer hissuer
      rfl
    | some issuer =>
      obtain ⟨judge, hverify⟩ := Engine.verify_of_issuer hissuer publicKey
      rw [hverify, hverify]
      have hclaims := Jwt.verify_result_congr issuer evidence order
        fun id => hkeys issuer.keysUrl id now
      simp only [Engine.conclude, Jwt.Lookup.andThen, hclaims]

/-- Another order changes nothing but the absent claim that is named. -/
theorem answer_reorder (source : KeySource) (cache : KeyCache) (use : Use)
    (order : Jwt.SearchOrder) :
    Answer.Alike (use.answer source cache) ((use.reorder order).answer source cache) := by
  cases use with
  | resolve url id now => exact .key _
  | verify engine evidence publicKey now order' =>
    exact .verdict (engine.verify_order source cache evidence publicKey now order' order).result

/-- A call on a cache that has been used, by whatever calls at whatever times, is answered as the
same call on an empty cache; and as one that looks for required claims in another order, but for the
absent claim that is named. -/
theorem answer_after (source : KeySource) (ttl minRefetch : Nat) (past : List Use) (use : Use) :
    use.answer source (after source (KeyCache.new ttl minRefetch) past) =
        use.answer source (KeyCache.new ttl minRefetch) ∧
      ∀ order, Answer.Alike (use.answer source (after source (KeyCache.new ttl minRefetch) past))
        ((use.reorder order).answer source (KeyCache.new ttl minRefetch)) := by
  have hnew := KeyCache.mirrors_new source ttl minRefetch
  have hsame := answer_eq (after_mirrors hnew past) hnew use
  refine ⟨hsame, ?_⟩
  intro order
  rw [hsame]
  exact answer_reorder source _ use order

end Attestation.SharedCache
