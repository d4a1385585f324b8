import Attestation.Proofs.KeyCache.Freshness

/-!
A key cache over places that never change what they publish. What it keeps for a place is then what
stands there, so its answers are those of somebody who asks the place every time. Only the requests
that are made and the warnings tell that there is a cache.
-/
namespace Attestation.KeyCache

/-- The answer of somebody who keeps nothing and asks the place every time. -/
def published (source : KeySource) (url id : String) : Except Error Jwt.VerificationKey :=
  match readingOf source url with
  | .error cause => .error (.fetch url cause)
  | .ok reading =>
    if reading.keys.isEmpty then .error (.noUsableKeys url) else keyIn reading.keys url id

/-- Every set that is kept is the one that stands at its place, and has a usable key. -/
def Mirrors (source : KeySource) (c : KeyCache) : Prop :=
  ∀ url entry, c.entries.get? url = some entry → ∃ reading,
    readingOf source url = .ok reading ∧ reading.keys.isEmpty = false ∧ reading.keys = entry.keys

variable {source : KeySource} {c : KeyCache}

theorem mirrors_new (source : KeySource) (ttl minRefetch : Nat) :
    Mirrors source (new ttl minRefetch) := by
  intro url entry h
  simp [new, Table.get?_empty] at h

theorem refresh_answer (c : KeyCache) (source : KeySource) (url id : String) (now : Instant) :
    (c.refresh source url id now).answer = published source url id := by
  unfold refresh published
  cases readingOf source url with
  | error cause => rfl
  | ok reading =>
    dsimp only
    split <;> rfl

theorem Mirrors.store (h : Mirrors source c) {url : String} {reading : KeySet.Reading}
    (hreading : readingOf source url = .ok reading) (husable : reading.keys.isEmpty = false)
    (now : Instant) : Mirrors source (c.store url reading.keys now) := by
  intro url' entry hentry
  rw [KeyCache.store, Table.get?_insert] at hentry
  split at hentry
  · rename_i heq
    obtain rfl : url' = url := eq_of_beq heq
    obtain rfl : ⟨reading.keys, now⟩ = entry := by simpa using hentry
    exact ⟨reading, hreading, husable, rfl⟩
  · exact h url' entry hentry

theorem Mirrors.refresh (h : Mirrors source c) (url id : String) (now : Instant) :
    Mirrors source (c.refresh source url id now).cache := by
  unfold KeyCache.refresh
  cases hreading : readingOf source url with
  | error cause => exact h
  | ok reading =>
    dsimp only
    split
    · exact h
    · rename_i husable
      exact h.store hreading (by simpa using husable) now

/-- A set that is kept answers as its place does, however old it is. -/
theorem Mirrors.keyIn_eq (h : Mirrors source c) {url : String} {now : Instant} {keys : KeySet}
    {age : Nat} (hfresh : c.fresh? url now = some (keys, age)) (id : String) :
    keyIn keys url id = published source url id := by
  obtain ⟨entry, hentry, _, _, rfl⟩ := fresh?_eq_some.1 hfresh
  obtain ⟨reading, hreading, husable, hkeys⟩ := h url entry hentry
  rw [published, hreading, ← hkeys]
  simp only [husable, Bool.false_eq_true, if_false]

/-- One call keeps what mirrors its places. -/
theorem Mirrors.resolve (h : Mirrors source c) (url id : String) (now : Instant) :
    Mirrors source (c.resolve source url id now).cache := by
  unfold KeyCache.resolve
  cases c.cached? url id now with
  | some answer => exact h
  | none => exact h.refresh url id now

/-- The key that is found, the name that is not and the failure are those of the place itself,
whether a set that is kept was used or asked for again. -/
theorem Mirrors.resolve_answer (h : Mirrors source c) (url id : String) (now : Instant) :
    (c.resolve source url id now).answer = published source url id := by
  unfold KeyCache.resolve
  cases hcached : c.cached? url id now with
  | some answer =>
    obtain ⟨keys, age, hfresh, _, rfl⟩ := cached?_eq_some.1 hcached
    exact h.keyIn_eq hfresh id
  | none => exact refresh_answer c source url id now

end Attestation.KeyCache
