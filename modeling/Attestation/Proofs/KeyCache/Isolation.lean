import Attestation.Proofs.KeyCache.Requests

/-!
What a request for a key has to do with other places than its own: nothing. It looks at what is kept
for its place only, and leaves alone what is kept for all others.
-/
namespace Attestation.KeyCache

/-- Caches that are the same as far as requests to one place are concerned. -/
structure Agree (url : String) (c c' : KeyCache) : Prop where
  ttl : c.ttl = c'.ttl
  minRefetch : c.minRefetch = c'.minRefetch
  entry : c.entries.get? url = c'.entries.get? url

/-- What became of a request to a place, but for what is kept for other places. -/
structure Resolution.Agree (url : String) (r r' : Resolution) : Prop where
  answer : r.answer = r'.answer
  cache : KeyCache.Agree url r.cache r'.cache
  fetched : r.fetched = r'.fetched
  warnings : r.warnings = r'.warnings

variable {url place id : String} {c c' c'' : KeyCache} {source source' : KeySource} {now : Instant}

theorem Agree.refl (url : String) (c : KeyCache) : Agree url c c := ⟨rfl, rfl, rfl⟩

theorem Agree.symm (h : Agree url c c') : Agree url c' c :=
  ⟨h.ttl.symm, h.minRefetch.symm, h.entry.symm⟩

theorem Agree.trans (h : Agree url c c') (h' : Agree url c' c'') : Agree url c c'' :=
  ⟨h.ttl.trans h'.ttl, h.minRefetch.trans h'.minRefetch, h.entry.trans h'.entry⟩

/-! Other places. -/

theorem agree_store (hne : url ≠ place) (c : KeyCache) (keys : KeySet) (now : Instant) :
    Agree url c (c.store place keys now) where
  ttl := rfl
  minRefetch := rfl
  entry := by simp [get?_store, hne]

/-- A request leaves alone what is kept for other places. -/
theorem agree_resolve (hne : url ≠ place) (c : KeyCache) (source : KeySource) (id : String)
    (now : Instant) : Agree url c (c.resolve source place id now).cache := by
  rcases resolve_cases c source place id now with ⟨_, _, _, _, hr⟩ | ⟨_, _, _, hr⟩ |
    ⟨_, reading, _, _, _, hr⟩
  · rw [hr]
    exact .refl url c
  · rw [hr]
    exact .refl url c
  · rw [hr]
    exact agree_store hne c reading.keys now

theorem mem_fetched (h : url ∈ (c.resolve source place id now).fetched) : url = place := by
  rcases resolve_cases c source place id now with ⟨_, _, _, _, hr⟩ | ⟨_, _, _, hr⟩ |
    ⟨_, _, _, _, _, hr⟩
  · simp [hr] at h
  · simpa [hr] using h
  · simpa [hr] using h

/-! The same place. -/

theorem Agree.cached? (h : Agree url c c') (id : String) (now : Instant) :
    c.cached? url id now = c'.cached? url id now := by
  simp only [KeyCache.cached?, fresh?, h.ttl, h.minRefetch, h.entry]

theorem Agree.store (h : Agree url c c') (keys : KeySet) (now : Instant) :
    Agree url (c.store url keys now) (c'.store url keys now) where
  ttl := h.ttl
  minRefetch := h.minRefetch
  entry := by rw [get?_store, get?_store, beq_self_eq_true, if_pos rfl, if_pos rfl]

theorem Agree.refresh (h : Agree url c c') (hsource : source url = source' url) (id : String)
    (now : Instant) :
    (c.refresh source url id now).Agree url (c'.refresh source' url id now) := by
  have hreading : readingOf source url = readingOf source' url := by
    simp only [readingOf, hsource]
  unfold KeyCache.refresh
  rw [hreading]
  cases readingOf source' url with
  | error cause => exact ⟨rfl, h, rfl, rfl⟩
  | ok reading =>
    dsimp only
    split
    · exact ⟨rfl, h, rfl, rfl⟩
    · exact ⟨rfl, h.store reading.keys now, rfl, rfl⟩

/-- A request looks at nothing but what is kept for its place and what the place answers. -/
theorem Agree.resolve (h : Agree url c c') (hsource : source url = source' url) (id : String)
    (now : Instant) :
    (c.resolve source url id now).Agree url (c'.resolve source' url id now) := by
  unfold KeyCache.resolve
  rw [h.cached? id now]
  cases c'.cached? url id now with
  | some answer => exact ⟨rfl, h, rfl, rfl⟩
  | none => exact h.refresh hsource id now

end Attestation.KeyCache
