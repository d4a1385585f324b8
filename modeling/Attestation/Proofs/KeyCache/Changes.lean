import Attestation.Proofs.KeyCache.Isolation

/-!
What one call does to a key cache. A call asks its place at most once. If the place answers with a
usable set, that set and the time of the call stand for the place from then on, whether or not the
key that was asked for is in it. In all other cases the cache stays as it is. So all that a cache
ever keeps for a place is a set with a key in it, read from one document of that place.
-/
namespace Attestation.KeyCache

/-- A call asked its place, and these are the keys of the document it got, at least one. -/
def Event.Renews (e : Event) (keys : KeySet) : Prop :=
  ∃ document, e.Brought e.call.url document ∧ Publishes document keys ∧ keys.isEmpty = false

/-- What a call that found the cache in this state may do to it. -/
structure Lawful (c : KeyCache) (e : Event) : Prop where
  fetched : e.outcome.fetched = [] ∨ e.outcome.fetched = [e.call.url]
  others : ∀ url, url ≠ e.call.url → e.outcome.cache.entries.get? url = c.entries.get? url
  renewed : ∀ keys, e.Renews keys → e.outcome.cache = c.store e.call.url keys e.call.now ∧
    e.outcome.cache.entries.get? e.call.url = some ⟨keys, e.call.now⟩
  vain : (∀ keys, ¬e.Renews keys) → e.outcome.cache = c
  /-- A set that takes the place of the same set, kept from the same time, changes nothing. -/
  changed : e.outcome.cache.entries.get? e.call.url ≠ c.entries.get? e.call.url ↔
    ∃ keys, e.Renews keys ∧ c.entries.get? e.call.url ≠ some ⟨keys, e.call.now⟩
  /-- Only where an interval is zero can a set be kept from the very time of the call that renews it. -/
  anew : 0 < c.ttl → 0 < c.minRefetch → ∀ keys, e.Renews keys →
    c.entries.get? e.call.url ≠ some ⟨keys, e.call.now⟩

/-- Every set that is kept was brought by one of these calls, at the time that stands beside it. -/
def Sourced (past : List Event) (c : KeyCache) : Prop :=
  ∀ url entry, c.entries.get? url = some entry → ∃ p ∈ past,
    p.call.url = url ∧ p.Renews entry.keys ∧ p.call.now = entry.fetchedAt

variable {c : KeyCache} {call : Call} {keys : KeySet}

/-! One call. -/

theorem renews_iff : (call.event c).Renews keys ↔
    (call.event c).outcome.fetched = [call.url] ∧
      ∃ reading, readingOf call.source call.url = .ok reading ∧ reading.keys = keys ∧
        keys.isEmpty = false := by
  simp only [Event.Renews, Event.Brought, Publishes, readingOf_eq_ok, Call.event]
  constructor
  · rintro ⟨document, ⟨hfetched, hdocument⟩, ⟨reading, hreading, hkeys⟩, husable⟩
    exact ⟨hfetched, reading, ⟨document, hdocument, hreading⟩, hkeys, husable⟩
  · rintro ⟨hfetched, reading, ⟨document, hdocument, hreading⟩, hkeys, husable⟩
    exact ⟨document, ⟨hfetched, hdocument⟩, ⟨reading, hreading, hkeys⟩, husable⟩

theorem event_fetched (c : KeyCache) (call : Call) :
    (call.event c).outcome.fetched = [] ∨ (call.event c).outcome.fetched = [call.url] := by
  rcases resolve_cases c call.source call.url call.id call.now with
    ⟨_, _, _, _, hr⟩ | ⟨_, _, _, hr⟩ | ⟨_, _, _, _, _, hr⟩
  · exact .inl (by rw [Call.event, hr])
  · exact .inr (by rw [Call.event, hr])
  · exact .inr (by rw [Call.event, hr])

theorem cache_of_renews (h : (call.event c).Renews keys) :
    (call.event c).outcome.cache = c.store call.url keys call.now := by
  obtain ⟨hfetched, reading, hreading, rfl, husable⟩ := renews_iff.1 h
  have huncached := uncached_of_fetched hfetched
  simp only [Call.event, resolve_of_uncached huncached, refresh, hreading, husable,
    Bool.false_eq_true, if_false]

theorem entry_of_renews (h : (call.event c).Renews keys) :
    (call.event c).outcome.cache.entries.get? call.url = some ⟨keys, call.now⟩ := by
  rw [cache_of_renews h, get?_store, beq_self_eq_true, if_pos rfl]

theorem cache_of_not_renews (h : ∀ keys, ¬(call.event c).Renews keys) :
    (call.event c).outcome.cache = c := by
  rcases event_fetched c call with hfetched | hfetched
  · rcases resolve_cases c call.source call.url call.id call.now with
      ⟨_, _, _, _, hr⟩ | ⟨_, _, _, hr⟩ | ⟨_, _, _, _, _, hr⟩
    · rw [Call.event, hr]
    · rw [Call.event, hr]
    · simp [Call.event, hr] at hfetched
  · refine cache_of_vain hfetched ?_
    rintro ⟨reading, hreading, husable⟩
    exact h _ (renews_iff.2 ⟨hfetched, reading, hreading, rfl, husable⟩)

/-- A set that is kept from the time of the call is not stale and not too old to be searched. -/
theorem anew_of_renews (httl : 0 < c.ttl) (hmin : 0 < c.minRefetch)
    (h : (call.event c).Renews keys) : c.entries.get? call.url ≠ some ⟨keys, call.now⟩ := by
  intro hentry
  have hfresh : c.fresh? call.url call.now = some (keys, 0) :=
    fresh?_eq_some.2 ⟨_, hentry, since?_eq_some.2 ⟨Int.le_refl _, by simp⟩, httl, rfl⟩
  obtain ⟨_, hold⟩ := cached?_eq_none hfresh (uncached_of_fetched (renews_iff.1 h).1)
  exact Nat.not_lt.2 hold hmin

theorem entry_ne_iff :
    (call.event c).outcome.cache.entries.get? call.url ≠ c.entries.get? call.url ↔
      ∃ keys, (call.event c).Renews keys ∧ c.entries.get? call.url ≠ some ⟨keys, call.now⟩ := by
  constructor
  · intro hchanged
    by_cases hany : ∃ keys, (call.event c).Renews keys
    · obtain ⟨keys, h⟩ := hany
      rw [entry_of_renews h] at hchanged
      exact ⟨keys, h, hchanged.symm⟩
    · rw [cache_of_not_renews (not_exists.1 hany)] at hchanged
      exact absurd rfl hchanged
  · rintro ⟨keys, h, hanew⟩
    rw [entry_of_renews h]
    exact hanew.symm

theorem event_lawful (c : KeyCache) (call : Call) : c.Lawful (call.event c) where
  fetched := event_fetched c call
  others _ hne := (agree_resolve hne c call.source call.id call.now).entry.symm
  renewed _ h := ⟨cache_of_renews h, entry_of_renews h⟩
  vain := cache_of_not_renews
  changed := entry_ne_iff
  anew httl hmin _ := anew_of_renews httl hmin

/-! Runs. -/

theorem sourced_new (ttl minRefetch : Nat) : Sourced [] (new ttl minRefetch) := by
  intro url entry h
  simp [new, Table.get?_empty] at h

theorem Sourced.event {past : List Event} (h : Sourced past c) (call : Call) :
    Sourced (past ++ [call.event c]) (call.event c).outcome.cache := by
  have hpast : Sourced (past ++ [call.event c]) c := by
    intro url entry hentry
    obtain ⟨p, hp, hrest⟩ := h url entry hentry
    exact ⟨p, List.mem_append_left _ hp, hrest⟩
  by_cases hany : ∃ keys, (call.event c).Renews keys
  · -- What is new is what the call brought.
    obtain ⟨keys, hrenews⟩ := hany
    intro url entry hentry
    rw [cache_of_renews hrenews, get?_store] at hentry
    split at hentry
    · rename_i heq
      obtain rfl : ⟨keys, call.now⟩ = entry := Option.some.inj hentry
      exact ⟨call.event c, by simp, (eq_of_beq heq).symm, hrenews, rfl⟩
    · exact hpast url entry hentry
  · rwa [cache_of_not_renews (not_exists.1 hany)]

theorem Sourced.run {past : List Event} (h : Sourced past c) (calls : List Call) :
    Sourced (past ++ history c calls) (after c calls) := by
  induction calls generalizing past c with
  | nil => simpa [history, after] using h
  | cons call calls ih => simpa [history, after] using ih (h.event call)

/-- After any run from an empty cache, all that is kept comes from a call of the run, and the next
call does to the cache what it may do. -/
theorem run_lawful (ttl minRefetch : Nat) (calls : List Call) (call : Call) :
    Sourced (history (new ttl minRefetch) calls) (after (new ttl minRefetch) calls) ∧
      (after (new ttl minRefetch) calls).Lawful
        (call.event (after (new ttl minRefetch) calls)) :=
  ⟨(sourced_new ttl minRefetch).run calls, event_lawful _ call⟩

end Attestation.KeyCache
