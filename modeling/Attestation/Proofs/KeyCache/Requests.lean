import Attestation.Proofs.KeyCache.Freshness

/-!
When a key cache asks a place for its keys. Names of keys come from tokens that nobody has verified,
so a name that is not in a set makes the cache ask only if the set is old enough. A set that is
brought is young again; a request in vain leaves the old one, and the next call asks again.
-/
namespace Attestation.KeyCache

/-- What stands at a place is a key set with a usable key. -/
def Usable (source : KeySource) (url : String) : Prop :=
  ∃ reading, readingOf source url = .ok reading ∧ reading.keys.isEmpty = false

instance (source : KeySource) (url : String) : Decidable (Usable source url) :=
  match h : readingOf source url with
  | .ok reading => decidable_of_iff (reading.keys.isEmpty = false) (by simp [Usable, h])
  | .error _ => isFalse (by simp [Usable, h])

/-- What is kept for a place was asked for at this time. -/
def KeptAt (c : KeyCache) (url : String) (time : Instant) : Prop :=
  ∃ entry, c.entries.get? url = some entry ∧ entry.fetchedAt = time

/-- What is kept for a place was asked for at the time or later. -/
def KeptSince (c : KeyCache) (url : String) (start : Instant) : Prop :=
  ∃ entry, c.entries.get? url = some entry ∧ start ≤ entry.fetchedAt

/-- A call finds a set that is not stale, misses its key in it, and asks the place again. -/
def Searches (c : KeyCache) (call : Call) : Prop :=
  (c.fresh? call.url call.now).any (fun kept => !kept.1.contains call.id) = true ∧
    (call.event c).outcome.fetched = [call.url]

instance (c : KeyCache) (call : Call) : Decidable (c.Searches call) :=
  inferInstanceAs (Decidable (_ ∧ _))

variable {c : KeyCache} {source : KeySource} {url id : String} {now start : Instant}

/-! One call. -/

theorem since?_eq_some {start now : Int} {age : Nat} :
    Instant.since? start now = some age ↔ start ≤ now ∧ now - start = age := by
  have h : Instant.since? start now = if start ≤ now then some (now - start).toNat else none := rfl
  rw [h]
  split
  · rw [Option.some.injEq]
    omega
  · simp only [reduceCtorEq, false_iff]
    omega

theorem since?_le {start now : Int} {age limit : Nat} (h : Instant.since? start now = some age)
    (hle : limit ≤ age) : start + limit ≤ now := by
  obtain ⟨_, hage⟩ := since?_eq_some.1 h
  omega

theorem resolve_of_cached {answer : Except Error Jwt.VerificationKey}
    (h : c.cached? url id now = some answer) : c.resolve source url id now = ⟨answer, c, [], []⟩ := by
  simp only [resolve, h]

theorem resolve_of_uncached (h : c.cached? url id now = none) :
    c.resolve source url id now = c.refresh source url id now := by
  simp only [resolve, h]

theorem refresh_fetched (c : KeyCache) (source : KeySource) (url id : String) (now : Instant) :
    (c.refresh source url id now).fetched = [url] := by
  unfold refresh
  cases readingOf source url with
  | error cause => rfl
  | ok reading =>
    dsimp only
    split <;> rfl

/-- A request changes what is kept if and only if it brings a usable set. -/
theorem refresh_cache (c : KeyCache) (source : KeySource) (url id : String) (now : Instant) :
    (∃ reading, readingOf source url = .ok reading ∧ reading.keys.isEmpty = false ∧
      (c.refresh source url id now).cache = c.store url reading.keys now) ∨
    (¬Usable source url ∧ (c.refresh source url id now).cache = c) := by
  unfold refresh
  cases hreading : readingOf source url with
  | error cause =>
    right
    exact ⟨by simp [Usable, hreading], rfl⟩
  | ok reading =>
    dsimp only
    cases hempty : reading.keys.isEmpty with
    | true =>
      right
      exact ⟨by simp [Usable, hreading, hempty], rfl⟩
    | false =>
      left
      exact ⟨reading, rfl, hempty, rfl⟩

theorem get?_store (c : KeyCache) (url : String) (keys : KeySet) (now : Instant) (url' : String) :
    (c.store url keys now).entries.get? url' =
      if url' == url then some ⟨keys, now⟩ else c.entries.get? url' := by
  rw [store, Table.get?_insert]

theorem cached?_eq_none {keys : KeySet} {age : Nat}
    (hfresh : c.fresh? url now = some (keys, age)) (h : c.cached? url id now = none) :
    keys.contains id = false ∧ c.minRefetch ≤ age := by
  have hunkept : ¬(keys.contains id = true ∨ age < c.minRefetch) := by
    intro hkept
    rw [cached?_eq_some.2 ⟨keys, age, hfresh, hkept, rfl⟩] at h
    simp at h
  rw [not_or, Bool.not_eq_true, Nat.not_lt] at hunkept
  exact hunkept

theorem uncached_of_fetched {place : String}
    (h : (c.resolve source url id now).fetched = [place]) : c.cached? url id now = none := by
  cases hcached : c.cached? url id now with
  | none => rfl
  | some answer =>
    rw [resolve_of_cached hcached] at h
    simp at h

/-- A call searches only where the set that lacks its key is old enough. -/
theorem Searches.old {call : Call} (h : c.Searches call) :
    ∃ entry, c.entries.get? call.url = some entry ∧
      entry.fetchedAt + c.minRefetch ≤ call.now := by
  obtain ⟨hmissing, hfetched⟩ := h
  obtain ⟨⟨keys, age⟩, hfresh, _⟩ := (Option.any_eq_true _ _).1 hmissing
  obtain ⟨_, hage⟩ := cached?_eq_none hfresh (uncached_of_fetched hfetched)
  obtain ⟨entry, hentry, hsince, _, _⟩ := fresh?_eq_some.1 hfresh
  exact ⟨entry, hentry, since?_le hsince hage⟩

theorem resolve_minRefetch (c : KeyCache) (source : KeySource) (url id : String) (now : Instant) :
    (c.resolve source url id now).cache.minRefetch = c.minRefetch := by
  rcases resolve_cases c source url id now with ⟨_, _, _, _, hr⟩ | ⟨_, _, _, hr⟩ |
    ⟨_, _, _, _, _, hr⟩
  · rw [hr]
  · rw [hr]
  · rw [hr]
    rfl

/-- No call takes back what is kept, and none whose time is not before the start makes it older. -/
theorem KeptSince.resolve (h : c.KeptSince url start) (place : String) (hnow : start ≤ now) :
    (c.resolve source place id now).cache.KeptSince url start := by
  rcases resolve_cases c source place id now with ⟨_, _, _, _, hr⟩ | ⟨_, _, _, hr⟩ |
    ⟨_, reading, _, _, _, hr⟩
  · rw [hr]
    exact h
  · rw [hr]
    exact h
  · rw [hr]
    by_cases heq : url = place
    · exact ⟨⟨reading.keys, now⟩, by simp [get?_store, heq], hnow⟩
    · obtain ⟨entry, hentry, hstart⟩ := h
      exact ⟨entry, by simpa [get?_store, heq] using hentry, hstart⟩

/-- A request that brings a usable set starts anew. -/
theorem keptAt_of_usable (c : KeyCache) (id : String) (now : Instant) (h : Usable source url) :
    (c.refresh source url id now).cache.KeptAt url now := by
  rcases refresh_cache c source url id now with ⟨reading, _, _, hcache⟩ | ⟨hvain, _⟩
  · rw [hcache]
    exact ⟨⟨reading.keys, now⟩, by simp [get?_store], rfl⟩
  · exact absurd h hvain

theorem keptSince_of_usable (hfetched : (c.resolve source url id now).fetched = [url])
    (husable : Usable source url) : (c.resolve source url id now).cache.KeptSince url now := by
  rw [resolve_of_uncached (uncached_of_fetched hfetched)]
  obtain ⟨entry, hentry, htime⟩ := keptAt_of_usable c id now husable
  exact ⟨entry, hentry, Int.le_of_eq htime.symm⟩

/-- A request in vain leaves the cache as it is. -/
theorem cache_of_vain (hfetched : (c.resolve source url id now).fetched = [url])
    (hvain : ¬Usable source url) : (c.resolve source url id now).cache = c := by
  rw [resolve_of_uncached (uncached_of_fetched hfetched)]
  rcases refresh_cache c source url id now with ⟨reading, hreading, hempty, _⟩ | ⟨_, hcache⟩
  · exact absurd ⟨reading, hreading, hempty⟩ hvain
  · exact hcache

/-! Runs. -/

theorem after_minRefetch (c : KeyCache) (calls : List Call) :
    (after c calls).minRefetch = c.minRefetch := by
  induction calls generalizing c with
  | nil => rfl
  | cons call calls ih =>
    rw [after, ih]
    exact resolve_minRefetch c call.source call.url call.id call.now

theorem KeptSince.after (h : c.KeptSince url start) {calls : List Call}
    (htimes : ∀ call ∈ calls, start ≤ call.now) : (after c calls).KeptSince url start := by
  induction calls generalizing c with
  | nil => exact h
  | cons call calls ih =>
    rw [List.forall_mem_cons] at htimes
    exact ih (h.resolve call.url htimes.1) htimes.2

/-- Searches are spaced if and only if they bring something. After a search that brings a usable
set, whatever calls are made at whatever later times, the next search for the same place is no
sooner than the interval allows; after a search in vain it may come at once. -/
theorem searches_spaced_iff {first : Call} (hmin : 0 < c.minRefetch) (hfirst : c.Searches first) :
    (∀ between second, second.url = first.url →
      (first :: (between ++ [second])).Pairwise (fun earlier later => earlier.now ≤ later.now) →
      (after c (first :: between)).Searches second →
        first.now + c.minRefetch ≤ second.now) ↔ Usable first.source first.url := by
  constructor
  · intro hspaced
    refine Decidable.byContradiction fun hvain => ?_
    -- The cache is as it was, so the same call searches a second time.
    have hsame : after c [first] = c := cache_of_vain hfirst.2 hvain
    have hsoon := hspaced [] first rfl (by simp) (by rw [hsame]; exact hfirst)
    have hlater := Int.lt_add_of_pos_right first.now (Int.ofNat_lt.2 hmin)
    exact absurd hsoon (Int.not_le.2 hlater)
  · intro husable between second hurl horder hsecond
    obtain ⟨hlater, _⟩ := List.pairwise_cons.1 horder
    have hkept : (after c (first :: between)).KeptSince first.url first.now := by
      refine (keptSince_of_usable hfirst.2 husable).after ?_
      intro call hcall
      exact hlater call (List.mem_append_left _ hcall)
    obtain ⟨entry, hentry, hstart⟩ := hkept
    obtain ⟨found, hfound, hold⟩ := hsecond.old
    rw [hurl, hentry] at hfound
    obtain rfl := Option.some.inj hfound
    rw [after_minRefetch] at hold
    exact Int.le_trans (Int.add_le_add_right hstart c.minRefetch) hold

/-! A set with one key, and a key of another name that is asked for as soon as that is allowed: while
the place answers, and while it does not. -/

def specimenSource : KeySource := fun _ =>
  .ok "\x7b\"keys\":[\x7b\"kid\":\"k\",\"kty\":\"RSA\",\"n\":\"AQAB\",\"e\":\"AQAB\"\x7d]\x7d"

def brokenSource : KeySource := fun _ => .error "no connection"

def specimenCall : Call := ⟨specimenSource, "u", "k", 1700000000000000000⟩

def strayCall (source : KeySource) : Call := ⟨source, "u", "x", 1700000300000000000⟩

def specimenCache : KeyCache := after (new 3600000000000 300000000000) [specimenCall]

set_option maxRecDepth 100000 in
theorem searches_spaced_answered :
    0 < specimenCache.minRefetch ∧ specimenCache.Searches (strayCall specimenSource) ∧
      ∀ between second, second.url = "u" →
        (strayCall specimenSource :: (between ++ [second])).Pairwise
          (fun earlier later => earlier.now ≤ later.now) →
        (after specimenCache (strayCall specimenSource :: between)).Searches second →
          1700000300000000000 + specimenCache.minRefetch ≤ second.now := by
  have hmin : 0 < specimenCache.minRefetch := by decide +kernel
  have hsearches : specimenCache.Searches (strayCall specimenSource) := by decide +kernel
  have husable : Usable specimenSource "u" := by decide +kernel
  exact ⟨hmin, hsearches, (searches_spaced_iff hmin hsearches).2 husable⟩

/-- In a run, any two searches for a place are at least the interval apart. -/
def SearchesSpaced (c : KeyCache) (calls : List Call) : Prop :=
  ∀ before first between second rest, calls = before ++ first :: (between ++ second :: rest) →
    (after c before).Searches first → (after c (before ++ first :: between)).Searches second →
      first.now + c.minRefetch ≤ second.now

set_option maxRecDepth 100000 in
theorem searches_unspaced :
    ¬∀ calls : List Call, (∀ call ∈ calls, call.url = "u") →
      calls.Pairwise (fun earlier later => earlier.now ≤ later.now) →
        SearchesSpaced (new 3600000000000 300000000000) calls := by
  intro hclaim
  have hfirst : specimenCache.Searches (strayCall brokenSource) := by decide +kernel
  have hsecond : (after (new 3600000000000 300000000000) [specimenCall, strayCall brokenSource]).Searches
      (strayCall brokenSource) := by decide +kernel
  have hspaced := hclaim [specimenCall, strayCall brokenSource, strayCall brokenSource]
    (by simp [specimenCall, strayCall]) (by simp [specimenCall, strayCall])
  have hapart := hspaced [specimenCall] (strayCall brokenSource) [] (strayCall brokenSource) [] rfl
    hfirst hsecond
  exact absurd hapart (by decide)

end Attestation.KeyCache
