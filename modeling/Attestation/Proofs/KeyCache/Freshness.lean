import Attestation.KeyCache

/-!
Runs of requests against a key cache. Clocks may jump and places may change their documents or fail,
but what a cache keeps for a place always came from there, at the time the cache has written down.
-/
namespace Attestation.KeyCache

/-- A request for a key, and what places would answer at that moment. -/
structure Call where
  source : KeySource
  url : String
  id : String
  now : Instant

structure Event where
  call : Call
  outcome : Resolution

def Call.event (call : Call) (c : KeyCache) : Event :=
  ⟨call, c.resolve call.source call.url call.id call.now⟩

/-- The calls of a run, one after another, with their outcomes. -/
def history (c : KeyCache) : List Call → List Event
  | [] => []
  | call :: calls => call.event c :: history (call.event c).outcome.cache calls

def after (c : KeyCache) : List Call → KeyCache
  | [] => c
  | call :: calls => after (call.event c).outcome.cache calls

/-- A call that asked a place and got the document. -/
def Event.Brought (e : Event) (url document : String) : Prop :=
  e.outcome.fetched = [url] ∧ e.call.source url = .ok document

/-- A document of the place that a call is about: it came with the call itself, or with an earlier
one whose time is not after that of the call and less than `age` before it. -/
def Event.Holds (e : Event) (past : List Event) (age : Nat) (document : String) : Prop :=
  e.Brought e.call.url document ∨
    ∃ p ∈ past, p.Brought e.call.url document ∧
      p.call.now ≤ e.call.now ∧ e.call.now - p.call.now < age

/-- The set of keys that a document publishes. -/
def Publishes (document : String) (keys : KeySet) : Prop :=
  ∃ reading, KeySet.ofDocument? document = some reading ∧ reading.keys = keys

/-! One call. -/

theorem since?_lt {start now : Int} {age limit : Nat} (h : Instant.since? start now = some age)
    (hlt : age < limit) : start ≤ now ∧ now - start < limit := by
  unfold Instant.since? at h
  split at h
  · rename_i hle
    have hage : (now - start).toNat = age := by simpa using h
    refine ⟨hle, ?_⟩
    omega
  · simp at h

theorem fresh?_eq_some {c : KeyCache} {url : String} {now : Instant} {keys : KeySet} {age : Nat} :
    c.fresh? url now = some (keys, age) ↔ ∃ entry, c.entries.get? url = some entry ∧
      entry.fetchedAt.since? now = some age ∧ age < c.ttl ∧ entry.keys = keys := by
  simp only [fresh?, Option.bind_eq_bind, Option.bind_eq_some_iff]
  constructor
  · intro h
    obtain ⟨entry, hentry, found, hage, h⟩ := h
    split at h
    · rename_i hlt
      obtain ⟨rfl, rfl⟩ : entry.keys = keys ∧ found = age := by simpa using h
      exact ⟨entry, hentry, hage, hlt, rfl⟩
    · simp at h
  · intro h
    obtain ⟨entry, hentry, hage, hlt, rfl⟩ := h
    exact ⟨entry, hentry, age, hage, by simp [hlt]⟩

theorem cached?_eq_some {c : KeyCache} {url id : String} {now : Instant}
    {answer : Except Error Jwt.VerificationKey} :
    c.cached? url id now = some answer ↔ ∃ keys age, c.fresh? url now = some (keys, age) ∧
      (keys.contains id ∨ age < c.minRefetch) ∧ keyIn keys url id = answer := by
  simp only [cached?, Option.bind_eq_bind, Option.bind_eq_some_iff, Prod.exists]
  constructor
  · intro h
    obtain ⟨keys, age, hfresh, h⟩ := h
    split at h
    · rename_i hkept
      exact ⟨keys, age, hfresh, by simpa using hkept, by simpa using h⟩
    · simp at h
  · intro h
    obtain ⟨keys, age, hfresh, hkept, rfl⟩ := h
    exact ⟨keys, age, hfresh, by simp [hkept]⟩

theorem readingOf_eq_ok {source : KeySource} {url : String} {reading : KeySet.Reading} :
    readingOf source url = .ok reading ↔
      ∃ document, source url = .ok document ∧ KeySet.ofDocument? document = some reading := by
  unfold readingOf
  cases hs : source url with
  | error reason => simp
  | ok document => cases hd : KeySet.ofDocument? document <;> simp [hd]

theorem keyIn_eq_ok {keys : KeySet} {url id : String} {key : Jwt.VerificationKey} :
    keyIn keys url id = .ok key ↔ keys.get? id = some key := by
  unfold keyIn
  cases keys.get? id <;> simp

theorem keyIn_eq_unknown {keys : KeySet} {url id url' id' : String} :
    keyIn keys url id = .error (.unknownKey url' id') ↔
      keys.get? id = none ∧ url = url' ∧ id = id' := by
  unfold keyIn
  cases keys.get? id <;> simp

/-- A call is answered from the set that is kept, asks in vain, or asks and keeps a new set. -/
theorem resolve_cases (c : KeyCache) (source : KeySource) (url id : String) (now : Instant) :
    (∃ keys age, c.fresh? url now = some (keys, age) ∧ (keys.contains id ∨ age < c.minRefetch) ∧
      c.resolve source url id now = ⟨keyIn keys url id, c, [], []⟩) ∨
    (∃ cause warnings, (∀ url' id', cause ≠ .unknownKey url' id') ∧
      c.resolve source url id now = ⟨.error cause, c, [url], warnings⟩) ∨
    ∃ document reading warnings, source url = .ok document ∧
      KeySet.ofDocument? document = some reading ∧
      c.resolve source url id now =
        ⟨keyIn reading.keys url id, c.store url reading.keys now, [url], warnings⟩ := by
  unfold resolve
  cases hcached : c.cached? url id now with
  | some answer =>
    obtain ⟨keys, age, hfresh, hkept, rfl⟩ := cached?_eq_some.1 hcached
    exact .inl ⟨keys, age, hfresh, hkept, rfl⟩
  | none =>
    right
    simp only [refresh]
    cases hreading : readingOf source url with
    | error cause => exact .inl ⟨_, _, by simp, rfl⟩
    | ok reading =>
      obtain ⟨document, hd, hr⟩ := readingOf_eq_ok.1 hreading
      by_cases hempty : reading.keys.isEmpty
      · exact .inl ⟨.noUsableKeys url, _, by simp, if_pos hempty⟩
      · exact .inr ⟨document, reading, _, hd, hr, if_neg hempty⟩

/-! Runs. -/

/-- Every set that is kept for a place is one that the place published in answer to an earlier
call, at the time that stands beside it. -/
structure Kept (ttl minRefetch : Nat) (past : List Event) (c : KeyCache) : Prop where
  ttl : c.ttl = ttl
  minRefetch : c.minRefetch = minRefetch
  origin : ∀ url entry, c.entries.get? url = some entry → ∃ p ∈ past, ∃ document,
    p.Brought url document ∧ p.call.now = entry.fetchedAt ∧ Publishes document entry.keys

theorem kept_new (ttl minRefetch : Nat) : Kept ttl minRefetch [] (new ttl minRefetch) where
  ttl := rfl
  minRefetch := rfl
  origin url entry h := by simp [new, Table.get?_empty] at h

theorem Kept.append {ttl minRefetch : Nat} {past : List Event} {c : KeyCache}
    (h : Kept ttl minRefetch past c) (more : List Event) :
    Kept ttl minRefetch (past ++ more) c where
  ttl := h.ttl
  minRefetch := h.minRefetch
  origin url entry hentry := by
    obtain ⟨p, hp, hrest⟩ := h.origin url entry hentry
    exact ⟨p, List.mem_append_left more hp, hrest⟩

theorem kept_event {ttl minRefetch : Nat} {past : List Event} {c : KeyCache}
    (h : Kept ttl minRefetch past c) (call : Call) :
    Kept ttl minRefetch (past ++ [call.event c]) (call.event c).outcome.cache := by
  have hkept := h.append [call.event c]
  rcases resolve_cases c call.source call.url call.id call.now with
    ⟨_, _, _, _, hr⟩ | ⟨_, _, _, hr⟩ | ⟨document, reading, warnings, hd, hreading, hr⟩
  · simpa only [Call.event, hr] using hkept
  · simpa only [Call.event, hr] using hkept
  · -- Only a new set changes what is kept, and only for the place that was asked.
    have hcache : (call.event c).outcome.cache = c.store call.url reading.keys call.now := by
      simp only [Call.event, hr]
    rw [hcache]
    refine ⟨h.ttl, h.minRefetch, ?_⟩
    intro url entry hentry
    rw [store, Table.get?_insert] at hentry
    split at hentry
    · rename_i heq
      obtain rfl : url = call.url := eq_of_beq heq
      obtain rfl : ⟨reading.keys, call.now⟩ = entry := by simpa using hentry
      refine ⟨call.event c, by simp, document, ⟨?_, hd⟩, rfl, reading, hreading, rfl⟩
      simp only [Call.event, hr]
    · exact hkept.origin url entry hentry

/-- Whatever calls are made, all that is kept after them is accounted for. -/
theorem kept_run {ttl minRefetch : Nat} {past : List Event} {c : KeyCache}
    (h : Kept ttl minRefetch past c) (calls : List Call) :
    Kept ttl minRefetch (past ++ history c calls) (after c calls) := by
  induction calls generalizing past c with
  | nil => simpa [history, after] using h
  | cons call calls ih => simpa [history, after] using ih (kept_event h call)

/-- A set that is kept and not stale was brought by an earlier call less than its age limit ago. -/
theorem Kept.holds {ttl minRefetch : Nat} {past : List Event} {c : KeyCache}
    (h : Kept ttl minRefetch past c) (call : Call) {keys : KeySet} {age limit : Nat}
    (hfresh : c.fresh? call.url call.now = some (keys, age)) (hlimit : age < limit) :
    ∃ document, (call.event c).Holds past limit document ∧ Publishes document keys := by
  obtain ⟨entry, hentry, hage, _, rfl⟩ := fresh?_eq_some.1 hfresh
  obtain ⟨p, hp, document, hbrought, hnow, hkeys⟩ := h.origin _ _ hentry
  refine ⟨document, .inr ⟨p, hp, hbrought, ?_⟩, hkeys⟩
  rw [hnow]
  exact since?_lt hage hlimit

theorem holds_of_fetched {call : Call} {c : KeyCache} {document : String}
    (hd : call.source call.url = .ok document) (hf : (call.event c).outcome.fetched = [call.url])
    (past : List Event) (limit : Nat) : (call.event c).Holds past limit document :=
  .inl ⟨hf, hd⟩

def Event.Offered (e : Event) (url id : String) (key : Jwt.VerificationKey) : Prop :=
  ∃ document keys, e.Brought url document ∧ Publishes document keys ∧ keys.get? id = some key

/-- What the outcome of a call in a run rests on. A key comes from a set that is held and not
stale, and a set that is held and recent lacks the key that is said to be unknown. Once the time to
live has passed since a key was last published, it is not handed out. -/
structure Grounded (ttl minRefetch : Nat) (past : List Event) (e : Event) : Prop where
  key : ∀ key, e.outcome.answer = .ok key → ∃ document keys, e.Holds past ttl document ∧
    Publishes document keys ∧ keys.get? e.call.id = some key
  unknown : ∀ url id, e.outcome.answer = .error (.unknownKey url id) →
    url = e.call.url ∧ id = e.call.id ∧ ∃ document keys,
      e.Holds past (min ttl minRefetch) document ∧ Publishes document keys ∧ keys.get? id = none
  withdrawn : ∀ key, ¬e.Offered e.call.url e.call.id key →
    (∀ p ∈ past, p.Offered e.call.url e.call.id key → p.call.now ≤ e.call.now →
      p.call.now + ttl ≤ e.call.now) →
    e.outcome.answer ≠ .ok key

theorem Kept.key {ttl minRefetch : Nat} {past : List Event} {c : KeyCache}
    (h : Kept ttl minRefetch past c) (call : Call) {key : Jwt.VerificationKey}
    (hkey : (call.event c).outcome.answer = .ok key) :
    ∃ document keys, (call.event c).Holds past ttl document ∧ Publishes document keys ∧
      keys.get? call.id = some key := by
  rcases resolve_cases c call.source call.url call.id call.now with
    ⟨keys, age, hfresh, _, hr⟩ | ⟨cause, warnings, _, hr⟩ |
      ⟨document, reading, warnings, hd, hreading, hr⟩
  · simp only [Call.event, hr, keyIn_eq_ok] at hkey
    obtain ⟨_, _, _, hlt, _⟩ := fresh?_eq_some.1 hfresh
    obtain ⟨document, hholds, hpub⟩ := h.holds call hfresh (h.ttl ▸ hlt)
    exact ⟨document, keys, hholds, hpub, hkey⟩
  · simp [Call.event, hr] at hkey
  · simp only [Call.event, hr, keyIn_eq_ok] at hkey
    exact ⟨document, reading.keys, holds_of_fetched hd (by simp only [Call.event, hr]) past ttl,
      ⟨reading, hreading, rfl⟩, hkey⟩

theorem Kept.unknown {ttl minRefetch : Nat} {past : List Event} {c : KeyCache}
    (h : Kept ttl minRefetch past c) (call : Call) {url id : String}
    (hunknown : (call.event c).outcome.answer = .error (.unknownKey url id)) :
    url = call.url ∧ id = call.id ∧ ∃ document keys,
      (call.event c).Holds past (min ttl minRefetch) document ∧ Publishes document keys ∧
        keys.get? id = none := by
  rcases resolve_cases c call.source call.url call.id call.now with
    ⟨keys, age, hfresh, hkept, hr⟩ | ⟨cause, warnings, hcause, hr⟩ |
      ⟨document, reading, warnings, hd, hreading, hr⟩
  · simp only [Call.event, hr, keyIn_eq_unknown] at hunknown
    obtain ⟨hnone, rfl, rfl⟩ := hunknown
    obtain ⟨_, _, _, hlt, _⟩ := fresh?_eq_some.1 hfresh
    -- The set lacks the key, so it was used because it is recent.
    have hrecent : age < c.minRefetch := by simpa [Table.contains, hnone] using hkept
    rw [h.ttl] at hlt
    rw [h.minRefetch] at hrecent
    obtain ⟨document, hholds, hpub⟩ := h.holds call hfresh (Nat.lt_min.2 ⟨hlt, hrecent⟩)
    exact ⟨rfl, rfl, document, keys, hholds, hpub, hnone⟩
  · simp only [Call.event, hr, Except.error.injEq] at hunknown
    exact absurd hunknown (hcause url id)
  · simp only [Call.event, hr, keyIn_eq_unknown] at hunknown
    obtain ⟨hnone, rfl, rfl⟩ := hunknown
    exact ⟨rfl, rfl, document, reading.keys,
      holds_of_fetched hd (by simp only [Call.event, hr]) past _, ⟨reading, hreading, rfl⟩, hnone⟩

/-- In every run from an empty cache, every call is grounded in what came before it. -/
theorem run_grounded (ttl minRefetch : Nat) (calls : List Call) (call : Call) :
    Grounded ttl minRefetch (history (new ttl minRefetch) calls)
      (call.event (after (new ttl minRefetch) calls)) := by
  have hkept := kept_run (kept_new ttl minRefetch) calls
  rw [List.nil_append] at hkept
  refine ⟨fun key => hkept.key call, fun url id => hkept.unknown call, ?_⟩
  intro key hnot hpast hkey
  -- The key came with this call or less than `ttl` before it, and neither can be.
  obtain ⟨document, keys, hholds, hpub, hget⟩ := hkept.key call hkey
  rcases hholds with hbrought | ⟨p, hp, hbrought, hle, hlt⟩
  · exact hnot ⟨document, keys, hbrought, hpub, hget⟩
  · have hold := hpast p hp ⟨document, keys, hbrought, hpub, hget⟩ hle
    exact absurd hlt (Int.not_lt.2 (Int.le_sub_left_of_add_le hold))

end Attestation.KeyCache
