import Attestation.Proofs.Engine.Stages
import Attestation.Proofs.Jwt.Verification
import Attestation.Proofs.KeyCache.Requests

/-!
How often an engine asks for keys. Anybody may hand in evidence, and it is evidence that makes an
engine ask. While the place answers, the clock bounds the requests: a set that has been brought is
not asked for again before it is stale or no longer recent.
-/
namespace Attestation

namespace KeyCache

variable {c : KeyCache} {source : KeySource} {url id : String} {time now : Instant}

/-- For how long a set is not asked for again, whatever keys are missing in it. -/
def rest (c : KeyCache) : Nat := min c.ttl c.minRefetch

theorem since?_of_le {start now : Int} (h : start ≤ now) :
    ∃ age, Instant.since? start now = some age := by
  refine ⟨(now - start).toNat, since?_eq_some.2 ⟨h, ?_⟩⟩
  omega

theorem KeptAt.rested (h : c.KeptAt url time) (hnow : time ≤ now)
    (huncached : c.cached? url id now = none) : time + c.rest ≤ now := by
  obtain ⟨entry, hentry, rfl⟩ := h
  obtain ⟨age, hage⟩ := since?_of_le hnow
  apply since?_le hage
  by_cases hfresh : age < c.ttl
  · have hkept := fresh?_eq_some.2 ⟨entry, hentry, hage, hfresh, rfl⟩
    obtain ⟨_, hrecent⟩ := cached?_eq_none hkept huncached
    exact Nat.le_trans (Nat.min_le_right _ _) hrecent
  · have hstale := Nat.not_lt.1 hfresh
    exact Nat.le_trans (Nat.min_le_left _ _) hstale

theorem refresh_rest (c : KeyCache) (source : KeySource) (url id : String) (now : Instant) :
    (c.refresh source url id now).cache.rest = c.rest := by
  rcases refresh_cache c source url id now with ⟨reading, _, _, hcache⟩ | ⟨_, hcache⟩
  · rw [hcache]
    rfl
  · rw [hcache]

end KeyCache

namespace Engine

open KeyCache

/-- Evidence that is handed in, and what places would answer at that moment. -/
structure Submission where
  source : KeySource
  evidence : Bytes
  publicKey : Option String
  now : Instant
  order : Jwt.SearchOrder

/-- A submission with the cache that it found and its outcome. -/
structure Event where
  submission : Submission
  before : KeyCache
  outcome : Outcome

def Submission.event (s : Submission) (engine : Engine) (c : KeyCache) : Event :=
  ⟨s, c, engine.verify s.source c s.evidence s.publicKey s.now s.order⟩

/-- Submissions that are verified one after another. -/
def history (engine : Engine) (c : KeyCache) : List Submission → List Event
  | [] => []
  | s :: rest => s.event engine c :: engine.history (s.event engine c).outcome.cache rest

/-- All that is asked for in a run. -/
def requests (events : List Event) : List String := events.flatMap (·.outcome.fetched)

/-- Every request of a run brings a usable set. -/
def Served (events : List Event) : Prop :=
  ∀ e ∈ events, ∀ url ∈ e.outcome.fetched, Usable e.submission.source url

/-- A submission asks one place at most, and that once. Evidence that is no token, or that names no
key, asks for nothing and leaves the cache as it is. -/
structure Event.Frugal (e : Event) (url : String) : Prop where
  fetched : e.outcome.fetched = [] ∨ e.outcome.fetched = [url]
  unnamed : (∀ token, Jwt.Evidence.ofBytes e.submission.evidence = .ok token →
      token.header.keyId = none) →
    e.outcome.fetched = [] ∧ e.outcome.cache = e.before

variable {engine : Engine} {issuer : Jwt.Issuer} {c : KeyCache} {submissions : List Submission}
  {first last : Instant}

/-! One submission. -/

/-- A submission asks for nothing, or it names a key that makes the cache ask. -/
theorem event_cases (hissuer : engine.issuer? = some issuer) (c : KeyCache) (s : Submission) :
    ((s.event engine c).outcome.fetched = [] ∧ (s.event engine c).outcome.cache = c) ∨
    ∃ token id, Jwt.readToken s.evidence = .ok (token, id) ∧
      c.cached? issuer.keysUrl id s.now = none ∧
      (s.event engine c).outcome.fetched = [issuer.keysUrl] ∧
      (s.event engine c).outcome.cache =
        (c.refresh s.source issuer.keysUrl id s.now).cache := by
  obtain ⟨judge, hverify⟩ := verify_of_issuer hissuer s.publicKey
  have hfetched : (s.event engine c).outcome.fetched =
      (Jwt.verify c s.source issuer s.evidence s.now s.order).fetched := by
    rw [Submission.event, hverify]
    rfl
  have hcache : (s.event engine c).outcome.cache =
      (Jwt.verify c s.source issuer s.evidence s.now s.order).cache := by
    rw [Submission.event, hverify]
    rfl
  rw [hfetched, hcache]
  cases hread : Jwt.readToken s.evidence with
  | error e =>
    left
    rw [Jwt.verify_of_unread hread]
    exact ⟨rfl, rfl⟩
  | ok found =>
    obtain ⟨token, id⟩ := found
    rw [Jwt.verify_of_read hread]
    change ((c.resolve s.source issuer.keysUrl id s.now).fetched = [] ∧
      (c.resolve s.source issuer.keysUrl id s.now).cache = c) ∨ _
    cases hcached : c.cached? issuer.keysUrl id s.now with
    | some answer =>
      left
      rw [resolve_of_cached hcached]
      exact ⟨rfl, rfl⟩
    | none =>
      right
      refine ⟨token, id, rfl, hcached, ?_, ?_⟩
      · change (c.resolve s.source issuer.keysUrl id s.now).fetched = _
        rw [resolve_of_uncached hcached, refresh_fetched]
      · change (c.resolve s.source issuer.keysUrl id s.now).cache = _
        rw [resolve_of_uncached hcached]

theorem event_frugal (hissuer : engine.issuer? = some issuer) (c : KeyCache) (s : Submission) :
    (s.event engine c).Frugal issuer.keysUrl := by
  rcases event_cases hissuer c s with hquiet | ⟨token, id, hread, _, hfetched, _⟩
  · exact ⟨.inl hquiet.1, fun _ => hquiet⟩
  · refine ⟨.inr hfetched, ?_⟩
    intro hunnamed
    obtain ⟨htoken, hid⟩ := Jwt.readToken_iff.1 hread
    have hnone : token.header.keyId = none := hunnamed token htoken
    rw [hid] at hnone
    simp at hnone

/-! Runs. -/

theorem history_frugal (hissuer : engine.issuer? = some issuer) (c : KeyCache)
    (submissions : List Submission) :
    ∀ e ∈ engine.history c submissions, e.Frugal issuer.keysUrl := by
  induction submissions generalizing c with
  | nil => simp [history]
  | cons s rest ih =>
    rw [history, List.forall_mem_cons]
    exact ⟨event_frugal hissuer c s, ih (s.event engine c).outcome.cache⟩

theorem requests_cons (e : Event) (events : List Event) :
    (requests (e :: events)).length = e.outcome.fetched.length + (requests events).length := by
  simp [requests]

/-- A request no sooner than allowed pays for itself with the time that has passed. -/
theorem count_of_rested {time now last : Int} {rest count : Nat} (hrested : time + rest ≤ now)
    (hlast : now ≤ last) (hcount : count * rest ≤ (last - now).toNat) :
    (1 + count) * rest ≤ (last - time).toNat := by
  rw [Nat.add_mul, Nat.one_mul]
  omega

/-- Once a set has been brought, every request takes up the time for which a set is good. -/
theorem requests_of_keptAt (hissuer : engine.issuer? = some issuer) {time : Instant}
    (hkept : c.KeptAt issuer.keysUrl time)
    (horder : submissions.Pairwise fun earlier later => earlier.now ≤ later.now)
    (htimes : ∀ s ∈ submissions, time ≤ s.now ∧ s.now ≤ last)
    (hserved : Served (engine.history c submissions)) :
    (requests (engine.history c submissions)).length * c.rest ≤ (last - time).toNat := by
  induction submissions generalizing c time with
  | nil => simp [history, requests]
  | cons s rest ih =>
    obtain ⟨hlater, horder⟩ := List.pairwise_cons.1 horder
    obtain ⟨⟨htime, hlast⟩, htimes⟩ := List.forall_mem_cons.1 htimes
    obtain ⟨husable, hserved⟩ := List.forall_mem_cons.1 hserved
    rw [history, requests_cons]
    rcases event_cases hissuer c s with ⟨hfetched, hcache⟩ | ⟨_, id, _, huncached, hfetched, hcache⟩
    · rw [hcache] at hserved ⊢
      rw [hfetched, List.length_nil, Nat.zero_add]
      exact ih hkept horder htimes hserved
    · have hset : Usable s.source issuer.keysUrl :=
        husable issuer.keysUrl (by rw [hfetched]; exact List.mem_singleton_self _)
      have hcount := ih (c := (s.event engine c).outcome.cache)
        (by rw [hcache]; exact keptAt_of_usable c id s.now hset) horder
        (fun later hmem => ⟨hlater later hmem, (htimes later hmem).2⟩) hserved
      have hrest : (s.event engine c).outcome.cache.rest = c.rest := by
        rw [hcache, refresh_rest]
      rw [hrest] at hcount
      rw [hfetched, List.length_singleton]
      exact count_of_rested (hkept.rested htime huncached) hlast hcount

theorem count_le_div {first now last : Int} {rest count : Nat} (hrest : 0 < rest)
    (hfirst : first ≤ now) (hcount : count * rest ≤ (last - now).toNat) :
    count ≤ (last - first).toNat / rest := by
  rw [Nat.le_div_iff_mul_le hrest]
  omega

/-- Whatever evidence is handed in between two points in time, the requests are as many as sets
that follow one another fit between them, and one. -/
theorem requests_within_budget (hissuer : engine.issuer? = some issuer) (httl : 0 < c.ttl)
    (hmin : 0 < c.minRefetch)
    (horder : submissions.Pairwise fun earlier later => earlier.now ≤ later.now)
    (htimes : ∀ s ∈ submissions, first ≤ s.now ∧ s.now ≤ last) :
    (∀ e ∈ engine.history c submissions, e.Frugal issuer.keysUrl) ∧
    (Served (engine.history c submissions) →
      (requests (engine.history c submissions)).length ≤
        1 + (last - first).toNat / min c.ttl c.minRefetch) := by
  refine ⟨history_frugal hissuer c submissions, ?_⟩
  intro hserved
  -- Nothing is known of what is kept at first, so the run up to the first request is passed over.
  induction submissions with
  | nil => simp [history, requests]
  | cons s rest ih =>
    obtain ⟨hlater, horder⟩ := List.pairwise_cons.1 horder
    obtain ⟨⟨hfirst, _⟩, htimes⟩ := List.forall_mem_cons.1 htimes
    obtain ⟨husable, hserved⟩ := List.forall_mem_cons.1 hserved
    rw [history, requests_cons]
    rcases event_cases hissuer c s with ⟨hfetched, hcache⟩ | ⟨_, id, _, _, hfetched, hcache⟩
    · rw [hcache] at hserved ⊢
      rw [hfetched, List.length_nil, Nat.zero_add]
      exact ih horder htimes hserved
    · have hset : Usable s.source issuer.keysUrl :=
        husable issuer.keysUrl (by rw [hfetched]; exact List.mem_singleton_self _)
      have hkept : (s.event engine c).outcome.cache.KeptAt issuer.keysUrl s.now := by
        rw [hcache]
        exact keptAt_of_usable c id s.now hset
      have hcount := requests_of_keptAt hissuer hkept horder
        (fun later hmem => ⟨hlater later hmem, (htimes later hmem).2⟩) hserved
      rw [hcache, refresh_rest] at hcount
      rw [hfetched, List.length_singleton, hcache]
      exact Nat.add_le_add_left (count_le_div (Nat.lt_min.2 ⟨httl, hmin⟩) hfirst hcount) 1

/-! The same token three times, naming a key that nobody publishes. The second time the set is still
recent, the third time no longer. -/

/-- Its header is `{"alg":"RS256","kid":"x"}`, its payload has no claims. -/
def lostToken : Bytes := Utf8.encode "eyJhbGciOiJSUzI1NiIsImtpZCI6IngifQ.e30.AA"

def lostSubmissions : List Submission :=
  [1700000000000000000, 1700000299999999999, 1700000300000000000].map fun now =>
    ⟨specimenSource, lostToken, some "k", now, .standard⟩

def lostHistory : List Event :=
  (azure "https://i" []).history (KeyCache.new 3600000000000 300000000000) lostSubmissions

set_option maxRecDepth 100000 in
theorem requests_within_budget_lost : (requests lostHistory).length = 2 ∧
    (∀ e ∈ lostHistory, e.Frugal "https://i/certs") ∧
    (requests lostHistory).length ≤
      1 + ((1700000300000000000 : Int) - 1700000000000000000).toNat / min 3600000000000 300000000000 := by
  have hcount : (requests lostHistory).length = 2 := by decide +kernel
  have hserved : Served lostHistory := by
    unfold Served
    decide +kernel
  obtain ⟨hfrugal, hbudget⟩ := @requests_within_budget (azure "https://i" []) _
    (KeyCache.new 3600000000000 300000000000) lostSubmissions 1700000000000000000 1700000300000000000 rfl (by decide)
    (by decide) (by simp [lostSubmissions]) (by simp [lostSubmissions])
  exact ⟨hcount, hfrugal, hbudget hserved⟩

end Engine

end Attestation
