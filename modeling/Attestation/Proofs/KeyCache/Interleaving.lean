import Attestation.Proofs.KeyCache.Requests

/-!
Requests for keys that are made at the same time. A request looks at what is kept, asks the place and
keeps the set that it got, and between these steps others take theirs. Nobody waits for anybody, and
the last set to be kept stands: it may be older than the one it replaces, if it was on its way when
that one was fetched.
-/
namespace Attestation.KeyCache

structure Request where
  url : String
  id : String
  now : Instant

/-- What a request does next. -/
inductive Stage where
  | looking
  | asking
  /-- The number of the fetch that it made, and the set that the fetch brought. -/
  | storing (fetch : Nat) (keys : KeySet)
  | finished (answer : Except Error Jwt.VerificationKey)

/-- The fetch whose set is on its way. -/
def Stage.pending? : Stage → Option Nat
  | storing fetch _ => some fetch
  | _ => none

structure Task where
  request : Request
  stage : Stage

/-- A fetch from a place, and the set that it brought unless it was in vain. -/
structure Fetch where
  url : String
  keys : Option KeySet

structure Shared where
  cache : KeyCache
  tasks : List Task
  /-- All fetches so far, in their order. -/
  fetches : List Fetch
  /-- The number of the fetch that brought what is kept for a place. -/
  origin : Table String Nat

/-- A turn of one task, and what places answer at that moment. -/
structure Turn where
  task : Nat
  source : KeySource

/-- The set that a place has to offer. -/
def offer (source : KeySource) (url : String) : Except Error KeySet :=
  match readingOf source url with
  | .error cause => .error (.fetch url cause)
  | .ok reading => if reading.keys.isEmpty then .error (.noUsableKeys url) else .ok reading.keys

namespace Shared

def start (c : KeyCache) (requests : List Request) : Shared where
  cache := c
  tasks := requests.map (⟨·, .looking⟩)
  fetches := []
  origin := Table.empty

def turnTo (s : Shared) (i : Nat) (r : Request) (stage : Stage) : Shared :=
  { s with tasks := s.tasks.set i ⟨r, stage⟩ }

def look (s : Shared) (r : Request) : Stage :=
  match s.cache.cached? r.url r.id r.now with
  | some answer => .finished answer
  | none => .asking

/-- The stage after a fetch, which is the next one to be counted. -/
def received (s : Shared) : Except Error KeySet → Stage
  | .error cause => .finished (.error cause)
  | .ok keys => .storing s.fetches.length keys

def advance (s : Shared) (turn : Turn) : Shared :=
  match s.tasks[turn.task]? with
  | none => s
  | some ⟨_, .finished _⟩ => s
  | some ⟨r, .looking⟩ => s.turnTo turn.task r (s.look r)
  | some ⟨r, .asking⟩ =>
    let offered := offer turn.source r.url
    { s.turnTo turn.task r (s.received offered) with
      fetches := s.fetches ++ [⟨r.url, offered.toOption⟩] }
  | some ⟨r, .storing fetch keys⟩ =>
    { s.turnTo turn.task r (.finished (keyIn keys r.url r.id)) with
      cache := s.cache.store r.url keys r.now
      origin := s.origin.insert r.url fetch }

def run (s : Shared) (turns : List Turn) : Shared := turns.foldl advance s

/-- What is kept for a place is the set that the fetch of this number brought. -/
def Keeps (s : Shared) (url : String) (fetch : Nat) : Prop :=
  s.origin.get? url = some fetch ∧ ∃ keys stamp, s.fetches[fetch]? = some ⟨url, some keys⟩ ∧
    s.cache.entries.get? url = some ⟨keys, stamp⟩

variable {s : Shared} {url : String} {fetch : Nat}

/-! One turn. -/

section
variable {turn : Turn} {r : Request}

theorem advance_looking (h : s.tasks[turn.task]? = some ⟨r, .looking⟩) :
    s.advance turn = s.turnTo turn.task r (s.look r) := by
  simp only [advance, h]

theorem advance_asking (h : s.tasks[turn.task]? = some ⟨r, .asking⟩) :
    s.advance turn = { s.turnTo turn.task r (s.received (offer turn.source r.url)) with
      fetches := s.fetches ++ [⟨r.url, (offer turn.source r.url).toOption⟩] } := by
  simp only [advance, h]

theorem advance_storing {keys : KeySet}
    (h : s.tasks[turn.task]? = some ⟨r, .storing fetch keys⟩) :
    s.advance turn = { s.turnTo turn.task r (.finished (keyIn keys r.url r.id)) with
      cache := s.cache.store r.url keys r.now
      origin := s.origin.insert r.url fetch } := by
  simp only [advance, h]

theorem advance_finished {answer : Except Error Jwt.VerificationKey}
    (h : s.tasks[turn.task]? = some ⟨r, .finished answer⟩) : s.advance turn = s := by
  simp only [advance, h]

end

/-- A turn is of one of four kinds: nothing is left to do, a look, a fetch, a set is kept. -/
theorem advance_cases (s : Shared) (turn : Turn) :
    s.advance turn = s ∨ ∃ r stage, ⟨r, stage⟩ ∈ s.tasks ∧
      ((stage = .looking ∧ s.advance turn = s.turnTo turn.task r (s.look r)) ∨
      (stage = .asking ∧ s.advance turn =
        { s.turnTo turn.task r (s.received (offer turn.source r.url)) with
          fetches := s.fetches ++ [⟨r.url, (offer turn.source r.url).toOption⟩] }) ∨
      ∃ fetch keys, stage = .storing fetch keys ∧ s.advance turn =
        { s.turnTo turn.task r (.finished (keyIn keys r.url r.id)) with
          cache := s.cache.store r.url keys r.now
          origin := s.origin.insert r.url fetch }) := by
  cases htask : s.tasks[turn.task]? with
  | none => exact .inl (by simp only [advance, htask])
  | some t =>
    obtain ⟨r, stage⟩ := t
    have hmem := List.mem_of_getElem? htask
    cases stage with
    | looking => exact .inr ⟨r, _, hmem, .inl ⟨rfl, advance_looking htask⟩⟩
    | asking => exact .inr ⟨r, _, hmem, .inr (.inl ⟨rfl, advance_asking htask⟩)⟩
    | storing fetch keys =>
      exact .inr ⟨r, _, hmem, .inr (.inr ⟨fetch, keys, rfl, advance_storing htask⟩)⟩
    | finished answer => exact .inl (advance_finished htask)

theorem pending?_eq_some {stage : Stage} :
    stage.pending? = some fetch ↔ ∃ keys, stage = .storing fetch keys := by
  cases stage <;> simp [Stage.pending?, eq_comm]

theorem look_ne_storing (s : Shared) (r : Request) (fetch : Nat) (keys : KeySet) :
    s.look r ≠ .storing fetch keys := by
  unfold look
  cases s.cache.cached? r.url r.id r.now <;> simp

theorem received_eq_storing {offered : Except Error KeySet} {keys : KeySet} :
    s.received offered = .storing fetch keys ↔ fetch = s.fetches.length ∧ offered = .ok keys := by
  cases offered <;> simp [received, eq_comm]

theorem mem_turnTo {i : Nat} {r : Request} {stage : Stage} {t : Task}
    (h : t ∈ (s.turnTo i r stage).tasks) : t ∈ s.tasks ∨ t = ⟨r, stage⟩ :=
  List.mem_or_eq_of_mem_set h

theorem getElem?_turnTo {i : Nat} {t : Task} (h : s.tasks[i]? = some t) (r : Request)
    (stage : Stage) : (s.turnTo i r stage).tasks[i]? = some ⟨r, stage⟩ := by
  obtain ⟨hlt, _⟩ := List.getElem?_eq_some_iff.1 h
  exact List.getElem?_set_self hlt

/-! A task that is left alone. -/

theorem refresh_of_offer (c : KeyCache) (source : KeySource) (url id : String) (now : Instant) :
    (∃ cause, offer source url = .error cause ∧ (c.refresh source url id now).answer = .error cause ∧
      (c.refresh source url id now).cache = c) ∨
    ∃ keys, offer source url = .ok keys ∧
      (c.refresh source url id now).answer = keyIn keys url id ∧
      (c.refresh source url id now).cache = c.store url keys now := by
  unfold offer refresh
  cases readingOf source url with
  | error cause => exact .inl ⟨_, rfl, rfl, rfl⟩
  | ok reading =>
    dsimp only
    split
    · exact .inl ⟨_, rfl, rfl, rfl⟩
    · exact .inr ⟨_, rfl, rfl, rfl⟩

/-- A task whose turns follow one another does what a call does. -/
theorem run_alone {i : Nat} {r : Request} (htask : s.tasks[i]? = some ⟨r, .looking⟩)
    (source : KeySource) :
    (s.run (List.replicate 3 ⟨i, source⟩)).cache =
        (s.cache.resolve source r.url r.id r.now).cache ∧
      (s.run (List.replicate 3 ⟨i, source⟩)).tasks[i]? =
        some ⟨r, .finished (s.cache.resolve source r.url r.id r.now).answer⟩ := by
  have hrun : s.run (List.replicate 3 ⟨i, source⟩) =
      ((s.turnTo i r (s.look r)).advance ⟨i, source⟩).advance ⟨i, source⟩ := by
    have hfirst : s.advance ⟨i, source⟩ = s.turnTo i r (s.look r) := advance_looking htask
    rw [← hfirst]
    rfl
  rw [hrun]
  have hlooked := getElem?_turnTo htask r (s.look r)
  cases hcached : s.cache.cached? r.url r.id r.now with
  | some answer =>
    have hlook : s.look r = .finished answer := by simp only [look, hcached]
    rw [hlook] at hlooked ⊢
    have hstays : (s.turnTo i r (.finished answer)).advance ⟨i, source⟩ =
      s.turnTo i r (.finished answer) := advance_finished hlooked
    rw [hstays, hstays, resolve_of_cached hcached]
    exact ⟨rfl, hlooked⟩
  | none =>
    have hlook : s.look r = .asking := by simp only [look, hcached]
    rw [hlook] at hlooked ⊢
    have hasked : (s.turnTo i r .asking).advance ⟨i, source⟩ = _ := advance_asking hlooked
    rw [hasked, resolve_of_uncached hcached]
    rcases refresh_of_offer s.cache source r.url r.id r.now with
      ⟨cause, hoffer, hanswer, hcache⟩ | ⟨keys, hoffer, hanswer, hcache⟩
    · have hdone := getElem?_turnTo hlooked r (.finished (.error cause))
      rw [hoffer, advance_finished hdone, hanswer, hcache]
      exact ⟨rfl, hdone⟩
    · have hstoring := getElem?_turnTo hlooked r (.storing s.fetches.length keys)
      rw [hoffer, advance_storing hstoring, hanswer, hcache]
      exact ⟨rfl, getElem?_turnTo hstoring r _⟩

/-! What is kept and what is on its way. -/

/-- Every set that is kept or on its way is the one that its fetch brought. -/
structure Sound (s : Shared) : Prop where
  storing : ∀ t ∈ s.tasks, ∀ fetch keys, t.stage = .storing fetch keys →
    s.fetches[fetch]? = some ⟨t.request.url, some keys⟩
  origin : ∀ url fetch, s.origin.get? url = some fetch → s.Keeps url fetch

theorem sound_start (c : KeyCache) (requests : List Request) : (start c requests).Sound where
  storing t ht fetch keys hstage := by
    obtain ⟨r, _, rfl⟩ := List.mem_map.1 ht
    simp at hstage
  origin url fetch h := by simp [start, Table.get?_empty] at h

theorem Sound.advance (h : s.Sound) (turn : Turn) : (s.advance turn).Sound := by
  rcases s.advance_cases turn with hs | ⟨r, stage, hmem, ⟨_, hs⟩ | ⟨_, hs⟩ | ⟨fetch, keys, rfl, hs⟩⟩
  · rw [hs]
    exact h
  · rw [hs]
    refine ⟨?_, h.origin⟩
    intro t ht fetch keys hstage
    rcases mem_turnTo ht with ht | rfl
    · exact h.storing t ht fetch keys hstage
    · exact absurd hstage (s.look_ne_storing r fetch keys)
  · rw [hs]
    refine ⟨?_, ?_⟩
    · intro t ht fetch keys hstage
      rcases mem_turnTo ht with ht | rfl
      · have hold := h.storing t ht fetch keys hstage
        obtain ⟨hlt, _⟩ := List.getElem?_eq_some_iff.1 hold
        simpa [List.getElem?_append_left hlt] using hold
      · obtain ⟨rfl, hoffer⟩ := received_eq_storing.1 hstage
        simp [hoffer, Except.toOption]
    · intro url fetch horigin
      obtain ⟨_, keys, stamp, hfetch, hentry⟩ := h.origin url fetch horigin
      obtain ⟨hlt, _⟩ := List.getElem?_eq_some_iff.1 hfetch
      exact ⟨horigin, keys, stamp, by simpa [List.getElem?_append_left hlt] using hfetch, hentry⟩
  · rw [hs]
    refine ⟨?_, ?_⟩
    · intro t ht fetch keys hstage
      rcases mem_turnTo ht with ht | rfl
      · exact h.storing t ht fetch keys hstage
      · simp at hstage
    · intro url found horigin
      have hfetch := h.storing _ hmem fetch keys rfl
      by_cases heq : url = r.url
      · subst heq
        obtain rfl : fetch = found := by simpa [Table.get?_insert] using horigin
        exact ⟨horigin, keys, r.now, hfetch, by simp [get?_store]⟩
      · have hold : s.origin.get? url = some found := by
          simpa [Table.get?_insert, heq] using horigin
        obtain ⟨_, keys', stamp, hfetch', hentry⟩ := h.origin url found hold
        exact ⟨horigin, keys', stamp, hfetch', by simpa [get?_store, heq] using hentry⟩

theorem Sound.run (h : s.Sound) (turns : List Turn) : (s.run turns).Sound := by
  induction turns generalizing s with
  | nil => exact h
  | cons turn turns ih => exact ih (h.advance turn)

/-- Nothing older than a fetch is kept for a place or on its way there. -/
structure Settled (s : Shared) (url : String) (fetch : Nat) : Prop where
  kept : ∃ later, fetch ≤ later ∧ s.origin.get? url = some later
  pending : ∀ t ∈ s.tasks, t.request.url = url → ∀ later ∈ t.stage.pending?, fetch ≤ later
  made : fetch ≤ s.fetches.length

theorem Settled.advance (h : s.Settled url fetch) (turn : Turn) :
    (s.advance turn).Settled url fetch := by
  rcases s.advance_cases turn with hs | ⟨r, stage, hmem, ⟨_, hs⟩ | ⟨_, hs⟩ | ⟨found, keys, rfl, hs⟩⟩
  · rw [hs]
    exact h
  · rw [hs]
    refine ⟨h.kept, ?_, h.made⟩
    intro t ht hurl later hlater
    rcases mem_turnTo ht with ht | rfl
    · exact h.pending t ht hurl later hlater
    · obtain ⟨keys, hstage⟩ := pending?_eq_some.1 hlater
      exact absurd hstage (s.look_ne_storing r later keys)
  · rw [hs]
    refine ⟨h.kept, ?_, ?_⟩
    · intro t ht hurl later hlater
      rcases mem_turnTo ht with ht | rfl
      · exact h.pending t ht hurl later hlater
      · -- The fetch that is made now comes after all others.
        obtain ⟨keys, hstage⟩ := pending?_eq_some.1 hlater
        obtain ⟨rfl, _⟩ := received_eq_storing.1 hstage
        exact h.made
    · have hmade := h.made
      simp only [List.length_append, List.length_cons, List.length_nil]
      omega
  · rw [hs]
    refine ⟨?_, ?_, h.made⟩
    · by_cases heq : url = r.url
      · subst heq
        have hfound := h.pending _ hmem rfl found rfl
        exact ⟨found, hfound, by simp [Table.get?_insert]⟩
      · obtain ⟨later, hlater, hkept⟩ := h.kept
        exact ⟨later, hlater, by simpa [Table.get?_insert, heq] using hkept⟩
    · intro t ht hurl later hlater
      rcases mem_turnTo ht with ht | rfl
      · exact h.pending t ht hurl later hlater
      · simp [Stage.pending?] at hlater

theorem Settled.run (h : s.Settled url fetch) (turns : List Turn) :
    (s.run turns).Settled url fetch := by
  induction turns generalizing s with
  | nil => exact h
  | cons turn turns ih => exact ih (h.advance turn)

theorem run_append (s : Shared) (turns more : List Turn) :
    s.run (turns ++ more) = (s.run turns).run more :=
  List.foldl_append

theorem Keeps.lt (h : s.Keeps url fetch) : fetch < s.fetches.length := by
  obtain ⟨_, _, _, hfetch, _⟩ := h
  exact (List.getElem?_eq_some_iff.1 hfetch).1

theorem keeps_advance_storing {i : Nat} {source : KeySource} {r : Request} {keys : KeySet}
    (htask : s.tasks[i]? = some ⟨r, .storing fetch keys⟩) {later : Nat}
    (h : (s.advance ⟨i, source⟩).Keeps r.url later) : later = fetch := by
  obtain ⟨horigin, _⟩ := h
  rw [advance_storing htask] at horigin
  simpa [Table.get?_insert, eq_comm] using horigin

/-- What is kept for a place is safe if and only if no set of an earlier fetch is on its way there:
only then it never gives way to an earlier one, whatever turns are taken from now on. -/
theorem kept_safe_iff {c : KeyCache} {requests : List Request} {turns : List Turn}
    (hkept : ((start c requests).run turns).Keeps url fetch) :
    (∀ more, ∃ later, fetch ≤ later ∧
      ((start c requests).run (turns ++ more)).Keeps url later) ↔
    ∀ t ∈ ((start c requests).run turns).tasks, t.request.url = url →
      ∀ pending ∈ t.stage.pending?, fetch ≤ pending := by
  constructor
  · intro hsafe t ht hurl pending hpending
    obtain ⟨keys, hstage⟩ := pending?_eq_some.1 hpending
    obtain ⟨i, htask⟩ := List.getElem?_of_mem ht
    obtain ⟨r, stage⟩ := t
    subst hstage hurl
    -- The task that has the earlier set takes its turn.
    obtain ⟨later, hle, hkeeps⟩ := hsafe [⟨i, brokenSource⟩]
    rw [run_append] at hkeeps
    have hlater : later = pending := keeps_advance_storing htask hkeeps
    exact hlater ▸ hle
  · intro hpending more
    have hsound := (sound_start c requests).run turns
    have hsettled : ((start c requests).run turns).Settled url fetch :=
      ⟨⟨fetch, Nat.le_refl fetch, hkept.1⟩, hpending, Nat.le_of_lt hkept.lt⟩
    obtain ⟨later, hle, horigin⟩ := (hsettled.run more).kept
    rw [run_append]
    exact ⟨later, hle, (hsound.run more).origin url later horigin⟩

/-! One call after another, the second when the set of the first is stale; a third one waits. -/

def specimenRequests : List Request :=
  [⟨"u", "k", 1700000000000000000⟩, ⟨"u", "k", 1700003600000000000⟩, ⟨"u", "x", 1700003600000000000⟩]

def specimenTurns : List Turn :=
  List.replicate 3 ⟨0, specimenSource⟩ ++ List.replicate 3 ⟨1, specimenSource⟩ ++
    [⟨2, specimenSource⟩]

set_option maxRecDepth 100000 in
theorem kept_safe_in_order :
    ((start (new 3600000000000 300000000000) specimenRequests).run specimenTurns).Keeps "u" 1 ∧
      ∀ more, ∃ later, 1 ≤ later ∧
        ((start (new 3600000000000 300000000000) specimenRequests).run (specimenTurns ++ more)).Keeps "u"
          later := by
  have horigin : ((start (new 3600000000000 300000000000) specimenRequests).run specimenTurns).origin.get? "u" =
      some 1 := by decide +kernel
  have hkept := ((sound_start _ _).run _).origin _ _ horigin
  exact ⟨hkept, (kept_safe_iff hkept).2 (by decide +kernel)⟩

/-- Nothing that is kept ever gives way to the set of an earlier fetch. -/
def NeverRollsBack (s : Shared) : Prop :=
  ∀ turns more url fetch later, (s.run turns).Keeps url fetch →
    (s.run (turns ++ more)).Keeps url later → fetch ≤ later

/-! A call whose fetch is answered before the keys are changed, and which keeps what it got after
another one has kept the new keys. -/

def changedSource : KeySource := fun _ =>
  .ok "\x7b\"keys\":[\x7b\"kid\":\"x\",\"kty\":\"RSA\",\"n\":\"AQAB\",\"e\":\"AQAB\"\x7d]\x7d"

def overlappingRequests : List Request :=
  [⟨"u", "k", 1700000000000000000⟩, ⟨"u", "x", 1700000000000000001⟩]

def overlappingTurns : List Turn :=
  [⟨0, specimenSource⟩, ⟨0, specimenSource⟩, ⟨1, changedSource⟩, ⟨1, changedSource⟩,
    ⟨1, changedSource⟩]

set_option maxRecDepth 100000 in
theorem overlapping_rolls_back :
    ¬(start (new 3600000000000 300000000000) overlappingRequests).NeverRollsBack := by
  intro hclaim
  have hnew : ((start (new 3600000000000 300000000000) overlappingRequests).run
      overlappingTurns).origin.get? "u" = some 1 := by decide +kernel
  have hold : ((start (new 3600000000000 300000000000) overlappingRequests).run
      (overlappingTurns ++ [⟨0, changedSource⟩])).origin.get? "u" = some 0 := by decide +kernel
  have hsound := sound_start (new 3600000000000 300000000000) overlappingRequests
  have hle := hclaim _ _ "u" 1 0 ((hsound.run _).origin _ _ hnew) ((hsound.run _).origin _ _ hold)
  exact absurd hle (by decide)

end Shared

end Attestation.KeyCache
