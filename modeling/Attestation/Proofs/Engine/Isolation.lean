import Attestation.Proofs.Azure.Endpoint
import Attestation.Proofs.Engine.Budget
import Attestation.Proofs.Engine.SearchOrder
import Attestation.Proofs.KeyCache.Isolation
import Mathlib.Data.List.Forall2

/-!
Engines that share a key cache. Each looks up keys at the place of its own issuer, so that the calls
of one engine are nothing to another, whatever is handed in and in whatever order, as long as places
do not answer differently for what is asked of other places.
-/
namespace Attestation.SharedCache

/-- What a caller learns from a call. -/
structure Reply where
  result : Except VerificationError EnclaveClaims
  fetched : List String
  log : List LogEvent

def reply (o : Outcome) : Reply := ⟨o.result, o.fetched, o.log⟩

/-- The results may name different claims that are absent; all else is the same. -/
structure Reply.Alike (r r' : Reply) : Prop where
  result : Jwt.Alike r.result r'.result
  fetched : r.fetched = r'.fetched
  log : r.log = r'.log

/-- A call of one of several engines. -/
structure Call (ι : Type) where
  engine : ι
  evidence : Bytes
  publicKey : Option String
  now : Instant
  order : Jwt.SearchOrder
  /-- What places answer at that moment, by the requests that were made before. -/
  places : List String → KeySource

variable {ι : Type}

/-- Of the requests that were made before, a place minds those to itself only. -/
def Call.Separate (call : Call ι) : Prop :=
  ∀ past url, call.places past url = call.places (past.filter (· == url)) url

/-- The second call is the first one, but for the order in which it looks for required claims. -/
def Call.Reordered (call call' : Call ι) : Prop := ∃ order, call' = { call with order := order }

def Call.outcome (call : Call ι) (engines : ι → Engine) (c : KeyCache) (past : List String) :
    Outcome :=
  (engines call.engine).verify (call.places past) c call.evidence call.publicKey call.now call.order

/-- Calls that are made one after another, with their replies. -/
def history (engines : ι → Engine) (c : KeyCache) (past : List String) :
    List (Call ι) → List (Call ι × Reply)
  | [] => []
  | call :: calls =>
    let o := call.outcome engines c past
    (call, reply o) :: history engines o.cache (past ++ o.fetched) calls

section
variable {engines : ι → Engine} {call : Call ι} {issuer : Jwt.Issuer} {url : String}
  {c c' : KeyCache} {past past' : List String}

/-! One call. -/

/-- A call leaves alone what is kept for places of other issuers, and does not ask them. -/
theorem outcome_other (hissuer : (engines call.engine).issuer? = some issuer)
    (hne : url ≠ issuer.keysUrl) (c : KeyCache) (past : List String) :
    KeyCache.Agree url c (call.outcome engines c past).cache ∧
      url ∉ (call.outcome engines c past).fetched := by
  rcases Engine.verify_cases hissuer call.evidence call.publicKey call.now call.order with
    ⟨e, hverify⟩ | ⟨id, finish, hverify⟩
  · rw [Call.outcome, hverify]
    exact ⟨.refl url c, List.not_mem_nil⟩
  · rw [Call.outcome, hverify]
    exact ⟨KeyCache.agree_resolve hne c _ id call.now, fun h => hne (KeyCache.mem_fetched h)⟩

/-- Of a cache and of the requests made before, nothing matters to a call but what has to do with
the place of its issuer. -/
theorem outcome_congr (hissuer : (engines call.engine).issuer? = some issuer)
    (hseparate : call.Separate) (hagree : KeyCache.Agree issuer.keysUrl c c')
    (hpast : past.filter (· == issuer.keysUrl) = past'.filter (· == issuer.keysUrl)) :
    reply (call.outcome engines c past) = reply (call.outcome engines c' past') ∧
      KeyCache.Agree issuer.keysUrl (call.outcome engines c past).cache
        (call.outcome engines c' past').cache := by
  have hplaces : call.places past issuer.keysUrl = call.places past' issuer.keysUrl := by
    rw [hseparate past, hseparate past', hpast]
  rcases Engine.verify_cases hissuer call.evidence call.publicKey call.now call.order with
    ⟨e, hverify⟩ | ⟨id, finish, hverify⟩
  · rw [Call.outcome, Call.outcome, hverify, hverify]
    exact ⟨rfl, hagree⟩
  · have hsame := hagree.resolve hplaces id call.now
    rw [Call.outcome, Call.outcome, hverify, hverify]
    refine ⟨?_, hsame.cache⟩
    simp only [reply, Engine.conclude, hsame.answer, hsame.fetched, hsame.warnings]

/-! Runs. -/

theorem filter_append_of_not_mem {asked : List String} (h : url ∉ asked) :
    (past ++ asked).filter (· == url) = past.filter (· == url) := by
  have hnone : asked.filter (· == url) = [] := by
    rw [List.filter_eq_nil_iff]
    rintro place hplace heq
    exact h (eq_of_beq heq ▸ hplace)
  rw [List.filter_append, hnone, List.append_nil]

/-- Without the calls of others, those of an engine have the same replies. The two runs go on with
caches that agree on its place, and with the same requests to it. -/
theorem history_filter [DecidableEq ι] {issuers : ι → Jwt.Issuer} {i : ι}
    (hissuers : ∀ j, (engines j).issuer? = some (issuers j))
    (hother : ∀ j, j ≠ i → (issuers i).keysUrl ≠ (issuers j).keysUrl) {calls : List (Call ι)}
    (hseparate : ∀ call ∈ calls, call.Separate) (hagree : KeyCache.Agree (issuers i).keysUrl c c')
    (hpast : past.filter (· == (issuers i).keysUrl) = past'.filter (· == (issuers i).keysUrl)) :
    (history engines c past calls).filter (·.1.engine = i) =
      history engines c' past' (calls.filter (·.engine = i)) := by
  induction calls generalizing c c' past past' with
  | nil => rfl
  | cons call calls ih =>
    obtain ⟨hcall, hseparate⟩ := List.forall_mem_cons.1 hseparate
    rw [history]
    by_cases hengine : call.engine = i
    · subst hengine
      obtain ⟨hreply, hcache⟩ := outcome_congr (hissuers call.engine) hcall hagree hpast
      have hfetched : (call.outcome engines c past).fetched =
          (call.outcome engines c' past').fetched := congrArg Reply.fetched hreply
      have hasked : (past ++ (call.outcome engines c past).fetched).filter
            (· == (issuers call.engine).keysUrl) =
          (past' ++ (call.outcome engines c' past').fetched).filter
            (· == (issuers call.engine).keysUrl) := by
        rw [List.filter_append, List.filter_append, hpast, hfetched]
      rw [List.filter_cons_of_pos (by simp), List.filter_cons_of_pos (by simp), history, hreply,
        ih hseparate hcache hasked]
    · obtain ⟨hcache, hfetched⟩ :=
        outcome_other (hissuers call.engine) (hother call.engine hengine) c past
      rw [List.filter_cons_of_neg (by simpa using hengine),
        List.filter_cons_of_neg (by simpa using hengine)]
      exact ih hseparate (hcache.symm.trans hagree)
        ((filter_append_of_not_mem hfetched).trans hpast)

/-- In other orders the calls leave the same caches and have the same replies, but for the absent
claims that are named. -/
theorem history_reordered {calls calls' : List (Call ι)}
    (h : List.Forall₂ Call.Reordered calls calls') (c : KeyCache) (past : List String) :
    List.Forall₂ (fun one other => one.2.Alike other.2) (history engines c past calls)
      (history engines c past calls') := by
  induction h generalizing c past with
  | nil => exact .nil
  | @cons call call' _ _ hcall _ ih =>
    obtain ⟨order, rfl⟩ := hcall
    have halike := (engines call.engine).verify_order (call.places past) c call.evidence
      call.publicKey call.now call.order order
    have hrest := ih (call.outcome engines c past).cache
      (past ++ (call.outcome engines c past).fetched)
    refine .cons ⟨halike.result, halike.fetched, halike.log⟩ ?_
    simp only [Call.outcome, halike.cache, halike.fetched] at hrest ⊢
    exact hrest

end

/-- Engines for tokens whose keys are at different places do not notice each other on one cache: in
the same orders the calls of one have the same replies without those of the others, in other orders
the same but for the absent claims that are named.
Azure engines share a place if and only if their endpoints differ in slashes at the end only, and
then they are the same engine; none of them shares a place with Confidential Space. -/
theorem issuers_isolated :
    (∀ (ι : Type) [DecidableEq ι] (engines : ι → Engine) (issuers : ι → Jwt.Issuer) (i : ι)
      (c : KeyCache) (past : List String) (calls : List (Call ι)),
      (∀ j, (engines j).issuer? = some (issuers j)) →
      (∀ j, j ≠ i → (issuers i).keysUrl ≠ (issuers j).keysUrl) →
      (∀ call ∈ calls, call.Separate) →
      (history engines c past calls).filter (·.1.engine = i) =
          history engines c past (calls.filter (·.engine = i)) ∧
        ∀ reordered, List.Forall₂ Call.Reordered (calls.filter (·.engine = i)) reordered →
          List.Forall₂ (fun one other => one.2.Alike other.2)
            ((history engines c past calls).filter (·.1.engine = i))
            (history engines c past reordered)) ∧
    (∀ endpoint endpoint', PlatformConfig.SameService endpoint endpoint' →
      (Azure.issuer endpoint).keysUrl = (Azure.issuer endpoint').keysUrl ∧
      ∀ regions, (Engine.azure endpoint regions).verify =
        (Engine.azure endpoint' regions).verify) ∧
    (∀ endpoint endpoint', PlatformConfig.issuer endpoint ≠ PlatformConfig.issuer endpoint' →
      (Azure.issuer endpoint).keysUrl ≠ (Azure.issuer endpoint').keysUrl) ∧
    ∀ endpoint, (Azure.issuer endpoint).keysUrl ≠ ConfidentialSpace.issuer.keysUrl := by
  refine ⟨?_, ?_, ?_, PlatformConfig.certificatesUrl_ne⟩
  · intro ι _ engines issuers i c past calls hissuers hother hseparate
    have halone := history_filter hissuers hother hseparate (.refl _ c) (rfl : past.filter _ = _)
    refine ⟨halone, ?_⟩
    intro reordered hreordered
    rw [halone]
    exact history_reordered hreordered c past
  · intro endpoint endpoint' hsame
    have hissuer := PlatformConfig.issuer_eq_iff.2 hsame
    refine ⟨PlatformConfig.certificatesUrl_inj.2 hissuer, ?_⟩
    intro regions
    have hazure : Azure.issuer endpoint = Azure.issuer endpoint' := by
      simp only [Azure.issuer, PlatformConfig.certificatesUrl, hissuer]
    funext source cache evidence publicKey now order
    simp only [Engine.verify, hazure]
  · intro endpoint endpoint' hdiffer hsame
    exact hdiffer (PlatformConfig.certificatesUrl_inj.1 hsame)

/-! Tokens that name a key which nobody publishes, by turns at an Azure engine and at one for
Confidential Space. A place does not answer when it is asked for the first time. -/

def hesitant (past : List String) : KeySource := fun url =>
  if (past.filter (· == url)).isEmpty then .error "no connection" else KeyCache.specimenSource url

def isolatedEngines : Bool → Engine
  | true => .azure "https://i/" []
  | false => .gcp .standard

def isolatedIssuers : Bool → Jwt.Issuer
  | true => Azure.issuer "https://i/"
  | false => ConfidentialSpace.issuer

def isolatedCalls : List (Call Bool) :=
  [true, false, true, false, true].map fun engine =>
    ⟨engine, Engine.lostToken, some "k", 1700000000000000000, .standard, hesitant⟩

/-- The calls of the Azure engine, which now look for the issuer first. -/
def reorderedCalls : List (Call Bool) :=
  (isolatedCalls.filter (·.engine = true)).map fun call =>
    { call with order := .startingWith .issuer }

def isolatedHistory (calls : List (Call Bool)) : List (Call Bool × Reply) :=
  history isolatedEngines (.new 3600000000000 300000000000) [] calls

set_option maxRecDepth 100000 in
theorem issuers_isolated_alternating :
    ((isolatedHistory isolatedCalls).map (·.2.fetched) =
      [["https://i/certs"], [ConfidentialSpace.issuer.keysUrl], ["https://i/certs"],
        [ConfidentialSpace.issuer.keysUrl], []]) ∧
    (∀ j, (isolatedEngines j).issuer? = some (isolatedIssuers j)) ∧
    (∀ j, j ≠ true → (isolatedIssuers true).keysUrl ≠ (isolatedIssuers j).keysUrl) ∧
    (∀ call ∈ isolatedCalls, call.Separate) ∧
    (isolatedHistory isolatedCalls).filter (·.1.engine = true) =
      isolatedHistory (isolatedCalls.filter (·.engine = true)) ∧
    List.Forall₂ Call.Reordered (isolatedCalls.filter (·.engine = true)) reorderedCalls ∧
    List.Forall₂ (fun one other => one.2.Alike other.2)
      ((isolatedHistory isolatedCalls).filter (·.1.engine = true))
      (isolatedHistory reorderedCalls) := by
  obtain ⟨hreplies, _, _, hplatforms⟩ := issuers_isolated
  have hissuers : ∀ j, (isolatedEngines j).issuer? = some (isolatedIssuers j) := by
    intro j
    cases j <;> rfl
  have hother : ∀ j, j ≠ true → (isolatedIssuers true).keysUrl ≠ (isolatedIssuers j).keysUrl := by
    intro j hj
    obtain rfl := Bool.not_eq_true _ |>.mp hj
    exact hplatforms "https://i/"
  have hseparate : ∀ call ∈ isolatedCalls, call.Separate := by
    intro call hcall past url
    obtain ⟨_, _, rfl⟩ := List.mem_map.1 hcall
    simp [hesitant]
  have hreordered : List.Forall₂ Call.Reordered (isolatedCalls.filter (·.engine = true))
      reorderedCalls :=
    List.forall₂_map_right_iff.2 (List.forall₂_same.2 fun _ _ => ⟨_, rfl⟩)
  obtain ⟨halone, hothers⟩ :=
    hreplies Bool isolatedEngines isolatedIssuers true _ [] isolatedCalls hissuers hother hseparate
  exact ⟨by decide +kernel, hissuers, hother, hseparate, halone, hreordered,
    hothers reorderedCalls hreordered⟩

end Attestation.SharedCache
