import Attestation.Proofs.KeyCache.Requests
import Attestation.Proofs.Log.Journal

/-!
The lines of the log. Each verification that passes has one line that says so, each refusal of a
policy one warning with its reason, and each request in vain one warning about its place; there are
no other lines of these kinds.
-/
namespace Attestation

def Outcome.lines (o : Outcome) : List String := o.log.map LogEvent.line

namespace Log

open Checks Journal

/-! Lines are told apart by how they begin. -/

inductive Kind where
  | passed
  /-- A policy refused the evidence of a platform; the reason follows. -/
  | refused (p : Platform)
  | skippedKey
  | failedRequest
  | emptySet
  deriving DecidableEq

def Kind.opening : Kind → String
  | passed => "INFO "
  | refused p => "WARN " ++ p.name ++ " attestation rejected by policy: "
  | skippedKey => "WARN skipping unusable signing key: "
  | failedRequest => "WARN failed to fetch key set from "
  | emptySet => "WARN key set at "

/-- The line is of a kind: it begins as the lines of this kind do. -/
def Kind.Of (k : Kind) (line : String) : Prop := ∃ rest, line = k.opening ++ rest

theorem Kind.of_iff {k : Kind} {line : String} :
    k.Of line ↔ k.opening.toList <+: line.toList := by
  constructor
  · rintro ⟨rest, rfl⟩
    exact ⟨rest.toList, String.toList_append.symm⟩
  · rintro ⟨rest, hrest⟩
    exact ⟨String.ofList rest, String.toList_inj.1 (by simp [← hrest])⟩

instance (k : Kind) : DecidablePred k.Of := fun _ => decidable_of_iff _ Kind.of_iff.symm

theorem Kind.eq_of_comparable {k k' : Kind} (h : k.opening.toList <+: k'.opening.toList ∨
    k'.opening.toList <+: k.opening.toList) : k = k' := by
  revert h
  cases k with
  | refused p => cases k' with
    | refused p' => cases p <;> cases p' <;> decide
    | _ => cases p <;> decide
  | _ => cases k' with
    | refused p' => cases p' <;> decide
    | _ => decide

/-- No line is of two kinds, since of two texts that it begins with one begins with the other. -/
theorem Kind.Of.unique {k k' : Kind} {line : String} (h : k.Of line) (h' : k'.Of line) : k = k' :=
  eq_of_comparable (List.prefix_or_prefix_of_prefix (of_iff.1 h) (of_iff.1 h'))

def kind : LogEvent → Kind
  | .keys (.skippedKey _) => .skippedKey
  | .keys (.fetchFailed _ _) => .failedRequest
  | .keys (.noUsableKeys _) => .emptySet
  | .rejected v => .refused v.platform
  | _ => .passed

theorem line_rejected (v : Violation) : (LogEvent.rejected v).line =
    "WARN " ++ v.platform.name ++ " attestation rejected by policy: " ++ v.reason := by
  change "WARN " ++ (v.platform.name ++ " attestation rejected by policy: " ++ v.reason) = _
  rw [← String.append_assoc, ← String.append_assoc]

theorem line_fetchFailed (url : String) (cause : KeyCache.FetchError) :
    (LogEvent.keys (.fetchFailed url cause)).line =
      "WARN failed to fetch key set from " ++ (url ++ ": " ++ cause.message) := by
  change "WARN " ++ ("failed to fetch key set from " ++ url ++ ": " ++ cause.message) = _
  simp only [← String.append_assoc]
  rfl

theorem line_noUsableKeys (url : String) : (LogEvent.keys (.noUsableKeys url)).line =
    "WARN key set at " ++ (url ++ " has no usable keys") := by
  change "WARN " ++ ("key set at " ++ url ++ " has no usable keys") = _
  simp only [← String.append_assoc]
  rfl

theorem kind_line (e : LogEvent) : (kind e).Of e.line := by
  cases e with
  | keys w =>
    cases w with
    | skippedKey defect => exact ⟨defect.message, String.append_assoc.symm⟩
    | fetchFailed url cause => exact ⟨url ++ ": " ++ cause.message, line_fetchFailed url cause⟩
    | noUsableKeys url => exact ⟨url ++ " has no usable keys", line_noUsableKeys url⟩
  | rejected v => exact ⟨v.reason, line_rejected v⟩
  | _ => exact ⟨_, rfl⟩

theorem of_line_iff {k : Kind} {e : LogEvent} : k.Of e.line ↔ k = kind e :=
  ⟨fun h => h.unique (kind_line e), fun h => h ▸ kind_line e⟩

/-- A policy refused evidence, of whatever platform. -/
def IsRefusal (line : String) : Prop := ∃ p, (Kind.refused p).Of line

/-- Keys were asked for in vain. -/
def IsVainRequest (line : String) : Prop := Kind.failedRequest.Of line ∨ Kind.emptySet.Of line

instance : DecidablePred IsRefusal := fun line =>
  decidable_of_iff (∃ p ∈ [Platform.nitro, .azure, .gcp], (Kind.refused p).Of line) <| by
    constructor
    · rintro ⟨p, _, hp⟩
      exact ⟨p, hp⟩
    · rintro ⟨p, hp⟩
      exact ⟨p, by cases p <;> simp, hp⟩

instance : DecidablePred IsVainRequest := fun _ => inferInstanceAs (Decidable (_ ∨ _))

def isPassed : Kind → Bool
  | .passed => true
  | _ => false

def isRefused : Kind → Bool
  | .refused _ => true
  | _ => false

def isVain : Kind → Bool
  | .failedRequest | .emptySet => true
  | _ => false

theorem isRefusal_line (e : LogEvent) : IsRefusal e.line ↔ isRefused (kind e) = true := by
  simp only [IsRefusal, of_line_iff]
  cases kind e <;> simp [isRefused]

theorem isVainRequest_line (e : LogEvent) : IsVainRequest e.line ↔ isVain (kind e) = true := by
  simp only [IsVainRequest, of_line_iff]
  cases kind e <;> simp [isVain]

theorem passed_line (e : LogEvent) : Kind.passed.Of e.line ↔ isPassed (kind e) = true := by
  rw [of_line_iff]
  cases kind e <;> simp [isPassed]

/-- The lines of some kinds are the lines of the events of these kinds. -/
theorem filter_lines {P : String → Prop} [DecidablePred P] {p : Kind → Bool}
    (h : ∀ e : LogEvent, P e.line ↔ p (kind e) = true) (o : Outcome) :
    o.lines.filter (P ·) = (o.log.filter fun e => p (kind e)).map LogEvent.line := by
  rw [Outcome.lines, List.filter_map]
  congr 1
  exact List.filter_congr fun e _ => by simp [h e]

/-! What is to be written of a verification. -/

/-- What is warned of after a request in vain. -/
def vainWarning (source : KeySource) (url : String) : KeyCache.Warning :=
  match KeyCache.readingOf source url with
  | .error cause => .fetchFailed url cause
  | .ok _ => .noUsableKeys url

/-- The lines of an outcome fit its result and the requests that were made. -/
structure Fits (engine : Engine) (source : KeySource) (o : Outcome) : Prop where
  passed : ∀ claims, o.result = .ok claims → ∃ line, o.lines.filter (Kind.passed.Of ·) = [line] ∧
    claims.enclaveId.text.toList <:+: line.toList
  failed : ∀ e, o.result = .error e → o.lines.filter (Kind.passed.Of ·) = []
  refused : ∀ v, o.result = .error (.policyViolation v) → o.lines.filter (IsRefusal ·) =
    ["WARN " ++ engine.platform.name ++ " attestation rejected by policy: " ++ v.reason]
  unrefused : (∀ v, o.result ≠ .error (.policyViolation v)) → o.lines.filter (IsRefusal ·) = []
  vain : ∀ url ∈ o.fetched, ¬KeyCache.Usable source url →
    o.lines.filter (IsVainRequest ·) = [(LogEvent.keys (vainWarning source url)).line] ∧
      ∃ e, o.result = .error e ∧ e.kind = .keyFetchError
  fruitful : (∀ url ∈ o.fetched, KeyCache.Usable source url) →
    o.lines.filter (IsVainRequest ·) = []

/-- What a look-up warns of: of keys that it skips, and of a request in vain, if it made one. After
such a request there is no key. -/
inductive Traced {α : Type} (source : KeySource) (l : Jwt.Lookup α) : Prop where
  | fruitful (husable : ∀ url ∈ l.fetched, KeyCache.Usable source url)
      (hskipped : ∀ w ∈ l.warnings, ∃ defect, w = .skippedKey defect)
  | vain (url : String) (skipped : List KeySet.Defect) (cause : KeyError)
      (hfetched : l.fetched = [url]) (hvain : ¬KeyCache.Usable source url)
      (hwarnings : l.warnings = skipped.map .skippedKey ++ [vainWarning source url])
      (hresult : l.result = .error (.keyFetch cause))

theorem traced_findKey (cache : KeyCache) (source : KeySource) (url id : String) (now : Instant) :
    Traced source (Jwt.findKey cache source url id now) := by
  unfold Jwt.findKey
  cases hcached : cache.cached? url id now with
  | some answer =>
    rw [KeyCache.resolve_of_cached hcached]
    exact .fruitful (by simp) (by simp)
  | none =>
    rw [KeyCache.resolve_of_uncached hcached]
    unfold KeyCache.refresh
    cases hreading : KeyCache.readingOf source url with
    | error cause =>
      refine .vain url [] _ rfl (by simp [KeyCache.Usable, hreading]) ?_ rfl
      simp [vainWarning, hreading]
    | ok reading =>
      dsimp only
      cases hempty : reading.keys.isEmpty with
      | true =>
        refine .vain url reading.skipped _ rfl (by simp [KeyCache.Usable, hreading, hempty]) ?_ rfl
        simp [vainWarning, hreading]
      | false =>
        refine .fruitful ?_ ?_
        · intro place hplace
          obtain rfl := List.mem_singleton.1 hplace
          exact ⟨reading, hreading, hempty⟩
        · intro w hw
          obtain ⟨defect, _, rfl⟩ := List.mem_map.1 hw
          exact ⟨defect, rfl⟩

theorem Traced.andThen {α β : Type} {source : KeySource} {l : Jwt.Lookup α} (h : Traced source l)
    (next : α → Except VerificationError β) : Traced source (l.andThen next) := by
  cases h with
  | fruitful husable hskipped => exact .fruitful husable hskipped
  | vain url skipped cause hfetched hvain hwarnings hresult =>
    have hnone : (l.andThen next).result = .error (.keyFetch cause) := by
      rw [Jwt.Lookup.andThen, hresult]
      rfl
    exact .vain url skipped cause hfetched hvain hwarnings hnone

theorem traced_verify (cache : KeyCache) (source : KeySource) (issuer : Jwt.Issuer)
    (evidence : Bytes) (now : Instant) (order : Jwt.SearchOrder) :
    Traced source (Jwt.verify cache source issuer evidence now order) := by
  cases hread : Jwt.readToken evidence with
  | error e =>
    rw [Jwt.verify_of_unread hread]
    exact .fruitful (by simp) (by simp)
  | ok found =>
    obtain ⟨token, id⟩ := found
    rw [Jwt.verify_of_read hread]
    exact (traced_findKey _ _ _ _ _).andThen _

/-- A result is reported as it should be: a success by a line that names the enclave, a violation
under the platform. -/
structure Reported (p : Platform) (x : Except VerificationError (EnclaveClaims × LogEvent)) :
    Prop where
  named : ∀ claims e, x = .ok (claims, e) →
    kind e = .passed ∧ claims.enclaveId.text.toList <:+: e.line.toList
  platform : ∀ v, x = .error (.policyViolation v) → v.platform = p

theorem isVain_vainWarning (source : KeySource) (url : String) :
    isVain (kind (.keys (vainWarning source url))) = true := by
  unfold vainWarning
  cases KeyCache.readingOf source url <;> rfl

theorem filter_skipped {warnings : List KeyCache.Warning}
    (h : ∀ w ∈ warnings, ∃ defect, w = .skippedKey defect) :
    (warnings.map LogEvent.keys).filter (fun e => isVain (kind e)) = [] := by
  rw [List.filter_eq_nil_iff]
  intro e he
  obtain ⟨w, hw, rfl⟩ := List.mem_map.1 he
  obtain ⟨defect, rfl⟩ := h w hw
  simp [kind, isVain]

theorem filter_vain (source : KeySource) (url : String) (skipped : List KeySet.Defect) :
    ((skipped.map KeyCache.Warning.skippedKey ++ [vainWarning source url]).map LogEvent.keys).filter
      (fun e => isVain (kind e)) = [.keys (vainWarning source url)] := by
  rw [List.map_append, List.filter_append, filter_skipped (by simp)]
  simp [isVain_vainWarning]

theorem filter_keys {p : Kind → Bool} (hskipped : p .skippedKey = false)
    (hfailed : p .failedRequest = false) (hempty : p .emptySet = false)
    (warnings : List KeyCache.Warning) :
    (warnings.map LogEvent.keys).filter (fun e => p (kind e)) = [] := by
  rw [List.filter_eq_nil_iff]
  intro e he
  obtain ⟨w, _, rfl⟩ := List.mem_map.1 he
  cases w <;> simp [kind, hskipped, hfailed, hempty]

variable {engine : Engine} {source : KeySource} {l : Jwt.Lookup (EnclaveClaims × LogEvent)}
  {p : Platform}

theorem kind_of_report (h : Reported p l.result) {e : LogEvent} (he : e ∈ Engine.report l.result) :
    kind e = .passed ∨ kind e = .refused p := by
  unfold Engine.report at he
  split at he
  · rename_i claims passed hresult
    obtain rfl := List.mem_singleton.1 he
    exact .inl (h.named claims e hresult).1
  · rename_i v hresult
    obtain rfl := List.mem_singleton.1 he
    exact .inr (congrArg Kind.refused (h.platform v hresult))
  · cases he

theorem filter_report (h : Reported p l.result) {q : Kind → Bool} (hpassed : q .passed = false)
    (hrefused : q (.refused p) = false) :
    (Engine.report l.result).filter (fun e => q (kind e)) = [] := by
  rw [List.filter_eq_nil_iff]
  intro e he
  rcases kind_of_report h he with hkind | hkind <;> simp [hkind, hpassed, hrefused]

theorem conclude_passed {claims : EnclaveClaims} (h : (Engine.conclude l).result = .ok claims) :
    ∃ e, l.result = .ok (claims, e) := by
  obtain ⟨⟨_, e⟩, hresult, rfl⟩ := map_eq_ok.1 h
  exact ⟨e, hresult⟩

/-- The lines of some kinds are those of the look-up and then those of the report. -/
theorem filter_conclude {P : String → Prop} [DecidablePred P] {q : Kind → Bool}
    (h : ∀ e : LogEvent, P e.line ↔ q (kind e) = true) :
    (Engine.conclude l).lines.filter (P ·) =
      ((l.warnings.map LogEvent.keys).filter (fun e => q (kind e)) ++
        (Engine.report l.result).filter fun e => q (kind e)).map LogEvent.line := by
  rw [filter_lines h, Engine.conclude, List.filter_append]

theorem fits_conclude (htraced : Traced source l) (hreported : Reported engine.platform l.result) :
    Fits engine source (Engine.conclude l) where
  passed claims h := by
    obtain ⟨e, hresult⟩ := conclude_passed h
    obtain ⟨hkind, hnamed⟩ := hreported.named claims e hresult
    refine ⟨e.line, ?_, hnamed⟩
    rw [filter_conclude passed_line, filter_keys rfl rfl rfl, hresult]
    simp [Engine.report, isPassed, hkind]
  failed e h := by
    have hresult : l.result = .error e := map_eq_error.1 h
    rw [filter_conclude passed_line, filter_keys rfl rfl rfl, hresult]
    cases e <;> rfl
  refused v h := by
    have hresult : l.result = .error (.policyViolation v) := map_eq_error.1 h
    rw [filter_conclude isRefusal_line, filter_keys rfl rfl rfl, hresult,
      ← hreported.platform v hresult, ← line_rejected]
    rfl
  unrefused h := by
    rw [filter_conclude isRefusal_line, filter_keys rfl rfl rfl]
    cases hresult : l.result with
    | error e =>
      cases e with
      | policyViolation v => exact absurd (map_eq_error.2 hresult) (h v)
      | _ => rfl
    | ok found =>
      obtain ⟨claims, e⟩ := found
      simp [Engine.report, isRefused, (hreported.named claims e hresult).1]
  vain url hurl hvain := by
    cases htraced with
    | fruitful husable => exact absurd (husable url hurl) hvain
    | vain place skipped cause hfetched _ hwarnings hresult =>
      have hplace : url ∈ l.fetched := hurl
      rw [hfetched, List.mem_singleton] at hplace
      subst hplace
      refine ⟨?_, _, map_eq_error.2 hresult, rfl⟩
      rw [filter_conclude isVainRequest_line, filter_report hreported rfl rfl, hwarnings,
        filter_vain]
      rfl
  fruitful h := by
    rw [filter_conclude isVainRequest_line, filter_report hreported rfl rfl]
    cases htraced with
    | fruitful _ hskipped =>
      rw [filter_skipped hskipped]
      rfl
    | vain place skipped cause hfetched hvain =>
      have hplace : place ∈ (Engine.conclude l).fetched := by simp [Engine.conclude, hfetched]
      exact absurd (h place hplace) hvain

/-! The judges of the platforms. -/

/-- What refuses evidence without a violation reports nothing. -/
theorem Reported.bind {α : Type} {x : Except VerificationError α}
    {f : α → Except VerificationError (EnclaveClaims × LogEvent)} (hquiet : Quiet x)
    (h : ∀ a, Reported p (f a)) : Reported p (x >>= f) where
  named claims e hok := by
    obtain ⟨a, _, ha⟩ := bind_eq_ok.1 hok
    exact (h a).named claims e ha
  platform v herror := by
    rcases bind_eq_error.1 herror with hx | ⟨a, _, ha⟩
    · exact absurd rfl (hquiet _ hx)
    · exact (h a).platform v ha

theorem reported_of_policy {α ε : Type} {answer : Except ε α} {wrap : ε → Violation}
    {claims : α → EnclaveClaims} {passed : α → LogEvent} (hwrap : ∀ v, (wrap v).platform = p)
    (hpassed : ∀ a, kind (passed a) = .passed ∧
      (claims a).enclaveId.text.toList <:+: (passed a).line.toList) :
    Reported p (do
      let a ← answer.mapError fun v => .policyViolation (wrap v)
      return (claims a, passed a)) where
  named c e h := by
    obtain ⟨a, _, ha⟩ := bind_eq_ok.1 h
    cases ha
    exact hpassed a
  platform v h := by
    rcases bind_eq_error.1 h with herror | ⟨a, _, ha⟩
    · obtain ⟨cause, _, hcause⟩ := (mapError_eq_error _).1 herror
      cases hcause
      exact hwrap cause
    · exact absurd ha pure_ne_error

theorem reported_badFormat (cause : FormatError) : Reported p (.error (.badFormat cause)) where
  named _ _ h := by cases h
  platform _ h := by cases h

theorem infix_line {e : LogEvent} {text : String} (before after : String)
    (h : e.line = before ++ text ++ after) : text.toList <:+: e.line.toList := by
  rw [h, String.toList_append, String.toList_append]
  exact List.infix_append _ _ _

theorem infix_nitroVerified (id : EnclaveId) :
    id.text.toList <:+: (LogEvent.nitroVerified id).line.toList := by
  refine infix_line ("INFO " ++ "verified nitro enclave ") "" ?_
  change "INFO " ++ ("verified nitro enclave " ++ id.text) = _
  rw [← String.append_assoc, String.append_empty]

theorem infix_azureVerified (id : EnclaveId) (location : String) :
    id.text.toList <:+: (LogEvent.azureVerified id location).line.toList := by
  refine infix_line ("INFO " ++ "verified azure confidential container ") (" in " ++ location) ?_
  change "INFO " ++ ("verified azure confidential container " ++ id.text ++ " in " ++ location) = _
  simp only [String.append_assoc]

theorem infix_gcpVerified (approval : ConfidentialSpace.Approval) (image : String) (debug : Bool) :
    approval.enclaveId.text.toList <:+:
      (LogEvent.gcpVerified approval image debug).line.toList := by
  refine infix_line ("INFO " ++ "verified confidential space workload ")
    (" (" ++ image ++ ", debug: " ++ (if debug then "true" else "false") ++
      ", env: " ++ approval.scope.environment.name ++
      ", scope: " ++ approval.scope.identityScope.title ++ ")") ?_
  change "INFO " ++ ("verified confidential space workload " ++ approval.enclaveId.text ++ " (" ++
    image ++ ", debug: " ++ (if debug then "true" else "false") ++
      ", env: " ++ approval.scope.environment.name ++
      ", scope: " ++ approval.scope.identityScope.title ++ ")") = _
  simp only [String.append_assoc]

theorem reported_nitro (root : Certificate) (evidence : Bytes) (expectedKey : Option String)
    (now : Instant) : Reported .nitro ((Nitro.verify root evidence expectedKey now).map
      fun c => (c, .nitroVerified c.enclaveId)) := by
  simp only [Nitro.verify, map_bind]
  refine .bind (Nitro.quiet_readEnvelope evidence) fun envelope => ?_
  refine .bind (Nitro.quiet_readChain envelope.document) fun chain => ?_
  refine .bind (Nitro.quiet_leafOf root now chain) fun leaf => ?_
  refine .bind (Nitro.quiet_checkSignature envelope leaf) fun _ => ?_
  rw [Nitro.judge, map_bind]
  exact reported_of_policy (fun _ => rfl) fun id => ⟨rfl, infix_nitroVerified id⟩

theorem reported_azure (regions : List String) (expectedKey : Option String) (claims : Json) :
    Reported .azure (Azure.judge regions expectedKey claims) := by
  unfold Azure.judge
  cases Azure.Payload.ofJson? claims with
  | none => exact reported_badFormat _
  | some payload =>
    exact reported_of_policy (fun _ => rfl) fun id => ⟨rfl, infix_azureVerified id _⟩

theorem reported_gcp (rules : ConfidentialSpace.EnvironmentPolicy) (claims : Json) :
    Reported .gcp (ConfidentialSpace.judge rules claims) := by
  unfold ConfidentialSpace.judge
  cases ConfidentialSpace.Payload.ofJson? claims with
  | none => exact reported_badFormat _
  | some payload =>
    exact reported_of_policy (fun _ => rfl) fun approval =>
      ⟨rfl, infix_gcpVerified approval _ _⟩

theorem quiet_verify (cache : KeyCache) (source : KeySource) (issuer : Jwt.Issuer)
    (evidence : Bytes) (now : Instant) (order : Jwt.SearchOrder) :
    Quiet (Jwt.verify cache source issuer evidence now order).result := by
  intro e h
  cases hread : Jwt.readToken evidence with
  | error cause =>
    rw [Jwt.verify_of_unread hread] at h
    obtain rfl := Except.error.inj h
    exact Jwt.quiet_readToken evidence cause hread
  | ok found =>
    obtain ⟨token, id⟩ := found
    rw [Jwt.verify_of_read hread] at h
    rcases bind_eq_error.1 h with hkey | ⟨key, _, hclaims⟩
    · exact Jwt.quiet_findKey _ _ e hkey
    · exact Jwt.quiet_claimsOf _ _ _ e hclaims

/-- What is written at the checks of a verification is the log of its outcome, and its lines fit the
result and the requests that were made. -/
theorem verify_logged (engine : Engine) (source : KeySource) (cache : KeyCache) (evidence : Bytes)
    (publicKey : Option String) (now : Instant) (order : Jwt.SearchOrder) :
    let outcome := engine.verify source cache evidence publicKey now order
    engine.attest source cache evidence publicKey now order = ⟨outcome.result, outcome.log⟩ ∧
      Fits engine source outcome := by
  refine ⟨engine.attest_eq source cache evidence publicKey now order, ?_⟩
  cases engine with
  | nitro root =>
    exact fits_conclude (.fruitful (by simp) (by simp)) (reported_nitro root evidence publicKey now)
  | azure endpoint regions =>
    exact fits_conclude ((traced_verify _ _ _ _ _ _).andThen _)
      (.bind (quiet_verify _ _ _ _ _ _) (reported_azure regions publicKey))
  | gcp rules =>
    exact fits_conclude ((traced_verify _ _ _ _ _ _).andThen _)
      (.bind (quiet_verify _ _ _ _ _ _) (reported_gcp rules))

end Log

end Attestation
