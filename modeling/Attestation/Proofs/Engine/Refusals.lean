import Attestation.Proofs.Engine.Stages
import Attestation.Proofs.Engine.Tokens
import Attestation.Proofs.Nitro.Soundness

/-!
What a refusal says. The kind of an error names the stage that refused the evidence, and all stages
before it have passed: claims are not looked at before the signature, and a policy has nothing to say
about evidence that is not authentic.
-/
namespace Attestation

open Checks

/-- A policy that is asked before an answer is put together refuses by its violations only. -/
theorem kind_of_policy {α β ε : Type} {ask : Except ε α} {violation : ε → Violation} {answer : α → β}
    {e : VerificationError}
    (h : (do
      let approval ← ask.mapError fun v => VerificationError.policyViolation (violation v)
      return answer approval) = .error e) : e.kind = .policyViolation := by
  rw [bind_eq_error] at h
  rcases h with h | ⟨_, _, h⟩
  · obtain ⟨v, _, rfl⟩ := (mapError_eq_error _).1 h
    rfl
  · exact absurd h pure_ne_error

namespace Nitro

/-- The evidence is an envelope, and these are the certificates of its document. -/
def Parses (evidence : Bytes) (envelope : Envelope) (chain : List Certificate) : Prop :=
  Envelope.decode evidence = .ok envelope ∧
    envelope.document.chain.mapM Certificate.read = .ok chain

/-- What the kind of an error says of the evidence. -/
def Stage (root : Certificate) (evidence : Bytes) (now : Instant) : ErrorKind → Prop
  | .badFormat =>
    (∃ cause, Envelope.decode evidence = .error cause) ∨
      ∃ envelope, Envelope.decode evidence = .ok envelope ∧
        ∃ der ∈ envelope.document.chain, ∃ cause, Certificate.read der = .error cause
  | .certChainInvalid => ∃ envelope chain, Parses evidence envelope chain ∧
      ((∃ cause, TrustStore.ofRoots now [root] = .error cause) ∨
        ∃ store cause, TrustStore.ofRoots now [root] = .ok store ∧
          store.verifyLeaf chain = .error cause)
  | .signatureInvalid => ∃ envelope chain leaf cause, Parses evidence envelope chain ∧
      leafOf root now chain = .ok leaf ∧ checkSignature envelope leaf = .error cause
  | .policyViolation => ∃ envelope chain leaf, Parses evidence envelope chain ∧
      leafOf root now chain = .ok leaf ∧ checkSignature envelope leaf = .ok ()
  | _ => False

variable {root : Certificate} {evidence : Bytes} {now : Instant} {e : VerificationError}

theorem readEnvelope_eq_error (h : readEnvelope evidence = .error e) :
    e.kind = .badFormat ∧ ∃ cause, Envelope.decode evidence = .error cause := by
  obtain ⟨cause, hcause, rfl⟩ := (mapError_eq_error _).1 h
  exact ⟨rfl, cause, hcause⟩

theorem readChain_eq_error {d : Document} (h : readChain d = .error e) :
    e.kind = .badFormat ∧ ∃ der ∈ d.chain, ∃ cause, Certificate.read der = .error cause := by
  obtain ⟨cause, hcause, rfl⟩ := (mapError_eq_error _).1 h
  obtain ⟨der, hder, hread⟩ := mapM_eq_error hcause
  exact ⟨rfl, der, hder, cause, hread⟩

theorem leafOf_eq_error {chain : List Certificate} (h : leafOf root now chain = .error e) :
    e.kind = .certChainInvalid ∧ ((∃ cause, TrustStore.ofRoots now [root] = .error cause) ∨
      ∃ store cause, TrustStore.ofRoots now [root] = .ok store ∧
        store.verifyLeaf chain = .error cause) := by
  simp only [leafOf, bind_eq_error, mapError_eq_error, mapError_eq_ok] at h
  rcases h with ⟨cause, hcause, rfl⟩ | ⟨store, hstore, ⟨cause, hcause, rfl⟩ | ⟨_, _, h⟩⟩
  · exact ⟨rfl, .inl ⟨cause, hcause⟩⟩
  · exact ⟨rfl, .inr ⟨store, cause, hstore, hcause⟩⟩
  · exact absurd h pure_ne_error

theorem checkSignature_eq_error {envelope : Envelope} {leaf : Certificate}
    (h : checkSignature envelope leaf = .error e) : e.kind = .signatureInvalid := by
  simp only [checkSignature, bind_eq_error, mapError_eq_error] at h
  rcases h with ⟨_, _, rfl⟩ | ⟨_, _, _, _, rfl⟩
  · rfl
  · rfl

theorem stage_of_verify {expectedKey : Option String}
    (h : verify root evidence expectedKey now = .error e) : Stage root evidence now e.kind := by
  simp only [verify, bind_eq_error] at h
  rcases h with h | ⟨envelope, henvelope, h⟩
  · obtain ⟨hkind, hcause⟩ := readEnvelope_eq_error h
    rw [hkind]
    exact .inl hcause
  have hdecode : Envelope.decode evidence = .ok envelope := (mapError_eq_ok _).1 henvelope
  rcases h with h | ⟨chain, hchain, h⟩
  · obtain ⟨hkind, hcertificate⟩ := readChain_eq_error h
    rw [hkind]
    exact .inr ⟨envelope, hdecode, hcertificate⟩
  have hparses : Parses evidence envelope chain := ⟨hdecode, (mapError_eq_ok _).1 hchain⟩
  rcases h with h | ⟨leaf, hleaf, h⟩
  · obtain ⟨hkind, hfails⟩ := leafOf_eq_error h
    rw [hkind]
    exact ⟨envelope, chain, hparses, hfails⟩
  rcases h with h | ⟨_, hsigned, h⟩
  · rw [checkSignature_eq_error h]
    exact ⟨envelope, chain, leaf, e, hparses, hleaf, h⟩
  · rw [kind_of_policy h]
    exact ⟨envelope, chain, leaf, hparses, hleaf, hsigned⟩

end Nitro

namespace Jwt

/-- The evidence is a token that names a key. -/
def Names (evidence : Bytes) (token : Evidence) (id : String) : Prop :=
  Evidence.ofBytes evidence = .ok token ∧ token.header.keyId = some id

/-- The evidence is a token that names a key, and this is the key that is found under the name. -/
def Resolves (cache : KeyCache) (source : KeySource) (url : String) (evidence : Bytes)
    (now : Instant) (token : Evidence) (key : VerificationKey) : Prop :=
  ∃ id, Names evidence token id ∧ (cache.resolve source url id now).answer = .ok key

def VerificationKey.Signs (key : VerificationKey) (token : Evidence) : Prop :=
  token.header.algorithm ∈ key.algorithms ∧
    key.verify token.signedBytes token.signature token.header.algorithm = true

/-- The evidence is a token that was signed by the key that it names. -/
def Signed (cache : KeyCache) (source : KeySource) (url : String) (evidence : Bytes)
    (now : Instant) : Prop :=
  ∃ token key, Resolves cache source url evidence now token key ∧ key.Signs token

/-- What the kind of an error says of the evidence. -/
def Stage (cache : KeyCache) (source : KeySource) (issuer : Issuer) (evidence : Bytes)
    (now : Instant) : ErrorKind → Prop
  | .badFormat => (∀ token id, ¬Names evidence token id) ∨
      Signed cache source issuer.keysUrl evidence now
  | .keyFetchError => ∃ token id cause, Names evidence token id ∧
      (cache.resolve source issuer.keysUrl id now).answer = .error cause
  | .signatureInvalid => ∃ token key,
      Resolves cache source issuer.keysUrl evidence now token key ∧ ¬key.Signs token
  | .tokenExpired | .tokenNotYetValid | .issuerMismatch =>
      Signed cache source issuer.keysUrl evidence now
  | .audienceMismatch => (∃ audience, issuer.expected.audience = some audience) ∧
      Signed cache source issuer.keysUrl evidence now
  | .policyViolation => ∃ claims, Authentic cache source issuer evidence now claims
  | .certChainInvalid => False

/-- The kinds of errors that the claims of a token give rise to before a policy sees them. -/
def IsClaimKind (audience : Option String) : ErrorKind → Prop
  | .badFormat | .tokenExpired | .tokenNotYetValid | .issuerMismatch => True
  | .audienceMismatch => ∃ name, audience = some name
  | _ => False

variable {cache : KeyCache} {source : KeySource} {issuer : Issuer} {evidence : Bytes}
  {now : Instant} {token : Evidence} {key : VerificationKey} {expected : Expectations}
  {order : SearchOrder} {c : RequiredClaim} {e : VerificationError}

theorem stage_of_signed {kind : ErrorKind}
    (hsigned : Signed cache source issuer.keysUrl evidence now)
    (hkind : IsClaimKind issuer.expected.audience kind) :
    Stage cache source issuer evidence now kind := by
  cases kind with
  | badFormat => exact .inr hsigned
  | audienceMismatch => exact ⟨hkind, hsigned⟩
  | tokenExpired | tokenNotYetValid | issuerMismatch => exact hsigned
  | signatureInvalid | certChainInvalid | keyFetchError | policyViolation => exact hkind.elim

theorem checkSignature_eq_error {fault : Fault} (h : token.checkSignature key = .error fault) :
    (VerificationError.ofFault fault).kind = .signatureInvalid ∧ ¬key.Signs token := by
  have hunsigned : ¬key.Signs token := by
    intro hsigns
    have hpassed : token.checkSignature key = .ok () := checkSignature_eq_ok.2 hsigns
    rw [hpassed] at h
    simp at h
  unfold Evidence.checkSignature at h
  split at h
  · obtain rfl := Except.error.inj h
    exact ⟨rfl, hunsigned⟩
  · split at h
    · simp at h
    · obtain rfl := Except.error.inj h
      exact ⟨rfl, hunsigned⟩

theorem isClaimKind_absence (h : expected.requires c = true) :
    IsClaimKind expected.audience (absence c).kind := by
  cases c with
  | expiry => trivial
  | issuer => trivial
  | audience => exact Option.isSome_iff_exists.1 h

theorem check_eq_error {i : Identity} {fault : Fault}
    (h : i.check expected order = .error fault) :
    IsClaimKind expected.audience (VerificationError.ofFault fault).kind := by
  unfold Identity.check at h
  split at h
  · rename_i named hmissing
    obtain rfl := Except.error.inj h
    exact isClaimKind_absence (absent_of_missing? hmissing).1
  · rcases compare_eq_error h with rfl | ⟨rfl, haudience⟩
    · trivial
    · exact Option.ne_none_iff_exists'.1 haudience

/-- The signature is checked first, so that nothing is said of the claims unless the key signed
them. -/
theorem authenticate_eq_error {fault : Fault} (h : token.authenticate key expected order = .error fault) :
    ((VerificationError.ofFault fault).kind = .signatureInvalid ∧ ¬key.Signs token) ∨
      (key.Signs token ∧ IsClaimKind expected.audience (VerificationError.ofFault fault).kind) := by
  rw [Evidence.authenticate, bind_eq_error] at h
  rcases h with h | ⟨_, hsigned, h⟩
  · exact .inl (checkSignature_eq_error h)
  · refine .inr ⟨checkSignature_eq_ok.1 hsigned, ?_⟩
    split at h
    · rw [bind_eq_error] at h
      rcases h with h | ⟨_, _, h⟩
      · exact check_eq_error h
      · exact absurd h pure_ne_error
    · obtain rfl := Except.error.inj h
      trivial

theorem isClaimKind_ofLifetime (audience : Option String) (cause : Lifetime.Error) :
    IsClaimKind audience (VerificationError.ofLifetime cause).kind := by
  cases cause <;> trivial

theorem claimsOf_eq_error (h : claimsOf token key expected now order = .error e) :
    (e.kind = .signatureInvalid ∧ ¬key.Signs token) ∨
      (key.Signs token ∧ IsClaimKind expected.audience e.kind) := by
  simp only [claimsOf, bind_eq_error, mapError_eq_error, mapError_eq_ok] at h
  rcases h with ⟨fault, h, rfl⟩ | ⟨claims, hclaims, ⟨cause, _, rfl⟩ | ⟨_, _, h⟩⟩
  · exact authenticate_eq_error h
  · exact .inr ⟨(authenticate_eq_ok.1 hclaims).1, isClaimKind_ofLifetime _ cause⟩
  · exact absurd h pure_ne_error

theorem stage_of_verify (h : (verify cache source issuer evidence now order).result = .error e) :
    Stage cache source issuer evidence now e.kind := by
  cases hread : readToken evidence with
  | error cause =>
    rw [verify_of_unread hread] at h
    obtain rfl := Except.error.inj h
    obtain ⟨_, _, rfl⟩ := (mapError_eq_error _).1 hread
    refine .inl fun token id hnames => ?_
    rw [readToken_iff.2 hnames] at hread
    simp at hread
  | ok found =>
    obtain ⟨token, id⟩ := found
    have hnames : Names evidence token id := readToken_iff.1 hread
    rw [verify_of_read hread] at h
    simp only [Lookup.andThen, findKey, bind_eq_error, mapError_eq_error, mapError_eq_ok] at h
    rcases h with ⟨cause, hcause, rfl⟩ | ⟨key, hkey, h⟩
    · exact ⟨token, id, cause, hnames, hcause⟩
    have hresolves : Resolves cache source issuer.keysUrl evidence now token key :=
      ⟨id, hnames, hkey⟩
    rcases claimsOf_eq_error h with ⟨hkind, hunsigned⟩ | ⟨hsigns, hkind⟩
    · rw [hkind]
      exact ⟨token, key, hresolves, hunsigned⟩
    · exact stage_of_signed ⟨token, key, hresolves, hsigns⟩ hkind

theorem signed_of_verify {claims : Json}
    (h : (verify cache source issuer evidence now order).result = .ok claims) :
    Signed cache source issuer.keysUrl evidence now := by
  obtain ⟨token, id, key, hread, hkey, hclaims⟩ := verify_result.1 h
  have hauthentic := (claimsOf_eq_ok.1 hclaims).1
  exact ⟨token, key, ⟨id, readToken_iff.1 hread, hkey⟩, (authenticate_eq_ok.1 hauthentic).1⟩

/-- A judge of claims refuses them because it cannot read them or because they violate its policy. -/
def Judges {α : Type} (judge : Json → Except VerificationError α) : Prop :=
  ∀ claims e, judge claims = .error e → e.kind = .badFormat ∨ e.kind = .policyViolation

theorem stage_of_judged {α : Type} {judge : Json → Except VerificationError α}
    (hjudge : Judges judge)
    (h : ((verify cache source issuer evidence now order).andThen judge).result = .error e) :
    Stage cache source issuer evidence now e.kind := by
  rw [Lookup.andThen, bind_eq_error] at h
  rcases h with h | ⟨claims, hclaims, h⟩
  · exact stage_of_verify h
  · rcases hjudge claims e h with hkind | hkind
    · rw [hkind]
      exact .inr (signed_of_verify hclaims)
    · rw [hkind]
      exact ⟨claims, (verify_eq_ok.1 hclaims).1⟩

end Jwt

theorem Azure.judges (regions : List String) (publicKey : Option String) :
    Jwt.Judges (judge regions publicKey) := by
  intro claims e h
  unfold judge at h
  split at h
  · obtain rfl := Except.error.inj h
    exact .inl rfl
  · exact .inr (kind_of_policy h)

theorem ConfidentialSpace.judges (rules : EnvironmentPolicy) : Jwt.Judges (judge rules) := by
  intro claims e h
  unfold judge at h
  split at h
  · obtain rfl := Except.error.inj h
    exact .inl rfl
  · exact .inr (kind_of_policy h)

namespace Engine

/-- What the kind of an error says of the evidence that an engine refused. -/
def Stage (engine : Engine) (source : KeySource) (cache : KeyCache) (evidence : Bytes)
    (now : Instant) (kind : ErrorKind) : Prop :=
  match engine with
  | nitro root => Nitro.Stage root evidence now kind
  | azure endpoint _ => kind ≠ .audienceMismatch ∧
      Jwt.Stage cache source (Azure.issuer endpoint) evidence now kind
  | gcp _ => Jwt.Stage cache source ConfidentialSpace.issuer evidence now kind

theorem stage_of_refusal {engine : Engine} {source : KeySource} {cache : KeyCache}
    {evidence : Bytes} {publicKey : Option String} {now : Instant} {order : Jwt.SearchOrder}
    {e : VerificationError}
    (h : (engine.verify source cache evidence publicKey now order).result = .error e) :
    engine.Stage source cache evidence now e.kind := by
  cases engine with
  | nitro root =>
    have hverify : Nitro.verify root evidence publicKey now = .error e :=
      map_eq_error.1 (map_eq_error.1 h)
    exact Nitro.stage_of_verify hverify
  | azure endpoint regions =>
    have hstage : Jwt.Stage cache source (Azure.issuer endpoint) evidence now e.kind :=
      Jwt.stage_of_judged (Azure.judges regions publicKey) (map_eq_error.1 h)
    refine ⟨?_, hstage⟩
    intro hkind
    rw [hkind] at hstage
    obtain ⟨⟨audience, haudience⟩, _⟩ := hstage
    simp [Azure.issuer] at haudience
  | gcp rules =>
    exact Jwt.stage_of_judged (ConfidentialSpace.judges rules) (map_eq_error.1 h)

/-! A token that is authentic, for another key than the one that it was issued for. -/

def authenticToken : Bytes :=
  Azure.specimenToken (Azure.specimenClaims ++ ["\"exp\":1700003600\x7d"])
    0xde18fdb8c95b0d04b1e694fdcff9059ecd121b94b345c607ccb84549f669fe0e

def refusedOutcome : Outcome :=
  (azure "https://i" []).verify Azure.noSource Azure.specimenCache authenticToken (some "other")
    1700000000000000000 .standard

def refusal? (o : Outcome) : Option ErrorKind :=
  match o.result with
  | .ok _ => none
  | .error e => some e.kind

set_option maxRecDepth 100000 in
theorem stage_of_refusal_otherKey : ∃ e, refusedOutcome.result = .error e ∧
    e.kind = .policyViolation ∧ ∃ claims, Jwt.Authentic Azure.specimenCache Azure.noSource
      (Azure.issuer "https://i") authenticToken 1700000000000000000 claims := by
  have hkind : refusal? refusedOutcome = some .policyViolation := by decide +kernel
  unfold refusal? at hkind
  split at hkind
  · simp at hkind
  · rename_i e he
    have hpolicy : e.kind = .policyViolation := Option.some.inj hkind
    obtain ⟨_, hstage⟩ := stage_of_refusal he
    rw [hpolicy] at hstage
    exact ⟨e, he, hpolicy, hstage⟩

end Engine

end Attestation
