import Attestation.Proofs.Nitro.Soundness
import Attestation.Proofs.TrustStore.Truncation

/-!
The time in the verification of Nitro evidence. It is compared with the validity of the root and of
the certificates that the evidence brings along, and with nothing else: at all times at which these
are valid the answer is the same, and evidence that is accepted at two times is accepted between
them.
-/
namespace Attestation

namespace Certificate

theorem Valid.between {c : Certificate} {first now last : Instant} (hfirst : c.Valid first)
    (hlast : c.Valid last) (hafter : first ≤ now) (hbefore : now ≤ last) : c.Valid now :=
  ⟨Int.le_trans hfirst.1 hafter, Int.le_trans hbefore hlast.2⟩

end Certificate

namespace TrustStore

open Checks Certificate

variable {store store' : TrustStore}

theorem vouch_congr (h : store.trusted = store'.trusted) (known : Table String Identity)
    (c : Certificate) : store.vouch known c = store'.vouch known c := by
  simp only [vouch, issuer, h]

/-- A walk looks at the trusted identities and not at the time. -/
theorem walk_congr (h : store.trusted = store'.trusted) (known : Table String Identity)
    (chain : List Certificate) : store.walk known chain = store'.walk known chain := by
  induction chain generalizing known with
  | nil => rfl
  | cons c rest ih =>
    cases rest with
    | nil => simp only [walk, vouch_congr h]
    | cons d rest => simp only [walk, vouch_congr h, ih]

/-- One root is trusted if it is valid and its key can be decoded. -/
theorem ofRoots_singleton (now : Instant) (root : Certificate) :
    ofRoots now [root] = if root.validAt now then
      (decodeKey root).map fun id => ⟨Table.empty.insert root.subject.text id, now⟩
    else .error .rootNotValid := by
  simp only [ofRoots, List.foldlM_cons, List.foldlM_nil, addRoot]
  split
  · cases decodeKey root <;> rfl
  · rfl

end TrustStore

namespace Nitro

open Checks TrustStore

variable {root leaf : Certificate} {evidence : Bytes} {expectedKey : Option String}
  {now : Instant} {chain : List Certificate} {claims : EnclaveClaims}

/-! The checks without the time. -/

/-- The certificate that signed the envelope, if its chain leads to the root, valid or not. -/
def leafOfAnchor (root : Certificate) (chain : List Certificate) :
    Except VerificationError Certificate := do
  let anchor ← (decodeKey root).mapError fun e => .certChainInvalid (.root e)
  -- The walk does not look at the time of the store.
  let store : TrustStore := ⟨Table.empty.insert root.subject.text anchor, 0⟩
  let leaf ← (store.walk Table.empty chain.reverse).mapError fun e => .certChainInvalid (.path e)
  return leaf.certificate

/-- Verification at a time when all certificates are valid. -/
def verifyValid (root : Certificate) (evidence : Bytes) (expectedKey : Option String) :
    Except VerificationError EnclaveClaims := do
  let envelope ← readEnvelope evidence
  let chain ← readChain envelope.document
  let leaf ← leafOfAnchor root chain
  checkSignature envelope leaf
  judge envelope.document expectedKey

/-- The root is valid, and so are the leaf and all certificates of the bundle, if they can be
read. -/
structure Current (root : Certificate) (evidence : Bytes) (now : Instant) : Prop where
  root : root.Valid now
  chain : ∀ e chain, readEnvelope evidence = .ok e → readChain e.document = .ok chain →
    ∀ c ∈ chain, c.Valid now

theorem Current.between {first last : Instant} (hfirst : Current root evidence first)
    (hlast : Current root evidence last) (hafter : first ≤ now) (hbefore : now ≤ last) :
    Current root evidence now where
  root := hfirst.root.between hlast.root hafter hbefore
  chain e chain he hchain c hc := (hfirst.chain e chain he hchain c hc).between
    (hlast.chain e chain he hchain c hc) hafter hbefore

theorem current_of_read {e : Envelope} (he : readEnvelope evidence = .ok e)
    (hchain : readChain e.document = .ok chain) (h : ∀ c ∈ root :: chain, c.Valid now) :
    Current root evidence now where
  root := h root (by simp)
  chain e' chain' he' hchain' := by
    obtain rfl : e = e' := Except.ok.inj (he.symm.trans he')
    obtain rfl : chain = chain' := Except.ok.inj (hchain.symm.trans hchain')
    exact fun c hc => h c (List.mem_cons_of_mem root hc)

theorem readChain_ne_nil {d : Document} (h : readChain d = .ok chain) : chain ≠ [] := by
  rintro rfl
  simp only [readChain, Document.chain, mapError_eq_ok, List.mapM_cons, bind_eq_ok, pure_eq_ok] at h
  obtain ⟨_, _, _, _, h⟩ := h
  cases h

/-! The two together. -/

theorem leafOf_of_valid (hchain : chain ≠ []) (hroot : root.Valid now)
    (hvalid : ∀ c ∈ chain, c.Valid now) : leafOf root now chain = leafOfAnchor root chain := by
  simp only [leafOf, leafOfAnchor, ofRoots_singleton,
    if_pos ((Certificate.validAt_iff root now).2 hroot)]
  cases decodeKey root with
  | error cause => rfl
  | ok anchor =>
    have hwalk := @walk_congr ⟨Table.empty.insert root.subject.text anchor, now⟩
      ⟨Table.empty.insert root.subject.text anchor, 0⟩ rfl Table.empty chain.reverse
    have hverify := @verifyLeaf_eq_ite ⟨Table.empty.insert root.subject.text anchor, now⟩ _ hchain
    rw [if_pos ((Certificate.allValidAt_iff chain now).2 hvalid), hwalk] at hverify
    change Except.mapError _ (TrustStore.verifyLeaf _ chain) >>= _ = _
    rw [hverify]
    rfl

theorem valid_of_leafOf (h : leafOf root now chain = .ok leaf) :
    ∀ c ∈ root :: chain, c.Valid now := by
  obtain ⟨store, id, hstore, hverify, _⟩ := leafOf_eq_ok.1 h
  obtain ⟨hvalid, _⟩ := verifyLeaf_eq_ok.1 hverify
  rw [(ofRoots_pinned hstore).1] at hvalid
  rw [ofRoots_singleton, ite_else_error_eq_ok] at hstore
  rw [List.forall_mem_cons]
  exact ⟨(Certificate.validAt_iff root now).1 hstore.1, hvalid⟩

theorem verify_of_current (h : Current root evidence now) :
    verify root evidence expectedKey now = verifyValid root evidence expectedKey := by
  unfold verify verifyValid
  cases he : readEnvelope evidence with
  | error cause => rfl
  | ok e =>
    simp only [ok_bind]
    cases hchain : readChain e.document with
    | error cause => rfl
    | ok chain =>
      simp only [ok_bind,
        leafOf_of_valid (readChain_ne_nil hchain) h.root (h.chain e chain he hchain)]

theorem current_of_verify (h : verify root evidence expectedKey now = .ok claims) :
    Current root evidence now := by
  simp only [verify, bind_eq_ok] at h
  obtain ⟨e, he, chain, hchain, leaf, hleaf, _⟩ := h
  exact current_of_read he hchain (valid_of_leafOf hleaf)

theorem verify_eq_ok_iff : verify root evidence expectedKey now = .ok claims ↔
    Current root evidence now ∧ verifyValid root evidence expectedKey = .ok claims := by
  constructor
  · intro h
    have hcurrent := current_of_verify h
    exact ⟨hcurrent, verify_of_current hcurrent ▸ h⟩
  · intro h
    obtain ⟨hcurrent, h⟩ := h
    rw [verify_of_current hcurrent, h]

/-- What the time has to do with the verification of evidence. -/
structure Timed (root : Certificate) (evidence : Bytes) (expectedKey : Option String) : Prop where
  between : ∀ first now last claims claims', first ≤ now → now ≤ last →
    verify root evidence expectedKey first = .ok claims →
    verify root evidence expectedKey last = .ok claims' →
    verify root evidence expectedKey now = .ok claims ∧ claims = claims'
  same : ∀ now now', Current root evidence now → Current root evidence now' →
    verify root evidence expectedKey now = verify root evidence expectedKey now'
  accepted : ∀ now claims, verify root evidence expectedKey now = .ok claims ↔
    Current root evidence now ∧ verifyValid root evidence expectedKey = .ok claims

theorem verify_timed (root : Certificate) (evidence : Bytes) (expectedKey : Option String) :
    Timed root evidence expectedKey where
  between first now last claims claims' hafter hbefore hfirst hlast := by
    rw [verify_eq_ok_iff] at hfirst hlast
    obtain ⟨hcurrent, hclaims⟩ := hfirst
    obtain ⟨hcurrent', hclaims'⟩ := hlast
    refine ⟨verify_eq_ok_iff.2 ⟨hcurrent.between hcurrent' hafter hbefore, hclaims⟩, ?_⟩
    exact Except.ok.inj (hclaims.symm.trans hclaims')
  same now now' h h' := by rw [verify_of_current h, verify_of_current h']
  accepted _ _ := verify_eq_ok_iff

set_option maxRecDepth 100000 in
/-- Evidence that is accepted in the first and in the last nanosecond of the validity of all its
certificates is accepted in any nanosecond between. -/
theorem verify_timed_specimen : ∃ claims,
    verify specimenRoot specimenEvidence none 1577836800000000000 = .ok claims ∧
      verify specimenRoot specimenEvidence none 2208988800000000000 = .ok claims ∧
      verify specimenRoot specimenEvidence none 1700000000000000001 = .ok claims ∧
      ∀ claims, verify specimenRoot specimenEvidence none 2208988800000000001 ≠ .ok claims := by
  have haccepted : (verify specimenRoot specimenEvidence none 1577836800000000000).isOk = true := by
    decide +kernel
  have hvalid : (do
      let e ← readEnvelope specimenEvidence
      let chain ← readChain e.document
      return Certificate.allValidAt (specimenRoot :: chain) 2208988800000000000) = .ok true := by
    decide +kernel
  simp only [bind_eq_ok, pure_eq_ok] at hvalid
  obtain ⟨e, he, chain, hchain, hvalid⟩ := hvalid
  have hcurrent : Current specimenRoot specimenEvidence 2208988800000000000 :=
    current_of_read he hchain ((Certificate.allValidAt_iff _ _).1 hvalid.symm)
  have htimed := verify_timed specimenRoot specimenEvidence none
  obtain ⟨claims, hfirst⟩ := isOk_iff.1 haccepted
  have hlast : verify specimenRoot specimenEvidence none 2208988800000000000 = .ok claims :=
    (htimed.accepted _ _).2 ⟨hcurrent, ((htimed.accepted _ _).1 hfirst).2⟩
  have hmiddle : verify specimenRoot specimenEvidence none 1700000000000000001 = .ok claims ∧ _ :=
    htimed.between _ _ _ _ _ (by decide) (by decide) hfirst hlast
  refine ⟨claims, hfirst, hlast, hmiddle.1, ?_⟩
  intro claims' hpast
  exact absurd ((htimed.accepted _ _).1 hpast).1.root.2 (by decide)

end Nitro

end Attestation
