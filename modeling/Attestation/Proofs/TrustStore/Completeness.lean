import Attestation.Proofs.TrustStore.Path
import Mathlib.Data.List.Chain

/-!
Chains that are accepted whatever the names of their certificates. Each certificate is issued by the
next one and the last one by a trusted identity. A walk looks for issuers among the trusted
identities first, then among the certificates above, the nearest of them first; it finds the key of
the next certificate in any case, as long as no trusted identity bears the name of a certificate of
the chain with another key.
-/
namespace Attestation.TrustStore

open Checks Certificate

/-- A trusted identity of the name of its issuer signed the certificate. -/
def Anchors (store : TrustStore) (c : Certificate) : Prop :=
  ∃ r, store.trusted.get? c.issuer.text = some r ∧ r.key.verify c = .ok ()

/-- A trusted identity of the subject's name has the subject's key. -/
def Unrivalled (store : TrustStore) (c : Certificate) : Prop :=
  ∀ r, store.trusted.get? c.subject.text = some r → IssuerKey.ofCertificate c = .ok r.key

/-- A chain, leaf first, that leads from certificate to certificate to a trusted identity. -/
structure Complete (store : TrustStore) (now : Instant) (chain : List Certificate) : Prop where
  nonempty : chain ≠ []
  valid : ∀ c ∈ chain, c.Valid now
  decodable : ∀ c ∈ chain, ∃ key, IssuerKey.ofCertificate c = .ok key
  authority : ∀ c ∈ chain.tail, c.isAuthority = .ok true
  issued : chain.IsChain IssuedBy
  anchored : ∀ c ∈ chain.getLast?, store.Anchors c
  unrivalled : ∀ c ∈ chain.tail, store.Unrivalled c

variable {store : TrustStore} {c d : Certificate} {above chain : List Certificate}

theorem exists_decodeKey (h : ∃ key, IssuerKey.ofCertificate c = .ok key) :
    ∃ id, decodeKey c = .ok id := by
  obtain ⟨key, hkey⟩ := h
  exact ⟨⟨c, key⟩, decodeKey_eq_ok.2 ⟨rfl, hkey⟩⟩

theorem follows_of_anchors (hanchor : store.Anchors c)
    (hkey : ∃ key, IssuerKey.ofCertificate c = .ok key) : store.Follows above c := by
  obtain ⟨r, htrusted, hverify⟩ := hanchor
  exact ⟨⟨r, by rw [htrusted, Option.some_or], hverify⟩, exists_decodeKey hkey⟩

/-- Whoever is found under the name of the next certificate has the key of that certificate. -/
theorem follows_of_issuedBy (hissued : c.IssuedBy d) (hrival : store.Unrivalled d)
    (hkey : ∃ key, IssuerKey.ofCertificate c = .ok key) : store.Follows (d :: above) c := by
  obtain ⟨hname, key, hd, hverify⟩ := hissued
  refine ⟨?_, exists_decodeKey hkey⟩
  cases htrusted : store.trusted.get? c.issuer.text with
  | some r =>
    have hsame : IssuerKey.ofCertificate d = .ok r.key := hrival r (hname ▸ htrusted)
    obtain rfl : key = r.key := Except.ok.inj (hd.symm.trans hsame)
    exact ⟨r, by rw [Option.some_or], hverify⟩
  | none =>
    have hid : decodeKey d = .ok ⟨d, key⟩ := decodeKey_eq_ok.2 ⟨rfl, hd⟩
    have hnear : nearest (d :: above) c.issuer.text = some ⟨d, key⟩ := by
      rw [nearest_cons hid, hname]
      simp
    exact ⟨⟨d, key⟩, by rw [Option.none_or, hnear], hverify⟩

theorem rooted_of_isChain (hkeys : ∀ c ∈ chain, ∃ key, IssuerKey.ofCertificate c = .ok key)
    (hissued : chain.IsChain IssuedBy) (hanchored : ∀ c ∈ chain.getLast?, store.Anchors c)
    (hrivals : ∀ c ∈ chain.tail, store.Unrivalled c) : store.Rooted chain := by
  induction chain with
  | nil => trivial
  | cons c above ih =>
    obtain ⟨hkey, hkeys⟩ := List.forall_mem_cons.1 hkeys
    cases above with
    | nil => exact ⟨follows_of_anchors (hanchored c rfl) hkey, trivial⟩
    | cons d above =>
      obtain ⟨hfirst, hissued⟩ := List.isChain_cons_cons.1 hissued
      obtain ⟨hrival, hrivals⟩ := List.forall_mem_cons.1 hrivals
      refine ⟨follows_of_issuedBy hfirst hrival hkey, ih hkeys hissued ?_ hrivals⟩
      rwa [List.getLast?_cons_cons] at hanchored

theorem verifyLeaf_complete {roots : List Certificate} {now : Instant}
    (hstore : ofRoots now roots = .ok store) (h : store.Complete now chain) :
    ∃ id, store.verifyLeaf chain = .ok id ∧ chain.head? = some id.certificate ∧
      IssuerKey.ofCertificate id.certificate = .ok id.key := by
  obtain ⟨hnow, _⟩ := ofRoots_pinned hstore
  have hrooted : store.Rooted chain :=
    rooted_of_isChain h.decodable h.issued h.anchored h.unrivalled
  cases chain with
  | nil => exact absurd rfl h.nonempty
  | cons leaf above =>
    obtain ⟨key, hkey⟩ := h.decodable leaf List.mem_cons_self
    have haccepted : store.verifyLeaf (leaf :: above) = .ok ⟨leaf, key⟩ :=
      verifyLeaf_eq_ok.2 ⟨hnow ▸ h.valid, hrooted, h.authority, rfl, hkey⟩
    exact ⟨⟨leaf, key⟩, haccepted, rfl, hkey⟩

/-! A store with one root, and a chain in which all issuers have one name but different keys. -/

section
variable {root : Certificate} {now : Instant}

theorem trusted_of_root (h : ofRoots now [root] = .ok store) :
    ∃ id, decodeKey root = .ok id ∧ ∀ name, store.trusted.get? name =
      if name == root.subject.text then some id else none := by
  simp only [ofRoots, List.foldlM_cons, List.foldlM_nil, bind_eq_ok, pure_eq_ok,
    addRoot_eq_ok] at h
  obtain ⟨_, ⟨_, ⟨_, id, hid, rfl⟩, rfl⟩, rfl⟩ := h
  exact ⟨id, hid, fun name => Table.get?_insert _ _ _ name⟩

theorem anchors_of_issuedBy (h : ofRoots now [root] = .ok store) (hissued : c.IssuedBy root) :
    store.Anchors c := by
  obtain ⟨id, hid, hget⟩ := trusted_of_root h
  obtain ⟨hname, key, hkey, hverify⟩ := hissued
  obtain ⟨rfl, hroot⟩ := decodeKey_eq_ok.1 hid
  obtain rfl : key = id.key := Except.ok.inj (hkey.symm.trans hroot)
  exact ⟨id, by simp [hget, hname], hverify⟩

theorem unrivalled_of_ne (h : ofRoots now [root] = .ok store)
    (hne : c.subject.text ≠ root.subject.text) : store.Unrivalled c := by
  intro r hr
  obtain ⟨id, _, hget⟩ := trusted_of_root h
  rw [hget, if_neg (by simpa using hne)] at hr
  cases hr

end

theorem issuedBy_of_verify (hname : c.issuer.text = d.subject.text)
    (h : (IssuerKey.ofCertificate d >>= (·.verify c)) = .ok ()) : c.IssuedBy d :=
  ⟨hname, bind_eq_ok.1 h⟩

/-- An authority with the name of the one that issued it. -/
def renewedIssuer : Certificate :=
  specimen 73 73 [1, 3, 132, 0, 34] (baseKey Ecdsa.p384)
    (baseSignature Ecdsa.p256
      0xda58ed9ecf1a684701af80ef76ebb62e02024bb15e7da93b6c587d6bca82b27e)
    (some [authorityExtension])

def renewedLeaf : Certificate :=
  specimen 73 76 [1, 3, 132, 0, 34] (baseKey Ecdsa.p384)
    (baseSignature Ecdsa.p384
      0xaa87ca22be8b05378eb1c71ef320ad750e9811ad4350ee2da257666418d6d98da79a1ec3956fe47430207c389faa73b5)
    none

theorem verifyLeaf_complete_renewed : ∃ store id,
    ofRoots 1700000000000000000 [specimenRoot] = .ok store ∧
      store.Complete 1700000000000000000 [renewedLeaf, renewedIssuer, specimenIssuer] ∧
      renewedIssuer.subject.text = specimenIssuer.subject.text ∧
      store.verifyLeaf [renewedLeaf, renewedIssuer, specimenIssuer] = .ok id ∧
      id.certificate = renewedLeaf := by
  have hroot : (ofRoots 1700000000000000000 [specimenRoot]).isOk = true := by decide +kernel
  obtain ⟨store, hstore⟩ := isOk_iff.1 hroot
  have hdecodable : ∀ c ∈ [renewedLeaf, renewedIssuer, specimenIssuer],
      (IssuerKey.ofCertificate c).isOk = true := by decide +kernel
  have hleaf : renewedLeaf.IssuedBy renewedIssuer :=
    issuedBy_of_verify (by decide +kernel) (by decide +kernel)
  have hrenewed : renewedIssuer.IssuedBy specimenIssuer :=
    issuedBy_of_verify (by decide +kernel) (by decide +kernel)
  have hissuer : specimenIssuer.IssuedBy specimenRoot :=
    issuedBy_of_verify (by decide +kernel) (by decide +kernel)
  have hnames : ∀ c ∈ [renewedIssuer, specimenIssuer],
      c.subject.text ≠ specimenRoot.subject.text := by decide +kernel
  have hcomplete : store.Complete 1700000000000000000 [renewedLeaf, renewedIssuer, specimenIssuer] :=
    { nonempty := by simp
      valid := (allValidAt_iff _ _).1 (by decide +kernel)
      decodable := fun c hc => isOk_iff.1 (hdecodable c hc)
      authority := by decide +kernel
      issued := by simp [hleaf, hrenewed]
      anchored := by simpa using anchors_of_issuedBy hstore hissuer
      unrivalled := fun c hc => unrivalled_of_ne hstore (hnames c hc) }
  obtain ⟨id, hid, hhead, _⟩ := verifyLeaf_complete hstore hcomplete
  exact ⟨store, id, hstore, hcomplete, by decide +kernel, hid, (Option.some.inj hhead).symm⟩

end Attestation.TrustStore
