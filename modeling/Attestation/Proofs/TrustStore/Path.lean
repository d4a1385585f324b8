import Attestation.Proofs.Checks
import Attestation.TrustStore

/-!
Paths from the certificates of a chain to trusted identities. A walk down a chain succeeds exactly
if every certificate is vouched for by a trusted identity or by the nearest certificate above it
that bears the name of its issuer. From that a path upwards from every position is read off, each
certificate on it signed by the next, the last one by a trusted identity.
-/
namespace Attestation

namespace Certificate

/-- The key of the second certificate signed the first one. -/
def SignedBy (c issuer : Certificate) : Prop :=
  ∃ key, IssuerKey.ofCertificate issuer = .ok key ∧ key.verify c = .ok ()

/-- The second certificate is the one that the first one names as its issuer, and signed it. -/
def IssuedBy (c issuer : Certificate) : Prop :=
  c.issuer.text = issuer.subject.text ∧ c.SignedBy issuer

/-- The basic constraints of the certificate let it sign others. -/
def MaySign (c : Certificate) : Prop :=
  ∃ x ∈ c.extensions.getD [], x.id = basicConstraints ∧ authorityFlag? x.value = some true

/-- Certificates each of which is signed by the next one, the last one by the root. -/
inductive Linked (root : Certificate) : List Certificate → Prop
  | last {c : Certificate} (signed : c.SignedBy root) : Linked root [c]
  | link {c d : Certificate} {rest : List Certificate} (signed : c.SignedBy d)
      (onward : Linked root (d :: rest)) : Linked root (c :: d :: rest)

def Valid (c : Certificate) (now : Instant) : Prop :=
  c.notBefore.instant ≤ now ∧ now ≤ c.notAfter.instant

theorem validAt_iff (c : Certificate) (now : Instant) : c.validAt now = true ↔ c.Valid now := by
  simp [validAt, Valid]

theorem allValidAt_iff (chain : List Certificate) (now : Instant) :
    allValidAt chain now = true ↔ ∀ c ∈ chain, c.Valid now := by
  simp [allValidAt, validAt_iff]

theorem maySign_of_isAuthority {c : Certificate} (h : c.isAuthority = .ok true) : c.MaySign := by
  unfold isAuthority at h
  split at h
  · simp at h
  · rename_i x hx
    have hmem : x ∈ (c.extensions.getD []).filter (·.id = basicConstraints) := by simp [hx]
    rw [List.mem_filter, decide_eq_true_eq] at hmem
    split at h
    · rename_i flag hflag
      obtain rfl : flag = true := by simpa using h
      exact ⟨x, hmem.1, hmem.2, hflag⟩
    · simp at h
  · simp at h

end Certificate

namespace TrustStore

open Checks Certificate

theorem decodeKey_eq_ok {c : Certificate} {id : Identity} :
    decodeKey c = .ok id ↔ id.certificate = c ∧ IssuerKey.ofCertificate c = .ok id.key := by
  unfold decodeKey
  cases h : IssuerKey.ofCertificate c with
  | error cause => simp
  | ok key =>
    obtain ⟨certificate, key'⟩ := id
    simp only [Except.ok.injEq, Identity.mk.injEq]
    constructor
    · intro h
      obtain ⟨rfl, rfl⟩ := h
      exact ⟨rfl, rfl⟩
    · intro h
      obtain ⟨rfl, rfl⟩ := h
      exact ⟨rfl, rfl⟩

theorem requireAuthority_eq_ok {c : Certificate} :
    requireAuthority c = .ok () ↔ c.isAuthority = .ok true := by
  unfold requireAuthority
  split <;> simp_all

/-! The trusted identities. -/

/-- A trusted identity is a root, valid at the time in question and stored under its subject. -/
structure Pinned (roots : List Certificate) (now : Instant) (name : String) (r : Identity) :
    Prop where
  root : r.certificate ∈ roots
  subject : r.certificate.subject.text = name
  key : IssuerKey.ofCertificate r.certificate = .ok r.key
  valid : r.certificate.Valid now

theorem addRoot_eq_ok {now : Instant} {trusted trusted' : Table String Identity}
    {root : Certificate} :
    addRoot now trusted root = .ok trusted' ↔ root.Valid now ∧
      ∃ id, decodeKey root = .ok id ∧ trusted' = trusted.insert root.subject.text id := by
  simp only [addRoot, ite_else_error_eq_ok, validAt_iff, bind_eq_ok, pure_eq_ok]

theorem foldlM_addRoot_pinned {now : Instant} {roots all : List Certificate}
    {trusted trusted' : Table String Identity} (hall : ∀ c ∈ roots, c ∈ all)
    (hp : ∀ name r, trusted.get? name = some r → Pinned all now name r)
    (h : roots.foldlM (addRoot now) trusted = .ok trusted') :
    ∀ name r, trusted'.get? name = some r → Pinned all now name r := by
  -- Over the roots that are still to be stored; `all` keeps the whole list.
  induction roots generalizing trusted with
  | nil =>
    rw [List.foldlM_nil, pure_eq_ok] at h
    exact h ▸ hp
  | cons c roots ih =>
    rw [List.foldlM_cons, bind_eq_ok] at h
    obtain ⟨next, hnext, hrest⟩ := h
    obtain ⟨hvalid, id, hid, rfl⟩ := addRoot_eq_ok.1 hnext
    refine ih (fun d hd => hall d (by simp [hd])) ?_ hrest
    intro name r hr
    rw [Table.get?_insert] at hr
    split at hr
    · rename_i heq
      obtain rfl : id = r := by simpa using hr
      obtain ⟨rfl, hkey⟩ := decodeKey_eq_ok.1 hid
      exact ⟨hall _ (by simp), (eq_of_beq heq).symm, hkey, hvalid⟩
    · exact hp name r hr

theorem ofRoots_pinned {now : Instant} {roots : List Certificate} {store : TrustStore}
    (h : ofRoots now roots = .ok store) :
    store.now = now ∧ ∀ name r, store.trusted.get? name = some r → Pinned roots now name r := by
  simp only [ofRoots, bind_eq_ok, pure_eq_ok] at h
  obtain ⟨trusted, htrusted, rfl⟩ := h
  refine ⟨rfl, foldlM_addRoot_pinned (fun c hc => hc) ?_ htrusted⟩
  intro name r hr
  simp [Table.get?_empty] at hr

/-! The walk. Chains have their leaf first, so the certificates above one stand behind it. -/

/-- Of the certificates above another one, the nearest that bears a name, with its key. -/
def nearest (above : List Certificate) (name : String) : Option Identity :=
  (above.find? (·.subject.text == name)).bind fun d => (decodeKey d).toOption

/-- A certificate may follow those above it: a trusted identity, or else the nearest one of the
name of its issuer, signed it, and its own key can be decoded. -/
def Follows (store : TrustStore) (above : List Certificate) (c : Certificate) : Prop :=
  (∃ signer, (store.trusted.get? c.issuer.text).or (nearest above c.issuer.text) = some signer ∧
    signer.key.verify c = .ok ()) ∧ ∃ id, decodeKey c = .ok id

/-- Every certificate of a chain may follow those above it. -/
def Rooted (store : TrustStore) : List Certificate → Prop
  | [] => True
  | c :: above => store.Follows above c ∧ Rooted store above

theorem nearest_cons {c : Certificate} {id : Identity} (h : decodeKey c = .ok id)
    (above : List Certificate) (name : String) :
    nearest (c :: above) name =
      if name == c.subject.text then some id else nearest above name := by
  unfold nearest
  rw [List.find?_cons, BEq.comm]
  cases name == c.subject.text <;> simp [h, Except.toOption]

theorem nearest_eq_some {above : List Certificate} {name : String} {id : Identity}
    (h : nearest above name = some id) :
    ∃ j : Nat, above[j]? = some id.certificate ∧ id.certificate.subject.text = name ∧
      IssuerKey.ofCertificate id.certificate = .ok id.key := by
  obtain ⟨d, hd, hid⟩ := Option.bind_eq_some_iff.1 h
  have hname : d.subject.text = name := by simpa using List.find?_some hd
  obtain ⟨j, hj⟩ := List.mem_iff_getElem?.1 (List.mem_of_find?_eq_some hd)
  cases hk : decodeKey d with
  | error cause => simp [hk, Except.toOption] at hid
  | ok found =>
    obtain rfl : found = id := by simpa [hk, Except.toOption] using hid
    obtain ⟨rfl, hkey⟩ := decodeKey_eq_ok.1 hk
    exact ⟨j, hj, hname, hkey⟩

theorem issuer_eq_ok {store : TrustStore} {known : Table String Identity} {name : String}
    {id : Identity} :
    store.issuer known name = .ok id ↔
      (store.trusted.get? name).or (known.get? name) = some id := by
  unfold issuer
  split
  · rename_i found h
    simp [h]
  · rename_i h
    simp [h]

theorem vouch_eq_ok {store : TrustStore} {known : Table String Identity} {c : Certificate}
    {id : Identity} :
    store.vouch known c = .ok id ↔
      (∃ signer, (store.trusted.get? c.issuer.text).or (known.get? c.issuer.text) = some signer ∧
        signer.key.verify c = .ok ()) ∧ decodeKey c = .ok id := by
  simp only [vouch, bind_eq_ok, issuer_eq_ok]
  constructor
  · intro h
    obtain ⟨signer, hsigner, h⟩ := h
    split at h
    · rename_i hverify
      exact ⟨⟨signer, hsigner, hverify⟩, h⟩
    · simp at h
  · intro h
    obtain ⟨⟨signer, hsigner, hverify⟩, hid⟩ := h
    exact ⟨signer, hsigner, by simp [hverify, hid]⟩

/-- The certificates of a walk, which has its leaf last, may follow one another, the first of them
those above it. -/
def Descends (store : TrustStore) (above : List Certificate) : List Certificate → Prop
  | [] => True
  | c :: rest => store.Follows above c ∧ Descends store (c :: above) rest

theorem rooted_reverse_append {store : TrustStore} {above rest : List Certificate} :
    store.Rooted (rest.reverse ++ above) ↔ store.Rooted above ∧ store.Descends above rest := by
  -- A walk starts at the far end: with each step one certificate moves from `rest` to `above`.
  induction rest generalizing above with
  | nil => simp [Descends]
  | cons c rest ih =>
    rw [List.reverse_cons, List.append_assoc, List.singleton_append, ih, Rooted, Descends]
    constructor
    · intro h
      obtain ⟨⟨hc, ha⟩, hr⟩ := h
      exact ⟨ha, hc, hr⟩
    · intro h
      obtain ⟨ha, hc, hr⟩ := h
      exact ⟨⟨hc, ha⟩, hr⟩

theorem known_insert {known : Table String Identity} {above : List Certificate} {c : Certificate}
    {id : Identity} (hk : ∀ name, known.get? name = nearest above name)
    (h : decodeKey c = .ok id) (name : String) :
    (known.insert c.subject.text id).get? name = nearest (c :: above) name := by
  rw [Table.get?_insert, nearest_cons h, hk]

/-- A walk that knows the certificates above it succeeds if and only if the certificates it meets
may follow one another, all of them but the leaf may sign, and the leaf is what it hands out. -/
theorem walk_eq_ok {store : TrustStore} {known : Table String Identity}
    {above rest : List Certificate} {id : Identity}
    (hk : ∀ name, known.get? name = nearest above name) :
    store.walk known rest = .ok id ↔
      store.Descends above rest ∧ (∀ c ∈ rest.dropLast, c.isAuthority = .ok true) ∧
        rest.getLast? = some id.certificate ∧
        IssuerKey.ofCertificate id.certificate = .ok id.key := by
  -- What is known grows with the certificates above; `hk`, that the two agree, carries the induction.
  induction rest generalizing known above with
  | nil => simp [walk]
  | cons c rest ih =>
    have hv : ∀ found, store.vouch known c = .ok found ↔
        (∃ signer, (store.trusted.get? c.issuer.text).or (nearest above c.issuer.text) =
          some signer ∧ signer.key.verify c = .ok ()) ∧ decodeKey c = .ok found := by
      intro found
      rw [vouch_eq_ok, hk]
    cases rest with
    | nil =>
      -- The leaf need not be an authority.
      rw [walk, hv, decodeKey_eq_ok]
      simp only [Descends, Follows, decodeKey_eq_ok, and_true, List.dropLast_singleton,
        List.not_mem_nil, false_implies, implies_true, true_and, List.getLast?_singleton,
        Option.some.injEq]
      constructor
      · intro h
        obtain ⟨hs, rfl, hkey⟩ := h
        exact ⟨⟨hs, id, rfl, hkey⟩, rfl, hkey⟩
      · intro h
        obtain ⟨⟨hs, _⟩, rfl, hkey⟩ := h
        exact ⟨hs, rfl, hkey⟩
    | cons d rest =>
      simp only [walk, bind_eq_ok, hv]
      constructor
      · intro h
        obtain ⟨found, ⟨hs, hfound⟩, _, hauth, hrest⟩ := h
        obtain ⟨hd, ha, hl⟩ := (ih (known_insert hk hfound)).1 hrest
        refine ⟨⟨⟨hs, found, hfound⟩, hd⟩, ?_, by simpa using hl⟩
        intro x hx
        rw [List.dropLast_cons_cons, List.mem_cons] at hx
        rcases hx with rfl | hx
        · exact requireAuthority_eq_ok.1 hauth
        · exact ha x hx
      · intro h
        obtain ⟨⟨⟨hs, found, hfound⟩, hd⟩, ha, hl⟩ := h
        refine ⟨found, ⟨hs, hfound⟩, (), requireAuthority_eq_ok.2 (ha c (by simp)), ?_⟩
        exact (ih (known_insert hk hfound)).2
          ⟨hd, fun x hx => ha x (by simp [hx]), by simpa using hl⟩

/-- A chain is accepted if and only if all of it is valid, every certificate may follow those above
it, and all but the leaf may sign. What is handed out is the leaf with its key. -/
theorem verifyLeaf_eq_ok {store : TrustStore} {chain : List Certificate} {id : Identity} :
    store.verifyLeaf chain = .ok id ↔
      (∀ c ∈ chain, c.Valid store.now) ∧ store.Rooted chain ∧
        (∀ c ∈ chain.tail, c.isAuthority = .ok true) ∧
        chain.head? = some id.certificate ∧
        IssuerKey.ofCertificate id.certificate = .ok id.key := by
  have hd : store.Descends [] chain.reverse ↔ store.Rooted chain := by
    have h := @rooted_reverse_append store [] chain.reverse
    simpa [Rooted] using h.symm
  have hw := @walk_eq_ok store Table.empty [] chain.reverse id fun name => rfl
  rw [hd] at hw
  simp only [verifyLeaf, ite_error_eq_ok, ite_else_error_eq_ok, allValidAt_iff, hw]
  cases chain <;> simp

/-! Paths. -/

/-- Positions of a chain that lead upwards from its leaf: the certificate at each of them is issued
by the one at the next, and the last one by a trusted identity, stored under the name of its
issuer. -/
inductive Path (store : TrustStore) (chain : List Certificate) : List Nat → Identity → Prop
  | anchor {i : Nat} {c : Certificate} {r : Identity} (at_i : chain[i]? = some c)
      (trusted : store.trusted.get? c.issuer.text = some r) (signed : r.key.verify c = .ok ()) :
      Path store chain [i] r
  | link {i j : Nat} {c d : Certificate} {rest : List Nat} {r : Identity} (below : i < j)
      (at_i : chain[i]? = some c) (at_j : chain[j]? = some d) (issued : c.IssuedBy d)
      (onward : Path store chain (j :: rest) r) : Path store chain (i :: j :: rest) r

theorem Path.cons {store : TrustStore} {chain : List Certificate} {path : List Nat} {r : Identity}
    (h : Path store chain path r) (c : Certificate) :
    Path store (c :: chain) (path.map (· + 1)) r := by
  induction h with
  | anchor at_i trusted signed => exact .anchor (by simpa using at_i) trusted signed
  | link below at_i at_j issued _ ih =>
    exact .link (Nat.succ_lt_succ below) (by simpa using at_i) (by simpa using at_j) issued ih

/-- From every position of a rooted chain a path leads to a trusted identity. -/
theorem exists_path {store : TrustStore} {chain : List Certificate} (h : store.Rooted chain)
    {i : Nat} (hi : i < chain.length) : ∃ rest r, Path store chain (i :: rest) r := by
  induction chain generalizing i with
  | nil => simp at hi
  | cons c above ih =>
    obtain ⟨⟨⟨signer, hsigner, hverify⟩, _⟩, habove⟩ := h
    cases i with
    | succ i =>
      obtain ⟨rest, r, hpath⟩ := ih habove (by simpa using hi)
      exact ⟨_, r, hpath.cons c⟩
    | zero =>
      rcases Option.or_eq_some_iff.1 hsigner with htrusted | ⟨_, hnear⟩
      · exact ⟨[], signer, .anchor rfl htrusted hverify⟩
      · -- The signer stands above: a path leads on from there.
        obtain ⟨j, hj, hname, hkey⟩ := nearest_eq_some hnear
        obtain ⟨hlt, _⟩ := List.getElem?_eq_some_iff.1 hj
        obtain ⟨rest, r, hpath⟩ := ih habove hlt
        refine ⟨_, r, .link (Nat.succ_pos j) rfl (by simpa using hj) ⟨hname.symm, ?_⟩
          (hpath.cons c)⟩
        exact ⟨signer.key, hkey, hverify⟩

theorem Path.pinned {roots : List Certificate} {now : Instant} {store : TrustStore}
    {chain : List Certificate} {path : List Nat} {r : Identity} (h : Path store chain path r)
    (hstore : ofRoots now roots = .ok store) : ∃ c ∈ chain, Pinned roots now c.issuer.text r := by
  induction h with
  | anchor at_i trusted _ =>
    exact ⟨_, List.mem_of_getElem? at_i, (ofRoots_pinned hstore).2 _ _ trusted⟩
  | link _ _ _ _ _ ih => exact ih

/-- The certificates at the positions of a path, those after the first from further up. -/
theorem Path.linked {store : TrustStore} {chain : List Certificate} {path : List Nat} {r : Identity}
    (h : Path store chain path r) (hkey : IssuerKey.ofCertificate r.certificate = .ok r.key) :
    ∃ i c links, path.head? = some i ∧ chain[i]? = some c ∧ Linked r.certificate (c :: links) ∧
      ∀ d ∈ links, ∃ j, i < j ∧ chain[j]? = some d := by
  induction h with
  | @anchor i c r at_i trusted signed =>
    exact ⟨i, c, [], rfl, at_i, .last ⟨r.key, hkey, signed⟩, by simp⟩
  | @link i j c d rest r below at_i at_j issued _ ih =>
    obtain ⟨j', d', links, hhead, hd, hlinked, hlinks⟩ := ih hkey
    obtain rfl : j = j' := by simpa using hhead
    obtain rfl : d = d' := by simpa [at_j] using hd
    refine ⟨i, c, d :: links, rfl, at_i, .link issued.2 hlinked, ?_⟩
    intro x hx
    rcases List.mem_cons.1 hx with rfl | hx
    · exact ⟨j, below, at_j⟩
    · obtain ⟨k, hk, hget⟩ := hlinks x hx
      exact ⟨k, Nat.lt_trans below hk, hget⟩

/-- What an accepted chain shows: whose key is handed out, that the whole chain is valid, that all
of it but the leaf may sign, and that a path leads from every position to one of the roots. -/
structure Accepted (roots : List Certificate) (now : Instant) (store : TrustStore)
    (chain : List Certificate) (id : Identity) : Prop where
  leaf : chain.head? = some id.certificate
  key : IssuerKey.ofCertificate id.certificate = .ok id.key
  valid : ∀ c ∈ chain, c.Valid now
  maySign : ∀ c ∈ chain.tail, c.MaySign
  rooted : ∀ i < chain.length, ∃ rest r, Path store chain (i :: rest) r ∧
    ∃ c ∈ chain, Pinned roots now c.issuer.text r

theorem verifyLeaf_sound {roots : List Certificate} {now : Instant} {store : TrustStore}
    {chain : List Certificate} {id : Identity} (hstore : ofRoots now roots = .ok store)
    (h : store.verifyLeaf chain = .ok id) : Accepted roots now store chain id := by
  obtain ⟨hnow, _⟩ := ofRoots_pinned hstore
  obtain ⟨hvalid, hrooted, hauth, hhead, hkey⟩ := verifyLeaf_eq_ok.1 h
  refine ⟨hhead, hkey, hnow ▸ hvalid, fun c hc => maySign_of_isAuthority (hauth c hc), ?_⟩
  intro i hi
  obtain ⟨rest, r, hpath⟩ := exists_path hrooted hi
  exact ⟨rest, r, hpath, hpath.pinned hstore⟩

/-! An accepted chain of two certificates. Every public key is the base point of its curve, which
belongs to the private key one, and every signature has the nonce one, so that its first scalar is
the first coordinate of the base point. -/

def baseKey (c : Ecdsa.Curve) : Bytes :=
  4 :: (Bytes.ofNat c.width c.baseX ++ Bytes.ofNat c.width c.baseY)

def baseSignature (c : Ecdsa.Curve) (scalar : Nat) : Bytes :=
  (Der.construct Der.sequence
    [Der.unsigned (Bytes.ofNat c.width c.baseX), Der.unsigned (Bytes.ofNat c.width scalar)]).encode

def letterName (letter : UInt8) : Name :=
  ⟨[[⟨.ofNumbers [2, 5, 4, 3], ⟨Der.utf8String, [letter]⟩⟩]]⟩

/-- The first second of a year of this century. -/
def specimenTime (seconds : Nat) (year : UInt8) : Time :=
  ⟨⟨Der.utcTime, [48 + year / 10, 48 + year % 10] ++
    [48, 49, 48, 49, 48, 48, 48, 48, 48, 48, 90]⟩, seconds⟩

def specimen (issuer subject : UInt8) (curve : List Nat) (key signature : Bytes)
    (extensions : Option (List Extension)) : Certificate where
  version := 2
  serial := [1]
  innerAlgorithm := ⟨.ofNumbers [1, 2, 840, 10045, 4, 3, 2], none⟩
  issuer := letterName issuer
  notBefore := specimenTime 1577836800 20
  notAfter := specimenTime 2208988800 40
  subject := letterName subject
  keyAlgorithm := ⟨ecKey, some (ObjectId.ofNumbers curve).element⟩
  key := ⟨0, key⟩
  issuerUnique := none
  subjectUnique := none
  extensions
  signatureAlgorithm := ⟨.ofNumbers [1, 2, 840, 10045, 4, 3, 2], none⟩
  signature := ⟨0, signature⟩

def authorityExtension : Extension :=
  ⟨basicConstraints, true, (Der.construct Der.sequence [⟨Der.boolean, [0xff]⟩]).encode⟩

def specimenRoot : Certificate :=
  specimen 82 82 [1, 3, 132, 0, 34] (baseKey Ecdsa.p384) [] (some [authorityExtension])

def specimenIssuer : Certificate :=
  specimen 82 73 [1, 2, 840, 10045, 3, 1, 7] (baseKey Ecdsa.p256)
    (baseSignature Ecdsa.p384
      0xaa87ca22be8b05378eb1c71ef320ad75226d919f170088fcfbaca45a218b14a913c9011396c612ccd6d5da484d6d1de4)
    (some [authorityExtension])

def specimenLeaf : Certificate :=
  specimen 73 76 [1, 3, 132, 0, 34] (baseKey Ecdsa.p384)
    (baseSignature Ecdsa.p256
      0xb92a83e98d594dc411d0b68fa26f0480cb3af395cee5023f6b38c83096a0643)
    none

set_option maxRecDepth 100000 in
theorem verifyLeaf_sound_specimen : ∃ store id,
    ofRoots 1700000000000000000 [specimenRoot] = .ok store ∧
      store.verifyLeaf [specimenLeaf, specimenIssuer] = .ok id ∧
      Accepted [specimenRoot] 1700000000000000000 store [specimenLeaf, specimenIssuer] id := by
  have h : (ofRoots 1700000000000000000 [specimenRoot] >>=
      (·.verifyLeaf [specimenLeaf, specimenIssuer])).isOk = true := by decide +kernel
  obtain ⟨id, hid⟩ := isOk_iff.1 h
  obtain ⟨store, hstore, hleaf⟩ := bind_eq_ok.1 hid
  exact ⟨store, id, hstore, hleaf, verifyLeaf_sound hstore hleaf⟩

end TrustStore

end Attestation
