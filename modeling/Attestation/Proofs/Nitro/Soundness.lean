import Attestation.Nitro.Verification
import Attestation.Proofs.Nitro.Identifier
import Attestation.Proofs.TrustStore.Path

/-!
Soundness of the verification of Nitro evidence. The bytes that are signed are the bytes of the
payload, the document is read from these bytes, and everything else is asked of this document: its
certificate leads to the root, the signature belongs to the key of this certificate, and the claims
are what the policy makes of it.
-/
namespace Attestation.Nitro

open Checks TrustStore

/-! The envelope. -/

/-- The bytes of an envelope: the evidence itself if it starts like one, else what its text in
base64 stands for. -/
def Armors (evidence bytes : Bytes) : Prop :=
  if evidence.head? = some Envelope.arrayMark ∨ evidence.head? = some Envelope.tagMark then
    evidence = bytes
  else ∃ text, Utf8.decodeChars? evidence = some text ∧
    Base64.decode? Base64.standard (Text.trim text) = some bytes

/-- The evidence is an envelope with these parts, under the tag of envelopes or under none. -/
def Carries (evidence header payload signature : Bytes) : Prop :=
  ∃ bytes item unprotected, Armors evidence bytes ∧ Cbor.Item.ofBytes? bytes = some item ∧
    (item = .array [.bytes header, unprotected, .bytes payload, .bytes signature] ∨
      item = .tag 18 (.array [.bytes header, unprotected, .bytes payload, .bytes signature]))

theorem checkHeader_eq_ok {header : Bytes} {u : Unit} :
    Envelope.checkHeader header = .ok u ↔
      Cbor.Item.ofBytes? header = some (.map [(.integer 1, .integer (-35))]) := by
  unfold Envelope.checkHeader
  split
  · rename_i h
    simp [h]
  · rename_i key value h
    rw [h]
    split
    · rename_i hes
      obtain ⟨rfl, rfl⟩ := hes
      simp [Envelope.algorithmKey, Envelope.algorithm]
    · rename_i hes
      simp only [reduceCtorEq, false_iff]
      intro heq
      simp only [Option.some.injEq, Cbor.Item.map.injEq, List.cons.injEq, Prod.mk.injEq,
        Cbor.Item.integer.injEq, and_true] at heq
      exact hes heq
  · rename_i h _
    simp_all
  · rename_i h _
    simp_all

theorem bytesOf_eq_ok {name : String} {item : Cbor.Item} {bytes : Bytes} :
    Envelope.bytesOf name item = .ok bytes ↔ item = .bytes bytes := by
  cases item <;> simp [Envelope.bytesOf]

theorem ofParts_eq_ok {header payload signature : Bytes} {e : Envelope} :
    Envelope.ofParts header payload signature = .ok e ↔
      Cbor.Item.ofBytes? header = some (.map [(.integer 1, .integer (-35))]) ∧
        signature.length = 96 ∧ ∃ d, Document.ofBytes payload = .ok d ∧
          e = ⟨header, payload, signature, d⟩ := by
  simp only [Envelope.ofParts, bind_eq_ok, checkHeader_eq_ok, exists_const]
  have hwidth : ¬signature.length ≠ Envelope.signatureWidth ↔ signature.length = 96 := not_not
  refine and_congr_right fun _ => ?_
  rw [ite_error_eq_ok, hwidth]
  cases Document.ofBytes payload with
  | error cause => simp
  | ok d => simp [pure_eq_ok]

theorem untagged_eq_ok {item inner : Cbor.Item} (h : Envelope.untagged item = .ok inner) :
    item = inner ∨ item = .tag 18 inner := by
  unfold Envelope.untagged at h
  split at h
  · split at h
    · rename_i hn
      exact .inr (by rw [hn, Except.ok.inj h]; rfl)
    · simp at h
  · exact .inl (Except.ok.inj h)

theorem ofItem_eq_ok {item : Cbor.Item} {e : Envelope} (h : Envelope.ofItem item = .ok e) :
    (∃ unprotected,
      item = .array [.bytes e.protectedHeader, unprotected, .bytes e.payload, .bytes e.signature] ∨
      item = .tag 18
        (.array [.bytes e.protectedHeader, unprotected, .bytes e.payload, .bytes e.signature])) ∧
      Envelope.ofParts e.protectedHeader e.payload e.signature = .ok e := by
  unfold Envelope.ofItem at h
  obtain ⟨inner, hinner, h⟩ := bind_eq_ok.1 h
  split at h
  · rename_i header unprotected payload signature
    simp only [bind_eq_ok, bytesOf_eq_ok] at h
    obtain ⟨headerBytes, rfl, payloadBytes, rfl, signatureBytes, rfl, h⟩ := h
    obtain ⟨_, _, d, _, rfl⟩ := ofParts_eq_ok.1 h
    exact ⟨⟨unprotected, untagged_eq_ok hinner⟩, h⟩
  · simp at h

theorem decode_eq_ok {evidence : Bytes} {e : Envelope} (h : Envelope.decode evidence = .ok e) :
    Carries evidence e.protectedHeader e.payload e.signature ∧
      Envelope.ofParts e.protectedHeader e.payload e.signature = .ok e := by
  have hbytes : ∃ bytes, Armors evidence bytes ∧ Envelope.ofBytes bytes = .ok e := by
    unfold Envelope.decode at h
    split at h
    · simp at h
    · rename_i first rest
      split at h
      · rename_i hmark
        exact ⟨_, by simp [Armors, hmark], h⟩
      · rename_i hmark
        split at h
        · rename_i bytes hdearmored
          refine ⟨bytes, ?_, h⟩
          simpa [Armors, hmark, Envelope.dearmored?, Option.bind_eq_some_iff] using hdearmored
        · simp at h
  obtain ⟨bytes, harmors, h⟩ := hbytes
  unfold Envelope.ofBytes at h
  split at h
  · rename_i item hitem
    obtain ⟨⟨unprotected, hparts⟩, hof⟩ := ofItem_eq_ok h
    exact ⟨⟨bytes, item, unprotected, harmors, hitem, hparts⟩, hof⟩
  · simp at h

/-! The certificates. -/

/-- The certificate of a document leads to the root: from each certificate to the one whose key
signed it, over certificates of the bundle that may sign, to the root. All of them are valid. -/
structure Vouched (root : Certificate) (now : Instant) (d : Document) (leaf : Certificate) :
    Prop where
  certificate : Certificate.read d.certificate = .ok leaf
  linked : ∃ links, Certificate.Linked root (leaf :: links) ∧
    (∀ c ∈ links, c.MaySign ∧ ∃ der ∈ d.bundle, Certificate.read der = .ok c) ∧
    ∀ c ∈ root :: leaf :: links, c.Valid now

theorem leafOf_eq_ok {root leaf : Certificate} {now : Instant} {chain : List Certificate} :
    leafOf root now chain = .ok leaf ↔ ∃ store id, TrustStore.ofRoots now [root] = .ok store ∧
      store.verifyLeaf chain = .ok id ∧ id.certificate = leaf := by
  simp only [leafOf, bind_eq_ok, mapError_eq_ok, pure_eq_ok]
  constructor
  · intro h
    obtain ⟨store, hstore, id, hid, rfl⟩ := h
    exact ⟨store, id, hstore, hid, rfl⟩
  · intro h
    obtain ⟨store, id, hstore, hid, rfl⟩ := h
    exact ⟨store, hstore, id, hid, rfl⟩

theorem read_of_bundle {d : Document} {chain : List Certificate}
    (hread : d.chain.mapM Certificate.read = .ok chain) {j : Nat} {c : Certificate} (hj : 0 < j)
    (hc : chain[j]? = some c) : ∃ der ∈ d.bundle, Certificate.read der = .ok c := by
  obtain ⟨der, hder, hcert⟩ := mapM_getElem? hread hc
  obtain ⟨k, rfl⟩ := Nat.exists_eq_add_one_of_ne_zero (Nat.ne_of_gt hj)
  rw [Document.chain, List.getElem?_cons_succ] at hder
  exact ⟨der, List.mem_reverse.1 (List.mem_of_getElem? hder), hcert⟩

theorem vouched_of_leafOf {root leaf : Certificate} {now : Instant} {d : Document}
    {chain : List Certificate} (hread : d.chain.mapM Certificate.read = .ok chain)
    (h : leafOf root now chain = .ok leaf) : Vouched root now d leaf := by
  obtain ⟨store, id, hstore, hverify, rfl⟩ := leafOf_eq_ok.1 h
  obtain ⟨hvalid, hrooted, hauth, hhead, _⟩ := TrustStore.verifyLeaf_eq_ok.1 hverify
  rw [(TrustStore.ofRoots_pinned hstore).1] at hvalid
  rw [List.head?_eq_getElem?] at hhead
  have hlength : 0 < chain.length := by
    obtain ⟨hlt, _⟩ := List.getElem?_eq_some_iff.1 hhead
    exact hlt
  -- The leaf stands at position zero; the path from there gives the links.
  obtain ⟨rest, r, hpath⟩ := TrustStore.exists_path hrooted hlength
  obtain ⟨_, _, hpinned⟩ := hpath.pinned hstore
  have hroot : r.certificate = root := by simpa using hpinned.root
  obtain ⟨i, c, links, hi, hc, hlinked, hlinks⟩ := hpath.linked hpinned.key
  obtain rfl : 0 = i := by simpa using hi
  obtain rfl : id.certificate = c := by simpa [hhead] using hc
  have hleaf : Certificate.read d.certificate = .ok id.certificate := by
    obtain ⟨der, hder, hread⟩ := mapM_getElem? hread hhead
    obtain rfl : d.certificate = der := by simpa [Document.chain] using hder
    exact hread
  have hbundle : ∀ x ∈ links, x.MaySign ∧ ∃ der ∈ d.bundle, Certificate.read der = .ok x := by
    intro x hx
    obtain ⟨j, hj, hget⟩ := hlinks x hx
    have hmem : x ∈ chain.tail := by
      obtain ⟨k, rfl⟩ := Nat.exists_eq_add_one_of_ne_zero (Nat.ne_of_gt hj)
      exact List.mem_of_getElem? (by rw [List.getElem?_tail]; exact hget)
    exact ⟨Certificate.maySign_of_isAuthority (hauth x hmem), read_of_bundle hread hj hget⟩
  have hlinksValid : ∀ x ∈ links, x.Valid now := by
    intro x hx
    obtain ⟨j, _, hget⟩ := hlinks x hx
    exact hvalid x (List.mem_of_getElem? hget)
  have hleafValid : id.certificate.Valid now := hvalid _ (List.mem_of_getElem? hhead)
  refine ⟨hleaf, links, hroot ▸ hlinked, hbundle, ?_⟩
  rw [List.forall_mem_cons, List.forall_mem_cons]
  exact ⟨hroot ▸ hpinned.valid, hleafValid, hlinksValid⟩

/-! The policy. -/

/-- The claims are what the policy makes of the document: the first three registers are there and
identify the enclave, the first of them does not belong to debug mode, and the document holds the
expected key, if one is given. -/
structure Approved (d : Document) (expectedKey : Option String) (claims : EnclaveClaims) :
    Prop where
  identified : ∃ boot kernel application, d.registers.get? 0 = some boot ∧
    d.registers.get? 1 = some kernel ∧ d.registers.get? 2 = some application ∧
    (∃ b ∈ boot, b ≠ 0) ∧ claims.enclaveId = EnclaveId.digestOf (boot ++ kernel ++ application)
  key : ∀ expected, expectedKey = some expected →
    ∃ key, d.publicKey = some key ∧ Base64.encode Base64.standard key = expected
  rawClaims : claims.rawClaims = d.audit
  platform : claims.platform = .nitro
  workload : claims.workload = none

theorem approved_of_judge {d : Document} {expectedKey : Option String} {claims : EnclaveClaims}
    (h : judge d expectedKey = .ok claims) : Approved d expectedKey claims := by
  simp only [judge, bind_eq_ok, mapError_eq_ok, pure_eq_ok, enclaveId_eq_ok] at h
  obtain ⟨id, ⟨boot, kernel, application, hboot, hkernel, happlication, hbyte, hkey, rfl⟩, rfl⟩ := h
  exact ⟨⟨boot, kernel, application, hboot, hkernel, happlication, hbyte, rfl⟩,
    fun expected h => holdsKey_iff.1 (hkey expected h), rfl, rfl, rfl⟩

/-! All together. -/

/-- The parts of an envelope in the evidence, and the document read from its payload. -/
structure Enveloped (evidence header payload signature : Bytes) (d : Document) : Prop where
  carried : Carries evidence header payload signature
  algorithm : Cbor.Item.ofBytes? header = some (.map [(.integer 1, .integer (-35))])
  width : signature.length = 96
  document : Document.ofBytes payload = .ok d

/-- The bytes under a signature over a header and a payload. -/
def signedBytes (header payload : Bytes) : Bytes :=
  Cbor.writeArray [Cbor.writeText [0x53, 0x69, 0x67, 0x6e, 0x61, 0x74, 0x75, 0x72, 0x65, 0x31],
    Cbor.writeBytes header, Cbor.writeBytes [], Cbor.writeBytes payload]

theorem signedMessage_eq (e : Envelope) :
    e.signedMessage = signedBytes e.protectedHeader e.payload := rfl

/-- What evidence that is accepted consists of. -/
structure Authentic (root : Certificate) (evidence : Bytes) (expectedKey : Option String)
    (now : Instant) (claims : EnclaveClaims) (header payload signature : Bytes) (d : Document)
    (leaf : Certificate) (key : Bytes) : Prop where
  enveloped : Enveloped evidence header payload signature d
  vouched : Vouched root now d leaf
  publicKey : leaf.publicKey = .ok key
  signed : Ecdsa.P384.verifyRaw key (signedBytes header payload) signature = .ok ()
  approved : Approved d expectedKey claims

theorem checkSignature_eq_ok {e : Envelope} {leaf : Certificate} {u : Unit} :
    checkSignature e leaf = .ok u ↔ ∃ key, leaf.publicKey = .ok key ∧
      Ecdsa.P384.verifyRaw key (signedBytes e.protectedHeader e.payload) e.signature = .ok u := by
  simp only [checkSignature, bind_eq_ok, mapError_eq_ok, signedMessage_eq]

theorem verify_sound {root : Certificate} {evidence : Bytes} {expectedKey : Option String}
    {now : Instant} {claims : EnclaveClaims}
    (h : verify root evidence expectedKey now = .ok claims) :
    ∃ header payload signature d leaf key,
      Authentic root evidence expectedKey now claims header payload signature d leaf key := by
  simp only [verify, bind_eq_ok, readEnvelope, readChain, mapError_eq_ok, checkSignature_eq_ok] at h
  obtain ⟨e, he, chain, hchain, leaf, hleaf, _, ⟨key, hkey, hsigned⟩, hjudge⟩ := h
  obtain ⟨hcarries, hparts⟩ := decode_eq_ok he
  obtain ⟨hheader, hwidth, d, hd, heq⟩ := ofParts_eq_ok.1 hparts
  obtain hdocument : e.document = d := congrArg Envelope.document heq
  exact ⟨e.protectedHeader, e.payload, e.signature, e.document, leaf, key,
    ⟨hcarries, hheader, hwidth, hdocument ▸ hd⟩, vouched_of_leafOf hchain hleaf, hkey, hsigned,
    approved_of_judge hjudge⟩

/-! Accepted evidence: the certificates are those of `TrustStore.verifyLeaf_sound_specimen`, and the
signature is made like theirs. -/

def encodeCertificate (c : Certificate) : Bytes :=
  (Der.construct Der.sequence
    [c.signedElement, c.signatureAlgorithm.element, c.signature.element Der.bitString]).encode

def specimenHeader : Bytes := [0xa1, 0x01, 0x38, 0x22]

/-- A document of the six fields that must be there. -/
def specimenPayload : Bytes :=
  let register (index : UInt8) : Bytes := index :: Cbor.writeBytes (List.replicate 32 (index + 1))
  0xa6 ::
    (Cbor.writeText (Utf8.encode "module_id") ++ Cbor.writeText (Utf8.encode "m") ++
    Cbor.writeText (Utf8.encode "digest") ++ Cbor.writeText (Utf8.encode "SHA384") ++
    Cbor.writeText (Utf8.encode "timestamp") ++ [1] ++
    Cbor.writeText (Utf8.encode "pcrs") ++ 0xa3 :: (register 0 ++ register 1 ++ register 2) ++
    Cbor.writeText (Utf8.encode "certificate") ++
    Cbor.writeBytes (encodeCertificate TrustStore.specimenLeaf) ++
    Cbor.writeText (Utf8.encode "cabundle") ++
    Cbor.writeArray [Cbor.writeBytes (encodeCertificate TrustStore.specimenIssuer)])

def specimenEvidence : Bytes :=
  Cbor.writeArray [Cbor.writeBytes specimenHeader, [0xa0], Cbor.writeBytes specimenPayload,
    Cbor.writeBytes (Bytes.ofNat 48 Ecdsa.p384.baseX ++ Bytes.ofNat 48
      0x42cf5d5a9b5392194f2ce604cfe6baac6272cf5b640cd43db35a5dcc02db48c59f664060d9025319b016ae66f565b15b)]

set_option maxRecDepth 100000 in
theorem verify_sound_specimen : ∃ claims,
    verify specimenRoot specimenEvidence none 1700000000000000000 = .ok claims ∧
      ∃ header payload signature d leaf key, Authentic specimenRoot specimenEvidence none
        1700000000000000000 claims header payload signature d leaf key := by
  have h : (verify specimenRoot specimenEvidence none 1700000000000000000).isOk = true := by
    decide +kernel
  obtain ⟨claims, hclaims⟩ := isOk_iff.1 h
  exact ⟨claims, hclaims, verify_sound hclaims⟩

end Attestation.Nitro
