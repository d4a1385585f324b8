import Attestation.Ecdsa.P384
import Attestation.Proofs.Checks
import Attestation.Proofs.Der.RoundTrip

/-!
Signatures of fixed width as sequences of two integers. The two scalars come back as they were, so
that a signature is accepted in one encoding if and only if it is in the other.
-/
namespace Attestation.Ecdsa

open Der Checks

/-- Scalars fit into their width, and two of them into a sequence whose length stands in a single
octet. -/
structure Curve.Compact (c : Curve) : Prop where
  order : c.order ≤ 1 <<< (8 * c.width)
  width : c.width ≤ 60

theorem p384_compact : p384.Compact where
  order := by decide
  width := by decide

/-- Whether a number is a scalar that a signature may have. -/
def Curve.IsScalar (c : Curve) (n : Nat) : Prop := 0 < n ∧ n < c.order

namespace Signature

variable {c : Curve} {sig : Signature c} {r s : Nat} {raw : Bytes}

theorem ofScalars?_eq_some : ofScalars? c r s = some sig ↔ r = sig.r ∧ s = sig.s := by
  unfold ofScalars?
  constructor
  · intro h
    split at h
    · obtain rfl := Option.some.inj h
      exact ⟨rfl, rfl⟩
    · simp at h
  · rintro ⟨rfl, rfl⟩
    rw [dif_pos sig.inRange]

/-- The bytes side by side are those of this signature and of no other. -/
theorem ofRaw?_eq_some : ofRaw? c raw = some sig ↔ raw.length = 2 * c.width ∧
    Bytes.toNat (raw.take c.width) = sig.r ∧ Bytes.toNat (raw.drop c.width) = sig.s := by
  unfold ofRaw?
  split
  · rename_i hlength
    simp only [ofScalars?_eq_some, hlength, true_and]
  · rename_i hlength
    simp [hlength]

theorem exists_ofRaw? : (∃ sig, ofRaw? c raw = some sig) ↔ raw.length = 2 * c.width ∧
    c.IsScalar (Bytes.toNat (raw.take c.width)) ∧
    c.IsScalar (Bytes.toNat (raw.drop c.width)) := by
  constructor
  · rintro ⟨sig, h⟩
    obtain ⟨hlength, hr, hs⟩ := ofRaw?_eq_some.1 h
    rw [hr, hs]
    exact ⟨hlength, sig.inRange⟩
  · rintro ⟨hlength, hrange⟩
    exact ⟨⟨_, _, hrange⟩, ofRaw?_eq_some.2 ⟨hlength, rfl, rfl⟩⟩

/-- The one encoding of two numbers as a sequence of integers: the type and the length of the
sequence, and for each number its type, its length and its octets. -/
def Encodes (r s : Nat) (der : Bytes) : Prop :=
  ∃ (length first second : UInt8) (R S : Bytes), IntegerOctets r R ∧ IntegerOctets s S ∧
    first.toNat = R.length ∧ second.toNat = S.length ∧
    length.toNat = 2 + R.length + (2 + S.length) ∧
    first < 0x80 ∧ second < 0x80 ∧ length < 0x80 ∧
    der = [0x30, length] ++ ([0x02, first] ++ R ++ ([0x02, second] ++ S))

/-! The two integers of a signature. -/

/-- The element of a scalar. -/
def scalarElement (c : Curve) (n : Nat) : Element := Der.unsigned (Bytes.ofNat c.width n)

theorem short_scalarElement (h : c.Compact) (n : Nat) : (scalarElement c n).Short := by
  have hwidth := h.width
  exact short_unsigned (by rw [Bytes.ofNat_length]; omega)

theorem scalarElement_length (h : c.Compact) (n : Nat) :
    (scalarElement c n).content.length ≤ 61 := by
  have hlength := unsigned_length (Bytes.ofNat c.width n)
  rw [Bytes.ofNat_length] at hlength
  exact Nat.le_trans hlength (Nat.succ_le_succ h.width)

theorem integerOctets_scalarElement (h : c.Compact) {n : Nat} (hn : c.IsScalar n) :
    IntegerOctets n (scalarElement c n).content := by
  have hvalue : Bytes.toNat (Bytes.ofNat c.width n) = n :=
    Bytes.toNat_ofNat (Nat.lt_of_lt_of_le hn.2 h.order)
  have hoctets := integerOctets_unsigned (Nat.lt_of_lt_of_eq hn.1 hvalue.symm)
  rw [hvalue] at hoctets
  exact hoctets

theorem unsigned?_scalarElement (h : c.Compact) {n : Nat} (hn : c.IsScalar n) :
    ((scalarElement c n).expect? Der.integer >>= Der.unsigned?) = some n := by
  have htag : (scalarElement c n).tag = Der.integer := unsigned_tag _
  rw [Element.expect?, if_pos htag, Option.bind_eq_bind, Option.bind_some]
  exact (integerOctets_scalarElement h hn).unsigned?

/-! The sequence of both. -/

theorem encodeAll_length (h : c.Compact) (sig : Signature c) :
    (encodeAll [scalarElement c sig.r, scalarElement c sig.s]).length =
      2 + (scalarElement c sig.r).content.length +
        (2 + (scalarElement c sig.s).content.length) := by
  simp only [encodeAll, List.flatMap_cons, List.flatMap_nil, List.append_nil,
    (short_scalarElement h _).encode_eq, List.length_append, List.length_cons]
  omega

theorem short_toDer (h : c.Compact) (sig : Signature c) :
    (construct Der.sequence [scalarElement c sig.r, scalarElement c sig.s]).Short where
  tag := by
    change isTag Der.sequence = true
    decide
  length := by
    have hr := scalarElement_length h sig.r
    have hs := scalarElement_length h sig.s
    rw [construct, encodeAll_length h]
    omega

theorem encodes_toDer (h : c.Compact) (sig : Signature c) : Encodes sig.r sig.s sig.toDer := by
  have htag (n : Nat) : (scalarElement c n).tag = 0x02 := unsigned_tag _
  have hr := scalarElement_length h sig.r
  have hs := scalarElement_length h sig.s
  have hoctet {n : Nat} (hn : n < 0x80) : (UInt8.ofNat n).toNat = n ∧ UInt8.ofNat n < 0x80 := by
    have hvalue : (UInt8.ofNat n).toNat = n := by rw [UInt8.toNat_ofNat']; omega
    exact ⟨hvalue, UInt8.lt_iff_toNat_lt.2 (by rw [hvalue]; exact hn)⟩
  obtain ⟨hfirst, hfirstShort⟩ := hoctet (Nat.lt_of_le_of_lt hr (by decide))
  obtain ⟨hsecond, hsecondShort⟩ := hoctet (Nat.lt_of_le_of_lt hs (by decide))
  obtain ⟨hlength, hlengthShort⟩ := hoctet (short_toDer h sig).length
  refine ⟨_, _, _, _, _, integerOctets_scalarElement h sig.inRange.1,
    integerOctets_scalarElement h sig.inRange.2, hfirst, hsecond, ?_, hfirstShort, hsecondShort,
    hlengthShort, ?_⟩
  · rw [hlength]
    exact encodeAll_length h sig
  · change (construct Der.sequence [scalarElement c sig.r, scalarElement c sig.s]).encode = _
    rw [(short_toDer h sig).encode_eq]
    simp only [construct, encodeAll, List.flatMap_cons, List.flatMap_nil, List.append_nil,
      (short_scalarElement h _).encode_eq, htag, Der.sequence, List.cons_append, List.nil_append]

/-- Nothing is lost in the encoding. -/
theorem ofDer?_toDer (h : c.Compact) (sig : Signature c) : ofDer? c sig.toDer = some sig := by
  have hsingle : single? sig.toDer =
      some (construct Der.sequence [scalarElement c sig.r, scalarElement c sig.s]) :=
    single?_encode (short_toDer h sig)
  have hinside : (construct Der.sequence [scalarElement c sig.r, scalarElement c sig.s]).inside?
      Der.sequence = some [scalarElement c sig.r, scalarElement c sig.s] := by
    refine inside?_construct _ ?_
    simp only [List.forall_mem_cons, List.not_mem_nil, false_imp_iff, implies_true, and_true]
    exact ⟨short_scalarElement h sig.r, short_scalarElement h sig.s⟩
  unfold ofDer?
  rw [hsingle]
  simp only [Option.bind_eq_bind, Option.bind_some, hinside]
  have hr := unsigned?_scalarElement h sig.inRange.1
  have hs := unsigned?_scalarElement h sig.inRange.2
  rw [Option.bind_eq_bind] at hr hs
  rw [hr, hs]
  exact ofScalars?_eq_some.2 ⟨rfl, rfl⟩

end Signature

namespace P384

variable {raw der : Bytes}

/-- The check of a pair of numbers against the digest of a message, with the key of these bytes. -/
def Verifies (key message : Bytes) (r s : Nat) : Prop :=
  ∃ point sig, p384.point? key = some point ∧ sig.r = r ∧ sig.s = s ∧
    verify p384 point (Sha2.sha384 message) sig = true

theorem derOfRaw_eq_ok : derOfRaw raw = .ok der ↔
    ∃ sig, Signature.ofRaw? p384 raw = some sig ∧ sig.toDer = der := by
  unfold derOfRaw
  cases Signature.ofRaw? p384 raw <;> simp

theorem verifyDer_eq_ok {key message : Bytes} {u : Unit} : verifyDer key message der = .ok u ↔
    ∃ point sig, p384.point? key = some point ∧ Signature.ofDer? p384 der = some sig ∧
      verify p384 point (Sha2.sha384 message) sig = true := by
  unfold verifyDer
  cases p384.point? key with
  | none => simp
  | some point =>
    cases Signature.ofDer? p384 der with
    | none => simp
    | some sig =>
      dsimp only
      split <;> simp_all

/-- What becomes of the bytes of a signature. -/
structure Reencoded (raw : Bytes) (r s : Nat) : Prop where
  succeeds : (∃ der, derOfRaw raw = .ok der) ↔
    raw.length = 96 ∧ p384.IsScalar r ∧ p384.IsScalar s
  canonical : ∀ der, derOfRaw raw = .ok der → Signature.Encodes r s der
  lossless : ∀ der, derOfRaw raw = .ok der →
    ∃ sig, Signature.ofDer? p384 der = some sig ∧ sig.r = r ∧ sig.s = s
  verdict : ∀ key message, verifyRaw key message raw = .ok () ↔
    raw.length = 96 ∧ Verifies key message r s

theorem derOfRaw_reencoded (raw : Bytes) :
    Reencoded raw (Bytes.toNat (raw.take 48)) (Bytes.toNat (raw.drop 48)) where
  succeeds := by
    simp only [derOfRaw_eq_ok]
    rw [exists_comm]
    simp only [exists_and_left, exists_eq', and_true]
    exact Signature.exists_ofRaw?
  canonical der h := by
    obtain ⟨sig, hsig, rfl⟩ := derOfRaw_eq_ok.1 h
    obtain ⟨_, hr, hs⟩ := Signature.ofRaw?_eq_some.1 hsig
    have hencodes := Signature.encodes_toDer p384_compact sig
    rw [← hr, ← hs] at hencodes
    exact hencodes
  lossless der h := by
    obtain ⟨sig, hsig, rfl⟩ := derOfRaw_eq_ok.1 h
    obtain ⟨_, hr, hs⟩ := Signature.ofRaw?_eq_some.1 hsig
    exact ⟨sig, Signature.ofDer?_toDer p384_compact sig, hr.symm, hs.symm⟩
  verdict key message := by
    simp only [verifyRaw, bind_eq_ok, derOfRaw_eq_ok, verifyDer_eq_ok]
    constructor
    · rintro ⟨_, ⟨sig, hsig, rfl⟩, point, found, hpoint, hfound, hverify⟩
      rw [Signature.ofDer?_toDer p384_compact] at hfound
      obtain rfl := Option.some.inj hfound
      obtain ⟨hlength, hr, hs⟩ := Signature.ofRaw?_eq_some.1 hsig
      exact ⟨hlength, point, sig, hpoint, hr.symm, hs.symm, hverify⟩
    · rintro ⟨hlength, point, sig, hpoint, hr, hs, hverify⟩
      have hsig : Signature.ofRaw? p384 raw = some sig :=
        Signature.ofRaw?_eq_some.2 ⟨hlength, hr.symm, hs.symm⟩
      exact ⟨sig.toDer, ⟨sig, hsig, rfl⟩, point, sig, hpoint,
        Signature.ofDer?_toDer p384_compact sig, hverify⟩

/-- A scalar of one octet beside one that needs a zero before its octets. -/
example : (derOfRaw (List.replicate 47 0 ++ [0x01, 0x80] ++ List.replicate 47 0)).toOption =
    some ([0x30, 0x36, 0x02, 0x01, 0x01, 0x02, 0x31, 0x00, 0x80] ++ List.replicate 47 0) := by
  decide +kernel

end P384

end Attestation.Ecdsa
