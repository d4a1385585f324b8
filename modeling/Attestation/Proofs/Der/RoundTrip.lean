import Attestation.Der

/-!
Reading back elements whose length fits into one octet, and the octets of integers that are not
negative: the shortest ones, with a zero before them where they would read as a negative number.
-/
namespace Attestation.Der

/-! Elements. -/

/-- An element that has a type and whose length stands in a single octet. -/
structure Element.Short (e : Element) : Prop where
  tag : isTag e.tag = true
  length : e.content.length < 128

variable {e : Element} {es : List Element}

theorem Element.Short.encode_eq (h : e.Short) :
    e.encode = e.tag :: UInt8.ofNat e.content.length :: e.content := by
  simp only [Element.encode, encodeLength, if_pos h.length, List.cons_append, List.nil_append]

theorem Element.Short.read (h : e.Short) (rest : Bytes) :
    element? (e.encode ++ rest) = some (e, rest) := by
  have hlength : (UInt8.ofNat e.content.length).toNat = e.content.length := by
    have := h.length
    rw [UInt8.toNat_ofNat']
    omega
  rw [h.encode_eq, List.cons_append, List.cons_append]
  simp only [element?, if_pos h.tag, length?, hlength, if_pos h.length, Option.bind_eq_bind,
    Option.bind_some, Bytes.takeExactly_append rfl, Option.pure_def]

theorem single?_encode (h : e.Short) : single? e.encode = some e := by
  have hread := h.read []
  rw [List.append_nil] at hread
  rw [single?, hread]

theorem elementsWithin_encodeAll (h : ∀ e ∈ es, e.Short) {fuel : Nat} (hfuel : es.length ≤ fuel) :
    elementsWithin fuel (encodeAll es) = some es := by
  induction es generalizing fuel with
  | nil => cases fuel <;> rfl
  | cons e es ih =>
    obtain ⟨he, hes⟩ := List.forall_mem_cons.1 h
    obtain ⟨n, rfl⟩ : ∃ n, fuel = n + 1 := ⟨fuel - 1, by simp at hfuel; omega⟩
    have hread := he.read (encodeAll es)
    have hrest := ih hes (Nat.le_of_succ_le_succ hfuel)
    rw [he.encode_eq, List.cons_append] at hread
    rw [encodeAll, List.flatMap_cons, he.encode_eq, List.cons_append, elementsWithin]
    · rw [encodeAll] at hread hrest
      rw [hread]
      simp only [Option.bind_eq_bind, Option.bind_some, hrest, Option.pure_def]
    · simp

theorem length_le_encodeAll (es : List Element) : es.length ≤ (encodeAll es).length := by
  induction es with
  | nil => simp [encodeAll]
  | cons e es ih =>
    have hstep : (encodeAll (e :: es)).length = e.encode.length + (encodeAll es).length := by
      simp [encodeAll]
    rw [hstep, Element.encode, List.length_cons, List.length_cons]
    omega

theorem elements?_encodeAll (h : ∀ e ∈ es, e.Short) : elements? (encodeAll es) = some es :=
  elementsWithin_encodeAll h (length_le_encodeAll es)

theorem inside?_construct (tag : UInt8) (h : ∀ e ∈ es, e.Short) :
    (construct tag es).inside? tag = some es := by
  simp only [construct, Element.inside?, Element.expect?, if_true, Option.bind_eq_bind,
    Option.bind_some]
  exact elements?_encodeAll h

/-! Integers. -/

/-- The octets of a positive integer. -/
inductive IntegerOctets (n : Nat) : Bytes → Prop where
  | plain (b : UInt8) (rest : Bytes) (hleading : b ≠ 0) (hsign : b.toNat < 0x80)
      (hvalue : Bytes.toNat (b :: rest) = n) : IntegerOctets n (b :: rest)
  | padded (b : UInt8) (rest : Bytes) (hsign : 0x80 ≤ b.toNat)
      (hvalue : Bytes.toNat (b :: rest) = n) : IntegerOctets n (0 :: b :: rest)

theorem toNat_zero_cons (bytes : Bytes) : Bytes.toNat (0 :: bytes) = Bytes.toNat bytes := by
  simp [Bytes.toNat_cons]

theorem IntegerOctets.unsigned? {n : Nat} {content : Bytes} (h : IntegerOctets n content) :
    unsigned? content = some n := by
  cases h with
  | plain b rest hleading hsign hvalue =>
    have hnegative : b ≠ 0xff := by
      rintro rfl
      exact absurd hsign (by decide)
    have hminimal : isMinimal (b :: rest) = true := by
      cases rest with
      | nil => rfl
      | cons c rest => simp [isMinimal, hleading, hnegative]
    simp [Der.unsigned?, hminimal, hsign, hvalue]
  | padded b rest hsign hvalue =>
    have hminimal : isMinimal (0 :: b :: rest) = true := by simp [isMinimal, hsign]
    simp [Der.unsigned?, hminimal, toNat_zero_cons, hvalue]

theorem toNat_stripZeros (bytes : Bytes) : Bytes.toNat (stripZeros bytes) = Bytes.toNat bytes := by
  induction bytes with
  | nil => rfl
  | cons b rest ih =>
    rw [stripZeros, List.dropWhile_cons]
    split
    · rename_i hzero
      obtain rfl : b = 0 := eq_of_beq hzero
      rw [toNat_zero_cons]
      exact ih
    · rfl

theorem stripZeros_leading {b : UInt8} {bytes rest : Bytes} (h : stripZeros bytes = b :: rest) :
    b ≠ 0 := by
  rintro rfl
  have hhead := List.head?_dropWhile_not (· == (0 : UInt8)) bytes
  rw [stripZeros] at h
  simp [h] at hhead

theorem unsigned_tag (bytes : Bytes) : (unsigned bytes).tag = integer := by
  unfold unsigned
  split <;> rfl

theorem unsigned_length (bytes : Bytes) :
    (unsigned bytes).content.length ≤ bytes.length + 1 := by
  have hstrip : (stripZeros bytes).length ≤ bytes.length := (List.dropWhile_sublist _).length_le
  unfold unsigned
  split
  · simp
  · rename_i b rest hbytes
    rw [hbytes, List.length_cons] at hstrip
    dsimp only
    split <;> simp only [List.length_cons] <;> omega

theorem integerOctets_unsigned {bytes : Bytes} (h : 0 < Bytes.toNat bytes) :
    IntegerOctets (Bytes.toNat bytes) (unsigned bytes).content := by
  have hvalue := toNat_stripZeros bytes
  unfold unsigned
  split
  · rename_i hnil
    rw [hnil] at hvalue
    exact absurd hvalue (Nat.ne_of_lt h)
  · rename_i b rest hbytes
    rw [hbytes] at hvalue
    dsimp only
    split
    · rename_i hsign
      exact .plain b rest (stripZeros_leading hbytes) hsign hvalue
    · rename_i hsign
      exact .padded b rest (Nat.not_lt.1 hsign) hvalue

theorem short_unsigned {bytes : Bytes} (h : bytes.length < 127) : (unsigned bytes).Short where
  tag := by rw [unsigned_tag]; rfl
  length := Nat.lt_of_le_of_lt (unsigned_length bytes) (Nat.succ_lt_succ h)

end Attestation.Der
