import Attestation.Text.Utf8

/-!
Reading back what is written in UTF-8: the first byte of a character says how many bytes belong to
it. Different texts therefore have different encodings.
-/
namespace Attestation.Utf8

theorem toNat_ofNat_of_lt {n : Nat} (h : n < 256) : (UInt8.ofNat n).toNat = n := by
  rw [UInt8.toNat_ofNat', Nat.mod_eq_of_lt h]

theorem continuation?_ofNat {x : Nat} (h : x < 0x40) :
    continuation? (UInt8.ofNat (0x80 + x)) = some x := by
  rw [continuation?, toNat_ofNat_of_lt (by omega), if_pos (by omega), Nat.add_sub_cancel_left]

theorem scalar?_toNat {least n : Nat} {c : Char} (hn : n = c.toNat) (h : least ≤ c.toNat) :
    scalar? least n = some c := by
  rw [scalar?, hn, if_pos ⟨h, c.valid⟩, Char.ofNat_toNat]

/-! The bytes of a character, by their number. -/

theorem decodeChar?_one {a : Nat} (ha : a < 0x80) (rest : Bytes) :
    decodeChar? (UInt8.ofNat a :: rest) = some (Char.ofNat a, rest) := by
  unfold decodeChar?
  simp only [toNat_ofNat_of_lt (Nat.lt_trans ha (by decide)), ha, if_true]

theorem decodeChar?_two {a x : Nat} (ha : a < 0x20) (hx : x < 0x40) (rest : Bytes) :
    decodeChar? (UInt8.ofNat (0xc0 + a) :: UInt8.ofNat (0x80 + x) :: rest) =
      (scalar? 0x80 (a * 0x40 + x)).map (·, rest) := by
  unfold decodeChar?
  dsimp only
  rw [toNat_ofNat_of_lt (by omega), if_neg (by omega), if_neg (by omega), if_pos (by omega),
    continuation?_ofNat hx, Nat.add_sub_cancel_left]
  exact Option.map_eq_bind.symm

theorem decodeChar?_three {a x y : Nat} (ha : a < 0x10) (hx : x < 0x40) (hy : y < 0x40)
    (rest : Bytes) :
    decodeChar? (UInt8.ofNat (0xe0 + a) :: UInt8.ofNat (0x80 + x) :: UInt8.ofNat (0x80 + y) ::
        rest) = (scalar? 0x800 ((a * 0x40 + x) * 0x40 + y)).map (·, rest) := by
  unfold decodeChar?
  dsimp only
  rw [toNat_ofNat_of_lt (by omega), if_neg (by omega), if_neg (by omega), if_neg (by omega),
    if_pos (by omega), continuation?_ofNat hx, continuation?_ofNat hy, Nat.add_sub_cancel_left]
  exact Option.map_eq_bind.symm

theorem decodeChar?_four {a x y z : Nat} (ha : a < 0x08) (hx : x < 0x40) (hy : y < 0x40)
    (hz : z < 0x40) (rest : Bytes) :
    decodeChar? (UInt8.ofNat (0xf0 + a) :: UInt8.ofNat (0x80 + x) :: UInt8.ofNat (0x80 + y) ::
        UInt8.ofNat (0x80 + z) :: rest) =
      (scalar? 0x10000 (((a * 0x40 + x) * 0x40 + y) * 0x40 + z)).map (·, rest) := by
  unfold decodeChar?
  dsimp only
  rw [toNat_ofNat_of_lt (by omega), if_neg (by omega), if_neg (by omega), if_neg (by omega),
    if_neg (by omega), if_pos (by omega), continuation?_ofNat hx, continuation?_ofNat hy,
    continuation?_ofNat hz, Nat.add_sub_cancel_left]
  exact Option.map_eq_bind.symm

theorem toNat_lt_planes (c : Char) : c.toNat < 0x110000 := by
  have hvalid := c.valid
  simp only [UInt32.isValidChar, Nat.isValidChar] at hvalid
  change c.val.toNat < 0x110000
  omega

theorem decodeChar?_encodeChar (c : Char) (rest : Bytes) :
    decodeChar? (encodeChar c ++ rest) = some (c, rest) := by
  have hc := toNat_lt_planes c
  unfold encodeChar
  dsimp only
  -- One case for each number of bytes.
  by_cases h₁ : c.toNat < 0x80
  · rw [if_pos h₁, List.singleton_append, decodeChar?_one h₁, Char.ofNat_toNat]
  by_cases h₂ : c.toNat < 0x800
  · rw [if_neg h₁, if_pos h₂]
    simp only [List.cons_append, List.nil_append]
    rw [decodeChar?_two (by omega) (by omega), scalar?_toNat (c := c) (by omega) (by omega)]
    rfl
  by_cases h₃ : c.toNat < 0x10000
  · rw [if_neg h₁, if_neg h₂, if_pos h₃]
    simp only [List.cons_append, List.nil_append]
    rw [decodeChar?_three (by omega) (by omega) (by omega),
      scalar?_toNat (c := c) (by omega) (by omega)]
    rfl
  · rw [if_neg h₁, if_neg h₂, if_neg h₃]
    simp only [List.cons_append, List.nil_append]
    rw [decodeChar?_four (by omega) (by omega) (by omega) (by omega),
      scalar?_toNat (c := c) (by omega) (by omega)]
    rfl

/-! Texts. -/

theorem encodeChar_ne_nil (c : Char) : encodeChar c ≠ [] := by
  intro h
  have hread := decodeChar?_encodeChar c []
  rw [h] at hread
  cases hread

theorem encodeChars_cons (c : Char) (cs : List Char) :
    encodeChars (c :: cs) = encodeChar c ++ encodeChars cs := rfl

theorem encodeChars_cons_ne_nil (c : Char) (cs : List Char) : encodeChars (c :: cs) ≠ [] :=
  List.append_ne_nil_of_left_ne_nil (encodeChar_ne_nil c) _

theorem length_le_encodeChars (cs : List Char) : cs.length ≤ (encodeChars cs).length := by
  induction cs with
  | nil => exact Nat.le_refl 0
  | cons c cs ih =>
    have hpos := List.length_pos_iff.2 (encodeChar_ne_nil c)
    rw [encodeChars_cons, List.length_append, List.length_cons]
    omega

theorem decodeWithin_encodeChars {cs : List Char} {fuel : Nat} (h : cs.length ≤ fuel) :
    decodeWithin fuel (encodeChars cs) = some cs := by
  induction cs generalizing fuel with
  | nil => cases fuel <;> rfl
  | cons c cs ih =>
    obtain ⟨fuel, rfl⟩ := Nat.exists_eq_add_one_of_ne_zero (show fuel ≠ 0 by rintro rfl; cases h)
    rw [decodeWithin, encodeChars_cons, decodeChar?_encodeChar]
    · simp only [ih (Nat.le_of_succ_le_succ h), Option.map_some]
    · exact encodeChars_cons_ne_nil c cs

theorem decodeChars?_encodeChars (cs : List Char) : decodeChars? (encodeChars cs) = some cs :=
  decodeWithin_encodeChars (length_le_encodeChars cs)

theorem encodeChars_inj {xs ys : List Char} : encodeChars xs = encodeChars ys ↔ xs = ys := by
  refine ⟨fun h => ?_, congrArg encodeChars⟩
  have hread := decodeChars?_encodeChars xs
  rw [h, decodeChars?_encodeChars] at hread
  exact (Option.some.inj hread).symm

theorem encode_inj {s t : String} : encode s = encode t ↔ s = t := by
  rw [encode, encode, encodeChars_inj, String.toList_inj]

end Attestation.Utf8
