import Attestation.Base64

/-!
Reading back what is written in base64, with and without padding. Different byte strings therefore
have different texts, and without padding what can be read is what is written: no byte string has a
second text.
-/
namespace Attestation.Base64

/-- Every digit reads back as itself, and the padding is no digit. -/
structure Alphabet.Lawful (a : Alphabet) : Prop where
  value?_digit : ∀ n < 64, a.value? (a.digit n) = some n
  value?_padding : a.value? '=' = none

theorem standard_lawful : standard.Lawful := ⟨by decide, by decide⟩

theorem urlSafe_lawful : urlSafe.Lawful := ⟨by decide, by decide⟩

theorem sextets_lt (bytes : Bytes) : ∀ n ∈ sextets bytes, n < 64 := by
  fun_induction sextets bytes with
  | case1 => simp
  | case2 a =>
    have := a.toNat_lt
    simp only [List.forall_mem_cons, List.not_mem_nil, false_imp_iff, implies_true, and_true]
    omega
  | case3 a b =>
    have := a.toNat_lt
    have := b.toNat_lt
    simp only [List.forall_mem_cons, List.not_mem_nil, false_imp_iff, implies_true, and_true]
    omega
  | case4 a b c rest ih =>
    have := a.toNat_lt
    have := b.toNat_lt
    have := c.toNat_lt
    simp only [List.forall_mem_cons]
    refine ⟨?_, ?_, ?_, ?_, ih⟩ <;> omega

theorem ofNat_eq {b : UInt8} {n : Nat} (h : n = b.toNat) : UInt8.ofNat n = b := by
  rw [h, UInt8.ofNat_toNat]

theorem ofSextets?_sextets (bytes : Bytes) : ofSextets? (sextets bytes) = some bytes := by
  fun_induction sextets bytes with
  | case1 => rfl
  | case2 a =>
    have ha : UInt8.ofNat (a.toNat / 4 * 4 + a.toNat % 4 * 16 / 16) = a := ofNat_eq (by omega)
    have hfill : a.toNat % 4 * 16 % 16 = 0 := by omega
    simp only [ofSextets?, hfill, if_true, ha]
  | case3 a b =>
    have := b.toNat_lt
    have ha : UInt8.ofNat (a.toNat / 4 * 4 + (a.toNat % 4 * 16 + b.toNat / 16) / 16) = a :=
      ofNat_eq (by omega)
    have hb : UInt8.ofNat ((a.toNat % 4 * 16 + b.toNat / 16) % 16 * 16 + b.toNat % 16 * 4 / 4) =
        b := ofNat_eq (by omega)
    have hfill : b.toNat % 16 * 4 % 4 = 0 := by omega
    simp only [ofSextets?, hfill, if_true, ha, hb]
  | case4 a b c rest ih =>
    have := b.toNat_lt
    have := c.toNat_lt
    have ha : UInt8.ofNat (a.toNat / 4 * 4 + (a.toNat % 4 * 16 + b.toNat / 16) / 16) = a :=
      ofNat_eq (by omega)
    have hb : UInt8.ofNat ((a.toNat % 4 * 16 + b.toNat / 16) % 16 * 16 +
        (b.toNat % 16 * 4 + c.toNat / 64) / 4) = b := ofNat_eq (by omega)
    have hc : UInt8.ofNat ((b.toNat % 16 * 4 + c.toNat / 64) % 4 * 64 + c.toNat % 64) = c :=
      ofNat_eq (by omega)
    simp only [ofSextets?, ih, Option.map_some, ha, hb, hc]

theorem mapM_value?_digits {a : Alphabet} (ha : a.Lawful) {values : List Nat}
    (h : ∀ n ∈ values, n < 64) : (values.map a.digit).mapM a.value? = some values := by
  induction values with
  | nil => rfl
  | cons n rest ih =>
    rw [List.forall_mem_cons] at h
    simp [ha.value?_digit n h.1, ih h.2]

theorem decodeUnpadded?_encodeChars {a : Alphabet} (ha : a.Lawful) (bytes : Bytes) :
    decodeUnpadded? a (encodeChars a bytes) = some bytes := by
  simp [decodeUnpadded?, encodeChars, mapM_value?_digits ha (sextets_lt bytes),
    ofSextets?_sextets]

theorem encodeChars_eq_nil {a : Alphabet} {bytes : Bytes} :
    encodeChars a bytes = [] ↔ bytes = [] := by
  fun_cases sextets bytes <;> simp [encodeChars, sextets]

theorem exists_value?_of_mem {a : Alphabet} (ha : a.Lawful) {bytes : Bytes} {c : Char}
    (h : c ∈ encodeChars a bytes) : ∃ n, a.value? c = some n := by
  obtain ⟨n, hn, rfl⟩ := List.mem_map.1 h
  exact ⟨n, ha.value?_digit n (sextets_lt bytes n hn)⟩

theorem not_mem_encodeChars {a : Alphabet} (ha : a.Lawful) {c : Char} (hc : a.value? c = none)
    (bytes : Bytes) : c ∉ encodeChars a bytes := by
  intro h
  obtain ⟨n, hn⟩ := exists_value?_of_mem ha h
  rw [hc] at hn
  cases hn

theorem decode?_encode {a : Alphabet} (ha : a.Lawful) (bytes : Bytes) :
    decode? a (encode a bytes).toList = some bytes := by
  have hdigits : ∀ c ∈ encodeChars a bytes, decide (c ≠ '=') = true := by
    intro c hc
    have hne : c ≠ '=' := fun h => not_mem_encodeChars ha ha.value?_padding bytes (h ▸ hc)
    simpa using hne
  have htake : ∀ count, (encodeChars a bytes ++ padding count).takeWhile (· ≠ '=') =
      encodeChars a bytes := by
    intro count
    rw [List.takeWhile_append_of_pos hdigits, padding, List.takeWhile_replicate]
    simp
  have hdrop : ∀ count, (encodeChars a bytes ++ padding count).dropWhile (· ≠ '=') =
      padding count := by
    intro count
    rw [List.dropWhile_append_of_pos hdigits, padding, List.dropWhile_replicate]
    simp
  simp only [decode?, encode, String.toList_ofList, htake, hdrop, if_true]
  exact decodeUnpadded?_encodeChars ha bytes

theorem encode_inj {a : Alphabet} (ha : a.Lawful) {x y : Bytes} :
    encode a x = encode a y ↔ x = y := by
  constructor
  · intro h
    have hread := decode?_encode ha x
    rw [h, decode?_encode ha y] at hread
    exact (Option.some.inj hread).symm
  · intro h
    rw [h]

/-! What can be read without padding. -/

theorem digit_of_value? {a : Alphabet} {c : Char} {n : Nat} (h : a.value? c = some n) :
    a.digit n = c ∧ n < 64 := by
  have hback {k : Nat} (hk : k = c.toNat) : Char.ofNat k = c := by rw [hk, Char.ofNat_toNat]
  unfold Alphabet.value? at h
  unfold Alphabet.digit
  -- One case for each range of digits.
  by_cases hupper : 'A' ≤ c ∧ c ≤ 'Z'
  · have hbounds : 65 ≤ c.toNat ∧ c.toNat ≤ 90 := hupper
    rw [if_pos hupper, Option.some.injEq] at h
    rw [if_pos (by omega)]
    exact ⟨hback (by omega), by omega⟩
  rw [if_neg hupper] at h
  by_cases hlower : 'a' ≤ c ∧ c ≤ 'z'
  · have hbounds : 97 ≤ c.toNat ∧ c.toNat ≤ 122 := hlower
    rw [if_pos hlower, Option.some.injEq] at h
    rw [if_neg (by omega), if_pos (by omega)]
    exact ⟨hback (by omega), by omega⟩
  rw [if_neg hlower] at h
  by_cases hdecimal : '0' ≤ c ∧ c ≤ '9'
  · have hbounds : 48 ≤ c.toNat ∧ c.toNat ≤ 57 := hdecimal
    rw [if_pos hdecimal, Option.some.injEq] at h
    rw [if_neg (by omega), if_neg (by omega), if_pos (by omega)]
    exact ⟨hback (by omega), by omega⟩
  rw [if_neg hdecimal] at h
  by_cases h62 : c = a.digit62
  · obtain rfl : 62 = n := by simpa [h62] using h
    exact ⟨h62.symm, by decide⟩
  · obtain ⟨h63, rfl⟩ : c = a.digit63 ∧ 63 = n := by simpa [h62] using h
    exact ⟨h63.symm, by decide⟩

theorem digits_of_mapM_value? {a : Alphabet} {text : List Char} {values : List Nat}
    (h : text.mapM a.value? = some values) :
    values.map a.digit = text ∧ ∀ n ∈ values, n < 64 := by
  induction text generalizing values with
  | nil =>
    obtain rfl : values = [] := by simpa using h.symm
    exact ⟨rfl, by simp⟩
  | cons c text ih =>
    simp only [List.mapM_cons, Option.bind_eq_bind, Option.bind_eq_some_iff, Option.pure_def,
      Option.some.injEq] at h
    obtain ⟨n, hn, rest, hrest, rfl⟩ := h
    obtain ⟨hdigit, hlt⟩ := digit_of_value? hn
    obtain ⟨hdigits, hlts⟩ := ih hrest
    rw [List.map_cons, hdigit, hdigits, List.forall_mem_cons]
    exact ⟨rfl, hlt, hlts⟩

theorem sextets_of_ofSextets? {values : List Nat} {bytes : Bytes} (hlt : ∀ n ∈ values, n < 64)
    (h : ofSextets? values = some bytes) : sextets bytes = values := by
  fun_induction ofSextets? values generalizing bytes with
  | case1 =>
    obtain rfl := Option.some.inj h
    rfl
  | case2 => cases h
  | case3 a b hfill =>
    obtain rfl := Option.some.inj h
    simp only [List.forall_mem_cons] at hlt
    simp only [sextets, UInt8.toNat_ofNat', List.cons.injEq, and_true]
    omega
  | case4 => cases h
  | case5 a b c hfill =>
    obtain rfl := Option.some.inj h
    simp only [List.forall_mem_cons] at hlt
    simp only [sextets, UInt8.toNat_ofNat', List.cons.injEq, and_true]
    omega
  | case6 => cases h
  | case7 a b c d rest ih =>
    obtain ⟨tail, htail, rfl⟩ := Option.map_eq_some_iff.1 h
    simp only [List.forall_mem_cons] at hlt
    obtain ⟨ha, hb, hc, hd, hrest⟩ := hlt
    simp only [sextets, ih hrest htail, UInt8.toNat_ofNat', List.cons.injEq, and_true]
    omega

/-- Without padding every byte string has one text. -/
theorem decodeUnpadded?_eq_some {a : Alphabet} (ha : a.Lawful) {text : List Char} {bytes : Bytes} :
    decodeUnpadded? a text = some bytes ↔ text = encodeChars a bytes := by
  constructor
  · intro h
    obtain ⟨values, hvalues, hbytes⟩ := Option.bind_eq_some_iff.1 h
    obtain ⟨hdigits, hlt⟩ := digits_of_mapM_value? hvalues
    rw [encodeChars, sextets_of_ofSextets? hlt hbytes, hdigits]
  · intro h
    rw [h, decodeUnpadded?_encodeChars ha]

end Attestation.Base64
