import Attestation.Der

/-!
Object identifiers: sequences of numbers that name algorithms and attributes.
-/
namespace Attestation

/-- An object identifier by the octets of its encoding. -/
structure ObjectId where
  octets : Bytes
  deriving DecidableEq, Repr

namespace ObjectId

/-- Reads the arcs after the first two, seven bits in an octet. An arc has at most five octets, and
the fifth one is below sixteen. -/
def arcs? : Nat → Nat → Bytes → Option (List Nat)
  | 0, _, [] => some []
  | _, _, [] => none
  | count, value, b :: rest =>
    if 4 ≤ count ∧ 16 ≤ b.toNat then none
    else
      let value := (value * 128 + b.toNat % 128) % (1 <<< 32)
      if b.toNat < 128 then (arcs? 0 0 rest).map (value :: ·) else arcs? (count + 1) value rest

/-- The numbers of an identifier; the first octet holds the first two. -/
def numbers? (id : ObjectId) : Option (List Nat) :=
  match id.octets with
  | [] => none
  | first :: rest =>
    if first.toNat < 120 then
      (arcs? 0 0 rest).map fun arcs => first.toNat / 40 :: first.toNat % 40 :: arcs
    else none

/-- Identifiers have from three to thirty-nine octets. -/
def ofOctets? (octets : Bytes) : Option ObjectId :=
  if 3 ≤ octets.length ∧ octets.length ≤ 39 then
    let id : ObjectId := ⟨octets⟩
    id.numbers?.map fun _ => id
  else none

/-- The numbers separated by dots. -/
def text (id : ObjectId) : String :=
  ".".intercalate ((id.numbers?.getD []).map toString)

def element (id : ObjectId) : Der.Element := ⟨Der.objectIdentifier, id.octets⟩

def ofElement? (e : Der.Element) : Option ObjectId :=
  e.expect? Der.objectIdentifier >>= ofOctets?

/-- The octets of a number before its last one, seven bits in each. -/
def leadingOctets : Nat → Nat → Bytes
  | 0, _ => []
  | width + 1, n =>
    if n = 0 then [] else leadingOctets width (n / 128) ++ [UInt8.ofNat (128 + n % 128)]

/-- The octets of an arc after the first two, without leading zeros. -/
def arcOctets (n : Nat) : Bytes := leadingOctets 4 (n / 128) ++ [UInt8.ofNat (n % 128)]

/-- The identifier with the given numbers, in its shortest encoding. -/
def ofNumbers : List Nat → ObjectId
  | a :: b :: rest => ⟨UInt8.ofNat (40 * a + b) :: rest.flatMap arcOctets⟩
  | _ => ⟨[]⟩

theorem arcs?_last (count value b : Nat) (rest : Bytes) (hb : b < 128) (hc : count < 4) :
    arcs? count value (UInt8.ofNat b :: rest) =
      (arcs? 0 0 rest).map ((value * 128 + b) % (1 <<< 32) :: ·) := by
  have h : (UInt8.ofNat b).toNat = b := UInt8.toNat_ofNat_of_lt' (Nat.lt_trans hb (by decide))
  rw [arcs?.eq_def]
  simp only [h]
  rw [if_neg (by omega), if_pos hb, Nat.mod_eq_of_lt hb]

theorem arcs?_leading (count value b : Nat) (rest : Bytes) (hb : b < 128) (hc : count < 4) :
    arcs? count value (UInt8.ofNat (128 + b) :: rest) =
      arcs? (count + 1) ((value * 128 + b) % (1 <<< 32)) rest := by
  have h : (UInt8.ofNat (128 + b)).toNat = 128 + b :=
    UInt8.toNat_ofNat_of_lt' (show 128 + b < 256 by omega)
  rw [arcs?.eq_def]
  simp only [h]
  rw [if_neg (by omega), if_neg (by omega), Nat.add_mod_left, Nat.mod_eq_of_lt hb]

theorem regroup {n : Nat} (h : n < 1 <<< 32) : (n / 128 * 128 + n % 128) % (1 <<< 32) = n := by
  rw [Nat.div_add_mod', Nat.mod_eq_of_lt h]

theorem arcs?_leadingOctets {k : Nat} (hk : k ≤ 3) (width m : Nat) (hw : k ≤ width)
    (hm : m < 1 <<< (7 * k)) (rest : Bytes) :
    ∃ count ≤ k, arcs? 0 0 (leadingOctets width m ++ rest) = arcs? count m rest := by
  induction k generalizing width m rest with
  | zero =>
    obtain rfl : m = 0 := by omega
    exact ⟨0, Nat.le_refl 0, by cases width <;> simp [leadingOctets]⟩
  | succ k ih =>
    obtain ⟨width, rfl⟩ : ∃ w, width = w + 1 := ⟨width - 1, by omega⟩
    by_cases h0 : m = 0
    · exact ⟨0, Nat.zero_le _, by simp [leadingOctets, h0]⟩
    · have hm' : m < 128 * 1 <<< (7 * k) := by
        rw [Nat.mul_succ, Nat.add_comm, Nat.shiftLeft_add] at hm
        simpa only [Nat.shiftLeft_eq, Nat.one_mul] using hm
      have hbound : 1 <<< (7 * k) ≤ 1 <<< 14 := by
        rw [Nat.shiftLeft_eq, Nat.shiftLeft_eq]
        exact Nat.mul_le_mul_left 1 (Nat.pow_le_pow_right (by decide) (by omega))
      obtain ⟨count, hcount, h⟩ := ih (by omega) width (m / 128) (by omega)
        (Nat.div_lt_of_lt_mul hm')
        (UInt8.ofNat (128 + m % 128) :: rest)
      refine ⟨count + 1, by omega, ?_⟩
      rw [leadingOctets, if_neg h0, List.append_assoc, List.singleton_append, h,
        arcs?_leading _ _ _ _ (Nat.mod_lt _ (by decide)) (by omega), regroup (by omega)]

/-- What is written for an arc is read as that arc. -/
theorem arcs?_arcOctets (n : Nat) (hn : n < 1 <<< 28) (rest : Bytes) :
    arcs? 0 0 (arcOctets n ++ rest) = (arcs? 0 0 rest).map (n :: ·) := by
  obtain ⟨count, hcount, h⟩ := arcs?_leadingOctets (Nat.le_refl 3) 4 (n / 128) (by decide)
    (by omega) (UInt8.ofNat (n % 128) :: rest)
  rw [arcOctets, List.append_assoc, List.singleton_append, h,
    arcs?_last _ _ _ _ (Nat.mod_lt _ (by decide)) (by omega), regroup (by omega)]

theorem arcs?_flatMap (arcs : List Nat) (h : ∀ n ∈ arcs, n < 1 <<< 28) :
    arcs? 0 0 (arcs.flatMap arcOctets) = some arcs := by
  induction arcs with
  | nil => rfl
  | cons n arcs ih =>
    rw [List.flatMap_cons, arcs?_arcOctets n (h n (by simp)), ih fun m hm => h m (by simp [hm])]
    rfl

/-- The numbers that an identifier is made of are read back from it. -/
theorem numbers?_ofNumbers (a b : Nat) (arcs : List Nat) (ha : a < 3) (hb : b < 40)
    (h : ∀ n ∈ arcs, n < 1 <<< 28) :
    (ofNumbers (a :: b :: arcs)).numbers? = some (a :: b :: arcs) := by
  have hf : (UInt8.ofNat (40 * a + b)).toNat = 40 * a + b :=
    UInt8.toNat_ofNat_of_lt' (show 40 * a + b < 256 by omega)
  rw [numbers?, ofNumbers]
  simp only [hf]
  rw [if_pos (by omega), arcs?_flatMap arcs h]
  simp only [Option.map_some, Option.some.injEq, List.cons.injEq, and_true]
  omega

end ObjectId

end Attestation
