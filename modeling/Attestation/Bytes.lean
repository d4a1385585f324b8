/-!
Byte strings, their reading as big-endian numbers, and their hexadecimal text.
-/
namespace Attestation

abbrev Bytes := List UInt8

namespace Bytes

/-- The number a byte string denotes, most significant byte first. -/
def toNat (bytes : Bytes) : Nat :=
  bytes.foldl (fun n b => n * 256 + b.toNat) 0

def ofNatOnto : Nat → Nat → Bytes → Bytes
  | 0, _, tail => tail
  | width + 1, n, tail => ofNatOnto width (n / 256) (UInt8.ofNat (n % 256) :: tail)

/-- The last `width` bytes of `n`, most significant byte first. -/
def ofNat (width n : Nat) : Bytes := ofNatOnto width n []

def takeExactly (n : Nat) (bytes : Bytes) : Option (Bytes × Bytes) :=
  if n ≤ bytes.length then some (bytes.splitAt n) else none

theorem takeExactly_append {n : Nat} {content : Bytes} (h : content.length = n) (rest : Bytes) :
    takeExactly n (content ++ rest) = some (content, rest) := by
  subst h
  simp [takeExactly]

theorem takeExactly_eq_some {n : Nat} {bytes content rest : Bytes}
    (h : takeExactly n bytes = some (content, rest)) :
    content.length = n ∧ bytes = content ++ rest := by
  unfold takeExactly at h
  split at h
  · rename_i hle
    rw [Option.some.injEq, List.splitAt_eq, Prod.mk.injEq] at h
    obtain ⟨rfl, rfl⟩ := h
    exact ⟨List.length_take_of_le hle, (List.take_append_drop n bytes).symm⟩
  · simp at h

/-- Bytewise exclusive or, as long as the shorter of the two. -/
def xor (a b : Bytes) : Bytes := a.zipWith (· ^^^ ·) b

theorem ofNatOnto_length (width n : Nat) (tail : Bytes) :
    (ofNatOnto width n tail).length = width + tail.length := by
  induction width generalizing n tail with
  | zero => simp [ofNatOnto]
  | succ w ih => simp [ofNatOnto, ih]; omega

theorem ofNat_length (width n : Nat) : (ofNat width n).length = width := by
  simp [ofNat, ofNatOnto_length]

theorem shiftLeft_octets_succ (n count : Nat) :
    n <<< (8 * (count + 1)) = (n * 256) <<< (8 * count) := by
  rw [Nat.mul_succ, Nat.add_comm, Nat.shiftLeft_add, Nat.shiftLeft_eq n 8]

theorem foldl_eq_toNat (bytes : Bytes) (start : Nat) :
    bytes.foldl (fun n b => n * 256 + b.toNat) start =
      start <<< (8 * bytes.length) + toNat bytes := by
  induction bytes generalizing start with
  | nil => simp [toNat]
  | cons b rest ih =>
    rw [toNat, List.foldl_cons, List.foldl_cons, ih, ih, List.length_cons, shiftLeft_octets_succ]
    simp only [Nat.shiftLeft_eq, Nat.zero_mul, Nat.zero_add, Nat.add_mul, Nat.add_assoc]

theorem toNat_cons (b : UInt8) (rest : Bytes) :
    toNat (b :: rest) = b.toNat <<< (8 * rest.length) + toNat rest := by
  rw [toNat, List.foldl_cons, foldl_eq_toNat, Nat.zero_mul, Nat.zero_add]

theorem toNat_lt (bytes : Bytes) : toNat bytes < 1 <<< (8 * bytes.length) := by
  induction bytes with
  | nil => simp [toNat]
  | cons b rest ih =>
    have hb : (b.toNat + 1) <<< (8 * rest.length) ≤ 256 <<< (8 * rest.length) := by
      rw [Nat.shiftLeft_eq, Nat.shiftLeft_eq]
      exact Nat.mul_le_mul_right _ b.toNat_lt
    have hstep : (b.toNat + 1) <<< (8 * rest.length) =
        b.toNat <<< (8 * rest.length) + 1 <<< (8 * rest.length) := by
      simp only [Nat.shiftLeft_eq, Nat.add_mul]
    rw [toNat_cons, List.length_cons, shiftLeft_octets_succ, Nat.one_mul]
    omega

theorem toNat_ofNatOnto (width n : Nat) (tail : Bytes) :
    toNat (ofNatOnto width n tail) =
      (n % 1 <<< (8 * width)) <<< (8 * tail.length) + toNat tail := by
  induction width generalizing n tail with
  | zero => simp [ofNatOnto, Nat.mod_one]
  | succ w ih =>
    have hb : (UInt8.ofNat (n % 256)).toNat = n % 256 := by simp
    have hw : n % 1 <<< (8 * (w + 1)) = n % 256 + 256 * (n / 256 % 1 <<< (8 * w)) := by
      rw [shiftLeft_octets_succ, Nat.shiftLeft_eq, Nat.one_mul, Nat.mod_mul, Nat.shiftLeft_eq,
        Nat.one_mul]
    rw [ofNatOnto, ih, toNat_cons, hb, hw, List.length_cons, shiftLeft_octets_succ]
    simp only [Nat.shiftLeft_eq, Nat.add_mul]
    rw [Nat.mul_comm 256]
    omega

/-- Nothing is lost of a number that fits. -/
theorem toNat_ofNat {width n : Nat} (h : n < 1 <<< (8 * width)) :
    toNat (ofNat width n) = n := by
  rw [ofNat, toNat_ofNatOnto, Nat.mod_eq_of_lt h]
  simp [toNat]

end Bytes

namespace Hex

def digitChar (n : Nat) : Char :=
  if n < 10 then Char.ofNat (48 + n) else Char.ofNat (87 + n)

def digitValue? (c : Char) : Option Nat :=
  if '0' ≤ c ∧ c ≤ '9' then some (c.toNat - 48)
  else if 'a' ≤ c ∧ c ≤ 'f' then some (c.toNat - 87)
  else if 'A' ≤ c ∧ c ≤ 'F' then some (c.toNat - 55)
  else none

def encodeByte (b : UInt8) : List Char :=
  [digitChar (b.toNat / 16), digitChar (b.toNat % 16)]

/-- Two lower-case digits for each byte. -/
def encode (bytes : Bytes) : String :=
  String.ofList (bytes.flatMap encodeByte)

def decodeChars : List Char → Option Bytes
  | [] => some []
  | [_] => none
  | a :: b :: rest => do
    let high ← digitValue? a
    let low ← digitValue? b
    let tail ← decodeChars rest
    return UInt8.ofNat (16 * high + low) :: tail

def decode? (text : String) : Option Bytes := decodeChars text.toList

/-- The digits of a number without leading zeros. -/
def ofNat (n : Nat) : String := String.ofList (Nat.toDigits 16 n)

end Hex

end Attestation
