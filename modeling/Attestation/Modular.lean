/-!
Arithmetic modulo a number on representatives below it.
-/
namespace Attestation.Modular

def powWithin : Nat → Nat → Nat → Nat → Nat
  | 0, m, _, _ => 1 % m
  | bits + 1, m, base, e =>
    if e = 0 then 1 % m
    else
      let rest := powWithin bits m (base * base % m) (e / 2)
      if e % 2 = 1 then base * rest % m else rest

/-- `base ^ e` modulo `m`, by repeated squaring. -/
def pow (m base e : Nat) : Nat := powWithin (e.log2 + 1) m (base % m) e

def sub (m a b : Nat) : Nat := (a + (m - b % m)) % m

/-- The inverse modulo a prime; zero has none and gives zero. -/
def inv (p a : Nat) : Nat := pow p a (p - 2)

/-- A square root modulo a prime that is three modulo four. -/
def sqrt? (p a : Nat) : Option Nat :=
  let r := pow p a ((p + 1) / 4)
  if r * r % p = a % p then some r else none

theorem powWithin_eq (bits m base e : Nat) (h : e < 1 <<< bits) :
    powWithin bits m base e = Nat.pow base e % m := by
  rw [Nat.pow_eq]
  induction bits generalizing base e with
  | zero => simp_all [powWithin]
  | succ n ih =>
    unfold powWithin
    split
    · simp_all
    · have hhalf : e / 2 < 1 <<< n := by
        rw [Nat.shiftLeft_succ] at h
        omega
      simp only [ih _ _ hhalf]
      have hsq : (base * base % m) ^ (e / 2) % m = base ^ (2 * (e / 2)) % m := by
        rw [← Nat.pow_mod, Nat.pow_mul, Nat.pow_two]
      split
      · rename_i hodd
        have he : base ^ e = base * base ^ (2 * (e / 2)) := by
          rw [← Nat.pow_succ']
          congr 1
          omega
        rw [hsq, he, Nat.mul_mod, Nat.mod_mod, ← Nat.mul_mod]
      · rename_i heven
        have he : 2 * (e / 2) = e := by omega
        rw [hsq, he]

theorem pow_eq (m base e : Nat) : pow m base e = Nat.pow base e % m := by
  have h : e < 1 <<< (e.log2 + 1) := by
    rw [Nat.shiftLeft_eq, Nat.one_mul]
    exact Nat.lt_log2_self
  rw [pow, powWithin_eq _ _ _ _ h, Nat.pow_eq, Nat.pow_eq, ← Nat.pow_mod]

end Attestation.Modular
