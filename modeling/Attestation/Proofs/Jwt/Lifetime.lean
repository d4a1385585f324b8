import Attestation.Proofs.Jwt.Identity
import Attestation.VerificationError
import Mathlib.Algebra.Order.Field.Power
import Mathlib.Data.Rat.Floor

/-!
The times at which a token is accepted. They are said here of the numbers that its claims are, in
arithmetic without bounds: the limits of the 64 bits that seconds are counted in are too far off to
change an answer. The accepted times are an interval, and the answer outside tells on which side.
-/
namespace Attestation

/-! The numbers that are meant. -/

namespace Binary64

def magnitude (x : Binary64) : ℚ := x.significand * 2 ^ x.exponent

def value (x : Binary64) : ℚ := if x.negative then -x.magnitude else x.magnitude

theorem fraction_eq (x : Binary64) : (x.fraction.1 : ℚ) / x.fraction.2 = x.magnitude := by
  unfold fraction magnitude
  split
  · rename_i h
    obtain ⟨n, hn⟩ := Int.eq_ofNat_of_zero_le h
    simp [hn, Nat.shiftLeft_eq]
  · rename_i h
    obtain ⟨n, hn⟩ := Int.eq_ofNat_of_zero_le (show 0 ≤ -x.exponent by omega)
    have hexponent : x.exponent = -n := by omega
    simp [hexponent, Nat.shiftLeft_eq, div_eq_mul_inv]

theorem floor_magnitude (x : Binary64) : ⌊x.magnitude⌋ = x.truncate := by
  rw [← fraction_eq, truncate, Rat.floor_natCast_div_natCast, Int.natCast_ediv]

theorem magnitude_nonneg (x : Binary64) : 0 ≤ x.magnitude := by
  exact mul_nonneg (Nat.cast_nonneg _) (zpow_nonneg zero_le_two _)

theorem magnitude_eq_zero {x : Binary64} : x.magnitude = 0 ↔ x.isZero = true := by
  simp [magnitude, isZero, zpow_ne_zero]

theorem value_of_isNonnegative {x : Binary64} (h : x.isNonnegative = true) :
    x.value = x.magnitude := by
  unfold value
  split
  · rename_i hnegative
    have hzero : x.isZero = true := by simpa [isNonnegative, hnegative] using h
    rw [magnitude_eq_zero.2 hzero, neg_zero]
  · rfl

theorem value_nonneg {x : Binary64} : 0 ≤ x.value ↔ x.isNonnegative = true := by
  constructor
  · intro h
    cases hnegative : x.negative with
    | false => simp [isNonnegative, hnegative]
    | true =>
      rw [value, if_pos hnegative, neg_nonneg] at h
      have hzero := magnitude_eq_zero.1 (le_antisymm h x.magnitude_nonneg)
      simp [isNonnegative, hzero]
  · intro h
    rw [value_of_isNonnegative h]
    exact x.magnitude_nonneg

end Binary64

def Number.value : Number → ℚ
  | .integer n => n
  | .real x => x.value

def Instant.seconds (now : Instant) : ℚ := now / perSecond

theorem Instant.floor_seconds {now : Instant} (h : 0 ≤ now) :
    ⌊now.seconds⌋ = now.wholeSeconds := by
  obtain ⟨n, rfl⟩ := Int.eq_ofNat_of_zero_le h
  exact Rat.floor_natCast_div_natCast n perSecond

theorem Instant.floor_seconds_mono {now later : Instant} (h : now ≤ later) :
    ⌊now.seconds⌋ ≤ ⌊later.seconds⌋ := by
  refine Int.floor_le_floor ?_
  unfold Instant.seconds
  have hcast : (now : ℚ) ≤ later := by exact_mod_cast h
  exact div_le_div_of_nonneg_right hcast (Nat.cast_nonneg _)

namespace Jwt.Lifetime

open Checks

variable {claims : Json} {name : String} {n : Number} {now : Instant} {t expiry : ℚ}
  {start : Option ℚ}

/-! The times among the claims. -/

/-- The claim is a number that is at least zero. -/
def IsTime (claims : Json) (name : String) (t : ℚ) : Prop :=
  ∃ n, claims.get? name = some (.number n) ∧ n.value = t ∧ 0 ≤ t

def IsAbsent (claims : Json) (name : String) : Prop :=
  claims.get? name = none ∨ claims.get? name = some .null

/-- The claims have an expiry time, and a time to start from unless they leave that open. -/
structure Stated (claims : Json) (expiry : ℚ) (start : Option ℚ) : Prop where
  expiry : IsTime claims "exp" expiry
  start : start.elim (IsAbsent claims "nbf") (IsTime claims "nbf")

theorem seconds?_eq_some {s : Nat} :
    seconds? n = some s ↔ 0 ≤ n.value ∧ s = saturate ⌊n.value⌋.toNat := by
  cases n with
  | integer n =>
    simp only [seconds?, Number.value, Option.ite_none_right_eq_some, Option.some.injEq,
      Int.cast_nonneg_iff, Int.floor_intCast, eq_comm (b := s)]
  | real x =>
    simp only [seconds?, Number.value, Option.ite_none_right_eq_some, Option.some.injEq,
      Binary64.value_nonneg]
    refine and_congr_right fun h => ?_
    rw [Binary64.value_of_isNonnegative h, Binary64.floor_magnitude, Int.toNat_natCast, eq_comm]

theorem numericDate_iff {found : Option Nat} : numericDate claims name = .ok found ↔
    (found = none ∧ IsAbsent claims name) ∨
      ∃ t, found = some (saturate ⌊t⌋.toNat) ∧ IsTime claims name t := by
  rw [numericDate_eq_ok]
  refine or_congr_right ?_
  constructor
  · intro h
    obtain ⟨n, s, rfl, hn, hs⟩ := h
    obtain ⟨hnonneg, rfl⟩ := seconds?_eq_some.1 hs
    exact ⟨n.value, rfl, n, hn, rfl, hnonneg⟩
  · intro h
    obtain ⟨_, rfl, n, hn, rfl, hnonneg⟩ := h
    exact ⟨n, _, rfl, hn, seconds?_eq_some.2 ⟨hnonneg, rfl⟩⟩

/-! The limits of counting. -/

/-- The second `2 ^ 63` after 1970. -/
def horizon : Instant := .ofSeconds (1 <<< 63)

theorem saturate_add_lt {e s : Nat} (hs : s < 1 <<< 63) :
    saturate (saturate e + leeway) < s ↔ e + 60 < s := by
  simp only [saturate, greatest, leeway]
  omega

theorem lt_saturate {e s : Nat} (hs : s < 1 <<< 63) :
    saturate (s + leeway) < saturate e ↔ s + 60 < e := by
  simp only [saturate, greatest, leeway]
  omega

theorem seconds_lt {now : Int} (h : now < horizon) : Instant.wholeSeconds now < 1 <<< 63 := by
  have hlimit : now < 9223372036854775808000000000 := h
  change now.toNat / 1000000000 < 1 <<< 63
  omega

theorem IsTime.exists_floor (h : IsTime claims name t) : ∃ k : Nat, ⌊t⌋ = k ∧
    numericDate claims name = .ok (some (saturate k)) := by
  obtain ⟨_, _, _, hnonneg⟩ := id h
  obtain ⟨k, hk⟩ := Int.eq_ofNat_of_zero_le (Int.floor_nonneg.2 hnonneg)
  refine ⟨k, hk, numericDate_iff.2 (.inr ⟨t, ?_, h⟩)⟩
  rw [hk, Int.toNat_natCast]

/-! The accepted times. -/

/-- The time is not past the expiry time and has come to the start, by whole seconds and with a
minute of leeway at either end. -/
structure Within (expiry : ℚ) (start : Option ℚ) (now : Instant) : Prop where
  epoch : 0 ≤ now
  expiry : ⌊now.seconds⌋ ≤ ⌊expiry⌋ + 60
  start : ∀ s, start = some s → ⌊s⌋ ≤ ⌊now.seconds⌋ + 60

/-- The answer about claims that state their times, and what it says of them. -/
theorem check_cases (h : Stated claims expiry start) (hepoch : 0 ≤ now) (hnow : now < horizon) :
    (check claims now = .ok () ∧ Within expiry start now) ∨
      (check claims now = .error .notYetValid ∧
        ∃ s, start = some s ∧ ⌊now.seconds⌋ + 60 < ⌊s⌋) ∨
      (check claims now = .error .expired ∧ ⌊expiry⌋ + 60 < ⌊now.seconds⌋) := by
  have hseconds := seconds_lt hnow
  have hfloor := Instant.floor_seconds hepoch
  obtain ⟨e, he, hexpiry⟩ := h.expiry.exists_floor
  rw [check, if_neg (Int.not_lt.2 hepoch), checkAt, hexpiry, ok_bind]
  dsimp only
  by_cases hexpired : saturate (saturate e + leeway) < now.wholeSeconds
  · have hlate := (saturate_add_lt hseconds).1 hexpired
    exact .inr (.inr ⟨if_pos hexpired, by omega⟩)
  have hintime := (saturate_add_lt hseconds).not.1 hexpired
  rw [if_neg hexpired]
  cases start with
  | none =>
    rw [numericDate_iff.2 (.inl ⟨rfl, h.start⟩)]
    exact .inl ⟨rfl, hepoch, by omega, by simp⟩
  | some s =>
    obtain ⟨b, hb, hstart⟩ := IsTime.exists_floor h.start
    rw [hstart, ok_bind]
    dsimp only
    by_cases hearly : saturate (now.wholeSeconds + leeway) < saturate b
    · have hahead := (lt_saturate hseconds).1 hearly
      exact .inr (.inl ⟨if_pos hearly, s, rfl, by omega⟩)
    · have hstarted := (lt_saturate hseconds).not.1 hearly
      refine .inl ⟨if_neg hearly, hepoch, by omega, ?_⟩
      rintro _ ⟨rfl⟩
      omega

theorem stated_of_check (h : check claims now = .ok ()) :
    0 ≤ now ∧ ∃ expiry start, Stated claims expiry start := by
  rw [check, ite_error_eq_ok, checkAt, bind_eq_ok] at h
  obtain ⟨hepoch, found, hexpiry, h⟩ := h
  refine ⟨Int.not_lt.1 hepoch, ?_⟩
  rcases numericDate_iff.1 hexpiry with ⟨rfl, _⟩ | ⟨expiry, rfl, hexp⟩
  · cases h
  · dsimp only at h
    rw [ite_error_eq_ok, bind_eq_ok] at h
    obtain ⟨_, found, hstart, _⟩ := h
    rcases numericDate_iff.1 hstart with ⟨rfl, habsent⟩ | ⟨s, rfl, hs⟩
    · exact ⟨expiry, none, hexp, habsent⟩
    · exact ⟨expiry, some s, hexp, hs⟩

theorem within_iff_check (h : Stated claims expiry start) (hnow : now < horizon) :
    Within expiry start now ↔ check claims now = .ok () := by
  constructor
  · intro hwithin
    rcases check_cases h hwithin.epoch hnow with ⟨hok, _⟩ | ⟨_, s, hs, hlt⟩ | ⟨_, hlt⟩
    · exact hok
    · exact absurd hlt (not_lt.2 (hwithin.start s hs))
    · exact absurd hlt (not_lt.2 hwithin.expiry)
  · intro hok
    rcases check_cases h (stated_of_check hok).1 hnow with ⟨_, hwithin⟩ | ⟨herror, _⟩ | ⟨herror, _⟩
    · exact hwithin
    · rw [hok] at herror
      cases herror
    · rw [hok] at herror
      cases herror

theorem check_eq_ok_iff (hnow : now < horizon) : check claims now = .ok () ↔
    ∃ expiry start, Stated claims expiry start ∧ Within expiry start now := by
  constructor
  · intro h
    obtain ⟨_, expiry, start, hstated⟩ := stated_of_check h
    exact ⟨expiry, start, hstated, (within_iff_check hstated hnow).2 h⟩
  · intro h
    obtain ⟨expiry, start, hstated, hwithin⟩ := h
    exact (within_iff_check hstated hnow).1 hwithin

/-- The times before the horizon at which the claims are accepted. -/
def accepted (claims : Json) : Set Instant := {now | now < horizon ∧ check claims now = .ok ()}

/-- The answer about a lifetime, as the verification of a token gives it. -/
def answer (claims : Json) (now : Instant) : Except VerificationError Unit :=
  (check claims now).mapError VerificationError.ofLifetime

theorem accepted_between {first now last : Instant} (hfirst : first ∈ accepted claims)
    (hlast : last ∈ accepted claims) (hafter : first ≤ now) (hbefore : now ≤ last) :
    now ∈ accepted claims := by
  obtain ⟨_, hfirst⟩ := hfirst
  obtain ⟨hlimit, hlast⟩ := hlast
  have hnowLimit : now < horizon := lt_of_le_of_lt hbefore hlimit
  obtain ⟨_, expiry, start, hstated⟩ := stated_of_check hfirst
  have hopen := (within_iff_check hstated (lt_of_le_of_lt hafter hnowLimit)).2 hfirst
  have hclose := (within_iff_check hstated hlimit).2 hlast
  refine ⟨hnowLimit, (within_iff_check hstated hnowLimit).1 ⟨hopen.epoch.trans hafter, ?_, ?_⟩⟩
  · exact (Instant.floor_seconds_mono hbefore).trans hclose.expiry
  · intro s hs
    exact (hopen.start s hs).trans (add_le_add_left (Instant.floor_seconds_mono hafter) 60)

theorem answer_early {a : Instant} (ha : a ∈ accepted claims) (hbefore : now < a)
    (hnow : now ∉ accepted claims) (hepoch : 0 ≤ now) :
    answer claims now = .error .tokenNotYetValid := by
  obtain ⟨hlimit, hok⟩ := ha
  have hnowLimit : now < horizon := hbefore.trans hlimit
  obtain ⟨_, expiry, start, hstated⟩ := stated_of_check hok
  have hwithin := (within_iff_check hstated hlimit).2 hok
  rcases check_cases hstated hepoch hnowLimit with ⟨hcheck, _⟩ | ⟨hcheck, _⟩ | ⟨_, hexpired⟩
  · exact absurd ⟨hnowLimit, hcheck⟩ hnow
  · rw [answer, hcheck]
    rfl
  · -- It would have expired by the later time too.
    have hmono := Instant.floor_seconds_mono (le_of_lt hbefore)
    exact absurd (hexpired.trans_le hmono) (not_lt.2 hwithin.expiry)

theorem answer_late {a : Instant} (ha : a ∈ accepted claims) (hafter : a < now)
    (hlimit : now < horizon) (hnow : now ∉ accepted claims) :
    answer claims now = .error .tokenExpired := by
  obtain ⟨haLimit, hok⟩ := ha
  obtain ⟨_, expiry, start, hstated⟩ := stated_of_check hok
  have hwithin := (within_iff_check hstated haLimit).2 hok
  have hepoch : 0 ≤ now := hwithin.epoch.trans (le_of_lt hafter)
  rcases check_cases hstated hepoch hlimit with ⟨hcheck, _⟩ | ⟨_, s, hs, hearly⟩ | ⟨hcheck, _⟩
  · exact absurd ⟨hlimit, hcheck⟩ hnow
  · -- It had started by the earlier time.
    have hmono := Instant.floor_seconds_mono (le_of_lt hafter)
    exact absurd (hwithin.start s hs) (not_le.2 ((Int.add_le_add_right hmono 60).trans_lt hearly))
  · rw [answer, hcheck]
    rfl

/-- The lifetime of a token by the numbers that its claims are. -/
structure Exact (claims : Json) : Prop where
  check : ∀ now < horizon, check claims now = .ok () ↔
    ∃ expiry start, Stated claims expiry start ∧ Within expiry start now
  /-- The accepted times are an interval. -/
  interval : ∀ first ∈ accepted claims, ∀ last ∈ accepted claims, ∀ now, first ≤ now →
    now ≤ last → now ∈ accepted claims
  beforeEpoch : ∀ now < 0, answer claims now = .error (.badFormat .beforeEpoch)
  early : ∀ a ∈ accepted claims, ∀ now < a, now ∉ accepted claims → 0 ≤ now →
    answer claims now = .error .tokenNotYetValid
  late : ∀ a ∈ accepted claims, ∀ now, a < now → now < horizon → now ∉ accepted claims →
    answer claims now = .error .tokenExpired

theorem check_exact (claims : Json) : Exact claims where
  check _ hnow := check_eq_ok_iff hnow
  interval _ hfirst _ hlast _ hafter hbefore := accepted_between hfirst hlast hafter hbefore
  beforeEpoch now hnow := by rw [answer, Lifetime.check, if_pos hnow]; rfl
  early _ ha _ hbefore hnow hepoch := answer_early ha hbefore hnow hepoch
  late _ ha _ hafter hlimit hnow := answer_late ha hafter hlimit hnow

/-- The first and the last accepted nanosecond of a token that runs from second 500 to 1000. -/
example : (let claims := Json.ofMembers [("exp", .nat 1000), ("nbf", .nat 500)]
    [439999999999, 440000000000, 1060999999999, 1061000000000].map (check claims)) =
      [.error .notYetValid, .ok (), .ok (), .error .expired] := by
  decide

end Jwt.Lifetime

end Attestation
