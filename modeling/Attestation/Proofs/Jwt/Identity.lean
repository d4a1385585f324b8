import Attestation.Proofs.Json.Members
import Attestation.Proofs.Jwt.SearchOrder

/-!
What the claims of a token say of its issuer, its audience and its time, read off the value that
they are handed out as. The identity of a token is read from the tree of its payload, its lifetime
from the value of that tree; both are brought together here.
-/
namespace Attestation.Jwt

open Json Checks

/-- The claims that may occur once. -/
def registered : List String := ["exp", "nbf", "iss", "sub", "aud"]

/-- The claim is there, and is the text or a list of texts that contains it. -/
def Says (claims : Json) (name text : String) : Prop :=
  ∃ v, claims.get? name = some v ∧ v.Names text

def Plain : Json → Prop
  | .array _ => False
  | .object _ => False
  | _ => True

/-- An expiry time that is read as a floating-point number, because it has a fraction or an exponent
or is a whole number from `2 ^ 64` on, stays below the greatest number of seconds. -/
def ExpiryInRange (claims : Json) : Prop :=
  ∀ x, claims.get? "exp" = some (.number (.real x)) → x.truncate < 1 <<< 64

/-! One claim, in the tree and in its value. -/

theorem names?_iff {depth : Nat} {t : Tree} {v : Json} {text : String}
    (h : t.valueWithin? depth = some v) :
    (∃ names, Identity.names? t = some names ∧ text ∈ names) ↔ v.Names text := by
  cases shape_of_valueWithin? h with
  | string s => simp [Identity.names?, Json.Names, Json.strings, eq_comm]
  | array hvalues =>
    simp [Identity.names?, Tree.asStrings?, Tree.asItems?, mapM_asString? hvalues, Json.Names,
      Json.strings]
  | _ =>
    simp [Identity.names?, Tree.asStrings?, Tree.asItems?, Json.Names, Json.strings,
      Json.ofMembers]

theorem mayBeSubject_iff {depth : Nat} {t : Tree} {v : Json} (h : t.valueWithin? depth = some v) :
    Identity.mayBeSubject t = true ↔ Plain v := by
  cases shape_of_valueWithin? h <;> simp [Identity.mayBeSubject, Plain, Json.ofMembers]

theorem number_of_valueWithin? {depth : Nat} {t : Tree} {n : Number}
    (h : t.valueWithin? depth = some (.number n)) : t = .number (some n) := by
  cases shape_of_valueWithin? h with
  | number => rfl

theorem null_of_valueWithin? {depth : Nat} {t : Tree} (h : t.valueWithin? depth = some .null) :
    t = .null := by
  cases shape_of_valueWithin? h with
  | null => rfl

/-! Lifetime. -/

/-- A time among the claims that passes is absent, null or a number of seconds. -/
theorem numericDate_eq_ok {claims : Json} {name : String} {found : Option Nat} :
    Lifetime.numericDate claims name = .ok found ↔
      (found = none ∧ (claims.get? name = none ∨ claims.get? name = some .null)) ∨
      ∃ n s, found = some s ∧ claims.get? name = some (.number n) ∧
        Lifetime.seconds? n = some s := by
  unfold Lifetime.numericDate
  split
  · rename_i h
    simp [h, eq_comm]
  · rename_i h
    simp [h, eq_comm]
  · rename_i n h
    constructor
    · intro hfound
      cases hs : Lifetime.seconds? n with
      | none => simp [hs] at hfound
      | some s => exact .inr ⟨n, s, by simpa [hs, eq_comm] using hfound, h, hs⟩
    · intro hcase
      rcases hcase with ⟨_, hv | hv⟩ | ⟨m, s, rfl, hm, hs⟩
      · simp [h] at hv
      · simp [h] at hv
      · obtain rfl : n = m := by simpa [h] using hm
        simp [hs]
  · rename_i v hnull hnumber h
    simp only [reduceCtorEq, false_iff]
    intro hcase
    rcases hcase with ⟨_, hv | hv⟩ | ⟨n, s, _, hv, _⟩
    · simp [h] at hv
    · have heq : v = .null := Option.some.inj (h.symm.trans hv)
      exact hnull heq
    · have heq : v = .number n := Option.some.inj (h.symm.trans hv)
      exact hnumber n heq

/-- A token whose lifetime passes has an expiry time, and its start, if any, is a time as well. -/
theorem times_of_lifetime {claims : Json} {now : Instant}
    (h : Lifetime.check claims now = .ok ()) :
    (∃ n s, claims.get? "exp" = some (.number n) ∧ Lifetime.seconds? n = some s) ∧
      (claims.get? "nbf" = none ∨ claims.get? "nbf" = some .null ∨
        ∃ n, claims.get? "nbf" = some (.number n)) := by
  unfold Lifetime.check at h
  split at h
  · simp at h
  · unfold Lifetime.checkAt at h
    obtain ⟨expiry, hexpiry, h⟩ := bind_eq_ok.1 h
    rcases numericDate_eq_ok.1 hexpiry with ⟨rfl, _⟩ | ⟨n, s, rfl, hn, hs⟩
    · simp at h
    · refine ⟨⟨n, s, hn, hs⟩, ?_⟩
      dsimp only at h
      split at h
      · simp at h
      · obtain ⟨start, hstart, _⟩ := bind_eq_ok.1 h
        rcases numericDate_eq_ok.1 hstart with ⟨_, hv | hv⟩ | ⟨m, _, _, hm, _⟩
        · exact .inl hv
        · exact .inr (.inl hv)
        · exact .inr (.inr ⟨m, hm⟩)

/-! Identity. -/

/-- The identity of an object: none of the five claims is repeated, and three of them do not have
shapes that are refused. -/
theorem ofTree?_object {members : List (Option String × Tree)} {i : Identity}
    (hnames : members.all (·.1.isSome) = true) :
    Identity.ofTree? (.object members) = some i ↔ ∃ expiry start subject issuer audience,
      Tree.member? members "exp" = some expiry ∧ Tree.member? members "nbf" = some start ∧
      Tree.member? members "sub" = some subject ∧ Tree.member? members "iss" = some issuer ∧
      Tree.member? members "aud" = some audience ∧
      (expiry.all Identity.mayBeTime && start.all Identity.mayBeTime &&
        subject.all Identity.mayBeSubject) = true ∧
      i = ⟨expiry.any Identity.isSeconds, issuer >>= Identity.names?,
        audience >>= Identity.names?⟩ := by
  have hfields : Tree.record? Identity.fields (.object members) =
      ["exp", "nbf", "sub", "iss", "aud"].mapM (Tree.member? members) := by
    rw [record?_object hnames]
    simp [Identity.fields, ofMember?_of_ne]
  simp only [Identity.ofTree?, hfields, List.mapM_cons, List.mapM_nil, Option.bind_eq_bind,
    Option.bind_eq_some_iff, Option.pure_def, Option.some.injEq]
  constructor
  · intro h
    obtain ⟨_, ⟨expiry, h₁, _, ⟨start, h₂, _, ⟨subject, h₃, _, ⟨issuer, h₄, _, ⟨audience, h₅, _,
      rfl, rfl⟩, rfl⟩, rfl⟩, rfl⟩, rfl⟩, hi⟩ := h
    dsimp only at hi
    split at hi
    · rename_i hshape
      exact ⟨expiry, start, subject, issuer, audience, h₁, h₂, h₃, h₄, h₅, hshape,
        (Option.some.inj hi).symm⟩
    · simp at hi
  · intro h
    obtain ⟨expiry, start, subject, issuer, audience, h₁, h₂, h₃, h₄, h₅, hshape, rfl⟩ := h
    exact ⟨_, ⟨expiry, h₁, _, ⟨start, h₂, _, ⟨subject, h₃, _, ⟨issuer, h₄, _,
      ⟨audience, h₅, _, rfl, rfl⟩, rfl⟩, rfl⟩, rfl⟩, rfl⟩, if_pos hshape⟩

theorem compare_eq_ok {i : Identity} {expected : Expectations} :
    i.compare expected = .ok () ↔
      (∃ names, i.issuers = some names ∧ expected.issuer ∈ names) ∧
      ∀ audience, expected.audience = some audience →
        ∃ names, i.audiences = some names ∧ audience ∈ names := by
  simp [Identity.compare, ite_error_eq_ok, Option.any_eq_true, Option.all_eq_true]

/-- In whatever order the claims are looked for, they are there and say what is expected. -/
theorem check_eq_ok {i : Identity} {expected : Expectations} {order : SearchOrder} :
    i.check expected order = .ok () ↔ i.hasExpiry = true ∧
      (∃ names, i.issuers = some names ∧ expected.issuer ∈ names) ∧
      ∀ audience, expected.audience = some audience →
        ∃ names, i.audiences = some names ∧ audience ∈ names := by
  rw [← compare_eq_ok, check_passes_iff]
  constructor
  · intro h
    obtain ⟨hcomplete, hcompare⟩ := h
    have hexpiry : ¬i.Absent expected .expiry := hcomplete .expiry
    exact ⟨by simpa [Identity.Absent, Expectations.requires, Identity.has] using hexpiry, hcompare⟩
  · intro h
    obtain ⟨hexpiry, hcompare⟩ := h
    obtain ⟨⟨issuers, hissuers, _⟩, haudiences⟩ := compare_eq_ok.1 hcompare
    refine ⟨?_, hcompare⟩
    -- What is compared and found to be as expected is there.
    intro c habsent
    obtain ⟨hrequired, hmissing⟩ := habsent
    cases c with
    | expiry => simp [Identity.has, hexpiry] at hmissing
    | issuer => simp [Identity.has, hissuers] at hmissing
    | audience =>
      obtain ⟨audience, haudience⟩ := Option.isSome_iff_exists.1 hrequired
      obtain ⟨names, hnames, _⟩ := haudiences audience haudience
      simp [Identity.has, hnames] at hmissing

theorem says_iff {depth : Nat} {members : List (Option String × Tree)}
    {values : List (String × Json)} {name text : String} {found : Option Tree}
    (hv : Tree.membersWithin? depth members = some values)
    (hm : Tree.member? members name = some found) :
    (∃ names, found >>= Identity.names? = some names ∧ text ∈ names) ↔
      Says (.ofMembers values) name text := by
  have hget := get?_ofMembers hv hm
  cases found with
  | none => simp [Says, hget]
  | some t =>
    obtain ⟨_, v, ht⟩ := of_mem_membersWithin? hv (mem_of_member? hm)
    simp [Says, hget, ht, ← names?_iff ht]

theorem isSeconds_number {n : Number} {s : Nat} (h : Lifetime.seconds? n = some s) :
    Identity.isSeconds (.number (some n)) = true ↔ ∀ x, n = .real x → x.truncate < 1 <<< 64 := by
  cases n with
  | integer n =>
    have hn : 0 ≤ n := by
      simp only [Lifetime.seconds?, Option.ite_none_right_eq_some] at h
      exact h.1
    simp [Identity.isSeconds, hn]
  | real x =>
    have hx : x.isNonnegative = true := by
      simp only [Lifetime.seconds?, Option.ite_none_right_eq_some] at h
      exact h.1
    simp [Identity.isSeconds, hx]

/-- An expiry time that passes as part of a lifetime is not refused for its shape. -/
theorem expiry_of_lifetime {depth : Nat} {members : List (Option String × Tree)}
    {values : List (String × Json)} {found : Option Tree} {n : Number} {s : Nat}
    (hv : Tree.membersWithin? depth members = some values)
    (hm : Tree.member? members "exp" = some found)
    (hget : (Json.ofMembers values).get? "exp" = some (.number n))
    (hs : Lifetime.seconds? n = some s) :
    found.all Identity.mayBeTime = true ∧
      (found.any Identity.isSeconds = true ↔ ExpiryInRange (.ofMembers values)) := by
  rw [get?_ofMembers hv hm, Option.bind_eq_some_iff] at hget
  obtain ⟨t, rfl, ht⟩ := hget
  obtain rfl := number_of_valueWithin? ht
  refine ⟨rfl, ?_⟩
  rw [Option.any_some, isSeconds_number hs, ExpiryInRange, get?_ofMembers hv hm]
  simp [Tree.valueWithin?]

theorem start_of_lifetime {depth : Nat} {members : List (Option String × Tree)}
    {values : List (String × Json)} {found : Option Tree}
    (hv : Tree.membersWithin? depth members = some values)
    (hm : Tree.member? members "nbf" = some found)
    (hget : (Json.ofMembers values).get? "nbf" = none ∨
      (Json.ofMembers values).get? "nbf" = some .null ∨
      ∃ n, (Json.ofMembers values).get? "nbf" = some (.number n)) :
    found.all Identity.mayBeTime = true := by
  rw [get?_ofMembers hv hm] at hget
  cases found with
  | none => rfl
  | some t =>
    obtain ⟨_, v, ht⟩ := of_mem_membersWithin? hv (mem_of_member? hm)
    rw [Option.bind_some, ht] at hget
    rcases hget with hnone | hnull | ⟨n, hn⟩
    · simp at hnone
    · obtain rfl := null_of_valueWithin? (ht.trans hnull)
      rfl
    · obtain rfl := number_of_valueWithin? (ht.trans hn)
      rfl

theorem subject_iff {depth : Nat} {members : List (Option String × Tree)}
    {values : List (String × Json)} {found : Option Tree}
    (hv : Tree.membersWithin? depth members = some values)
    (hm : Tree.member? members "sub" = some found) :
    found.all Identity.mayBeSubject = true ↔
      ∀ v, (Json.ofMembers values).get? "sub" = some v → Plain v := by
  rw [get?_ofMembers hv hm]
  cases found with
  | none => simp
  | some t =>
    obtain ⟨_, v, ht⟩ := of_mem_membersWithin? hv (mem_of_member? hm)
    simp [ht, mayBeSubject_iff ht]

/-- A payload that is within its lifetime has the expected identity if and only if none of the five
claims is repeated, its value says what is expected of issuer and audience, and its subject and its
expiry time are of the kind that is read. -/
theorem identity_iff {t : Tree} {claims : Json} {expected : Expectations} {now : Instant}
    {order : SearchOrder} (hvalue : t.valueWithin? Tree.depthLimit = some claims)
    (hobject : Evidence.isObject claims = true)
    (hlife : Lifetime.check claims now = .ok ()) :
    (∃ i, Identity.ofTree? t = some i ∧ i.check expected order = .ok ()) ↔
      (∀ name ∈ registered, t.AtMostOnce name) ∧ Says claims "iss" expected.issuer ∧
        (∀ audience, expected.audience = some audience → Says claims "aud" audience) ∧
        (∀ v, claims.get? "sub" = some v → Plain v) ∧ ExpiryInRange claims := by
  -- Only an object has claims. The lifetime has looked at the times of its value already, so what
  -- the tree adds for them is that they are not repeated and that the expiry time is in range.
  cases shape_of_valueWithin? hvalue with
  | @object members values hv =>
    obtain ⟨⟨n, s, hexp, hs⟩, hnbf⟩ := times_of_lifetime hlife
    have honce : (∀ name ∈ registered, Tree.AtMostOnce name (.object members)) ↔
        ∀ name ∈ registered, ∃ found, Tree.member? members name = some found := by
      simp only [member?_eq_some]
    rw [honce]
    simp only [registered, List.forall_mem_cons, ofTree?_object (names_of_membersWithin? hv)]
    constructor
    · intro h
      obtain ⟨i, ⟨expiry, start, subject, issuer, audience, h₁, h₂, h₃, h₄, h₅, hshape, rfl⟩, hi⟩
        := h
      obtain ⟨hseconds, hiss, haud⟩ := check_eq_ok.1 hi
      rw [Bool.and_eq_true, Bool.and_eq_true] at hshape
      refine ⟨⟨⟨expiry, h₁⟩, ⟨start, h₂⟩, ⟨issuer, h₄⟩, ⟨subject, h₃⟩, ⟨audience, h₅⟩, by simp⟩,
        (says_iff hv h₄).1 hiss, fun a ha => (says_iff hv h₅).1 (haud a ha),
        (subject_iff hv h₃).1 hshape.2, (expiry_of_lifetime hv h₁ hexp hs).2.1 hseconds⟩
    · intro h
      obtain ⟨⟨⟨expiry, h₁⟩, ⟨start, h₂⟩, ⟨issuer, h₄⟩, ⟨subject, h₃⟩, ⟨audience, h₅⟩, _⟩, hiss,
        haud, hsub, hrange⟩ := h
      obtain ⟨htime, hseconds⟩ := expiry_of_lifetime hv h₁ hexp hs
      refine ⟨_, ⟨expiry, start, subject, issuer, audience, h₁, h₂, h₃, h₄, h₅, ?_, rfl⟩, ?_⟩
      · simp [htime, start_of_lifetime hv h₂ hnbf, (subject_iff hv h₃).2 hsub]
      · exact check_eq_ok.2 ⟨hseconds.2 hrange, (says_iff hv h₄).2 hiss,
          fun a ha => (says_iff hv h₅).2 (haud a ha)⟩
  | _ => simp [Evidence.isObject] at hobject

end Attestation.Jwt
