import Attestation.Text.LowerCase
import Mathlib.Data.List.Forall2

/-!
Texts that differ in the case of letters of ASCII only, and what becomes of a part of a text when
the whole of it is put into lower case. Every character but one has its lower-case form wherever it
stands; a capital sigma has another one at the end of a word. A part therefore keeps the lower-case
form that it has by itself if and only if all of its capital sigmas do.
-/
namespace Attestation.Text

variable {before before' after after' s s' t t' : List Char} {c d : Char}

/-! Letters of ASCII. -/

/-- The same character, or one letter of ASCII in its two cases. -/
inductive CaseVariant : Char → Char → Prop
  | same (c : Char) : CaseVariant c c
  | upper {n : Nat} (letter : n < 26) : CaseVariant (Char.ofNat (65 + n)) (Char.ofNat (97 + n))
  | lower {n : Nat} (letter : n < 26) : CaseVariant (Char.ofNat (97 + n)) (Char.ofNat (65 + n))

/-- What is the same for both cases of every letter of ASCII. -/
theorem CaseVariant.congr {α : Type} {f : Char → α} (h : CaseVariant c d)
    (hf : ∀ n < 26, f (Char.ofNat (65 + n)) = f (Char.ofNat (97 + n))) : f c = f d := by
  cases h with
  | same => rfl
  | upper letter => exact hf _ letter
  | lower letter => exact (hf _ letter).symm

theorem caseVariant_lowerAscii (c : Char) : CaseVariant c (lowerAscii c) := by
  unfold lowerAscii
  split
  · rename_i h
    obtain ⟨hfirst, hlast⟩ : 65 ≤ c.toNat ∧ c.toNat ≤ 90 := h
    have hupper : Char.ofNat (65 + (c.toNat - 65)) = c := by
      rw [Nat.add_sub_cancel' hfirst, Char.ofNat_toNat]
    have hlower : Char.ofNat (c.toNat + 32) = Char.ofNat (97 + (c.toNat - 65)) := by
      congr 1
      omega
    have hvariant := CaseVariant.upper (n := c.toNat - 65) (by omega)
    rwa [hupper, ← hlower] at hvariant
  · exact .same c

/-- Texts of the same characters, but for the case of letters of ASCII. -/
abbrev CaseVariants : List Char → List Char → Prop := List.Forall₂ CaseVariant

theorem CaseVariants.map_congr {α : Type} {f : Char → α} (h : CaseVariants s t)
    (hf : ∀ n < 26, f (Char.ofNat (65 + n)) = f (Char.ofNat (97 + n))) : s.map f = t.map f := by
  induction h with
  | nil => rfl
  | cons hc _ ih => rw [List.map_cons, List.map_cons, hc.congr hf, ih]

/-- A text without capital letters of ASCII is the lower-case form of its variants. -/
theorem map_lowerAscii_eq_iff (ht : t.map lowerAscii = t) :
    s.map lowerAscii = t ↔ CaseVariants s t := by
  constructor
  · rintro rfl
    rw [CaseVariants, List.forall₂_map_right_iff, List.forall₂_same]
    exact fun c _ => caseVariant_lowerAscii c
  · intro h
    rw [← ht]
    exact h.map_congr (by decide)

/-! The lower-case form of a character. -/

/-- Whether a place between two texts, the first one in reverse, is the end of a word. -/
def endsWord (before after : List Char) : Bool := nextCased before && !nextCased after

theorem nextCased_cons (c : Char) (s : List Char) :
    nextCased (c :: s) = if caseIgnorable.contains c then nextCased s else cased.contains c := by
  by_cases h : caseIgnorable.contains c = true
  · simp [nextCased, h]
  · simp [nextCased, h]

theorem nextCased_congr (h : CaseVariants s t) : nextCased s = nextCased t := by
  induction h with
  | nil => rfl
  | cons hc _ ih =>
    have hignorable := hc.congr (f := caseIgnorable.contains) (by decide)
    have hcased := hc.congr (f := cased.contains) (by decide)
    rw [nextCased_cons, nextCased_cons, ih, hignorable, hcased]

theorem endsWord_congr (hbefore : CaseVariants before before')
    (hafter : CaseVariants after after') : endsWord before after = endsWord before' after' := by
  rw [endsWord, endsWord, nextCased_congr hbefore, nextCased_congr hafter]

theorem lowerBetween_sigma (before after : List Char) : lowerBetween before capitalSigma after =
    if endsWord before after then [finalSigma] else [smallSigma] := by
  rw [lowerBetween, if_pos rfl, endsWord]

/-- All other characters have their form wherever they stand. -/
theorem lowerBetween_of_ne (h : c ≠ capitalSigma) (before after : List Char) :
    lowerBetween before c after = lowerBetween [] c [] := by
  rw [lowerBetween, lowerBetween, if_neg h, if_neg h]

theorem lowerBetween_congr (hbefore : CaseVariants before before') (hc : CaseVariant c d)
    (hafter : CaseVariants after after') :
    lowerBetween before c after = lowerBetween before' d after' := by
  have hsigma : decide (c = capitalSigma) = decide (d = capitalSigma) :=
    hc.congr (f := fun c => decide (c = capitalSigma)) (by decide)
  rw [decide_eq_decide] at hsigma
  by_cases h : c = capitalSigma
  · rw [h, hsigma.1 h, lowerBetween_sigma, lowerBetween_sigma, endsWord_congr hbefore hafter]
  · rw [lowerBetween_of_ne h, lowerBetween_of_ne (h ∘ hsigma.2)]
    exact hc.congr (f := (lowerBetween [] · [])) (by decide)

theorem lowerBetween_eq_iff : lowerBetween before c after = lowerBetween before' c after' ↔
    (c = capitalSigma → endsWord before after = endsWord before' after') := by
  by_cases h : c = capitalSigma
  · subst h
    rw [lowerBetween_sigma, lowerBetween_sigma]
    cases endsWord before after <;> cases endsWord before' after' <;> simp <;> decide
  · rw [lowerBetween_of_ne h, lowerBetween_of_ne h before']
    simp [h]

theorem lowerBetween_length (before after : List Char) (c : Char) :
    (lowerBetween before c after).length = (lowerBetween [] c []).length := by
  by_cases h : c = capitalSigma
  · subst h
    rw [lowerBetween_sigma, lowerBetween_sigma]
    split <;> split <;> rfl
  · rw [lowerBetween_of_ne h]

/-! The lower-case form of a part of a text. -/

theorem lowerFrom_congr (hbefore : CaseVariants before before') (h : CaseVariants s t) :
    lowerFrom before s = lowerFrom before' t := by
  induction h generalizing before before' with
  | nil => rfl
  | cons hc hrest ih =>
    rw [lowerFrom, lowerFrom, lowerBetween_congr hbefore hc hrest, ih (.cons hc hbefore)]

theorem lowerCase_congr (h : CaseVariants s t) : lowerCase s = lowerCase t :=
  lowerFrom_congr .nil h

/-- The lower-case form of a part between what stands before it, in reverse, and after it. -/
def lowerPart (before : List Char) : List Char → List Char → List Char
  | [], _ => []
  | c :: rest, after => lowerBetween before c (rest ++ after) ++ lowerPart (c :: before) rest after

theorem lowerFrom_append (before s t : List Char) :
    lowerFrom before (s ++ t) = lowerPart before s t ++ lowerFrom (s.reverse ++ before) t := by
  induction s generalizing before with
  | nil => rfl
  | cons c s ih => simp [lowerFrom, lowerPart, ih]

/-- The capital sigmas of a part are at the end of a word between the texts around the part if and
only if they are in the part by itself. -/
def SigmasKeep (before part after : List Char) : Prop :=
  ∀ s t, part = s ++ capitalSigma :: t →
    endsWord (s.reverse ++ before) (t ++ after) = endsWord s.reverse t

theorem lowerPart_eq_lowerFrom_iff (seen rest : List Char) :
    lowerPart (seen ++ before) rest after = lowerFrom seen rest ↔
      ∀ s t, rest = s ++ capitalSigma :: t →
        endsWord (s.reverse ++ (seen ++ before)) (t ++ after) = endsWord (s.reverse ++ seen) t := by
  -- `seen` is what the part has before the characters that are still to come.
  induction rest generalizing seen with
  | nil => simp [lowerPart, lowerFrom]
  | cons c rest ih =>
    have hlength : (lowerBetween (seen ++ before) c (rest ++ after)).length =
        (lowerBetween seen c rest).length := by
      rw [lowerBetween_length, lowerBetween_length seen]
    have hsplit : lowerPart (seen ++ before) (c :: rest) after = lowerFrom seen (c :: rest) ↔
        lowerBetween (seen ++ before) c (rest ++ after) = lowerBetween seen c rest ∧
          lowerPart (c :: seen ++ before) rest after = lowerFrom (c :: seen) rest := by
      refine ⟨fun h => List.append_inj h hlength, fun h => ?_⟩
      rw [lowerPart, lowerFrom, h.1, ← h.2, List.cons_append]
    rw [hsplit, lowerBetween_eq_iff, ih]
    constructor
    · rintro ⟨hfirst, hrest⟩ s t heq
      cases s with
      | nil =>
        obtain ⟨hc, rfl⟩ := List.cons.inj heq
        exact hfirst hc
      | cons x s =>
        obtain ⟨rfl, rfl⟩ := List.cons.inj heq
        simpa using hrest s t rfl
    · intro h
      refine ⟨fun hc => h [] rest (by rw [hc, List.nil_append]), fun s t heq => ?_⟩
      simpa using h (c :: s) t (by rw [heq, List.cons_append])

/-- A part keeps the lower-case form that it has by itself if and only if its capital sigmas do. -/
theorem lowerPart_eq_lowerCase_iff {part : List Char} :
    lowerPart before part after = lowerCase part ↔ SigmasKeep before part after := by
  simpa [SigmasKeep, lowerCase] using @lowerPart_eq_lowerFrom_iff before after [] part

theorem nextCased_append (h : nextCased t = false) (s : List Char) :
    nextCased (s ++ t) = nextCased s := by
  induction s with
  | nil => exact h
  | cons c s ih => rw [List.cons_append, nextCased_cons, nextCased_cons, ih]

/-- A part that is apart from the words around it keeps its form. -/
theorem sigmasKeep_of_apart {part : List Char} (hbefore : nextCased before = false)
    (hafter : nextCased after = false) : SigmasKeep before part after := by
  intro s t _
  rw [endsWord, nextCased_append hbefore, nextCased_append hafter, endsWord]

/-! Parts of texts. -/

theorem occursIn_iff {part text : List Char} : occursIn part text = true ↔ part <:+: text := by
  induction text with
  | nil => simp [occursIn]
  | cons c text ih =>
    rw [occursIn, Bool.or_eq_true, ih, List.isPrefixOf_iff_prefix, List.infix_cons_iff]

end Attestation.Text
