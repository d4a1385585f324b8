import Attestation.Text.Blank
import Mathlib.Data.List.DropRight

/-!
Texts without the blanks around them: blanks that are put at either end are taken off again, and
nothing else is.
-/
namespace Attestation.Text

variable {before text after : List Char}

/-- The text consists of white space. -/
def IsBlanks (text : List Char) : Prop := ∀ c ∈ text, isBlank c = true

instance (text : List Char) : Decidable (IsBlanks text) :=
  List.decidableBAll (fun c => isBlank c = true) text

theorem trim_eq (text : List Char) : trim text = (text.dropWhile isBlank).rdropWhile isBlank := rfl

theorem rdropWhile_append_blanks (hafter : IsBlanks after) (text : List Char) :
    (text ++ after).rdropWhile isBlank = text.rdropWhile isBlank := by
  have hreverse : ∀ c ∈ after.reverse, isBlank c = true := fun c hc =>
    hafter c (List.mem_reverse.1 hc)
  simp only [List.rdropWhile, List.reverse_append, List.dropWhile_append_of_pos hreverse]

theorem trim_append (hbefore : IsBlanks before) (hafter : IsBlanks after) (text : List Char) :
    trim (before ++ text ++ after) = trim text := by
  rw [trim_eq, trim_eq, List.append_assoc, List.dropWhile_append_of_pos hbefore,
    List.dropWhile_append]
  split
  · -- A text of blanks only leaves nothing, with or without the blanks behind it.
    rename_i hempty
    have hnone : after.dropWhile isBlank = [] := List.dropWhile_eq_nil_iff.2 hafter
    rw [List.isEmpty_iff.1 hempty, hnone]
  · exact rdropWhile_append_blanks hafter _

/-- What is taken off is blanks. -/
theorem exists_blanks (text : List Char) : ∃ before after, IsBlanks before ∧ IsBlanks after ∧
    text = before ++ trim text ++ after := by
  refine ⟨text.takeWhile isBlank, (text.dropWhile isBlank).rtakeWhile isBlank,
    fun c hc => List.mem_takeWhile_imp hc, fun c hc => List.mem_rtakeWhile_imp hc, ?_⟩
  rw [trim_eq, List.append_assoc, List.rdropWhile_append_rtakeWhile,
    List.takeWhile_append_dropWhile]

theorem trim_trim (text : List Char) : trim (trim text) = trim text := by
  obtain ⟨before, after, hbefore, hafter, htext⟩ := exists_blanks text
  have htrim := trim_append hbefore hafter (trim text)
  rw [← htext] at htrim
  exact htrim.symm

theorem trim_of_not_blank (h : ∀ c ∈ text, isBlank c = false) : trim text = text := by
  have hfront : text.dropWhile isBlank = text :=
    List.dropWhile_eq_self_iff.2 fun hl => by simp [h _ (List.getElem_mem hl)]
  rw [trim_eq, hfront]
  exact List.rdropWhile_eq_self_iff.2 fun hl => by simp [h _ (List.getLast_mem hl)]

end Attestation.Text
