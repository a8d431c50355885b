import Mathlib.Data.List.DropRight
import LinkGauge.Text.Blank

/-!
# Texts without blanks around them

What is left of a text when it is trimmed has no blank at its ends. Of a text that is more than
blanks something is left.
-/

namespace LinkGauge

/-- A text that starts and ends with characters that are no blanks. -/
structure Neat (s : String) : Prop where
  first : ∃ c, s.toList.head? = some c ∧ isBlankChar c = false
  last : ∃ c, s.toList.getLast? = some c ∧ isBlankChar c = false

section Trimming

variable {cs : List Char}

/-- The first character that is no blank stays the first. -/
lemma head?_trimChars (more : ¬∀ c ∈ cs, isBlankChar c = true) :
    ∃ c, (trimChars cs).head? = some c ∧ isBlankChar c = false := by
  have left : trimStartChars cs ≠ [] := fun none => more (List.dropWhile_eq_nil_iff.mp none)
  have first : isBlankChar ((trimStartChars cs).head left) = false :=
    List.head_dropWhile_not _ left
  have kept : trimChars cs ≠ [] := by
    intro none
    have all := List.rdropWhile_eq_nil_iff.mp none _ (List.head_mem left)
    exact absurd (first.symm.trans all) nofun
  obtain ⟨after, whole⟩ := List.rdropWhile_prefix isBlankChar (l := trimStartChars cs)
  refine ⟨(trimStartChars cs).head left, ?_, first⟩
  rw [← List.head?_eq_some_head left]
  conv_rhs => rw [← whole]
  exact (List.head?_append_of_ne_nil _ kept).symm

/-- The last character that is no blank stays the last. -/
lemma getLast?_trimChars (kept : trimChars cs ≠ []) :
    ∃ c, (trimChars cs).getLast? = some c ∧ isBlankChar c = false :=
  ⟨_, List.getLast?_eq_some_getLast kept, Bool.eq_false_iff.mpr (List.rdropWhile_last_not _ _ kept)⟩

end Trimming

/-- What is left of a text that is more than blanks starts and ends with something else. -/
theorem neat_trim {s : String} (more : isBlank s = false) : Neat (trim s) := by
  have chars : ¬∀ c ∈ s.toList, isBlankChar c = true := by
    rwa [isBlank, ← Bool.not_eq_true, List.all_eq_true] at more
  obtain ⟨c, first, visible⟩ := head?_trimChars chars
  have kept : trimChars s.toList ≠ [] := by
    intro none
    rw [none] at first
    cases first
  constructor
  · rw [trim, String.toList_ofList]
    exact ⟨c, first, visible⟩
  · rw [trim, String.toList_ofList]
    exact getLast?_trimChars kept

end LinkGauge
