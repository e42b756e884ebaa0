/-!
Fragments of texts: a fragment occurs in a text when it can be read off at some place.
-/

namespace Provisioning.Text

/-- This function looks for a fragment at every place of a text. -/
def occursIn (fragment : List Char) : List Char → Bool
  | [] => fragment.isEmpty
  | char :: rest => fragment.isPrefixOf (char :: rest) || occursIn fragment rest

def hasFragment (text fragment : String) : Bool := occursIn fragment.toList text.toList

/-- A fragment occurs exactly where a text splits around it. -/
theorem occursIn_iff {fragment text : List Char} :
    occursIn fragment text = true ↔ ∃ before after, text = before ++ (fragment ++ after) := by
  induction text with
  | nil =>
      rw [occursIn, List.isEmpty_iff]
      constructor
      · intro empty
        exact ⟨[], [], by simp [empty]⟩
      · rintro ⟨before, after, split⟩
        exact (List.append_eq_nil_iff.mp (List.append_eq_nil_iff.mp split.symm).2).1
  | cons char rest inductionHypothesis =>
      rw [occursIn, Bool.or_eq_true, List.isPrefixOf_iff_prefix, inductionHypothesis]
      constructor
      · rintro (⟨after, here⟩ | ⟨before, after, later⟩)
        · exact ⟨[], after, here.symm⟩
        · exact ⟨char :: before, after, by rw [later]; rfl⟩
      · rintro ⟨before, after, split⟩
        cases before with
        | nil => exact .inl ⟨after, split.symm⟩
        | cons first before =>
            obtain ⟨_, split⟩ := List.cons.inj split
            exact .inr ⟨before, after, split⟩

end Provisioning.Text
