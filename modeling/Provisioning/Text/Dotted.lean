/-!
Dotted texts: parts with a dot between any two. The main statements say that a text splits at the
dots between its parts, and that its parts make up the text again.
-/

namespace Provisioning.Text

/-- This function cuts a text at every dot. -/
def splitAtDots : List Char → List (List Char)
  | [] => [[]]
  | char :: rest =>
      if char = '.' then [] :: splitAtDots rest
      else
        match splitAtDots rest with
        | [] => [[char]]
        | part :: parts => (char :: part) :: parts

theorem splitAtDots_of_not_mem {part : List Char} (noDot : '.' ∉ part) :
    splitAtDots part = [part] := by
  induction part with
  | nil => rfl
  | cons char rest inductionHypothesis =>
      have different : char ≠ '.' := fun same => noDot (same ▸ List.mem_cons_self)
      have tail := inductionHypothesis fun member => noDot (List.mem_cons_of_mem _ member)
      simp [splitAtDots, different, tail]

theorem splitAtDots_append {part rest : List Char} (noDot : '.' ∉ part) :
    splitAtDots (part ++ '.' :: rest) = part :: splitAtDots rest := by
  induction part with
  | nil => simp [splitAtDots]
  | cons char tail inductionHypothesis =>
      have different : char ≠ '.' := fun same => noDot (same ▸ List.mem_cons_self)
      have shorter := inductionHypothesis fun member => noDot (List.mem_cons_of_mem _ member)
      simp [splitAtDots, different, shorter]

theorem splitAtDots_ne_nil (chars : List Char) : splitAtDots chars ≠ [] := by
  cases chars with
  | nil => exact List.cons_ne_nil _ _
  | cons char rest =>
      rw [splitAtDots]
      split
      · exact List.cons_ne_nil _ _
      · split <;> exact List.cons_ne_nil _ _

/-- The parts of a text give the text back once the dots are put between them again. -/
theorem intercalate_splitAtDots (chars : List Char) :
    ['.'].intercalate (splitAtDots chars) = chars := by
  induction chars with
  | nil => rfl
  | cons char rest inductionHypothesis =>
      obtain ⟨part, parts, split⟩ := List.exists_cons_of_ne_nil (splitAtDots_ne_nil rest)
      rw [split] at inductionHypothesis
      rw [splitAtDots, split]
      by_cases dot : char = '.'
      · rw [if_pos dot, List.intercalate_cons_cons, inductionHypothesis, dot]
        rfl
      · rw [if_neg dot]
        dsimp only
        rw [← inductionHypothesis]
        cases parts with
        | nil => rfl
        | cons next others => rfl

end Provisioning.Text
