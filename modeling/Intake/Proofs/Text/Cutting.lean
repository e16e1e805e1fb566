import Intake.Text.Blank

/-!
# Cutting

A list that is cut at a mark falls into pieces: none of them holds the mark
(`not_mem_of_mem_splitAtEach`), and with the mark between them they are the list again
(`intercalate_splitAtEach`). A list without the mark is one piece.
-/

namespace Intake.Text

variable {α : Type}

/-- A run without cuts goes to the first of the pieces that follow it. -/
theorem splitAtEach_append {p : α → Bool} {l : List α} (uncut : ∀ a ∈ l, p a = false)
    (rest : List α) :
    splitAtEach p (l ++ rest) = l.foldr consPiece (splitAtEach p rest) := by
  induction l with
  | nil => rfl
  | cons a l ih =>
    have tail := ih fun b member => uncut b (List.mem_cons_of_mem _ member)
    have here : ¬ p a = true := by simp [uncut a]
    rw [List.cons_append, splitAtEach, if_neg here, tail, List.foldr_cons]

/-- Cuts before an element at which there is a cut do not see what comes after it. -/
theorem splitAtEach_append_cons {p : α → Bool} {a : α} (cut : p a = true) (l rest : List α) :
    splitAtEach p (l ++ a :: rest) = splitAtEach p l ++ splitAtEach p rest := by
  induction l with
  | nil => simp [splitAtEach, cut]
  | cons b l ih =>
    rw [List.cons_append, splitAtEach, splitAtEach, ih]
    split
    · rfl
    · cases pieces_eq : splitAtEach p l with
      | nil => exact absurd pieces_eq (splitAtEach_ne_nil p l)
      | cons piece pieces => rfl

theorem foldr_consPiece (l piece : List α) (pieces : List (List α)) :
    l.foldr consPiece (piece :: pieces) = (l ++ piece) :: pieces := by
  induction l with
  | nil => rfl
  | cons a l ih => rw [List.foldr_cons, ih]; rfl

/-- Without a cut there is one piece. -/
theorem splitAtEach_of_uncut {p : α → Bool} {l : List α} (uncut : ∀ a ∈ l, p a = false) :
    splitAtEach p l = [l] := by
  have cut := splitAtEach_append uncut []
  rwa [List.append_nil, splitAtEach, foldr_consPiece, List.append_nil] at cut

section

variable [BEq α] [LawfulBEq α]

/-- The pieces, with what they were cut at between them, are the whole. -/
theorem intercalate_splitAtEach (mark : α) (l : List α) :
    [mark].intercalate (splitAtEach (· == mark) l) = l := by
  induction l with
  | nil => rfl
  | cons a rest ih =>
    cases pieces_eq : splitAtEach (· == mark) rest with
    | nil => exact absurd pieces_eq (splitAtEach_ne_nil _ _)
    | cons piece pieces =>
      rw [pieces_eq] at ih
      by_cases cut : a = mark
      · rw [splitAtEach, if_pos (by simp [cut]), pieces_eq, List.intercalate_cons_cons, ih, cut]
        rfl
      · rw [splitAtEach, if_neg (by simp [cut]), pieces_eq, consPiece, ← ih]
        cases pieces <;> rfl

/-- No piece holds what the pieces were cut at. -/
theorem not_mem_of_mem_splitAtEach (mark : α) (l : List α) :
    ∀ piece ∈ splitAtEach (· == mark) l, mark ∉ piece := by
  induction l with
  | nil => simp [splitAtEach]
  | cons a rest ih =>
    cases pieces_eq : splitAtEach (· == mark) rest with
    | nil => exact absurd pieces_eq (splitAtEach_ne_nil _ _)
    | cons first pieces =>
      rw [pieces_eq] at ih
      obtain ⟨first_free, others_free⟩ := List.forall_mem_cons.mp ih
      rw [splitAtEach, pieces_eq]
      split
      · exact List.forall_mem_cons.mpr ⟨List.not_mem_nil, ih⟩
      · next other =>
        refine List.forall_mem_cons.mpr ⟨?_, others_free⟩
        rw [List.mem_cons, not_or]
        exact ⟨fun e => other (by simp [e]), first_free⟩

/-- Without the mark there is one piece. -/
theorem splitAtEach_of_not_mem {mark : α} {l : List α} (absent : mark ∉ l) :
    splitAtEach (· == mark) l = [l] :=
  splitAtEach_of_uncut fun _ mem => beq_eq_false_iff_ne.mpr fun e => absent (e ▸ mem)

end

end Intake.Text
