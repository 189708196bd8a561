/-!
Contract: sequences cut at a separator.

Owns: the pieces between separators.

Does not own: what a piece may hold.
-/

namespace TripleStore.Text

/-- The pieces between separators, one more than there are separators. -/
def pieces {α : Type} [DecidableEq α] (separator : α) : List α → List (List α)
  | [] => [[]]
  | first :: rest =>
      if first = separator then
        [] :: pieces separator rest
      else
        match pieces separator rest with
        | [] => [[first]]
        | piece :: others => (first :: piece) :: others

theorem pieces_ne_nil {α : Type} [DecidableEq α] (separator : α) (elements : List α) :
    pieces separator elements ≠ [] := by
  cases elements with
  | nil => simp [pieces]
  | cons first rest =>
    unfold pieces
    split
    · simp
    · split <;> simp

end TripleStore.Text
