import CharLcd.Grid
import Mathlib.Data.List.Nodup
import Mathlib.Data.List.ProdSigma

/-!
# Scan order

The scan of a grid meets every position exactly once, line by line.

- `Grid.nodup_positions`: no position comes twice.
- `Grid.not_mem_of_positions_eq`: a position is not among those before it.
- `Grid.Before`, `Grid.pairwise_positions`: upper lines come first, and left columns in a line.
-/

namespace CharLcd.Grid

variable {height width : Nat}

/-- The scan meets no position twice. -/
theorem nodup_positions : (positions height width).Nodup := by
  have hproduct : positions height width =
      (List.finRange height).product (List.finRange width) := rfl
  rw [hproduct]
  exact (List.nodup_finRange height).product (List.nodup_finRange width)

/-- A position that the scan comes to before another one: in a line above, or further to the left
in the same line. -/
def Before (line column line' column' : Nat) : Prop :=
  line < line' ∨ line = line' ∧ column < column'

/-- The scan goes through the lines from top to bottom, and through each from left to right. -/
theorem pairwise_positions : (positions height width).Pairwise fun p q =>
    Before p.1.val p.2.val q.1.val q.2.val := by
  rw [positions, List.pairwise_flatMap]
  constructor
  · intro line _
    rw [List.pairwise_map]
    exact (List.pairwise_lt_finRange width).imp fun hlt => .inr ⟨rfl, hlt⟩
  · refine (List.pairwise_lt_finRange height).imp ?_
    intro line line' hlt p hp q hq
    obtain ⟨column, -, rfl⟩ := List.mem_map.mp hp
    obtain ⟨column', -, rfl⟩ := List.mem_map.mp hq
    exact .inl hlt

/-- The scan has not met a position before it comes to it. -/
theorem not_mem_of_positions_eq {done rest : List (Fin height × Fin width)}
    {p : Fin height × Fin width} (h : done ++ p :: rest = positions height width) : p ∉ done := by
  have hnodup : (positions height width).Nodup := nodup_positions
  rw [← h] at hnodup
  exact fun hp => (List.nodup_append.mp hnodup).2.2 p hp p List.mem_cons_self rfl

end CharLcd.Grid
