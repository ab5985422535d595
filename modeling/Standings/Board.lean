import Standings.Bisect
import Standings.Standing

/-! # Boards

A board is a sequence of standings sorted in a direction. `rank` makes one from standings in any
order, and `Board.partitionPoint` finds the place of a cursor on it by bisection. Main statements:
`rank_perm` and `rank_sorted`, a board holds the standings it was made from, in its direction. -/

namespace Standings

/-- Standings in the order in which they are shown. -/
abbrev Board := Array Standing

/-- Sorts standings into a board. Distinct standings never compare as equal, so the board depends
on which standings there are and not on their order. -/
def rank (order : Direction) (standings : List Standing) : Board :=
  (standings.mergeSort order.notAfter).toArray

theorem rank_toList (order : Direction) (standings : List Standing) :
    (rank order standings).toList = standings.mergeSort order.notAfter := rfl

/-- Ranking loses no standing and adds none. -/
theorem mem_rank {order : Direction} {standings : List Standing} {s : Standing} :
    s ∈ rank order standings ↔ s ∈ standings := by
  simp [rank]

/-- Ranking keeps every standing as often as it is there. -/
theorem rank_perm (order : Direction) (standings : List Standing) :
    (rank order standings).toList.Perm standings :=
  List.mergeSort_perm _ _

@[simp] theorem size_rank (order : Direction) (standings : List Standing) :
    (rank order standings).size = standings.length := by
  simp [rank]

/-- A board lists standings in its direction. -/
theorem rank_sorted (order : Direction) (standings : List Standing) :
    (rank order standings).toList.Pairwise (order.notAfter · ·) := by
  apply List.pairwise_mergeSort
  · intro a b c hab hbc
    simp only [Direction.notAfter, bne_iff_ne, ne_eq, ← Ordering.isLE_iff_ne_gt] at *
    exact Std.TransCmp.isLE_trans hab hbc
  · intro a b
    -- Of two standings one does not stand after the other.
    rw [Direction.notAfter, Direction.notAfter, order.compare_swap a b]
    cases order.compare a b <;> rfl

namespace Board

/-- The number of standings at the start of the board on which `p` holds, for a `p` that, once it
fails, fails from there on. -/
def partitionPoint (board : Board) (p : Standing → Bool) : Nat :=
  bisect (fun i => board[i]?.any p) 0 board.size

/-- The partition point is a place on the board or its end, also on a board in no order. -/
theorem partitionPoint_le_size (board : Board) (p : Standing → Bool) :
    board.partitionPoint p ≤ board.size :=
  bisect_le _ (Nat.zero_le _)

end Board

end Standings
