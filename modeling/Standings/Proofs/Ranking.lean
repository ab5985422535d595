import Mathlib.Data.Fintype.Prod
import Standings.Board

/-!
# Boards as the only sorted lists

No two different standings compare as equal. So there is one sorted list that holds given standings,
each as often as it is given, and ranking finds it in whatever order they come. A board made from
standings without repetition is strictly sorted, and it is the only strictly sorted list of just
these standings.

## Key results

- `eq_rank_iff`: the board is the sorted list of its standings
- `eq_of_pairwise_before`: strictly sorted lists with the same members are the same
- `rank_sorts_uniquely`: the order on standings, and what ranking makes of it
-/

namespace Standings

variable {order : Direction}

/-- One standing stands before another by its score, and among equal scores by the lower id. -/
theorem before_iff_score {a b : Standing} :
    order.before a b ↔
      (match order with
        | .ascending => a.score < b.score
        | .descending => b.score < a.score) ∨
      a.score = b.score ∧ a.user.value < b.user.value := by
  have hscore : ∀ m n : Int64, compare m n = .lt ↔ m < n := fun _ _ => Std.compare_eq_lt
  have hequal : ∀ m n : Int64, compare m n = .eq ↔ m = n := fun _ _ =>
    Std.LawfulEqOrd.compare_eq_iff_eq
  -- Scores are compared in the direction of the board and ids in the ascending one.
  rw [Direction.before_iff]
  cases order with
  | ascending =>
    simp only [Direction.compare, Ordering.then_eq_lt, UserId.compare_def, hscore, hequal]
  | descending =>
    simp only [Direction.compare, Ordering.then_eq_lt, UserId.compare_def, hscore, hequal]
    rw [eq_comm]

/-! ## Standings that may repeat -/

/-- Sorted lists that hold the same standings, each as often, are the same. -/
theorem eq_of_pairwise_notAfter {l l' : List Standing} (hs : l.Pairwise (order.notAfter · ·))
    (hs' : l'.Pairwise (order.notAfter · ·)) (hperm : l.Perm l') : l = l' := by
  apply List.Perm.eq_of_pairwise _ hs hs' hperm
  intro a b _ _ hab hba
  -- Were they different, each would stand before the other.
  rcases Direction.notAfter_iff.1 hab with hab | rfl
  · rw [Direction.notAfter_eq_not_before, hab] at hba
    simp at hba
  · rfl

/-- The board of standings is the sorted list of them. -/
theorem eq_rank_iff {standings l : List Standing} :
    l = (rank order standings).toList ↔ l.Perm standings ∧ l.Pairwise (order.notAfter · ·) := by
  constructor
  · rintro rfl
    exact ⟨rank_perm order standings, rank_sorted order standings⟩
  · intro ⟨hperm, hs⟩
    exact eq_of_pairwise_notAfter hs (rank_sorted order standings)
      (hperm.trans (rank_perm order standings).symm)

/-- In either direction the comparison is a strict total order on standings, under which only a
standing itself ties with it. So of all lists that hold given standings, each as often as it is
given, one is sorted, and this is their board; the order in which they are given does not matter,
and a board is ranked already. -/
theorem rank_sorts_uniquely (order : Direction) :
    (∀ a b : Standing, order.compare a b = .eq ↔ a = b) ∧
    (∀ a b : Standing, order.compare b a = (order.compare a b).swap) ∧
    (∀ a b c : Standing, order.compare a b = .lt → order.compare b c = .lt →
      order.compare a c = .lt) ∧
    ∀ standings : List Standing,
      (∀ l : List Standing, l = (rank order standings).toList ↔
        l.Perm standings ∧ l.Pairwise fun a b => order.compare a b ≠ .gt) ∧
      (∀ standings', standings'.Perm standings → rank order standings' = rank order standings) ∧
      rank order (rank order standings).toList = rank order standings := by
  -- The other board is sorted and holds the same standings, so it is this one.
  have hperm : ∀ standings standings' : List Standing, standings'.Perm standings →
      rank order standings' = rank order standings := by
    intro standings standings' h
    apply Array.toList_inj.1
    rw [eq_rank_iff]
    exact ⟨(rank_perm order standings').trans h, rank_sorted order standings'⟩
  refine ⟨fun _ _ => Std.LawfulEqCmp.compare_eq_iff_eq, order.compare_swap,
    fun _ _ _ => Std.TransCmp.lt_trans, fun standings => ⟨fun l => ?_, hperm standings, ?_⟩⟩
  · rw [eq_rank_iff]
    simp [Direction.notAfter]
  · exact hperm _ _ (rank_perm order standings)

/-- Four standings, one of them twice and three with one score, and the board made from them in
another order. -/
theorem rank_sorts_uniquely_ties :
    let standings : List Standing := [⟨⟨9⟩, 50⟩, ⟨⟨4⟩, 100⟩, ⟨⟨2⟩, 50⟩, ⟨⟨9⟩, 50⟩]
    (rank .descending standings).toList = [⟨⟨4⟩, 100⟩, ⟨⟨2⟩, 50⟩, ⟨⟨9⟩, 50⟩, ⟨⟨9⟩, 50⟩] ∧
      rank .descending standings.reverse = rank .descending standings ∧
      Direction.descending.compare ⟨⟨4⟩, 100⟩ ⟨⟨9⟩, 50⟩ = .lt := by
  intro standings
  obtain ⟨-, -, htrans, hrank⟩ := rank_sorts_uniquely .descending
  obtain ⟨hunique, hperm, -⟩ := hrank standings
  refine ⟨Eq.symm ((hunique _).2 ⟨by decide, by decide⟩), hperm _ (List.reverse_perm _), ?_⟩
  exact htrans _ ⟨⟨2⟩, 50⟩ _ (by decide) (by decide)

/-! ## Different standings -/

/-- A board of different standings is strictly sorted. -/
theorem pairwise_before_rank {standings : List Standing} (hnodup : standings.Nodup) :
    (rank order standings).toList.Pairwise (order.before · ·) := by
  have hdistinct : (rank order standings).toList.Nodup :=
    (rank_perm order standings).nodup_iff.2 hnodup
  -- Of two different standings, one that is not after the other stands before it.
  apply (List.Pairwise.and (rank_sorted order standings) hdistinct).imp
  intro a b ⟨hle, hne⟩
  exact (Direction.notAfter_iff.1 hle).resolve_right hne

/-- A strictly sorted list repeats nothing. -/
theorem nodup_of_pairwise_before {l : List Standing} (hs : l.Pairwise (order.before · ·)) :
    l.Nodup := by
  apply hs.imp
  -- Nothing stands before itself.
  rintro a _ hab rfl
  simp at hab

/-- A strictly sorted list is sorted. -/
theorem pairwise_notAfter_of_before {l : List Standing} (hs : l.Pairwise (order.before · ·)) :
    l.Pairwise (order.notAfter · ·) :=
  hs.imp fun h => Direction.notAfter_iff.2 (.inl h)

/-- Strictly sorted lists of the same standings are the same. -/
theorem eq_of_pairwise_before {l l' : List Standing} (hs : l.Pairwise (order.before · ·))
    (hs' : l'.Pairwise (order.before · ·)) (hmem : ∀ s, s ∈ l ↔ s ∈ l') : l = l' := by
  apply List.Perm.eq_of_pairwise _ hs hs'
  · exact (List.perm_ext_iff_of_nodup (nodup_of_pairwise_before hs)
      (nodup_of_pairwise_before hs')).2 fun s => hmem s
  · intro a b _ _ hab hba
    simp [Direction.before_asymm hab] at hba

namespace Standing

/-- A standing as two words. -/
def words (s : Standing) : Fin (2 ^ 64) × Fin (2 ^ 64) :=
  (s.user.value.toBitVec.toFin, s.score.toBitVec.toFin)

theorem words_injective : Function.Injective words := by
  intro ⟨⟨user⟩, score⟩ ⟨⟨user'⟩, score'⟩ h
  obtain ⟨huser, hscore⟩ := Prod.mk.inj h
  obtain rfl : user = user' := Int64.toBitVec_inj.1 (BitVec.toFin_inj.1 huser)
  obtain rfl : score = score' := Int64.toBitVec_inj.1 (BitVec.toFin_inj.1 hscore)
  rfl

/-- There are no more standings than pairs of words, so no list of different ones is longer. -/
theorem length_le_of_nodup {l : List Standing} (hnodup : l.Nodup) :
    l.length ≤ 2 ^ 128 := by
  -- Different standings are different pairs of words, of which there are `2 ^ 64 * 2 ^ 64`.
  have hle := (hnodup.map words_injective).length_le_card
  rw [List.length_map, Fintype.card_prod, Fintype.card_fin] at hle
  exact hle

end Standing

end Standings
