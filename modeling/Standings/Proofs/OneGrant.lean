import Standings.Proofs.Leaderboard
import Standings.Proofs.Position

/-!
# What one grant changes

A grant is recorded behind all others, and the board is made anew. This file compares the two boards
of points. All other users keep their scores and the order among themselves, so whatever changes is
the entry of the user to whom points are granted: it appears, or its score changes and it moves
past some of the others. How far it moves is read off the others, of whom as many stand before the
entry as its position says.

## Key results

- `Ledger.others_board_append`: the others are as before
- `Ledger.toInt_score_append`: the new score is the old one with the points added
- `grant_moves_one_entry`: the two boards compared
-/

namespace Standings

namespace Ledger

variable {ledger : Ledger} {filter : Filter} {window : Window} {grant : Grant} {user : UserId}

/-! ## Boards before and after -/

theorem score?_board : (ledger.board filter window).score? user =
    (ledger.tally filter.metric window)[user]? := by
  ext score
  rw [Board.score?_eq_some_iff (nodup_users_board ledger filter window), mem_board]

theorem size_board : (ledger.board filter window).size =
    (ledger.tally filter.metric window).size := by
  rw [board, size_rank, Tally.standings, List.length_map, Std.ExtTreeMap.length_toList]

/-- A grant leaves the others as they are, in the same order. -/
theorem others_board_append (ledger : Ledger) (filter : Filter) (window : Window) (grant : Grant) :
    ((ledger.append grant).board filter window).others grant.user =
      (ledger.board filter window).others grant.user := by
  -- Both are strictly sorted, so it is enough that they have the same entries.
  apply eq_of_pairwise_before ((pairwise_before_board _ filter window).filter _)
    ((pairwise_before_board _ filter window).filter _)
  intro s
  simp only [List.mem_filter, mem_board, decide_eq_true_eq]
  apply and_congr_left
  intro hne
  rw [getElem?_tally_append _ (Ne.symm hne)]

/-- A grant outside the window leaves the board as it is. -/
theorem board_append_of_not_contains {order : Direction} {period : Period}
    (houtside : ¬window.contains grant.grantedAt) :
    (ledger.append grant).board ⟨.points, order, period⟩ window =
      ledger.board ⟨.points, order, period⟩ window := by
  simp only [board, tally_append_points, if_neg houtside]

/-- A grant inside the window adds its points to the score of its user, who stands on the board
from then on. -/
theorem toInt_score_append {order : Direction} {period : Period}
    (hcontains : window.contains grant.grantedAt) (hbefore : ledger.TotalFits window grant.user)
    (hafter : (ledger.append grant).TotalFits window grant.user) :
    ∃ score, ((ledger.append grant).board ⟨.points, order, period⟩ window).score? grant.user =
        some score ∧
      score.toInt =
        (((ledger.board ⟨.points, order, period⟩ window).score? grant.user).getD 0).toInt +
          grant.points.toInt := by
  -- In words the points are added to what there was; both sums fit, so they are exact.
  have hadded : ((ledger.append grant).tally .points window)[grant.user]? =
      some ((ledger.tally .points window)[grant.user]?.getD 0 + grant.points.toInt64) := by
    rw [tally_append_points, if_pos hcontains, Tally.getElem?_addGrant, if_pos rfl]
  have hscore := toInt_tally_points hafter
  rw [hadded, Option.getD_some] at hscore
  rw [score?_board, score?_board]
  refine ⟨_, hadded, ?_⟩
  rw [hscore, total_append hcontains, toInt_tally_points hbefore]

/-- A user who is granted points moves to the front where the highest score comes first, and to the
end where the lowest does. -/
theorem position?_append {order : Direction} {period : Period} {i : Nat}
    (hbefore : ledger.TotalFits window grant.user)
    (hafter : (ledger.append grant).TotalFits window grant.user) (hpoints : 0 < grant.points.toInt)
    (hi : (ledger.board ⟨.points, order, period⟩ window).position? grant.user = some i) :
    ∃ j, ((ledger.append grant).board ⟨.points, order, period⟩ window).position? grant.user =
        some j ∧
      (order = .ascending → i ≤ j) ∧ (order = .descending → j ≤ i) := by
  have hsorted := fun ledger : Ledger =>
    pairwise_before_board ledger ⟨.points, order, period⟩ window
  have hnodup := fun ledger : Ledger => nodup_users_board ledger ⟨.points, order, period⟩ window
  obtain ⟨low, hlow⟩ := Board.exists_mem_of_position? hi
  -- Outside the window the score stays, and inside it grows.
  obtain ⟨high, hhigh, hle⟩ : ∃ high,
      ⟨grant.user, high⟩ ∈ ((ledger.append grant).board ⟨.points, order, period⟩ window).toList ∧
        low ≤ high := by
    by_cases hcontains : window.contains grant.grantedAt
    · obtain ⟨high, hscore, hsum⟩ := toInt_score_append hcontains hbefore hafter
      rw [Board.score?_eq_some_iff (hnodup _)] at hscore
      rw [(Board.score?_eq_some_iff (hnodup _)).2 hlow, Option.getD_some] at hsum
      refine ⟨high, hscore, ?_⟩
      rw [Int64.le_iff_toInt_le]
      omega
    · rw [board_append_of_not_contains hcontains]
      exact ⟨low, hlow, Int64.le_refl low⟩
  have hposition := Board.position?_of_mem (hsorted _) (hnodup _) hlow
  -- Either position counts the others ahead of the user's entry.
  obtain rfl : i = _ := Option.some.inj (hi.symm.trans hposition)
  refine ⟨_, Board.position?_of_mem (hsorted _) (hnodup _) hhigh, ?_⟩
  -- The others are the same, so it is enough to compare the two entries.
  rw [others_board_append]
  constructor
  · rintro rfl
    exact countP_before_le (notAfter_of_score_le hle).1 _
  · rintro rfl
    exact countP_before_le (notAfter_of_score_le hle).2 _

end Ledger

/-- With one more grant, all other users keep their scores and their order among themselves. A grant
outside the window changes nothing at all, and one inside adds its points to the score of its user,
who is counted from then on. Who gains points does not fall behind where the highest score comes
first, nor get ahead where the lowest does. -/
theorem grant_moves_one_entry {ledger : Ledger} {window : Window} {grant : Grant}
    (order : Direction) (period : Period) (hbefore : ledger.TotalFits window grant.user)
    (hafter : (ledger.append grant).TotalFits window grant.user) :
    let before := ledger.board ⟨.points, order, period⟩ window
    let after := (ledger.append grant).board ⟨.points, order, period⟩ window
    after.others grant.user = before.others grant.user ∧
      (∀ user ≠ grant.user, after.score? user = before.score? user) ∧
      (¬window.contains grant.grantedAt → after = before) ∧
      (window.contains grant.grantedAt →
        (∃ score, after.score? grant.user = some score ∧
          score.toInt = ((before.score? grant.user).getD 0).toInt + grant.points.toInt) ∧
        ∀ request, (paginate after request).totalCount = (paginate before request).totalCount +
          if before.score? grant.user = none then 1 else 0) ∧
      ∀ i, before.position? grant.user = some i → 0 < grant.points.toInt →
        ∃ j, after.position? grant.user = some j ∧
          (order = .ascending → i ≤ j) ∧ (order = .descending → j ≤ i) := by
  intro before after
  refine ⟨ledger.others_board_append _ window grant, fun user hne => ?_,
    fun houtside => Ledger.board_append_of_not_contains houtside,
    fun hinside => ⟨Ledger.toInt_score_append hinside hbefore hafter, fun request => ?_⟩,
    fun i hi hpoints => Ledger.position?_append hbefore hafter hpoints hi⟩
  · -- The tally of another user is the same before and after.
    rw [Ledger.score?_board, Ledger.score?_board, Ledger.getElem?_tally_append _ hne.symm]
  · -- A board is as long as its tally, which grows by a user that it did not hold.
    have hsize : ∀ board : Board, (paginate board request).totalCount = board.size := fun _ => rfl
    rw [hsize, hsize, Ledger.size_board, Ledger.size_board, Ledger.score?_board,
      Ledger.tally_append_points, if_pos hinside, Tally.size_addGrant]

/-- On the sample day the third user, whose points cancel out, is granted twenty: the entry leaves
the last place with a score of twenty, and the board is as long as before. -/
theorem grant_moves_one_entry_sample :
    let grant : Grant := ⟨6, ⟨3⟩, 20, Sample.noon, "quiz"⟩
    let after := (Sample.ledger.append grant).board Sample.filter Sample.window
    after.others ⟨3⟩ = [⟨⟨1⟩, 30⟩, ⟨⟨2⟩, 10⟩] ∧
      (∃ score, after.score? ⟨3⟩ = some score ∧ score.toInt = 20) ∧
      (∃ j, after.position? ⟨3⟩ = some j ∧ j ≤ 2) ∧
      (paginate after ⟨.descending, ⟨.first, 50⟩, none, none⟩).totalCount = 3 := by
  intro grant after
  have hbefore : Sample.ledger.TotalFits Sample.window grant.user := by decide +kernel
  have hafter : (Sample.ledger.append grant).TotalFits Sample.window grant.user := by decide +kernel
  have hinside : Sample.window.contains grant.grantedAt := by decide +kernel
  obtain ⟨hothers, -, -, hentry, hmoves⟩ := grant_moves_one_entry .descending .daily hbefore hafter
  obtain ⟨⟨score, hscore, hsum⟩, htotal⟩ := hentry hinside
  -- What is known of the board before is read off its list.
  have hboard := Sample.board_eq
  generalize hfirst : Sample.ledger.board Sample.filter Sample.window = before at hboard
  have hold : before.score? ⟨3⟩ = some 0 := by
    rw [Board.score?, hboard]
    rfl
  have hposition : before.position? ⟨3⟩ = some 2 := by
    rw [Board.position?, hboard]
    rfl
  have hleft : before.others ⟨3⟩ = [⟨⟨1⟩, 30⟩, ⟨⟨2⟩, 10⟩] := by
    rw [Board.others, hboard]
    rfl
  subst hfirst
  obtain ⟨j, hj, -, hle⟩ := hmoves 2 hposition (by decide)
  refine ⟨hothers.trans hleft, ⟨score, hscore, hsum.trans ?_⟩, ⟨j, hj, hle rfl⟩,
    (htotal _).trans ?_⟩
  · exact congrArg (fun score => (score.getD 0).toInt + (20 : Int)) hold
  · have hnew : ¬(Sample.ledger.board Sample.filter Sample.window).score? ⟨3⟩ = none := by
      simp [hold]
    exact (congrArg (_ + ·) (if_neg hnew)).trans (congrArg List.length hboard)

end Standings
