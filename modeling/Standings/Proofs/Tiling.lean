import Mathlib.Algebra.BigOperators.Group.List.Basic
import Standings.Proofs.Tally

/-!
# Windows one after the other

Windows of which each starts where the one before it stops tile the time from the first start to
the last stop: every instant of that time lies in exactly one of them. So the events of the whole
time are those of the windows, each once, and a user is in the tally of the whole exactly if in the
tally of a window. Points of the whole are the sum of the points of the windows. Completed questions
need not be, as a question that is solved in two windows is one question; they are as many as in any
window at least and the sum at most.

## Key results

- `Window.Tiles.contains_iff` / `Window.Tiles.pairwise_disjoint`: a window as disjoint union
- `Window.Tiles.filter_perm`: the events of a window are those of its tiles
- `Ledger.mem_tally_of_tiles`, `Ledger.score_points_of_tiles`, `Ledger.score_le_of_tiles`: tallies
-/

namespace Standings

open Calendar

/-! ## Tiles -/

namespace Window

theorem contains_iff {window : Window} {t : Instant} :
    window.contains t ↔ window.start ≤ t ∧ t < window.stop := by
  rw [contains, Bool.and_eq_true, decide_eq_true_eq, decide_eq_true_eq]

/-- Two windows have no instant in common. -/
def Disjoint (window window' : Window) : Prop :=
  ∀ t, ¬(window.contains t ∧ window'.contains t)

/-- Windows one after the other, from an instant to another. A window may be empty, but none stops
before it starts. -/
inductive Tiles : Instant → List Window → Instant → Prop where
  /-- From an instant to itself there is nothing to tile. -/
  | nil (t : Instant) : Tiles t [] t
  /-- The later windows go on where the first one stops. -/
  | cons {window : Window} {later : List Window} {stop : Instant}
      (hle : window.start ≤ window.stop) (hlater : Tiles window.stop later stop) :
      Tiles window.start (window :: later) stop

namespace Tiles

variable {start stop : Instant} {tiles : List Window}

/-- Time that is tiled does not run backwards. -/
theorem start_le_stop (h : Tiles start tiles stop) : start ≤ stop := by
  induction h with
  | nil => exact Int.le_refl _
  -- Along the tiles: the first stops no earlier than it starts, and the rest starts there.
  | cons hle _ ih => exact Int.le_trans hle ih

/-- No tile starts before the first. -/
theorem start_le_of_mem (h : Tiles start tiles stop) {tile : Window} (htile : tile ∈ tiles) :
    start ≤ tile.start := by
  induction h with
  | nil => cases htile
  | cons hle _ ih =>
    obtain _ | ⟨_, hmem⟩ := htile
    · exact Int.le_refl _
    · exact Int.le_trans hle (ih hmem)

/-- An instant of a window that is cut in two lies in one of the parts. -/
theorem contains_cut {start middle stop t : Instant} (hstart : start ≤ middle)
    (hstop : middle ≤ stop) :
    contains ⟨start, stop⟩ t = (contains ⟨start, middle⟩ t || contains ⟨middle, stop⟩ t) := by
  rw [Bool.eq_iff_iff, Bool.or_eq_true, contains_iff, contains_iff, contains_iff]
  -- Instants compare as their keys, which are numbers.
  simp only [Instant.le_def, Instant.lt_def] at *
  omega

/-- The instants between the ends are those of the tiles. -/
theorem contains_iff (h : Tiles start tiles stop) {t : Instant} :
    contains ⟨start, stop⟩ t ↔ ∃ tile ∈ tiles, tile.contains t := by
  induction h with
  | nil =>
    rw [Window.contains_iff]
    simp only [Instant.le_def, Instant.lt_def, List.not_mem_nil, false_and, exists_false, iff_false]
    omega
  | cons hle hlater ih =>
    -- Cut at the stop of the first tile: the instant lies in it, or in what the others tile.
    rw [contains_cut hle hlater.start_le_stop, Bool.or_eq_true, ih, List.exists_mem_cons_iff]

/-- No two tiles have an instant in common. -/
theorem pairwise_disjoint (h : Tiles start tiles stop) : tiles.Pairwise Disjoint := by
  induction h with
  | nil => exact .nil
  | cons hle hlater ih =>
    refine .cons ?_ ih
    rintro tile htile t ⟨hfirst, hsecond⟩
    -- A later tile starts where the first one stops, or behind.
    have hstart := hlater.start_le_of_mem htile
    rw [Window.contains_iff] at hfirst hsecond
    simp only [Instant.le_def, Instant.lt_def] at *
    omega

/-- The events between the ends are those of the tiles, each of them once. -/
theorem filter_perm {ε : Type} (h : Tiles start tiles stop) (instant : ε → Instant)
    (events : List ε) :
    (events.filter fun event => contains ⟨start, stop⟩ (instant event)).Perm
      (tiles.flatMap fun tile => events.filter fun event => tile.contains (instant event)) := by
  induction h with
  | nil t =>
    -- No event lies in no time.
    have hnone : (events.filter fun event => contains ⟨t, t⟩ (instant event)) = [] := by
      rw [List.filter_eq_nil_iff]
      intro event _
      rw [Window.contains_iff]
      simp only [Instant.le_def, Instant.lt_def]
      omega
    rw [hnone, List.flatMap_nil]
  | @cons window later stop hle hlater ih =>
    have hstop := hlater.start_le_stop
    -- An event of the whole is one of the first window or, if it is not, one of the rest.
    have hfirst : ∀ t, (window.contains t && contains ⟨window.start, stop⟩ t) =
        window.contains t := by
      intro t
      rw [contains_cut hle hstop]
      cases window.contains t <;> rfl
    have hrest : ∀ t, (!window.contains t && contains ⟨window.start, stop⟩ t) =
        contains ⟨window.stop, stop⟩ t := by
      intro t
      rw [Bool.eq_iff_iff, Bool.and_eq_true, Bool.not_eq_true', ← Bool.not_eq_true,
        Window.contains_iff, Window.contains_iff, Window.contains_iff]
      simp only [Instant.le_def, Instant.lt_def] at *
      omega
    -- Sort the events of the whole into those two parts; the rest is tiled by the later tiles.
    have hcut := List.filter_append_perm (fun event => window.contains (instant event))
      (events.filter fun event => contains ⟨window.start, stop⟩ (instant event))
    simp only [List.filter_filter, hfirst, hrest] at hcut
    rw [List.flatMap_cons]
    exact hcut.symm.trans (ih.append_left _)

end Tiles

end Window

/-! ## Tallies -/

/-- The score of a user in a tally; zero for a user who is not in it. -/
def Tally.score (tally : Tally) (user : UserId) : Int64 := tally[user]?.getD 0

namespace Ledger

variable {ledger : Ledger} {window : Window} {user : UserId}

theorem mem_tally_points :
    user ∈ ledger.tally .points window ↔ ledger.grantsTo window user ≠ [] := by
  rw [Std.ExtTreeMap.mem_iff_isSome_getElem?, getElem?_tally_points]
  split <;> simp_all

theorem mem_tally_completedQuestions :
    user ∈ ledger.tally .completedQuestions window ↔ ledger.successesOf window user ≠ [] := by
  rw [Std.ExtTreeMap.mem_iff_isSome_getElem?, getElem?_tally_completedQuestions]
  split <;> simp_all

/-- The score of a user in points is the sum of the points granted, as a word. -/
theorem score_points : (ledger.tally .points window).score user =
    Int64.ofInt ((ledger.grantsTo window user).map fun grant => grant.points.toInt).sum := by
  rw [Tally.score, getElem?_tally_points]
  split
  · next hnil => rw [hnil]; rfl
  · rfl

/-- The score of a user in completed questions is their number, if there are not more submissions
than a word can count. -/
theorem toInt_score_completedQuestions (hsubmissions : ledger.submissions.length < 2 ^ 63) :
    ((ledger.tally .completedQuestions window).score user).toInt =
      ((ledger.successesOf window user).map Submission.question).toFinset.card := by
  have hcard := ledger.card_questions_lt window user hsubmissions
  rw [Tally.score, getElem?_tally_completedQuestions]
  split
  · next hnil => rw [hnil]; rfl
  · exact Int64.toInt_ofNat_of_lt hcard

variable {start stop : Instant} {tiles : List Window}

/-- The grants to a user are those in the tiles. -/
theorem grantsTo_perm_of_tiles (h : Window.Tiles start tiles stop) (ledger : Ledger)
    (user : UserId) :
    (ledger.grantsTo ⟨start, stop⟩ user).Perm (tiles.flatMap (ledger.grantsTo · user)) := by
  -- First the events of the window, then the user's share of them.
  simp only [← filter_user_grants, ← List.filter_flatMap]
  exact (h.filter_perm Grant.grantedAt _).filter _

/-- The successes of a user are those in the tiles. -/
theorem successesOf_perm_of_tiles (h : Window.Tiles start tiles stop) (ledger : Ledger)
    (user : UserId) :
    (ledger.successesOf ⟨start, stop⟩ user).Perm (tiles.flatMap (ledger.successesOf · user)) := by
  -- Put the window first, for it is what is tiled.
  have hmine : ∀ window, ledger.successesOf window user =
      (ledger.submissions.filter fun submission =>
        window.contains submission.submittedAt).filter fun submission =>
          submission.user = user ∧ submission.status = .success := by
    intro window
    rw [successesOf, List.filter_filter]
    simp [Window.contains, Bool.and_assoc]
  simp only [hmine, ← List.filter_flatMap]
  exact (h.filter_perm Submission.submittedAt _).filter _

/-- A user is in the tally of the whole exactly if in the tally of a tile. -/
theorem mem_tally_of_tiles (h : Window.Tiles start tiles stop) (metric : Metric) :
    user ∈ ledger.tally metric ⟨start, stop⟩ ↔ ∃ tile ∈ tiles, user ∈ ledger.tally metric tile := by
  -- Who has an event of the whole has one in some tile, for either kind of events.
  have hnonempty : ∀ {ε : Type} {events : List ε} {share : Window → List ε},
      events.Perm (tiles.flatMap share) → (events ≠ [] ↔ ∃ tile ∈ tiles, share tile ≠ []) := by
    intro ε events share hperm
    have hnil : events = [] ↔ tiles.flatMap share = [] := by
      rw [← List.length_eq_zero_iff, hperm.length_eq, List.length_eq_zero_iff]
    rw [ne_eq, hnil, List.flatMap_eq_nil_iff]
    simp
  cases metric with
  | points =>
    simp only [mem_tally_points]
    exact hnonempty (grantsTo_perm_of_tiles h ledger user)
  | completedQuestions =>
    simp only [mem_tally_completedQuestions]
    exact hnonempty (successesOf_perm_of_tiles h ledger user)

/-- Points granted in the whole are those granted in the tiles. -/
theorem sum_points_of_tiles (h : Window.Tiles start tiles stop) (ledger : Ledger) (user : UserId) :
    ((ledger.grantsTo ⟨start, stop⟩ user).map fun grant => grant.points.toInt).sum =
      (tiles.map fun tile =>
        ((ledger.grantsTo tile user).map fun grant => grant.points.toInt).sum).sum := by
  -- The sum does not depend on the order, and sums of parts make up the sum of all.
  have hperm := (grantsTo_perm_of_tiles h ledger user).map fun grant => grant.points.toInt
  rw [hperm.sum_eq, List.map_flatMap, List.flatMap_def, List.sum_flatten, List.map_map]
  rfl

/-- Points add up: the score of the whole is the sum of the scores of the tiles, as a word. -/
theorem score_points_of_tiles (h : Window.Tiles start tiles stop) (ledger : Ledger)
    (user : UserId) :
    (ledger.tally .points ⟨start, stop⟩).score user =
      (tiles.map fun tile => (ledger.tally .points tile).score user).sum := by
  -- Words wrap around alike before and after adding.
  have hwords : ∀ sums : List Int, Int64.ofInt sums.sum = (sums.map Int64.ofInt).sum := by
    intro sums
    induction sums with
    | nil => rfl
    | cons sum sums ih => rw [List.sum_cons, Int64.ofInt_add, ih, List.map_cons, List.sum_cons]
  simp only [score_points]
  rw [sum_points_of_tiles h, hwords, List.map_map]
  rfl

/-- The sum is that of the numbers, too, if words suffice for the events of a single user. -/
theorem toInt_score_points_of_tiles (h : Window.Tiles start tiles stop)
    (hgrants : (ledger.grantsTo ⟨start, stop⟩ user).length ≤ 2 ^ 32) :
    ((ledger.tally .points ⟨start, stop⟩).score user).toInt =
      (tiles.map fun tile => ((ledger.tally .points tile).score user).toInt).sum := by
  -- Few grants have the word of their sum as score, and the word holds the sum.
  have hexact : ∀ {window : Window}, (ledger.grantsTo window user).length ≤ 2 ^ 32 →
      ((ledger.tally .points window).score user).toInt =
        ((ledger.grantsTo window user).map fun grant => grant.points.toInt).sum := by
    intro window hlen
    obtain ⟨hlow, hhigh⟩ := sum_points_bounds hlen
    rw [score_points, Int64.toInt_ofInt_of_le hlow hhigh]
  have hlength := (grantsTo_perm_of_tiles h ledger user).length_eq
  rw [hexact hgrants, sum_points_of_tiles h]
  congr 1
  apply List.map_congr_left
  intro tile htile
  -- A tile has no more grants than the whole.
  have hsublist := List.sublist_flatten_of_mem
    (List.mem_map_of_mem (f := (ledger.grantsTo · user)) htile)
  rw [← List.flatMap_def] at hsublist
  have hle := hsublist.length_le
  rw [hexact (by omega)]

/-- Completed questions do not add up: the score of the whole is the score of any tile at least, and
the sum of their scores at most. -/
theorem score_completedQuestions_of_tiles (h : Window.Tiles start tiles stop)
    (hsubmissions : ledger.submissions.length < 2 ^ 63) :
    (∀ tile ∈ tiles, ((ledger.tally .completedQuestions tile).score user).toInt ≤
        ((ledger.tally .completedQuestions ⟨start, stop⟩).score user).toInt) ∧
      ((ledger.tally .completedQuestions ⟨start, stop⟩).score user).toInt ≤
        (tiles.map fun tile =>
          ((ledger.tally .completedQuestions tile).score user).toInt).sum := by
  simp only [toInt_score_completedQuestions hsubmissions]
  -- Count the questions of the tiles in place of those of the whole.
  have hperm := successesOf_perm_of_tiles h ledger user
  rw [List.toFinset_eq_of_perm _ _ (hperm.map Submission.question), List.map_flatMap]
  constructor
  · intro tile htile
    rw [Int.ofNat_le]
    -- A question solved in a tile is solved in the whole.
    apply Finset.card_le_card
    intro question hquestion
    rw [List.mem_toFinset] at hquestion ⊢
    exact List.mem_flatMap_of_mem htile hquestion
  · -- A question is counted once in the whole, and once in each tile in which it is solved.
    clear h hperm
    induction tiles with
    | nil => simp
    | cons tile tiles ih =>
      have hunion := Finset.card_union_le
        ((ledger.successesOf tile user).map Submission.question).toFinset
        (tiles.flatMap fun tile =>
          (ledger.successesOf tile user).map Submission.question).toFinset
      rw [List.flatMap_cons, List.toFinset_append, List.map_cons, List.sum_cons]
      omega

end Ledger

end Standings
