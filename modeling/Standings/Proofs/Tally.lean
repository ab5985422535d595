import Mathlib.Algebra.Order.Ring.Int
import Mathlib.Data.Finset.Card
import Standings.Ledger.Service

/-!
# What a tally holds

A tally is made by one pass over the events of a ledger, which changes the total of one user at
each event. For a single user the pass is a fold over that user's own events, and all other events
might as well not be there. This file proves so once, for totals of any kind, and reads off it who
is in a tally and with which score.

## Key results

- `getElem?_foldl_alter`: a user's total is folded from the user's own events
- `Ledger.getElem?_tally_points` / `Ledger.getElem?_tally_completedQuestions`: the two metrics
- `Ledger.toInt_tally_points` / `Ledger.total_append`: totals as numbers of any size
- `Ledger.mem_standings_iff`: who stands where, with exact scores
- `Tally.nodup_standings`: every user once
-/

namespace Standings

/-! ## Totals by user -/

section Totals

variable {ε β : Type} (userOf : ε → UserId) (step : β → ε → β) (start : β)

/-- In a pass that changes the total of one user at each event, a user's total is folded from the
user's own events, starting from the total that was there before. -/
theorem getElem?_foldl_alter (events : List ε) (totals : Std.ExtTreeMap UserId β)
    (user : UserId) :
    (events.foldl (fun totals event =>
      totals.alter (userOf event) fun total => some (step (total.getD start) event))
      totals)[user]? =
      if events.filter (userOf · = user) = [] then totals[user]?
      else some ((events.filter (userOf · = user)).foldl step (totals[user]?.getD start)) := by
  -- Induction on the events; each changes the totals from which the others go on.
  induction events generalizing totals with
  | nil => simp
  | cons event events ih =>
    rw [List.foldl_cons, ih, Std.ExtTreeMap.getElem?_alter]
    by_cases huser : userOf event = user
    · -- The event changes the user's total, from which the later ones go on.
      simp only [huser, Std.LawfulEqOrd.compare_eq_iff_eq, if_true, decide_true,
        List.filter_cons_of_pos, List.foldl_cons, Option.getD_some, reduceCtorEq, if_false]
      split
      · next hnil => simp [hnil]
      · rfl
    · -- The event belongs to somebody else and changes nothing for the user.
      have hne : compare (userOf event) user ≠ .eq := by
        rwa [ne_eq, Std.LawfulEqOrd.compare_eq_iff_eq]
      simp only [if_neg hne, huser, decide_false, Bool.false_eq_true, not_false_eq_true,
        List.filter_cons_of_neg]

end Totals

/-! ## Events that count -/

namespace Ledger

variable (ledger : Ledger) (window : Window) (user : UserId)

/-- The grants to a user inside a window. -/
def grantsTo : List Grant :=
  ledger.grants.filter fun grant =>
    grant.user = user ∧ window.start ≤ grant.grantedAt ∧ grant.grantedAt < window.stop

/-- The successful submissions of a user inside a window. -/
def successesOf : List Submission :=
  ledger.submissions.filter fun submission =>
    submission.user = user ∧ submission.status = .success ∧
      window.start ≤ submission.submittedAt ∧ submission.submittedAt < window.stop

/-- A user's grants inside a window are the user's share of all grants inside it. -/
theorem filter_user_grants :
    (ledger.grants.filter fun grant => window.contains grant.grantedAt).filter
      (fun grant => grant.user = user) = ledger.grantsTo window user := by
  rw [List.filter_filter, grantsTo]
  -- The two conditions come in another order.
  simp [Window.contains]

/-- A user's successes inside a window are the user's share of all submissions that count. -/
theorem filter_user_submissions :
    (ledger.submissions.filter (Tally.counts window)).filter
      (fun submission => submission.user = user) = ledger.successesOf window user := by
  rw [List.filter_filter, successesOf]
  -- So do these three.
  simp [Tally.counts, Window.contains]

/-- A user has at least one event that counts, and a score that is exactly what those events give:
the sum of the points granted, or the number of different questions solved. -/
def Scores (metric : Metric) (standing : Standing) : Prop :=
  match metric with
  | .points =>
    ledger.grantsTo window standing.user ≠ [] ∧
      standing.score.toInt =
        ((ledger.grantsTo window standing.user).map fun grant => grant.points.toInt).sum
  | .completedQuestions =>
    ledger.successesOf window standing.user ≠ [] ∧
      standing.score.toInt =
        ((ledger.successesOf window standing.user).map Submission.question).toFinset.card

/-! ## Points -/

/-- Adding points one after the other, in words, gives the word of their sum. -/
private theorem foldl_add_points (grants : List Grant) (total : Int) :
    grants.foldl (fun total grant => total + grant.points.toInt64) (Int64.ofInt total) =
      Int64.ofInt (total + (grants.map fun grant => grant.points.toInt).sum) := by
  induction grants generalizing total with
  | nil => simp
  | cons grant grants ih =>
    -- Widening a word keeps its number.
    have hpoints : grant.points.toInt64 = Int64.ofInt grant.points.toInt := by
      rw [← Int32.toInt_toInt64, Int64.ofInt_toInt]
    rw [List.foldl_cons, hpoints, ← Int64.ofInt_add, ih, List.map_cons, List.sum_cons,
      Int.add_assoc]

/-- Who is in a tally of points, and with which word as score. -/
theorem getElem?_tally_points :
    (ledger.tally .points window)[user]? =
      if ledger.grantsTo window user = [] then none
      else some (Int64.ofInt
        ((ledger.grantsTo window user).map fun grant => grant.points.toInt).sum) := by
  have hsum := foldl_add_points (ledger.grantsTo window user) 0
  rw [Int.zero_add] at hsum
  -- The general fold, with words that are added from zero.
  have hfold := getElem?_foldl_alter Grant.user
    (fun total grant => total + grant.points.toInt64) (0 : Int64)
    (ledger.grants.filter fun grant => window.contains grant.grantedAt) ∅ user
  rw [filter_user_grants, Std.ExtTreeMap.getElem?_empty, Option.getD_none] at hfold
  rw [← hsum]
  exact hfold

/-- Up to 2³² grants of 32 bits have a sum of 64 bits. -/
theorem sum_points_bounds {grants : List Grant} (hlen : grants.length ≤ 2 ^ 32) :
    -2 ^ 63 ≤ (grants.map fun grant => grant.points.toInt).sum ∧
      (grants.map fun grant => grant.points.toInt).sum < 2 ^ 63 := by
  have hsum : ∀ grants : List Grant,
      -(grants.length * 2 ^ 31 : Int) ≤ (grants.map fun grant => grant.points.toInt).sum ∧
        (grants.map fun grant => grant.points.toInt).sum ≤ grants.length * (2 ^ 31 - 1) := by
    intro grants
    induction grants with
    | nil => simp
    | cons grant grants ih =>
      -- One grant more moves either bound by its own.
      have hlow := grant.points.le_toInt
      have hhigh := grant.points.toInt_lt
      simp only [List.map_cons, List.sum_cons, List.length_cons]
      omega
  have := hsum grants
  omega

/-! ## Completed questions -/

/-- Questions put into a set one after the other are in it. -/
private theorem mem_foldl_insert (submissions : List Submission) (questions : Std.ExtTreeSet Int64)
    (question : Int64) :
    question ∈ submissions.foldl
        (fun questions submission => questions.insert submission.question) questions ↔
      question ∈ submissions.map Submission.question ∨ question ∈ questions := by
  induction submissions generalizing questions with
  | nil => simp
  | cons submission submissions ih =>
    rw [List.foldl_cons, ih, Std.ExtTreeSet.mem_insert, Std.LawfulEqOrd.compare_eq_iff_eq,
      List.map_cons, List.mem_cons, eq_comm (a := question)]
    tauto

/-- A set into which questions are put one after the other holds each of them once. -/
private theorem size_foldl_insert (submissions : List Submission) :
    (submissions.foldl (fun questions submission => questions.insert submission.question)
      (∅ : Std.ExtTreeSet Int64)).size = (submissions.map Submission.question).toFinset.card := by
  -- The set is known by its members alone from here on.
  have hmem := mem_foldl_insert submissions ∅
  generalize submissions.foldl (fun questions submission => questions.insert submission.question)
    (∅ : Std.ExtTreeSet Int64) = questions at hmem ⊢
  -- A set lists each member once, as different ones compare differently.
  have hnodup : questions.toList.Nodup := by
    apply questions.distinct_toList.imp
    intro a b hne heq
    exact hne (by rw [heq, Std.LawfulEqOrd.compare_eq_iff_eq])
  -- And it has the members of the list.
  have hset : questions.toList.toFinset = (submissions.map Submission.question).toFinset := by
    ext question
    rw [List.mem_toFinset, List.mem_toFinset, Std.ExtTreeSet.mem_toList, hmem]
    simp
  rw [← Std.ExtTreeSet.length_toList, ← List.toFinset_card_of_nodup hnodup, hset]

/-- Who is in a tally of completed questions, and with which word as score. -/
theorem getElem?_tally_completedQuestions :
    (ledger.tally .completedQuestions window)[user]? =
      if ledger.successesOf window user = [] then none
      else some (Int64.ofNat
        ((ledger.successesOf window user).map Submission.question).toFinset.card) := by
  -- The general fold once more, with sets into which questions are put.
  have hfold := getElem?_foldl_alter Submission.user
    (fun (questions : Std.ExtTreeSet Int64) submission => questions.insert submission.question) ∅
    (ledger.submissions.filter (Tally.counts window)) ∅ user
  rw [filter_user_submissions, Std.ExtTreeMap.getElem?_empty, Option.getD_none] at hfold
  -- A tally of sets first, of which the sizes are taken.
  have hsolved :
      ((ledger.submissions.filter (Tally.counts window)).foldl Tally.Solved.add ∅)[user]? = _ :=
    hfold
  rw [tally, Tally.ofSubmissions, Std.ExtTreeMap.getElem?_map, hsolved]
  split
  · rfl
  · rw [Option.map_some, size_foldl_insert]

/-- A user has solved no more questions than there are submissions. -/
theorem card_questions_lt (hsubmissions : ledger.submissions.length < 2 ^ 63) :
    ((ledger.successesOf window user).map Submission.question).toFinset.card < 2 ^ 63 := by
  apply Nat.lt_of_le_of_lt _ hsubmissions
  -- No more questions than successes, no more successes than submissions.
  apply Nat.le_trans (List.toFinset_card_le _)
  rw [List.length_map]
  exact List.length_filter_le _ _

/-! ## Grants to others -/

section Append

variable {ledger : Ledger} {window : Window} {user : UserId} (metric : Metric)

/-- A grant is added to a tally of points exactly if it lies inside the window. -/
theorem tally_append_points (ledger : Ledger) (window : Window) (grant : Grant) :
    (ledger.append grant).tally .points window =
      if window.contains grant.grantedAt then (ledger.tally .points window).addGrant grant
      else ledger.tally .points window := by
  -- The new grant is the last of the pass.
  simp only [tally, append, Tally.ofGrants, List.filter_append, List.foldl_append]
  by_cases hcontains : window.contains grant.grantedAt <;> simp [hcontains]

/-- A grant to another user changes nothing for a user. -/
theorem getElem?_tally_append {grant : Grant} (hne : grant.user ≠ user) :
    ((ledger.append grant).tally metric window)[user]? = (ledger.tally metric window)[user]? := by
  cases metric with
  | points =>
    rw [tally_append_points]
    split
    · rw [Tally.getElem?_addGrant, if_neg (Ne.symm hne)]
    · rfl
  -- Grants have no part in this metric.
  | completedQuestions => rfl

theorem getElem?_tally_foldl_append (grants : List Grant)
    (hne : ∀ grant ∈ grants, grant.user ≠ user) :
    ((grants.foldl append ledger).tally metric window)[user]? =
      (ledger.tally metric window)[user]? := by
  induction grants generalizing ledger with
  | nil => rfl
  | cons grant grants ih =>
    -- Neither the later grants nor the first one go to the user.
    rw [List.foldl_cons, ih fun g hg => hne g (.tail _ hg),
      getElem?_tally_append metric (hne grant (.head _))]

end Append

/-! ## Totals of points -/

section Total

variable {ledger : Ledger} {window : Window} {user : UserId} {grant : Grant}

/-- The points granted to a user inside a window, as a number of any size. -/
def total (ledger : Ledger) (window : Window) (user : UserId) : Int :=
  ((ledger.grantsTo window user).map fun grant => grant.points.toInt).sum

/-- The points granted to a user inside a window sum up to a number of 64 bits. -/
def TotalFits (ledger : Ledger) (window : Window) (user : UserId) : Prop :=
  Int64.minValue.toInt ≤ ledger.total window user ∧
    ledger.total window user ≤ Int64.maxValue.toInt

instance : Decidable (ledger.TotalFits window user) :=
  inferInstanceAs (Decidable (_ ∧ _))

/-- Where the total fits it is the score, with zero for who is absent. -/
theorem toInt_tally_points (hfits : ledger.TotalFits window user) :
    ((ledger.tally .points window)[user]?.getD 0).toInt = ledger.total window user := by
  obtain ⟨hlow, hhigh⟩ := hfits
  rw [Int64.toInt_minValue] at hlow
  rw [Int64.toInt_maxValue] at hhigh
  rw [getElem?_tally_points]
  split
  · next hnil => simp [total, hnil]
  · exact Int64.toInt_ofInt_of_le hlow (by rw [total] at hhigh; omega)

/-- A grant inside the window adds its points to the total. -/
theorem total_append (hcontains : window.contains grant.grantedAt) :
    (ledger.append grant).total window grant.user =
      ledger.total window grant.user + grant.points.toInt := by
  -- The grant is the user's last one.
  have hgrants : (ledger.append grant).grantsTo window grant.user =
      ledger.grantsTo window grant.user ++ [grant] := by
    rw [← filter_user_grants, ← filter_user_grants]
    simp [append, hcontains]
  rw [total, hgrants, List.map_append, List.sum_append]
  simp [total]

end Total

/-! ## Standings -/

/-- Who stands where: exactly the users with events that count, with exact scores, as long as
scores of 64 bits suffice for the events of a single user. -/
theorem mem_standings_iff {ledger : Ledger} {window : Window} {metric : Metric} {s : Standing}
    (hgrants : ∀ user, (ledger.grantsTo window user).length ≤ 2 ^ 32)
    (hsubmissions : ledger.submissions.length < 2 ^ 63) :
    s ∈ (ledger.tally metric window).standings ↔ ledger.Scores window metric s := by
  rw [Tally.mem_standings]
  cases metric with
  | points =>
    -- The word is that of a sum in range, so it holds the sum.
    have ⟨hlow, hhigh⟩ := sum_points_bounds (hgrants s.user)
    rw [getElem?_tally_points, Scores]
    split
    · next hnil => simp [hnil]
    · next hne =>
      rw [Option.some.injEq, ← Int64.toInt_inj, Int64.toInt_ofInt_of_le hlow hhigh, eq_comm]
      simp [hne]
  | completedQuestions =>
    -- Likewise for the number of questions.
    have hcard := ledger.card_questions_lt window s.user hsubmissions
    rw [getElem?_tally_completedQuestions, Scores]
    split
    · next hnil => simp [hnil]
    · next hne =>
      rw [Option.some.injEq, ← Int64.toInt_inj, Int64.toInt_ofNat_of_lt hcard, eq_comm]
      simp [hne]

end Ledger

/-- A user who is added to a tally makes it longer by one. -/
theorem Tally.size_addGrant (tally : Tally) (grant : Grant) :
    (tally.addGrant grant).size =
      tally.size + if tally[grant.user]? = none then 1 else 0 := by
  rw [addGrant, Std.ExtTreeMap.size_alter]
  by_cases hmem : grant.user ∈ tally <;> simp [hmem]

/-- A tally has every user once. -/
theorem Tally.nodup_standings (tally : Tally) : (tally.standings.map Standing.user).Nodup := by
  rw [standings, List.map_map]
  -- The keys of the map are different, and they are the users.
  apply tally.distinct_keys_toList.map
  intro a b hne heq
  apply hne
  rw [Std.LawfulEqOrd.compare_eq_iff_eq]
  exact heq

end Standings
