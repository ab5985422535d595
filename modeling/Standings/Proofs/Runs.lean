import Mathlib.Data.List.SplitBy
import Standings.Proofs.Ranking

/-!
# Runs of equal score

A board falls into runs, the longest stretches of standings with one score. Which runs there are
does not depend on the direction of the board: the other direction lists the same runs in opposite
order, each as it is, since users of equal score stand by their ids in both. So reading a board
backwards gives the board of the other direction only if every run is made of one standing.

## Key results

- `isCutInto_iff`: a list is cut into runs in one way
- `IsCutInto.pairwise_score_lt`: on an ascending board scores rise from run to run
- `directions_reverse_runs`: what the two directions have in common, and when one is the other
  read backwards
-/

namespace Standings

variable {a b : Standing} {l : List Standing} {runs : List (List Standing)}

/-! ## The order by score -/

/-- One standing does not stand after another by its score, or among equal scores by its id. -/
theorem notAfter_iff_score {order : Direction} : order.notAfter a b ↔
    (match order with
      | .ascending => a.score < b.score
      | .descending => b.score < a.score) ∨
    a.score = b.score ∧ a.user.value ≤ b.user.value := by
  rw [Direction.notAfter_eq_not_before, Bool.not_eq_true', Bool.eq_false_iff, ne_eq,
    before_iff_score]
  -- On numbers the negated order is the other one with equality.
  simp only [Int64.lt_iff_toInt_lt, Int64.le_iff_toInt_le, ← Int64.toInt_inj]
  cases order <;> simp only <;> omega

theorem eq_of_score_of_user (hscore : a.score = b.score) (huser : a.user.value = b.user.value) :
    a = b := by
  obtain ⟨⟨_⟩, _⟩ := a
  obtain ⟨⟨_⟩, _⟩ := b
  subst hscore huser
  rfl

/-- Among equal scores the direction does not matter. -/
theorem notAfter_iff_of_score_eq (order : Direction) (h : a.score = b.score) :
    order.notAfter a b ↔ a.user.value ≤ b.user.value := by
  have hirrefl : ¬b.score < b.score := Int64.lt_irrefl
  rw [notAfter_iff_score]
  cases order <;> simp [h, hirrefl]

/-! ## Cutting a list into runs -/

/-- The runs make up the list, none of them is empty, each has one score, and from a run to the
next the score changes. -/
structure IsCutInto (l : List Standing) (runs : List (List Standing)) : Prop where
  flatten_eq : runs.flatten = l
  ne_nil : ∀ run ∈ runs, run ≠ []
  score_eq : ∀ run ∈ runs, ∀ a ∈ run, ∀ b ∈ run, a.score = b.score
  score_ne : runs.IsChain fun run next => ∀ a ∈ run, ∀ b ∈ next, a.score ≠ b.score

/-- Neighbours have one score exactly if all have. -/
theorem isChain_score_eq_iff {run : List Standing} :
    (run.IsChain fun a b => a.score = b.score) ↔ ∀ a ∈ run, ∀ b ∈ run, a.score = b.score := by
  have htrans : Trans (fun a b : Standing => a.score = b.score)
      (fun a b : Standing => a.score = b.score) (fun a b : Standing => a.score = b.score) :=
    ⟨Eq.trans⟩
  have hsymm : Std.Symm fun a b : Standing => a.score = b.score := ⟨fun _ _ => Eq.symm⟩
  -- Equality of scores is transitive, so a chain of it relates all pairs.
  rw [List.isChain_iff_pairwise]
  constructor
  · intro h a ha b hb
    exact h.forall_of_forall (R := fun a b => a.score = b.score) (fun _ _ => rfl) ha hb
  · exact List.pairwise_of_forall_mem_list

/-- A list is cut into runs in one way, between the neighbours of different scores. -/
theorem isCutInto_iff : IsCutInto l runs ↔ runs = l.splitBy fun a b => a.score = b.score := by
  -- The library says what cuts a list where neighbours differ; it remains to compare the clauses.
  rw [eq_comm, List.splitBy_eq_iff]
  simp only [decide_eq_true_eq, decide_eq_false_iff_not, isChain_score_eq_iff]
  constructor
  · intro h
    -- At a border it is enough to look at the last entry of a run and the first of the next.
    refine ⟨h.flatten_eq.symm, fun hnil => h.ne_nil _ hnil rfl, h.score_eq, ?_⟩
    rw [List.isChain_iff_getElem]
    intro i hi
    have hrun := h.ne_nil _ (List.getElem_mem (Nat.lt_of_succ_lt hi))
    have hnext := h.ne_nil _ (List.getElem_mem hi)
    exact ⟨hrun, hnext, List.isChain_iff_getElem.1 h.score_ne i hi _ (List.getLast_mem hrun) _
      (List.head_mem hnext)⟩
  · intro ⟨hflatten, hnil, hscore, hborder⟩
    refine ⟨hflatten.symm, fun run hrun heq => hnil (heq ▸ hrun), hscore, ?_⟩
    rw [List.isChain_iff_getElem]
    intro i hi a ha b hb
    -- The scores at the border are those of the two runs.
    obtain ⟨hrun, hnext, hne⟩ := List.isChain_iff_getElem.1 hborder i hi
    rw [hscore _ (List.getElem_mem (Nat.lt_of_succ_lt hi)) a ha _ (List.getLast_mem hrun),
      hscore _ (List.getElem_mem hi) b hb _ (List.head_mem hnext)]
    exact hne

/-- A run that is not empty has higher scores than a run before it. -/
def Rises (run next : List Standing) : Prop :=
  next ≠ [] ∧ ∀ a ∈ run, ∀ b ∈ next, a.score < b.score

/-- A run that is not empty takes the comparison on to the runs behind it. -/
instance : Trans Rises Rises Rises where
  trans := by
    intro run next last ⟨hne, hlt⟩ ⟨hne', hlt'⟩
    obtain ⟨b, hb⟩ := List.exists_mem_of_ne_nil _ hne
    exact ⟨hne', fun a ha c hc => Int64.lt_trans (hlt a ha b hb) (hlt' b hb c hc)⟩

namespace IsCutInto

/-- On an ascending board scores rise from run to run. -/
theorem pairwise_score_lt (hcut : IsCutInto l runs)
    (hs : l.Pairwise (Direction.ascending.notAfter · ·)) :
    runs.Pairwise fun run next => ∀ a ∈ run, ∀ b ∈ next, a.score < b.score := by
  rw [← hcut.flatten_eq, List.pairwise_flatten] at hs
  -- Neighbouring runs are compared by two of their entries, and the rest follows from transitivity.
  have hchain : runs.IsChain Rises := by
    rw [List.isChain_iff_getElem]
    intro i hi
    refine ⟨hcut.ne_nil _ (List.getElem_mem hi), fun a ha b hb => ?_⟩
    have hle := List.pairwise_iff_getElem.1 hs.2 i (i + 1) (by omega) hi (by omega) a ha b hb
    have hne := List.isChain_iff_getElem.1 hcut.score_ne i hi a ha b hb
    exact (notAfter_iff_score.1 hle).resolve_right fun h => hne h.1
  exact (List.isChain_iff_pairwise.1 hchain).imp fun h => h.2

/-- In each run of a board users come in ascending order of their ids. -/
theorem pairwise_user {order : Direction} (hcut : IsCutInto l runs)
    (hs : l.Pairwise (order.notAfter · ·)) :
    ∀ run ∈ runs, run.Pairwise fun a b => a.user.value ≤ b.user.value := by
  rw [← hcut.flatten_eq, List.pairwise_flatten] at hs
  intro run hrun
  apply (hs.1 run hrun).imp_of_mem
  intro a b ha hb h
  exact (notAfter_iff_of_score_eq order (hcut.score_eq run hrun a ha b hb)).1 h

/-- Listed in opposite order, the runs of an ascending board make a descending one. -/
theorem pairwise_reverse (hcut : IsCutInto l runs)
    (hs : l.Pairwise (Direction.ascending.notAfter · ·)) :
    runs.reverse.flatten.Pairwise (Direction.descending.notAfter · ·) := by
  -- Within a run the order is by ids, as before; between runs the scores fall.
  rw [List.pairwise_flatten, List.pairwise_reverse]
  constructor
  · intro run hrun
    rw [List.mem_reverse] at hrun
    apply (hcut.pairwise_user hs run hrun).imp_of_mem
    intro a b ha hb h
    exact (notAfter_iff_of_score_eq _ (hcut.score_eq run hrun a ha b hb)).2 h
  · apply (hcut.pairwise_score_lt hs).imp
    intro run next hlt a ha b hb
    exact notAfter_iff_score.2 (.inl (hlt b hb a ha))

/-- The runs of a list in opposite order are the runs of what they make up then. -/
theorem reverse (hcut : IsCutInto l runs) : IsCutInto runs.reverse.flatten runs.reverse where
  flatten_eq := rfl
  ne_nil run hrun := hcut.ne_nil run (List.mem_reverse.1 hrun)
  score_eq run hrun := hcut.score_eq run (List.mem_reverse.1 hrun)
  score_ne := by
    rw [List.isChain_reverse]
    exact hcut.score_ne.imp fun _ _ h a ha b hb => (h b hb a ha).symm

end IsCutInto

/-! ## The two directions -/

variable (standings : List Standing)

theorem rank_descending_eq_reverse_runs
    (hcut : IsCutInto (rank .ascending standings).toList runs) :
    (rank .descending standings).toList = runs.reverse.flatten := by
  symm
  rw [eq_rank_iff]
  refine ⟨?_, hcut.pairwise_reverse (rank_sorted _ _)⟩
  -- The runs are those of the ascending board, so together they are the standings.
  apply (List.reverse_perm runs).flatten.trans
  rw [hcut.flatten_eq]
  exact rank_perm _ _

/-- Read backwards, the ascending board is the descending one if only equal standings share a
score. -/
theorem rank_descending_eq_reverse_iff :
    (rank .descending standings).toList = (rank .ascending standings).toList.reverse ↔
      ∀ a ∈ standings, ∀ b ∈ standings, a ≠ b → a.score ≠ b.score := by
  have hasc := rank_sorted .ascending standings
  constructor
  · intro hreverse
    have hdesc := rank_sorted .descending standings
    rw [hreverse, List.pairwise_reverse] at hdesc
    have hsame : (rank .ascending standings).toList.Pairwise fun a b =>
        a.score = b.score → a = b := by
      apply (hasc.and hdesc).imp
      intro a b ⟨hab, hba⟩ hscore
      -- Neither user comes after the other.
      rw [notAfter_iff_of_score_eq _ hscore] at hab
      rw [notAfter_iff_of_score_eq _ hscore.symm] at hba
      exact eq_of_score_of_user hscore (Int64.le_antisymm hab hba)
    have hsymm : Std.Symm fun a b : Standing => a.score = b.score → a = b :=
      ⟨fun _ _ h hscore => (h hscore.symm).symm⟩
    have hmem : ∀ s ∈ standings, s ∈ (rank .ascending standings).toList := fun s hs =>
      Array.mem_toList_iff.2 (mem_rank.2 hs)
    intro a ha b hb hne hscore
    exact hne (hsame.forall_of_forall (fun _ _ _ => rfl) (hmem a ha) (hmem b hb) hscore)
  · intro hdistinct
    symm
    rw [eq_rank_iff]
    refine ⟨(List.reverse_perm _).trans (rank_perm _ _), List.pairwise_reverse.2 ?_⟩
    -- Equal standings are not after each other, and different ones differ by their scores.
    apply hasc.imp_of_mem
    intro a b ha hb hab
    rw [Array.mem_toList_iff, mem_rank] at ha hb
    by_cases heq : a = b
    · subst heq
      exact Direction.notAfter_iff.2 (.inr rfl)
    · have hlt := (notAfter_iff_score.1 hab).resolve_right fun h =>
        hdistinct a ha b hb heq h.1
      exact notAfter_iff_score.2 (.inl hlt)

/-- The ascending board of some standings is cut into runs of equal score in one way, and the
descending board lists these runs in opposite order, each as it is, by ascending user ids. It is the
ascending board read backwards exactly if no two different standings share a score. -/
theorem directions_reverse_runs :
    (∃! runs, IsCutInto (rank .ascending standings).toList runs) ∧
    (∀ runs, IsCutInto (rank .ascending standings).toList runs →
      (rank .descending standings).toList = runs.reverse.flatten ∧
      IsCutInto (rank .descending standings).toList runs.reverse ∧
      ∀ run ∈ runs, run.Pairwise fun a b => a.user.value ≤ b.user.value) ∧
    ((rank .descending standings).toList = (rank .ascending standings).toList.reverse ↔
      ∀ a ∈ standings, ∀ b ∈ standings, a ≠ b → a.score ≠ b.score) := by
  refine ⟨⟨_, isCutInto_iff.2 rfl, fun _ => isCutInto_iff.1⟩, fun runs hcut => ?_,
    rank_descending_eq_reverse_iff standings⟩
  have hruns := rank_descending_eq_reverse_runs standings hcut
  refine ⟨hruns, ?_, hcut.pairwise_user (rank_sorted _ _)⟩
  rw [hruns]
  exact hcut.reverse

/-- Three scores, of which one is shared by three standings, two of these the same, and a user with
two scores. -/
theorem directions_reverse_runs_ties :
    let standings : List Standing :=
      [⟨⟨9⟩, 50⟩, ⟨⟨4⟩, 100⟩, ⟨⟨2⟩, 50⟩, ⟨⟨9⟩, 50⟩, ⟨⟨2⟩, -3⟩]
    let runs : List (List Standing) :=
      [[⟨⟨2⟩, -3⟩], [⟨⟨2⟩, 50⟩, ⟨⟨9⟩, 50⟩, ⟨⟨9⟩, 50⟩], [⟨⟨4⟩, 100⟩]]
    IsCutInto (rank .ascending standings).toList runs ∧
      (rank .descending standings).toList = runs.reverse.flatten ∧
      ([⟨⟨2⟩, 50⟩, ⟨⟨9⟩, 50⟩, ⟨⟨9⟩, 50⟩] : List Standing).Pairwise
        (fun a b => a.user.value ≤ b.user.value) ∧
      (rank .descending standings).toList ≠ (rank .ascending standings).toList.reverse := by
  intro standings runs
  have hcut : IsCutInto (rank .ascending standings).toList runs := by
    have hrank : runs.flatten = (rank .ascending standings).toList :=
      eq_rank_iff.2 ⟨by decide, by decide⟩
    rw [← hrank, isCutInto_iff]
    decide
  obtain ⟨-, hruns, hreverse⟩ := directions_reverse_runs standings
  obtain ⟨hflatten, -, husers⟩ := hruns runs hcut
  refine ⟨hcut, hflatten, husers _ (by decide), fun h => ?_⟩
  exact hreverse.1 h ⟨⟨9⟩, 50⟩ (by decide) ⟨⟨2⟩, 50⟩ (by decide) (by decide) rfl

end Standings
