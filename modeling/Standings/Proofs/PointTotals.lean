import Standings.Proofs.Leaderboard

/-!
# Totals that do not overflow

The pass over the grants adds points of 32 bits to totals of 64 bits, one grant after the other. Up
to 2³² grants to a user leave room for every addition, in whatever order they come and whatever
their signs are, and so the totals are the sums of the points as numbers of any size. No greater
number of grants would do: 2³² grants of the least points take a total down to its lower bound.

## Key results

- `Tally.Exact.hasRoomFor`: the next grant finds room
- `Tally.Exact.addGrant`: a grant that finds room leaves the tally exact
- `Tally.exact_ofGrants`: after a pass a tally holds the exact sums
- `Tally.not_hasRoomFor_of_least`: none is left behind 2³² grants of the least points
- `Tally.point_totals_never_overflow`: every addition of a pass is exact, and so is its result
-/

namespace Standings.Tally

/-- The points of the grants to a user inside a window, in the order of the grants. -/
def pointsTo (grants : List Grant) (window : Window) (user : UserId) : List Int :=
  (grants.filter fun grant => grant.user = user ∧ window.contains grant.grantedAt).map
    fun grant => grant.points.toInt

/-- A tally has the users with grants inside a window and gives to each of them the sum of the
points, as a number of any size. -/
def Exact (tally : Tally) (grants : List Grant) (window : Window) : Prop :=
  ∀ user, tally[user]?.map Int64.toInt =
    if pointsTo grants window user = [] then none else some (pointsTo grants window user).sum

/-- With the points of a grant the total of its user does not leave the bounds of 64 bits. -/
def HasRoomFor (tally : Tally) (grant : Grant) : Prop :=
  Int64.minValue.toInt ≤ (tally[grant.user]?.getD 0).toInt + grant.points.toInt ∧
    (tally[grant.user]?.getD 0).toInt + grant.points.toInt ≤ Int64.maxValue.toInt

variable {grants earlier later : List Grant} {window : Window} {grant : Grant} {user : UserId}
  {tally : Tally}

/-! ## The points of a user -/

theorem pointsTo_eq : pointsTo grants window user =
    (({ grants } : Ledger).grantsTo window user).map fun grant => grant.points.toInt := by
  -- To contain an instant is to start no later and to stop after it.
  simp [pointsTo, Ledger.grantsTo, Window.contains]

theorem pointsTo_append : pointsTo (earlier ++ later) window user =
    pointsTo earlier window user ++ pointsTo later window user := by
  simp [pointsTo]

theorem pointsTo_singleton (hcontains : window.contains grant.grantedAt) :
    pointsTo [grant] window grant.user = [grant.points.toInt] := by
  simp [pointsTo, hcontains]

theorem pointsTo_replicate (n : Nat) (hcontains : window.contains grant.grantedAt) :
    pointsTo (List.replicate n grant) window grant.user =
      List.replicate n grant.points.toInt := by
  -- All of the grants are inside and to one user.
  rw [pointsTo, List.filter_replicate_of_pos (by simp [hcontains]), List.map_replicate]

/-- A user has no more grants in a first part of them. -/
theorem length_pointsTo_le (hpre : earlier <+: grants) :
    (pointsTo earlier window user).length ≤ (pointsTo grants window user).length := by
  obtain ⟨later, rfl⟩ := hpre
  rw [pointsTo_append, List.length_append]
  omega

theorem length_pointsTo_le_length : (pointsTo grants window user).length ≤ grants.length := by
  rw [pointsTo, List.length_map]
  exact List.length_filter_le _ _

/-- Up to 2³² numbers of 32 bits have a sum of 64 bits. -/
theorem sum_pointsTo_bounds (hfew : (pointsTo grants window user).length ≤ 2 ^ 32) :
    Int64.minValue.toInt ≤ (pointsTo grants window user).sum ∧
      (pointsTo grants window user).sum ≤ Int64.maxValue.toInt := by
  rw [pointsTo_eq, List.length_map] at hfew
  -- The bounds are those of the ledger's grants, said of numbers.
  have hbounds := Ledger.sum_points_bounds hfew
  rw [← pointsTo_eq] at hbounds
  rw [Int64.toInt_minValue, Int64.toInt_maxValue]
  omega

/-! ## One addition -/

/-- Where there is room the words add up as the numbers do. -/
theorem HasRoomFor.toInt_add (hroom : tally.HasRoomFor grant) :
    (tally[grant.user]?.getD 0 + grant.points.toInt64).toInt =
      (tally[grant.user]?.getD 0).toInt + grant.points.toInt := by
  obtain ⟨hlow, hhigh⟩ := hroom
  rw [Int64.toInt_minValue] at hlow
  rw [Int64.toInt_maxValue] at hhigh
  -- A sum of words is reduced into the range in which it is already.
  rw [Int64.toInt_add, Int32.toInt_toInt64, Int.bmod_eq_of_le (by omega) (by omega)]

/-- An exact tally gives the sum of the points, with zero for who is absent. -/
theorem Exact.toInt_getD (h : tally.Exact grants window) :
    (tally[user]?.getD 0).toInt = (pointsTo grants window user).sum := by
  have huser := h user
  cases hscore : tally[user]? with
  | none =>
    rw [hscore, Option.map_none, eq_comm, ite_eq_left_iff] at huser
    -- Who is absent has no grants, and zero is the sum of none.
    have hnil : pointsTo grants window user = [] := by simpa using huser
    simp [hnil]
  | some score =>
    rw [hscore, Option.map_some] at huser
    split at huser
    · cases huser
    · exact Option.some.inj huser

/-- The next grant finds room if with it a user has no more than 2³². -/
theorem Exact.hasRoomFor (h : tally.Exact earlier window)
    (hcontains : window.contains grant.grantedAt)
    (hfew : (pointsTo (earlier ++ [grant]) window grant.user).length ≤ 2 ^ 32) :
    tally.HasRoomFor grant := by
  -- The total with the grant is a sum of no more than 2³² points as well.
  have hbounds := sum_pointsTo_bounds hfew
  rw [pointsTo_append, pointsTo_singleton hcontains, List.sum_append, List.sum_singleton] at hbounds
  rwa [HasRoomFor, h.toInt_getD]

/-- A grant that finds room leaves the tally exact. -/
theorem Exact.addGrant (h : tally.Exact earlier window)
    (hcontains : window.contains grant.grantedAt) (hroom : tally.HasRoomFor grant) :
    (tally.addGrant grant).Exact (earlier ++ [grant]) window := by
  -- A grant to the user itself, then one to somebody else.
  intro user
  rw [getElem?_addGrant, pointsTo_append]
  by_cases huser : user = grant.user
  · subst huser
    rw [if_pos rfl, Option.map_some, hroom.toInt_add, h.toInt_getD, pointsTo_singleton hcontains,
      if_neg (List.append_ne_nil_of_right_ne_nil _ (List.cons_ne_nil _ _)), List.sum_append,
      List.sum_singleton]
  · -- The totals of others stay, and so do their grants.
    have hnone : pointsTo [grant] window user = [] := by simp [pointsTo, Ne.symm huser]
    rw [if_neg huser, hnone, List.append_nil]
    exact h user

/-! ## A whole pass -/

/-- The pass over the grants goes through the tally of those that come first. -/
theorem ofGrants_append_cons (hcontains : window.contains grant.grantedAt) :
    ofGrants (earlier ++ grant :: later) window =
      (later.filter fun grant => window.contains grant.grantedAt).foldl addGrant
        ((ofGrants earlier window).addGrant grant) := by
  -- Filtering and folding go through a list part by part.
  simp [ofGrants, hcontains]

/-- After a pass a tally holds the exact sums. -/
theorem exact_ofGrants (hfew : ∀ user, (pointsTo grants window user).length ≤ 2 ^ 32) :
    (ofGrants grants window).Exact grants window := by
  -- Induction from the last grant, for the pass ends with it: the tally before it is exact.
  induction grants using List.reverseRecOn with
  | nil => exact fun user => by simp [ofGrants, pointsTo]
  | append_singleton earlier grant ih =>
    have hexact : (ofGrants earlier window).Exact earlier window :=
      ih fun user => Nat.le_trans (length_pointsTo_le (List.prefix_append _ _)) (hfew user)
    by_cases hcontains : window.contains grant.grantedAt
    · -- The invariant finds room for the grant, and is kept by it.
      rw [ofGrants_append_cons hcontains]
      exact hexact.addGrant hcontains (hexact.hasRoomFor hcontains (hfew grant.user))
    · -- The grant lies outside the window and is passed over.
      have hskip : ofGrants (earlier ++ [grant]) window = ofGrants earlier window := by
        simp [ofGrants, hcontains]
      intro user
      have hnone : pointsTo [grant] window user = [] := by simp [pointsTo, hcontains]
      rw [hskip, pointsTo_append, hnone, List.append_nil]
      exact hexact user

/-! ## How many grants are too many -/

theorem toInt_getD_replicate {n : Nat} (hn : n ≤ 2 ^ 32)
    (hcontains : window.contains grant.grantedAt) :
    ((ofGrants (List.replicate n grant) window)[grant.user]?.getD 0).toInt =
      n * grant.points.toInt := by
  have hfew : ∀ user, (pointsTo (List.replicate n grant) window user).length ≤ 2 ^ 32 := by
    intro user
    -- Not even all of them are more than allowed.
    apply Nat.le_trans length_pointsTo_le_length
    rwa [List.length_replicate]
  rw [(exact_ofGrants hfew).toInt_getD, pointsTo_replicate n hcontains, List.sum_replicate,
    nsmul_eq_mul]

/-- Behind 2³² grants of the least points another one of them finds no room. -/
theorem not_hasRoomFor_of_least (hcontains : window.contains grant.grantedAt)
    (hleast : grant.points = Int32.minValue) :
    ¬(ofGrants (List.replicate (2 ^ 32) grant) window).HasRoomFor grant := by
  -- The total is at the lower bound exactly.
  have htotal := toInt_getD_replicate (Nat.le_refl (2 ^ 32)) hcontains
  rw [HasRoomFor, htotal, hleast, Int32.toInt_minValue, Int64.toInt_minValue]
  omega

/-- With up to 2³² grants to each user inside the window every addition of the pass over the grants
stays within 64 bits: what is there when a grant is added is the exact sum of what came before it,
and there is room for its points. So at the end the tally holds the exact sums. -/
theorem point_totals_never_overflow (grants : List Grant) (window : Window)
    (hfew : ∀ user, (pointsTo grants window user).length ≤ 2 ^ 32) :
    (∀ earlier grant later, grants = earlier ++ grant :: later →
      window.contains grant.grantedAt →
      ofGrants grants window = (later.filter fun grant => window.contains grant.grantedAt).foldl
        addGrant ((ofGrants earlier window).addGrant grant) ∧
      (ofGrants earlier window).Exact earlier window ∧
      (ofGrants earlier window).HasRoomFor grant) ∧
    (ofGrants grants window).Exact grants window := by
  refine ⟨?_, exact_ofGrants hfew⟩
  -- Cut the grants at the one that is added: what comes before it is a pass of its own.
  rintro earlier grant later rfl hcontains
  have hexact : (ofGrants earlier window).Exact earlier window :=
    exact_ofGrants fun user =>
      Nat.le_trans (length_pointsTo_le (List.prefix_append _ _)) (hfew user)
  refine ⟨ofGrants_append_cons hcontains, hexact, hexact.hasRoomFor hcontains ?_⟩
  apply Nat.le_trans (length_pointsTo_le _) (hfew grant.user)
  exact ⟨later, by simp⟩

/-- A user is granted the least points 2³² times. The last time there is still room, and the total
is the least number of 64 bits; then there is no room left. -/
theorem point_totals_never_overflow_least :
    let grant : Grant := ⟨1, ⟨7⟩, Int32.minValue, Sample.noon, "penalty"⟩
    ∃ n : Nat, n + 1 = 2 ^ 32 ∧
      (∀ user, (pointsTo (List.replicate (n + 1) grant) Sample.window user).length ≤ 2 ^ 32) ∧
      (ofGrants (List.replicate n grant) Sample.window).HasRoomFor grant ∧
      (ofGrants (List.replicate (n + 1) grant) Sample.window)[grant.user]?.map Int64.toInt =
        some (-2 ^ 63) ∧
      ¬(ofGrants (List.replicate (n + 1) grant) Sample.window).HasRoomFor grant := by
  intro grant
  -- The number is kept abstract, so that no list of this length is ever computed.
  obtain ⟨n, hn⟩ : ∃ n : Nat, n + 1 = 2 ^ 32 := ⟨4294967295, rfl⟩
  have hcontains : Sample.window.contains grant.grantedAt := by decide
  have hfew : ∀ user,
      (pointsTo (List.replicate (n + 1) grant) Sample.window user).length ≤ 2 ^ 32 := by
    intro user
    apply Nat.le_trans length_pointsTo_le_length
    rw [List.length_replicate, hn]
  obtain ⟨hpass, hexact⟩ :=
    point_totals_never_overflow (List.replicate (n + 1) grant) Sample.window hfew
  obtain ⟨-, -, hroom⟩ := hpass _ _ [] List.replicate_succ' hcontains
  -- The sum of all of them, by multiplication.
  have hsum : ((n + 1 : Nat) : Int) * grant.points.toInt = -2 ^ 63 := by
    rw [hn]
    decide
  have huser := hexact grant.user
  rw [pointsTo_replicate (n + 1) hcontains, if_neg List.replicate_succ_ne_nil, List.sum_replicate,
    nsmul_eq_mul, hsum] at huser
  refine ⟨n, hn, hfew, hroom, huser, ?_⟩
  rw [hn]
  exact not_hasRoomFor_of_least hcontains rfl

end Standings.Tally
