import Standings.Proofs.Partition
import Standings.Proofs.Ranking

/-!
# Positions on a board

On a strictly sorted board the position of an entry is the number of entries that stand before it.
So what bisection finds for the key of an entry is known: the entry's own index for the border of
those before it, and the index behind it for the border of those not after it. And where every user
has one entry, a user's position is known from the entries of all others.

## Key results

- `countP_before_getElem`: the entries before an entry are as many as its index says
- `countP_notAfter_getElem`: with the entry itself there is one more
- `Board.position?_of_mem`: a user's position counts the others before the user's entry
- `countP_before_le`: the further ahead, the fewer stand before
-/

namespace Standings

variable {order : Direction} {l : List Standing}

theorem countP_before_getElem (hs : l.Pairwise (order.before · ·)) {i : Nat} (hi : i < l.length) :
    l.countP (order.before · l[i]) = i := by
  have hcut := holdsUpTo_before (pairwise_notAfter_of_before hs) l[i]
  have hself := hcut.getElem_iff hi
  rw [Direction.before_self] at hself
  -- If the border lay further ahead, the entry at the border would stand before this one.
  by_cases hlt : l.countP (order.before · l[i]) < i
  · have hbefore := List.pairwise_iff_getElem.1 hs _ i (by omega) hi hlt
    have := (hcut.getElem_iff (by omega)).1 hbefore
    omega
  · have : ¬i < l.countP (order.before · l[i]) := fun h => absurd (hself.2 h) (by simp)
    omega

theorem countP_notAfter_getElem (hs : l.Pairwise (order.before · ·)) {i : Nat}
    (hi : i < l.length) : l.countP (order.notAfter · l[i]) = i + 1 := by
  have hcut := holdsUpTo_notAfter (pairwise_notAfter_of_before hs) l[i]
  have hself : i < l.countP (order.notAfter · l[i]) := by
    rw [← hcut.getElem_iff hi, Direction.notAfter_eq_not_before]
    simp
  have hle := List.countP_le_length (p := (order.notAfter · l[i])) (l := l)
  -- If the border lay further behind, the next entry would not stand after this one.
  by_cases hlt : i + 1 < l.countP (order.notAfter · l[i])
  · have hnext : order.before l[i] l[i + 1] :=
      List.pairwise_iff_getElem.1 hs i (i + 1) hi (by omega) (Nat.lt_succ_self i)
    have hnot := (hcut.getElem_iff (show i + 1 < l.length by omega)).2 hlt
    rw [Direction.notAfter_eq_not_before, hnext] at hnot
    simp at hnot
  · omega

/-! ## A user on a board -/

namespace Board

/-- The entries of all users but one. -/
def others (board : Board) (user : UserId) : List Standing :=
  board.toList.filter (·.user ≠ user)

/-- The score of a user, who may be absent. -/
def score? (board : Board) (user : UserId) : Option Int64 :=
  (board.toList.find? (·.user = user)).map Standing.score

/-- The index of a user's entry. -/
def position? (board : Board) (user : UserId) : Option Nat :=
  board.toList.findIdx? (·.user = user)

variable {board : Board} {order : Direction}

theorem score?_eq_some_iff (hnodup : (board.toList.map Standing.user).Nodup) {user : UserId}
    {score : Int64} : board.score? user = some score ↔ ⟨user, score⟩ ∈ board.toList := by
  simp only [score?, Option.map_eq_some_iff]
  constructor
  · rintro ⟨s, hfind, rfl⟩
    have huser : s.user = user := by simpa using List.find?_some hfind
    subst huser
    exact List.mem_of_find?_eq_some hfind
  · intro hmem
    -- Somebody is found, and nobody else has this user.
    have hsome : (board.toList.find? (·.user = user)).isSome :=
      List.find?_isSome.2 ⟨_, hmem, by simp⟩
    obtain ⟨s, hfind⟩ := Option.isSome_iff_exists.1 hsome
    have huser : s.user = user := by simpa using List.find?_some hfind
    have hsame := List.inj_on_of_nodup_map hnodup (List.mem_of_find?_eq_some hfind) hmem huser
    exact ⟨s, hfind, by rw [hsame]⟩

theorem exists_mem_of_position? {user : UserId} {i : Nat} (h : board.position? user = some i) :
    ∃ score, ⟨user, score⟩ ∈ board.toList := by
  obtain ⟨hi, huser, -⟩ := List.findIdx?_eq_some_iff_getElem.1 h
  have hmem := List.getElem_mem hi
  rw [← of_decide_eq_true huser]
  exact ⟨_, hmem⟩

/-- Where every user has one entry, two entries of which one stands before the other are of
different users. -/
theorem user_ne_of_before (hnodup : (board.toList.map Standing.user).Nodup) {s t : Standing}
    (hs : s ∈ board.toList) (ht : t ∈ board.toList) (h : order.before s t) : s.user ≠ t.user := by
  intro huser
  rw [List.inj_on_of_nodup_map hnodup hs ht huser, Direction.before_self] at h
  cases h

/-- A user's position is the number of other users whose entries stand before the user's. -/
theorem position?_of_mem (hs : board.toList.Pairwise (order.before · ·))
    (hnodup : (board.toList.map Standing.user).Nodup) {s : Standing} (hmem : s ∈ board.toList) :
    board.position? s.user = some ((board.others s.user).countP (order.before · s)) := by
  obtain ⟨i, hi, rfl⟩ := List.getElem_of_mem hmem
  have hfirst : board.position? board.toList[i].user = some i := by
    -- Whoever stands ahead is another user, so nobody is found sooner.
    refine List.findIdx?_eq_some_iff_getElem.2 ⟨hi, by simp, fun j hj => ?_⟩
    have hbefore := List.pairwise_iff_getElem.1 hs j i (by omega) hi hj
    have hne := user_ne_of_before hnodup (List.getElem_mem (by omega)) hmem hbefore
    simpa using hne
  -- The user's own entry does not stand before itself, so it may as well be left out.
  have hcount : (board.others board.toList[i].user).countP (order.before · board.toList[i]) =
      board.toList.countP (order.before · board.toList[i]) := by
    rw [others, List.countP_filter]
    apply List.countP_congr
    intro s hmem'
    simp only [Bool.and_eq_true, decide_eq_true_eq, and_iff_left_iff_imp]
    exact user_ne_of_before hnodup hmem' hmem
  rw [hfirst, hcount, countP_before_getElem hs hi]

end Board

/-- The further ahead an entry stands, the fewer stand before it. -/
theorem countP_before_le {order : Direction} {s s' : Standing} (h : order.notAfter s s')
    (l : List Standing) : l.countP (order.before · s) ≤ l.countP (order.before · s') := by
  apply List.countP_mono_left
  intro t _ ht
  rcases Direction.notAfter_iff.1 h with h | rfl
  · exact Direction.before_trans ht h
  · exact ht

/-- With a higher score a user does not stand further ahead if the lowest score comes first. -/
theorem notAfter_of_score_le {user : UserId} {low high : Int64} (h : low ≤ high) :
    Direction.ascending.notAfter ⟨user, low⟩ ⟨user, high⟩ ∧
      Direction.descending.notAfter ⟨user, high⟩ ⟨user, low⟩ := by
  have hno : ¬high < low := Int64.not_lt.2 h
  have hself : ¬user.value < user.value := Int64.lt_irrefl
  constructor <;> rw [Direction.notAfter_eq_not_before, Bool.not_eq_true', Bool.eq_false_iff, ne_eq,
    before_iff_score] <;> simp [hno, hself]

end Standings
