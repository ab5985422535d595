import Standings.Board

/-!
# Predicates that hold up to a place

On a sorted board "not after this cursor" and "before this cursor" hold on the entries up to some
place and on none from there on. `HoldsUpTo` says so of any predicate and any list. Such a
predicate cuts the list into what it keeps and what it drops, in this order, and bisection finds
the place of the cut.

## Key results

- `HoldsUpTo.take_countP` / `HoldsUpTo.drop_countP`: the two parts of the list are its filters
- `Board.partitionPoint_eq_countP`: bisection counts the entries on which the predicate holds
- `holdsUpTo_notAfter` / `holdsUpTo_before`: the two predicates of a page on a sorted board
-/

namespace Standings

variable {α : Type}

/-- `p` holds on the entries of a list up to some place, and on none from there on. -/
def HoldsUpTo (p : α → Bool) (l : List α) : Prop :=
  l.Pairwise fun x y => p y → p x

namespace HoldsUpTo

variable {p : α → Bool} {l : List α}

/-- What is kept stands before what is dropped. -/
theorem filter_append_filter_not (h : HoldsUpTo p l) :
    l.filter p ++ l.filter (fun x => !p x) = l := by
  -- The tail is cut in the same way, so the head decides whether anything is kept.
  induction l with
  | nil => rfl
  | cons a l ih =>
    have ⟨ha, hl⟩ := List.pairwise_cons.1 h
    by_cases hp : p a
    · simp [hp, ih hl]
    · -- `p` fails at the head, so it fails everywhere and nothing is kept.
      have hnone : ∀ b ∈ l, ¬p b := fun b hb hpb => hp (ha b hb hpb)
      have hkept : l.filter p = [] := List.filter_eq_nil_iff.2 hnone
      have hall : l.filter (fun x => !p x) = l := by
        rw [List.filter_eq_self]
        intro b hb
        simpa using hnone b hb
      simp [hp, hkept, hall]

theorem take_countP (h : HoldsUpTo p l) : l.take (l.countP p) = l.filter p := by
  conv => lhs; rw [← h.filter_append_filter_not]
  rw [List.countP_append]
  simp [List.countP_eq_length_filter]

theorem drop_countP (h : HoldsUpTo p l) : l.drop (l.countP p) = l.filter fun x => !p x := by
  have hsplit := List.take_append_drop (l.countP p) l
  rw [h.take_countP] at hsplit
  exact List.append_cancel_left (hsplit.trans h.filter_append_filter_not.symm)

/-- An entry satisfies `p` exactly if its index lies before the cut. -/
theorem getElem_iff (h : HoldsUpTo p l) {i : Nat} (hi : i < l.length) :
    p l[i] ↔ i < l.countP p := by
  constructor
  · intro hp
    apply Classical.byContradiction
    intro hge
    -- An index behind the cut is one of an entry that is dropped, on which `p` fails.
    have hmem : l[i] ∈ l.drop (l.countP p) := List.mem_drop_iff_getElem.2
      ⟨i - l.countP p, by omega, by congr 1; omega⟩
    rw [h.drop_countP, List.mem_filter] at hmem
    simp [hp] at hmem
  · intro hlt
    -- An index before the cut is one of an entry that is kept.
    have hmem : l[i] ∈ l.take (l.countP p) := List.mem_take_iff_getElem.2
      ⟨i, by omega, rfl⟩
    rw [h.take_countP, List.mem_filter] at hmem
    exact hmem.2

theorem sublist {l' : List α} (h : HoldsUpTo p l) (hsub : l'.Sublist l) : HoldsUpTo p l' :=
  List.Pairwise.sublist hsub h

/-- Behind the first `n` entries there are `n` fewer that satisfy `p`, as long as there are any. -/
theorem countP_drop (h : HoldsUpTo p l) (n : Nat) : (l.drop n).countP p = l.countP p - n := by
  have hsplit : (l.take n).countP p + (l.drop n).countP p = l.countP p := by
    rw [← List.countP_append, List.take_append_drop]
  have htake : (l.take n).countP p ≤ n := by
    have := List.countP_le_length (p := p) (l := l.take n)
    rw [List.length_take] at this
    omega
  by_cases hn : n ≤ l.countP p
  · -- The first `n` entries all satisfy `p`.
    have hall : (l.take n).countP p = (l.take n).length := by
      rw [List.countP_eq_length]
      intro x hx
      obtain ⟨i, hi, rfl⟩ := List.mem_take_iff_getElem.1 hx
      exact (h.getElem_iff _).2 (by omega)
    have hlen := List.countP_le_length (p := p) (l := l)
    rw [List.length_take, Nat.min_eq_left (by omega)] at hall
    omega
  · -- All that satisfy `p` are among the first `n`.
    have hnone : (l.drop n).countP p = 0 := by
      rw [List.countP_eq_zero]
      intro x hx hp
      obtain ⟨i, hi, rfl⟩ := List.mem_drop_iff_getElem.1 hx
      have := (h.getElem_iff _).1 hp
      omega
    omega

end HoldsUpTo

/-- Bisection counts the entries on which the predicate holds. -/
theorem Board.partitionPoint_eq_countP {board : Board} {p : Standing → Bool}
    (h : HoldsUpTo p board.toList) : board.partitionPoint p = board.toList.countP p := by
  have hle : board.toList.countP p ≤ board.size := by
    simpa using List.countP_le_length (p := p) (l := board.toList)
  have hany : ∀ i (hi : i < board.size), board[i]?.any p = p board.toList[i] := by
    intro i hi
    simp [hi]
  -- The count is the border that bisection looks for: `p` holds below it and fails from it on.
  apply bisect_eq (Nat.zero_le _) hle
  · intro i _ hi
    rw [hany i (by omega)]
    exact (h.getElem_iff _).2 hi
  · intro i hle' hi
    rw [hany i hi, Bool.eq_false_iff]
    intro hp
    have := (h.getElem_iff _).1 hp
    omega

section Sorted

variable {order : Direction} {l : List Standing}

theorem holdsUpTo_notAfter (hs : l.Pairwise (order.notAfter · ·)) (place : Standing) :
    HoldsUpTo (order.notAfter · place) l := by
  apply hs.imp
  intro a b hab hb
  simp only [Direction.notAfter, bne_iff_ne, ← Ordering.isLE_iff_ne_gt] at *
  exact Std.TransCmp.isLE_trans hab hb

theorem holdsUpTo_before (hs : l.Pairwise (order.notAfter · ·)) (place : Standing) :
    HoldsUpTo (order.before · place) l :=
  hs.imp fun hab hb => Direction.before_of_notAfter_of_before hab hb

end Sorted

end Standings
