/-! # Users, scores and the order of a board

A `Standing` is a user with a score: what is counted for a user, what a board lists, and what a
cursor points at. A board is ordered by score in one of two directions; users of equal score
stand in ascending order of their ids in both directions, so two standings compare as equal only
if they are the same. -/

namespace Standings

/-- A user of the platform. -/
structure UserId where
  /-- The platform's number for the user. -/
  value : Int64
  deriving DecidableEq, Repr

namespace UserId

/-- Users are ordered by their numbers. -/
instance : Ord UserId := ⟨fun a b => compare a.value b.value⟩

theorem compare_def (a b : UserId) : compare a b = compare a.value b.value := rfl

instance : Std.TransOrd UserId where
  eq_swap := Std.OrientedOrd.eq_swap (α := Int64)
  isLE_trans := Std.TransOrd.isLE_trans (α := Int64)

instance : Std.LawfulEqOrd UserId where
  compare_self := Std.ReflOrd.compare_self (α := Int64)
  eq_of_compare {a b} h := by
    cases a; cases b
    exact congrArg UserId.mk (Std.LawfulEqOrd.eq_of_compare (α := Int64) h)

end UserId

/-- A user with a score. -/
structure Standing where
  /-- Who stands here. -/
  user : UserId
  /-- The user's score. -/
  score : Int64
  deriving DecidableEq, Repr

/-- The direction in which a board lists scores. -/
inductive Direction where
  /-- Lowest score first. -/
  | ascending
  /-- Highest score first. -/
  | descending
  deriving DecidableEq, Repr

namespace Direction

/-- Compares two standings: by score in this direction, then by user, lowest id first. -/
def compare (order : Direction) (a b : Standing) : Ordering :=
  let byScore := match order with
    | .ascending => Ord.compare a.score b.score
    | .descending => Ord.compare b.score a.score
  byScore.then (Ord.compare a.user b.user)

/-- `a` stands before `b`. -/
def before (order : Direction) (a b : Standing) : Bool :=
  order.compare a b == .lt

/-- `a` does not stand after `b`. -/
def notAfter (order : Direction) (a b : Standing) : Bool :=
  order.compare a b != .gt

/-- The comparison is that by score, followed by that by user, so it orders. -/
instance (order : Direction) : Std.TransCmp order.compare := by
  cases order
  · exact inferInstanceAs
      (Std.TransCmp (compareLex (compareOn Standing.score) (compareOn Standing.user)))
  · exact inferInstanceAs (Std.TransCmp
      (compareLex (fun a b => compareOn Standing.score b a) (compareOn Standing.user)))

/-- Only a standing itself compares as equal to it. -/
instance (order : Direction) : Std.LawfulEqCmp order.compare where
  eq_of_compare {a b} h := by
    simp only [compare, Ordering.then_eq_eq] at h
    cases a; cases b
    cases order <;> simp_all

/-- Comparing the other way round gives the other answer. -/
theorem compare_swap (order : Direction) (a b : Standing) :
    order.compare b a = (order.compare a b).swap :=
  Std.OrientedCmp.eq_swap

theorem before_iff {order : Direction} {a b : Standing} :
    order.before a b ↔ order.compare a b = .lt := by
  simp [before]

/-- `a` does not stand after `b` exactly if `b` does not stand before `a`. -/
theorem notAfter_eq_not_before (order : Direction) (a b : Standing) :
    order.notAfter a b = !order.before b a := by
  rw [notAfter, before, order.compare_swap a b]
  cases order.compare a b <;> rfl

/-- A standing that does not stand after another stands before it or is the same. -/
theorem notAfter_iff {order : Direction} {a b : Standing} :
    order.notAfter a b ↔ order.before a b ∨ a = b := by
  have heq : order.compare a b = .eq ↔ a = b := Std.LawfulEqCmp.compare_eq_iff_eq
  rw [before_iff, notAfter, bne_iff_ne, ← heq]
  cases order.compare a b <;> simp

@[simp] theorem before_self (order : Direction) (a : Standing) : order.before a a = false := by
  have heq : order.compare a a = .eq := Std.ReflCmp.compare_self
  simp [before, heq]

theorem before_trans {order : Direction} {a b c : Standing}
    (hab : order.before a b) (hbc : order.before b c) : order.before a c := by
  rw [before_iff] at *
  exact Std.TransCmp.lt_trans hab hbc

theorem before_of_notAfter_of_before {order : Direction} {a b c : Standing}
    (hab : order.notAfter a b) (hbc : order.before b c) : order.before a c := by
  rcases notAfter_iff.1 hab with h | rfl
  · exact before_trans h hbc
  · exact hbc

/-- Of two standings at most one stands before the other. -/
theorem before_asymm {order : Direction} {a b : Standing} (hab : order.before a b) :
    order.before b a = false := by
  rw [Bool.eq_false_iff]
  intro hba
  simpa using before_trans hab hba

end Direction

end Standings
