/-! # Bisection

`bisect p lo hi` looks for the border between the indices of `[lo, hi)` on which `p` holds and
those on which it does not. Main statements: the answer is at most `hi` whatever `p` is, and if `p`
holds up to some border and nowhere from there on, the answer is that border. -/

namespace Standings

/-- Halves the range `[lo, hi)` until it is empty, keeping the half that holds the border. -/
def bisect (p : Nat → Bool) (lo hi : Nat) : Nat :=
  if lo < hi then
    let mid := lo + (hi - lo) / 2
    if p mid then bisect p (mid + 1) hi else bisect p lo mid
  else lo
termination_by hi - lo

/-- The search goes no further than the end of its range. -/
theorem bisect_le (p : Nat → Bool) {lo hi : Nat} (h : lo ≤ hi) : bisect p lo hi ≤ hi := by
  fun_induction bisect p lo hi with
  | case1 lo hi hlt mid hp ih => exact ih (by omega)
  | case2 lo hi hlt mid hp ih => have := ih (by omega); omega
  | case3 lo hi hlt => exact h

/-- A border inside the range is found. -/
theorem bisect_eq {p : Nat → Bool} {lo hi border : Nat} (hlo : lo ≤ border) (hhi : border ≤ hi)
    (hbelow : ∀ i, lo ≤ i → i < border → p i = true)
    (habove : ∀ i, border ≤ i → i < hi → p i = false) : bisect p lo hi = border := by
  fun_induction bisect p lo hi with
  | case1 lo hi hlt mid hp ih =>
    -- `p mid` holds, so `mid` lies below the border and the search goes on behind it.
    have : mid < border := by
      apply Classical.byContradiction
      intro hge
      have := habove mid (by omega) (by omega)
      simp_all
    exact ih (by omega) hhi (fun i h₁ h₂ => hbelow i (by omega) h₂) habove
  | case2 lo hi hlt mid hp ih =>
    -- `p mid` fails, so the border is at `mid` or below it.
    have : border ≤ mid := by
      apply Classical.byContradiction
      intro hlt'
      exact hp (hbelow mid (by omega) (by omega))
    exact ih hlo this hbelow fun i h₁ h₂ => habove i h₁ (by omega)
  | case3 lo hi hlt => omega

end Standings
