import Mathlib.Algebra.Order.Group.Nat
import Standings.Store.Retry

/-!
# Waits in words

The waits are to double from 50 ms up to a second. The second is the limit of the word, so first the
word has to be there: `2 ^ 64` is no word, and `50 * 2 ^ 59` is none either. So there are 59 waits,
each of them as it should be, and then there is none.

## Key results

- `Word.mul?_eq_some_iff`, `Word.add?_eq_some_iff`, `Word.pow?_two_eq_some_iff`: words that run over
- `Store.wait?_of_lt` / `Store.wait?_eq_none_iff`: the waits that there are
- `Store.fits_iff`: where all words on the way to a wait hold what they should
-/

namespace Standings

/-! ## Words -/

namespace Word

/-- A word that is given where it holds a number, and only there, is the word of that number. -/
theorem ite_eq_some_iff {n : Nat} {word c : UInt64} (hword : n < UInt64.size → word.toNat = n) :
    (if n < UInt64.size then some word else none) = some c ↔ c.toNat = n := by
  split
  · next hfits =>
    rw [Option.some.injEq, ← UInt64.toNat_inj, hword hfits]
    exact eq_comm
  · next hover =>
    -- Another word that held the number would bound it.
    refine iff_of_false (by simp) fun h => hover ?_
    rw [← h]
    exact c.toNat_lt_size

theorem mul?_eq_some_iff {a b c : UInt64} :
    mul? a b = some c ↔ c.toNat = a.toNat * b.toNat := by
  refine ite_eq_some_iff fun hfits => ?_
  -- A product below the modulus is what is left of it.
  rw [UInt64.toNat_mul, Nat.mod_eq_of_lt hfits]

theorem add?_eq_some_iff {a b c : UInt64} :
    add? a b = some c ↔ c.toNat = a.toNat + b.toNat := by
  refine ite_eq_some_iff fun hfits => ?_
  -- So is a sum.
  rw [UInt64.toNat_add, Nat.mod_eq_of_lt hfits]

/-- A power of two is a word if its number is one. -/
theorem pow?_two_eq_some_iff {n : Nat} {c : UInt64} : pow? 2 n = some c ↔ c.toNat = 2 ^ n := by
  have htwo : (2 : UInt64).toNat = 2 := rfl
  induction n generalizing c with
  | zero =>
    rw [pow?, Option.some.injEq, ← UInt64.toNat_inj]
    exact eq_comm
  | succ n ih =>
    -- The next power is the product of the last one, which has to be there, and two.
    simp only [pow?, Option.bind_eq_some_iff, ih, mul?_eq_some_iff, htwo]
    rw [Nat.pow_succ]
    constructor
    · rintro ⟨half, hhalf, hc⟩
      rw [hc, hhalf]
    · -- Half of a word is a word.
      intro hc
      have hlt := c.toNat_lt_size
      have hhalf : (UInt64.ofNat (2 ^ n)).toNat = 2 ^ n := UInt64.toNat_ofNat_of_lt' (by omega)
      exact ⟨_, hhalf, by rw [hhalf, hc]⟩

end Word

namespace Store

/-! ## Waits -/

theorem doubled?_eq_some_iff {times : Nat} {c : UInt64} :
    doubled? times = some c ↔ c.toNat = 50 * 2 ^ times := by
  have hfirst : firstWait.toNat = 50 := rfl
  simp only [doubled?, Option.bind_eq_some_iff, Word.pow?_two_eq_some_iff, Word.mul?_eq_some_iff,
    hfirst]
  constructor
  · rintro ⟨power, hpower, hc⟩
    rw [hc, hpower]
  · intro hc
    have hlt := c.toNat_lt_size
    -- The power is smaller than the product, so it is a word as well.
    have hpower : (UInt64.ofNat (2 ^ times)).toNat = 2 ^ times :=
      UInt64.toNat_ofNat_of_lt' (by omega)
    exact ⟨_, hpower, by rw [hpower, hc]⟩

/-- The product fits a word for the first 59 waits. -/
theorem product_lt_iff {made : Nat} : 50 * 2 ^ made < UInt64.size ↔ made < 59 := by
  have hsize : UInt64.size = 2 ^ 64 := rfl
  constructor
  · intro h
    by_contra hlate
    -- Powers grow, and the 59th is too much already.
    have hgrows := Nat.pow_le_pow_right (n := 2) (by decide) (Nat.le_of_not_lt hlate)
    omega
  · intro h
    have hgrows := Nat.pow_le_pow_right (n := 2) (by decide) (Nat.le_of_lt_succ h)
    omega

/-- The wait in milliseconds after so many others, as it should be: doubled from 50 ms, and a second
at most. -/
def waitMillis (made : Nat) : Nat := min (50 * 2 ^ made) 1000

/-- The word of that wait. -/
def millisWord (made : Nat) : UInt64 := UInt64.ofNat (waitMillis made)

theorem toNat_millisWord (made : Nat) : (millisWord made).toNat = waitMillis made := by
  -- A second of milliseconds is far below the modulus.
  refine UInt64.toNat_ofNat_of_lt' (Nat.lt_of_le_of_lt (Nat.min_le_right _ _) ?_)
  decide

/-- A wait that is computed is as it should be. -/
theorem wait?_of_lt {made : Nat} (h : made < 59) : wait? made = some (millisWord made) := by
  have hlongest : longestWait.toNat = 1000 := rfl
  have hproduct : (UInt64.ofNat (50 * 2 ^ made)).toNat = 50 * 2 ^ made :=
    UInt64.toNat_ofNat_of_lt' (product_lt_iff.2 h)
  rw [wait?, doubled?_eq_some_iff.2 hproduct, Option.map_some, Option.some.injEq,
    ← UInt64.toNat_inj, toNat_millisWord, waitMillis]
  -- The limit is that of the number, for the word is the number.
  simp only [UInt64.le_iff_toNat_le, hproduct, hlongest]
  split
  · omega
  · rw [hlongest]
    omega

/-- From the 60th wait on there is none, for the product is no word. -/
theorem wait?_eq_none_iff {made : Nat} : wait? made = none ↔ 59 ≤ made := by
  constructor
  · intro hnone
    by_contra hearly
    rw [wait?_of_lt (Nat.lt_of_not_le hearly)] at hnone
    cases hnone
  · intro hlate
    rw [wait?, Option.map_eq_none_iff, Option.eq_none_iff_forall_ne_some]
    intro c hc
    -- A word that is there would hold the product.
    have hnumber := doubled?_eq_some_iff.1 hc
    have hlt := c.toNat_lt_size
    rw [hnumber, product_lt_iff] at hlt
    omega

/-- The words on the way to a wait are there and hold what they should: the power, the product, and
the wait with a chance addition of less than 50 ms. -/
structure Fits (made : Nat) : Prop where
  power : ∃ c, Word.pow? 2 made = some c ∧ c.toNat = 2 ^ made
  product : ∃ c, doubled? made = some c ∧ c.toNat = 50 * 2 ^ made
  addition : ∀ jitter : UInt64, jitter < 50 →
    ∃ millis c, wait? made = some millis ∧ Word.add? millis jitter = some c ∧
      c.toNat = waitMillis made + jitter.toNat

theorem fits_iff {made : Nat} : Fits made ↔ made < 59 := by
  constructor
  · rintro ⟨-, ⟨c, -, hnumber⟩, -⟩
    -- The product alone shows that there is no such wait.
    have hlt := c.toNat_lt_size
    rwa [hnumber, product_lt_iff] at hlt
  · intro h
    have hproduct := product_lt_iff.2 h
    have hpower : (UInt64.ofNat (2 ^ made)).toNat = 2 ^ made :=
      UInt64.toNat_ofNat_of_lt' (by omega)
    have hnumber : (UInt64.ofNat (50 * 2 ^ made)).toNat = 50 * 2 ^ made :=
      UInt64.toNat_ofNat_of_lt' hproduct
    refine ⟨⟨_, Word.pow?_two_eq_some_iff.2 hpower, hpower⟩,
      ⟨_, doubled?_eq_some_iff.2 hnumber, hnumber⟩, fun jitter hjitter => ?_⟩
    -- Neither summand is much above a second.
    have hjitter : jitter.toNat < 50 := UInt64.lt_iff_toNat_lt.1 hjitter
    have hwait : waitMillis made ≤ 1000 := Nat.min_le_right _ _
    have hsum : (UInt64.ofNat (waitMillis made + jitter.toNat)).toNat =
        waitMillis made + jitter.toNat :=
      UInt64.toNat_ofNat_of_lt' (by rw [show UInt64.size = 2 ^ 64 from rfl]; omega)
    refine ⟨_, _, wait?_of_lt h, Word.add?_eq_some_iff.2 ?_, hsum⟩
    rw [hsum, toNat_millisWord]

end Store

end Standings
