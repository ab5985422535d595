import Mathlib.Algebra.Group.Nat.Defs
import Standings.Text.Decimal

/-!
# Reading decimal integers back

Reading digits from left to right computes their positional value, `Nat.ofDigitChars`, and stops
early only where that value has left the range. So the written form of every integer of the range
is read as that integer.

## Key results

- `head?_ofNat_ne_zero`: no number above zero is written with a leading zero
- `ofDigitChars_padded` / `length_padded`: the value and the number of digits filled up with zeros
- `readDigits_eq_ok_iff`: what digits are read, and as which value
- `readInt_ofInt` / `readInt64_ofInt`: written integers are read back
- `readInt_eq_ok_iff` / `readInt64_eq_ok_iff`: the texts that are read as an integer are its
  decimal texts, `IsDecimal`
-/

namespace Standings.Decimal

/-! ## Written digits -/

theorem bounds_of_isDigit {c : Char} (h : c.isDigit) : 48 ≤ c.toNat ∧ c.toNat ≤ 57 := by
  simp only [Char.isDigit, Bool.and_eq_true, decide_eq_true_eq, UInt32.le_iff_toNat_le] at h
  exact h

/-- A natural number is written with digits only. -/
theorem isDigit_of_mem_ofNat {n : Nat} {c : Char} (h : c ∈ ofNat n) : c.isDigit :=
  Nat.isDigit_of_mem_toDigits (by decide) (by decide) h

/-- A number above zero has no leading zero. -/
theorem head?_ofNat_ne_zero {n : Nat} (h : 0 < n) : (ofNat n).head? ≠ some '0' := by
  unfold ofNat
  induction n using Nat.strongRecOn with
  | ind n ih =>
    -- The first digit is that of the quotient, down to a number of one digit.
    by_cases hn : n < 10
    · rw [Nat.toDigits_of_lt_base hn, List.head?_singleton]
      exact fun hzero => absurd (Nat.digitChar_eq_zero.1 (Option.some.inj hzero)) (by omega)
    · have hfront := List.isSome_head?.2 (Nat.toDigits_ne_nil : Nat.toDigits 10 (n / 10) ≠ [])
      rw [Nat.toDigits_of_base_le (by decide) (by omega), List.head?_append,
        Option.or_of_isSome hfront]
      exact ih (n / 10) (by omega) (by omega)

/-- An integer is written with digits, of which the first may be a minus sign. -/
theorem exists_ofInt_eq_cons (value : Int) :
    ∃ first digits, ofInt value = first :: digits ∧ (first = '-' ∨ first.isDigit) ∧
      ∀ c ∈ digits, c.isDigit := by
  cases value with
  | ofNat n =>
    have hne : ofNat n ≠ [] := Nat.toDigits_ne_nil
    obtain ⟨first, digits, hcons⟩ := List.exists_cons_of_ne_nil hne
    have hdigits : ∀ c ∈ first :: digits, c.isDigit := fun c hc => isDigit_of_mem_ofNat (hcons ▸ hc)
    rw [List.forall_mem_cons] at hdigits
    exact ⟨first, digits, hcons, .inr hdigits.1, hdigits.2⟩
  | negSucc n => exact ⟨'-', ofNat (n + 1), rfl, .inl rfl, fun c hc => isDigit_of_mem_ofNat hc⟩

theorem isDigit_padded (width n : Nat) : ∀ c ∈ (padded width n).toList, c.isDigit := by
  intro c hc
  rw [padded, String.toList_ofList, List.mem_append, List.mem_replicate] at hc
  rcases hc with ⟨-, rfl⟩ | hc
  · decide
  · exact isDigit_of_mem_ofNat hc

/-- Zeros in front do not change the value. -/
theorem ofDigitChars_padded (width n : Nat) :
    Nat.ofDigitChars 10 (padded width n).toList 0 = n := by
  rw [padded, String.toList_ofList, Nat.ofDigitChars_append, Nat.ofDigitChars_replicate_zero,
    Nat.mul_zero]
  exact Nat.ofDigitChars_ten_toDigits

theorem le_length_padded (width n : Nat) : width ≤ (padded width n).toList.length := by
  rw [padded, String.toList_ofList, List.length_append, List.length_replicate]
  omega

/-- A number with at most `width` digits takes up exactly `width` of them. -/
theorem length_padded {width n : Nat} (hwidth : 0 < width) (h : n < 10 ^ width) :
    (padded width n).toList.length = width := by
  -- No digit is beyond the width, so zeros fill up exactly what is missing.
  have hle : (ofNat n).length ≤ width := (Nat.length_toDigits_le_iff (by decide) hwidth).2 h
  rw [padded, String.toList_ofList, List.length_append, List.length_replicate]
  omega

/-! ## Reading digits -/

/-- Further digits never make a value smaller. -/
private theorem le_ofDigitChars (digits : List Char) (acc : Nat) :
    acc ≤ Nat.ofDigitChars 10 digits acc := by
  induction digits generalizing acc with
  | nil => simp
  | cons c rest ih =>
    rw [Nat.ofDigitChars_cons]
    have := ih (10 * acc + (c.toNat - '0'.toNat))
    omega

/-- Characters are read exactly if all of them are digits and their value stays in the range. -/
theorem readDigits_eq_ok_iff {limit : Nat} {beyond : Fault} {acc n : Nat} {text : List Char}
    (hacc : acc ≤ limit) :
    readDigits limit beyond acc text = .ok n ↔
      (∀ c ∈ text, c.isDigit) ∧ Nat.ofDigitChars 10 text acc = n ∧ n ≤ limit := by
  -- The value read so far is `acc`, so the claim is about the digits that are left and any such
  -- value.
  induction text generalizing acc with
  | nil =>
    simp only [readDigits, Except.ok.injEq, List.not_mem_nil, false_implies, implies_true,
      Nat.ofDigitChars_nil, true_and]
    constructor
    · rintro rfl
      exact ⟨rfl, hacc⟩
    · exact fun h => h.1
  | cons c rest ih =>
    simp only [readDigits, List.forall_mem_cons, Nat.ofDigitChars_cons]
    cases hd : digit? c with
    | none =>
      -- Reading stops here, and the text is not made of digits.
      have hc : ¬c.isDigit := by simpa [digit?] using hd
      simp [hc]
    | some d =>
      obtain ⟨hc, rfl⟩ := digit?_eq_some_iff.1 hd
      simp only [hc, true_and]
      split
      · next hle => exact ih hle
      · next hgt =>
        -- The value has left the range and cannot come back.
        have := le_ofDigitChars rest (10 * acc + (c.toNat - '0'.toNat))
        simp only [reduceCtorEq, false_iff]
        rintro ⟨-, rfl, hle⟩
        omega

/-- The written form of a natural number is read as that number. -/
theorem readMagnitude_ofNat {limit n : Nat} (beyond : Fault) (h : n ≤ limit) :
    readMagnitude limit beyond (ofNat n) = .ok n := by
  have hdigits : readDigits limit beyond 0 (ofNat n) = .ok n := by
    rw [readDigits_eq_ok_iff (Nat.zero_le _)]
    exact ⟨fun c hc => isDigit_of_mem_ofNat hc, Nat.ofDigitChars_ten_toDigits, h⟩
  unfold readMagnitude
  split
  · next hnil => exact absurd hnil Nat.toDigits_ne_nil
  · exact hdigits

/-- A text that starts with a digit has no sign to be read. -/
private theorem readInt_ofNat (bound n : Nat) :
    readInt bound (ofNat n) = Int.ofNat <$> readMagnitude (bound - 1) .tooLarge (ofNat n) := by
  have hdigit : ∀ c ∈ ofNat n, c.isDigit := fun c hc => isDigit_of_mem_ofNat hc
  unfold readInt
  split
  · next hnil => exact absurd hnil Nat.toDigits_ne_nil
  · next h => exact absurd (hdigit '+' (by simp [h])) (by decide)
  · next h => exact absurd (hdigit '-' (by simp [h])) (by decide)
  · rfl

/-- The written form of an integer of the range is read as that integer. -/
theorem readInt_ofInt {bound : Nat} {i : Int} (hlow : -bound ≤ i) (hhigh : i < bound) :
    readInt bound (ofInt i) = .ok i := by
  cases i with
  | ofNat n =>
    -- What is not negative is read up to one below the bound.
    have hn : (n : Int) < bound := hhigh
    rw [ofInt, readInt_ofNat, readMagnitude_ofNat _ (by omega)]
    rfl
  | negSucc n =>
    -- Behind a minus the bound itself is still in the range.
    have hread : readMagnitude bound .tooSmall (ofNat (n + 1)) = .ok (n + 1) :=
      readMagnitude_ofNat _ (by omega)
    simp only [ofInt, readInt, hread]
    rfl

/-- The written form of a 64-bit integer is read as that integer. -/
theorem readInt64_ofInt (i : Int64) : readInt64 (ofInt i.toInt) = .ok i := by
  have hread : readInt (Int64.size / 2) (ofInt i.toInt) = .ok i.toInt :=
    readInt_ofInt i.le_toInt i.toInt_lt
  rw [readInt64, hread]
  exact congrArg Except.ok (Int64.ofInt_toInt i)

/-- The digits of a byte are read as that byte. -/
theorem readUInt8_ofNat (n : UInt8) : readUInt8 (ofNat n.toNat) = .ok n := by
  have hsize := n.toNat_lt
  have hread : readNat (UInt8.size - 1) (ofNat n.toNat) = .ok n.toNat := by
    have hmagnitude : readMagnitude (UInt8.size - 1) .tooLarge (ofNat n.toNat) = .ok n.toNat :=
      readMagnitude_ofNat _ (Nat.le_of_lt_succ hsize)
    unfold readNat
    split
    · next hnil => exact absurd hnil Nat.toDigits_ne_nil
    · next h =>
      -- A written number does not start with a sign.
      have hplus : '+' ∈ ofNat n.toNat := by simp [h]
      exact absurd (isDigit_of_mem_ofNat hplus) (by decide)
    · exact hmagnitude
  rw [readUInt8, hread]
  exact congrArg Except.ok UInt8.ofNat_toNat

/-! ## All texts of an integer -/

/-- One or more digits with the value `n` in base ten; leading zeros are allowed. -/
def IsDigits (text : List Char) (n : Nat) : Prop :=
  text ≠ [] ∧ (∀ c ∈ text, c.isDigit) ∧ Nat.ofDigitChars 10 text 0 = n

/-- A text of an integer: digits, alone or behind a plus, or for what is not above zero behind a
minus. -/
def IsDecimal (text : List Char) (i : Int) : Prop :=
  ∃ digits n, IsDigits digits n ∧
    ((text = digits ∨ text = '+' :: digits) ∧ i = n ∨ text = '-' :: digits ∧ i = -n)

/-- A text of digits does not start with any other character. -/
theorem not_isDigits_cons {c : Char} (hc : ¬c.isDigit) (rest : List Char) (n : Nat) :
    ¬IsDigits (c :: rest) n :=
  fun h => hc (h.2.1 c List.mem_cons_self)

/-- Behind a sign, digits are read as their value, as long as it is in the range. -/
theorem readMagnitude_eq_ok_iff {limit n : Nat} {beyond : Fault} {text : List Char} :
    readMagnitude limit beyond text = .ok n ↔ IsDigits text n ∧ n ≤ limit := by
  unfold readMagnitude IsDigits
  split
  · simp
  · next hne =>
    have hne : text ≠ [] := hne
    rw [readDigits_eq_ok_iff (Nat.zero_le limit)]
    simp only [hne, ne_eq, not_false_eq_true, true_and, and_assoc]

private theorem map_eq_ok_iff {α β : Type} {f : α → β} {read : Except Fault α} {b : β} :
    f <$> read = .ok b ↔ ∃ a, read = .ok a ∧ f a = b := by
  cases read <;> simp [Functor.map, Except.map]

/-- The texts that are read as an integer of the range are its decimal texts. -/
theorem readInt_eq_ok_iff {bound : Nat} {text : List Char} {i : Int} (hbound : 0 < bound) :
    readInt bound text = .ok i ↔ IsDecimal text i ∧ -bound ≤ i ∧ i < bound := by
  unfold readInt IsDecimal
  split
  · -- The empty text is not read, and it is no decimal text either.
    simp only [reduceCtorEq, false_iff]
    rintro ⟨⟨digits, n, hdigits, ⟨h | h, -⟩ | ⟨h, -⟩⟩, -⟩
    · exact hdigits.1 h.symm
    · cases h
    · cases h
  · next digits =>
    simp only [map_eq_ok_iff, readMagnitude_eq_ok_iff, Int.ofNat_eq_natCast]
    constructor
    · rintro ⟨n, ⟨hdigits, hle⟩, rfl⟩
      exact ⟨⟨digits, n, hdigits, .inl ⟨.inr rfl, rfl⟩⟩, by omega, by omega⟩
    · -- Of the three forms of a decimal text only the one with a plus starts with a plus.
      rintro ⟨⟨digits', n, hdigits, ⟨h | h, rfl⟩ | ⟨h, -⟩⟩, -, hhigh⟩
      · exact absurd (h ▸ hdigits) (not_isDigits_cons (by decide) _ _)
      · obtain ⟨-, rfl⟩ := List.cons.inj h
        exact ⟨n, ⟨hdigits, by omega⟩, rfl⟩
      · exact absurd (List.cons.inj h).1 (by decide)
  · next digits =>
    simp only [map_eq_ok_iff, readMagnitude_eq_ok_iff, Int.ofNat_eq_natCast]
    constructor
    · rintro ⟨n, ⟨hdigits, hle⟩, rfl⟩
      exact ⟨⟨digits, n, hdigits, .inr ⟨rfl, rfl⟩⟩, by omega, by omega⟩
    · -- Only the form with a minus starts with a minus.
      rintro ⟨⟨digits', n, hdigits, ⟨h | h, -⟩ | ⟨h, rfl⟩⟩, hlow, -⟩
      · exact absurd (h ▸ hdigits) (not_isDigits_cons (by decide) _ _)
      · exact absurd (List.cons.inj h).1 (by decide)
      · obtain ⟨-, rfl⟩ := List.cons.inj h
        exact ⟨n, ⟨hdigits, by omega⟩, rfl⟩
  · next hempty hplus hminus =>
    -- Without a sign the digits are the whole text.
    simp only [map_eq_ok_iff, readMagnitude_eq_ok_iff, Int.ofNat_eq_natCast]
    constructor
    · rintro ⟨n, ⟨hdigits, hle⟩, rfl⟩
      exact ⟨⟨text, n, hdigits, .inl ⟨.inl rfl, rfl⟩⟩, by omega, by omega⟩
    · rintro ⟨⟨digits, n, hdigits, ⟨h | h, rfl⟩ | ⟨h, -⟩⟩, -, hhigh⟩
      · exact ⟨n, ⟨h ▸ hdigits, by omega⟩, rfl⟩
      · exact absurd h (hplus digits)
      · exact absurd h (hminus digits)

/-- The texts that are read as a 64-bit integer are its decimal texts. -/
theorem readInt64_eq_ok_iff {text : List Char} {i : Int64} :
    readInt64 text = .ok i ↔ IsDecimal text i.toInt := by
  have hread : ∀ n, readInt (Int64.size / 2) text = .ok n ↔ IsDecimal text n ∧ _ := fun n =>
    readInt_eq_ok_iff (by decide)
  rw [readInt64, map_eq_ok_iff]
  constructor
  · rintro ⟨n, hn, rfl⟩
    obtain ⟨hdecimal, hlow, hhigh⟩ := (hread n).1 hn
    rwa [Int64.toInt_ofInt_of_le hlow hhigh]
  · intro h
    exact ⟨i.toInt, (hread i.toInt).2 ⟨h, i.le_toInt, i.toInt_lt⟩, Int64.ofInt_toInt i⟩

end Standings.Decimal
