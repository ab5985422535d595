import Mathlib.Algebra.Group.Nat.Defs
import Standings.Calendar.Timestamp
import Standings.Proofs.Decimal

/-!
# Timestamps are read back

The text of an instant is read in UTC as that instant, unless the instant lies in a leap second
behind a second that does not end a minute: its text is then that of an instant in the next second,
and is read as that one. Each part of a text is read up to where it ends: a number of fixed width
after as many digits, a year with a sign or a fraction at the first character that is no digit. What
the parts name is an instant again, because the date of every day is one there is, and the second of
a minute is 60 exactly in a leap second that ends the minute.

## Key results

- `Date.isValid_civil`: the date of a day is one there is
- `takeYear_yearText`, `takeDigits_padded`, `takeFraction_fractionText`: the parts are read back
- `parse?_write`: an instant is read back as it is written
- `Instant.asWritten_eq_self_iff`: which instants that leaves as they are
-/

namespace Standings.Calendar

/-! ## Dates -/

namespace Date

/-- The last day of a year that starts in March and has 366 days is a leap day. -/
theorem isLeapYear_of_marchYear {days : Int} (h : (marchYear days).2 = 365) :
    Civil.isLeapYear ((marchYear days).1 + 1) := by
  -- A year in a cycle of 400: its century, the olympiad in that, and the year in that.
  simp only [marchYear] at h ⊢
  generalize hc : min 3 (days % 146097 / 36524) = century at *
  generalize hq : (days % 146097 - century * 36524) / 1461 = olympiad at *
  generalize hs : min 3 ((days % 146097 - century * 36524) % 1461 / 365) = single at *
  generalize he : days / 146097 = era
  have century_le : 0 ≤ century ∧ century ≤ 3 := by omega
  have olympiad_le : 0 ≤ olympiad ∧ olympiad ≤ 24 := by omega
  have hsingle : single = 3 := by omega
  -- The last olympiad of a century is a day short, except in the last century of four.
  have hcentury : olympiad = 24 → century = 3 := by omega
  have hfour : (era * 400 + century * 100 + olympiad * 4 + single + 1) % 4 = 0 := by omega
  have hhundred : (era * 400 + century * 100 + olympiad * 4 + single + 1) % 100 ≠ 0 ∨
      (era * 400 + century * 100 + olympiad * 4 + single + 1) % 400 = 0 := by omega
  simp only [Civil.isLeapYear, hfour]
  rcases hhundred with h | h <;> simp [h]

/-- The date of a day is one there is. -/
theorem isValid_civil (d : Date) : d.civil.isValid := by
  have hdays := marchYear_days (d.day + 719468)
  have hleap := @isLeapYear_of_marchYear (d.day + 719468)
  unfold civil
  generalize marchYear (d.day + 719468) = parts at *
  obtain ⟨year, ofYear⟩ := parts
  obtain ⟨-, nonneg, le⟩ := hdays
  simp only at *
  -- Months from March on have 153 days in five of them.
  generalize hm : (5 * ofYear + 2) / 153 = month
  have month_le : 0 ≤ month ∧ month ≤ 11 := by omega
  simp only [Civil.isValid, Bool.and_eq_true, decide_eq_true_eq]
  split
  · -- March to December.
    have hmonth : (month + 3).toNat ≠ 2 := by omega
    simp only [Civil.monthLength, if_neg hmonth]
    refine ⟨⟨⟨by omega, by omega⟩, by omega⟩, ?_⟩
    split <;> omega
  · -- January and February; a 366th day since March is the 29th of February.
    have hmonth : month = 10 ∨ month = 11 := by omega
    rcases hmonth with rfl | rfl
    · have hlength : Civil.monthLength (year + 1) ((10 : Int) - 9).toNat = 31 := rfl
      dsimp only
      omega
    · have hlength : Civil.monthLength (year + 1) ((11 : Int) - 9).toNat =
          if Civil.isLeapYear (year + 1) then 29 else 28 := rfl
      dsimp only
      rw [hlength]
      split
      · omega
      · next h =>
        have hne : ofYear ≠ 365 := fun h365 => h (hleap h365)
        omega

theorem ofCivil?_civil {d : Date} (h : d.inCalendar) : ofCivil? d.civil = some d := by
  rw [ofCivil?, dayNumber_civil, if_pos ⟨isValid_civil d, h⟩]

end Date

theorem Civil.monthLength_le (year : Int) (month : Nat) : monthLength year month ≤ 31 := by
  unfold monthLength
  split
  · split <;> decide
  · split <;> decide

/-! ## What a text stands for -/

namespace Instant

/-- A leap second that is counted on as the next second of its minute stays in the calendar: the
calendar ends with the last second of a minute. -/
theorem inCalendar_succ {t : Instant} (h : t.second % 60 ≠ 59) :
    firstSecond ≤ t.second + 1 ∧ t.second + 1 ≤ lastSecond := by
  have hbounds := t.inCalendar
  have hlast : lastSecond % 60 = 59 := by decide
  omega

/-- An instant as it is written: the one that its text stands for. The count of a minute's seconds
runs to 60, so only a leap second behind the last second of a minute has a count of its own; behind
any other it shares that of the next second. -/
def asWritten (t : Instant) : Instant :=
  if h : 1000000000 ≤ t.nano ∧ t.second % 60 ≠ 59 then
    ⟨t.second + 1, t.nano - 1000000000, Nat.lt_of_le_of_lt (Nat.sub_le ..) t.nano_lt,
      inCalendar_succ h.2⟩
  else t

/-- The text of an instant stands for that instant, but for a leap second within a minute. -/
theorem asWritten_eq_self_iff {t : Instant} :
    t.asWritten = t ↔ t.nano < 1000000000 ∨ t.second % 60 = 59 := by
  unfold asWritten
  split
  · next h =>
    -- What the text stands for lies in another second.
    refine ⟨fun heq => absurd (congrArg Instant.second heq) (by dsimp only; omega), ?_⟩
    omega
  · next h => exact ⟨fun _ => by omega, fun _ => rfl⟩

theorem of?_self (t : Instant) : of? t.second t.nano = some t :=
  dif_pos ⟨t.nano_lt, t.inCalendar⟩

end Instant

/-! ## Digits -/

namespace Timestamp

theorem takeDigits_append {digits : List Char} (h : ∀ c ∈ digits, c.isDigit) (acc : Nat)
    (rest : List Char) :
    takeDigits acc digits.length (digits ++ rest) =
      some (Nat.ofDigitChars 10 digits acc, rest) := by
  -- Induction on the digits; the value so far is what they are added to.
  induction digits generalizing acc with
  | nil => rfl
  | cons c digits ih =>
    rw [List.forall_mem_cons] at h
    have hdigit : Decimal.digit? c = some (c.toNat - '0'.toNat) :=
      Decimal.digit?_eq_some_iff.2 ⟨h.1, rfl⟩
    simp only [List.length_cons, List.cons_append, takeDigits, hdigit, Nat.ofDigitChars_cons,
      ih h.2]

/-- A number of fixed width is read back, whatever follows it. -/
theorem takeDigits_padded {width n : Nat} (hwidth : 0 < width) (h : n < 10 ^ width)
    (rest : List Char) :
    takeDigits 0 width ((Decimal.padded width n).toList ++ rest) = some (n, rest) := by
  have htake := takeDigits_append (Decimal.isDigit_padded width n) 0 rest
  rwa [Decimal.length_padded hwidth h, Decimal.ofDigitChars_padded] at htake

/-- A run of digits is read to its end. -/
theorem takeRun_append {digits rest : List Char} (h : ∀ c ∈ digits, c.isDigit)
    (hrest : ∀ c ∈ rest.head?, ¬c.isDigit) (count acc : Nat) :
    takeRun count acc (digits ++ rest) =
      (count + digits.length, Nat.ofDigitChars 10 digits acc, rest) := by
  induction digits generalizing count acc with
  | nil =>
    cases rest with
    | nil => rfl
    | cons c rest =>
      -- The run stops at what is no digit.
      have hdigit : Decimal.digit? c = none := if_neg (hrest c rfl)
      rw [List.nil_append, takeRun, hdigit]
      rfl
  | cons c digits ih =>
    rw [List.forall_mem_cons] at h
    have hdigit : Decimal.digit? c = some (c.toNat - '0'.toNat) :=
      Decimal.digit?_eq_some_iff.2 ⟨h.1, rfl⟩
    rw [List.cons_append, takeRun, hdigit]
    simp only [ih h.2, Nat.ofDigitChars_cons, List.length_cons]
    rw [Nat.add_right_comm, Nat.add_assoc]

/-! ## Years -/

theorem exists_padded_eq_cons (n : Nat) :
    ∃ c rest, (Decimal.padded 4 n).toList = c :: rest ∧ c.isDigit := by
  -- Four digits at least, so there is a first one.
  have hlength := Decimal.le_length_padded 4 n
  have hdigits := Decimal.isDigit_padded 4 n
  match h : (Decimal.padded 4 n).toList with
  | [] => simp [h] at hlength
  | c :: rest => exact ⟨c, rest, rfl, hdigits c (by simp [h])⟩

theorem signed_padded (sign : Int) (n : Nat) {rest : List Char}
    (hrest : ∀ c ∈ rest.head?, ¬c.isDigit) :
    takeYear.signed sign ((Decimal.padded 4 n).toList ++ rest) = some (sign * n, rest) := by
  have hlength := Decimal.le_length_padded 4 n
  simp only [takeYear.signed, takeRun_append (Decimal.isDigit_padded 4 n) hrest,
    Decimal.ofDigitChars_padded]
  -- Enough digits for a year with a sign.
  rw [if_pos (by omega)]

/-- A year is read back up to a character that is no digit: its sign tells whether four digits are
read or all there are. -/
theorem takeYear_yearText (year : Int) {rest : List Char} (hrest : ∀ c ∈ rest.head?, ¬c.isDigit) :
    takeYear ((yearText year).toList ++ rest) = some (year, rest) := by
  unfold yearText
  split
  · next hyear =>
    -- An ordinary year: four digits and no sign.
    have htake : takeDigits 0 4 ((Decimal.padded 4 year.toNat).toList ++ rest) =
        some (year.toNat, rest) := takeDigits_padded (by decide) (by omega) rest
    have hvalue : Int.ofNat year.toNat = year := Int.toNat_of_nonneg hyear.1
    obtain ⟨c, digits, hdigits, hc⟩ := exists_padded_eq_cons year.toNat
    rw [hdigits] at htake ⊢
    unfold takeYear
    split
    · next heq => cases heq; exact absurd hc (by decide)
    · next heq => cases heq; exact absurd hc (by decide)
    · rw [htake, Option.map_some]
      exact congrArg (fun year => some (year, rest)) hvalue
  · split
    · -- A year before the year 0, with a minus.
      have hsigned := signed_padded (-1) year.natAbs hrest
      rw [show (-1 : Int) * year.natAbs = year by omega] at hsigned
      rw [String.toList_append]
      exact hsigned
    · -- A year after 9999, with a plus.
      have hsigned := signed_padded 1 year.natAbs hrest
      rw [show (1 : Int) * year.natAbs = year by omega] at hsigned
      rw [String.toList_append]
      exact hsigned

/-- No year starts with a blank. -/
theorem dropWhile_yearText (year : Int) (rest : List Char) :
    ((yearText year).toList ++ rest).dropWhile Text.isBlank = (yearText year).toList ++ rest := by
  have hfirst : ∃ c digits, (yearText year).toList = c :: digits ∧ ¬Text.isBlank c := by
    unfold yearText
    split
    · obtain ⟨c, digits, hdigits, hc⟩ := exists_padded_eq_cons year.toNat
      -- Neither a digit nor a sign is a blank.
      have hbounds := Decimal.bounds_of_isDigit hc
      refine ⟨c, digits, hdigits, ?_⟩
      simp only [Text.isBlank]
      simp
      omega
    · rw [String.toList_append]
      split <;> exact ⟨_, _, rfl, by decide⟩
  obtain ⟨c, digits, hdigits, hc⟩ := hfirst
  rw [hdigits, List.cons_append, List.dropWhile_cons_of_neg hc]

/-! ## Fractions -/

/-- Up to nine digits of a fraction are read as nanoseconds. -/
theorem takeFraction_padded {width n : Nat} (hwidth : 0 < width) (hle : width ≤ 9)
    (h : n < 10 ^ width) {rest : List Char} (hrest : ∀ c ∈ rest.head?, ¬c.isDigit) :
    takeFraction ('.' :: (Decimal.padded width n).toList ++ rest) =
      some (n * 10 ^ (9 - width), rest) := by
  have hdigits := Decimal.isDigit_padded width n
  have hlength := Decimal.length_padded hwidth h
  have hvalue := Decimal.ofDigitChars_padded width n
  generalize (Decimal.padded width n).toList = digits at *
  -- The digits end where the rest begins.
  have hstop : rest.takeWhile Char.isDigit = [] ∧ rest.dropWhile Char.isDigit = rest := by
    cases rest with
    | nil => exact ⟨rfl, rfl⟩
    | cons c rest =>
      exact ⟨List.takeWhile_cons_of_neg (hrest c rfl), List.dropWhile_cons_of_neg (hrest c rfl)⟩
  have htake : (digits ++ rest).takeWhile Char.isDigit = digits := by
    rw [List.takeWhile_append_of_pos hdigits, hstop.1, List.append_nil]
  have hdrop : (digits ++ rest).dropWhile Char.isDigit = rest := by
    rw [List.dropWhile_append_of_pos hdigits, hstop.2]
  have hne : digits ≠ [] := by
    rintro rfl
    simp at hlength
    omega
  -- No digit is cut off, and there is one at least.
  have hnine : digits.take 9 = digits := List.take_of_length_le (by omega)
  have hrun : takeRun 0 0 digits = (width, n, []) := by
    have hrun : takeRun 0 0 (digits ++ []) =
        (0 + digits.length, Nat.ofDigitChars 10 digits 0, []) :=
      takeRun_append hdigits (by simp) 0 0
    rwa [List.append_nil, hvalue, hlength, Nat.zero_add] at hrun
  simp only [takeFraction, List.cons_append, htake, hdrop, hnine, hrun, if_neg hne]
  rfl

/-- The digits that a fraction is written without are zeros. -/
theorem takeFraction_fractionText {nano : Nat} (h : nano < 1000000000) {rest : List Char}
    (hrest : ∀ c ∈ rest.head?, ¬c.isDigit ∧ c ≠ '.') :
    takeFraction ((fractionText nano).toList ++ rest) = some (nano, rest) := by
  have hdigit : ∀ c ∈ rest.head?, ¬c.isDigit := fun c hc => (hrest c hc).1
  unfold fractionText
  split
  · next hzero =>
    -- Without a fraction nothing is written, and nothing is read.
    rw [hzero, String.toList_empty, List.nil_append]
    unfold takeFraction
    split
    · exact absurd rfl (hrest '.' rfl).2
    · rfl
  · split
    · -- The same for three digits, for six and for nine: what is left out is a multiple.
      have hfraction := takeFraction_padded (by decide) (by decide)
        (show nano / 1000000 < 10 ^ 3 by omega) hdigit
      rw [show nano / 1000000 * 10 ^ (9 - 3) = nano by omega] at hfraction
      rw [String.toList_append]
      exact hfraction
    · split
      · have hfraction := takeFraction_padded (by decide) (by decide)
          (show nano / 1000 < 10 ^ 6 by omega) hdigit
        rw [show nano / 1000 * 10 ^ (9 - 6) = nano by omega] at hfraction
        rw [String.toList_append]
        exact hfraction
      · have hfraction := takeFraction_padded (by decide) (by decide)
          (show nano < 10 ^ 9 by omega) hdigit
        rw [show nano * 10 ^ (9 - 9) = nano by omega] at hfraction
        rw [String.toList_append]
        exact hfraction

/-! ## Instants -/

/-- The count of a minute's seconds and the fraction name the instant as it is written. -/
theorem of?_counted {t : Instant} {ofDay second : Nat} (hofDay : (t.second % 86400).toNat = ofDay)
    (hsecond : ofDay % 60 + t.nano / 1000000000 = second) :
    Instant.of? (t.second / 86400 * 86400 +
        (ofDay / 3600 * 3600 + ofDay / 60 % 60 * 60 + min second 59 : Nat) - 0)
      (if second = 60 then t.nano % 1000000000 + 1000000000 else t.nano % 1000000000) =
        some t.asWritten := by
  have hnano := t.nano_lt
  have hminute : t.second % 60 = (ofDay % 60 : Nat) := by omega
  suffices h : t.second / 86400 * 86400 +
        (ofDay / 3600 * 3600 + ofDay / 60 % 60 * 60 + min second 59 : Nat) - 0 =
          t.asWritten.second ∧
      (if second = 60 then t.nano % 1000000000 + 1000000000 else t.nano % 1000000000) =
        t.asWritten.nano by
    rw [h.1, h.2, Instant.of?_self]
  unfold Instant.asWritten
  split
  · next h =>
    -- Within a minute the count goes on to the next second, at most the 59th.
    rw [if_neg (by omega)]
    exact ⟨by dsimp only; omega, by dsimp only; omega⟩
  · next h =>
    -- Otherwise the count is the second's own, or 60 behind the last one.
    refine ⟨by omega, ?_⟩
    split <;> omega

/-- Every instant is read back as it is written, in UTC: in any year of the calendar, with any
nanosecond. -/
theorem parse?_write (t : Instant) : parse? (write t) = some (t.asWritten, 0) := by
  -- The day of an instant of the calendar is in the calendar, and its date is valid.
  have hcalendar : Date.inCalendar ⟨t.second / 86400⟩ := by
    have := t.inCalendar
    simp only [firstSecond, lastSecond] at this
    simp only [Date.inCalendar, Bool.and_eq_true, decide_eq_true_eq]
    omega
  have hdate := Date.ofCivil?_civil hcalendar
  have hvalid := Date.isValid_civil ⟨t.second / 86400⟩
  simp only [write]
  generalize Date.civil ⟨t.second / 86400⟩ = civil at *
  have hlength := Civil.monthLength_le civil.year civil.month
  simp only [Civil.isValid, Bool.and_eq_true, decide_eq_true_eq] at hvalid
  generalize hofDay : (t.second % 86400).toNat = ofDay
  have hnano := t.nano_lt
  generalize htotal : ofDay % 60 + t.nano / 1000000000 = second
  have hparts : ofDay / 3600 ≤ 23 ∧ ofDay / 60 % 60 ≤ 59 ∧ second ≤ 60 := by omega
  -- The fields of fixed width.
  have htwo {n : Nat} (hn : n < 100) (rest : List Char) :
      takeDigits 0 2 ((Decimal.padded 2 n).toList ++ rest) = some (n, rest) :=
    takeDigits_padded (by decide) hn rest
  have hmonth := htwo (show civil.month < 100 by omega)
  have hday := htwo (show civil.dayOfMonth < 100 by omega)
  have hhour := htwo (show ofDay / 3600 < 100 by omega)
  have hminute := htwo (show ofDay / 60 % 60 < 100 by omega)
  have hsecond := htwo (show second < 100 by omega)
  -- The year and the fraction, which end where no digit follows.
  have hyear (rest : List Char) :
      takeYear ((yearText civil.year).toList ++ '-' :: rest) = some (civil.year, '-' :: rest) :=
    takeYear_yearText civil.year (by simp)
  have hfraction : takeFraction ((fractionText (t.nano % 1000000000)).toList ++ ['Z']) =
      some (t.nano % 1000000000, ['Z']) := takeFraction_fractionText (by omega) (by simp)
  have hexpect (c : Char) (rest : List Char) : expect c (c :: rest) = some rest := if_pos rfl
  have htake {α β : Type} {x : Option α} {a : α} {f : α → Option β} {b : β} (hx : x = some a)
      (hf : f a = some b) : x >>= f = some b := by
    rw [hx]
    exact hf
  -- Said here once, for unifying with a literal would decode it each time.
  have hdash : "-".toList = ['-'] := rfl
  have htime : "T".toList = ['T'] := rfl
  have hcolon : ":".toList = [':'] := rfl
  have hzulu : "Z".toList = ['Z'] := rfl
  -- The parts are taken from the text one after the other.
  rw [parse?]
  simp only [String.toList_append, List.append_assoc, hdash, htime, hcolon, hzulu,
    List.singleton_append]
  rw [dropWhile_yearText]
  refine htake (hyear _) ?_
  refine htake (hexpect _ _) ?_
  refine htake (hmonth _) ?_
  refine htake (hexpect _ _) ?_
  refine htake (hday _) ?_
  refine htake (congrArg (Option.or · _) (hexpect _ _)) ?_
  refine htake (hhour _) ?_
  refine htake (hexpect _ _) ?_
  refine htake (hminute _) ?_
  refine htake (hexpect _ _) ?_
  refine htake (hsecond _) ?_
  refine htake hfraction ?_
  refine htake rfl ?_
  refine htake hdate ?_
  rw [if_pos ⟨hparts.1, hparts.2.1, hparts.2.2, rfl⟩]
  exact htake (of?_counted hofDay htotal) rfl

end Timestamp

end Standings.Calendar
