import Standings.Proofs.Decimal
import Standings.Proofs.Retry
import Standings.Settings

/-!
# Waits between attempts

The waits are to double from 50 ms up to a second, with no word that runs over on the way. So they
do in every run, as far as they go: there are 59 of them at most, and a run that needs a 60th ends
with an overflow. Settings that allow 60 attempts or fewer have no such run, and all others have:
any outage that lasts.

## Key results

- `areDoubled_waitsFrom`: the first 59 waits are as they should be
- `exists_moves_retry`: every run takes waits from the first on, one between any two calls
- `result_eq_overflow_iff`: the runs that end with an overflow
- `waits_are_doubled_iff`: the waits of all runs, and the settings under which no word runs over
-/

namespace Standings.Store

/-! ## Waits of a run -/

/-- What is asked of the waits of a run. -/
structure AreDoubled (waits : List UInt64) : Prop where
  /-- No word runs over. -/
  fits : ∀ i < waits.length, Fits i
  /-- The first wait is 50 ms, each is twice the one before, up to a second. -/
  toNat_eq : ∀ i (h : i < waits.length), waits[i].toNat = min (50 * 2 ^ i) 1000
  /-- No wait is shorter than an earlier one. -/
  ascending : waits.Pairwise (· ≤ ·)

theorem millisWord_le_millisWord {made later : Nat} (h : made ≤ later) :
    millisWord made ≤ millisWord later := by
  -- Powers grow, and the bound of a second keeps their order.
  have hgrows := Nat.pow_le_pow_right (n := 2) (by decide) h
  rw [UInt64.le_iff_toNat_le, toNat_millisWord, toNat_millisWord, waitMillis, waitMillis]
  omega

theorem areDoubled_waitsFrom {count : Nat} (h : count ≤ 59) : AreDoubled (waitsFrom 0 count) := by
  have hlength := length_waitsFrom 0 count
  constructor
  case fits =>
    intro i hi
    -- All of them come before the 60th.
    exact fits_iff.2 (by omega)
  case toNat_eq =>
    intro i hi
    simp only [waitsFrom, List.getElem_map, List.getElem_range', Nat.one_mul, Nat.zero_add]
    -- The wait at a place is the word of its number.
    exact toNat_millisWord i
  case ascending =>
    -- Later waits are not shorter.
    have hrising : (List.range' 0 count).Pairwise (· < ·) := List.pairwise_lt_range'
    exact List.pairwise_map.2 (hrising.imp fun h => millisWord_le_millisWord (Nat.le_of_lt h))

section Runs

variable {σ α : Type}

/-- A run takes waits from the first on, one between any two of its calls, and 59 at most. -/
theorem exists_moves_retry (maxRetries : UInt8) (operation : σ → Except Fault α × σ) (s : σ) :
    ∃ count ≤ 59, (retry maxRetries operation s).1.moves = spaced (waitsFrom 0 count) := by
  rcases retry_cases maxRetries operation s with
    ⟨n, hn, hwaits, htransient, hsettled⟩ | ⟨hfew, htransient⟩ | ⟨hmany, htransient⟩
  · exact ⟨n, hwaits, by rw [retry_of_settled hn hwaits htransient hsettled]⟩
  · obtain ⟨fault, hlast, -⟩ := htransient (max 1 maxRetries.toNat - 1) (by omega)
    refine ⟨max 1 maxRetries.toNat - 1, by omega, ?_⟩
    rw [retry_of_transient hfew htransient hlast]
  · exact ⟨59, Nat.le_refl 59, by rw [retry_of_overflow hmany htransient]⟩

/-- A run ends with an overflow if there are 60 transient faults and a further attempt. -/
theorem result_eq_overflow_iff {maxRetries : UInt8} {operation : σ → Except Fault α × σ} {s : σ} :
    (retry maxRetries operation s).1.result = .error .overflow ↔
      60 < maxRetries.toNat ∧ ∀ i < 60, IsTransient (outcomeAfter operation i s) := by
  rcases retry_cases maxRetries operation s with
    ⟨n, hn, hwaits, htransient, hsettled⟩ | ⟨hfew, htransient⟩ | ⟨hmany, htransient⟩
  · -- A settled outcome is passed on as it is.
    rw [retry_of_settled hn hwaits htransient hsettled]
    refine iff_of_false (fun h => ?_) fun h => hsettled (h.2 n (by omega))
    cases houtcome : outcomeAfter operation n s with
    | ok value => simp [houtcome, Except.mapError] at h
    | error fault => simp [houtcome, Except.mapError] at h
  · -- The last fault is reported.
    obtain ⟨fault, hlast, -⟩ := htransient (max 1 maxRetries.toNat - 1) (by omega)
    rw [retry_of_transient hfew htransient hlast]
    refine iff_of_false (by simp) fun h => ?_
    omega
  · rw [retry_of_overflow hmany htransient]
    exact iff_of_true rfl ⟨by omega, htransient⟩

end Runs

/-- An outage that lasts ends with an overflow if there are more than 60 attempts. -/
theorem overflow_of_outage {maxRetries : UInt8} (hmany : 60 < maxRetries.toNat) {fault : Fault}
    (h : fault.isTransient) :
    (retry maxRetries (inOrder fun _ => (.error fault : Except Fault Unit)) 0).1.result =
      .error .overflow := by
  -- All outcomes are the same fault.
  exact result_eq_overflow_iff.2 ⟨hmany, fun i _ => isTransient_inOrder_iff.2 ⟨fault, rfl, h⟩⟩

/-! ## Settings -/

/-- An environment that sets the number of attempts and nothing else. -/
def attemptsOnly (maxRetries : UInt8) : Environment := fun name =>
  if name = "LEDGER_MAX_RETRIES" then some (String.ofList (Decimal.ofNat maxRetries.toNat))
  else none

/-- A text without blanks stays as it is. -/
theorem trim_of_forall {text : List Char} (h : ∀ c ∈ text, Text.isBlank c = false) :
    Text.trim text = text := by
  -- Blanks are taken away at either end, and there are none.
  have hfront : ∀ text : List Char, (∀ c ∈ text, Text.isBlank c = false) →
      text.dropWhile Text.isBlank = text := by
    intro text htext
    cases text with
    | nil => rfl
    | cons c rest => simp [htext c List.mem_cons_self]
  rw [Text.trim, Text.strip, hfront _ h, hfront _ (by simpa using h), List.reverse_reverse]

theorem trim_ofNat (n : Nat) : Text.trim (Decimal.ofNat n) = Decimal.ofNat n := by
  apply trim_of_forall
  intro c hc
  -- A digit is no blank.
  obtain ⟨hlow, hhigh⟩ := Decimal.bounds_of_isDigit (Decimal.isDigit_of_mem_ofNat hc)
  simp [Text.isBlank]
  omega

/-- Any number of attempts may be set. -/
theorem read_attemptsOnly (maxRetries : UInt8) :
    RankingSettings.read (attemptsOnly maxRetries) = .ok { ledgerMaxRetries := maxRetries } := by
  have hread : (attemptsOnly maxRetries).withDefault "LEDGER_MAX_RETRIES"
      (fun text => (Decimal.readUInt8 text).toOption) 3 = .ok maxRetries := by
    -- A number is written with one digit at least, so the variable counts as set.
    have hpresent : Decimal.ofNat maxRetries.toNat ≠ [] := Nat.toDigits_ne_nil
    simp [attemptsOnly, Environment.withDefault, Environment.optional, trim_ofNat, hpresent,
      Decimal.readUInt8_ofNat, Except.toOption]
  -- No other variable is there, so the rest of the settings is as usual.
  have habsent : ∀ name, name ≠ "LEDGER_MAX_RETRIES" → attemptsOnly maxRetries name = none :=
    fun name hname => if_neg hname
  have hlimits : RankingSettings.readLimits (attemptsOnly maxRetries) = .ok {} := by
    simp [RankingSettings.readLimits, Environment.withDefault, Environment.optional, habsent]
    rfl
  have hzone : RankingSettings.readZone Calendar.Zone.ofName? (attemptsOnly maxRetries) =
      .ok .hostLocal := by
    simp [RankingSettings.readZone, Environment.optional, habsent]
    rfl
  simp only [RankingSettings.read, RankingSettings.readWith, hlimits, hzone, hread, bind,
    Except.bind]
  rfl

/-- Any number of attempts may be set. In every run there is a wait between any two calls, and no
other. The waits that are taken are as they should be, with no word that runs over on the way, and
a run ends with an overflow exactly if its first 60 outcomes are transient faults and there is a
further attempt: for the 60th wait, and for it first, the words run over. So no word runs over in
any run exactly if no more than 60 attempts are allowed. -/
theorem waits_are_doubled_iff (maxRetries : UInt8) :
    (∃ env, RankingSettings.read env = .ok { ledgerMaxRetries := maxRetries }) ∧
    (∀ (σ α : Type) (operation : σ → Except Fault α × σ) (s : σ),
      (retry maxRetries operation s).1.moves = spaced (retry maxRetries operation s).1.waits ∧
      AreDoubled (retry maxRetries operation s).1.waits ∧
      ((retry maxRetries operation s).1.result = .error .overflow ↔
        60 < maxRetries.toNat ∧ ∀ i < 60, IsTransient (outcomeAfter operation i s)) ∧
      ((retry maxRetries operation s).1.result = .error .overflow →
        (retry maxRetries operation s).1.waits.length = 59)) ∧
    (∀ made, (Fits made ↔ made < 59) ∧ (wait? made = none ↔ ¬Fits made)) ∧
    ((∀ (σ α : Type) (operation : σ → Except Fault α × σ) (s : σ),
      (retry maxRetries operation s).1.result ≠ .error .overflow) ↔ maxRetries ≤ 60) := by
  refine ⟨⟨_, read_attemptsOnly maxRetries⟩, ?_, fun made => ⟨fits_iff, ?_⟩, ?_⟩
  · intro σ α operation s
    -- Every run takes its waits from the front of the 59.
    obtain ⟨count, hcount, hmoves⟩ := exists_moves_retry maxRetries operation s
    have hwaits := waits_of_moves_eq hmoves
    refine ⟨by rw [hmoves, hwaits], ?_, result_eq_overflow_iff, fun hoverflow => ?_⟩
    · rw [hwaits]
      exact areDoubled_waitsFrom hcount
    · -- The run that ends so has 59 waits behind it.
      obtain ⟨hmany, htransient⟩ := result_eq_overflow_iff.1 hoverflow
      rw [retry_of_overflow (by omega) htransient, waits_spaced, length_waitsFrom]
  · rw [wait?_eq_none_iff, fits_iff, Nat.not_lt]
  · rw [UInt8.le_iff_toNat_le, show (60 : UInt8).toNat = 60 from rfl]
    constructor
    · intro h
      -- A limit above 60 is used up by an outage that lasts.
      by_contra hmany
      have hoverflow := @overflow_of_outage maxRetries (by omega) (.connection "reset") rfl
      exact h _ _ _ _ hoverflow
    · intro hfew σ α operation s hoverflow
      have hmany := (result_eq_overflow_iff.1 hoverflow).1
      omega

/-- With 60 attempts an outage is waited out without an overflow; with 61, it ends with one, and the
59 waits before it are as they should be. -/
theorem waits_are_doubled_iff_outage :
    (retry 60 (inOrder fun _ => (.error (.connection "reset") : Except Fault Unit)) 0).1.result ≠
      .error .overflow ∧
    (retry 61 (inOrder fun _ => (.error (.connection "reset") : Except Fault Unit)) 0).1.result =
      .error .overflow ∧
    AreDoubled
      (retry 61 (inOrder fun _ => (.error (.connection "reset") : Except Fault Unit)) 0).1.waits ∧
    (retry 61 (inOrder fun _ =>
      (.error (.connection "reset") : Except Fault Unit)) 0).1.waits.length = 59 := by
  obtain ⟨-, -, -, hsixty⟩ := waits_are_doubled_iff 60
  obtain ⟨-, hruns, -⟩ := waits_are_doubled_iff 61
  obtain ⟨-, hdoubled, hoverflow, hlength⟩ :=
    hruns Nat Unit (inOrder fun _ => .error (.connection "reset")) 0
  -- All 60 outcomes are resets, and there is a 61st attempt.
  have hends : (retry 61 (inOrder fun _ =>
      (.error (.connection "reset") : Except Fault Unit)) 0).1.result = .error .overflow :=
    hoverflow.2 ⟨by decide, fun i _ => isTransient_inOrder_iff.2 ⟨_, rfl, rfl⟩⟩
  exact ⟨hsixty.2 (by decide) _ _ _ _, hends, hdoubled, hlength hends⟩

/-- The settings take 61 attempts. In an outage the 60th wait should be a second, but the product on
the way to it is no word, and the run ends with an overflow. -/
theorem not_fits_in_outage :
    RankingSettings.read (fun name => if name = "LEDGER_MAX_RETRIES" then some "61" else none) =
      .ok { ledgerMaxRetries := 61 } ∧
    waitMillis 59 = 1000 ∧ (Word.pow? 2 59).bind (Word.mul? firstWait) = none ∧
    (retry 61 (inOrder fun _ => (.error (.connection "reset") : Except Fault Unit)) 0).1.result =
      .error .overflow ∧
    (retry 61 (inOrder fun _ => (.error (.connection "reset") : Except Fault Unit)) 0).1.calls =
      60 := by
  have hmany : 60 < max 1 (61 : UInt8).toNat := by decide
  -- Every call fails with a reset, and after 60 of them there is no wait.
  rw [retry_of_overflow hmany fun i _ => isTransient_inOrder_iff.2 ⟨_, rfl, rfl⟩, calls_spaced,
    length_waitsFrom]
  exact ⟨by decide +kernel, by decide, by decide +kernel, rfl, rfl⟩

end Standings.Store
