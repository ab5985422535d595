import Mathlib.Logic.Function.Iterate
import Standings.Proofs.Leaderboard
import Standings.Proofs.Wait
import Standings.Store.SqlLedger

/-!
# Trying again

An operation that is called again and again leads through states, with an outcome at each. What is
asked of trying again is said by these outcomes alone: the first one that is no transient fault is
the answer; if there is none among as many calls as are allowed, the answer reports the last fault.
Nothing is called after that, and there is a wait between any two calls.

The 60th wait cannot be computed. So this much holds of the first 60 calls: if all of them fail with
a transient fault, and more are allowed, there is an overflow in place of an answer.

## Key results

- `retryFrom_add`: transient faults are passed over, with a wait behind each
- `retry_of_settled` / `retry_of_transient` / `retry_of_overflow`: the three ends of a run
- `Database.stateAfter_of_failures`: replies are used up one by one
- `retry_answers_first_settled`: calls, waits and answers, and what ledgers in a database make of it
- `overflow_before_settled`: an answer that is not given
-/

namespace Standings.Store

/-! ## Moves -/

/-- Calls with one wait between any two of them, of so many milliseconds each. -/
def spaced : List UInt64 → List Move
  | [] => [.call]
  | millis :: later => .call :: .wait millis :: spaced later

theorem calls_spaced {α : Type} (result : Except Failure α) (waits : List UInt64) :
    (⟨result, spaced waits⟩ : Attempts α).calls = waits.length + 1 := by
  induction waits with
  | nil => rfl
  | cons millis later ih =>
    rw [Attempts.calls] at ih ⊢
    -- A wait is no call.
    rw [spaced, List.count_cons_self, List.count_cons_of_ne (by simp), ih, List.length_cons]

theorem waits_spaced {α : Type} (result : Except Failure α) (waits : List UInt64) :
    (⟨result, spaced waits⟩ : Attempts α).waits = waits := by
  induction waits with
  | nil => rfl
  | cons millis later ih => exact congrArg (millis :: ·) ih

/-- The waits of a trace that is spaced by them. -/
theorem waits_of_moves_eq {α : Type} {attempts : Attempts α} {waits : List UInt64}
    (h : attempts.moves = spaced waits) : attempts.waits = waits := by
  -- Waits are read off the trace alone.
  rw [← waits_spaced attempts.result waits, ← h]

/-! ## Outcomes of calls -/

/-- An outcome after which the operation may be called again. -/
def IsTransient {α : Type} (outcome : Except Fault α) : Prop :=
  ∃ fault, outcome = .error fault ∧ fault.isTransient

section Calls

variable {σ α : Type} (operation : σ → Except Fault α × σ)

/-- The state after a number of calls. -/
def stateAfter (calls : Nat) (s : σ) : σ := (fun s => (operation s).2)^[calls] s

/-- The outcome of a call after a number of others. -/
def outcomeAfter (calls : Nat) (s : σ) : Except Fault α :=
  (operation (stateAfter operation calls s)).1

theorem stateAfter_succ (calls : Nat) (s : σ) :
    stateAfter operation (calls + 1) s = stateAfter operation calls (operation s).2 := rfl

theorem stateAfter_succ' (calls : Nat) (s : σ) :
    stateAfter operation (calls + 1) s = (operation (stateAfter operation calls s)).2 :=
  Function.iterate_succ_apply' ..

variable {operation} {s : σ}

/-- A settled outcome ends the attempts. -/
theorem retryFrom_of_not_transient (limit : UInt8) (made left : Nat)
    (h : ¬IsTransient (operation s).1) :
    retryFrom operation limit made left s =
      (⟨(operation s).1.mapError .fault, spaced []⟩, (operation s).2) := by
  rw [retryFrom]
  cases hcall : operation s with
  | mk outcome next =>
    rw [hcall] at h
    cases outcome with
    | ok value => rfl
    | error fault =>
      -- A fault that is not transient goes straight through.
      have hsettled : ¬fault.isTransient := fun htransient => h ⟨fault, rfl, htransient⟩
      simp only [hsettled, Bool.false_eq_true, if_false]
      rfl

/-- A transient fault of the last attempt is reported. -/
theorem retryFrom_zero_of_transient (limit : UInt8) (made : Nat) {fault : Fault}
    (hfault : (operation s).1 = .error fault) (htransient : fault.isTransient) :
    retryFrom operation limit made 0 s =
      (⟨.error (.fault (.retryLimit limit fault.message)), spaced []⟩, (operation s).2) := by
  rw [retryFrom]
  cases hcall : operation s with
  | mk outcome next =>
    rw [hcall] at hfault
    dsimp only at hfault
    -- With no attempt left, the fault is put into the report.
    subst hfault
    simp only [htransient, if_true]
    rfl

/-- A transient fault with attempts left leads to the next wait, and behind it to these attempts; or
to an overflow, if that wait is no word. -/
theorem retryFrom_succ_of_transient (limit : UInt8) (made left : Nat)
    (h : IsTransient (operation s).1) :
    retryFrom operation limit made (left + 1) s =
      match wait? made with
      | none => (⟨.error .overflow, spaced []⟩, (operation s).2)
      | some millis =>
        let rest := retryFrom operation limit (made + 1) left (operation s).2
        (⟨rest.1.result, .call :: .wait millis :: rest.1.moves⟩, rest.2) := by
  obtain ⟨fault, hfault, htransient⟩ := h
  rw [retryFrom]
  cases hcall : operation s with
  | mk outcome next =>
    rw [hcall] at hfault
    dsimp only at hfault
    -- With attempts left, the next wait is computed.
    subst hfault
    simp only [htransient, if_true]
    rfl

/-- The words of the waits from one on. -/
def waitsFrom (made count : Nat) : List UInt64 := (List.range' made count).map millisWord

@[simp] theorem length_waitsFrom (made count : Nat) : (waitsFrom made count).length = count := by
  rw [waitsFrom, List.length_map, List.length_range']

/-- Transient faults are passed over: behind them the run goes on as if it had started there, after
as many calls with a wait behind each. -/
theorem retryFrom_add (limit : UInt8) {made n left : Nat} (hwaits : made + n ≤ 59)
    (htransient : ∀ i < n, IsTransient (outcomeAfter operation i s))
    {result : Except Failure α} {later : List UInt64} {t : σ}
    (hrest : retryFrom operation limit (made + n) left (stateAfter operation n s) =
      (⟨result, spaced later⟩, t)) :
    retryFrom operation limit made (n + left) s =
      (⟨result, spaced (waitsFrom made n ++ later)⟩, t) := by
  -- Induction on the faults, each of which uses up one of the attempts left.
  induction n generalizing made s with
  | zero => rwa [Nat.zero_add]
  | succ n ih =>
    have hfirst : IsTransient (operation s).1 := htransient 0 (by omega)
    -- What comes behind the first call is the same run with one fault less.
    have hnext : retryFrom operation limit (made + 1) (n + left) (operation s).2 =
        (⟨result, spaced (waitsFrom (made + 1) n ++ later)⟩, t) := by
      refine ih (by omega) (fun i hi => htransient (i + 1) (by omega)) ?_
      rwa [Nat.add_right_comm made 1 n]
    -- The first call itself: its wait is one of the first 59.
    rw [Nat.add_right_comm, retryFrom_succ_of_transient limit made (n + left) hfirst,
      wait?_of_lt (by omega)]
    simp only [hnext]
    rfl

end Calls

/-- At least one attempt is made. -/
theorem toNat_attemptLimit (maxRetries : UInt8) :
    (attemptLimit maxRetries).toNat = max 1 maxRetries.toNat := by
  rw [attemptLimit]
  split
  · next hzero =>
    rw [hzero]
    rfl
  · next hpos =>
    -- A setting above zero is the limit itself.
    have : maxRetries.toNat ≠ 0 := fun h => hpos (UInt8.toNat_inj.1 h)
    omega

/-! ## The ends of a run -/

section Retry

variable {σ α : Type} {operation : σ → Except Fault α × σ} {s : σ} {maxRetries : UInt8}

/-- The first settled outcome is the answer, if it comes in time. -/
theorem retry_of_settled {n : Nat} (hn : n < max 1 maxRetries.toNat) (hwaits : n ≤ 59)
    (htransient : ∀ i < n, IsTransient (outcomeAfter operation i s))
    (hsettled : ¬IsTransient (outcomeAfter operation n s)) :
    retry maxRetries operation s =
      (⟨(outcomeAfter operation n s).mapError .fault, spaced (waitsFrom 0 n)⟩,
        stateAfter operation (n + 1) s) := by
  -- The attempts left are those before the settled outcome and those behind it.
  have hleft : (attemptLimit maxRetries).toNat - 1 = n + (max 1 maxRetries.toNat - 1 - n) := by
    rw [toNat_attemptLimit]
    omega
  rw [retry, hleft, retryFrom_add _ (by omega) htransient
    (retryFrom_of_not_transient _ _ _ hsettled), List.append_nil, ← stateAfter_succ']
  rfl

/-- Without a settled outcome, the fault of the last attempt is reported, if there is a wait before
it. -/
theorem retry_of_transient {fault : Fault} (hwaits : max 1 maxRetries.toNat ≤ 60)
    (htransient : ∀ i < max 1 maxRetries.toNat, IsTransient (outcomeAfter operation i s))
    (hlast : outcomeAfter operation (max 1 maxRetries.toNat - 1) s = .error fault) :
    retry maxRetries operation s =
      (⟨.error (.fault (.retryLimit (attemptLimit maxRetries) fault.message)),
        spaced (waitsFrom 0 (max 1 maxRetries.toNat - 1))⟩,
        stateAfter operation (max 1 maxRetries.toNat) s) := by
  obtain ⟨n, hn⟩ : ∃ n, max 1 maxRetries.toNat = n + 1 := ⟨max 1 maxRetries.toNat - 1, by omega⟩
  rw [hn, Nat.add_sub_cancel] at hlast ⊢
  obtain ⟨fault', hfault', hagain⟩ := htransient n (by omega)
  -- The last fault is the one that is reported.
  obtain rfl : fault = fault' := Except.error.inj (hlast.symm.trans hfault')
  have hleft : (attemptLimit maxRetries).toNat - 1 = n + 0 := by
    rw [toNat_attemptLimit]
    omega
  rw [retry, hleft, retryFrom_add _ (by omega) (fun i hi => htransient i (by omega))
    (retryFrom_zero_of_transient _ _ hlast hagain), List.append_nil, ← stateAfter_succ']

/-- After 60 transient faults the next wait is no word, so there is no further attempt. -/
theorem retry_of_overflow (hmany : 60 < max 1 maxRetries.toNat)
    (htransient : ∀ i < 60, IsTransient (outcomeAfter operation i s)) :
    retry maxRetries operation s =
      (⟨.error .overflow, spaced (waitsFrom 0 59)⟩, stateAfter operation 60 s) := by
  obtain ⟨left, hleft⟩ : ∃ left, (attemptLimit maxRetries).toNat - 1 = 59 + (left + 1) := by
    rw [toNat_attemptLimit]
    exact ⟨max 1 maxRetries.toNat - 61, by omega⟩
  -- The 60th call fails as well, and the wait behind it cannot be computed.
  have hlast : retryFrom operation (attemptLimit maxRetries) (0 + 59) (left + 1)
      (stateAfter operation 59 s) =
        (⟨.error .overflow, spaced []⟩, (operation (stateAfter operation 59 s)).2) := by
    have hnone : wait? (0 + 59) = none := wait?_eq_none_iff.2 (by omega)
    rw [retryFrom_succ_of_transient _ _ _ (htransient 59 (by omega)), hnone]
  rw [retry, hleft, retryFrom_add _ (by omega) (fun i hi => htransient i (by omega)) hlast,
    List.append_nil, ← stateAfter_succ']

/-- There is no other end: some outcome is settled, all of them are transient, or there are too many
transient ones. -/
theorem retry_cases (maxRetries : UInt8) (operation : σ → Except Fault α × σ) (s : σ) :
    (∃ n < max 1 maxRetries.toNat, n ≤ 59 ∧
      (∀ i < n, IsTransient (outcomeAfter operation i s)) ∧
        ¬IsTransient (outcomeAfter operation n s)) ∨
    (max 1 maxRetries.toNat ≤ 60 ∧
      ∀ i < max 1 maxRetries.toNat, IsTransient (outcomeAfter operation i s)) ∨
    (60 < max 1 maxRetries.toNat ∧ ∀ i < 60, IsTransient (outcomeAfter operation i s)) := by
  -- Look at the outcomes within the limit, and within 60.
  by_cases hall : ∀ i < min 60 (max 1 maxRetries.toNat), IsTransient (outcomeAfter operation i s)
  · by_cases hfew : max 1 maxRetries.toNat ≤ 60
    · exact .inr (.inl ⟨hfew, fun i hi => hall i (by omega)⟩)
    · exact .inr (.inr ⟨by omega, fun i hi => hall i (by omega)⟩)
  · -- The first settled outcome.
    classical
    push Not at hall
    have hfirst := Nat.find_spec hall
    refine .inl ⟨Nat.find hall, by omega, by omega, fun i hi => ?_, hfirst.2⟩
    by_contra hsettled
    exact Nat.find_min hall hi ⟨by omega, hsettled⟩

end Retry

/-! ## Answers -/

/-- What is asked of trying an operation again, so often at most: what the calls answer is passed on
unless 60 of them have failed and there are more to make. -/
structure IsRetried {σ α : Type} (attempts : Nat) (operation : σ → Except Fault α × σ) (s : σ)
    (answer : Except Failure α × σ) : Prop where
  /-- The first settled outcome is the answer, and no call is made behind it. -/
  of_settled : ∀ n < attempts, n < 60 → (∀ i < n, IsTransient (outcomeAfter operation i s)) →
    ¬IsTransient (outcomeAfter operation n s) →
    answer = ((outcomeAfter operation n s).mapError .fault, stateAfter operation (n + 1) s)
  /-- If there is none, all calls are made, and the last fault is reported with their number. -/
  of_transient : attempts ≤ 60 → (∀ i < attempts, IsTransient (outcomeAfter operation i s)) →
    ∃ limit fault, limit.toNat = attempts ∧ outcomeAfter operation (attempts - 1) s = .error fault ∧
      answer = (.error (.fault (.retryLimit limit fault.message)), stateAfter operation attempts s)
  /-- If there are more to make behind the 60th, they are not made. -/
  of_overflow : 60 < attempts → (∀ i < 60, IsTransient (outcomeAfter operation i s)) →
    answer = (.error .overflow, stateAfter operation 60 s)

/-- An operation that gives outcomes in order, and counts its calls. -/
def inOrder {α : Type} (outcomes : Nat → Except Fault α) (calls : Nat) : Except Fault α × Nat :=
  (outcomes calls, calls + 1)

theorem stateAfter_inOrder {α : Type} (outcomes : Nat → Except Fault α) (calls made : Nat) :
    stateAfter (inOrder outcomes) calls made = made + calls := by
  induction calls generalizing made with
  | zero => rfl
  | succ calls ih =>
    rw [stateAfter_succ, ih, inOrder]
    omega

theorem outcomeAfter_inOrder {α : Type} (outcomes : Nat → Except Fault α) (calls : Nat) :
    outcomeAfter (inOrder outcomes) calls 0 = outcomes calls := by
  rw [outcomeAfter, stateAfter_inOrder, Nat.zero_add, inOrder]

/-- Calls fail as the outcomes say. -/
theorem isTransient_inOrder_iff {α : Type} {outcomes : Nat → Except Fault α} {calls : Nat} :
    IsTransient (outcomeAfter (inOrder outcomes) calls 0) ↔ IsTransient (outcomes calls) := by
  rw [outcomeAfter_inOrder]

namespace Database

variable {metric : Metric} {window : Window} {database : Database}

/-- The outcome of a query is that of the next reply. -/
theorem fst_scoresOnce {reply : Reply} {later : List Reply}
    (hreplies : database.replies = reply :: later) :
    (scoresOnce metric window database).1 = reply.tally := by
  show (nextReply database.replies).1.tally = reply.tally
  rw [hreplies]
  cases later <;> rfl

/-- A reply with another behind it is used up. -/
theorem scoresOnce_cons {reply : Reply} {rest : List Reply} (hrest : rest ≠ []) :
    scoresOnce metric window { database with replies := reply :: rest } =
      (reply.tally, { database with
        replies := rest
        sent := database.sent ++ [.scores metric window] }) := by
  cases rest with
  | nil => exact absurd rfl hrest
  | cons next later => rfl

/-- Replies are used up one by one, with one query for each. -/
theorem stateAfter_of_failures (failures : List Reply) {rest : List Reply} (hrest : rest ≠ []) :
    stateAfter (scoresOnce metric window) failures.length
        { database with replies := failures ++ rest } =
      { database with
        replies := rest
        sent := database.sent ++ List.replicate failures.length (.scores metric window) } := by
  induction failures generalizing database with
  | nil => simp [stateAfter]
  | cons failure failures ih =>
    -- The last reply of all would stay, but there are others behind the failures.
    have hmore : failures ++ rest ≠ [] := by simp [hrest]
    have hlater := @ih { database with sent := database.sent ++ [.scores metric window] }
    rw [List.length_cons, List.cons_append, stateAfter_succ, scoresOnce_cons hmore, hlater,
      List.replicate_succ, List.append_assoc, List.singleton_append]

/-- While the server fails, the outcome of a query is that of the next failing reply. -/
theorem outcomeAfter_of_failures {failures rest : List Reply} {i : Nat}
    (hi : i < failures.length) :
    outcomeAfter (scoresOnce metric window) i { database with replies := failures ++ rest } =
      failures[i].tally := by
  -- Cut the failures at this one.
  have hcut : failures ++ rest =
      failures.take i ++ (failures[i] :: (failures.drop (i + 1) ++ rest)) := by
    rw [← List.cons_append, ← List.drop_eq_getElem_cons hi, ← List.append_assoc,
      List.take_append_drop]
  have hlength : (failures.take i).length = i := by
    rw [List.length_take]
    omega
  have hmore : failures[i] :: (failures.drop (i + 1) ++ rest) ≠ [] := List.cons_ne_nil _ _
  -- The failures before it have been used up when its turn comes.
  have hstate := @stateAfter_of_failures metric window database (failures.take i) _ hmore
  rw [hlength] at hstate
  rw [outcomeAfter, hcut, hstate]
  exact fst_scoresOnce rfl

/-- The outcome behind them is that of the first reply that does not fail. -/
theorem outcomeAfter_length_failures {failures : List Reply} {reply : Reply} {later : List Reply} :
    outcomeAfter (scoresOnce metric window) failures.length
        { database with replies := failures ++ reply :: later } = reply.tally := by
  rw [outcomeAfter, stateAfter_of_failures failures (List.cons_ne_nil _ _)]
  exact fst_scoresOnce rfl

/-- A database is asked again as any operation is tried again. -/
theorem isRetried_source (maxRetries : UInt8) (metric : Metric) (window : Window)
    (database : Database) :
    IsRetried (max 1 maxRetries.toNat) (scoresOnce metric window) database
      (source maxRetries metric window database) where
  of_settled n hn hwaits htransient hsettled := by
    rw [source, retry_of_settled hn (by omega) htransient hsettled]
  of_transient hwaits htransient := by
    obtain ⟨fault, hlast, -⟩ := htransient (max 1 maxRetries.toNat - 1) (by omega)
    refine ⟨_, fault, toNat_attemptLimit maxRetries, hlast, ?_⟩
    rw [source, retry_of_transient hwaits htransient hlast]
  of_overflow hmany htransient := by
    rw [source, retry_of_overflow hmany htransient]

/-- Fewer failures than attempts leave no trace in what is read. -/
theorem source_of_failures {maxRetries : UInt8} {failures : List Reply} {reply : Reply}
    {later : List Reply} (hlength : failures.length < max 1 maxRetries.toNat)
    (hwaits : failures.length < 60)
    (hfailures : ∀ failure ∈ failures, IsTransient failure.tally)
    (hsettled : ¬IsTransient reply.tally) :
    (source maxRetries metric window
      { database with replies := failures ++ reply :: later }).1 = reply.tally.mapError .fault := by
  have hretried := (isRetried_source maxRetries metric window
    { database with replies := failures ++ reply :: later }).of_settled failures.length hlength
      hwaits
  -- The settled outcome is the reply behind the failures.
  rw [outcomeAfter_length_failures] at hretried
  refine congrArg Prod.fst (hretried ?_ hsettled)
  intro i hi
  rw [outcomeAfter_of_failures hi]
  exact hfailures _ (List.getElem_mem hi)

end Database

/-- How a run over outcomes in order ends: with an answer, after so many calls, with one wait
between any two of them and none before the first or behind the last. -/
structure EndsWith {α : Type} (run : Attempts α × Nat) (result : Except Failure α) (calls : Nat) :
    Prop where
  /-- The answer. -/
  result_eq : run.1.result = result
  /-- The trace has as many calls. -/
  calls_eq : run.1.calls = calls
  /-- Its waits lie between the calls. -/
  moves_eq : run.1.moves = spaced run.1.waits
  /-- As many outcomes have been used up. -/
  state_eq : run.2 = calls

/-- A run with a wait between any two calls, one call more than waits. -/
theorem endsWith_of_eq {α : Type} {run : Attempts α × Nat} {result : Except Failure α} {count : Nat}
    (h : run = (⟨result, spaced (waitsFrom 0 count)⟩, count + 1)) :
    EndsWith run result (count + 1) := by
  -- Both counts are read off the trace.
  subst h
  refine ⟨rfl, ?_, ?_, rfl⟩
  · rw [calls_spaced, length_waitsFrom]
  · rw [waits_spaced]

/-- Take outcomes in any order, and the number of attempts, which is at least one. If the first
outcome that is no transient fault comes within that number of calls, and within 60, the operation
is called just so often, and the outcome is the answer. If there is none, and no more than 60
attempts are allowed, the operation is called as often as it may be, and the answer reports that
number and the fault of the last call. If there is none among 60 outcomes and more are allowed,
there is an overflow after 60 calls. There is a wait between any two calls, and no other. A database
is asked for scores in this way; so failures that are fewer than the attempts, and than 60, do not
show in the scores. -/
theorem retry_answers_first_settled (maxRetries : UInt8) :
    (∀ (α : Type) (outcomes : Nat → Except Fault α),
      (∀ k, 1 ≤ k → k ≤ max 1 maxRetries.toNat → k ≤ 60 →
        (∀ i < k - 1, IsTransient (outcomes i)) → ¬IsTransient (outcomes (k - 1)) →
        EndsWith (retry maxRetries (inOrder outcomes) 0)
          ((outcomes (k - 1)).mapError .fault) k) ∧
      (max 1 maxRetries.toNat ≤ 60 →
        (∀ i < max 1 maxRetries.toNat, IsTransient (outcomes i)) →
        ∃ limit fault, limit.toNat = max 1 maxRetries.toNat ∧
          outcomes (max 1 maxRetries.toNat - 1) = .error fault ∧
          EndsWith (retry maxRetries (inOrder outcomes) 0)
            (.error (.fault (.retryLimit limit fault.message))) (max 1 maxRetries.toNat)) ∧
      (60 < max 1 maxRetries.toNat → (∀ i < 60, IsTransient (outcomes i)) →
        EndsWith (retry maxRetries (inOrder outcomes) 0) (.error .overflow) 60)) ∧
    ∀ (metric : Metric) (window : Window) (database : Database),
      IsRetried (max 1 maxRetries.toNat) (Database.scoresOnce metric window) database
        (Database.source maxRetries metric window database) ∧
      ∀ (failures : List Reply) (reply : Reply) (later : List Reply),
        failures.length < max 1 maxRetries.toNat → failures.length < 60 →
        (∀ failure ∈ failures, IsTransient failure.tally) → ¬IsTransient reply.tally →
        (Database.source maxRetries metric window
            { database with replies := failures ++ reply :: later }).1 =
              reply.tally.mapError .fault ∧
          (Database.source maxRetries metric window
            { database with replies := reply :: later }).1 = reply.tally.mapError .fault := by
  refine ⟨fun α outcomes => ?_, fun metric window database => ⟨?_, ?_⟩⟩
  · -- Outcomes in order: the state counts the calls.
    have houtcome : ∀ i, outcomeAfter (inOrder outcomes) i 0 = outcomes i :=
      outcomeAfter_inOrder outcomes
    have hstate : ∀ calls, stateAfter (inOrder outcomes) calls 0 = calls := fun calls => by
      rw [stateAfter_inOrder, Nat.zero_add]
    refine ⟨?_, ?_, ?_⟩
    · intro k hpos hk hwaits htransient hsettled
      obtain ⟨n, rfl⟩ : ∃ n, k = n + 1 := ⟨k - 1, by omega⟩
      rw [Nat.add_sub_cancel] at htransient hsettled ⊢
      simp only [← houtcome] at htransient hsettled
      -- The first settled outcome comes in time.
      have hretry := retry_of_settled hk (by omega) htransient hsettled
      rw [houtcome, hstate] at hretry
      exact endsWith_of_eq hretry
    · intro hfew htransient
      -- All outcomes within the limit are transient faults, the last one too.
      obtain ⟨fault, hlast, -⟩ := htransient (max 1 maxRetries.toNat - 1) (by omega)
      refine ⟨_, fault, toNat_attemptLimit maxRetries, hlast, ?_⟩
      simp only [← houtcome] at htransient hlast
      have hretry := retry_of_transient hfew htransient hlast
      rw [hstate] at hretry
      have hpos : max 1 maxRetries.toNat - 1 + 1 = max 1 maxRetries.toNat := by omega
      rw [← hpos] at hretry ⊢
      exact endsWith_of_eq hretry
    · intro hmany htransient
      simp only [← houtcome] at htransient
      -- There are more attempts than waits that can be computed.
      have hretry := retry_of_overflow hmany htransient
      rw [hstate] at hretry
      exact endsWith_of_eq hretry
  · exact Database.isRetried_source maxRetries metric window database
  · intro failures reply later hlength hwaits hfailures hsettled
    -- Without failures the reply is read at the first attempt.
    have hnone : ([] : List Reply).length < max 1 maxRetries.toNat := by
      rw [List.length_nil]
      omega
    exact ⟨Database.source_of_failures hlength hwaits hfailures hsettled,
      Database.source_of_failures hnone (by decide) (by simp) hsettled⟩

/-- The points of the sample day may be read at the third attempt, or after two resets be given up,
with the second reset in the report. An outage that is longer than 60 attempts has no report. -/
theorem retry_answers_first_settled_third_attempt :
    EndsWith (retry 3 (inOrder fun calls =>
        if calls < 2 then .error (.connection "reset") else .ok 42) 0) (.ok 42) 3 ∧
    (∃ (limit : UInt8) (fault : Fault), limit.toNat = 2 ∧ fault = .connection "second reset" ∧
      EndsWith (retry 2 (inOrder fun calls =>
        (.error (.connection (if calls = 0 then "first reset" else "second reset")) :
          Except Fault Nat)) 0) (.error (.fault (.retryLimit limit fault.message))) 2) ∧
    EndsWith (retry 61 (inOrder fun _ => (.error (.connection "reset") : Except Fault Nat)) 0)
      (.error .overflow) 60 ∧
    (Database.source 3 .points Sample.window
        { replies := [.dropped, .refused ⟨"40001", "busy"⟩, .rows [(some 1, some 70)]] }).1 =
      (Reply.tally (.rows [(some 1, some 70)])).mapError .fault := by
  refine ⟨?_, ?_, ?_, ?_⟩
  · obtain ⟨hsettled, -⟩ := (retry_answers_first_settled 3).1 Nat
      fun calls => if calls < 2 then .error (.connection "reset") else .ok 42
    refine hsettled 3 (by decide) (by decide) (by decide) ?_
      (by rintro ⟨fault, hfault, -⟩; cases hfault)
    intro i hi
    exact ⟨_, if_pos hi, rfl⟩
  · obtain ⟨-, htransient, -⟩ := (retry_answers_first_settled 2).1 Nat
      fun calls => .error (.connection (if calls = 0 then "first reset" else "second reset"))
    obtain ⟨limit, fault, hlimit, hlast, hends⟩ :=
      htransient (by decide) fun i _ => ⟨_, rfl, rfl⟩
    exact ⟨limit, fault, hlimit, (Except.error.inj hlast).symm, hends⟩
  · obtain ⟨-, -, hoverflow⟩ := (retry_answers_first_settled 61).1 Nat
      fun _ => .error (.connection "reset")
    exact hoverflow (by decide) fun i _ => ⟨_, rfl, rfl⟩
  · obtain ⟨-, hfailures⟩ := (retry_answers_first_settled 3).2 .points Sample.window {}
    refine (hfailures [.dropped, .refused ⟨"40001", "busy"⟩] (.rows [(some 1, some 70)]) []
      (by decide) (by decide) ?_ (by rintro ⟨fault, hfault, -⟩; cases hfault)).1
    intro failure hfailure
    simp only [List.mem_cons, List.not_mem_nil, or_false] at hfailure
    rcases hfailure with rfl | rfl <;> exact ⟨_, rfl, rfl⟩

/-- With 61 attempts the 61st outcome is not reached, though all before it are transient faults. -/
theorem overflow_before_settled :
    (∀ i < 60, IsTransient
      (if i < 60 then .error (.connection "reset") else .ok 5 : Except Fault Nat)) ∧
    60 < max 1 (61 : UInt8).toNat ∧
    (retry 61 (inOrder fun i =>
        (if i < 60 then .error (.connection "reset") else .ok 5 : Except Fault Nat)) 0).1.result =
      .error .overflow ∧
    (retry 61 (inOrder fun i =>
        (if i < 60 then .error (.connection "reset") else .ok 5 : Except Fault Nat)) 0).1.calls =
      60 := by
  have hfails : ∀ i < 60, IsTransient
      (if i < 60 then .error (.connection "reset") else .ok 5 : Except Fault Nat) :=
    fun i hi => ⟨_, if_pos hi, rfl⟩
  have hmany : 60 < max 1 (61 : UInt8).toNat := by decide
  -- Behind 60 of them there is no wait, so the last outcome is not asked for.
  rw [retry_of_overflow hmany fun i hi => isTransient_inOrder_iff.2 (hfails i hi), calls_spaced,
    length_waitsFrom]
  exact ⟨hfails, hmany, rfl, rfl⟩

end Standings.Store
