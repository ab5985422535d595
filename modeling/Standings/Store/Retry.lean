import Standings.Store.Fault

/-! # Trying again

An operation that fails with a transient fault is tried again, up to a number of attempts in all.
Any other fault, and any success, is the answer at once. Before the second attempt there is a wait
of 50 ms; each further wait is twice as long as the one before, up to one second.

The waits are computed in 64-bit words, and the doubling is done before the second is the limit. So
after many attempts a product is no word any more. There is no answer then: the arithmetic is
checked, and whoever has asked goes down with it.

A chance addition of less than 50 ms to every wait is left out. -/

namespace Standings

namespace Word

/-- The product of two words, if it is a word. -/
def mul? (a b : UInt64) : Option UInt64 :=
  if a.toNat * b.toNat < UInt64.size then some (a * b) else none

/-- The sum of two words, if it is a word. -/
def add? (a b : UInt64) : Option UInt64 :=
  if a.toNat + b.toNat < UInt64.size then some (a + b) else none

/-- A power of a word, if it is a word. -/
def pow? (base : UInt64) : Nat → Option UInt64
  | 0 => some 1
  | exponent + 1 => (pow? base exponent).bind (mul? · base)

end Word

namespace Store

/-- The first wait in milliseconds. -/
def firstWait : UInt64 := 50

/-- The longest wait in milliseconds. -/
def longestWait : UInt64 := 1000

/-- The first wait doubled so many times, if it is a word. -/
def doubled? (times : Nat) : Option UInt64 :=
  (Word.pow? 2 times).bind (Word.mul? firstWait)

/-- The wait in milliseconds before the next attempt, after so many waits. -/
def wait? (waits : Nat) : Option UInt64 :=
  (doubled? waits).map fun millis => if millis ≤ longestWait then millis else longestWait

/-- What is done in a series of attempts. -/
inductive Move where
  /-- The operation is called. -/
  | call
  /-- So many milliseconds pass. -/
  | wait (millis : UInt64)
  deriving DecidableEq, Repr

/-- What has come of an operation that is tried again, and what has been done for it. -/
structure Attempts (α : Type) where
  /-- What the last attempt has led to. -/
  result : Except Failure α
  /-- The calls and the waits, in order. -/
  moves : List Move

namespace Attempts

/-- The number of calls. -/
def calls (attempts : Attempts α) : Nat := attempts.moves.count .call

/-- The waits in milliseconds, in order. -/
def waits (attempts : Attempts α) : List UInt64 :=
  attempts.moves.filterMap fun
    | .call => none
    | .wait millis => some millis

end Attempts

/-- The number of attempts that a setting allows: at least one. -/
def attemptLimit (maxRetries : UInt8) : UInt8 :=
  if maxRetries = 0 then 1 else maxRetries

/-- Makes an attempt after `made` others, with `left` more to make if it fails. -/
def retryFrom (operation : σ → Except Fault α × σ) (limit : UInt8) (made : Nat) :
    Nat → σ → Attempts α × σ
  | left, s =>
    match operation s with
    | (.ok value, s) => (⟨.ok value, [.call]⟩, s)
    | (.error fault, s) =>
      if fault.isTransient then
        match left with
        -- This was the last attempt: its fault is the one that is reported.
        | 0 => (⟨.error (.fault (.retryLimit limit fault.message)), [.call]⟩, s)
        | left + 1 =>
          match wait? made with
          | none => (⟨.error .overflow, [.call]⟩, s)
          | some millis =>
            let (attempts, s) := retryFrom operation limit (made + 1) left s
            (⟨attempts.result, .call :: .wait millis :: attempts.moves⟩, s)
      else (⟨.error (.fault fault), [.call]⟩, s)

/-- Tries an operation, again if its fault is transient. -/
def retry (maxRetries : UInt8) (operation : σ → Except Fault α × σ) (s : σ) : Attempts α × σ :=
  let limit := attemptLimit maxRetries
  retryFrom operation limit 0 (limit.toNat - 1) s

end Store

end Standings
