import Standings.Ledger.Tally
import Standings.Store.Fault

/-! # Ledgers that are read

A source of tallies answers one question, a metric over a window, and may fail. Reading may change
it: `Source σ` works on a state of type `σ`, such as a database connection that loses its server.

The source in memory is a pair of ledgers that grow while they are read. It counts its readings,
and it can be out of order: then every reading fails with the same fault. -/

namespace Standings

/-- The ledgers: all grants and all submissions, earliest record first. -/
structure Ledger where
  /-- Points granted. -/
  grants : List Grant := []
  /-- Answers submitted. -/
  submissions : List Submission := []
  deriving DecidableEq, Repr

namespace Ledger

/-- The scores of a metric over a window. -/
def tally (ledger : Ledger) (metric : Metric) (window : Window) : Tally :=
  match metric with
  | .points => Tally.ofGrants ledger.grants window
  | .completedQuestions => Tally.ofSubmissions ledger.submissions window

/-- Records a grant behind all others. -/
def append (ledger : Ledger) (grant : Grant) : Ledger :=
  { ledger with grants := ledger.grants ++ [grant] }

end Ledger

/-- What answers for the scores of a metric over a window, and how answering changes its state. -/
abbrev Source (σ : Type) := Metric → Window → σ → Except Store.Failure Tally × σ

/-- Ledgers in memory that are being read. -/
structure LedgerService where
  /-- The ledgers. -/
  ledger : Ledger
  /-- The fault with which every reading fails, if the service is out of order. -/
  outage : Option Store.Fault := none
  /-- How often the service has been read. -/
  reads : Nat := 0
  deriving DecidableEq, Repr

namespace LedgerService

/-- Reads the service once. -/
def read : Source LedgerService := fun metric window service =>
  -- A reading that fails is a reading too.
  let counted := { service with reads := service.reads + 1 }
  match service.outage with
  | some fault => (.error (.fault fault), counted)
  | none => (.ok (service.ledger.tally metric window), counted)

/-- Records a grant. -/
def append (service : LedgerService) (grant : Grant) : LedgerService :=
  { service with ledger := service.ledger.append grant }

/-- Reading leaves the ledgers as they are. -/
@[simp] theorem read_ledger (metric : Metric) (window : Window) (service : LedgerService) :
    (read metric window service).2.ledger = service.ledger := by
  simp only [read]
  split <;> rfl

/-- Reading is counted once, whether it fails or not. -/
@[simp] theorem read_reads (metric : Metric) (window : Window) (service : LedgerService) :
    (read metric window service).2.reads = service.reads + 1 := by
  simp only [read]
  split <;> rfl

end LedgerService

end Standings
