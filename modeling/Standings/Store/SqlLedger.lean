import Standings.Ledger.Service
import Standings.Store.Database
import Standings.Store.Retry

/-! # Ledgers in a database

A source whose ledgers are tables of a database. One query computes the scores of a metric in a
window; it is tried again if its fault is transient. The rows of the answer become a tally, so
their order does not matter. -/

namespace Standings

namespace Store

namespace Statement

/-- The query for the points granted in a window, by user. -/
def points (window : Window) : Statement :=
  { sql := "SELECT user_id, SUM(points)::BIGINT AS score FROM point_grants "
      ++ "WHERE granted_at >= $1 AND granted_at < $2 GROUP BY user_id"
    params := [.ofInstant window.start, .ofInstant window.stop] }

/-- The query for the number of questions solved in a window, by user. -/
def solved (window : Window) : Statement :=
  { sql := "SELECT user_id, COUNT(DISTINCT question_id) AS score FROM submissions "
      ++ "WHERE status = $1 AND submitted_at >= $2 AND submitted_at < $3 GROUP BY user_id"
    params :=
      [.text SubmissionStatus.success.name, .ofInstant window.start, .ofInstant window.stop] }

/-- The query for the scores of a metric in a window. -/
def scores (metric : Metric) (window : Window) : Statement :=
  match metric with
  | .points => points window
  | .completedQuestions => solved window

end Statement

/-- The user and the score of a row; neither may be null. -/
def Row.read (row : Row) : Except QueryFault (UserId × Int64) :=
  match row with
  | (none, _) => .error (.unexpectedNull 0)
  | (some _, none) => .error (.unexpectedNull 1)
  | (some user, some score) => .ok (⟨user⟩, score)

/-- The tally of a reply; of two rows of one user the later counts. -/
def Reply.tally : Reply → Except Fault Tally
  | .rows found =>
    match found.mapM Row.read with
    | .ok pairs => .ok (Tally.ofPairs pairs)
    | .error cause => .error (.query cause)
  | .refused e => .error (.query e.fault)
  | .dropped => .error (.query (.io "expected to read 5 bytes, got 0 bytes at EOF"))

namespace Database

/-- Asks once for the scores of a metric in a window. -/
def scoresOnce (metric : Metric) (window : Window) (database : Database) :
    Except Fault Tally × Database :=
  let (reply, database) := database.ask (.scores metric window)
  (reply.tally, database)

/-- The database as a source of scores. -/
def source (maxRetries : UInt8) : Source Database := fun metric window database =>
  let (attempts, database) := retry maxRetries (scoresOnce metric window) database
  (attempts.result, database)

end Database

end Store

end Standings
