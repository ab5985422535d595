import Standings.Calendar.Instant
import Standings.Standing

/-! # Events

The two ledgers from which boards are computed: points granted to users, and answers to questions
that users have submitted. Both only grow. -/

namespace Standings

open Calendar

/-- Points granted to a user. -/
structure Grant where
  /-- Number of the record. -/
  id : Int64
  /-- Who is granted points. -/
  user : UserId
  /-- How many; below zero if they are taken away. -/
  points : Int32
  /-- When they are granted. -/
  grantedAt : Instant
  /-- What they are granted for. -/
  description : String
  deriving DecidableEq, Repr

/-- What has become of a submission. -/
inductive SubmissionStatus where
  /-- Not yet graded. -/
  | pending
  /-- The answer is right. -/
  | success
  /-- The answer is wrong. -/
  | failed
  deriving DecidableEq, Repr

/-- The name of a status, in the database and in records. -/
def SubmissionStatus.name : SubmissionStatus → String
  | .pending => "pending"
  | .success => "success"
  | .failed => "failed"

/-- An answer submitted to a question. -/
structure Submission where
  /-- Number of the record. -/
  id : Int64
  /-- Who has answered. -/
  user : UserId
  /-- Which question. -/
  question : Int64
  /-- What has become of it. -/
  status : SubmissionStatus
  /-- When it was submitted. -/
  submittedAt : Instant
  deriving DecidableEq, Repr

end Standings
