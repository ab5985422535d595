import Standings.Access.Claims
import Standings.Calendar.Timestamp
import Standings.Filter
import Standings.Json.Record
import Standings.Ledger.Event
import Standings.Page.Connection

/-! # Records on the wire

How the records of the library are written in JSON and read from it: for each the names and the
order of its fields, and the names of its choices. -/

namespace Standings

open Calendar

/-- The names of the metrics. -/
def Metric.choices : List (String × Metric) :=
  [("POINTS", .points), ("COMPLETED_QUESTIONS", .completedQuestions)]

/-- The name of a metric. -/
def Metric.name : Metric → String
  | .points => "POINTS"
  | .completedQuestions => "COMPLETED_QUESTIONS"

/-- The names of the directions. -/
def Direction.choices : List (String × Direction) :=
  [("ASC", .ascending), ("DESC", .descending)]

/-- The name of a direction. -/
def Direction.name : Direction → String
  | .ascending => "ASC"
  | .descending => "DESC"

/-- The names of the periods. -/
def Period.choices : List (String × Period) :=
  [("DAILY", .daily), ("WEEKLY", .weekly)]

/-- The name of a period. -/
def Period.name : Period → String
  | .daily => "DAILY"
  | .weekly => "WEEKLY"

/-- The names of the states of a submission. -/
def SubmissionStatus.choices : List (String × SubmissionStatus) :=
  [("pending", .pending), ("success", .success), ("failed", .failed)]

namespace Calendar.Instant

/-- An instant as a timestamp. -/
def toJson (t : Instant) : Json := .text (Timestamp.write t)

/-- Reads a timestamp. -/
def ofJson? (j : Json) : Option Instant := do
  let text ← j.text?
  let (instant, _) ← Timestamp.parse? text
  return instant

end Calendar.Instant

namespace UserId

/-- A user as a number. -/
def toJson (u : UserId) : Json := .integer u.value.toInt

/-- Reads a user. -/
def ofJson? (j : Json) : Option UserId := j.int64?.map UserId.mk

end UserId

namespace Grant

/-- The fields of a grant, in order. -/
def fieldNames : List String := ["id", "user_id", "points", "granted_at", "description"]

/-- A grant as a record. -/
def toJson (g : Grant) : Json :=
  .fields
    [("id", .integer g.id.toInt), ("user_id", g.user.toJson), ("points", .integer g.points.toInt),
      ("granted_at", g.grantedAt.toJson), ("description", .text g.description)]

/-- Reads a grant. -/
def ofJson? (j : Json) : Option Grant := do
  match ← j.record? fieldNames with
  | [id, user, points, grantedAt, description] =>
    return {
      id := ← Json.required Json.int64? id
      user := ← Json.required UserId.ofJson? user
      points := ← Json.required Json.int32? points
      grantedAt := ← Json.required Instant.ofJson? grantedAt
      description := ← Json.required Json.text? description }
  | _ => none

end Grant

namespace Submission

/-- The fields of a submission, in order. -/
def fieldNames : List String := ["id", "user_id", "question_id", "status", "submitted_at"]

/-- A submission as a record. -/
def toJson (s : Submission) : Json :=
  .fields
    [("id", .integer s.id.toInt), ("user_id", s.user.toJson),
      ("question_id", .integer s.question.toInt), ("status", .text s.status.name),
      ("submitted_at", s.submittedAt.toJson)]

/-- Reads a submission. -/
def ofJson? (j : Json) : Option Submission := do
  match ← j.record? fieldNames with
  | [id, user, question, status, submittedAt] =>
    return {
      id := ← Json.required Json.int64? id
      user := ← Json.required UserId.ofJson? user
      question := ← Json.required Json.int64? question
      status := ← Json.required (Json.choice? SubmissionStatus.choices) status
      submittedAt := ← Json.required Instant.ofJson? submittedAt }
  | _ => none

end Submission

namespace Filter

/-- The fields of a filter, in order. -/
def fieldNames : List String := ["by", "order", "period"]

/-- A filter as a record. -/
def toJson (f : Filter) : Json :=
  .fields
    [("by", .text f.metric.name), ("order", .text f.order.name), ("period", .text f.period.name)]

/-- Reads a filter. -/
def ofJson? (j : Json) : Option Filter := do
  match ← j.record? fieldNames with
  | [metric, order, period] =>
    return {
      metric := ← Json.required (Json.choice? Metric.choices) metric
      order := ← Json.required (Json.choice? Direction.choices) order
      period := ← Json.required (Json.choice? Period.choices) period }
  | _ => none

end Filter

namespace Page.Arguments

/-- The fields of page arguments, in order. -/
def fieldNames : List String := ["first", "after", "last", "before"]

/-- Page arguments as a record with all its fields. -/
def toJson (args : Arguments) : Json :=
  .fields
    [("first", Json.ofOption (fun n => .integer n.toInt) args.first),
      ("after", Json.ofOption .text args.after),
      ("last", Json.ofOption (fun n => .integer n.toInt) args.last),
      ("before", Json.ofOption .text args.before)]

/-- Reads page arguments. -/
def ofJson? (j : Json) : Option Arguments := do
  match ← j.record? fieldNames with
  | [first, after, last, before] =>
    return {
      first := ← Json.optional Json.int64? first
      after := ← Json.optional Json.text? after
      last := ← Json.optional Json.int64? last
      before := ← Json.optional Json.text? before }
  | _ => none

end Page.Arguments

namespace Access.Claims

/-- The fields of claims, in order. -/
def fieldNames : List String := ["sub", "scopes", "exp"]

/-- Claims as a record. -/
def toJson (c : Claims) : Json :=
  .fields
    [("sub", .text c.subject), ("scopes", .array (c.scopes.map .text)),
      ("exp", .integer c.expiry.toInt)]

/-- Reads claims; scopes that are absent are none. -/
def ofJson? (j : Json) : Option Claims := do
  match ← j.record? fieldNames with
  | [subject, scopes, expiry] =>
    return {
      subject := ← Json.required Json.text? subject
      scopes := ← Json.withDefault [] (Json.list? Json.text?) scopes
      expiry := ← Json.required Json.int64? expiry }
  | _ => none

end Access.Claims

namespace Standing

/-- The fields of an entry, in order. -/
def fieldNames : List String := ["userId", "score"]

/-- An entry of a board as a record. -/
def toJson (s : Standing) : Json :=
  .fields [("userId", s.user.toJson), ("score", .integer s.score.toInt)]

/-- Reads an entry. -/
def ofJson? (j : Json) : Option Standing := do
  match ← j.record? fieldNames with
  | [user, score] =>
    return {
      user := ← Json.required UserId.ofJson? user
      score := ← Json.required Json.int64? score }
  | _ => none

end Standing

namespace Edge

/-- The fields of an edge, in order. -/
def fieldNames : List String := ["node", "cursor"]

/-- An edge as a record. -/
def toJson (e : Edge) : Json :=
  .fields [("node", e.node.toJson), ("cursor", .text e.cursor)]

/-- Reads an edge. -/
def ofJson? (j : Json) : Option Edge := do
  match ← j.record? fieldNames with
  | [node, cursor] =>
    return {
      node := ← Json.required Standing.ofJson? node
      cursor := ← Json.required Json.text? cursor }
  | _ => none

end Edge

namespace PageInfo

/-- The fields of page information, in order. -/
def fieldNames : List String := ["hasNextPage", "hasPreviousPage", "startCursor", "endCursor"]

/-- Page information as a record. -/
def toJson (p : PageInfo) : Json :=
  .fields
    [("hasNextPage", .bool p.hasNextPage), ("hasPreviousPage", .bool p.hasPreviousPage),
      ("startCursor", Json.ofOption .text p.startCursor),
      ("endCursor", Json.ofOption .text p.endCursor)]

/-- Reads page information. -/
def ofJson? (j : Json) : Option PageInfo := do
  match ← j.record? fieldNames with
  | [hasNextPage, hasPreviousPage, startCursor, endCursor] =>
    return {
      hasNextPage := ← Json.required Json.bool? hasNextPage
      hasPreviousPage := ← Json.required Json.bool? hasPreviousPage
      startCursor := ← Json.optional Json.text? startCursor
      endCursor := ← Json.optional Json.text? endCursor }
  | _ => none

end PageInfo

namespace Connection

/-- The fields of a connection, in order. -/
def fieldNames : List String := ["edges", "pageInfo", "totalCount"]

/-- A connection as a record. -/
def toJson (c : Connection) : Json :=
  .fields
    [("edges", .array (c.edges.map Edge.toJson)), ("pageInfo", c.pageInfo.toJson),
      ("totalCount", .integer c.totalCount)]

/-- Reads a connection. -/
def ofJson? (j : Json) : Option Connection := do
  match ← j.record? fieldNames with
  | [edges, pageInfo, totalCount] =>
    return {
      edges := ← Json.required (Json.list? Edge.ofJson?) edges
      pageInfo := ← Json.required PageInfo.ofJson? pageInfo
      totalCount := ← Json.required Json.count? totalCount }
  | _ => none

end Connection

end Standings
