import Standings.Proofs.Json.Record
import Standings.Proofs.Timestamp
import Standings.Wire

/-!
# Records are read back

Every record of the library is read back from the text that is written for it. For each record there
are two facts: its fields are read as they were written, `ofJson?_toJson`, and its text is legible,
`isLegible_toJson`. A number of entries has to fit into 64 bits, for the reader takes no greater
one; all other numbers do so by their types. An instant is read back as it is written, which is
another one only in a leap second within a minute.

## Key results

- `Access.Claims.ofJson?_toJson`, `Connection.ofJson?_toJson`, …: fields
- `records_round_trip`: texts, and which records they are read back as
- `leap_second_within_minute_shares_text`: a grant that is not read back
-/

namespace Standings

open Calendar
open Json (RoundTrips)

theorem Calendar.Instant.ofJson?_toJson (t : Instant) :
    Instant.ofJson? t.toJson = some t.asWritten := by
  -- The offset of the text, which is none, is not kept.
  simp [Instant.ofJson?, Instant.toJson, Timestamp.parse?_write]

@[simp] theorem Calendar.Instant.isLegible_toJson (t : Instant) : t.toJson.IsLegible :=
  Json.isLegible_text _

theorem UserId.ofJson?_toJson (u : UserId) : ofJson? u.toJson = some u := by
  simp [ofJson?, toJson]

@[simp] theorem UserId.isLegible_toJson (u : UserId) : u.toJson.IsLegible :=
  Json.isLegible_integer _

/-! ## Names -/

theorem Metric.choice?_name (m : Metric) : (Json.text m.name).choice? choices = some m := by
  cases m <;> rfl

theorem Direction.choice?_name (d : Direction) : (Json.text d.name).choice? choices = some d := by
  cases d <;> rfl

theorem Period.choice?_name (p : Period) : (Json.text p.name).choice? choices = some p := by
  cases p <;> rfl

theorem SubmissionStatus.choice?_name (s : SubmissionStatus) :
    (Json.text s.name).choice? choices = some s := by
  cases s <;> rfl

/-! ## Ledgers -/

namespace Grant

/-- A grant with its instant as it is written. -/
def asWritten (g : Grant) : Grant := { g with grantedAt := g.grantedAt.asWritten }

theorem asWritten_eq_self_iff {g : Grant} :
    g.asWritten = g ↔ g.grantedAt.nano < 1000000000 ∨ g.grantedAt.second % 60 = 59 := by
  rw [← Instant.asWritten_eq_self_iff]
  -- Only the instant may differ.
  exact ⟨fun h => congrArg Grant.grantedAt h, fun h => by rw [asWritten, h]⟩

theorem ofJson?_toJson (g : Grant) : ofJson? g.toJson = some g.asWritten := by
  have hrecord : g.toJson.record? fieldNames = some _ := Json.record?_fields rfl (by decide)
  simp [ofJson?, hrecord, Json.required, UserId.ofJson?_toJson, Instant.ofJson?_toJson, asWritten]

theorem isLegible_toJson (g : Grant) : g.toJson.IsLegible := by
  simp [toJson]

end Grant

namespace Submission

/-- A submission with its instant as it is written. -/
def asWritten (s : Submission) : Submission := { s with submittedAt := s.submittedAt.asWritten }

theorem asWritten_eq_self_iff {s : Submission} :
    s.asWritten = s ↔ s.submittedAt.nano < 1000000000 ∨ s.submittedAt.second % 60 = 59 := by
  rw [← Instant.asWritten_eq_self_iff]
  exact ⟨fun h => congrArg Submission.submittedAt h, fun h => by rw [asWritten, h]⟩

theorem ofJson?_toJson (s : Submission) : ofJson? s.toJson = some s.asWritten := by
  have hrecord : s.toJson.record? fieldNames = some _ := Json.record?_fields rfl (by decide)
  simp [ofJson?, hrecord, Json.required, UserId.ofJson?_toJson, Instant.ofJson?_toJson,
    SubmissionStatus.choice?_name, asWritten]

theorem isLegible_toJson (s : Submission) : s.toJson.IsLegible := by
  simp [toJson]

end Submission

/-! ## Requests -/

namespace Filter

theorem ofJson?_toJson (f : Filter) : ofJson? f.toJson = some f := by
  have hrecord : f.toJson.record? fieldNames = some _ := Json.record?_fields rfl (by decide)
  simp [ofJson?, hrecord, Json.required, Metric.choice?_name, Direction.choice?_name,
    Period.choice?_name]

theorem isLegible_toJson (f : Filter) : f.toJson.IsLegible := by
  simp [toJson]

end Filter

namespace Page.Arguments

theorem ofJson?_toJson (args : Arguments) : ofJson? args.toJson = some args := by
  have hrecord : args.toJson.record? fieldNames = some _ := Json.record?_fields rfl (by decide)
  simp [ofJson?, hrecord]

theorem isLegible_toJson (args : Arguments) : args.toJson.IsLegible := by
  simp [toJson]

end Page.Arguments

namespace Access.Claims

theorem ofJson?_toJson (c : Claims) : ofJson? c.toJson = some c := by
  have hrecord : c.toJson.record? fieldNames = some _ := Json.record?_fields rfl (by decide)
  -- A list is read element by element.
  have hscopes : (Json.array (c.scopes.map .text)).list? Json.text? = some c.scopes :=
    Json.list?_map fun _ _ => rfl
  simp [ofJson?, hrecord, Json.required, Json.withDefault, hscopes]

theorem isLegible_toJson (c : Claims) : c.toJson.IsLegible := by
  simp [toJson]

end Access.Claims

/-! ## Pages -/

namespace Standing

theorem ofJson?_toJson (s : Standing) : ofJson? s.toJson = some s := by
  have hrecord : s.toJson.record? fieldNames = some _ := Json.record?_fields rfl (by decide)
  simp [ofJson?, hrecord, Json.required, UserId.ofJson?_toJson]

@[simp] theorem isLegible_toJson (s : Standing) : s.toJson.IsLegible := by
  simp [toJson]

end Standing

namespace Edge

theorem ofJson?_toJson (e : Edge) : ofJson? e.toJson = some e := by
  have hrecord : e.toJson.record? fieldNames = some _ := Json.record?_fields rfl (by decide)
  simp [ofJson?, hrecord, Json.required, Standing.ofJson?_toJson]

@[simp] theorem isLegible_toJson (e : Edge) : e.toJson.IsLegible := by
  simp [toJson]

end Edge

namespace PageInfo

theorem ofJson?_toJson (p : PageInfo) : ofJson? p.toJson = some p := by
  have hrecord : p.toJson.record? fieldNames = some _ := Json.record?_fields rfl (by decide)
  simp [ofJson?, hrecord, Json.required]

@[simp] theorem isLegible_toJson (p : PageInfo) : p.toJson.IsLegible := by
  simp [toJson]

end PageInfo

namespace Connection

theorem ofJson?_toJson {c : Connection} (h : c.totalCount < UInt64.size) :
    ofJson? c.toJson = some c := by
  have hrecord : c.toJson.record? fieldNames = some _ := Json.record?_fields rfl (by decide)
  -- The edges are records again, each read back by itself.
  have hedges : (Json.array (c.edges.map Edge.toJson)).list? Edge.ofJson? = some c.edges :=
    Json.list?_map fun e _ => Edge.ofJson?_toJson e
  simp [ofJson?, hrecord, Json.required, hedges, PageInfo.ofJson?_toJson, Json.count?_integer h]

theorem isLegible_toJson (c : Connection) : c.toJson.IsLegible := by
  simp [toJson]

end Connection

/-! ## Texts -/

/-- Every record is read back from its text, with any characters in its texts and with integers over
their whole range. A grant and a submission are read back with their instant as it is written, so
they are read back as they are unless it lies in a leap second behind a second that does not end a
minute. -/
theorem records_round_trip :
    (∀ g : Grant,
      (Json.parse? g.toJson.write).bind Grant.ofJson? =
          some { g with grantedAt := g.grantedAt.asWritten } ∧
        (RoundTrips Grant.toJson Grant.ofJson? g ↔
          g.grantedAt.nano < 1000000000 ∨ g.grantedAt.second % 60 = 59)) ∧
    (∀ s : Submission,
      (Json.parse? s.toJson.write).bind Submission.ofJson? =
          some { s with submittedAt := s.submittedAt.asWritten } ∧
        (RoundTrips Submission.toJson Submission.ofJson? s ↔
          s.submittedAt.nano < 1000000000 ∨ s.submittedAt.second % 60 = 59)) ∧
    (∀ f : Filter, RoundTrips Filter.toJson Filter.ofJson? f) ∧
    (∀ c : Access.Claims, RoundTrips Access.Claims.toJson Access.Claims.ofJson? c) ∧
    (∀ c : Connection, c.totalCount < UInt64.size →
      RoundTrips Connection.toJson Connection.ofJson? c) ∧
    (∀ args : Page.Arguments, RoundTrips Page.Arguments.toJson Page.Arguments.ofJson? args) := by
  refine ⟨fun g => ?_, fun s => ?_, fun f => ?_, fun c => ?_, fun c hcount => ?_, fun args => ?_⟩
  -- The ledgers' records hold an instant.
  · have hread := Json.bind_parse?_write g.isLegible_toJson g.ofJson?_toJson
    refine ⟨hread, ?_⟩
    rw [RoundTrips, hread, Option.some.injEq, Grant.asWritten_eq_self_iff]
  · have hread := Json.bind_parse?_write s.isLegible_toJson s.ofJson?_toJson
    refine ⟨hread, ?_⟩
    rw [RoundTrips, hread, Option.some.injEq, Submission.asWritten_eq_self_iff]
  -- The others do not.
  · exact Json.bind_parse?_write f.isLegible_toJson f.ofJson?_toJson
  · exact Json.bind_parse?_write c.isLegible_toJson c.ofJson?_toJson
  · exact Json.bind_parse?_write c.isLegible_toJson (Connection.ofJson?_toJson hcount)
  · exact Json.bind_parse?_write args.isLegible_toJson args.ofJson?_toJson

namespace Sample

/-- A grant in a leap second of the first minute of the calendar. -/
def firstGrant : Grant :=
  { id := Int64.minValue
    user := ⟨Int64.maxValue⟩
    points := Int32.minValue
    grantedAt := ⟨firstSecond + 59, 1999999999, by decide, by decide⟩
    description := "\"\\\n\x01é😀" }

/-- A grant in a leap second behind the 30th second of a minute, 2024-06-15T12:00:30Z. -/
def halfMinuteGrant : Grant :=
  { id := 1
    user := ⟨1⟩
    points := 5
    grantedAt := ⟨1718452830, 1500000000, by decide, by decide⟩
    description := "solved" }

/-- A page of the longest board. -/
def longestPage : Connection :=
  { edges := [⟨⟨⟨Int64.minValue⟩, Int64.maxValue⟩, "ab"⟩]
    pageInfo := ⟨true, false, some "ab", none⟩
    totalCount := UInt64.size - 1 }

end Sample

/-- The texts of a grant in a leap second, a filter and a page of the longest board. -/
theorem records_round_trip_extremes :
    (Sample.firstGrant.toJson.write =
        "\x7b\"id\":-9223372036854775808,\"user_id\":9223372036854775807,\"points\":-2147483648," ++
          "\"granted_at\":\"-262143-01-01T00:00:60.999999999Z\"," ++
          "\"description\":\"\\\"\\\\\\n\\u0001é😀\"\x7d" ∧
      RoundTrips Grant.toJson Grant.ofJson? Sample.firstGrant) ∧
    ((Filter.mk .completedQuestions .descending .weekly).toJson.write =
        "\x7b\"by\":\"COMPLETED_QUESTIONS\",\"order\":\"DESC\",\"period\":\"WEEKLY\"\x7d" ∧
      RoundTrips Filter.toJson Filter.ofJson? ⟨.completedQuestions, .descending, .weekly⟩) ∧
    (Sample.longestPage.toJson.write =
        "\x7b\"edges\":[\x7b\"node\":\x7b\"userId\":-9223372036854775808," ++
          "\"score\":9223372036854775807\x7d,\"cursor\":\"ab\"\x7d]," ++
          "\"pageInfo\":\x7b\"hasNextPage\":true,\"hasPreviousPage\":false," ++
          "\"startCursor\":\"ab\",\"endCursor\":null\x7d,\"totalCount\":18446744073709551615\x7d" ∧
      Sample.longestPage.totalCount < UInt64.size ∧
      RoundTrips Connection.toJson Connection.ofJson? Sample.longestPage) := by
  obtain ⟨hgrant, -, hfilter, -, hconnection, -⟩ := records_round_trip
  -- The greatest count is a word still.
  have hcount : Sample.longestPage.totalCount < UInt64.size := by decide
  -- The leap second ends its minute, so it has a text of its own.
  have hwritten := (hgrant Sample.firstGrant).2.2 (.inr (by decide))
  refine ⟨⟨?_, hwritten⟩, ⟨?_, hfilter _⟩, ⟨?_, hcount, hconnection _ hcount⟩⟩ <;> decide +kernel

/-- A leap second within a minute shares its text with an instant of the next second, and the grant
is read back as granted then. -/
theorem leap_second_within_minute_shares_text :
    Sample.halfMinuteGrant.toJson.write =
        "\x7b\"id\":1,\"user_id\":1,\"points\":5," ++
          "\"granted_at\":\"2024-06-15T12:00:31.500Z\",\"description\":\"solved\"\x7d" ∧
      ¬RoundTrips Grant.toJson Grant.ofJson? Sample.halfMinuteGrant := by
  -- Both readings of the text would be the same grant.
  refine ⟨by decide +kernel, fun h => ?_⟩
  have hread := Json.bind_parse?_write Sample.halfMinuteGrant.isLegible_toJson
    Sample.halfMinuteGrant.ofJson?_toJson
  have hsame := Option.some.inj (hread.symm.trans h)
  exact absurd (Grant.asWritten_eq_self_iff.1 hsame) (by decide)

end Standings
