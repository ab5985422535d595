import Standings.Proofs.Leaderboard
import Standings.Proofs.Query
import Standings.Ranking.Session

/-!
# Sessions in an outage

While every reading of the ledgers fails, a session goes on: grants are recorded, and queries and
walks are answered with an error. A step that asks for pages asks for its first page and, as that
fails, for no other, so it costs one reading if its arguments are accepted and none if they are not.
`StepInOutage` says what a step answers and what it leaves behind; a session is a run of such steps,
and its readings are counted by the accepted ones among them.

## Key results

- `step_of_error`: a step whose first question fails answers with the error
- `stepInOutage_step`: what one step does in an outage
- `outage_costs_one_reading`: what a session answers in an outage, and how many readings it costs
-/

namespace Standings

/-- A walk whose first page cannot be had ends there. -/
theorem Walk.run_of_error {σ ε : Type} {walk : Walk} {cursor : Option String}
    {fetch : Page.Arguments → σ → Except ε Connection × σ} {s s' : σ} {e : ε}
    (h : fetch (walk.arguments cursor) s = (.error e, s')) (pages : Nat) :
    walk.run fetch (pages + 1) cursor s = (.error e, s') := by
  simp only [run, h]

namespace Session

/-! ## What a step asks -/

/-- What a step asks of the engine first, given the answers of earlier steps: nothing if it records
a grant. -/
def Step.question? (answers : List Answer) : Step → Option (Filter × Page.Arguments)
  | .query filter first last after before =>
    some (filter, { first, last
                    after := after.bind (·.resolve (pageAt answers))
                    before := before.bind (·.resolve (pageAt answers)) })
  | .append _ => none
  | .walk filter way => some (filter, way.arguments none)

/-- Whether a step asks for pages with arguments that are accepted. -/
def Step.isAccepted (limits : Page.Limits) (answers : List Answer) (next : Step) : Bool :=
  (next.question? answers).any fun (filter, args) => (args.validate filter.order limits).isOk

/-- A step whose first question fails answers with the error. -/
theorem step_of_error {engine : Engine LedgerService} {answers : List Answer} {next : Step}
    {filter : Filter} {args : Page.Arguments} {service service' : LedgerService}
    {error : RankingError} (hquestion : next.question? answers = some (filter, args))
    (h : engine.ranking filter args service = (.error error, service')) :
    step engine answers service next = (.failed error, service') := by
  cases next with
  -- A query asks the engine itself.
  | query =>
    cases hquestion
    simp only [step, h]
  | append => cases hquestion
  | walk filter walk =>
    cases hquestion
    -- A walk may turn many pages, and it stops at the first that fails.
    simp only [step, walkLimit, Walk.run_of_error h]

/-! ## One step -/

/-- What a step answers while every reading fails with `fault`, and the service that it leaves
behind. -/
inductive StepInOutage (clock : Clock) (limits : Page.Limits) (fault : Store.Fault)
    (answers : List Answer) (service : LedgerService) : Step → Answer → LedgerService → Prop where
  /-- A grant is recorded as ever. -/
  | appended (grant : Grant) :
    StepInOutage clock limits fault answers service (.append grant) .appended
      (service.append grant)
  /-- Arguments that are not accepted are answered with what is wrong with them; the service is left
  as it is. -/
  | invalid {next : Step} {filter : Filter} {args : Page.Arguments} {cause : Page.ArgumentError}
    (hquestion : next.question? answers = some (filter, args))
    (hinvalid : args.validate filter.order limits = .error cause) :
    StepInOutage clock limits fault answers service next (.failed (.arguments cause)) service
  /-- Accepted arguments cost one reading, and the answer is the fault and nothing else. -/
  | upstream {next : Step} {filter : Filter} {args : Page.Arguments} {request : Page.Request}
    {window : Window} (hquestion : next.question? answers = some (filter, args))
    (hvalid : args.validate filter.order limits = .ok request)
    (hwindow : clock.window? filter.period = some window) :
    StepInOutage clock limits fault answers service next (.failed (.source fault))
      { service with reads := service.reads + 1 }
  /-- If the calendar has no window, there is nothing to read. -/
  | outOfCalendar {next : Step} {filter : Filter} {args : Page.Arguments} {request : Page.Request}
    (hquestion : next.question? answers = some (filter, args))
    (hvalid : args.validate filter.order limits = .ok request)
    (hwindow : clock.window? filter.period = none) :
    StepInOutage clock limits fault answers service next (.failed .outOfCalendar) service

/-- Every step of a session is one in the outage. -/
theorem stepInOutage_step (engine : Engine LedgerService) {service : LedgerService}
    {fault : Store.Fault} (hsource : engine.source = LedgerService.read)
    (hdown : service.outage = some fault) (answers : List Answer) (next : Step) :
    StepInOutage engine.clock engine.limits fault answers service next
      (step engine answers service next).1 (step engine answers service next).2 := by
  cases hquestion : next.question? answers with
  | none =>
    -- Only a step that records a grant asks for nothing.
    cases next with
    | query => cases hquestion
    | append grant => exact .appended grant
    | walk => cases hquestion
  | some question =>
    -- The engine's three ways to answer: arguments, window, source.
    obtain ⟨filter, args⟩ := question
    cases hvalid : args.validate filter.order engine.limits with
    | error cause =>
      rw [step_of_error hquestion (Engine.ranking_of_invalid hvalid service)]
      exact .invalid hquestion hvalid
    | ok request =>
      cases hwindow : engine.clock.window? filter.period with
      | none =>
        rw [step_of_error hquestion (Engine.ranking_of_outOfCalendar hvalid hwindow service)]
        exact .outOfCalendar hquestion hvalid hwindow
      | some window =>
        -- The one reading that there is fails, and is counted.
        have hread : engine.source filter.metric window service =
            (.error (.fault fault), { service with reads := service.reads + 1 }) := by
          simp only [hsource, LedgerService.read, hdown]
        have hranking := Engine.ranking_of_valid hvalid hwindow service
        rw [hread, Engine.answer] at hranking
        rw [step_of_error hquestion hranking]
        exact .upstream hquestion hvalid hwindow

variable {clock : Clock} {limits : Page.Limits} {fault : Store.Fault} {service : LedgerService}

namespace StepInOutage

variable {answers : List Answer} {service' : LedgerService} {next : Step} {answer : Answer}

/-- The outage goes on. -/
theorem outage_eq (h : StepInOutage clock limits fault answers service next answer service') :
    service'.outage = service.outage := by
  cases h <;> rfl

/-- A step whose window lies in the calendar costs one reading if its arguments are accepted, and
else none. -/
theorem reads_eq (h : StepInOutage clock limits fault answers service next answer service')
    (hcalendar : answer ≠ .failed .outOfCalendar) :
    service'.reads = service.reads + if next.isAccepted limits answers then 1 else 0 := by
  cases h with
  -- A grant is no question; the others count as what validation says of them.
  | appended => rfl
  | invalid hquestion hinvalid =>
    simp only [Step.isAccepted, hquestion, Option.any_some, hinvalid]
    rfl
  | upstream hquestion hvalid =>
    simp only [Step.isAccepted, hquestion, Option.any_some, hvalid]
    rfl
  | outOfCalendar => exact absurd rfl hcalendar

end StepInOutage

/-! ## A session -/

/-- The steps of a session in an outage, each with its answer and the service that it leaves to the
next. -/
inductive RunInOutage (clock : Clock) (limits : Page.Limits) (fault : Store.Fault) :
    List Answer → LedgerService → List Step → List Answer → LedgerService → Prop where
  /-- Without a step nothing happens. -/
  | nil (answers : List Answer) (service : LedgerService) :
    RunInOutage clock limits fault answers service [] [] service
  /-- The later steps follow the first, and know its answer. -/
  | cons {answers later : List Answer} {service service' service'' : LedgerService} {next : Step}
    {rest : List Step} {answer : Answer}
    (hstep : StepInOutage clock limits fault answers service next answer service')
    (hrest : RunInOutage clock limits fault (answers ++ [answer]) service' rest later service'') :
    RunInOutage clock limits fault answers service (next :: rest) (answer :: later) service''

/-- A session in an outage is a run of steps in the outage. -/
theorem exists_runInOutage (clock : Clock) (limits : Page.Limits)
    (hdown : service.outage = some fault) (steps : List Step) (earlier : List Answer) :
    ∃ later, (run (Engine.inMemory clock limits) steps earlier service).1 = earlier ++ later ∧
      RunInOutage clock limits fault earlier service steps later
        (run (Engine.inMemory clock limits) steps earlier service).2 := by
  -- Induction on the steps; the outage is what each of them leaves to the next.
  induction steps generalizing earlier service with
  | nil => exact ⟨[], (List.append_nil _).symm, .nil _ _⟩
  | cons next rest ih =>
    have hstep := stepInOutage_step (Engine.inMemory clock limits) rfl hdown earlier next
    have hdown' := hstep.outage_eq.trans hdown
    obtain ⟨later, hanswers, hrun⟩ := ih hdown' (earlier ++ [_])
    rw [List.append_assoc] at hanswers
    exact ⟨_, hanswers, .cons hstep hrun⟩

/-- A run counts its accepted steps, each of them against the answers before it. -/
theorem RunInOutage.reads_eq {earlier later answers : List Answer} {service' : LedgerService}
    {steps : List Step} (h : RunInOutage clock limits fault earlier service steps later service')
    (hanswers : answers = earlier ++ later)
    (hcalendar : ∀ answer ∈ later, answer ≠ .failed .outOfCalendar) :
    service'.reads = service.reads + (steps.zipIdx earlier.length).countP fun (next, i) =>
      next.isAccepted limits (answers.take i) := by
  -- Induction on the run: a step is counted against the answers before it, which no later one
  -- changes.
  induction h with
  | nil => rfl
  | @cons earlier later service service' service'' next rest answer hstep hrest ih =>
    rw [List.forall_mem_cons] at hcalendar
    have hrest := ih (by rw [hanswers, List.append_assoc]; rfl) hcalendar.2
    rw [List.length_append, List.length_singleton] at hrest
    -- What the first step knows are the answers before it.
    have hbefore : answers.take earlier.length = earlier := by rw [hanswers, List.take_left]
    rw [hrest, hstep.reads_eq hcalendar.1, List.zipIdx_cons, List.countP_cons]
    simp only [hbefore]
    omega

/-- A query costs one reading at most, whether that fails or not. -/
theorem reads_ranking_le {engine : Engine LedgerService}
    (hsource : engine.source = LedgerService.read) (filter : Filter) (args : Page.Arguments)
    (service : LedgerService) :
    (engine.ranking filter args service).2.reads ≤ service.reads + 1 := by
  cases hvalid : args.validate filter.order engine.limits with
  | error cause =>
    rw [Engine.ranking_of_invalid hvalid]
    exact Nat.le_succ _
  | ok request =>
    cases hwindow : engine.clock.window? filter.period with
    | none =>
      rw [Engine.ranking_of_outOfCalendar hvalid hwindow]
      exact Nat.le_succ _
    | some window =>
      -- Only a query that is checked and has a window gets to the source, and it asks once.
      rw [Engine.ranking_of_valid hvalid hwindow, hsource]
      exact Nat.le_of_eq (LedgerService.read_reads _ _ _)

/-- A session over ledgers of which every reading fails is a run of steps in the outage: see
`StepInOutage`. Unless a step is stopped by a window that leaves the calendar, there are as many
readings as steps that ask for pages with accepted arguments; and no query reads twice. -/
theorem outage_costs_one_reading (clock : Clock) (limits : Page.Limits) {service : LedgerService}
    {fault : Store.Fault} (hdown : service.outage = some fault) (steps : List Step)
    (earlier : List Answer) :
    ∃ later service',
      run (Engine.inMemory clock limits) steps earlier service = (earlier ++ later, service') ∧
      RunInOutage clock limits fault earlier service steps later service' ∧
      ((∀ answer ∈ later, answer ≠ .failed .outOfCalendar) →
        service'.reads = service.reads + (steps.zipIdx earlier.length).countP fun (next, i) =>
          next.isAccepted limits ((earlier ++ later).take i)) ∧
      ∀ filter args service,
        ((Engine.inMemory clock limits).ranking filter args service).2.reads ≤
          service.reads + 1 := by
  obtain ⟨later, hanswers, hrun⟩ := exists_runInOutage clock limits hdown steps earlier
  exact ⟨later, _, Prod.ext hanswers rfl, hrun, hrun.reads_eq rfl, reads_ranking_le rfl⟩

end Session

namespace Sample

/-- The fault of a database that has gone away. -/
def fault : Store.Fault := .connection "connection reset"

/-- The ledgers of the sample day while the database is away. -/
def away : LedgerService := ⟨ledger, some fault, 0⟩

/-- A session of six steps: pages are asked for with good arguments, with both sizes, with the
cursor of a page that is not there, by a walk of a size above the limit, and by a walk without a
size; in between a grant is recorded. -/
def session : List Session.Step :=
  [.query filter (some 2) none none none, .query filter (some 2) (some 2) none none,
    .append ⟨6, ⟨1⟩, 5, noon, "quiz"⟩, .query filter (some 2) none (some (.pageEnd 0 .last)) none,
    .walk filter ⟨.last, some 501⟩, .walk filter ⟨.first, none⟩]

/-- What these steps answer while the database is away. -/
def sessionAnswers : List Session.Answer :=
  [.failed (.source fault), .failed (.arguments .bothSizes), .appended, .failed (.source fault),
    .failed (.arguments (.tooLarge .last 500)), .failed (.source fault)]

end Sample

/-- Of the session on the sample day three steps cost a reading. They are answered with the fault,
and the others with what is wrong with their arguments. -/
theorem outage_costs_one_reading_sample :
    (∀ answer ∈ Sample.sessionAnswers, answer ≠ .failed .outOfCalendar) ∧
      ∃ service, Session.run (Engine.inMemory Sample.clock {}) Sample.session [] Sample.away =
        (Sample.sessionAnswers, service) ∧ service.reads = 3 := by
  -- The answers are computed; the readings are counted by the theorem.
  have hanswers : (Session.run (Engine.inMemory Sample.clock {}) Sample.session [] Sample.away).1 =
      Sample.sessionAnswers := by decide +kernel
  have hcalendar : ∀ answer ∈ Sample.sessionAnswers, answer ≠ .failed .outOfCalendar := by decide
  have hdown : Sample.away.outage = some Sample.fault := rfl
  obtain ⟨later, service, hrun, -, hreads, -⟩ :=
    Session.outage_costs_one_reading Sample.clock {} hdown Sample.session []
  -- Which steps are counted depends on the answers before them.
  rw [hrun] at hanswers
  obtain rfl : later = Sample.sessionAnswers := hanswers
  refine ⟨hcalendar, service, hrun, ?_⟩
  rw [hreads hcalendar]
  decide +kernel

end Standings
