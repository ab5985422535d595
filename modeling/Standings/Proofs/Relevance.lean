import Standings.Proofs.Leaderboard
import Standings.Proofs.Query
import Standings.Store.SqlLedger

/-!
# What a ranking depends on

A query over ledgers in memory is answered from its window's events alone, and of these only from
what counts: for points the pairs of a user and points, with their multiplicity; for completed
questions the pairs of a user and a question that have been solved at all. Two ledgers that agree
on these pairs give the same answers, errors included. Order, record numbers, descriptions, instants
within the window, events outside it, submissions without success and the other ledger have no part
in it.

A query over ledgers in a database is answered from rows, and here only their order is open. Rows
of different users in another order make the same tally, also when a score is missing, so databases
whose replies differ only in this way give the same answers, however often a query is tried again.

## Key results

- `Ledger.tally_eq_of_agrees`: ledgers that agree on what counts have the same tally
- `Store.Reply.Reordered.tally_eq`: reordered rows make the same tally
- `Store.retryFrom_related`: operations that answer alike on related states do so when tried again
- `ranking_eq_of_agreement`: the same answers in both cases
-/

namespace Standings

/-! ## Ledgers in memory -/

namespace Ledger

variable {ledger ledger' : Ledger} {window : Window}

/-- The points that count in a window: whom they went to, and how many. -/
def pointsIn (ledger : Ledger) (window : Window) : List (UserId × Int32) :=
  (ledger.grants.filter fun grant => window.contains grant.grantedAt).map
    fun grant => (grant.user, grant.points)

/-- The solutions that count in a window: who has solved which question. -/
def solvedIn (ledger : Ledger) (window : Window) : List (UserId × Int64) :=
  (ledger.submissions.filter fun submission =>
    submission.status = .success && window.contains submission.submittedAt).map
    fun submission => (submission.user, submission.question)

/-- Two ledgers agree on what counts for a metric in a window: the same points as often, or the
same solutions, however often. -/
def Agrees (ledger ledger' : Ledger) (metric : Metric) (window : Window) : Prop :=
  match metric with
  | .points => (ledger.pointsIn window).Perm (ledger'.pointsIn window)
  | .completedQuestions =>
    ∀ solution, solution ∈ ledger.solvedIn window ↔ solution ∈ ledger'.solvedIn window

/-- The points granted to a user are the user's share of the points that count. -/
theorem map_points_grantsTo (ledger : Ledger) (window : Window) (user : UserId) :
    (ledger.grantsTo window user).map Grant.points =
      ((ledger.pointsIn window).filter (·.1 = user)).map Prod.snd := by
  -- Whose share is taken does not depend on the order in which fields are picked.
  rw [pointsIn, List.filter_map, List.map_map, ← filter_user_grants]
  rfl

/-- The questions of a user's successes are the user's share of the solutions that count. -/
theorem map_question_successesOf (ledger : Ledger) (window : Window) (user : UserId) :
    (ledger.successesOf window user).map Submission.question =
      ((ledger.solvedIn window).filter (·.1 = user)).map Prod.snd := by
  rw [solvedIn, List.filter_map, List.map_map, ← filter_user_submissions]
  rfl

/-- Ledgers that agree on what counts have the same tally. -/
theorem tally_eq_of_agrees {metric : Metric} (h : ledger.Agrees ledger' metric window) :
    ledger.tally metric window = ledger'.tally metric window := by
  -- Tallies are the same if they give the same score to every user.
  apply Std.ExtTreeMap.ext_getElem?
  intro user
  cases metric with
  | points =>
    -- A user's points are the same but for their order, which their sum does not show.
    have hperm : ((ledger.grantsTo window user).map Grant.points).Perm
        ((ledger'.grantsTo window user).map Grant.points) := by
      rw [map_points_grantsTo, map_points_grantsTo]
      exact (List.Perm.filter _ h).map _
    -- The sum is taken over the same points.
    have hsum : ((ledger.grantsTo window user).map fun grant => grant.points.toInt).sum =
        ((ledger'.grantsTo window user).map fun grant => grant.points.toInt).sum := by
      simpa [Function.comp_def] using (hperm.map Int32.toInt).sum_eq
    have hlength :
        (ledger.grantsTo window user).length = (ledger'.grantsTo window user).length := by
      simpa using hperm.length_eq
    -- And whether there are any is a matter of their number.
    have hnil : ledger.grantsTo window user = [] ↔ ledger'.grantsTo window user = [] := by
      simp only [← List.length_eq_zero_iff, hlength]
    simp only [getElem?_tally_points, hnil, hsum]
  | completedQuestions =>
    -- A user has solved the same questions, perhaps not as often.
    have hmem : ∀ question,
        question ∈ (ledger.successesOf window user).map Submission.question ↔
          question ∈ (ledger'.successesOf window user).map Submission.question := by
      intro question
      simp only [map_question_successesOf, List.mem_map, List.mem_filter, h _]
    -- So the sets of questions are the same, and both are empty or neither is.
    have hset : ((ledger.successesOf window user).map Submission.question).toFinset =
        ((ledger'.successesOf window user).map Submission.question).toFinset := by
      ext question
      rw [List.mem_toFinset, List.mem_toFinset, hmem]
    have hnil : ledger.successesOf window user = [] ↔ ledger'.successesOf window user = [] := by
      have hnil := List.eq_nil_iff_forall_not_mem
        (l := (ledger.successesOf window user).map Submission.question)
      have hnil' := List.eq_nil_iff_forall_not_mem
        (l := (ledger'.successesOf window user).map Submission.question)
      rw [List.map_eq_nil_iff] at hnil hnil'
      simp only [hnil, hnil', hmem]
    simp only [getElem?_tally_completedQuestions, hnil, hset]

end Ledger

/-! ## Rows of a database -/

namespace Store

/-- A query for scores is answered alike but for the order of rows: all rows have a user, and no
user has two of them, as rows that are grouped by user have. -/
inductive Reply.Reordered : Reply → Reply → Prop where
  /-- The rows come in another order. -/
  | rows {found found' : List Row} (husers : ∀ row ∈ found, row.1.isSome)
      (hdistinct : (found.map Prod.fst).Nodup) (hperm : found.Perm found') :
      Reordered (.rows found) (.rows found')
  /-- There are no rows to be reordered. -/
  | refl (reply : Reply) : Reordered reply reply

end Store

/-- The order of pairs of different users does not matter for their tally. -/
theorem Tally.ofPairs_eq_of_perm {pairs pairs' : List (UserId × Int64)}
    (hdistinct : (pairs.map Prod.fst).Nodup) (hperm : pairs.Perm pairs') :
    ofPairs pairs = ofPairs pairs' := by
  -- Two insertions may be exchanged.
  apply hperm.foldl_eq'
  intro a ha b hb tally
  by_cases huser : a.1 = b.1
  · -- Two pairs of one user are the same pair.
    rw [List.inj_on_of_nodup_map hdistinct ha hb huser]
  · apply Std.ExtTreeMap.ext_getElem?
    intro user
    simp only [Std.ExtTreeMap.getElem?_insert, Std.LawfulEqOrd.compare_eq_iff_eq]
    split
    · next hb' =>
      split
      · next ha' => exact absurd (ha'.trans hb'.symm) huser
      · rfl
    · rfl

namespace Store

/-- The user and the score of a row that has both. -/
def Row.pair? (row : Row) : Option (UserId × Int64) :=
  row.1.bind fun user => row.2.map fun score => (⟨user⟩, score)

/-- Rows that all have a user are read as pairs if they all have a score as well; else the fault is
the same wherever a score is missing. -/
theorem mapM_read_of_users {found : List Row} (husers : ∀ row ∈ found, row.1.isSome) :
    found.mapM Row.read =
      if found.all (·.2.isSome) then .ok (found.filterMap Row.pair?)
      else .error (.unexpectedNull 1) := by
  -- Induction on the rows: the first missing score ends the reading, wherever it stands.
  induction found with
  | nil => rfl
  | cons row found ih =>
    obtain ⟨huser, hrest⟩ := List.forall_mem_cons.1 husers
    obtain ⟨_ | user, score⟩ := row
    · cases huser
    · rw [List.mapM_cons, ih hrest]
      cases score with
      | none => rfl
      | some score =>
        rw [List.all_cons, Option.isSome_some, Bool.true_and]
        split <;> rfl

/-- Pairs that are read from rows of different users are of different users. -/
theorem nodup_users_filterMap_pair? {found : List Row} (hdistinct : (found.map Prod.fst).Nodup) :
    ((found.filterMap Row.pair?).map Prod.fst).Nodup := by
  rw [List.Nodup, List.pairwise_map] at hdistinct ⊢
  apply hdistinct.filterMap
  intro row row' hne pair hpair pair' hpair' huser
  -- The user of a pair is the user of its row.
  have huser_eq : ∀ {row : Row} {pair}, row.pair? = some pair → row.1 = some pair.1.value := by
    intro row pair h
    simp only [Row.pair?, Option.bind_eq_some_iff, Option.map_eq_some_iff] at h
    obtain ⟨user, hrow, score, -, rfl⟩ := h
    exact hrow
  apply hne
  rw [huser_eq hpair, huser_eq hpair', huser]

/-- Reordered rows make the same tally. -/
theorem Reply.Reordered.tally_eq {reply reply' : Reply} (h : Reordered reply reply') :
    reply.tally = reply'.tally := by
  cases h with
  | refl => rfl
  | @rows found found' husers hdistinct hperm =>
    have husers' : ∀ row ∈ found', row.1.isSome := fun row hrow => husers row (hperm.mem_iff.2 hrow)
    have hscores : found.all (·.2.isSome) = found'.all (·.2.isSome) := hperm.all_eq
    -- Reordered rows are read as reordered pairs, or not at all.
    have hpairs := Tally.ofPairs_eq_of_perm (nodup_users_filterMap_pair? hdistinct)
      (hperm.filterMap Row.pair?)
    simp only [Reply.tally, mapM_read_of_users husers, mapM_read_of_users husers', hscores]
    by_cases hfound : found'.all (·.2.isSome)
    · simp only [if_pos hfound, hpairs]
    · simp only [if_neg hfound]

/-! ## Trying again -/

section Retry

variable {σ : Type} {α : Type} {operation : σ → Except Fault α × σ} {Related : σ → σ → Prop}

/-- If an operation answers alike on related states and leaves related states behind, it does so
when it is tried again, too. -/
theorem retryFrom_related
    (hstep : ∀ s s', Related s s' →
      (operation s).1 = (operation s').1 ∧ Related (operation s).2 (operation s').2)
    (limit : UInt8) (made left : Nat) {s s' : σ} (h : Related s s') :
    (retryFrom operation limit made left s).1 = (retryFrom operation limit made left s').1 ∧
      Related (retryFrom operation limit made left s).2
        (retryFrom operation limit made left s').2 := by
  -- One step on related states, with a name for its common result.
  have alike : ∀ {s s'}, Related s s' → ∃ result next next',
      operation s = (result, next) ∧ operation s' = (result, next') ∧ Related next next' :=
    fun {s s'} h => ⟨(operation s).1, (operation s).2, (operation s').2, rfl,
      Prod.ext (hstep s s' h).1.symm rfl, (hstep s s' h).2⟩
  -- Induction on the attempts left, over all pairs of related states.
  induction left generalizing made s s' with
  | zero =>
    obtain ⟨result, next, next', hs, hs', hnext⟩ := alike h
    unfold retryFrom
    simp only [hs, hs']
    cases result with
    | ok value => exact ⟨rfl, hnext⟩
    | error fault => by_cases htransient : fault.isTransient <;> simp [htransient, hnext]
  | succ left ih =>
    obtain ⟨result, next, next', hs, hs', hnext⟩ := alike h
    unfold retryFrom
    simp only [hs, hs']
    cases result with
    | ok value => exact ⟨rfl, hnext⟩
    | error fault =>
      by_cases htransient : fault.isTransient
      · -- The states behind the attempt are related again.
        obtain ⟨hrest, hrelated⟩ := ih (made + 1) hnext
        cases wait? made with
        | none => simp [htransient, hnext]
        | some millis => simp [htransient, hrest, hrelated]
      · simp [htransient, hnext]

end Retry

/-! ## Databases -/

namespace Database

/-- Two databases whose servers answer alike but for the order of rows. -/
def Reordered (database database' : Database) : Prop :=
  List.Forall₂ Reply.Reordered database.replies database'.replies

/-- The next replies and those after them differ in the order of rows alone. -/
theorem nextReply_reordered {replies replies' : List Reply}
    (h : List.Forall₂ Reply.Reordered replies replies') :
    Reply.Reordered (nextReply replies).1 (nextReply replies').1 ∧
      List.Forall₂ Reply.Reordered (nextReply replies).2 (nextReply replies').2 := by
  cases h with
  | nil => exact ⟨.refl _, .nil⟩
  | cons hreply hrest =>
    -- The last reply stays; any other makes room for the one behind it.
    cases hrest with
    | nil => exact ⟨hreply, .cons hreply .nil⟩
    | cons hnext hlater => exact ⟨hreply, .cons hnext hlater⟩

/-- Asked once, databases that differ in the order of rows alone give the same tally, and still
differ in nothing else. -/
theorem scoresOnce_reordered (metric : Metric) (window : Window) {database database' : Database}
    (h : Reordered database database') :
    (scoresOnce metric window database).1 = (scoresOnce metric window database').1 ∧
      Reordered (scoresOnce metric window database).2 (scoresOnce metric window database').2 := by
  obtain ⟨hreply, hrest⟩ := nextReply_reordered h
  exact ⟨hreply.tally_eq, hrest⟩

/-- So they do as a source that tries again. -/
theorem source_reordered (maxRetries : UInt8) (metric : Metric) (window : Window)
    {database database' : Database} (h : Reordered database database') :
    (source maxRetries metric window database).1 =
      (source maxRetries metric window database').1 := by
  -- To differ in the order of rows is kept by every query, so it is by all attempts.
  have hretry := retryFrom_related (fun _ _ => scoresOnce_reordered metric window)
    (attemptLimit maxRetries) 0 ((attemptLimit maxRetries).toNat - 1) h
  exact congrArg Attempts.result hretry.1

end Database

end Store

/-! ## Answers -/

/-- The engine over ledgers in a database. -/
def Engine.inDatabase (maxRetries : UInt8) (clock : Clock) (limits : Page.Limits) :
    Engine Store.Database :=
  { source := Store.Database.source maxRetries, clock, limits }

/-- The answer to a query depends on its source only through what the source says about the query's
metric in the query's window. -/
theorem Engine.ranking_eq_of_source_eq {σ σ' : Type} {engine : Engine σ} {engine' : Engine σ'}
    {filter : Filter} {args : Page.Arguments} {s : σ} {s' : σ'}
    (hclock : engine.clock = engine'.clock) (hlimits : engine.limits = engine'.limits)
    (hsource : ∀ window, engine.clock.window? filter.period = some window →
      (engine.source filter.metric window s).1 = (engine'.source filter.metric window s').1) :
    (engine.ranking filter args s).1 = (engine'.ranking filter args s').1 := by
  -- Neither the checks nor the window depend on the source.
  cases hvalid : args.validate filter.order engine.limits with
  | error cause => rw [ranking_of_invalid hvalid, ranking_of_invalid (hlimits ▸ hvalid)]
  | ok request =>
    cases hwindow : engine.clock.window? filter.period with
    | none =>
      rw [ranking_of_outOfCalendar hvalid hwindow,
        ranking_of_outOfCalendar (hlimits ▸ hvalid) (hclock ▸ hwindow)]
    | some window =>
      rw [ranking_of_valid hvalid hwindow,
        ranking_of_valid (hlimits ▸ hvalid) (hclock ▸ hwindow), hsource window hwindow]

/-- Over ledgers in memory that agree on what counts in the query's window, in order or out of order
alike, a query has the same answer. So it has over databases whose replies are the same but for the
order of rows of different users. -/
theorem ranking_eq_of_agreement (clock : Clock) (limits : Page.Limits) (filter : Filter)
    (args : Page.Arguments) :
    (∀ (ledger ledger' : Ledger) (outage : Option Store.Fault) (reads reads' : Nat),
      (∀ window, clock.window? filter.period = some window →
        ledger.Agrees ledger' filter.metric window) →
      ((Engine.inMemory clock limits).ranking filter args ⟨ledger, outage, reads⟩).1 =
        ((Engine.inMemory clock limits).ranking filter args ⟨ledger', outage, reads'⟩).1) ∧
    ∀ (maxRetries : UInt8) (database database' : Store.Database), database.Reordered database' →
      ((Engine.inDatabase maxRetries clock limits).ranking filter args database).1 =
        ((Engine.inDatabase maxRetries clock limits).ranking filter args database').1 := by
  constructor
  · intro ledger ledger' outage reads reads' hagrees
    apply Engine.ranking_eq_of_source_eq rfl rfl
    intro window hwindow
    cases outage with
    | some fault => rfl
    | none => exact congrArg Except.ok (Ledger.tally_eq_of_agrees (hagrees window hwindow))
  · intro maxRetries database database' hreordered
    apply Engine.ranking_eq_of_source_eq rfl rfl
    intro window _
    exact Store.Database.source_reordered maxRetries filter.metric window hreordered

/-- The sample day, told differently: other numbers, instants and texts in another order, grants on
other days, and a ledger of submissions. -/
def Sample.retold : Ledger :=
  { grants := [⟨9, ⟨3⟩, -10, window.start, ""⟩, ⟨7, ⟨2⟩, 10, noon, "exam"⟩, ⟨8, ⟨3⟩, 10, noon, ""⟩,
      ⟨6, ⟨1⟩, 30, window.start, "exam"⟩, ⟨5, ⟨1⟩, 70, window.stop, "late"⟩]
    submissions := [⟨1, ⟨1⟩, 1, .success, noon⟩] }

/-- The sample day gets the same answers either way, and so do two databases that list two users in
either order, one of them without a score. -/
theorem ranking_eq_of_agreement_sample :
    ((Engine.inMemory Sample.clock {}).ranking Sample.filter {} ⟨Sample.ledger, none, 0⟩).1 =
        ((Engine.inMemory Sample.clock {}).ranking Sample.filter {} ⟨Sample.retold, none, 3⟩).1 ∧
      ((Engine.inDatabase 3 Sample.clock {}).ranking Sample.filter {}
          { replies := [.dropped, .rows [(some 1, some 5), (some 2, none)]] }).1 =
        ((Engine.inDatabase 3 Sample.clock {}).ranking Sample.filter {}
          { replies := [.dropped, .rows [(some 2, none), (some 1, some 5)]] }).1 := by
  obtain ⟨hmemory, hdatabase⟩ := ranking_eq_of_agreement Sample.clock {} Sample.filter {}
  constructor
  · apply hmemory
    intro window hwindow
    obtain rfl : Sample.window = window := Option.some.inj (Sample.window?_clock.symm.trans hwindow)
    have hperm : (Sample.ledger.pointsIn Sample.window).Perm
        (Sample.retold.pointsIn Sample.window) := by decide +kernel
    exact hperm
  · apply hdatabase
    have hrows : Store.Reply.Reordered (.rows [(some 1, some 5), (some 2, none)])
        (.rows [(some 2, none), (some 1, some 5)]) :=
      .rows (by simp) (by simp) (List.Perm.swap _ _ _)
    exact .cons (.refl _) (.cons hrows .nil)

end Standings
