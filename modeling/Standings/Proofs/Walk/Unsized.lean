import Standings.Proofs.Settings
import Standings.Proofs.Walk.Exhaustive

/-!
# Walks that name no size

A walk may leave the size of its pages to the service, which then takes the default size of its
settings. This size is read from the environment, and the only thing that is checked of it is that
it does not exceed the greatest. So it may be zero. With any other size the walk covers its board,
of whatever length that is; with a size of zero its first page is empty, and if anybody is on the
board the page says that more follow but has no cursor from which to go on.

## Key results

- `Walk.isSome_next?_of_run`: each page but the last has a cursor to go on from
- `Course.Reads.run_through`: with pages of any other size a walk shows the board
- `Course.Reads.run_stuck`: with pages of no entries it stops at the first
- `default_walk_covers_board`: what a walk shows under settings that are accepted
- `default_walk_stuck_at_zero`: accepted settings under which a walk shows nobody
-/

namespace Standings

open Page Calendar

/-! ## Going on -/

/-- A run goes on from each of its pages but the last. -/
theorem Walk.isSome_next?_of_run {σ ε : Type} {walk : Walk}
    {fetch : Arguments → σ → Except ε Connection × σ} {limit : Nat} {cursor : Option String}
    {s s' : σ} {pages : List Connection} (h : walk.run fetch limit cursor s = (.ok pages, s'))
    {i : Nat} {page : Connection} (hi : i + 1 < pages.length) (hpage : pages[i]? = some page) :
    (walk.next? page).isSome := by
  -- Only the branch that goes on makes a list of more than one page.
  induction limit generalizing cursor s pages i with
  | zero =>
    cases h
    simp at hi
  | succ limit ih =>
    rw [run] at h
    split at h
    · cases h
    · next shown t hfetch =>
      split at h
      · cases h
        simp at hi
      · next key hnext =>
        split at h
        · cases h
        · next later t' hlater =>
          cases h
          cases i with
          | zero =>
            -- The first page is the one that the run has gone on from.
            obtain rfl : shown = page := by simpa using hpage
            rw [hnext, Option.isSome_some]
          | succ i => exact ih hlater (by simpa using hi) (by simpa using hpage)

/-- A forward walk goes on from a page that says that more follow, by the cursor of its end. -/
theorem Walk.isSome_next?_iff {size : Option Int64} {page : Connection} :
    (Walk.next? ⟨.first, size⟩ page).isSome ↔
      page.pageInfo.hasNextPage ∧ page.pageInfo.endCursor.isSome := by
  cases hmore : page.pageInfo.hasNextPage <;> simp [next?, hmore]

/-- The pages of a forward walk that shows a board and is nowhere stuck. -/
structure Walk.IsThrough (pages : List Connection) (board : List Standing) : Prop where
  /-- A page that says that more follow has a cursor to go on from. -/
  goesOn : ∀ page ∈ pages, page.pageInfo.hasNextPage → page.pageInfo.endCursor.isSome
  /-- The last page says that nothing follows. -/
  ends : ∃ last, pages.getLast? = some last ∧ last.pageInfo.hasNextPage = false
  /-- The pages make up the board. -/
  covers : pages.flatMap Connection.nodes = board

namespace Course

/-! ## Pages of no entries -/

section Empty

variable {course : Course} {board : Board} (hs : board.toList.Pairwise (course.order.before · ·))
  (hzero : course.count = 0)

include hs hzero

/-- A page of no entries shows nothing, and says that more follow exactly if there is anything
beyond its place. -/
theorem paginate_of_count_zero (place : Option Standing) :
    (paginate board (course.request place)).nodes = [] ∧
      ((paginate board (course.request place)).hasFurther course.side ↔
        course.rest place board ≠ []) := by
  have hshows := course.shows_paginate place hs
  have hnodes := hshows.nodes
  have hfurther := hshows.further
  have hcount : course.count.toNat = 0 := by rw [hzero]; rfl
  rw [hcount] at hnodes hfurther
  -- A page of no entries takes none of what is beyond its place.
  rw [List.take_zero, ← List.length_eq_zero_iff, Side.length_along,
    List.length_eq_zero_iff] at hnodes
  rw [List.length_pos_iff] at hfurther
  exact ⟨hnodes, hfurther⟩

/-- A walk stops at a page of no entries. -/
theorem next?_of_count_zero (size : Option Int64) (place : Option Standing) :
    Walk.next? ⟨course.side, size⟩ (paginate board (course.request place)) = none := by
  obtain ⟨hnodes, -⟩ := paginate_of_count_zero hs hzero place
  -- A page that shows nothing has no cursor, whatever its flags say.
  have hend : course.side.along (paginate board (course.request place)).nodes = [] := by
    rw [← List.length_eq_zero_iff, Side.length_along, hnodes, List.length_nil]
  rw [next?_paginate, hend]
  split <;> rfl

end Empty

/-! ## Walks over a board that stays -/

section Stays

variable {σ ε : Type} {course : Course} {board : Board} {size : Option Int64}
  {fetch : Arguments → σ → Except ε Connection × σ} {states : Nat → σ}
  (hreads : course.Reads size fetch (fun _ => board) states)

include hreads

/-- A forward walk over a board that stays is through after as many pages as the board fills, if its
limit allows so many. -/
theorem Reads.run_through (hside : course.side = .first) (hpos : 0 < course.count.toNat)
    {limit : Nat} (hlimit : pageCount board.size course.count.toNat ≤ limit) :
    ∃ pages,
      Walk.run ⟨.first, size⟩ fetch limit none (states 0) = (.ok pages, states pages.length) ∧
      pages.length = pageCount board.size course.count.toNat ∧
      Walk.IsThrough pages board.toList := by
  obtain ⟨pages, hrun, hlength, hshown, hpages⟩ := hreads.run_covers hpos hlimit
  rw [hside] at hrun hshown
  -- Only the last page says that nothing follows.
  have hnext : ∀ i (hi : i < pages.length),
      pages[i].pageInfo.hasNextPage ↔ i + 1 < pages.length := by
    intro i hi
    have hfurther := (hpages i _ (List.getElem?_eq_getElem hi)).further
    rw [hside] at hfurther
    rw [hlength, lt_pageCount_iff hpos (Nat.succ_pos i), Nat.succ_mul]
    exact hfurther
  have hone : 0 < pages.length := by
    rw [hlength]
    exact Nat.le_max_left _ _
  refine ⟨pages, hrun, hlength, ?_, ?_, hshown⟩
  · intro page hpage hmore
    obtain ⟨i, hi, rfl⟩ := List.getElem_of_mem hpage
    -- The run has gone on from it, for which it needs a cursor.
    have hsome := Walk.isSome_next?_of_run hrun ((hnext i hi).1 hmore)
      (List.getElem?_eq_getElem hi)
    exact (Walk.isSome_next?_iff.1 hsome).2
  · refine ⟨pages[pages.length - 1], ?_, ?_⟩
    · rw [List.getLast?_eq_getElem?, List.getElem?_eq_getElem]
    · rw [Bool.eq_false_iff, ne_eq, hnext]
      omega

/-- A walk with pages of no entries comes to its end with the first. -/
theorem Reads.run_of_count_zero (hzero : course.count = 0) {limit : Nat} (hlimit : 0 < limit) :
    Walk.run ⟨course.side, size⟩ fetch limit none (states 0) =
      (.ok [paginate board (course.request none)], states 1) := by
  obtain ⟨turns, rfl⟩ := Nat.exists_eq_succ_of_ne_zero (Nat.ne_of_gt hlimit)
  -- One reading, and no cursor to make a second with.
  have hanswer := hreads.answers 0 none
  rw [Option.map_none] at hanswer
  simp only [Walk.run, hanswer, next?_of_count_zero (hreads.sorted 0) hzero]

/-- Over an empty board a forward walk with pages of no entries is through with the first. -/
theorem Reads.run_through_of_nobody (hside : course.side = .first) (hzero : course.count = 0)
    (hnobody : board.toList = []) {limit : Nat} (hlimit : 0 < limit) :
    ∃ pages,
      Walk.run ⟨.first, size⟩ fetch limit none (states 0) = (.ok pages, states pages.length) ∧
      pages.length = 1 ∧ Walk.IsThrough pages board.toList := by
  obtain ⟨hnodes, hmore⟩ := paginate_of_count_zero (hreads.sorted 0) hzero none
  rw [rest_none, hside, hnobody] at hmore
  have hdone : (paginate board (course.request none)).pageInfo.hasNextPage = false :=
    Bool.eq_false_iff.2 fun hnext => hmore.1 hnext rfl
  refine ⟨_, hside ▸ hreads.run_of_count_zero hzero hlimit, rfl, ?_, ⟨_, rfl, hdone⟩, ?_⟩
  · intro page hpage hnext
    rw [List.mem_singleton.1 hpage, hdone] at hnext
    cases hnext
  · rw [List.flatMap_singleton, hnodes, hnobody]

/-- Over a board with somebody on it a forward walk with pages of no entries is stuck at the first,
which says that more follow. -/
theorem Reads.run_stuck (hside : course.side = .first) (hzero : course.count = 0)
    (hsomebody : board.toList ≠ []) :
    ∃ page,
      (∀ limit, 0 < limit →
        Walk.run ⟨.first, size⟩ fetch limit none (states 0) = (.ok [page], states 1)) ∧
      page.edges = [] ∧ page.pageInfo.hasNextPage ∧ page.pageInfo.endCursor = none := by
  obtain ⟨hnodes, hmore⟩ := paginate_of_count_zero (hreads.sorted 0) hzero none
  rw [rest_none, hside] at hmore
  -- The page is the same whatever the limit is, since it is never reached.
  refine ⟨paginate board (course.request none),
    fun limit hlimit => hside ▸ hreads.run_of_count_zero hzero hlimit, ?_, hmore.2 hsomebody, ?_⟩
  · exact List.map_eq_nil_iff.1 hnodes
  · rw [endCursor_paginate, hnodes]
    rfl

end Stays

/-! ## The default size -/

/-- The walk over a board that a service makes of which no size is asked. -/
def ofLimits (order : Direction) (limits : Limits) : Course :=
  ⟨.first, order, limits.defaultSize⟩

variable {order : Direction} {limits : Limits}

/-- A walk that names no size asks for pages of the default size, whatever that is. -/
theorem validate_unsized (place : Option Standing) :
    (Walk.arguments ⟨.first, none⟩ (place.map Cursor.encode)).validate order limits =
      .ok ((ofLimits order limits).request place) :=
  (ofLimits order limits).validate_of_size (place_map_encode place) rfl

end Course

/-- A walk over ledgers that stay reads one board, also if it names no size. -/
theorem Engine.reads_inMemory_unsized (limits : Limits) {clock : Clock} {filter : Filter}
    {window : Window} {service : LedgerService}
    (hwindow : clock.window? filter.period = some window) (hup : service.outage = none) :
    (Course.ofLimits filter.order limits).Reads none
      ((Engine.inMemory clock limits).ranking filter)
      (fun _ => service.ledger.board filter window)
      (fun i => { service with reads := service.reads + i }) where
  sorted _ := service.ledger.pairwise_before_board filter window
  answers _ _ := Engine.ranking_inMemory hwindow (Course.validate_unsized _) hup

namespace RankingSettings

/-- The default size of accepted settings is zero exactly if the environment says so. -/
theorem defaultSize_eq_zero_iff {places : String → Option Zone} {env : Environment}
    {settings : RankingSettings} (hread : readWith places env = .ok settings) :
    settings.limits.defaultSize = 0 ↔
      ∃ text, env.given Variable.defaultSize.name = some text ∧
        Variable.readSize text = some 0 := by
  -- Accepted settings are what the environment asks for.
  have hsize : settings.limits.defaultSize = defaultSizeIn env := by
    rcases readWith_outcome places env with ⟨hok, -⟩ | ⟨check, e, herror, -⟩
    · rw [hok] at hread
      cases hread
      rfl
    · rw [herror] at hread
      cases hread
  rw [hsize, defaultSizeIn, ← Option.bind_eq_some_iff]
  cases (env.given Variable.defaultSize.name).bind Variable.readSize <;> simp

end RankingSettings

/-! ## The walk under accepted settings -/

/-- Under settings that are accepted, a walk that names no size comes to its end, can go on from
each page that says that more follow, and shows the board, unless the default size is zero and
somebody is on the board: then it stops at its first page, which is empty, says that more follow,
and has no cursor. The default size is zero exactly if the environment says so. -/
theorem default_walk_covers_board {places : String → Option Zone} {env : Environment}
    {settings : RankingSettings} (hread : RankingSettings.readWith places env = .ok settings)
    {now : Instant} {filter : Filter} {window : Window} {service : LedgerService}
    (hwindow : Clock.window? ⟨now, settings.zone⟩ filter.period = some window)
    (hup : service.outage = none) :
    let board := (service.ledger.board filter window).toList
    let size := settings.limits.defaultSize
    let turns := pageCount board.length size.toNat
    let run (limit : Nat) := Walk.run ⟨.first, none⟩
      ((Engine.inMemory ⟨now, settings.zone⟩ settings.limits).ranking filter) limit none service
    (size = 0 ↔ ∃ text, env.given RankingSettings.Variable.defaultSize.name = some text ∧
        RankingSettings.Variable.readSize text = some 0) ∧
      (size ≠ 0 ∨ board = [] → ∀ limit, turns ≤ limit → ∃ pages,
        run limit = (.ok pages, { service with reads := service.reads + turns }) ∧
          pages.length = turns ∧ Walk.IsThrough pages board) ∧
      (size = 0 → board ≠ [] → ∃ page,
        (∀ limit, 0 < limit →
          run limit = (.ok [page], { service with reads := service.reads + 1 })) ∧
          page.edges = [] ∧ page.pageInfo.hasNextPage ∧ page.pageInfo.endCursor = none) := by
  intro board size turns run
  have hreads := Engine.reads_inMemory_unsized settings.limits hwindow hup
  have hlength : (service.ledger.board filter window).size = board.length :=
    Array.length_toList.symm
  refine ⟨RankingSettings.defaultSize_eq_zero_iff hread, fun hcase limit hlimit => ?_,
    fun hzero hsomebody => hreads.run_stuck rfl hzero hsomebody⟩
  by_cases hzero : size = 0
  · -- A size of zero, and nobody on the board.
    have hnobody : board = [] := hcase.resolve_left (not_not.2 hzero)
    have hone : turns = 1 := by simp [turns, pageCount, hnobody, hzero]
    obtain ⟨pages, hrun, hturns, hthrough⟩ :=
      hreads.run_through_of_nobody rfl hzero hnobody (by omega : 0 < limit)
    rw [← hone] at hturns
    exact ⟨pages, hturns ▸ hrun, hturns, hthrough⟩
  · -- With any other size the walk is through, whoever is on the board.
    have hpos : 0 < size.toNat := Nat.pos_of_ne_zero fun h => hzero (UInt64.toNat_inj.1 h)
    have hpages : pageCount (service.ledger.board filter window).size size.toNat = turns := by
      rw [hlength]
    obtain ⟨pages, hrun, hturns, hthrough⟩ := hreads.run_through rfl hpos (hpages ▸ hlimit)
    have hturns := hturns.trans hpages
    exact ⟨pages, hturns ▸ hrun, hturns, hthrough⟩

/-- Under settings with two entries a page, two pages show the three users of the sample day. -/
theorem default_walk_covers_board_sample :
    let env : Environment := fun name => [("RANKING_DEFAULT_PAGE_SIZE", "2")].lookup name
    ∃ settings pages, RankingSettings.readWith Zone.ofName? env = .ok settings ∧
      Walk.run ⟨.first, none⟩
        ((Engine.inMemory ⟨Sample.noon, settings.zone⟩ settings.limits).ranking Sample.filter) 100
        none ⟨Sample.ledger, none, 0⟩ = (.ok pages, ⟨Sample.ledger, none, 2⟩) ∧
      pages.length = 2 ∧ Walk.IsThrough pages [⟨⟨1⟩, 30⟩, ⟨⟨2⟩, 10⟩, ⟨⟨3⟩, 0⟩] := by
  intro env
  have hread : RankingSettings.readWith Zone.ofName? env = .ok { limits := { defaultSize := 2 } } :=
    rfl
  have hup : LedgerService.outage ⟨Sample.ledger, none, 0⟩ = none := rfl
  obtain ⟨-, hwalk, -⟩ := default_walk_covers_board hread Sample.window?_clock hup
  simp only [Sample.board_eq] at hwalk
  obtain ⟨pages, hrun, hlength, hthrough⟩ := hwalk (.inl (by decide)) 100 (by decide)
  exact ⟨_, pages, hread, hrun, hlength, hthrough⟩

/-- Settings with a default size of zero are accepted. A walk that names no size then shows nobody
of the sample day, though its only page says that more follow. -/
theorem default_walk_stuck_at_zero :
    let env : Environment := fun name => [("RANKING_DEFAULT_PAGE_SIZE", "0")].lookup name
    ∃ settings page, RankingSettings.readWith Zone.ofName? env = .ok settings ∧
      (∀ limit, 0 < limit →
        Walk.run ⟨.first, none⟩
          ((Engine.inMemory ⟨Sample.noon, settings.zone⟩ settings.limits).ranking Sample.filter)
          limit none ⟨Sample.ledger, none, 0⟩ = (.ok [page], ⟨Sample.ledger, none, 1⟩)) ∧
      page.pageInfo.hasNextPage ∧ page.pageInfo.endCursor = none ∧
      page.nodes ≠ (Sample.ledger.board Sample.filter Sample.window).toList := by
  intro env
  have hread : RankingSettings.readWith Zone.ofName? env = .ok { limits := { defaultSize := 0 } } :=
    rfl
  have hsomebody : (Sample.ledger.board Sample.filter Sample.window).toList ≠ [] := by
    rw [Sample.board_eq]
    exact List.cons_ne_nil _ _
  have hup : LedgerService.outage ⟨Sample.ledger, none, 0⟩ = none := rfl
  have hreads := Engine.reads_inMemory_unsized { defaultSize := 0 } Sample.window?_clock hup
  obtain ⟨page, hrun, hedges, hmore, hend⟩ := hreads.run_stuck rfl rfl hsomebody
  refine ⟨_, page, hread, hrun, hmore, hend, ?_⟩
  rw [Connection.nodes, hedges]
  exact hsomebody.symm

end Standings
