import Standings.Proofs.Cursor
import Standings.Proofs.Ranking
import Standings.Proofs.Selection
import Standings.Proofs.Tally
import Standings.Ranking

/-!
# Who is on the board

A ranking query over ledgers in memory first makes a board and then cuts a page out of it. The
board depends on the ledgers, the window and the filter alone: it lists the users with events that
count, with exact scores, strictly in the filter's order, and it is the only list that does. Every
accepted query is answered with a stretch of this board and with its length.

## Key results

- `Engine.ranking_inMemory`: what an accepted query answers
- `Ledger.isBoard_board` / `Ledger.IsBoard.eq`: the board exists and is unique
- `ranking_shows_board`: every answer is a stretch of the one board
-/

namespace Standings

/-- The engine over ledgers in memory. -/
def Engine.inMemory (clock : Clock) (limits : Page.Limits) : Engine LedgerService :=
  { source := LedgerService.read, clock, limits }

namespace Ledger

variable {ledger : Ledger} {filter : Filter} {window : Window}

/-- The board from which queries with a filter are answered. -/
def board (ledger : Ledger) (filter : Filter) (window : Window) : Board :=
  rank filter.order (ledger.tally filter.metric window).standings

/-- The list is strictly sorted in the filter's order, and holds exactly the users with events that
count, with exact scores. -/
structure IsBoard (ledger : Ledger) (filter : Filter) (window : Window) (board : List Standing) :
    Prop where
  increasing : board.Pairwise (filter.order.before · ·)
  mem_iff : ∀ s, s ∈ board ↔ ledger.Scores window filter.metric s

/-- There is at most one board. -/
theorem IsBoard.eq {l l' : List Standing} (h : ledger.IsBoard filter window l)
    (h' : ledger.IsBoard filter window l') : l = l' :=
  -- Both are sorted by the same strict order, and have the same members.
  eq_of_pairwise_before h.increasing h'.increasing fun s => (h.mem_iff s).trans (h'.mem_iff s).symm

theorem mem_board {s : Standing} : s ∈ (ledger.board filter window).toList ↔
    (ledger.tally filter.metric window)[s.user]? = some s.score := by
  rw [board, Array.mem_toList_iff, mem_rank, Tally.mem_standings]

/-- Every user stands on a board once. -/
theorem nodup_users_board (ledger : Ledger) (filter : Filter) (window : Window) :
    ((ledger.board filter window).toList.map Standing.user).Nodup := by
  -- Ranking reorders the tally, in which every user is once.
  have hperm := (rank_perm filter.order (ledger.tally filter.metric window).standings).map
    Standing.user
  exact hperm.nodup_iff.2 (Tally.nodup_standings _)

theorem pairwise_before_board (ledger : Ledger) (filter : Filter) (window : Window) :
    (ledger.board filter window).toList.Pairwise (filter.order.before · ·) :=
  pairwise_before_rank (Tally.nodup_standings _).of_map

/-- The board that queries are answered from is the board. -/
theorem isBoard_board (hgrants : ∀ user, (ledger.grantsTo window user).length ≤ 2 ^ 32)
    (hsubmissions : ledger.submissions.length < 2 ^ 63) :
    ledger.IsBoard filter window (ledger.board filter window).toList where
  increasing := pairwise_before_board ledger filter window
  mem_iff s := by
    -- Ranking neither adds nor drops anybody, so the members are those of the tally.
    rw [board, Array.mem_toList_iff, mem_rank, mem_standings_iff hgrants hsubmissions]

end Ledger

/-- An accepted query over ledgers in memory is answered with a page of the board, and costs one
reading. -/
theorem Engine.ranking_inMemory {clock : Clock} {limits : Page.Limits} {filter : Filter}
    {args : Page.Arguments} {request : Page.Request} {window : Window} {service : LedgerService}
    (hwindow : clock.window? filter.period = some window)
    (hvalid : args.validate filter.order limits = .ok request) (hup : service.outage = none) :
    (Engine.inMemory clock limits).ranking filter args service =
      (.ok (paginate (service.ledger.board filter window) request),
        { service with reads := service.reads + 1 }) := by
  -- Each of the four steps comes out well.
  simp only [ranking, inMemory, hvalid, hwindow, LedgerService.read, hup]
  rfl

/-- A page is a stretch of its board. -/
theorem nodes_paginate_infix (board : Board) (request : Page.Request) :
    (paginate board request).nodes <:+: board.toList := by
  rw [Page.nodes_paginate]
  -- What stands before the page, and what stands behind it.
  exact ⟨_, _, Page.take_append_extract_append_drop board request⟩

/-- The cursor of every entry of a page leads back to the entry. -/
theorem decode?_cursor_of_mem_edges {board : Board} {request : Page.Request} {edge : Edge}
    (hedge : edge ∈ (paginate board request).edges) :
    Cursor.decode? edge.cursor = some edge.node := by
  rw [Page.edges_paginate, List.mem_map] at hedge
  obtain ⟨s, -, rfl⟩ := hedge
  exact Cursor.decode?_encode s

/-! ## A sample day -/

namespace Sample

/-- Noon of the sample day in UTC. -/
def noon : Calendar.Instant := ⟨1700049600, 0, Calendar.Instant.zero_nano_lt, by decide⟩

/-- A host's clock at noon. -/
def clock : Clock := ⟨noon, .hostLocal⟩

/-- The sample day. -/
def window : Window :=
  ⟨⟨1700006400, 0, Calendar.Instant.zero_nano_lt, by decide⟩,
    ⟨1700092800, 0, Calendar.Instant.zero_nano_lt, by decide⟩⟩

/-- The points of the day, highest first. -/
def filter : Filter := ⟨.points, .descending, .daily⟩

/-- Grants to three users during the day, of which those to the third cancel out, and one to a
fourth user as the day ends. -/
def ledger : Ledger :=
  { grants := [⟨1, ⟨1⟩, 30, noon, "quiz"⟩, ⟨2, ⟨3⟩, 10, noon, "quiz"⟩, ⟨3, ⟨2⟩, 10, noon, "quiz"⟩,
      ⟨4, ⟨3⟩, -10, noon, "appeal"⟩, ⟨5, ⟨4⟩, 50, window.stop, "quiz"⟩] }

theorem window?_clock : clock.window? filter.period = some window := by decide +kernel

theorem board_eq :
    (ledger.board filter window).toList = [⟨⟨1⟩, 30⟩, ⟨⟨2⟩, 10⟩, ⟨⟨3⟩, 0⟩] := by
  -- The tally lists users in their own order, which here is that of the board already.
  have hstandings : (ledger.tally filter.metric window).standings =
      [⟨⟨1⟩, 30⟩, ⟨⟨2⟩, 10⟩, ⟨⟨3⟩, 0⟩] := by decide +kernel
  rw [Ledger.board, rank_toList, hstandings]
  exact List.mergeSort_of_pairwise (by decide)

end Sample

/-- For ledgers, a window and a filter there is one board, and every accepted query, whatever page
it asks for, is answered with a stretch of it, with its length, and with cursors that lead back to
the entries shown. Scores are exact as long as they fit 64 bits, which 2³² grants to a user do, and
so does the number of submissions of any list in memory. -/
theorem ranking_shows_board {ledger : Ledger} {clock : Clock} {filter : Filter} {window : Window}
    (hwindow : clock.window? filter.period = some window)
    (hgrants : ∀ user, (ledger.grantsTo window user).length ≤ 2 ^ 32)
    (hsubmissions : ledger.submissions.length < 2 ^ 63) :
    ∃ board : List Standing, ledger.IsBoard filter window board ∧
      (∀ other, ledger.IsBoard filter window other → other = board) ∧
      (board.map Standing.user).Nodup ∧
      ∀ (args : Page.Arguments) (limits : Page.Limits) (request : Page.Request) (reads : Nat),
        args.validate filter.order limits = .ok request →
        ∃ page, (Engine.inMemory clock limits).ranking filter args ⟨ledger, none, reads⟩ =
            (.ok page, ⟨ledger, none, reads + 1⟩) ∧
          page.nodes <:+: board ∧
          page.totalCount = board.length ∧
          ∀ edge ∈ page.edges, Cursor.decode? edge.cursor = some edge.node := by
  -- The board is there and unique; the rest is said of pages of it.
  have hboard : ledger.IsBoard filter window _ := Ledger.isBoard_board hgrants hsubmissions
  refine ⟨(ledger.board filter window).toList, hboard, fun other h => h.eq hboard,
    ledger.nodup_users_board filter window, ?_⟩
  intro args limits request reads hvalid
  -- No record is kept between queries, so one query is enough.
  refine ⟨_, Engine.ranking_inMemory hwindow hvalid rfl, nodes_paginate_infix _ _,
    Page.totalCount_paginate _ _, ?_⟩
  intro edge hedge
  exact decode?_cursor_of_mem_edges hedge

/-- On the sample day the user with a total of zero is on the board, and the one whose grant comes
at its end is not. -/
theorem ranking_shows_board_sample :
    ∃ page, (Engine.inMemory Sample.clock {}).ranking Sample.filter {} ⟨Sample.ledger, none, 0⟩ =
        (.ok page, ⟨Sample.ledger, none, 1⟩) ∧
      page.nodes <:+: [⟨⟨1⟩, 30⟩, ⟨⟨2⟩, 10⟩, ⟨⟨3⟩, 0⟩] ∧ page.totalCount = 3 := by
  -- Five grants are few, to whomever they go.
  have hgrants : ∀ user, (Sample.ledger.grantsTo Sample.window user).length ≤ 2 ^ 32 :=
    fun user => Nat.le_trans (List.length_filter_le _ _) (by decide)
  have hsubmissions : Sample.ledger.submissions.length < 2 ^ 63 := by decide
  have hvalid : Page.Arguments.validate {} Sample.filter.order {} =
      .ok ⟨.descending, ⟨.first, 50⟩, none, none⟩ := rfl
  obtain ⟨board, -, hunique, -, hanswers⟩ :=
    ranking_shows_board Sample.window?_clock hgrants hsubmissions
  -- The board of the theorem is the one that was computed.
  have hboard := hunique _ (Ledger.isBoard_board hgrants hsubmissions)
  rw [Sample.board_eq] at hboard
  obtain ⟨page, hrun, hnodes, htotal, -⟩ := hanswers {} {} _ 0 hvalid
  exact ⟨page, hrun, hboard ▸ hnodes, by rw [htotal, ← hboard]; rfl⟩

end Standings
