import Standings.Proofs.Leaderboard
import Standings.Proofs.Walk.Turns

/-!
# Walks over a board that stays

While no grants are recorded a walk covers its board: each page begins where the one before has
ended, so the place of a page on the board follows from its number alone, and with it the entries
it shows and both its flags.

## Key results

- `Course.rest_key`: beyond the last entry of a page lies what the page leaves
- `Course.Turns.showsFrom`: which part of the board each page shows
- `walk_covers_board`: every walk over ledgers that stay covers the board and ends
-/

namespace Standings

open Page

/-- How many pages of a size hold so many entries: their quotient rounded up. Without entries there
is still one page, which is empty. -/
def Page.pageCount (entries size : Nat) : Nat :=
  max 1 ((entries + size - 1) / size)

theorem Page.pageCount_of_le {entries size : Nat} (hpos : 0 < size) (hle : entries ≤ size) :
    pageCount entries size = 1 := by
  -- The quotient is zero or one, and one page is the least there is.
  have hlt : (entries + size - 1) / size < 2 := Nat.div_lt_of_lt_mul (by omega)
  rw [pageCount]
  omega

theorem Page.pageCount_of_lt {entries size : Nat} (hpos : 0 < size) (hlt : size < entries) :
    pageCount entries size = pageCount (entries - size) size + 1 := by
  -- Taking a page away lowers the quotient by one.
  have hsum : entries + size - 1 = (entries - size + size - 1) + size := by omega
  have hone : 1 ≤ (entries - size + size - 1) / size := Nat.div_pos (by omega) hpos
  rw [pageCount, pageCount, hsum, Nat.add_div_right _ hpos]
  omega

/-- A later page is needed exactly if those before it do not hold all entries. -/
theorem Page.lt_pageCount_iff {entries size j : Nat} (hpos : 0 < size) (hj : 0 < j) :
    j < pageCount entries size ↔ j * size < entries := by
  have hdiv := Nat.le_div_iff_mul_le (x := j + 1) (y := entries + size - 1) hpos
  -- The quotient is above `j` exactly if `j + 1` pages fit into what is divided.
  rw [Nat.succ_mul] at hdiv
  rw [pageCount]
  omega

namespace Course

variable {course : Course} {place : Option Standing} {board : Board}

/-- Beyond the last entry of a page lies what the page leaves. -/
theorem rest_key {count : Nat} {front : List Standing} {key : Standing}
    (hs : board.toList.Pairwise (course.order.before · ·))
    (hkey : (course.rest place board).take count = front ++ [key]) :
    course.rest (some key) board = (course.rest place board).drop count := by
  -- Nothing beyond the key is lost by looking beyond the place first.
  have hwithin : course.rest (some key) board =
      (course.rest place board).filter (course.isBeyond (some key)) := by
    rw [rest, rest, List.filter_filter]
    apply List.filter_congr
    intro s _
    rw [Bool.eq_iff_iff, Bool.and_eq_true]
    exact ⟨fun h => ⟨h, isBeyond_of_isBeyond (isBeyond_key hkey) h⟩, And.left⟩
  -- What the page has shown is no longer beyond its last entry, and what it leaves still is.
  have hshown :
      ((course.rest place board).take count).filter (course.isBeyond (some key)) = [] := by
    rw [List.filter_eq_nil_iff]
    intro s hmem
    show ¬ course.side.meets course.order key s
    rcases eq_or_meets_key hs hkey hmem with rfl | hmeets
    · simp
    · simp [Side.meets_asymm hmeets]
  have hleft : ((course.rest place board).drop count).filter (course.isBeyond (some key)) =
      (course.rest place board).drop count := by
    rw [List.filter_eq_self]
    exact fun s hmem => isBeyond_key_of_mem_drop hs hkey hmem
  rw [hwithin]
  conv => lhs; rw [← List.take_append_drop count (course.rest place board)]
  rw [List.filter_append, hshown, hleft, List.nil_append]

/-- A page shows the entries of the board from the `k`-th on, in the direction of the walk. -/
structure ShowsFrom (course : Course) (board : Board) (k : Nat) (page : Connection) : Prop where
  nodes : course.side.along page.nodes =
    ((course.side.along board.toList).drop k).take course.count.toNat
  further : page.hasFurther course.side ↔ k + course.count.toNat < board.size
  earlier : page.hasEarlier course.side ↔ 0 < k
  total : page.totalCount = board.size

/-- A page shows the board from where the entries beyond its place begin. -/
theorem Shows.showsFrom {page : Connection} {k : Nat} (h : course.Shows place board page)
    (hk : k ≤ board.size)
    (hrest : course.rest place board = (course.side.along board.toList).drop k) :
    course.ShowsFrom board k page := by
  -- The flags compare lengths: of what is beyond the place, and of the board.
  have hlen : (course.rest place board).length = board.size - k := by simp [hrest]
  refine ⟨hrest ▸ h.nodes, h.further.trans ?_, h.earlier.trans ?_, h.total⟩
  · omega
  · omega

section Stays

variable {i : Nat} {pages : List Connection} {isEnd : Bool}

/-- While the board stays, each page begins where the one before has ended. -/
theorem Turns.showsFrom (hs : board.toList.Pairwise (course.order.before · ·))
    (h : course.Turns (fun _ => board) i place pages isEnd) {k : Nat} (hk : k ≤ board.size)
    (hrest : course.rest place board = (course.side.along board.toList).drop k) {j : Nat}
    {page : Connection} (hpage : pages[j]? = some page) :
    course.ShowsFrom board (k + j * course.count.toNat) page := by
  -- Induction on the turns; the claim is about all places, since each page has its own.
  induction h generalizing k j with
  | stopped => simp at hpage
  | ended hshows hall =>
    obtain ⟨rfl, rfl⟩ : j = 0 ∧ _ = page := by simpa [List.getElem?_singleton] using hpage
    simpa using hshows.showsFrom hk hrest
  | turned hshows hmore hkey hlater ih =>
    cases j with
    | zero =>
      obtain rfl : _ = page := by simpa using hpage
      simpa using hshows.showsFrom hk hrest
    | succ j =>
      -- The later pages begin at the end of this one.
      rw [hrest, List.length_drop, Side.length_along, Array.length_toList] at hmore
      have hrest' := rest_key hs hkey
      rw [hrest, List.drop_drop] at hrest'
      have hlater := ih (by omega) hrest' (by simpa using hpage)
      rwa [Nat.add_assoc, Nat.add_comm course.count.toNat, ← Nat.succ_mul] at hlater

/-- A walk that is stopped has not come to the end of its board. -/
theorem Turns.length_of_stopped (hs : board.toList.Pairwise (course.order.before · ·))
    (h : course.Turns (fun _ => board) i place pages false) (hne : pages ≠ []) :
    pages.length * course.count.toNat < (course.rest place board).length := by
  generalize hend : false = isEnd at h
  induction h with
  | stopped => exact absurd rfl hne
  | ended => cases hend
  | turned hshows hmore hkey hlater ih =>
    rename_i later _ _ _
    by_cases hnil : later = []
    · -- This is the last page that was turned, and more was left beyond it.
      simpa [hnil] using hmore
    · have hleft := ih hnil hend
      rw [rest_key hs hkey, List.length_drop] at hleft
      rw [List.length_cons, Nat.succ_mul]
      omega

/-- A walk that comes to its end has turned as many pages as the entries fill, but at least one. -/
theorem Turns.length_of_ended (hs : board.toList.Pairwise (course.order.before · ·))
    (h : course.Turns (fun _ => board) i place pages true) (hpos : 0 < course.count.toNat) :
    pages.length = pageCount (course.rest place board).length course.count.toNat := by
  generalize hend : true = isEnd at h
  induction h with
  | stopped => cases hend
  | ended hshows hall => rw [pageCount_of_le hpos hall, List.length_singleton]
  -- A turn takes a full page off what is beyond the place.
  | turned hshows hmore hkey hlater ih =>
    rw [pageCount_of_lt hpos hmore, List.length_cons, ih hend, rest_key hs hkey, List.length_drop]

/-- A walk that comes to its end has shown all that is beyond its place. -/
theorem Turns.met_eq_rest (hs : board.toList.Pairwise (course.order.before · ·))
    (h : course.Turns (fun _ => board) i place pages true) :
    course.side.met pages = course.rest place board := by
  generalize hend : true = isEnd at h
  induction h with
  | stopped => cases hend
  | ended hshows hall => rw [Side.met_singleton, hshows.nodes, List.take_of_length_le hall]
  -- What the page shows and what the later ones show make up what is beyond the place.
  | turned hshows hmore hkey hlater ih =>
    rw [Side.met_cons, hshows.nodes, ih hend, rest_key hs hkey, List.take_append_drop]

end Stays

/-- A walk over a board that stays comes to its end after as many readings as the board fills pages,
if its limit allows so many. -/
theorem Reads.run_covers {σ ε : Type} {size : Option Int64}
    {fetch : Arguments → σ → Except ε Connection × σ} {states : Nat → σ}
    (hreads : course.Reads size fetch (fun _ => board) states) (hpos : 0 < course.count.toNat)
    {limit : Nat} (hlimit : pageCount board.size course.count.toNat ≤ limit) :
    ∃ pages,
      Walk.run ⟨course.side, size⟩ fetch limit none (states 0) = (.ok pages, states pages.length) ∧
        pages.length = pageCount board.size course.count.toNat ∧
        course.side.shown pages = board.toList ∧
        ∀ j page, pages[j]? = some page → course.ShowsFrom board (j * course.count.toNat) page := by
  have hs := hreads.sorted 0
  have hone : 1 ≤ pageCount board.size course.count.toNat := Nat.le_max_left _ _
  have hrest : (course.rest none board).length = board.size := by simp
  obtain ⟨pages, isEnd, hrun, hturns, hstop⟩ := hreads.run_turns hpos limit 0 none
  rw [Nat.zero_add] at hrun
  -- The limit is not what ends the walk.
  have hend : isEnd = true := by
    by_contra hstopped
    rw [Bool.not_eq_true] at hstopped
    subst hstopped
    have hlength := hstop rfl
    have hlt := hturns.length_of_stopped hs (by rw [← List.length_pos_iff]; omega)
    rw [hrest, hlength, ← lt_pageCount_iff hpos (by omega)] at hlt
    omega
  subst hend
  refine ⟨pages, hrun, hrest ▸ hturns.length_of_ended hs hpos, ?_, fun j page hpage => ?_⟩
  · -- From the start all of the board is beyond the place; backward it is read in reverse.
    have hshown := hturns.met_eq_rest hs
    rw [← Side.along_shown, rest_none] at hshown
    rw [← Side.along_along course.side (course.side.shown pages), hshown, Side.along_along]
  · have hshows := hturns.showsFrom hs (Nat.zero_le _) (by simp) hpage
    rwa [Nat.zero_add] at hshows

end Course

/-- A walk over ledgers that stay reads one board. -/
theorem Engine.reads_inMemory {clock : Clock} {limits : Page.Limits} {filter : Filter}
    {window : Window} {service : LedgerService} {size : Int64} (side : Side) (hpos : 0 ≤ size)
    (hmax : size.toUInt64 ≤ limits.maxSize) (hwindow : clock.window? filter.period = some window)
    (hup : service.outage = none) :
    (⟨side, filter.order, size.toUInt64⟩ : Course).Reads (some size)
      ((Engine.inMemory clock limits).ranking filter)
      (fun _ => service.ledger.board filter window)
      (fun i => { service with reads := service.reads + i }) where
  sorted _ := service.ledger.pairwise_before_board filter window
  answers _ _ := Engine.ranking_inMemory hwindow (Course.validate_arguments _ _ hpos hmax rfl) hup

/-- Over ledgers that stay, a walk of either direction, with pages of any size that is allowed,
comes to its end after as many readings as the board fills pages, however many more it might make.
Every page but the last is full, the flags tell the first and the last page from the others, and the
pages make up the board, on which every user stands once. -/
theorem walk_covers_board {clock : Clock} {limits : Page.Limits} {filter : Filter}
    {window : Window} {service : LedgerService} (side : Side) {size : Int64} (hpos : 0 < size)
    (hmax : size.toUInt64 ≤ limits.maxSize) (hwindow : clock.window? filter.period = some window)
    (hup : service.outage = none) :
    let board := (service.ledger.board filter window).toList
    let turns := pageCount board.length size.toNatClampNeg
    (board.map Standing.user).Nodup ∧
      ∀ limit, turns ≤ limit → ∃ pages,
        Walk.run ⟨side, some size⟩ ((Engine.inMemory clock limits).ranking filter) limit none
            service = (.ok pages, { service with reads := service.reads + turns }) ∧
          pages.length = turns ∧
          side.shown pages = board ∧
          ∀ i (hi : i < pages.length),
            (i + 1 < turns → pages[i].edges.length = size.toNatClampNeg) ∧
              (pages[i].hasEarlier side ↔ 0 < i) ∧
              (pages[i].hasFurther side ↔ i + 1 < turns) ∧
              pages[i].totalCount = board.length := by
  intro board turns
  refine ⟨service.ledger.nodup_users_board filter window, fun limit hlimit => ?_⟩
  -- The size in the arguments, the count of a course and the natural number are the same.
  obtain ⟨hcount, hn⟩ := Course.toNat_toUInt64_of_pos hpos
  have hreads := Engine.reads_inMemory side (Int64.le_of_lt hpos) hmax hwindow hup
  have hsize : board.length = (service.ledger.board filter window).size := Array.length_toList
  have hturns :
      pageCount (service.ledger.board filter window).size size.toUInt64.toNat = turns := by
    rw [hcount, ← hsize]
  obtain ⟨pages, hrun, hlength, hshown, hpages⟩ :=
    hreads.run_covers (hcount ▸ hn) (hturns ▸ hlimit)
  rw [hturns] at hlength
  refine ⟨pages, hlength ▸ hrun, hlength, hshown, fun i hi => ?_⟩
  have hpage := hpages i _ (List.getElem?_eq_getElem hi)
  have hmore : i + 1 < turns ↔ i * size.toNatClampNeg + size.toNatClampNeg < board.length := by
    rw [lt_pageCount_iff hn (Nat.succ_pos i), Nat.succ_mul]
  -- The page shows what is left from index `i * n` on, so its length and flags are arithmetic.
  have hedges := congrArg List.length hpage.nodes
  have hearlier := hpage.earlier
  have hfurther := hpage.further
  simp only [hcount] at hedges hearlier hfurther
  rw [Side.length_along, Connection.nodes, List.length_map, List.length_take, List.length_drop,
    Side.length_along, Array.length_toList] at hedges
  refine ⟨fun hlt => ?_, hearlier.trans ?_, hfurther.trans ?_, hpage.total.trans hsize.symm⟩
  · rw [hmore, hsize] at hlt
    omega
  · exact Nat.mul_pos_iff_of_pos_right hn
  · rw [hmore, hsize]

/-- Backward over the three users of the sample day, two with every page. -/
theorem walk_covers_board_sample :
    ∃ pages, Walk.run ⟨.last, some 2⟩ ((Engine.inMemory Sample.clock {}).ranking Sample.filter) 100
        none ⟨Sample.ledger, none, 0⟩ = (.ok pages, ⟨Sample.ledger, none, 2⟩) ∧
      pages.length = 2 ∧
      Side.last.shown pages = [⟨⟨1⟩, 30⟩, ⟨⟨2⟩, 10⟩, ⟨⟨3⟩, 0⟩] := by
  have hmax : (2 : Int64).toUInt64 ≤ Limits.maxSize {} := by decide
  have hup : LedgerService.outage ⟨Sample.ledger, none, 0⟩ = none := rfl
  have ⟨_, hwalk⟩ := walk_covers_board .last (by decide) hmax Sample.window?_clock hup
  simp only [Sample.board_eq] at hwalk
  obtain ⟨pages, hrun, hlength, hshown, -⟩ := hwalk 100 (by decide)
  exact ⟨pages, hrun, hlength, hshown⟩

end Standings
