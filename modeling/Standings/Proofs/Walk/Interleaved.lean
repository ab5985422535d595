import Standings.Proofs.Leaderboard
import Standings.Proofs.Walk.Turns

/-!
# Walks amid grants

Grants may be recorded between the readings of a walk. Then every page is cut out of another board,
and the entry whose cursor the walk goes on from may have moved or be gone. What a walk still
promises is that it shows no entry twice and in no other order than that of the boards, and that it
passes over nobody who keeps a score throughout.

## Key results

- `Course.Turns.mem_of_stays`: an entry on every board that is read is shown
- `Interlude.reads_fetch`: a source with interludes answers from the boards in between
- `walk_amid_grants`: what every walk amid grants shows
-/

namespace Standings

open Page

/-! ## Turns from changing boards -/

/-- The last page of a walk says that nothing is left. -/
def Page.Side.Ended (side : Side) (pages : List Connection) : Prop :=
  ∃ page, pages.getLast? = some page ∧ page.hasFurther side = false

namespace Course.Turns

variable {course : Course} {boards : Nat → Board} {i : Nat} {place : Option Standing}
  {pages : List Connection} {isEnd : Bool}

/-- A walk has come to its end exactly if its last page says that nothing is left. -/
theorem isEnd_iff_ended (h : course.Turns boards i place pages isEnd) :
    isEnd = true ↔ course.side.Ended pages := by
  induction h with
  | stopped => simp [Side.Ended]
  | ended hpage hall => exact iff_of_true rfl ⟨_, rfl, hpage.hasFurther_eq_false hall⟩
  | @turned i place page later isEnd front key hpage hmore hkey hlater ih =>
    rw [ih]
    -- A page that has later ones behind it is not the last.
    cases later with
    | nil => simp [Side.Ended, hpage.further.2 hmore]
    | cons next later => simp [Side.Ended, List.getLast?_cons_cons]

/-- A page that shows nothing says that nothing is left. -/
theorem nonempty_or_not_further (h : course.Turns boards i place pages isEnd)
    {page : Connection} (hpage : page ∈ pages) :
    page.edges ≠ [] ∨ page.hasFurther course.side = false := by
  induction h with
  | stopped => simp at hpage
  | ended hshows hall =>
    obtain rfl : page = _ := List.mem_singleton.1 hpage
    exact .inr (hshows.hasFurther_eq_false hall)
  | turned hshows hmore hkey hlater ih =>
    rcases List.mem_cons.1 hpage with rfl | hpage
    · -- The walk goes on from an entry of this page.
      left
      intro hnil
      have hnodes := hshows.nodes
      rw [hkey, Connection.nodes, hnil] at hnodes
      simpa using congrArg List.length hnodes
    · exact ih hpage

/-- Every page but the last shows something. -/
theorem length_le (h : course.Turns boards i place pages isEnd) :
    pages.length ≤ (course.side.met pages).length + 1 := by
  induction h with
  | stopped => simp
  | ended => simp
  | turned hpage hmore hkey hlater ih =>
    -- The page has the entry from which the walk goes on, at least.
    rw [Side.met_cons, hpage.nodes, hkey]
    simp only [List.length_append, List.length_cons, List.length_nil]
    omega

/-- Whatever is shown was on a board that was read. -/
theorem exists_mem_board (h : course.Turns boards i place pages isEnd) {s : Standing}
    (hs : s ∈ course.side.met pages) : ∃ j < pages.length, s ∈ (boards (i + j)).toList := by
  induction h with
  | stopped => simp at hs
  | ended hpage hall =>
    rw [Side.met_singleton, hpage.nodes] at hs
    exact ⟨0, by simp, (mem_rest.1 (List.mem_of_mem_take hs)).1⟩
  | turned hpage hmore hkey hlater ih =>
    rw [Side.met_cons, List.mem_append, hpage.nodes] at hs
    rcases hs with hs | hs
    · exact ⟨0, by simp, (mem_rest.1 (List.mem_of_mem_take hs)).1⟩
    · obtain ⟨j, hj, hmem⟩ := ih hs
      -- Later boards are counted from the next one on.
      refine ⟨j + 1, by simpa using hj, ?_⟩
      rwa [Nat.add_right_comm, Nat.add_assoc] at hmem

/-- An entry that is on every board that is read, beyond the place from which a walk starts, is
shown when the walk comes to its end. -/
theorem mem_of_stays (hs : ∀ i, (boards i).toList.Pairwise (course.order.before · ·))
    (h : course.Turns boards i place pages true) {s : Standing}
    (hbeyond : course.isBeyond place s)
    (hstays : ∀ j < pages.length, s ∈ (boards (i + j)).toList) :
    s ∈ course.side.met pages := by
  generalize hend : true = isEnd at h
  induction h with
  | stopped => cases hend
  | ended hpage hall =>
    rw [Side.met_singleton, hpage.nodes, List.take_of_length_le hall]
    exact mem_rest.2 ⟨hstays 0 (by simp), hbeyond⟩
  | turned hpage hmore hkey hlater ih =>
    -- The entry is on this board beyond the place, so it is shown now or left for later.
    have hmem := mem_rest.2 ⟨hstays 0 (by simp), hbeyond⟩
    rw [Nat.add_zero, ← List.take_append_drop course.count.toNat (course.rest _ _),
      List.mem_append] at hmem
    rw [Side.met_cons, List.mem_append, hpage.nodes]
    rcases hmem with hshown | hleft
    · exact .inl hshown
    · -- It is left for later, where it stands beyond the last entry shown.
      refine .inr (ih (isBeyond_key_of_mem_drop (hs _) hkey hleft) ?_ hend)
      intro j hj
      have hlater := hstays (j + 1) (by simpa using hj)
      rwa [Nat.add_comm j, ← Nat.add_assoc] at hlater

end Course.Turns

/-- The only entry of a user that a walk shows is the one that is on every board. -/
theorem Course.Turns.filter_shown {course : Course} {boards : Nat → Board}
    {pages : List Connection} (hs : ∀ i, (boards i).toList.Pairwise (course.order.before · ·))
    (husers : ∀ i, ((boards i).toList.map Standing.user).Nodup)
    (h : course.Turns boards 0 none pages true) {s : Standing}
    (hstays : ∀ j < pages.length, s ∈ (boards j).toList) :
    (course.side.shown pages).filter (·.user = s.user) = [s] := by
  -- Nothing is shown twice, so it is enough that `s` is shown and that nobody else passes for it.
  have hnodup := (nodup_of_pairwise_before (h.pairwise_shown hs)).filter (·.user = s.user)
  rw [← List.perm_singleton, List.perm_ext_iff_of_nodup hnodup (List.nodup_singleton s)]
  intro t
  rw [List.mem_filter, decide_eq_true_eq, List.mem_singleton, Side.mem_shown]
  constructor
  · rintro ⟨hshown, huser⟩
    -- On the board from which `t` was shown its user stands once.
    obtain ⟨j, hj, ht⟩ := h.exists_mem_board hshown
    rw [Nat.zero_add] at ht
    exact List.inj_on_of_nodup_map (husers j) ht (hstays j hj) huser
  · rintro rfl
    refine ⟨h.mem_of_stays hs rfl fun j hj => ?_, rfl⟩
    rw [Nat.zero_add]
    exact hstays j hj

/-! ## Interludes -/

/-- What happens between two readings of a walk: grants are recorded, and time goes on. -/
structure Interlude where
  /-- The grants recorded, earliest first. -/
  grants : List Grant
  /-- The time of the reading that follows. -/
  clock : Clock

namespace Interlude

variable (between : Nat → Interlude)

/-- The ledgers after the first interludes. -/
def ledgerAfter (ledger : Ledger) : Nat → Ledger
  | 0 => ledger
  | i + 1 => (between i).grants.foldl Ledger.append (ledgerAfter ledger i)

/-- Answers a ranking query after the next interlude; the number counts those that have been. -/
def fetch (limits : Limits) (filter : Filter) (args : Arguments) :
    Nat × LedgerService → Except RankingError Connection × (Nat × LedgerService)
  | (i, service) =>
    let service := (between i).grants.foldl LedgerService.append service
    let (answer, service) :=
      (Engine.inMemory (between i).clock limits).ranking filter args service
    (answer, (i + 1, service))

/-- The service after the first interludes, each of which was followed by a reading. -/
def serviceAfter (service : LedgerService) (i : Nat) : LedgerService :=
  { service with ledger := ledgerAfter between service.ledger i, reads := service.reads + i }

/-- Recording grants changes nothing but the ledgers. -/
theorem foldl_append (grants : List Grant) (service : LedgerService) :
    grants.foldl LedgerService.append service =
      { service with ledger := grants.foldl Ledger.append service.ledger } := by
  induction grants generalizing service with
  | nil => rfl
  | cons grant grants ih => rw [List.foldl_cons, ih]; rfl

/-- Who is granted nothing keeps a place on every board. -/
theorem mem_board_of_untouched {filter : Filter} {window : Window} {ledger : Ledger}
    {s : Standing} (huntouched : ∀ i, ∀ grant ∈ (between i).grants, grant.user ≠ s.user)
    (hmem : s ∈ (ledger.board filter window).toList) (i : Nat) :
    s ∈ ((ledgerAfter between ledger i).board filter window).toList := by
  rw [Ledger.mem_board] at hmem ⊢
  -- A grant to others leaves the entry of the tally as it is.
  induction i with
  | zero => exact hmem
  | succ i ih => rw [ledgerAfter, Ledger.getElem?_tally_foldl_append _ _ (huntouched i), ih]

/-- A walk amid grants reads one board after each interlude. -/
theorem reads_fetch {limits : Limits} {filter : Filter} {window : Window}
    {service : LedgerService} {size : Int64} (side : Side) (hpos : 0 ≤ size)
    (hmax : size.toUInt64 ≤ limits.maxSize)
    (hwindow : ∀ i, (between i).clock.window? filter.period = some window)
    (hup : service.outage = none) :
    (⟨side, filter.order, size.toUInt64⟩ : Course).Reads (some size) (fetch between limits filter)
      (fun i => (ledgerAfter between service.ledger (i + 1)).board filter window)
      (fun i => (i, serviceAfter between service i)) where
  sorted _ := Ledger.pairwise_before_board _ filter window
  answers i place := by
    -- Each reading sees the ledgers of its interlude and the same window.
    have hvalid :=
      Course.validate_arguments ⟨side, filter.order, size.toUInt64⟩ place hpos hmax rfl
    have hservice := foldl_append (between i).grants (serviceAfter between service i)
    have hranking : (Engine.inMemory (between i).clock limits).ranking filter _
        ((between i).grants.foldl LedgerService.append (serviceAfter between service i)) = _ :=
      Engine.ranking_inMemory (hwindow i) hvalid (by rw [hservice]; exact hup)
    rw [fetch, hranking, hservice]
    rfl

end Interlude

/-- Whatever grants are recorded between its readings, a walk of either direction shows entries in
no other order than that of the boards, and none twice. A page that shows nothing ends it, and so
does the end of the boards, at the latest when all standings there are have been shown. When it has
come to its end, whoever was on the board with the same score at each of its readings has been shown
with this score, and only once. -/
theorem walk_amid_grants {limits : Limits} {filter : Filter} {window : Window}
    {service : LedgerService} {size : Int64} (between : Nat → Interlude) (side : Side)
    (hpos : 0 < size) (hmax : size.toUInt64 ≤ limits.maxSize)
    (hwindow : ∀ i, (between i).clock.window? filter.period = some window)
    (hup : service.outage = none) (limit : Nat) :
    let boardAt i :=
      ((Interlude.ledgerAfter between service.ledger (i + 1)).board filter window).toList
    ∃ pages,
      Walk.run ⟨side, some size⟩ (Interlude.fetch between limits filter) limit none (0, service) =
          (.ok pages, pages.length, Interlude.serviceAfter between service pages.length) ∧
        (∀ page ∈ pages, page.edges ≠ [] ∨ page.hasFurther side = false) ∧
        (side.shown pages).Pairwise (filter.order.before · ·) ∧
        (pages.length < limit → side.Ended pages) ∧
        pages.length ≤ 2 ^ 128 + 1 ∧
        (side.Ended pages → ∀ s, (∀ i < pages.length, s ∈ boardAt i) →
          (side.shown pages).filter (·.user = s.user) = [s]) := by
  intro boardAt
  have hreads := Interlude.reads_fetch between side (Int64.le_of_lt hpos) hmax hwindow hup
  obtain ⟨hcount, hn⟩ := Course.toNat_toUInt64_of_pos hpos
  obtain ⟨pages, isEnd, hrun, hturns, hstop⟩ := hreads.run_turns (hcount ▸ hn) limit 0 none
  rw [Nat.zero_add] at hrun
  refine ⟨pages, hrun, fun page hpage => hturns.nonempty_or_not_further hpage,
    hturns.pairwise_shown hreads.sorted, ?_, ?_, ?_⟩
  · -- Short of its limit only the end of the boards can have stopped it.
    intro hlt
    rw [← hturns.isEnd_iff_ended]
    by_contra hstopped
    have := hstop (Bool.eq_false_iff.2 hstopped)
    omega
  · -- What is shown is strictly sorted, and there are only so many different standings.
    have hshown : (side.met pages).length ≤ 2 ^ 128 := by
      rw [← Side.along_shown, Side.length_along]
      exact Standing.length_le_of_nodup
        (nodup_of_pairwise_before (hturns.pairwise_shown hreads.sorted))
    exact Nat.le_trans hturns.length_le (Nat.succ_le_succ hshown)
  · -- A walk that has ended has passed every place, so it has met whoever stayed.
    intro hended s hstays
    obtain rfl := hturns.isEnd_iff_ended.2 hended
    exact hturns.filter_shown hreads.sorted (fun i => Ledger.nodup_users_board _ filter window)
      hstays

/-- A walk of the sample day, before each reading of which a fourth user is granted points, comes to
its end and shows the first user once. -/
theorem walk_amid_grants_sample :
    let between : Nat → Interlude := fun _ => ⟨[⟨6, ⟨4⟩, 20, Sample.noon, "quiz"⟩], Sample.clock⟩
    ∃ pages, (Walk.run ⟨.first, some 1⟩ (Interlude.fetch between {} Sample.filter) (2 ^ 128 + 2)
        none (0, ⟨Sample.ledger, none, 0⟩)).1 = .ok pages ∧
      Side.first.Ended pages ∧
      (Side.first.shown pages).filter (·.user = ⟨1⟩) = [⟨⟨1⟩, 30⟩] := by
  intro between
  have hmax : (1 : Int64).toUInt64 ≤ Limits.maxSize {} := by decide
  have hup : LedgerService.outage ⟨Sample.ledger, none, 0⟩ = none := rfl
  have hwindow : ∀ i, (between i).clock.window? Sample.filter.period = some Sample.window :=
    fun _ => Sample.window?_clock
  have huntouched : ∀ i, ∀ grant ∈ (between i).grants, grant.user ≠ ⟨1⟩ := by
    intro i grant hgrant
    obtain rfl := List.mem_singleton.1 hgrant
    decide
  have hmem : ⟨⟨1⟩, 30⟩ ∈ (Sample.ledger.board Sample.filter Sample.window).toList := by
    rw [Sample.board_eq]
    decide
  obtain ⟨pages, hrun, -, -, hlimit, hlength, hstays⟩ :=
    walk_amid_grants between .first (by decide) hmax hwindow hup (2 ^ 128 + 2)
  have hended := hlimit (Nat.lt_succ_of_le hlength)
  refine ⟨pages, congrArg Prod.fst hrun, hended, hstays hended ⟨⟨1⟩, 30⟩ fun i _ => ?_⟩
  exact Interlude.mem_board_of_untouched between huntouched hmem (i + 1)

end Standings
