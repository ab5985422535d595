import Standings.Page.Connection

/-!
# Pages stay on their board

A page is cut out of a board between two indices. They are in order and on the board whatever the
request is, also one that validation refuses, and whatever the board is, also one in no order, so
that there is always something to cut out.

On a board in no order it is up to a search what it finds for a cursor. A `Board.Search` may find
any place on the board, or its end, and nothing here depends on which. The indices are also the same
if they are words, where a sum that does not fit is replaced by the greatest word and a difference
below zero by zero.

## Key results

- `Size.keep_bounds`, `Size.stop_sub_start_keep`: which part of a range is kept
- `Size.toRange_keepWords`: the indices are the same in words
- `Request.rangeBy_bounds`: the indices are in order and on the board
- `pages_stay_on_board`: every page is cut out of its board
-/

namespace Standings

/-! ## Words that stop at their bounds -/

namespace Word

/-- The sum of two words, or the greatest word where the sum does not fit. -/
def addUpTo (a b : UInt64) : UInt64 :=
  if a + b < a then .ofNat (UInt64.size - 1) else a + b

/-- The difference of two words, or zero where it is below. -/
def subDownTo (a b : UInt64) : UInt64 :=
  if a < b then 0 else a - b

theorem toNat_addUpTo (a b : UInt64) :
    (addUpTo a b).toNat = min (a.toNat + b.toNat) (UInt64.size - 1) := by
  have hword : UInt64.size = 2 ^ 64 := rfl
  have ha := a.toNat_lt
  have hb := b.toNat_lt
  have hsum := UInt64.toNat_add a b
  -- The sum is below its first part exactly if it has lost a carry.
  have hless : a + b < a ↔ 2 ^ 64 ≤ a.toNat + b.toNat := by
    rw [UInt64.lt_iff_toNat_lt, hsum]
    omega
  unfold addUpTo
  split
  · next h =>
    -- A carry was lost, so the sum is beyond the greatest word.
    have hlost := hless.1 h
    have hgreatest : (UInt64.ofNat (UInt64.size - 1)).toNat = UInt64.size - 1 := rfl
    omega
  · next h =>
    have hfits := mt hless.2 h
    omega

theorem toNat_subDownTo (a b : UInt64) : (subDownTo a b).toNat = a.toNat - b.toNat := by
  unfold subDownTo
  split
  · next h =>
    have hbelow := UInt64.lt_iff_toNat_lt.1 h
    have hzero : (0 : UInt64).toNat = 0 := rfl
    omega
  · next h => exact UInt64.toNat_sub_of_le _ _ (UInt64.not_lt.1 h)

theorem toNat_min (a b : UInt64) : (min a b).toNat = min a.toNat b.toNat := by
  simp only [Min.min, UInt64.le_iff_toNat_le]
  split <;> rfl

theorem toNat_max (a b : UInt64) : (max a b).toNat = max a.toNat b.toNat := by
  simp only [Max.max, UInt64.le_iff_toNat_le]
  split <;> rfl

end Word

/-! ## Searches -/

/-- A search for places on a board. For every question that is asked of the entries it finds a place
on the board, or its end; which one it finds where the answers are mixed is up to it. -/
structure Board.Search (board : Board) where
  /-- The index that is found. -/
  find : (Standing → Bool) → Nat
  /-- The index is that of an entry or of the end. -/
  find_le_size : ∀ p, find p ≤ board.size

/-- The search by which pages are found. -/
def Board.bisection (board : Board) : board.Search :=
  ⟨board.partitionPoint, board.partitionPoint_le_size⟩

/-- The entries of a board at the indices of a range. There are none to give if the ends of the
range are not in order or not on the board. -/
def Board.cut? (board : Board) (range : Page.Range) : Option (List Standing) :=
  if range.start ≤ range.stop ∧ range.stop ≤ board.size then
    some ((board.toList.take range.stop).drop range.start)
  else none

namespace Page

/-! ## Ranges -/

namespace Size

variable {range : Range}

/-- What is kept of a range is a range within it. -/
theorem keep_bounds (size : Size) (h : range.start ≤ range.stop) :
    range.start ≤ (size.keep range).start ∧
      (size.keep range).start ≤ (size.keep range).stop ∧
      (size.keep range).stop ≤ range.stop := by
  unfold keep
  cases size.side <;> simp only <;> omega

/-- As many entries are kept as there may be, if the range has so many. -/
theorem stop_sub_start_keep (size : Size) (h : range.start ≤ range.stop) :
    (size.keep range).stop - (size.keep range).start =
      min size.count.toNat (range.stop - range.start) := by
  unfold keep
  cases size.side <;> simp only <;> omega

end Size

/-- A range whose ends are words. -/
structure WordRange where
  /-- Index of the first entry. -/
  start : UInt64
  /-- Index behind the last entry. -/
  stop : UInt64
  deriving DecidableEq, Repr

/-- The numbers that the ends of a range stand for. -/
def WordRange.toRange (range : WordRange) : Range :=
  ⟨range.start.toNat, range.stop.toNat⟩

/-- The first or the last entries of a range, in words. -/
def Size.keepWords (size : Size) (range : WordRange) : WordRange :=
  match size.side with
  | .first => ⟨range.start, min range.stop (Word.addUpTo range.start size.count)⟩
  | .last => ⟨max (Word.subDownTo range.stop size.count) range.start, range.stop⟩

/-- No end of a range is beyond the greatest word, so a sum that stops there makes no difference. -/
theorem Size.toRange_keepWords (size : Size) (range : WordRange) :
    (size.keepWords range).toRange = size.keep range.toRange := by
  have hstop := range.stop.toNat_lt
  have hword : UInt64.size = 2 ^ 64 := rfl
  -- From the front the sum may stop at the greatest word, but the end of the range is no greater.
  unfold keepWords keep WordRange.toRange
  cases size.side with
  | first =>
    simp only [Word.toNat_min, Word.toNat_addUpTo, Range.mk.injEq, true_and]
    omega
  | last => simp only [Word.toNat_max, Word.toNat_subDownTo]

namespace Request

variable {board : Board} (request : Request) (search : board.Search)

/-- Index of the first entry behind the cursor `after`, as a search finds it. -/
def lowerBy : Nat :=
  match request.after with
  | some after => search.find (request.order.notAfter · after)
  | none => 0

/-- Index behind the last entry before the cursor `before`, as a search finds it. -/
def upperBy : Nat :=
  match request.before with
  | some before => search.find (request.order.before · before)
  | none => board.size

/-- The entries between the two cursors of a request, as a search finds them. -/
def betweenBy : Range :=
  ⟨request.lowerBy search, max (request.upperBy search) (request.lowerBy search)⟩

/-- The entries that answer a request, as a search finds them. -/
def rangeBy : Range :=
  request.size.keep (request.betweenBy search)

/-- The same in words. -/
def wordRangeBy : WordRange :=
  let lower := UInt64.ofNat (request.lowerBy search)
  request.size.keepWords ⟨lower, max (.ofNat (request.upperBy search)) lower⟩

/-- Pages are found by bisection. -/
theorem rangeBy_bisection (board : Board) :
    request.rangeBy board.bisection = request.range board := rfl

theorem lowerBy_le_size : request.lowerBy search ≤ board.size := by
  unfold lowerBy
  split
  · exact search.find_le_size _
  · exact Nat.zero_le _

theorem upperBy_le_size : request.upperBy search ≤ board.size := by
  unfold upperBy
  split
  · exact search.find_le_size _
  · exact Nat.le_refl _

theorem betweenBy_bounds :
    (request.betweenBy search).start ≤ (request.betweenBy search).stop ∧
      (request.betweenBy search).stop ≤ board.size :=
  ⟨Nat.le_max_right _ _,
    Nat.max_le.2 ⟨request.upperBy_le_size search, request.lowerBy_le_size search⟩⟩

/-- The indices of a page are in order and on the board, whatever is searched for and found. -/
theorem rangeBy_bounds :
    (request.rangeBy search).start ≤ (request.rangeBy search).stop ∧
      (request.rangeBy search).stop ≤ board.size := by
  obtain ⟨hbetween, hsize⟩ := request.betweenBy_bounds search
  obtain ⟨-, horder, hwithin⟩ := request.size.keep_bounds hbetween
  exact ⟨horder, Nat.le_trans hwithin hsize⟩

/-- A page is as long as the size allows and the cursors leave. -/
theorem stop_sub_start_rangeBy :
    (request.rangeBy search).stop - (request.rangeBy search).start =
      min request.size.count.toNat (request.upperBy search - request.lowerBy search) := by
  obtain ⟨hbetween, -⟩ := request.betweenBy_bounds search
  -- Where the cursors are the wrong way round the range is empty, as the difference is.
  have hleft : (request.betweenBy search).stop - (request.betweenBy search).start =
      request.upperBy search - request.lowerBy search := by
    simp only [betweenBy]
    omega
  rw [rangeBy, request.size.stop_sub_start_keep hbetween, hleft]

/-- On a board whose length is a word the indices may as well be words. -/
theorem toRange_wordRangeBy (hsize : board.size < UInt64.size) :
    (request.wordRangeBy search).toRange = request.rangeBy search := by
  have hlower := request.lowerBy_le_size search
  have hupper := request.upperBy_le_size search
  -- Both indices are at most the length of the board, so making words of them loses nothing.
  rw [wordRangeBy, Size.toRange_keepWords, rangeBy, betweenBy, WordRange.toRange, Word.toNat_max,
    UInt64.toNat_ofNat_of_lt' (Nat.lt_of_le_of_lt hlower hsize),
    UInt64.toNat_ofNat_of_lt' (Nat.lt_of_le_of_lt hupper hsize)]

end Request

end Page

/-! ## Pages -/

/-- The entries of a page. -/
def Connection.nodes (page : Connection) : List Standing :=
  page.edges.map Edge.node

namespace Page

/-- A page shows the entries at the indices of its range. -/
theorem Range.nodes_connection (range : Range) (board : Board) :
    (range.connection board).nodes = board.toList.extract range.start range.stop := by
  simp [Connection.nodes, Range.connection, Edge.ofStanding, Function.comp_def]

/-- What a range shows of a board is what is cut out there. -/
theorem cut?_eq_some_nodes {board : Board} {range : Range} (hle : range.start ≤ range.stop)
    (hsize : range.stop ≤ board.size) :
    board.cut? range = some (range.connection board).nodes := by
  rw [Board.cut?, if_pos ⟨hle, hsize⟩, range.nodes_connection, List.extract_eq_take_drop,
    List.drop_take]

/-- What is cut out of a board stands there in one piece. -/
theorem exists_append_of_cut? {board : Board} {range : Range} {entries : List Standing}
    (h : board.cut? range = some entries) :
    entries.length = range.stop - range.start ∧
      ∃ ahead behind, board.toList = ahead ++ entries ++ behind ∧ ahead.length = range.start := by
  unfold Board.cut? at h
  split at h
  · -- Taking and dropping shortens nothing further, since both ends are on the board.
    next hbounds =>
    obtain rfl := Option.some.inj h
    have hlen : board.toList.length = board.size := Array.length_toList
    refine ⟨?_, board.toList.take range.start, board.toList.drop range.stop, ?_, ?_⟩
    · rw [List.length_drop, List.length_take]
      omega
    · -- Up to where the entries stop, the board is what lies ahead of them and the entries.
      have hfront := List.take_append_drop range.start (board.toList.take range.stop)
      rw [List.take_take, Nat.min_eq_left hbounds.1] at hfront
      rw [hfront, List.take_append_drop]
    · rw [List.length_take]
      omega
  · cases h

end Page

open Page

/-- Whatever a board lists and a request asks for, and whatever a search finds for its cursors,
there are entries to cut out at the indices of the page. They stand on the board in one piece, and
they are as many as the size allows and the cursors leave. In words the indices are the same. The
pages of the service are those that bisection finds. -/
theorem pages_stay_on_board (board : Board) (request : Request) (search : board.Search) :
    let range := request.rangeBy search
    let page := range.connection board
    (range.start ≤ range.stop ∧ range.stop ≤ board.size) ∧
      board.cut? range = some page.nodes ∧
      (∃ ahead behind, board.toList = ahead ++ page.nodes ++ behind ∧
        ahead.length = range.start) ∧
      page.nodes.length =
        min request.size.count.toNat (request.upperBy search - request.lowerBy search) ∧
      (board.size < UInt64.size → (request.wordRangeBy search).toRange = range) ∧
      paginate board request = (request.rangeBy board.bisection).connection board := by
  intro range page
  -- All but the page of the service follows from the two bounds.
  obtain ⟨horder, hsize⟩ := request.rangeBy_bounds search
  have hcut := cut?_eq_some_nodes horder hsize
  obtain ⟨hlength, hblock⟩ := exists_append_of_cut? hcut
  exact ⟨⟨horder, hsize⟩, hcut, hblock, hlength.trans (request.stop_sub_start_rangeBy search),
    request.toRange_wordRangeBy search,
    congrArg (·.connection board) (request.rangeBy_bisection board).symm⟩

/-- On a board in no order, a page of the greatest size behind a cursor for which bisection finds
the second place: the sum of index and size does not fit a word. -/
theorem pages_stay_on_board_greatest_size :
    let board : Board := #[⟨⟨1⟩, 50⟩, ⟨⟨2⟩, 90⟩, ⟨⟨3⟩, 10⟩]
    let request : Request := ⟨.ascending, ⟨.first, 18446744073709551615⟩, some ⟨⟨9⟩, 60⟩, none⟩
    board.size < UInt64.size ∧ (request.wordRangeBy board.bisection).toRange = ⟨1, 3⟩ ∧
      (paginate board request).nodes = [⟨⟨2⟩, 90⟩, ⟨⟨3⟩, 10⟩] := by
  intro board request
  have hsize : board.size < UInt64.size := by decide
  have hrange : request.rangeBy board.bisection = ⟨1, 3⟩ := by decide +kernel
  obtain ⟨-, hcut, -, -, hwords, hpage⟩ := pages_stay_on_board board request board.bisection
  rw [hrange] at hcut
  refine ⟨hsize, (hwords hsize).trans hrange, ?_⟩
  rw [hpage, hrange]
  exact (Option.some.inj hcut).symm

end Standings
