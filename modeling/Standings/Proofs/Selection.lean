import Standings.Proofs.Bounds
import Standings.Proofs.Partition
import Standings.Proofs.Validation

/-!
# Pages by selection

What a page shows can be said without bisection: of the entries of the board those that stand
strictly after one cursor and strictly before the other remain, and the first or the last of them
are kept. This file proves that `paginate` answers just this from every sorted board, also if the
board has entries twice or lacks the entries of the cursors.

## Key results

- `Request.remaining_eq_extract`: the entries between the cursors are a stretch of the board
- `Request.range_eq_select`: the page's stretch of the board is what is selected
- `Request.lower_le_upper`: an accepted request has its cursors in order on the board
- `paginate_eq_selection`: the page as a whole
-/

namespace Standings

namespace Page

/-! ## Selection -/

/-- The entry stands strictly after the cursor `after`, if there is one. -/
def Request.isAfter (request : Request) (entry : Standing) : Bool :=
  request.after.all (request.order.before · entry)

/-- The entry stands strictly before the cursor `before`, if there is one. -/
def Request.isBefore (request : Request) (entry : Standing) : Bool :=
  request.before.all (request.order.before entry ·)

/-- The entries that stand strictly between the cursors. -/
def Request.remaining (request : Request) (entries : List Standing) : List Standing :=
  (entries.filter request.isAfter).filter request.isBefore

/-- The first or the last entries of a list. -/
def Size.select (size : Size) (entries : List Standing) : List Standing :=
  match size.side with
  | .first => entries.take size.count.toNat
  | .last => entries.drop (entries.length - size.count.toNat)

/-! ## Bounds of a range -/

namespace Request

variable {request : Request} {board : Board}

theorem lower_le_size (request : Request) (board : Board) : request.lower board ≤ board.size :=
  request.lowerBy_le_size board.bisection

theorem upper_le_size (request : Request) (board : Board) : request.upper board ≤ board.size :=
  request.upperBy_le_size board.bisection

/-- A page is a stretch of its board, on any board and for any request. -/
theorem range_bounds (request : Request) (board : Board) :
    (request.range board).start ≤ (request.range board).stop ∧
      (request.range board).stop ≤ board.size :=
  request.rangeBy_bounds board.bisection

/-! ## Cursors on a sorted board -/

theorem not_isAfter_of_some {after : Standing} (h : request.after = some after) :
    (fun entry => !request.isAfter entry) = (request.order.notAfter · after) := by
  funext entry
  simp [isAfter, h, Direction.notAfter_eq_not_before]

theorem not_isAfter_of_none (h : request.after = none) :
    (fun entry => !request.isAfter entry) = fun _ => false := by
  funext entry
  simp [isAfter, h]

theorem isBefore_of_some {before : Standing} (h : request.before = some before) :
    request.isBefore = (request.order.before · before) := by
  funext entry
  simp [isBefore, h]

theorem isBefore_of_none (h : request.before = none) : request.isBefore = fun _ => true := by
  funext entry
  simp [isBefore, h]

/-- The entries not after the cursor `after` come first. -/
theorem holdsUpTo_not_isAfter (hs : board.toList.Pairwise (request.order.notAfter · ·)) :
    HoldsUpTo (fun entry => !request.isAfter entry) board.toList := by
  cases h : request.after with
  | none =>
    -- Without a cursor nothing is dropped.
    rw [not_isAfter_of_none h]
    exact hs.imp fun _ h => h
  | some after =>
    rw [not_isAfter_of_some h]
    exact holdsUpTo_notAfter hs after

/-- The entries before the cursor `before` come first. -/
theorem holdsUpTo_isBefore (hs : board.toList.Pairwise (request.order.notAfter · ·)) :
    HoldsUpTo request.isBefore board.toList := by
  cases h : request.before with
  | none =>
    rw [isBefore_of_none h]
    exact hs.imp fun _ h => h
  | some before =>
    rw [isBefore_of_some h]
    exact holdsUpTo_before hs before

/-- The lower bound counts the entries not after the cursor `after`. -/
theorem lower_eq_countP (hs : board.toList.Pairwise (request.order.notAfter · ·)) :
    request.lower board = board.toList.countP fun entry => !request.isAfter entry := by
  unfold lower
  split
  · next h =>
    rw [not_isAfter_of_some h]
    exact Board.partitionPoint_eq_countP (holdsUpTo_notAfter hs _)
  · next h =>
    rw [not_isAfter_of_none h]
    simp

/-- The upper bound counts the entries before the cursor `before`. -/
theorem upper_eq_countP (hs : board.toList.Pairwise (request.order.notAfter · ·)) :
    request.upper board = board.toList.countP request.isBefore := by
  unfold upper
  split
  · next h =>
    rw [isBefore_of_some h]
    exact Board.partitionPoint_eq_countP (holdsUpTo_before hs _)
  · next h =>
    rw [isBefore_of_none h]
    simp

/-- The entries between the cursors are a stretch of the board. -/
theorem remaining_eq_extract (hs : board.toList.Pairwise (request.order.notAfter · ·)) :
    request.remaining board.toList =
      board.toList.extract (request.lower board) (request.upper board) := by
  -- Each filter keeps what lies on one side of its cut: first all from the lower bound on, then of
  -- these all up to the upper one.
  have hcut := holdsUpTo_not_isAfter hs
  have hdrop : board.toList.filter request.isAfter = board.toList.drop (request.lower board) := by
    rw [lower_eq_countP hs, hcut.drop_countP]
    simp
  have hbefore := holdsUpTo_isBefore hs
  rw [remaining, hdrop, ← (hbefore.sublist (List.drop_sublist _ _)).take_countP,
    hbefore.countP_drop, ← upper_eq_countP hs, List.extract_eq_take_drop]

/-- What is selected is the page's stretch of the board. -/
theorem range_eq_select (hs : board.toList.Pairwise (request.order.notAfter · ·)) :
    board.toList.extract (request.range board).start (request.range board).stop =
      request.size.select (request.remaining board.toList) := by
  have hlower := request.lower_le_size board
  have hupper := request.upper_le_size board
  have hlen : board.toList.length = board.size := Array.length_toList
  rw [remaining_eq_extract hs]
  -- Both sides take and drop from the board; what remains is arithmetic on the two bounds.
  simp only [range, Size.keep, between, Size.select, List.extract_eq_take_drop]
  cases request.size.side with
  | first =>
    simp only [List.take_take]
    congr 1
    omega
  | last =>
    -- Dropping from the front of a stretch moves its start.
    simp only [List.drop_take, List.drop_drop, List.length_take, List.length_drop, hlen]
    congr 1
    · omega
    · congr 1
      omega

end Request

/-- On a sorted board an accepted request finds its cursors in order. -/
theorem Request.lower_le_upper {args : Arguments} {order : Direction} {limits : Limits}
    {request : Request} {board : Board} (hvalid : args.validate order limits = .ok request)
    (hs : board.toList.Pairwise (request.order.notAfter · ·)) :
    request.lower board ≤ request.upper board := by
  cases hafter : request.after with
  | none => simp [lower, hafter]
  | some after =>
    cases hbefore : request.before with
    | none => simpa [upper, hbefore] using request.lower_le_size board
    | some before =>
      have hroom := Arguments.before_of_validate hvalid hafter hbefore
      rw [lower_eq_countP hs, upper_eq_countP hs]
      -- What is not after `after` stands before `before`.
      apply List.countP_mono_left
      intro entry _ hentry
      rw [congrFun (not_isAfter_of_some hafter) entry] at hentry
      simpa [isBefore, hbefore] using Direction.before_of_notAfter_of_before hentry hroom

/-! ## The page as a whole -/

section Paginate

variable (board : Board) (request : Request)

/-- A page shows a stretch of its board, on any board and for any request. -/
theorem edges_paginate :
    (paginate board request).edges =
      (board.toList.extract (request.range board).start (request.range board).stop).map
        Edge.ofStanding := by
  simp [paginate, Range.connection]

theorem nodes_paginate :
    (paginate board request).nodes =
      board.toList.extract (request.range board).start (request.range board).stop :=
  (request.range board).nodes_connection board

/-- A page starts with the cursor of its first entry. -/
theorem startCursor_paginate :
    (paginate board request).pageInfo.startCursor =
      (paginate board request).nodes.head?.map Cursor.encode := by
  have hstart : (paginate board request).pageInfo.startCursor =
      (paginate board request).edges.head?.map Edge.cursor := rfl
  rw [hstart, nodes_paginate, edges_paginate, List.head?_map, Option.map_map]
  rfl

/-- A page ends with the cursor of its last entry. -/
theorem endCursor_paginate :
    (paginate board request).pageInfo.endCursor =
      (paginate board request).nodes.getLast?.map Cursor.encode := by
  have hend : (paginate board request).pageInfo.endCursor =
      (paginate board request).edges.getLast?.map Edge.cursor := rfl
  rw [hend, nodes_paginate, edges_paginate, List.getLast?_map, Option.map_map]
  rfl

theorem totalCount_paginate : (paginate board request).totalCount = board.toList.length :=
  Array.length_toList.symm

/-- The board is what lies ahead of a page, the page's stretch and what lies behind it. -/
theorem take_append_extract_append_drop :
    board.toList.take (request.range board).start ++
        board.toList.extract (request.range board).start (request.range board).stop ++
        board.toList.drop (request.range board).stop = board.toList := by
  have ⟨hle, _⟩ := request.range_bounds board
  -- What lies behind the page is what is left of the rest after the page.
  have hrest := List.take_append_drop ((request.range board).stop - (request.range board).start)
    (board.toList.drop (request.range board).start)
  rw [List.drop_drop, Nat.add_sub_cancel' hle] at hrest
  rw [List.extract_eq_take_drop, List.append_assoc, hrest, List.take_append_drop]

/-- The first flag says that something lies ahead of the page. -/
theorem hasPreviousPage_iff :
    (paginate board request).pageInfo.hasPreviousPage ↔
      board.toList.take (request.range board).start ≠ [] := by
  have ⟨hle, hsize⟩ := request.range_bounds board
  have hlen : board.toList.length = board.size := Array.length_toList
  rw [← List.length_pos_iff, List.length_take, hlen]
  simp only [paginate, Range.connection, decide_eq_true_eq]
  omega

/-- The second flag says that something lies behind the page. -/
theorem hasNextPage_iff :
    (paginate board request).pageInfo.hasNextPage ↔
      board.toList.drop (request.range board).stop ≠ [] := by
  have hlen : board.toList.length = board.size := Array.length_toList
  rw [← List.length_pos_iff, List.length_drop, hlen]
  simp only [paginate, Range.connection, decide_eq_true_eq]
  omega

end Paginate

/-- A page taken from the first side starts behind the cursor `after`. -/
theorem Request.take_start_of_first {request : Request} {board : Board}
    (hside : request.size.side = .first)
    (hs : board.toList.Pairwise (request.order.notAfter · ·)) :
    board.toList.take (request.range board).start =
      board.toList.filter fun entry => !request.isAfter entry := by
  have hstart : (request.range board).start = request.lower board := by
    simp [range, Size.keep, between, hside]
  rw [hstart, lower_eq_countP hs, (holdsUpTo_not_isAfter hs).take_countP]

/-- A page taken from the last side stops before the cursor `before`. -/
theorem Request.drop_stop_of_last {request : Request} {board : Board}
    (hside : request.size.side = .last) (hle : request.lower board ≤ request.upper board)
    (hs : board.toList.Pairwise (request.order.notAfter · ·)) :
    board.toList.drop (request.range board).stop =
      board.toList.filter fun entry => !request.isBefore entry := by
  have hstop : (request.range board).stop = request.upper board := by
    simp only [range, Size.keep, between, hside]
    omega
  rw [hstop, upper_eq_countP hs, (holdsUpTo_isBefore hs).drop_countP]

end Page

open Page

/-- From a sorted board an accepted request is answered with the first or the last of the entries
between its cursors. The board is what lies ahead of the page, the page and what lies behind it; the
flags say whether the outer parts are there. Where the page lies is fixed, also if it is empty, by
the cursor on the side from which it is taken. -/
theorem paginate_eq_selection {args : Arguments} {order : Direction} {limits : Limits}
    {request : Request} {board : Board} (hvalid : args.validate order limits = .ok request)
    (hs : board.toList.Pairwise (order.notAfter · ·)) :
    let page := paginate board request
    let shown := request.size.select (request.remaining board.toList)
    page.edges = shown.map Edge.ofStanding ∧
      page.pageInfo.startCursor = shown.head?.map Cursor.encode ∧
      page.pageInfo.endCursor = shown.getLast?.map Cursor.encode ∧
      page.totalCount = board.toList.length ∧
      (∃ ahead behind, board.toList = ahead ++ shown ++ behind ∧
        (page.pageInfo.hasPreviousPage ↔ ahead ≠ []) ∧
        (page.pageInfo.hasNextPage ↔ behind ≠ []) ∧
        match request.size.side with
        | .first => ahead = board.toList.filter fun entry => !request.isAfter entry
        | .last => behind = board.toList.filter fun entry => !request.isBefore entry) ∧
      request.lower board ≤ request.upper board := by
  -- The request has the direction of the board, so its bounds are counts on the board.
  obtain ⟨rfl, -⟩ := Arguments.validate_eq_ok_iff.1 hvalid
  have hle := Request.lower_le_upper hvalid hs
  have hedges := edges_paginate board request
  have hnodes := nodes_paginate board request
  have hboard := take_append_extract_append_drop board request
  rw [Request.range_eq_select hs] at hedges hnodes hboard
  refine ⟨hedges, ?_, ?_, totalCount_paginate board request, ⟨_, _, hboard.symm,
    hasPreviousPage_iff board request, hasNextPage_iff board request, ?_⟩, hle⟩
  · rw [startCursor_paginate, hnodes]
  · rw [endCursor_paginate, hnodes]
  · cases hside : request.size.side with
    | first => exact Request.take_start_of_first hside hs
    | last => exact Request.drop_stop_of_last hside hle hs

/-- A page from the last side of a board that has an entry twice and lacks the entries of both
cursors: more lies on either side of it. -/
theorem paginate_eq_selection_absent_cursors :
    let board : Board := #[⟨⟨1⟩, 90⟩, ⟨⟨2⟩, 80⟩, ⟨⟨2⟩, 80⟩, ⟨⟨4⟩, 70⟩, ⟨⟨6⟩, 60⟩]
    let page := paginate board ⟨.descending, ⟨.last, 2⟩, some ⟨⟨5⟩, 85⟩, some ⟨⟨3⟩, 65⟩⟩
    page.edges = [Edge.ofStanding ⟨⟨2⟩, 80⟩, Edge.ofStanding ⟨⟨4⟩, 70⟩] ∧
      page.pageInfo.startCursor = some (Cursor.encode ⟨⟨2⟩, 80⟩) ∧
      page.totalCount = 5 ∧ page.pageInfo.hasNextPage := by
  have hvalid : Arguments.validate
      { last := some 2, after := some "cmFuazo4NTo1", before := some "cmFuazo2NToz" }
      .descending {} =
      .ok ⟨.descending, ⟨.last, 2⟩, some ⟨⟨5⟩, 85⟩, some ⟨⟨3⟩, 65⟩⟩ := by
    rw [Arguments.validate_eq_ok_iff]
    exact ⟨rfl, rfl, place_of_decode? (by decide +kernel), place_of_decode? (by decide +kernel),
      by decide⟩
  intro board page
  have hs : board.toList.Pairwise (Direction.descending.notAfter · ·) := by decide
  obtain ⟨hedges, hstart, -, htotal, ⟨ahead, behind, -, -, hnext, hbehind⟩, -⟩ :=
    paginate_eq_selection hvalid hs
  -- Behind the cursor `before`, 65 of the user 3, the last entry of the board stands.
  refine ⟨hedges.trans (by decide), hstart.trans (by decide), htotal, hnext.2 ?_⟩
  rw [hbehind]
  decide

end Standings
