import Standings.Proofs.Checks
import Standings.Proofs.Position
import Standings.Proofs.Walk.Page

/-!
# Turning back

Who has turned from a page to the next one can turn back: the page of the same size on the near side
of what is shown now is the page that was left, with its cursors and flags. The argument is one
about ranges. A page ends where bisection puts the cursor of its last entry, and the page before the
entry behind it ends there as well.

## Key results

- `Course.range_first_getElem` / `Course.range_last_getElem`: the pages on one side of an entry
- `Course.exists_return_first` / `Course.exists_return_last`: there and back, of pages
- `turning_back_returns`: both directions, from arguments to pages
-/

namespace Standings

open Page

namespace Page

/-- The page of a board that arguments ask for. -/
def Arguments.page (args : Arguments) (board : Board) (order : Direction) (limits : Limits) :
    Except ArgumentError Connection :=
  (args.validate order limits).map (paginate board)

/-! ## The ends of a range -/

namespace Range

variable {board : Board} {range : Range}

theorem startCursor_connection (hlt : range.start < range.stop) (hle : range.stop ≤ board.size) :
    (range.connection board).pageInfo.startCursor = some (Cursor.encode board[range.start]) := by
  have hhead : (board.extract range.start range.stop).toList.head? = some board[range.start] := by
    rw [List.head?_eq_getElem?, Array.getElem?_toList, Array.getElem?_extract, if_pos (by omega),
      Nat.add_zero, Array.getElem?_eq_getElem]
  simp only [connection, List.head?_map, hhead]
  rfl

theorem endCursor_connection (hlt : range.start < range.stop) (hle : range.stop ≤ board.size) :
    (range.connection board).pageInfo.endCursor = some (Cursor.encode board[range.stop - 1]) := by
  have hsize : (board.extract range.start range.stop).size = range.stop - range.start := by
    rw [Array.size_extract]
    omega
  -- The last index within the range is the last of the board ahead of its stop.
  have hindex : range.start + (range.stop - range.start - 1) = range.stop - 1 := by omega
  have hlast : (board.extract range.start range.stop).toList.getLast? =
      some board[range.stop - 1] := by
    rw [List.getLast?_eq_getElem?, Array.getElem?_toList, Array.length_toList, hsize,
      Array.getElem?_extract, if_pos (by omega), hindex, Array.getElem?_eq_getElem]
  simp only [connection, List.getLast?_map, hlast]
  rfl

theorem edges_connection_ne_nil (hlt : range.start < range.stop) (hle : range.stop ≤ board.size) :
    (range.connection board).edges ≠ [] := by
  intro hnil
  have hlen := congrArg List.length hnil
  simp only [connection, List.length_map, Array.length_toList, Array.size_extract,
    List.length_nil] at hlen
  omega

end Range

/-! ## Where pages lie -/

namespace Request

variable (request : Request) (board : Board)

/-- The first entries after a place end with the board at the latest. -/
theorem range_of_first (hside : request.size.side = .first) (hbefore : request.before = none) :
    request.range board = ⟨request.lower board,
      min board.size (request.lower board + request.size.count.toNat)⟩ := by
  have hle := request.lower_le_size board
  -- Without `before` the range is bounded by the board.
  simp only [range, between, Size.keep, upper, hside, hbefore, Nat.max_eq_left hle]

/-- The last entries before a place start with the board at the earliest. -/
theorem range_of_last (hside : request.size.side = .last) (hafter : request.after = none) :
    request.range board =
      ⟨request.upper board - request.size.count.toNat, request.upper board⟩ := by
  simp only [range, between, Size.keep, lower, hside, hafter, Nat.max_zero]

end Request

end Page

namespace Course

variable {board : Board} {order : Direction} {n m : UInt64} {place : Option Standing} {i : Nat}

/-- Asked for entries after an entry, bisection finds the index behind it. -/
theorem range_first_getElem (hs : board.toList.Pairwise (order.before · ·)) (hi : i < board.size) :
    ((⟨.first, order, n⟩ : Course).request (some board[i])).range board =
      ⟨i + 1, min board.size (i + 1 + n.toNat)⟩ := by
  -- The entry itself and all before it are not after it.
  have hcut := holdsUpTo_notAfter (pairwise_notAfter_of_before hs) board[i]
  have hlower : ((⟨.first, order, n⟩ : Course).request (some board[i])).lower board = i + 1 :=
    (Board.partitionPoint_eq_countP hcut).trans (countP_notAfter_getElem hs hi)
  rw [Request.range_of_first _ _ rfl rfl, hlower]
  rfl

/-- Asked for entries before an entry, bisection finds its index. -/
theorem range_last_getElem (hs : board.toList.Pairwise (order.before · ·)) (hi : i < board.size) :
    ((⟨.last, order, n⟩ : Course).request (some board[i])).range board = ⟨i - n.toNat, i⟩ := by
  -- All before the entry, without itself, stand before it.
  have hcut := holdsUpTo_before (pairwise_notAfter_of_before hs) board[i]
  have hupper : ((⟨.last, order, n⟩ : Course).request (some board[i])).upper board = i :=
    (Board.partitionPoint_eq_countP hcut).trans (countP_before_getElem hs hi)
  rw [Request.range_of_last _ _ rfl rfl, hupper]
  rfl

/-! ## There and back -/

/-- Forward from a full page and back. -/
theorem exists_return_first (hs : board.toList.Pairwise (order.before · ·))
    (hn : 0 < n.toNat) (hm : 0 < m.toNat) :
    let page := paginate board ((⟨.first, order, n⟩ : Course).request place)
    page.pageInfo.hasNextPage → ∃ key next,
      page.pageInfo.endCursor = some (Cursor.encode key) ∧
      let further := paginate board ((⟨.first, order, m⟩ : Course).request (some key))
      further.edges ≠ [] ∧ further.pageInfo.startCursor = some (Cursor.encode next) ∧
        paginate board ((⟨.last, order, n⟩ : Course).request (some next)) = page := by
  intro page hmore
  -- Where the page begins does not matter, so its lower bound is any index `k`.
  have hrange := ((⟨.first, order, n⟩ : Course).request place).range_of_first board rfl rfl
  generalize ((⟨.first, order, n⟩ : Course).request place).lower board = k at hrange
  have hcount : ((⟨.first, order, n⟩ : Course).request place).size.count = n := rfl
  simp only [page, paginate, hrange, hcount] at hmore ⊢
  have hlt : k + n.toNat < board.size := by
    simp only [Range.connection, decide_eq_true_eq] at hmore
    omega
  rw [Nat.min_eq_right (Nat.le_of_lt hlt)]
  -- The page ends with the entry ahead of index `k + n`, and the next one starts with that index.
  refine ⟨board[k + n.toNat - 1], board[k + n.toNat], ?_⟩
  rw [range_first_getElem hs (by omega), range_last_getElem hs hlt, Nat.add_sub_cancel,
    Nat.sub_add_cancel (by omega)]
  refine ⟨Range.endCursor_connection ?_ ?_, Range.edges_connection_ne_nil ?_ ?_,
    Range.startCursor_connection ?_ ?_, rfl⟩ <;> simp only <;> omega

/-- Backward from a full page and forward again. -/
theorem exists_return_last (hs : board.toList.Pairwise (order.before · ·))
    (hn : 0 < n.toNat) (hm : 0 < m.toNat) :
    let page := paginate board ((⟨.last, order, n⟩ : Course).request place)
    page.pageInfo.hasPreviousPage → ∃ key next,
      page.pageInfo.startCursor = some (Cursor.encode key) ∧
      let further := paginate board ((⟨.last, order, m⟩ : Course).request (some key))
      further.edges ≠ [] ∧ further.pageInfo.endCursor = some (Cursor.encode next) ∧
        paginate board ((⟨.first, order, n⟩ : Course).request (some next)) = page := by
  intro page hmore
  -- Where the page stops does not matter either, as long as it is on the board.
  have hrange := ((⟨.last, order, n⟩ : Course).request place).range_of_last board rfl rfl
  have hle := ((⟨.last, order, n⟩ : Course).request place).upper_le_size board
  generalize ((⟨.last, order, n⟩ : Course).request place).upper board = k at hrange hle
  have hcount : ((⟨.last, order, n⟩ : Course).request place).size.count = n := rfl
  simp only [page, paginate, hrange, hcount] at hmore ⊢
  have hlt : n.toNat < k := by
    simp only [Range.connection, decide_eq_true_eq] at hmore
    omega
  -- The page starts with index `k - n`, and the previous one ends with the entry ahead of it.
  refine ⟨board[k - n.toNat], board[k - n.toNat - 1], ?_⟩
  rw [range_last_getElem hs (by omega), range_first_getElem hs (by omega),
    Nat.sub_add_cancel (by omega), Nat.sub_add_cancel (by omega), Nat.min_eq_right hle]
  refine ⟨Range.startCursor_connection ?_ ?_, Range.edges_connection_ne_nil ?_ ?_,
    Range.endCursor_connection ?_ ?_, rfl⟩ <;> simp only <;> omega

/-- The page that a walk asks for with a cursor, whatever the spelling of the cursor. -/
theorem page_arguments {limits : Limits} {size : Int64} {cursor : Option String} (side : Side)
    (board : Board) (order : Direction)
    (hsize : 1 ≤ size.toInt ∧ size.toInt ≤ limits.maxSize.toNat) (hcursor : PointsAt cursor place) :
    (Walk.arguments ⟨side, some size⟩ cursor).page board order limits =
      .ok (paginate board ((⟨side, order, size.toUInt64⟩ : Course).request place)) := by
  -- Cursors with other spellings are read as the same place, so only the place counts.
  have hadmits : limits.Admits size := ⟨by omega, hsize.2⟩
  have hvalid := (⟨side, order, size.toUInt64⟩ : Course).validate_of_place
    (place_eq_ok_iff.2 hcursor) hadmits rfl
  rw [Arguments.page, hvalid]
  rfl

end Course

/-- The cursor of an entry points at it. -/
theorem Page.pointsAt_encode (key : Standing) : PointsAt (some (Cursor.encode key)) (some key) :=
  ⟨_, ⟨rfl, (Cursor.encode_letters key).1⟩, Cursor.decode?_encode key⟩

/-- On a strictly sorted board, let a page of any size be asked for, from its beginning or after any
cursor. If it says that more follow, then the page after it shows some of them, and from there the
last entries before what it shows, in the number that was asked for at first, are the page that was
left, as a whole. The same holds backward. -/
theorem turning_back_returns {board : Board} {order : Direction} {limits : Limits} {n m : Int64}
    {cursor : Option String} {start : Option Standing}
    (hs : board.toList.Pairwise (order.before · ·))
    (hn : 1 ≤ n.toInt ∧ n.toInt ≤ limits.maxSize.toNat)
    (hm : 1 ≤ m.toInt ∧ m.toInt ≤ limits.maxSize.toNat) (hcursor : PointsAt cursor start) :
    let ask (args : Arguments) := args.page board order limits
    (∃ page, ask { first := some n, after := cursor } = .ok page ∧
      (page.pageInfo.hasNextPage → ∃ further,
        ask { first := some m, after := page.pageInfo.endCursor } = .ok further ∧
        further.edges ≠ [] ∧
        ask { last := some n, before := further.pageInfo.startCursor } = .ok page)) ∧
    (∃ page, ask { last := some n, before := cursor } = .ok page ∧
      (page.pageInfo.hasPreviousPage → ∃ further,
        ask { last := some m, before := page.pageInfo.startCursor } = .ok further ∧
        further.edges ≠ [] ∧
        ask { first := some n, after := further.pageInfo.endCursor } = .ok page)) := by
  -- As counts the sizes are above zero, too.
  have hpos : ∀ {size : Int64}, 1 ≤ size.toInt → 0 < size.toUInt64.toNat := by
    intro size h
    have := toNat_toUInt64_of_nonneg (n := size) (by omega)
    omega
  intro ask
  refine ⟨⟨_, Course.page_arguments .first board order hn hcursor, fun hmore => ?_⟩,
    ⟨_, Course.page_arguments .last board order hn hcursor, fun hmore => ?_⟩⟩
  · obtain ⟨key, next, hend, hshows, hstart, hback⟩ :=
      Course.exists_return_first hs (hpos hn.1) (hpos hm.1) hmore
    refine ⟨_, ?_, hshows, ?_⟩
    · rw [hend]
      exact Course.page_arguments .first board order hm (pointsAt_encode key)
    · rw [hstart, ← hback]
      exact Course.page_arguments .last board order hn (pointsAt_encode next)
  · obtain ⟨key, next, hstart, hshows, hend, hback⟩ :=
      Course.exists_return_last hs (hpos hn.1) (hpos hm.1) hmore
    refine ⟨_, ?_, hshows, ?_⟩
    · rw [hstart]
      exact Course.page_arguments .last board order hm (pointsAt_encode key)
    · rw [hend, ← hback]
      exact Course.page_arguments .first board order hn (pointsAt_encode next)

/-- From the two entries after a place that nobody holds to the next one, and back. -/
theorem turning_back_returns_absent_cursor :
    let board : Board := #[⟨⟨1⟩, 90⟩, ⟨⟨2⟩, 80⟩, ⟨⟨3⟩, 80⟩, ⟨⟨4⟩, 70⟩, ⟨⟨6⟩, 60⟩]
    let ask (args : Arguments) := args.page board .descending {}
    ∃ page further, ask { first := some 2, after := some "cmFuazo4NTo1" } = .ok page ∧
      page.nodes = [⟨⟨2⟩, 80⟩, ⟨⟨3⟩, 80⟩] ∧
      ask { first := some 1, after := page.pageInfo.endCursor } = .ok further ∧
      ask { last := some 2, before := further.pageInfo.startCursor } = .ok page := by
  intro board ask
  have hs : board.toList.Pairwise (Direction.descending.before · ·) := by decide
  have hread : Cursor.decode? "cmFuazo4NTo1" = some ⟨⟨5⟩, 85⟩ := by decide +kernel
  have hcursor : PointsAt (some "cmFuazo4NTo1") (some ⟨⟨5⟩, 85⟩) := ⟨_, ⟨rfl, by decide⟩, hread⟩
  have htwo : 1 ≤ (2 : Int64).toInt ∧ (2 : Int64).toInt ≤ ({} : Limits).maxSize.toNat := by decide
  have hone : 1 ≤ (1 : Int64).toInt ∧ (1 : Int64).toInt ≤ ({} : Limits).maxSize.toNat := by decide
  obtain ⟨⟨page, hpage, hback⟩, -⟩ := turning_back_returns hs htwo hone hcursor
  -- What is shown can be read off the board without bisection.
  have hshows := (⟨.first, .descending, 2⟩ : Course).shows_paginate (some ⟨⟨5⟩, 85⟩) hs
  obtain rfl := Except.ok.inj
    (hpage.symm.trans (Course.page_arguments .first board .descending htwo hcursor))
  obtain ⟨further, hfurther, -, hreturn⟩ := hback (hshows.further.2 (by decide))
  exact ⟨_, further, hpage, hshows.nodes.trans (by decide), hfurther, hreturn⟩

end Standings
