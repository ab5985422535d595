import Standings.Proofs.Checks
import Standings.Proofs.Cursor
import Standings.Proofs.Ranking
import Standings.Proofs.Selection
import Standings.Ranking.Walk

/-!
# The pages of a walk

A walk goes over a board in one of two directions. Whatever it asks for next stands beyond the
place it has come to. This file says so once for both directions: read in the direction of the
walk, a page shows the first of the entries beyond the place, and its flags compare their number
with the page's size and with the board.

## Key results

- `Course.validate_arguments`: what a walk asks for is accepted
- `Course.shows_paginate`: what the page beyond a place shows
- `Course.next?_paginate`: where the walk goes on
-/

namespace Standings

/-! ## Directions -/

namespace Page.Side

variable {α : Type} {side : Side} {order : Direction}

/-- A list in the direction of a walk that starts from this side. -/
def along (side : Side) (l : List α) : List α :=
  match side with
  | .first => l
  | .last => l.reverse

/-- A walk that starts from this side comes to `a` before it comes to `b`. -/
def meets (side : Side) (order : Direction) (a b : Standing) : Bool :=
  match side with
  | .first => order.before a b
  | .last => order.before b a

@[simp] theorem along_along (side : Side) (l : List α) : side.along (side.along l) = l := by
  cases side <;> simp [along]

@[simp] theorem length_along (side : Side) (l : List α) : (side.along l).length = l.length := by
  cases side <;> simp [along]

@[simp] theorem mem_along {a : α} {l : List α} : a ∈ side.along l ↔ a ∈ l := by
  cases side <;> simp [along]

theorem filter_along (side : Side) (p : α → Bool) (l : List α) :
    (side.along l).filter p = side.along (l.filter p) := by
  cases side <;> simp [along]

/-- The entries kept from one side are the first that a walk from this side comes to. -/
theorem along_select (count : UInt64) (l : List Standing) :
    side.along ((⟨side, count⟩ : Size).select l) = (side.along l).take count.toNat := by
  cases side with
  | first => rfl
  | last => exact List.take_reverse.symm

/-- A list is strictly sorted exactly if a walk meets its entries one after the other. -/
theorem pairwise_along {l : List Standing} :
    (side.along l).Pairwise (side.meets order · ·) ↔ l.Pairwise (order.before · ·) := by
  cases side
  · rfl
  · -- Read backwards, each entry stands before those that were ahead of it.
    exact List.pairwise_reverse

theorem meets_trans {a b c : Standing} (hab : side.meets order a b) (hbc : side.meets order b c) :
    side.meets order a c := by
  cases side
  · exact Direction.before_trans hab hbc
  · exact Direction.before_trans hbc hab

theorem meets_asymm {a b : Standing} (hab : side.meets order a b) :
    side.meets order b a = false := by
  cases side <;> exact Direction.before_asymm hab

@[simp] theorem meets_self (side : Side) (order : Direction) (a : Standing) :
    side.meets order a a = false := by
  cases side <;> exact order.before_self a

end Page.Side

namespace Connection

/-- More entries lie beyond the page for a walk that starts from `side`. -/
def hasFurther (page : Connection) : Page.Side → Bool
  | .first => page.pageInfo.hasNextPage
  | .last => page.pageInfo.hasPreviousPage

/-- A walk that starts from `side` has left entries behind when it comes to the page. -/
def hasEarlier (page : Connection) : Page.Side → Bool
  | .first => page.pageInfo.hasPreviousPage
  | .last => page.pageInfo.hasNextPage

end Connection

open Page

/-! ## Courses -/

/-- What a walk is on boards sorted in `order`: where it starts and how many entries it asks for
with every page. -/
structure Course where
  /-- The side from which the walk starts. -/
  side : Side
  /-- The direction of the boards. -/
  order : Direction
  /-- The size of a page. -/
  count : UInt64

namespace Course

variable (course : Course) {place : Option Standing} {board : Board}

/-- The question for the page beyond a place. -/
def request (place : Option Standing) : Request :=
  match course.side with
  | .first => ⟨course.order, ⟨.first, course.count⟩, place, none⟩
  | .last => ⟨course.order, ⟨.last, course.count⟩, none, place⟩

/-- The walk comes to an entry only after it has come to the place. -/
def isBeyond (place : Option Standing) (entry : Standing) : Bool :=
  place.all (course.side.meets course.order · entry)

/-- The entries of a board beyond a place, in the direction of the walk. -/
def rest (place : Option Standing) (board : Board) : List Standing :=
  (course.side.along board.toList).filter (course.isBeyond place)

@[simp] theorem rest_none (board : Board) :
    course.rest none board = course.side.along board.toList :=
  List.filter_eq_self.2 fun _ _ => rfl

/-- What a page beyond a place shows: the first of the entries there. -/
structure Shows (place : Option Standing) (board : Board) (page : Connection) : Prop where
  /-- The entries shown. -/
  nodes : course.side.along page.nodes = (course.rest place board).take course.count.toNat
  /-- More are there than are shown. -/
  further : page.hasFurther course.side ↔ course.count.toNat < (course.rest place board).length
  /-- Not all entries of the board lie beyond the place. -/
  earlier : page.hasEarlier course.side ↔ (course.rest place board).length < board.size
  /-- The length of the board. -/
  total : page.totalCount = board.size

variable {course} in
/-- A page that shows all that is beyond its place says that nothing is left. -/
theorem Shows.hasFurther_eq_false {page : Connection} (h : course.Shows place board page)
    (hall : (course.rest place board).length ≤ course.count.toNat) :
    page.hasFurther course.side = false := by
  rw [Bool.eq_false_iff, ne_eq, h.further]
  omega

/-- A size above zero is the same number as a count. -/
theorem toNat_toUInt64_of_pos {size : Int64} (hpos : 0 < size) :
    size.toUInt64.toNat = size.toNatClampNeg ∧ 0 < size.toNatClampNeg := by
  have hle := Int64.le_of_lt hpos
  -- Nothing is clamped above zero.
  have hcast := Int64.cast_toNatClampNeg size hle
  rw [Int64.lt_iff_toInt_lt, Int64.toInt_zero] at hpos
  exact ⟨Int64.toNat_toUInt64_of_le hle, by omega⟩

/-- What a walk asks for is accepted if its size is and its cursor can be read. -/
theorem validate_of_size {limits : Limits} {size : Option Int64} {cursor : Option String}
    (hplace : Page.place cursor = .ok place)
    (hsize : (Walk.arguments ⟨course.side, size⟩ cursor).size limits =
      .ok ⟨course.side, course.count⟩) :
    (Walk.arguments ⟨course.side, size⟩ cursor).validate course.order limits =
      .ok (course.request place) := by
  obtain ⟨side, order, count⟩ := course
  -- One cursor is absent, so there is always room between the two.
  rw [Arguments.validate_eq_ok_iff]
  cases side
  · exact ⟨rfl, hsize, hplace, rfl, by cases place <;> rfl⟩
  · exact ⟨rfl, hsize, rfl, hplace, by cases place <;> rfl⟩

/-- A walk may ask for any size within the limits. -/
theorem validate_of_place {limits : Limits} {size : Int64} {cursor : Option String}
    (hplace : Page.place cursor = .ok place) (hadmits : limits.Admits size)
    (hcount : course.count = size.toUInt64) :
    (Walk.arguments ⟨course.side, some size⟩ cursor).validate course.order limits =
      .ok (course.request place) := by
  apply course.validate_of_size hplace
  -- A walk gives one size, from its own side.
  have haccept := Limits.accept_of_admits course.side hadmits
  rw [← hcount] at haccept
  cases hside : course.side <;> rwa [hside] at haccept

/-- The cursors that a walk goes on from are those of standings, which can be read. -/
theorem place_map_encode (place : Option Standing) :
    Page.place (place.map Cursor.encode) = .ok place := by
  cases place with
  | none => rfl
  | some key => exact place_of_decode? (Cursor.decode?_encode key)

theorem validate_arguments {limits : Limits} {size : Int64} (place : Option Standing)
    (hpos : 0 ≤ size) (hmax : size.toUInt64 ≤ limits.maxSize)
    (hcount : course.count = size.toUInt64) :
    (Walk.arguments ⟨course.side, some size⟩ (place.map Cursor.encode)).validate course.order
      limits = .ok (course.request place) :=
  course.validate_of_place (place_map_encode place) (Limits.admits_iff.2 ⟨hpos, hmax⟩) hcount

@[simp] theorem order_request (place : Option Standing) :
    (course.request place).order = course.order := by
  unfold request
  split <;> rfl

@[simp] theorem size_request (place : Option Standing) :
    (course.request place).size = ⟨course.side, course.count⟩ := by
  unfold request
  split <;> simp_all

theorem isAfter_request (hside : course.side = .first) :
    (course.request place).isAfter = course.isBeyond place := by
  funext entry
  simp [request, hside, Request.isAfter, isBeyond, Side.meets]

theorem isBefore_request (hside : course.side = .last) :
    (course.request place).isBefore = course.isBeyond place := by
  funext entry
  simp [request, hside, Request.isBefore, isBeyond, Side.meets]

/-- Between the cursors of the question lies what is beyond the place. -/
theorem remaining_request (place : Option Standing) (entries : List Standing) :
    (course.request place).remaining entries = entries.filter (course.isBeyond place) := by
  rw [Request.remaining]
  -- The cursor on the other side is absent, so it keeps everything.
  cases hside : course.side with
  | first =>
    rw [course.isAfter_request hside, Request.isBefore_of_none (by simp [request, hside])]
    exact List.filter_eq_self.2 fun _ _ => rfl
  | last =>
    rw [course.isBefore_request hside]
    congr 1
    rw [List.filter_eq_self]
    intro entry _
    simp [request, hside, Request.isAfter]

/-- The entries that are not beyond a place and those that are make up the board. -/
theorem length_rest (place : Option Standing) (board : Board) :
    (board.toList.filter fun entry => !course.isBeyond place entry).length +
      (course.rest place board).length = board.size := by
  -- Reversal changes no count.
  have hsplit := board.toList.length_eq_countP_add_countP (course.isBeyond place)
  rw [List.countP_eq_length_filter, List.countP_eq_length_filter, Array.length_toList] at hsplit
  rw [rest, Side.filter_along, Side.length_along, hsplit, Nat.add_comm]
  simp

/-- What the page beyond a place shows, on a strictly sorted board. -/
theorem shows_paginate (place : Option Standing)
    (hs : board.toList.Pairwise (course.order.before · ·)) :
    course.Shows place board (paginate board (course.request place)) := by
  have hsorted : board.toList.Pairwise ((course.request place).order.notAfter · ·) := by
    rw [order_request]
    exact pairwise_notAfter_of_before hs
  have hnodes : course.side.along (paginate board (course.request place)).nodes =
      (course.rest place board).take course.count.toNat := by
    rw [nodes_paginate, Request.range_eq_select hsorted, remaining_request, size_request, rest,
      Side.along_select, Side.filter_along]
  -- The three parts of the board by their lengths, of which the cursor fixes one of the outer two.
  have hboard := congrArg List.length
    (take_append_extract_append_drop board (course.request place))
  have hsize : board.toList.length = board.size := Array.length_toList
  have hlen := course.length_rest place board
  have hshown := congrArg List.length hnodes
  have hprev := hasPreviousPage_iff board (course.request place)
  have hnext := hasNextPage_iff board (course.request place)
  rw [← nodes_paginate, List.length_append, List.length_append] at hboard
  rw [Side.length_along, List.length_take] at hshown
  rw [← List.length_pos_iff] at hprev hnext
  cases hside : course.side with
  | first =>
    -- From the first side the cursor fixes what lies ahead, and the rest is subtraction.
    have hahead := Request.take_start_of_first (by rw [size_request, hside]) hsorted
    rw [course.isAfter_request hside] at hahead
    rw [hahead] at hboard hprev
    refine ⟨hnodes, ?_, ?_, rfl⟩ <;> rw [hside]
    · exact hnext.trans (by omega)
    · exact hprev.trans (by omega)
  | last =>
    -- From the last side it fixes what lies behind.
    have hlower : (course.request place).lower board = 0 := by
      simp [request, hside, Request.lower]
    have hbehind := Request.drop_stop_of_last (by rw [size_request, hside]) (by omega) hsorted
    rw [course.isBefore_request hside] at hbehind
    rw [hbehind] at hboard hnext
    refine ⟨hnodes, ?_, ?_, rfl⟩ <;> rw [hside]
    · exact hprev.trans (by omega)
    · exact hnext.trans (by omega)

/-- The walk goes on beyond the last entry it has come to, as long as there are more. -/
theorem next?_paginate (size : Option Int64) (board : Board) (request : Request) :
    Walk.next? ⟨course.side, size⟩ (paginate board request) =
      if (paginate board request).hasFurther course.side then
        (course.side.along (paginate board request).nodes).getLast?.map Cursor.encode
      else none := by
  cases hside : course.side with
  | first =>
    rw [Walk.next?, endCursor_paginate]
    rfl
  | last =>
    -- Backward the last entry that a walk meets is the first of the page.
    rw [Walk.next?, startCursor_paginate, Side.along, List.getLast?_reverse]
    rfl

end Course

end Standings
