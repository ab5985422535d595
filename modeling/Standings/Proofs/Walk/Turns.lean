import Standings.Proofs.Walk.Page

/-!
# Walks turn by turn

`Walk.run` turns pages until its limit is used up or the board comes to its end. What it does is
said here by a relation with one case for each way a turn can go, which knows of boards and places
only: no cursor text, no page arguments and no state of a source. The boards may differ from one
reading to the next.

## Key results

- `Course.Reads.run_turns`: a run turns pages, and stops before the end only at its limit
- `Course.Turns.pairwise_shown`: no walk comes to an entry twice, whatever the boards are
-/

namespace Standings

open Page

/-! ## What pages show -/

namespace Page.Side

/-- What the pages of a walk from a side show, in the order of the board. -/
def shown (side : Side) (pages : List Connection) : List Standing :=
  (side.along pages).flatMap Connection.nodes

/-- What the pages of a walk from a side show, in the order in which the walk meets it. -/
def met (side : Side) (pages : List Connection) : List Standing :=
  pages.flatMap fun page => side.along page.nodes

@[simp] theorem met_nil (side : Side) : side.met [] = [] := rfl

theorem met_cons (side : Side) (page : Connection) (pages : List Connection) :
    side.met (page :: pages) = side.along page.nodes ++ side.met pages :=
  List.flatMap_cons

theorem met_singleton (side : Side) (page : Connection) : side.met [page] = side.along page.nodes :=
  List.flatMap_singleton _ _

theorem along_shown (side : Side) (pages : List Connection) :
    side.along (side.shown pages) = side.met pages := by
  cases side with
  | first => rfl
  -- Backward both the pages and their entries are reversed.
  | last => simp only [shown, met, along, List.reverse_flatMap, List.reverse_reverse]; rfl

theorem mem_shown {side : Side} {pages : List Connection} {s : Standing} :
    s ∈ side.shown pages ↔ s ∈ side.met pages := by
  rw [← along_shown, mem_along]

end Page.Side

namespace Course

variable {course : Course} {place : Option Standing} {board : Board}

/-! ## Entries beyond a place -/

theorem mem_rest {s : Standing} :
    s ∈ course.rest place board ↔ s ∈ board.toList ∧ course.isBeyond place s := by
  rw [rest, List.mem_filter, Side.mem_along]

theorem pairwise_rest (place : Option Standing)
    (hs : board.toList.Pairwise (course.order.before · ·)) :
    (course.rest place board).Pairwise (course.side.meets course.order · ·) :=
  (Side.pairwise_along.2 hs).filter _

/-- Beyond an entry that stands beyond a place nothing is new. -/
theorem isBeyond_of_isBeyond {key s : Standing} (hkey : course.isBeyond place key)
    (hs : course.isBeyond (some key) s) : course.isBeyond place s := by
  cases place with
  | none => rfl
  | some start => exact Side.meets_trans hkey hs

section Key

variable {count : Nat} {front : List Standing} {key s : Standing}

/-- The last entry of a page stands beyond the place. -/
theorem isBeyond_key (hkey : (course.rest place board).take count = front ++ [key]) :
    course.isBeyond place key := by
  have hmem : key ∈ (course.rest place board).take count := by simp [hkey]
  exact (mem_rest.1 (List.mem_of_mem_take hmem)).2

/-- A walk comes to the last entry of a page after the others. -/
theorem eq_or_meets_key (hs : board.toList.Pairwise (course.order.before · ·))
    (hkey : (course.rest place board).take count = front ++ [key])
    (hshown : s ∈ (course.rest place board).take count) :
    s = key ∨ course.side.meets course.order s key := by
  -- A page is strictly sorted, and its last entry is the key.
  have hsorted := (pairwise_rest place hs).sublist (List.take_sublist count _)
  rw [hkey] at hsorted hshown
  have hfront := (List.pairwise_append.1 hsorted).2.2
  rcases List.mem_append.1 hshown with hmem | hmem
  · exact .inr (hfront s hmem key (List.mem_singleton_self key))
  · exact .inl (List.mem_singleton.1 hmem)

/-- What a page leaves stands beyond its last entry. -/
theorem isBeyond_key_of_mem_drop (hs : board.toList.Pairwise (course.order.before · ·))
    (hkey : (course.rest place board).take count = front ++ [key])
    (hleft : s ∈ (course.rest place board).drop count) : course.isBeyond (some key) s := by
  have hsorted := pairwise_rest place hs
  -- The page and what it leaves are two parts of one sorted list.
  rw [← List.take_append_drop count (course.rest place board)] at hsorted
  exact (List.pairwise_append.1 hsorted).2.2 key (by simp [hkey]) s hleft

end Key

/-! ## The relation -/

/-- The pages that a walk turns from the `i`-th board on, beyond a place, and whether it comes to
its end with them. -/
inductive Turns (course : Course) (boards : Nat → Board) :
    Nat → Option Standing → List Connection → Bool → Prop where
  /-- The walk is stopped. -/
  | stopped {i : Nat} {place : Option Standing} : Turns course boards i place [] false
  /-- The page shows all that is left. -/
  | ended {i : Nat} {place : Option Standing} {page : Connection}
      (hpage : course.Shows place (boards i) page)
      (hall : (course.rest place (boards i)).length ≤ course.count.toNat) :
      Turns course boards i place [page] true
  /-- The walk goes on beyond the last entry of the page. -/
  | turned {i : Nat} {place : Option Standing} {page : Connection} {pages : List Connection}
      {isEnd : Bool} {front : List Standing} {key : Standing}
      (hpage : course.Shows place (boards i) page)
      (hmore : course.count.toNat < (course.rest place (boards i)).length)
      (hkey : (course.rest place (boards i)).take course.count.toNat = front ++ [key])
      (hlater : Turns course boards (i + 1) (some key) pages isEnd) :
      Turns course boards i place (page :: pages) isEnd

/-- A source answers a walk from boards: in its `i`-th state from the `i`-th board, by which it
comes to its next state. -/
structure Reads {σ ε : Type} (course : Course) (size : Option Int64)
    (fetch : Arguments → σ → Except ε Connection × σ) (boards : Nat → Board) (states : Nat → σ) :
    Prop where
  /-- The boards are strictly sorted. -/
  sorted : ∀ i, (boards i).toList.Pairwise (course.order.before · ·)
  /-- The source answers with the page beyond the place. -/
  answers : ∀ i place,
    fetch (Walk.arguments ⟨course.side, size⟩ (place.map Cursor.encode)) (states i) =
      (.ok (paginate (boards i) (course.request place)), states (i + 1))

/-- A run turns pages from board to board. It is stopped before it comes to its end only if its
limit is used up. -/
theorem Reads.run_turns {σ ε : Type} {size : Option Int64}
    {fetch : Arguments → σ → Except ε Connection × σ} {boards : Nat → Board} {states : Nat → σ}
    (hreads : course.Reads size fetch boards states) (hpos : 0 < course.count.toNat)
    (limit i : Nat) (place : Option Standing) :
    ∃ pages isEnd,
      Walk.run ⟨course.side, size⟩ fetch limit (place.map Cursor.encode) (states i) =
        (.ok pages, states (i + pages.length)) ∧
      course.Turns boards i place pages isEnd ∧ (isEnd = false → pages.length = limit) := by
  -- Every reading is a turn; the limit counts down, and the board and place go on.
  induction limit generalizing i place with
  | zero => exact ⟨[], false, rfl, .stopped, fun _ => rfl⟩
  | succ limit ih =>
    have hshows := course.shows_paginate place (hreads.sorted i)
    by_cases hmore : course.count.toNat < (course.rest place (boards i)).length
    · -- The page is full, so it has a last entry to go on from.
      have hne : (course.rest place (boards i)).take course.count.toNat ≠ [] := by
        rw [← List.length_pos_iff, List.length_take]
        omega
      obtain ⟨front, key, hkey⟩ : ∃ front key,
          (course.rest place (boards i)).take course.count.toNat = front ++ [key] :=
        ⟨_, _, (List.dropLast_concat_getLast hne).symm⟩
      have hnext : Walk.next? ⟨course.side, size⟩ (paginate (boards i) (course.request place)) =
          some (Cursor.encode key) := by
        rw [course.next?_paginate, if_pos (hshows.further.2 hmore), hshows.nodes, hkey]
        simp
      obtain ⟨pages, isEnd, hrun, hturns, hend⟩ := ih (i + 1) (some key)
      rw [Option.map_some] at hrun
      refine ⟨_ :: pages, isEnd, ?_, .turned hshows hmore hkey hturns, fun h => by simp [hend h]⟩
      simp only [Walk.run, hreads.answers, hnext, hrun, List.length_cons]
      rw [Nat.add_right_comm, Nat.add_assoc]
    · -- The page shows all that is left, so the walk has no cursor to go on with.
      have hlast : Walk.next? ⟨course.side, size⟩ (paginate (boards i) (course.request place)) =
          none := by
        rw [course.next?_paginate, if_neg (mt hshows.further.1 hmore)]
      refine ⟨[_], true, ?_, .ended hshows (Nat.le_of_not_lt hmore), nofun⟩
      simp only [Walk.run, hreads.answers, hlast, List.length_singleton]

/-! ## What is shown -/

section Shown

variable {boards : Nat → Board} {i : Nat} {pages : List Connection} {isEnd : Bool}

/-- Whatever a walk shows stands beyond the place from which it starts. -/
theorem Turns.isBeyond_of_mem (h : course.Turns boards i place pages isEnd) {s : Standing}
    (hs : s ∈ course.side.met pages) : course.isBeyond place s := by
  induction h with
  | stopped => simp at hs
  | ended hpage hall =>
    rw [Side.met_singleton, hpage.nodes] at hs
    exact (mem_rest.1 (List.mem_of_mem_take hs)).2
  -- The page itself is beyond the place, and later pages are beyond its last entry.
  | turned hpage hmore hkey hlater ih =>
    rw [Side.met_cons, List.mem_append, hpage.nodes] at hs
    rcases hs with hs | hs
    · exact (mem_rest.1 (List.mem_of_mem_take hs)).2
    · exact isBeyond_of_isBeyond (isBeyond_key hkey) (ih hs)

/-- A walk meets what it shows one after the other. -/
theorem Turns.pairwise_meets (hs : ∀ i, (boards i).toList.Pairwise (course.order.before · ·))
    (h : course.Turns boards i place pages isEnd) :
    (course.side.met pages).Pairwise (course.side.meets course.order · ·) := by
  induction h with
  | stopped => exact .nil
  | ended hpage hall =>
    rw [Side.met_singleton, hpage.nodes]
    exact (pairwise_rest _ (hs _)).sublist (List.take_sublist _ _)
  | turned hpage hmore hkey hlater ih =>
    rw [Side.met_cons, hpage.nodes, List.pairwise_append]
    refine ⟨(pairwise_rest _ (hs _)).sublist (List.take_sublist _ _), ih, ?_⟩
    intro s hshown t hlater'
    -- The last entry of the page stands between `s` and `t`.
    have ht : course.isBeyond (some _) t := hlater.isBeyond_of_mem hlater'
    rcases eq_or_meets_key (hs _) hkey hshown with rfl | hmeets
    · exact ht
    · exact Side.meets_trans hmeets ht

/-- No walk comes to an entry twice, whatever the boards are: what it shows is strictly sorted. -/
theorem Turns.pairwise_shown (hs : ∀ i, (boards i).toList.Pairwise (course.order.before · ·))
    (h : course.Turns boards i place pages isEnd) :
    (course.side.shown pages).Pairwise (course.order.before · ·) := by
  rw [← Side.pairwise_along, Side.along_shown]
  exact h.pairwise_meets hs

end Shown

end Course

end Standings
