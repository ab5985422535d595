/-! # Cutting a text at a separator

A text, as a list of characters or of bytes, is cut in two at the first or at the last place where
a separator stands; the separator itself is dropped. Main statements:
`cutAtFirst? sep s = some (l, r)` holds exactly if `s` is `l`, the separator and `r`, with no
separator in `l`; for `cutAtLast?` there is none in `r`. -/

namespace Standings

namespace Text

variable {α : Type} [DecidableEq α]

/-- Cuts at the first separator; `none` if there is none. -/
def cutAtFirst? (sep : α) : List α → Option (List α × List α)
  | [] => none
  | c :: rest =>
    if c = sep then some ([], rest)
    else (cutAtFirst? sep rest).map fun (left, right) => (c :: left, right)

/-- Cuts at the last separator; `none` if there is none. -/
def cutAtLast? (sep : α) : List α → Option (List α × List α)
  | [] => none
  | c :: rest =>
    match cutAtLast? sep rest with
    | some (left, right) => some (c :: left, right)
    | none => if c = sep then some ([], rest) else none

/-- The pieces between separators, in order; a text without any is one piece. -/
def pieces (sep : α) : List α → List (List α)
  | [] => [[]]
  | c :: rest =>
    if c = sep then [] :: pieces sep rest
    else match pieces sep rest with
      -- There is always a piece, so this line only makes the match complete.
      | [] => [[c]]
      | piece :: more => (c :: piece) :: more

theorem cutAtFirst?_eq_none_iff {sep : α} {s : List α} :
    cutAtFirst? sep s = none ↔ sep ∉ s := by
  induction s with
  | nil => simp [cutAtFirst?]
  | cons c rest ih => grind [cutAtFirst?, Option.map_eq_none_iff]

theorem cutAtFirst?_eq_some_iff {sep : α} {s l r : List α} :
    cutAtFirst? sep s = some (l, r) ↔ s = l ++ sep :: r ∧ sep ∉ l := by
  induction s generalizing l with
  | nil => simp [cutAtFirst?]
  | cons c rest ih =>
    unfold cutAtFirst?
    by_cases h : c = sep
    · cases l <;> grind
    · cases l with
      | nil => simp [h]
      | cons d l => cases hr : cutAtFirst? sep rest <;> grind

theorem cutAtLast?_eq_none_iff {sep : α} {s : List α} :
    cutAtLast? sep s = none ↔ sep ∉ s := by
  induction s with
  | nil => simp [cutAtLast?]
  | cons c rest ih =>
    unfold cutAtLast?
    split
    · grind
    · by_cases h : c = sep <;> grind

theorem cutAtLast?_eq_some_iff {sep : α} {s l r : List α} :
    cutAtLast? sep s = some (l, r) ↔ s = l ++ sep :: r ∧ sep ∉ r := by
  induction s generalizing l with
  | nil => simp [cutAtLast?]
  | cons c rest ih =>
    unfold cutAtLast?
    split
    -- A separator in the rest: the cut is there, and the first character is kept.
    · rename_i left right h
      have hmem : sep ∈ rest := by
        apply Classical.byContradiction
        intro hnot
        simp [cutAtLast?_eq_none_iff.2 hnot] at h
      cases l <;> grind
    -- None in the rest: the cut is at the first character or nowhere.
    · rename_i h
      rw [cutAtLast?_eq_none_iff] at h
      cases l <;> grind

end Text

end Standings
