import Standings.Proofs.Validation

/-!
# The checks of page arguments

Page arguments have to pass five checks, which `Check` lists in the order in which they are made.
`Check.Passes` says what each of them asks and `Check.Reports` what is reported if it is not so,
both without looking at how arguments are validated. This file proves that validation accepts just
the arguments that pass all checks, as the request that carries what they give, and refuses all
others for the first check that they do not pass.

## Key results

- `Limits.accept_eq_ok_iff` / `place_eq_ok_iff`: single arguments that are accepted
- `Arguments.validate_outcome`: arguments pass all checks or there is a first one they do not pass
- `arguments_checked_in_order`: what is accepted, as which request, and why the rest is refused
-/

namespace Standings.Page

/-! ## Sizes -/

/-- The size that is asked for from a side. -/
def Arguments.sizeFrom (args : Arguments) : Side → Option Int64
  | .first => args.first
  | .last => args.last

/-- The size lies between zero and the limit. -/
def Limits.Admits (limits : Limits) (n : Int64) : Prop :=
  0 ≤ n.toInt ∧ n.toInt ≤ limits.maxSize.toNat

theorem toNat_toUInt64_of_nonneg {n : Int64} (h : 0 ≤ n.toInt) :
    (n.toUInt64.toNat : Int) = n.toInt := by
  have hle : 0 ≤ n := by rwa [Int64.le_iff_toInt_le, Int64.toInt_zero]
  rw [Int64.toNat_toUInt64_of_le hle, Int64.cast_toNatClampNeg n hle]

/-- The limit may be compared with the size as a word once the sign is settled. -/
theorem Limits.admits_iff {limits : Limits} {n : Int64} :
    limits.Admits n ↔ 0 ≤ n ∧ n.toUInt64 ≤ limits.maxSize := by
  rw [Admits, Int64.le_iff_toInt_le, Int64.toInt_zero, UInt64.le_iff_toNat_le]
  apply and_congr_right
  intro hsign
  -- From here on the size has no sign, so as a word it is the same number.
  have hcount := toNat_toUInt64_of_nonneg hsign
  omega

theorem Limits.accept_of_admits {limits : Limits} {n : Int64} (side : Side)
    (h : limits.Admits n) : limits.accept side n = .ok ⟨side, n.toUInt64⟩ := by
  obtain ⟨hsign, hlimit⟩ := admits_iff.1 h
  rw [accept, if_neg (Int64.not_lt.2 hsign), if_pos hlimit]

/-- A size that is not allowed is refused for its sign or, if it has none, for the limit. -/
theorem Limits.accept_of_not_admits {limits : Limits} {n : Int64} (side : Side)
    (h : ¬limits.Admits n) :
    limits.accept side n =
      .error (if n.toInt < 0 then .negative side else .tooLarge side limits.maxSize) := by
  have hneg : n < 0 ↔ n.toInt < 0 := by rw [Int64.lt_iff_toInt_lt, Int64.toInt_zero]
  -- The sign is looked at first, so a negative size is never reported as too large.
  by_cases hsign : n.toInt < 0
  · rw [accept, if_pos (hneg.2 hsign), if_pos hsign]
  · have hlimit : ¬n.toUInt64 ≤ limits.maxSize := fun hle =>
      h (admits_iff.2 ⟨Int64.not_lt.1 (mt hneg.1 hsign), hle⟩)
    rw [accept, if_neg (mt hneg.1 hsign), if_neg hlimit, if_neg hsign]

theorem Limits.accept_eq_ok_iff {limits : Limits} {side : Side} {n : Int64} {size : Size} :
    limits.accept side n = .ok size ↔ limits.Admits n ∧ size = ⟨side, n.toUInt64⟩ := by
  by_cases h : limits.Admits n
  · simp [accept_of_admits side h, h, eq_comm]
  · simp [accept_of_not_admits side h, h]

/-! ## Cursors -/

/-- The argument gives a text as cursor. An empty text counts as none. -/
def Gives (argument : Option String) (text : String) : Prop :=
  argument = some text ∧ text ≠ ""

/-- The argument points at a place, with a text that is read as it, or gives no text and points at
none. -/
def PointsAt (argument : Option String) : Option Standing → Prop
  | some key => ∃ text, Gives argument text ∧ Cursor.decode? text = some key
  | none => ∀ text, ¬Gives argument text

theorem place_of_gives_of_eq_none {argument : Option String} {text : String}
    (h : Gives argument text) (hread : Cursor.decode? text = none) :
    place argument = .error (.malformedCursor text) := by
  obtain ⟨rfl, hne⟩ := h
  simp only [place, if_neg hne, hread]

theorem Gives.unique {argument : Option String} {text text' : String} (h : Gives argument text)
    (h' : Gives argument text') : text = text' :=
  Option.some.inj (h.1.symm.trans h'.1)

theorem place_of_not_gives {argument : Option String} (h : ∀ text, ¬Gives argument text) :
    place argument = .ok none := by
  cases argument with
  | none => rfl
  | some text =>
    by_cases hempty : text = ""
    · rw [place, if_pos hempty]
    · -- Any other text would be given.
      exact absurd ⟨rfl, hempty⟩ (h text)

/-- A text that is given is read as the place that the argument points at. -/
theorem PointsAt.reads {argument : Option String} {key : Option Standing} {text : String}
    (h : PointsAt argument key) (htext : Gives argument text) :
    ∃ place, key = some place ∧ Cursor.decode? text = some place := by
  cases key with
  | none => exact absurd htext (h text)
  | some place =>
    obtain ⟨other, hother, hread⟩ := h
    -- An argument gives one text, so the text that is read is the one at hand.
    obtain rfl := hother.unique htext
    exact ⟨place, rfl, hread⟩

/-- A cursor argument is read as the place it points at. -/
theorem place_eq_ok_iff {argument : Option String} {key : Option Standing} :
    place argument = .ok key ↔ PointsAt argument key := by
  by_cases h : ∃ text, Gives argument text
  · obtain ⟨text, htext⟩ := h
    constructor
    · intro hok
      cases hread : Cursor.decode? text with
      | none =>
        rw [place_of_gives_of_eq_none htext hread] at hok
        cases hok
      | some place =>
        rw [htext.1, place_of_decode? hread] at hok
        obtain rfl := Except.ok.inj hok
        exact ⟨text, htext, hread⟩
    · intro hpoints
      obtain ⟨place, rfl, hread⟩ := hpoints.reads htext
      rw [htext.1, place_of_decode? hread]
  · have hnone : ∀ text, ¬Gives argument text := fun text htext => h ⟨text, htext⟩
    rw [place_of_not_gives hnone]
    -- Where no text is given the argument points at none, and at nothing else.
    cases key <;> simp [PointsAt, hnone]

/-- A cursor argument is refused with its text if this is no cursor. -/
theorem place_eq_error_iff {argument : Option String} {e : ArgumentError} :
    place argument = .error e ↔
      ∃ text, Gives argument text ∧ Cursor.decode? text = none ∧ e = .malformedCursor text := by
  by_cases h : ∃ text, Gives argument text
  · obtain ⟨text, htext⟩ := h
    constructor
    · intro herror
      cases hread : Cursor.decode? text with
      | none =>
        rw [place_of_gives_of_eq_none htext hread] at herror
        exact ⟨text, htext, hread, (Except.error.inj herror).symm⟩
      | some key =>
        rw [htext.1, place_of_decode? hread] at herror
        cases herror
    · rintro ⟨other, hother, hread, rfl⟩
      exact place_of_gives_of_eq_none hother hread
  · have hnone : ∀ text, ¬Gives argument text := fun text htext => h ⟨text, htext⟩
    simp [place_of_not_gives hnone, hnone]

theorem PointsAt.exists_read {argument : Option String} {key : Option Standing}
    (h : PointsAt argument key) :
    ∀ text, Gives argument text → ∃ place, Cursor.decode? text = some place := by
  intro text htext
  obtain ⟨place, -, hread⟩ := h.reads htext
  exact ⟨place, hread⟩

theorem not_reads_of_eq_none {argument : Option String} {text : String}
    (htext : Gives argument text) (hread : Cursor.decode? text = none) :
    ¬∀ text, Gives argument text → ∃ key, Cursor.decode? text = some key := by
  intro h
  obtain ⟨key, hkey⟩ := h text htext
  rw [hread] at hkey
  cases hkey

theorem PointsAt.unique {argument : Option String} {key key' : Option Standing}
    (h : PointsAt argument key) (h' : PointsAt argument key') : key = key' := by
  -- Reading is a function, so both places are what it gives.
  rw [← place_eq_ok_iff] at h h'
  exact Except.ok.inj (h.symm.trans h')

/-! ## Checks -/

/-- The checks of page arguments, in the order in which they are made. -/
inductive Check where
  /-- At most one size is given. -/
  | oneSize
  /-- The size is allowed. -/
  | size
  /-- The text `after` is a cursor. -/
  | after
  /-- The text `before` is a cursor. -/
  | before
  /-- The place of `after` stands before that of `before`. -/
  | room
  deriving DecidableEq, Repr

namespace Check

/-- The checks that are made before this one. -/
def earlier : Check → List Check
  | .oneSize => []
  | .size => [.oneSize]
  | .after => [.oneSize, .size]
  | .before => [.oneSize, .size, .after]
  | .room => [.oneSize, .size, .after, .before]

/-- What a check asks of page arguments. -/
def Passes (args : Arguments) (order : Direction) (limits : Limits) : Check → Prop
  | .oneSize => args.first = none ∨ args.last = none
  | .size => ∀ side n, args.sizeFrom side = some n → limits.Admits n
  | .after => ∀ text, Gives args.after text → ∃ key, Cursor.decode? text = some key
  | .before => ∀ text, Gives args.before text → ∃ key, Cursor.decode? text = some key
  | .room => ∀ after before, PointsAt args.after (some after) →
      PointsAt args.before (some before) → order.compare after before = .lt

/-- What is reported of page arguments that do not pass a check. -/
inductive Reports (args : Arguments) (limits : Limits) : Check → ArgumentError → Prop where
  | bothSizes : Reports args limits .oneSize .bothSizes
  | negative {side : Side} {n : Int64} (hsize : args.sizeFrom side = some n)
      (hsign : n.toInt < 0) : Reports args limits .size (.negative side)
  | tooLarge {side : Side} {n : Int64} (hsize : args.sizeFrom side = some n)
      (hlimit : limits.maxSize.toNat < n.toInt) :
      Reports args limits .size (.tooLarge side limits.maxSize)
  | after {text : String} (htext : Gives args.after text) :
      Reports args limits .after (.malformedCursor text)
  | before {text : String} (htext : Gives args.before text) :
      Reports args limits .before (.malformedCursor text)
  | room : Reports args limits .room .cursorsOutOfOrder

/-- The arguments do not pass this check but all that are made before it. -/
structure IsFirstFailed (args : Arguments) (order : Direction) (limits : Limits)
    (check : Check) : Prop where
  failed : ¬check.Passes args order limits
  passed : ∀ earlier ∈ check.earlier, earlier.Passes args order limits

variable {args : Arguments} {order : Direction} {limits : Limits} {check other : Check}

/-- Of two different checks one is made before the other. -/
theorem mem_earlier_or_mem_earlier (h : check ≠ other) :
    check ∈ other.earlier ∨ other ∈ check.earlier := by
  cases check <;> cases other <;> simp_all [earlier]

theorem IsFirstFailed.unique (h : check.IsFirstFailed args order limits)
    (h' : other.IsFirstFailed args order limits) : check = other := by
  -- If they differ, one is made before the other and has been passed for it.
  by_cases hne : check = other
  · exact hne
  · rcases mem_earlier_or_mem_earlier hne with hmem | hmem
    · exact absurd (h'.passed _ hmem) h.failed
    · exact absurd (h.passed _ hmem) h'.failed

/-- There is room between the places that the cursors point at, or one of them is missing. -/
theorem room_passes_iff (order : Direction) (limits : Limits) {after before : Option Standing}
    (hafter : PointsAt args.after after) (hbefore : PointsAt args.before before) :
    Check.room.Passes args order limits ↔ inOrder order after before := by
  constructor
  · intro hpass
    cases after with
    | none => rfl
    | some after =>
      cases before with
      | none => rfl
      | some before => exact Direction.before_iff.2 (hpass _ _ hafter hbefore)
  · intro hroom key key' hkey hkey'
    obtain rfl := hafter.unique hkey
    obtain rfl := hbefore.unique hkey'
    exact Direction.before_iff.1 hroom

/-- Where one size is given there is one size to report. -/
theorem sizeFrom_unique (hone : Passes args order limits .oneSize) {side side' : Side}
    {n n' : Int64} (h : args.sizeFrom side = some n) (h' : args.sizeFrom side' = some n') :
    side = side' ∧ n = n' := by
  cases side <;> cases side' <;> simp_all [Passes, Arguments.sizeFrom]

/-- The first check that is not passed leaves one thing to report. -/
theorem Reports.unique {e e' : ArgumentError} (hfirst : check.IsFirstFailed args order limits)
    (h : check.Reports args limits e) (h' : check.Reports args limits e') : e = e' := by
  cases check with
  | oneSize => cases h; cases h'; rfl
  | size =>
    have hone := hfirst.passed .oneSize (.head _)
    cases h <;> cases h' <;> next hn _ _ _ hn' _ =>
      obtain ⟨rfl, rfl⟩ := sizeFrom_unique hone hn hn'
      -- Two reports of one size agree, unless one says that it is negative and the other that it is
      -- too large, and both cannot be.
      first | rfl | omega
  | after =>
    cases h with | after h => cases h' with | after h' => rw [h.unique h']
  | before =>
    cases h with | before h => cases h' with | before h' => rw [h.unique h']
  | room => cases h; cases h'; rfl

end Check

/-! ## What validation answers -/

/-- The request carries what the arguments give: the size that is asked for, or the default size
from the first side, and the places of the cursors. -/
structure Request.Carries (request : Request) (args : Arguments) (order : Direction)
    (limits : Limits) : Prop where
  order_eq : request.order = order
  size_given : ∀ side n, args.sizeFrom side = some n →
    request.size.side = side ∧ (request.size.count.toNat : Int) = n.toInt
  size_default : (∀ side, args.sizeFrom side = none) → request.size = ⟨.first, limits.defaultSize⟩
  after : PointsAt args.after request.after
  before : PointsAt args.before request.before

namespace Arguments

variable {args : Arguments} {order : Direction} {limits : Limits}

theorem size_of_sizeFrom {side : Side} {n : Int64}
    (hone : Check.oneSize.Passes args order limits) (hsize : args.sizeFrom side = some n) :
    args.size limits = limits.accept side n := by
  cases side with
  | first =>
    have hlast : args.last = none := hone.resolve_left (by simp_all [sizeFrom])
    have hfirst : args.first = some n := hsize
    rw [size, hfirst, hlast]
  | last =>
    have hfirst : args.first = none := hone.resolve_right (by simp_all [sizeFrom])
    have hlast : args.last = some n := hsize
    rw [size, hfirst, hlast]

theorem size_of_default (hnone : ∀ side, args.sizeFrom side = none) :
    args.size limits = .ok ⟨.first, limits.defaultSize⟩ := by
  have hfirst : args.first = none := hnone .first
  have hlast : args.last = none := hnone .last
  rw [size, hfirst, hlast]

theorem size_of_both (hone : ¬Check.oneSize.Passes args order limits) :
    args.size limits = .error .bothSizes := by
  simp only [Check.Passes, not_or] at hone
  -- Neither of the two is missing.
  obtain ⟨n, hfirst⟩ := Option.ne_none_iff_exists'.1 hone.1
  obtain ⟨m, hlast⟩ := Option.ne_none_iff_exists'.1 hone.2
  rw [size, hfirst, hlast]

/-- If the size is settled, both checks of it are passed. -/
theorem passes_of_size_eq_ok (order : Direction) {size : Size} (h : args.size limits = .ok size) :
    Check.oneSize.Passes args order limits ∧ Check.size.Passes args order limits := by
  by_cases hone : Check.oneSize.Passes args order limits
  · refine ⟨hone, fun side n hn => ?_⟩
    rw [size_of_sizeFrom hone hn, Limits.accept_eq_ok_iff] at h
    exact h.1
  · rw [size_of_both hone] at h
    cases h

/-- The size that is settled is the one that is asked for, or the default. -/
theorem carries_of_size_eq_ok {size : Size} (h : args.size limits = .ok size) :
    (∀ side n, args.sizeFrom side = some n →
      size.side = side ∧ (size.count.toNat : Int) = n.toInt) ∧
      ((∀ side, args.sizeFrom side = none) → size = ⟨.first, limits.defaultSize⟩) := by
  obtain ⟨hone, -⟩ := passes_of_size_eq_ok .ascending h
  refine ⟨fun side n hn => ?_, fun hnone => ?_⟩
  · rw [size_of_sizeFrom hone hn, Limits.accept_eq_ok_iff] at h
    obtain ⟨⟨hsign, -⟩, rfl⟩ := h
    exact ⟨rfl, toNat_toUInt64_of_nonneg hsign⟩
  · rw [size_of_default hnone] at h
    exact (Except.ok.inj h).symm

/-- If the size is not settled, one of the checks of it is the first that is not passed. -/
theorem exists_isFirstFailed_of_size (order : Direction) {e : ArgumentError}
    (h : args.size limits = .error e) :
    ∃ check : Check, check.IsFirstFailed args order limits ∧ check.Reports args limits e := by
  by_cases hone : Check.oneSize.Passes args order limits
  · by_cases hnone : ∀ side, args.sizeFrom side = none
    · rw [size_of_default hnone] at h
      cases h
    · obtain ⟨side, hsome⟩ := Classical.not_forall.1 hnone
      obtain ⟨n, hn⟩ := Option.ne_none_iff_exists'.1 hsome
      rw [size_of_sizeFrom hone hn] at h
      -- The one size that is given is refused, so it is not within the limits.
      have hadmits : ¬limits.Admits n := fun hadmits => by
        rw [Limits.accept_of_admits side hadmits] at h
        cases h
      refine ⟨.size, ⟨fun hpass => hadmits (hpass side n hn), by simpa [Check.earlier]⟩, ?_⟩
      rw [Limits.accept_of_not_admits side hadmits] at h
      obtain rfl := Except.error.inj h
      split
      · next hsign => exact .negative hn hsign
      · next hsign =>
        have hlimit : limits.maxSize.toNat < n.toInt := by
          simp only [Limits.Admits, not_and, Int.not_le] at hadmits
          exact hadmits (Int.not_lt.1 hsign)
        exact .tooLarge hn hlimit
  · rw [size_of_both hone] at h
    obtain rfl := Except.error.inj h
    exact ⟨.oneSize, ⟨hone, nofun⟩, .bothSizes⟩

/-- Arguments are accepted and pass all checks, or are refused for the first that they do not
pass. -/
theorem validate_outcome (args : Arguments) (order : Direction) (limits : Limits) :
    (∃ request, args.validate order limits = .ok request ∧ request.Carries args order limits ∧
      ∀ check : Check, check.Passes args order limits) ∨
    ∃ (check : Check) (e : ArgumentError), args.validate order limits = .error e ∧
      check.IsFirstFailed args order limits ∧ check.Reports args limits e := by
  simp only [validate, bind, Except.bind]
  -- Follow the chain: each stage either refuses or adds to what is known to be passed.
  cases hsize : args.size limits with
  | error e =>
    obtain ⟨check, hfirst, hreports⟩ := exists_isFirstFailed_of_size order hsize
    exact .inr ⟨check, e, rfl, hfirst, hreports⟩
  | ok size =>
    obtain ⟨hone, hadmits⟩ := passes_of_size_eq_ok order hsize
    cases hafter : place args.after with
    | error e =>
      obtain ⟨text, htext, hread, rfl⟩ := place_eq_error_iff.1 hafter
      -- Both checks of the size have been passed when the cursors are looked at.
      have hpassed : ∀ earlier ∈ Check.after.earlier, earlier.Passes args order limits := by
        simp [Check.earlier, hone, hadmits]
      exact .inr ⟨.after, _, rfl, ⟨not_reads_of_eq_none htext hread, hpassed⟩, .after htext⟩
    | ok after =>
      rw [place_eq_ok_iff] at hafter
      have hreadAfter : Check.after.Passes args order limits := hafter.exists_read
      cases hbefore : place args.before with
      | error e =>
        obtain ⟨text, htext, hread, rfl⟩ := place_eq_error_iff.1 hbefore
        have hpassed : ∀ earlier ∈ Check.before.earlier, earlier.Passes args order limits := by
          simp [Check.earlier, hone, hadmits, hreadAfter]
        exact .inr ⟨.before, _, rfl, ⟨not_reads_of_eq_none htext hread, hpassed⟩, .before htext⟩
      | ok before =>
        rw [place_eq_ok_iff] at hbefore
        have hreadBefore : Check.before.Passes args order limits := hbefore.exists_read
        have hroom := Check.room_passes_iff order limits hafter hbefore
        -- Only the last check is left, and the request is what has been collected on the way.
        by_cases horder : inOrder order after before
        · have hpassRoom := hroom.2 horder
          refine .inl ⟨⟨order, size, after, before⟩, by simp only [if_pos horder]; rfl, ?_,
            fun check => by cases check <;> assumption⟩
          exact ⟨rfl, (carries_of_size_eq_ok hsize).1, (carries_of_size_eq_ok hsize).2, hafter,
            hbefore⟩
        · have hpassed : ∀ earlier ∈ Check.room.earlier, earlier.Passes args order limits := by
            simp [Check.earlier, hone, hadmits, hreadAfter, hreadBefore]
          exact .inr ⟨.room, _, by simp only [if_neg horder]; rfl, ⟨mt hroom.1 horder, hpassed⟩,
            .room⟩

end Arguments

/-- Page arguments are accepted exactly if they pass all checks, as the request that carries what
they give. What is reported otherwise belongs to the first check that they do not pass. -/
theorem arguments_checked_in_order (args : Arguments) (order : Direction) (limits : Limits) :
    ((∃ request, args.validate order limits = .ok request) ↔
      ∀ check : Check, check.Passes args order limits) ∧
    (∀ request, args.validate order limits = .ok request → request.Carries args order limits) ∧
    ∀ e, args.validate order limits = .error e ↔
      ∃ check : Check, check.IsFirstFailed args order limits ∧ check.Reports args limits e := by
  -- Both outcomes exclude each other, so each direction is read off the one at hand.
  rcases args.validate_outcome order limits with
    ⟨request, hok, hcarries, hpass⟩ | ⟨check, e, herror, hfirst, hreports⟩
  · rw [hok]
    refine ⟨⟨fun _ => hpass, fun _ => ⟨request, rfl⟩⟩, ?_, fun e => ?_⟩
    · rintro _ ⟨⟩
      exact hcarries
    · simp only [reduceCtorEq, false_iff]
      rintro ⟨check, hfirst, -⟩
      exact hfirst.failed (hpass check)
  · rw [herror]
    refine ⟨⟨nofun, fun hpass => absurd (hpass check) hfirst.failed⟩, nofun, fun e' => ?_⟩
    constructor
    · rintro ⟨⟩
      exact ⟨check, hfirst, hreports⟩
    · rintro ⟨check', hfirst', hreports'⟩
      -- There is one first check that is not passed, and it leaves one thing to report.
      obtain rfl := hfirst.unique hfirst'
      rw [hreports.unique hfirst hreports']

/-- A size above the limit is reported and not the text that is no cursor, an empty text is no
cursor either but is not refused, and a place does not stand before itself. -/
theorem arguments_checked_in_order_faults :
    Arguments.validate { first := some 501, after := some "?" } .descending {} =
        .error (.tooLarge .first 500) ∧
      (∃ request, Arguments.validate
          { last := some 2, after := some "", before := some "cmFuazo2NToz" } .descending {} =
            .ok request ∧
        request.after = none ∧ request.before = some ⟨⟨3⟩, 65⟩ ∧ request.size.side = .last) ∧
      Arguments.validate { after := some "cmFuazo2NToz", before := some "cmFuazo2NToz" }
          .ascending {} = .error .cursorsOutOfOrder := by
  have hread : Cursor.decode? "cmFuazo2NToz" = some ⟨⟨3⟩, 65⟩ := by decide +kernel
  have hpoints : PointsAt (some "cmFuazo2NToz") (some ⟨⟨3⟩, 65⟩) := ⟨_, ⟨rfl, by decide⟩, hread⟩
  have hempty : PointsAt (some "") none := fun text htext => htext.2 (Option.some.inj htext.1).symm
  refine ⟨?_, ?_, ?_⟩
  · have hsize : Arguments.sizeFrom { first := some 501, after := some "?" } .first = some 501 :=
      rfl
    rw [(arguments_checked_in_order _ _ _).2.2]
    -- The size is looked at before the text, which is never read.
    refine ⟨.size, ⟨fun hpass => ?_, ?_⟩, .tooLarge hsize (by decide)⟩
    · exact absurd (hpass .first 501 hsize).2 (by decide)
    · simp only [Check.earlier, List.forall_mem_cons]
      exact ⟨.inr rfl, nofun⟩
  · obtain ⟨haccepted, hcarries, -⟩ := arguments_checked_in_order
      { last := some 2, after := some "", before := some "cmFuazo2NToz" } .descending {}
    obtain ⟨request, hok⟩ := haccepted.2 fun check => by
      cases check with
      | oneSize => exact .inl rfl
      | size =>
        rintro (_ | _) n ⟨⟩
        exact ⟨by decide, by decide⟩
      | after => exact hempty.exists_read
      | before => exact hpoints.exists_read
      | room => exact (Check.room_passes_iff _ _ hempty hpoints).2 rfl
    have h := hcarries request hok
    exact ⟨request, hok, h.after.unique hempty, h.before.unique hpoints,
      (h.size_given .last 2 rfl).1⟩
  · rw [(arguments_checked_in_order _ _ _).2.2]
    refine ⟨.room, ⟨fun hpass => ?_, ?_⟩, .room⟩
    · exact absurd (hpass _ _ hpoints hpoints) (by decide)
    · simp only [Check.earlier, List.forall_mem_cons]
      refine ⟨.inl rfl, ?_, hpoints.exists_read, hpoints.exists_read, nofun⟩
      rintro (_ | _) n ⟨⟩

end Standings.Page
