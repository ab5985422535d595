import Mathlib.Data.List.Nodup
import Standings.Json.Record
import Standings.Proofs.Json.RoundTrip

/-!
# Fields are read back

A record of fields with different names is read as these fields, in the order of the names, and what
is written into a field is read from it: integers over their whole range, lists, values that may be
absent. `RoundTrips` says this of a whole text. A value whose record is legible round-trips as soon
as the record is read as the value, `bind_parse?_write`, so nothing else has to look at texts.

## Key results

- `isLegible_array` / `isLegible_fields`: what is put together from legible values is legible
- `record?_fields`: the fields of a record
- `int64?_eq_some_iff`, `count?_integer`, `list?_map`, `optional_ofOption`: the values of fields
- `bind_parse?_write`: from records to texts
-/

namespace Standings.Json

/-! ## Legible values -/

@[simp] theorem isLegible_null : null.IsLegible := by
  simp [IsLegible, tokens, Token.IsLegible]

@[simp] theorem isLegible_bool (value : Bool) : (bool value).IsLegible := by
  simp [IsLegible, tokens, Token.IsLegible]

@[simp] theorem isLegible_integer (value : Int) : (integer value).IsLegible := by
  simp [IsLegible, tokens, Token.IsLegible]

@[simp] theorem isLegible_text (s : String) : (text s).IsLegible := by
  simp [IsLegible, text, tokens, Token.IsLegible]

@[simp] theorem isLegible_ofOption {α : Type} {write : α → Json} {value : Option α} :
    (ofOption write value).IsLegible ↔ ∀ a ∈ value, (write a).IsLegible := by
  cases value <;> simp [ofOption]

theorem isLegible_moreElements {elements : List Json} :
    (∀ token ∈ moreElements elements, token.IsLegible) ↔
      ∀ element ∈ elements, element.IsLegible := by
  -- A comma stands in front of each further element, and it is legible.
  induction elements with
  | nil => simp [moreElements, Token.IsLegible]
  | cons next elements ih =>
    simp only [moreElements, List.cons_append, List.forall_mem_cons, List.forall_mem_append, ih]
    exact ⟨fun h => ⟨h.2.1, h.2.2⟩, fun h => ⟨trivial, h.1, h.2⟩⟩

/-- A list is legible if its elements are. -/
@[simp] theorem isLegible_array {elements : List Json} :
    (array elements).IsLegible ↔ ∀ element ∈ elements, element.IsLegible := by
  cases elements with
  | nil => simp [IsLegible, tokens, Token.IsLegible]
  | cons first elements =>
    simp only [IsLegible, tokens, List.cons_append, List.forall_mem_cons, List.forall_mem_append,
      isLegible_moreElements]
    exact ⟨fun h => ⟨h.2.1, h.2.2⟩, fun h => ⟨trivial, h.1, h.2⟩⟩

theorem isLegible_moreMembers {members : List (String × Json)} :
    (∀ token ∈ moreMembers (members.map fun (name, value) => (.text name, value)),
      token.IsLegible) ↔ ∀ member ∈ members, member.2.IsLegible := by
  -- In front of a further value stand a comma, its name and a colon.
  induction members with
  | nil => simp [moreMembers, Token.IsLegible]
  | cons next members ih =>
    simp only [List.map_cons, moreMembers, List.cons_append, List.forall_mem_cons,
      List.forall_mem_append, ih]
    exact ⟨fun h => ⟨h.2.2.2.1, h.2.2.2.2⟩, fun h => ⟨trivial, trivial, trivial, h.1, h.2⟩⟩

/-- A record is legible if its fields are. -/
@[simp] theorem isLegible_fields {members : List (String × Json)} :
    (fields members).IsLegible ↔ ∀ member ∈ members, member.2.IsLegible := by
  cases members with
  | nil => simp [fields, IsLegible, tokens, Token.IsLegible]
  | cons first members =>
    simp only [fields, List.map_cons, IsLegible, tokens, List.cons_append, List.forall_mem_cons,
      List.forall_mem_append, isLegible_moreMembers]
    exact ⟨fun h => ⟨h.2.2.2.1, h.2.2.2.2⟩, fun h => ⟨trivial, trivial, trivial, h.1, h.2⟩⟩

/-! ## Records -/

theorem mapM_map {α β γ : Type} {write : α → β} {read : β → Option γ} {result : α → γ}
    {l : List α} (h : ∀ a ∈ l, read (write a) = some (result a)) :
    (l.map write).mapM read = some (l.map result) := by
  induction l with
  | nil => rfl
  | cons a l ih =>
    rw [List.forall_mem_cons] at h
    rw [List.map_cons, List.mapM_cons, h.1, ih h.2]
    rfl

/-- A name that occurs once has its value. -/
theorem member?_map {members : List (String × Json)} (hnodup : (members.map Prod.fst).Nodup)
    {member : String × Json} (hmember : member ∈ members) :
    member? (members.map fun (name, value) => (.text name, value)) member.1 =
      some (some member.2) := by
  obtain ⟨before, behind, rfl⟩ := List.append_of_mem hmember
  simp only [List.map_append, List.map_cons, List.nodup_append, List.nodup_cons, List.mem_map,
    List.mem_cons] at hnodup
  obtain ⟨-, ⟨hbehind, -⟩, hbefore⟩ := hnodup
  -- Neither in front of the member nor behind it is the name found again.
  have hnone {part : List (String × Json)} (hpart : ∀ other ∈ part, other.1 ≠ member.1) :
      (part.map fun (name, value) => (Wording.text name, value)).filter (·.1 == .text member.1) =
        [] := by
    refine List.filter_eq_nil_iff.2 fun entry hentry => ?_
    obtain ⟨other, hother, rfl⟩ := List.mem_map.1 hentry
    simpa using hpart other hother
  rw [member?, List.map_append, List.filter_append, List.map_cons,
    hnone fun other hother h => hbefore _ ⟨other, hother, rfl⟩ _ (.inl rfl) h, List.nil_append,
    List.filter_cons_of_pos (by simp), hnone fun other hother h => hbehind ⟨other, hother, h⟩]

/-- The fields of a record are read in the order of their names. -/
theorem record?_fields {names : List String} {members : List (String × Json)}
    (hnames : members.map Prod.fst = names) (hnodup : names.Nodup) :
    (fields members).record? names = some (members.map fun member => some member.2) := by
  -- Names that are written are texts, so the record is not refused for them.
  have htexts : (members.map fun (name, value) => (Wording.text name, value)).all
      (·.1.text?.isSome) := by
    simp [Wording.text?]
  subst hnames
  rw [fields, record?, if_pos htexts]
  exact mapM_map fun member hmember => member?_map hnodup hmember

/-! ## Values of fields -/

/-- The only number that is read as an integer of 64 bits is that integer. -/
theorem int64?_eq_some_iff {j : Json} {n : Int64} : j.int64? = some n ↔ j = .integer n.toInt := by
  have hbounds : Int64.minValue.toInt ≤ n.toInt ∧ n.toInt ≤ Int64.maxValue.toInt :=
    ⟨n.minValue_le_toInt, n.toInt_le⟩
  constructor
  · intro h
    obtain ⟨value, hvalue, rfl⟩ := Option.map_eq_some_iff.1 h
    unfold integer? at hvalue
    split at hvalue
    · split at hvalue
      · -- Within the range an integer is the number of its word.
        next hrange =>
        cases hvalue
        rw [Int64.toInt_ofInt_of_le hrange.1 (Int.lt_add_one_of_le hrange.2)]
      · cases hvalue
    · cases hvalue
  · rintro rfl
    rw [int64?, integer?, if_pos hbounds, Option.map_some, Int64.ofInt_toInt]

@[simp] theorem int64?_integer (n : Int64) : (integer n.toInt).int64? = some n :=
  int64?_eq_some_iff.2 rfl

@[simp] theorem int32?_integer (n : Int32) : (integer n.toInt).int32? = some n := by
  have hbounds : Int32.minValue.toInt ≤ n.toInt ∧ n.toInt ≤ Int32.maxValue.toInt :=
    ⟨n.minValue_le_toInt, n.toInt_le⟩
  rw [int32?, integer?, if_pos hbounds, Option.map_some, Int32.ofInt_toInt]

theorem count?_integer {n : Nat} (h : n < UInt64.size) : (integer n).count? = some n := by
  have hbounds : 0 ≤ (n : Int) ∧ (n : Int) ≤ (UInt64.size - 1 : Nat) := by omega
  rw [count?, integer?, if_pos hbounds, Option.map_some, Int.toNat_natCast]

theorem text?_eq_some_iff {j : Json} {s : String} : j.text? = some s ↔ j = .text s := by
  constructor
  · intro h
    match j, h with
    | .string (.text _), rfl => rfl
  · rintro rfl
    rfl

@[simp] theorem text?_text (s : String) : (text s).text? = some s := rfl

@[simp] theorem bool?_bool (value : Bool) : (bool value).bool? = some value := rfl

theorem list?_map {α : Type} {write : α → Json} {read : Json → Option α} {l : List α}
    (h : ∀ a ∈ l, read (write a) = some a) : (array (l.map write)).list? read = some l := by
  rw [list?, mapM_map h, List.map_id']

/-- If a reader takes only what is written, so does the reader of lists. -/
theorem list?_eq_some_iff {α : Type} {write : α → Json} {read : Json → Option α}
    (h : ∀ j a, read j = some a ↔ j = write a) {j : Json} {l : List α} :
    j.list? read = some l ↔ j = .array (l.map write) := by
  constructor
  · intro hlist
    unfold list? at hlist
    split at hlist
    · next elements =>
      congr 1
      -- A reader takes the elements one by one, so the list that is read is built along them.
      induction elements generalizing l with
      | nil =>
        cases hlist
        rfl
      | cons first elements ih =>
        rw [List.mapM_cons] at hlist
        obtain ⟨a, ha, htail⟩ := Option.bind_eq_some_iff.1 hlist
        obtain ⟨rest, hrest, hcons⟩ := Option.bind_eq_some_iff.1 htail
        cases hcons
        rw [List.map_cons, ← (h first a).1 ha, ← ih hrest]
    · cases hlist
  · rintro rfl
    exact list?_map fun a _ => (h _ a).2 rfl

/-- A value that may be absent is read back if null stands for nothing else. -/
theorem optional_ofOption {α : Type} {write : α → Json} {read : Json → Option α}
    (hnull : ∀ a, write a ≠ .null) (h : ∀ a, read (write a) = some a) (value : Option α) :
    optional read (some (ofOption write value)) = some value := by
  cases value with
  | none => rfl
  | some a =>
    -- What is written for a value is not null, so it is not taken for nothing.
    rw [ofOption, optional, h a, Option.map_some]
    exact hnull a

@[simp] theorem optional_text? (value : Option String) :
    optional text? (some (ofOption .text value)) = some value :=
  optional_ofOption (by simp [text]) text?_text value

@[simp] theorem optional_int64? (value : Option Int64) :
    optional int64? (some (ofOption (fun n => .integer n.toInt) value)) = some value :=
  optional_ofOption (by simp) int64?_integer value

/-! ## Texts -/

/-- The text that is written for a value is read as the value. -/
def RoundTrips {α : Type} (write : α → Json) (read : Json → Option α) (a : α) : Prop :=
  (parse? (write a).write).bind read = some a

/-- What is read from the text of a legible value is what is read from the value. -/
theorem bind_parse?_write {α : Type} {read : Json → Option α} {j : Json} {a : α}
    (hlegible : j.IsLegible) (hread : read j = some a) : (parse? j.write).bind read = some a := by
  rw [parse?_write hlegible, Option.bind_some, hread]

end Standings.Json
