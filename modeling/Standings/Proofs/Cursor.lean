import Standings.Page.Arguments
import Standings.Proofs.Base64Url
import Standings.Proofs.Decimal

/-!
# Reading cursors back

The cursor of a standing is read as that standing, so a page hands out cursors that lead back to
its own entries. The three layers of a cursor, base64, UTF-8 and the payload, are read back one
after the other.

Reading is wider than writing: `IsCursor` says which texts are cursors, and of which standing.

## Key results

- `decode?_encode`: the cursor of a standing leads back to it
- `decode?_eq_some_iff`: the texts that are read as a standing are its cursors
- `reads_exactly_cursors`: both, with what becomes of all other texts
-/

namespace Standings.Cursor

/-- No digit and no sign is a colon, so the first colon behind the tag ends the score. -/
private theorem colon_not_mem_ofInt (i : Int) : ':' ∉ Decimal.ofInt i := by
  have hdigits : ∀ n, ':' ∉ Decimal.ofNat n := fun n hmem =>
    absurd (Nat.isDigit_of_mem_toDigits (by decide) (by decide) hmem) (by decide)
  cases i with
  | ofNat n => exact hdigits n
  | negSucc n =>
    rw [Decimal.ofInt, List.mem_cons, not_or]
    exact ⟨by decide, hdigits (n + 1)⟩

/-- The payload of a standing is read as that standing. -/
theorem ofPayload?_payload (place : Standing) : ofPayload? (payload place) = some place := by
  -- The tag is taken off, the rest is cut at its first colon, and both numbers are read back.
  have htag : ∀ rest, untag? (tag ++ rest) = some rest := fun _ => rfl
  have hcut : Text.cutAtFirst? ':'
      (Decimal.ofInt place.score.toInt ++ ':' :: Decimal.ofInt place.user.value.toInt) =
      some (Decimal.ofInt place.score.toInt, Decimal.ofInt place.user.value.toInt) :=
    Text.cutAtFirst?_eq_some_iff.2 ⟨rfl, colon_not_mem_ofInt place.score.toInt⟩
  simp only [ofPayload?, payload, String.toList_ofList, List.append_assoc, htag, hcut, bind,
    Option.bind, Decimal.readInt64_ofInt, Except.toOption, pure]

/-- The cursor of a standing leads back to that standing. -/
@[simp] theorem decode?_encode (place : Standing) : decode? (encode place) = some place := by
  simp only [decode?, encode, String.toList_ofList, Base64Url.decode?_encode,
    Utf8.decode?_encode, bind, Option.bind, ofPayload?_payload]

/-! ## All cursors of a standing -/

/-- A cursor of a standing: it spells the UTF-8 text `rank:a:b`, in which `a` is a decimal text of
the score and `b` one of the user's number. -/
def IsCursor (cursor : String) (place : Standing) : Prop :=
  ∃ a b : List Char, ':' ∉ a ∧
    Decimal.IsDecimal a place.score.toInt ∧ Decimal.IsDecimal b place.user.value.toInt ∧
    Base64Url.Spells cursor.toList
      (Utf8.encode ("rank:" ++ String.ofList a ++ ":" ++ String.ofList b))

/-- The tag is taken off the texts that start with it. -/
theorem untag?_eq_some_iff {text rest : List Char} :
    untag? text = some rest ↔ text = tag ++ rest := by
  constructor
  · intro h
    unfold untag? at h
    split at h
    · exact congrArg (tag ++ ·) (Option.some.inj h)
    · cases h
  · rintro rfl
    rfl

/-- The payloads of a standing hold decimal texts of its score and its user, with the first colon
behind the tag between them. -/
theorem ofPayload?_eq_some_iff {text : String} {place : Standing} :
    ofPayload? text = some place ↔ ∃ a b : List Char, ':' ∉ a ∧
      Decimal.IsDecimal a place.score.toInt ∧ Decimal.IsDecimal b place.user.value.toInt ∧
      text = "rank:" ++ String.ofList a ++ ":" ++ String.ofList b := by
  have htext : ∀ a b : List Char,
      text = "rank:" ++ String.ofList a ++ ":" ++ String.ofList b ↔
        text.toList = tag ++ (a ++ ':' :: b) := by
    intro a b
    rw [← String.toList_inj]
    simp [tag]
  have htoOption : ∀ (digits : List Char) (i : Int64),
      (Decimal.readInt64 digits).toOption = some i ↔ Decimal.IsDecimal digits i.toInt := by
    intro digits i
    rw [← Decimal.readInt64_eq_ok_iff]
    cases Decimal.readInt64 digits <;> simp [Except.toOption]
  -- Each step of reading is replaced by what it accepts; then both sides say the same.
  simp only [ofPayload?, bind, Option.bind_eq_some_iff, pure, Option.some.injEq, untag?_eq_some_iff,
    htext, htoOption, Prod.exists, Text.cutAtFirst?_eq_some_iff]
  constructor
  · rintro ⟨_, htag, a, b, ⟨rfl, hcolon⟩, score, hscore, user, huser, rfl⟩
    exact ⟨a, b, hcolon, hscore, huser, htag⟩
  · rintro ⟨a, b, hcolon, hscore, huser, htag⟩
    exact ⟨_, htag, a, b, ⟨rfl, hcolon⟩, place.score, hscore, place.user.value, huser, rfl⟩

/-- The texts that are read are the cursors of the grammar, each as the place it names. -/
theorem decode?_eq_some_iff {cursor : String} {place : Standing} :
    decode? cursor = some place ↔ IsCursor cursor place := by
  simp only [decode?, bind, Option.bind_eq_some_iff, Base64Url.decode?_eq_some_iff,
    Utf8.decode?_eq_some_iff, ofPayload?_eq_some_iff, IsCursor]
  constructor
  · rintro ⟨_, hspells, _, rfl, a, b, hcolon, hscore, huser, rfl⟩
    exact ⟨a, b, hcolon, hscore, huser, hspells⟩
  · rintro ⟨a, b, hcolon, hscore, huser, hspells⟩
    exact ⟨_, hspells, _, rfl, a, b, hcolon, hscore, huser, rfl⟩

/-- A cursor that is handed out is not empty, and it consists of letters, digits, hyphens and
underscores. -/
theorem encode_letters (place : Standing) :
    encode place ≠ "" ∧
      ∀ c ∈ (encode place).toList, c.isAlphanum ∨ c = '-' ∨ c = '_' := by
  constructor
  · intro hempty
    have hread := decode?_encode place
    -- The empty text is not read, and the cursor is.
    have hnone : decode? "" = none := by decide +kernel
    rw [hempty, hnone] at hread
    cases hread
  · intro c hc
    -- Whatever the payload is, it is spelled in letters of the alphabet.
    have halphabet : Base64Url.alphabet.all fun c => c.isAlphanum || c = '-' || c = '_' := by decide
    rw [encode, String.toList_ofList] at hc
    have hletter := List.all_eq_true.1 halphabet c ((Base64Url.spells_encode _).mem_alphabet c hc)
    simpa [or_assoc] using hletter

/-- The cursor of every standing leads back to it, is not empty and needs no escaping. The texts
that are read as a standing are its cursors, and a text that is no cursor is refused as an argument.
-/
theorem reads_exactly_cursors :
    (∀ place, decode? (encode place) = some place ∧ encode place ≠ "" ∧
      ∀ c ∈ (encode place).toList, c.isAlphanum ∨ c = '-' ∨ c = '_') ∧
    (∀ cursor place, decode? cursor = some place ↔ IsCursor cursor place) ∧
    ∀ cursor, (∀ place, ¬IsCursor cursor place) →
      decode? cursor = none ∧
        (cursor ≠ "" → Page.place (some cursor) = .error (.malformedCursor cursor)) := by
  refine ⟨fun place => ⟨decode?_encode place, encode_letters place⟩,
    fun cursor place => decode?_eq_some_iff, ?_⟩
  intro cursor hnone
  have hread : decode? cursor = none := by
    rw [Option.eq_none_iff_forall_ne_some]
    exact fun place h => hnone place (decode?_eq_some_iff.1 h)
  refine ⟨hread, fun hne => ?_⟩
  simp only [Page.place, if_neg hne, hread]

/-- At the ends of the 64-bit range cursors are read back, `rank:+05:-0` is a cursor as well, and
its spelling with an unused bit set is refused. -/
theorem reads_exactly_cursors_sample :
    decode? (encode ⟨⟨Int64.minValue⟩, Int64.maxValue⟩) =
        some ⟨⟨Int64.minValue⟩, Int64.maxValue⟩ ∧
      IsCursor "cmFuazorMDU6LTA" ⟨⟨0⟩, 5⟩ ∧
      Page.place (some "cmFuazorMDU6LTB") = .error (.malformedCursor "cmFuazorMDU6LTB") := by
  obtain ⟨hback, hread, hrefused⟩ := reads_exactly_cursors
  have hnone : decode? "cmFuazorMDU6LTB" = none := by decide +kernel
  refine ⟨(hback _).1, (hread _ _).1 (by decide +kernel), (hrefused _ ?_).2 (by decide)⟩
  intro place hcursor
  rw [(hread _ _).2 hcursor] at hnone
  cases hnone

end Standings.Cursor
