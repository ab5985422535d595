import Standings.Page.Arguments

/-!
# Accepted page arguments

`Arguments.validate` runs its checks in a chain of which each may fail. This file opens the chain
once: `Arguments.validate_eq_ok_iff` says what arguments are accepted and as which request, so that
no later proof looks into the chain.
-/

namespace Standings.Page

/-- Arguments are accepted exactly if each of them is and there is room between the cursors; the
request holds what each of them gives. -/
theorem Arguments.validate_eq_ok_iff {args : Arguments} {order : Direction} {limits : Limits}
    {request : Request} :
    args.validate order limits = .ok request ↔
      request.order = order ∧ args.size limits = .ok request.size ∧
      place args.after = .ok request.after ∧ place args.before = .ok request.before ∧
      inOrder order request.after request.before := by
  -- The chain stops at the first error, so each check is looked at once the earlier ones passed.
  simp only [Arguments.validate, bind, Except.bind]
  cases hsize : args.size limits with
  | error e => simp
  | ok size =>
    cases hafter : place args.after with
    | error e => simp
    | ok after =>
      cases hbefore : place args.before with
      | error e => simp
      | ok before =>
        cases request
        simp only [pure, Except.pure]
        split <;> rename_i hroom
        · -- There is room between the cursors, so the request is the one built from the parts.
          simp only [Except.ok.injEq, Request.mk.injEq]
          constructor
          · rintro ⟨rfl, rfl, rfl, rfl⟩
            exact ⟨rfl, rfl, rfl, rfl, hroom⟩
          · rintro ⟨rfl, rfl, rfl, rfl, _⟩
            exact ⟨rfl, rfl, rfl, rfl⟩
        · simp only [throw, throwThe, MonadExceptOf.throw, reduceCtorEq, false_iff]
          simp only [Except.ok.injEq]
          rintro ⟨rfl, -, rfl, rfl, h⟩
          exact hroom h

/-- A cursor argument that can be read points at the place it holds. -/
theorem place_of_decode? {text : String} {key : Standing}
    (h : Cursor.decode? text = some key) : place (some text) = .ok (some key) := by
  have hne : text ≠ "" := by
    rintro rfl
    have hempty : Cursor.decode? "" = none := by decide +kernel
    simp [hempty] at h
  simp only [place, if_neg hne, h]

/-- A request that has been accepted leaves room between its cursors. -/
theorem Arguments.before_of_validate {args : Arguments} {order : Direction} {limits : Limits}
    {request : Request} {after before : Standing}
    (hvalid : args.validate order limits = .ok request)
    (hafter : request.after = some after) (hbefore : request.before = some before) :
    request.order.before after before := by
  obtain ⟨rfl, _, _, _, hroom⟩ := validate_eq_ok_iff.1 hvalid
  simpa [hafter, hbefore, inOrder] using hroom

end Standings.Page
