import Standings.Access.Scope

/-!
# What a granted scope opens

A requirement is met by a granted scope that is a star or the requirement itself, and if the
requirement has two parts, which its first colon divides, by three scopes more, with a star in
place of either part or of both. No other text meets it: a granted scope is cut at its first colon
as well, so a further colon belongs to its second part and has to be there in the requirement, too.

## Key results

- `Scope.hasParts_iff`: the parts of a scope are what is cut at its first colon
- `Scope.covers_iff`: which texts cover a requirement
- `scopes_grant_exactly`: when access is allowed, for any requirement and for reading rankings
-/

namespace Standings.Access

namespace Scope

/-- The first colon of a scope stands between these parts. -/
def HasParts (scope resource action : String) : Prop :=
  scope = resource ++ ":" ++ action ∧ ':' ∉ resource.toList

variable {scope required granted resource action resource' action' : String}

theorem hasParts_iff : HasParts scope resource action ↔
    Text.cutAtFirst? ':' scope.toList = some (resource.toList, action.toList) := by
  rw [Text.cutAtFirst?_eq_some_iff, HasParts, ← String.toList_inj]
  simp

theorem HasParts.unique (h : HasParts scope resource action)
    (h' : HasParts scope resource' action') : resource' = resource ∧ action' = action := by
  rw [hasParts_iff] at h h'
  simpa [h, String.toList_inj, eq_comm] using h'

/-- A scope has parts exactly if it has a colon. -/
theorem exists_hasParts_iff :
    (∃ resource action, HasParts scope resource action) ↔ ':' ∈ scope.toList := by
  constructor
  · rintro ⟨resource, action, rfl, -⟩
    simp
  · intro hmem
    -- The texts around the first colon are the parts.
    cases hcut : Text.cutAtFirst? ':' scope.toList with
    | none => exact absurd hmem (Text.cutAtFirst?_eq_none_iff.1 hcut)
    | some parts =>
      refine ⟨String.ofList parts.1, String.ofList parts.2, hasParts_iff.2 ?_⟩
      rw [hcut, String.toList_ofList, String.toList_ofList]

theorem partMatches_iff :
    partMatches resource.toList resource'.toList ↔ resource' = "*" ∨ resource' = resource := by
  simp only [partMatches, Bool.or_eq_true, decide_eq_true_eq, String.toList_inj]
  rfl

/-- Two scopes with parts are compared part by part, unless the whole of them decides. -/
theorem covers_iff_of_hasParts (h : HasParts required resource action)
    (h' : HasParts granted resource' action') :
    covers required granted ↔ granted = "*" ∨ granted = required ∨
      (resource' = "*" ∨ resource' = resource) ∧ (action' = "*" ∨ action' = action) := by
  rw [hasParts_iff] at h h'
  simp only [covers, h, h', Bool.or_eq_true, Bool.and_eq_true, decide_eq_true_eq, partMatches_iff,
    or_assoc]
  rfl

/-- Where one of two scopes has no colon only the whole of them counts. -/
theorem covers_iff_of_not_mem (h : ':' ∉ required.toList ∨ ':' ∉ granted.toList) :
    covers required granted ↔ granted = "*" ∨ granted = required := by
  -- What is left of the comparison is the whole of both, for one of them cannot be cut.
  have hcut : covers required granted =
      (decide (granted = wildcard) || decide (granted = required)) := by
    simp only [← Text.cutAtFirst?_eq_none_iff] at h
    rcases h with h | h <;> simp [covers, h]
  rw [hcut, Bool.or_eq_true, decide_eq_true_eq, decide_eq_true_eq]
  rfl

/-! ## Stars in place of parts -/

theorem hasParts_star_action (h : HasParts required resource action) :
    HasParts (resource ++ ":*") resource "*" :=
  ⟨by simp [← String.toList_inj], h.2⟩

theorem hasParts_star_resource (action : String) : HasParts ("*:" ++ action) "*" action :=
  ⟨by simp, by decide⟩

/-- A scope covers a requirement if it is a star or the requirement, or, if the requirement has two
parts, the requirement with a star in place of one part or of both. -/
theorem covers_iff : covers required granted ↔ granted = "*" ∨ granted = required ∨
    ∃ resource action, HasParts required resource action ∧
      (granted = resource ++ ":*" ∨ granted = "*:" ++ action ∨ granted = "*:*") := by
  constructor
  · intro hcovers
    -- Only where both have a colon are they compared in parts.
    by_cases hcolons : ':' ∈ required.toList ∧ ':' ∈ granted.toList
    · obtain ⟨resource, action, hparts⟩ := exists_hasParts_iff.2 hcolons.1
      obtain ⟨resource', action', hparts'⟩ := exists_hasParts_iff.2 hcolons.2
      have hgranted := hparts'.1
      rw [covers_iff_of_hasParts hparts hparts'] at hcovers
      -- Each part is a star or the one that is required, which makes four texts.
      rcases hcovers with h | h | ⟨rfl | rfl, rfl | rfl⟩
      · exact .inl h
      · exact .inr (.inl h)
      · exact .inr (.inr ⟨_, _, hparts, .inr (.inr hgranted)⟩)
      · exact .inr (.inr ⟨_, _, hparts, .inr (.inl hgranted)⟩)
      · rw [String.append_assoc] at hgranted
        exact .inr (.inr ⟨_, _, hparts, .inl hgranted⟩)
      · exact .inr (.inl (hgranted.trans hparts.1.symm))
    · rw [covers_iff_of_not_mem (Classical.not_and_iff_not_or_not.1 hcolons)] at hcovers
      exact hcovers.imp_right .inl
  · rintro (rfl | rfl | ⟨resource, action, hparts, hstars⟩)
    · simp [covers, wildcard]
    · simp [covers]
    · -- Each of the three has a star for a part or the part that is required.
      rcases hstars with rfl | rfl | rfl
      · rw [covers_iff_of_hasParts hparts (hasParts_star_action hparts)]
        exact .inr (.inr ⟨.inr rfl, .inl rfl⟩)
      · rw [covers_iff_of_hasParts hparts (hasParts_star_resource action)]
        exact .inr (.inr ⟨.inl rfl, .inr rfl⟩)
      · have hboth : HasParts "*:*" "*" "*" := ⟨by decide, by decide⟩
        rw [covers_iff_of_hasParts hparts hboth]
        exact .inr (.inr ⟨.inl rfl, .inl rfl⟩)

/-- A requirement of which the parts are known is covered by five scopes. -/
theorem covers_iff_mem (hparts : HasParts required resource action) : covers required granted ↔
    granted ∈ ["*", required, resource ++ ":*", "*:" ++ action, "*:*"] := by
  rw [covers_iff]
  constructor
  · rintro (h | h | ⟨resource', action', hparts', hstars⟩)
    · simp [h]
    · simp [h]
    · -- The first colon is in one place, so there is one pair of parts.
      obtain ⟨rfl, rfl⟩ := hparts.unique hparts'
      rcases hstars with h | h | h <;> simp [h]
  · simp only [List.mem_cons, List.not_mem_nil, or_false]
    exact Or.imp_right (Or.imp_right fun hstars => ⟨resource, action, hparts, hstars⟩)

end Scope

theorem allow_iff {required : String} {granted : List String} :
    allow required granted ↔ required = "" ∨ ∃ scope ∈ granted, Scope.covers required scope := by
  simp [allow]

/-- A requirement is met exactly if it is empty, or a star or the requirement itself is granted, or
it has a colon and one of the scopes is granted that have a star in place of one part or of both.
Rankings may be read with five scopes and no other. Whoever is granted more, or the same in another
order or more than once, may do all that was allowed before. -/
theorem scopes_grant_exactly :
    (∀ (required : String) (granted : List String), allow required granted ↔
      required = "" ∨ ∃ scope ∈ granted, scope = "*" ∨ scope = required ∨
        ∃ resource action, Scope.HasParts required resource action ∧
          (scope = resource ++ ":*" ∨ scope = "*:" ++ action ∨ scope = "*:*")) ∧
    (∀ granted : List String, allow Scope.rankingRead granted ↔
      ∃ scope ∈ granted, scope ∈ ["*", "ranking:read", "ranking:*", "*:read", "*:*"]) ∧
    ∀ (required : String) (granted granted' : List String), granted ⊆ granted' →
      allow required granted → allow required granted' := by
  refine ⟨fun required granted => ?_, fun granted => ?_, fun required granted granted' hsub => ?_⟩
  · simp only [allow_iff, Scope.covers_iff]
  · have hparts : Scope.HasParts Scope.rankingRead "ranking" "read" := ⟨by decide, by decide⟩
    have hne : Scope.rankingRead ≠ "" := by decide
    simp only [allow_iff, hne, false_or, Scope.covers_iff_mem hparts]
    rfl
  · -- Whatever scope met the requirement is still among those granted.
    simp only [allow_iff]
    exact Or.imp_right fun ⟨scope, hmem, hcovers⟩ => ⟨scope, hsub hmem, hcovers⟩

/-- Part of the requirement, an empty part and a further part do not open rankings, and neither do
scopes of others. A star for the second part does, and still does when it is granted among them. -/
theorem scopes_grant_exactly_stars :
    allow Scope.rankingRead
        ["ranking", "ranking:", ":read", "ranking:read:all", "*:*:*", "users:*"] = false ∧
      allow Scope.rankingRead ["ranking:*"] ∧
      allow Scope.rankingRead ["users:*", "ranking:*", "ranking", "ranking:*"] ∧
      allow "a:b:c" ["*:b:c"] := by
  obtain ⟨hgrants, hrankings, hmore⟩ := scopes_grant_exactly
  have hstar : allow Scope.rankingRead ["ranking:*"] :=
    (hrankings _).2 ⟨"ranking:*", .head _, by decide⟩
  refine ⟨?_, hstar, hmore _ _ _ (by decide) hstar, (hgrants _ _).2 ?_⟩
  · rw [Bool.eq_false_iff, ne_eq, hrankings]
    decide
  · -- The first colon divides the requirement, and the second belongs to its second part.
    have hparts : Scope.HasParts "a:b:c" "a" "b:c" := ⟨by decide, by decide⟩
    exact .inr ⟨_, .head _, .inr (.inr ⟨_, _, hparts, .inr (.inl rfl)⟩)⟩

end Standings.Access
