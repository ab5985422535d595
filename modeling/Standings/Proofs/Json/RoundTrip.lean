import Standings.Json.Value
import Standings.Proofs.Json.Scan

/-!
# Values are read back

The text of a value is read as that value. No two words of it touch, so it is cut into the value's
tokens; and the machine that nests tokens, at the end of a value's tokens, gives exactly that value
to the frame around it. Both are shown along the tokens of a value, of the elements behind the first
one, and of the members behind the first one.

## Key results

- `separated_tokens`: what stands between the words of a value
- `run_tokens`: the tokens of a value in front of others are nested into the value
- `parse?_write`: the text of a value is read as the value
-/

namespace Standings.Json

open Token (Separated)

/-! ## Cutting the text into tokens -/

mutual

/-- A value may stand in front of everything that does not start with a word. -/
theorem separated_tokens (j : Json) {rest : List Token}
    (hhead : ∀ token ∈ rest.head?, ¬token.IsWord) (hrest : Separated rest) :
    Separated (j.tokens ++ rest) := by
  have hsingle {token : Token} (htoken : j.tokens = [token]) : Separated (j.tokens ++ rest) :=
    htoken ▸ List.isChain_cons.2 ⟨fun next hnext _ => hhead next hnext, hrest⟩
  cases j with
  | null | bool | integer | real | string => exact hsingle (by rw [tokens])
  | array elements =>
    cases elements with
    | nil =>
      rw [tokens]
      exact .cons_of_not_isWord id (.cons_of_not_isWord id hrest)
    | cons first elements =>
      -- A comma or a bracket stands behind the first element, whatever the list goes on with.
      obtain ⟨hmoreHead, hmore⟩ := separated_moreElements elements hrest
      rw [tokens, List.cons_append, List.cons_append, List.append_assoc]
      exact .cons_of_not_isWord id (separated_tokens first hmoreHead hmore)
  | object members =>
    cases members with
    | nil =>
      rw [tokens]
      exact .cons_of_not_isWord id (.cons_of_not_isWord id hrest)
    | cons member members =>
      obtain ⟨name, value⟩ := member
      obtain ⟨hmoreHead, hmore⟩ := separated_moreMembers members hrest
      have hvalue := separated_tokens value hmoreHead hmore
      simp only [tokens, List.cons_append, List.append_assoc]
      exact .cons_of_not_isWord id (.cons_of_not_isWord id (.cons_of_not_isWord id hvalue))

theorem separated_moreElements (elements : List Json) {rest : List Token} (hrest : Separated rest) :
    (∀ token ∈ (moreElements elements ++ rest).head?, ¬token.IsWord) ∧
      Separated (moreElements elements ++ rest) := by
  cases elements with
  | nil => exact ⟨by rintro _ ⟨⟩; exact id, .cons_of_not_isWord id hrest⟩
  | cons next elements =>
    obtain ⟨hmoreHead, hmore⟩ := separated_moreElements elements hrest
    have hnext := separated_tokens next hmoreHead hmore
    simp only [moreElements, List.cons_append, List.append_assoc]
    exact ⟨by rintro _ ⟨⟩; exact id, .cons_of_not_isWord id hnext⟩

theorem separated_moreMembers (members : List (Wording × Json)) {rest : List Token}
    (hrest : Separated rest) :
    (∀ token ∈ (moreMembers members ++ rest).head?, ¬token.IsWord) ∧
      Separated (moreMembers members ++ rest) := by
  cases members with
  | nil => exact ⟨by rintro _ ⟨⟩; exact id, .cons_of_not_isWord id hrest⟩
  | cons member members =>
    obtain ⟨name, value⟩ := member
    obtain ⟨hmoreHead, hmore⟩ := separated_moreMembers members hrest
    have hvalue := separated_tokens value hmoreHead hmore
    -- A comma in front, a colon behind the name: no word touches another.
    simp only [moreMembers, List.cons_append, List.append_assoc]
    exact ⟨by rintro _ ⟨⟩; exact id,
      .cons_of_not_isWord id (.cons_of_not_isWord id (.cons_of_not_isWord id hvalue))⟩

end

/-! ## Nesting the tokens -/

open Nesting

/-- Behind an opened list a value starts as it does anywhere, for no value starts with the bracket
that closes lists. -/
theorem run_atFirstElement (j : Json) (stack : List Frame) (rest : List Token) :
    (atFirstElement stack).run (j.tokens ++ rest) =
      (atValue (.array [] :: stack)).run (j.tokens ++ rest) := by
  cases j with
  -- Empty or not, a list starts with a bracket that opens.
  | array elements => cases elements <;> · rw [tokens]; rfl
  | object members =>
    cases members with
    | nil => rw [tokens]; rfl
    | cons member members =>
      obtain ⟨name, value⟩ := member
      rw [tokens]
      rfl
  | _ => rw [tokens]; rfl

mutual

/-- The tokens of a value give the value to the innermost open frame. -/
theorem run_tokens (j : Json) (stack : List Frame) (rest : List Token) :
    (atValue stack).run (j.tokens ++ rest) = (close j stack).run rest := by
  cases j with
  | null | bool | integer | real | string => rw [tokens]; rfl
  | array elements =>
    cases elements with
    | nil => rw [tokens]; rfl
    | cons first elements =>
      -- The first element is read behind the bracket, each later one behind a comma.
      have hopen : (atValue stack).run
            (.openArray :: first.tokens ++ moreElements elements ++ rest) =
          (atFirstElement stack).run (first.tokens ++ (moreElements elements ++ rest)) := by
        rw [List.cons_append, List.cons_append, List.append_assoc]
        rfl
      rw [tokens, hopen, run_atFirstElement, run_tokens]
      exact run_moreElements [first] elements stack rest
  | object members =>
    cases members with
    | nil => rw [tokens]; rfl
    | cons member members =>
      obtain ⟨name, value⟩ := member
      have hopen : (atValue stack).run
            (.openObject :: .string name :: .colon :: value.tokens ++ moreMembers members ++ rest) =
          (atValue (.object [] name :: stack)).run
            (value.tokens ++ (moreMembers members ++ rest)) := by
        simp only [List.cons_append, List.append_assoc]
        rfl
      rw [tokens, hopen, run_tokens]
      exact run_moreMembers [(name, value)] members stack rest

theorem run_moreElements (read elements : List Json) (stack : List Frame) (rest : List Token) :
    (afterElement read stack).run (moreElements elements ++ rest) =
      (close (.array (read.reverse ++ elements)) stack).run rest := by
  cases elements with
  | nil => rw [List.append_nil]; rfl
  | cons next elements =>
    have hcomma : (afterElement read stack).run
          (.comma :: next.tokens ++ moreElements elements ++ rest) =
        (atValue (.array read :: stack)).run (next.tokens ++ (moreElements elements ++ rest)) := by
      rw [List.cons_append, List.cons_append, List.append_assoc]
      rfl
    -- What has been read is kept in reverse, and the next element is added in front.
    have hmore := run_moreElements (next :: read) elements stack rest
    rw [List.reverse_cons, List.append_assoc] at hmore
    rw [moreElements, hcomma, run_tokens]
    exact hmore

theorem run_moreMembers (read members : List (Wording × Json)) (stack : List Frame)
    (rest : List Token) :
    (afterMember read stack).run (moreMembers members ++ rest) =
      (close (.object (read.reverse ++ members)) stack).run rest := by
  cases members with
  | nil => rw [List.append_nil]; rfl
  | cons member members =>
    obtain ⟨name, value⟩ := member
    have hcomma : (afterMember read stack).run
          (.comma :: .string name :: .colon :: value.tokens ++ moreMembers members ++ rest) =
        (atValue (.object read name :: stack)).run
          (value.tokens ++ (moreMembers members ++ rest)) := by
      simp only [List.cons_append, List.append_assoc]
      rfl
    -- Members are kept in the same way.
    have hmore := run_moreMembers ((name, value) :: read) members stack rest
    rw [List.reverse_cons, List.append_assoc] at hmore
    rw [moreMembers, hcomma, run_tokens]
    exact hmore

end

/-- The tokens of a value have that value. -/
theorem ofTokens?_tokens (j : Json) : ofTokens? j.tokens = some j := by
  -- With no frame open the value is the result.
  have hrun := run_tokens j [] []
  rw [List.append_nil] at hrun
  rw [ofTokens?, hrun]
  rfl

/-! ## Reading the text -/

/-- Every string of the value, names included, is a text, and every number an integer. -/
def IsLegible (j : Json) : Prop :=
  ∀ token ∈ j.tokens, token.IsLegible

/-- The text of a legible value is read as that value. -/
theorem parse?_write {j : Json} (h : j.IsLegible) : parse? j.write = some j := by
  have hseparated : Separated j.tokens := by
    rw [← List.append_nil j.tokens]
    exact separated_tokens j nofun List.isChain_nil
  -- The text is cut into the tokens it was put together from.
  have hscan : Token.scan? (j.write.toList.map some) = some j.tokens := by
    rw [write, String.toList_ofList]
    exact Token.read_flatMap_write h hseparated
  rw [parse?, hscan]
  exact ofTokens?_tokens j

end Standings.Json
