import Standings.Filter
import Standings.Ledger.Event
import Standings.Window
import Std.Data.ExtTreeMap
import Std.Data.ExtTreeSet

/-! # Tallies

A tally gives a score to every user who has at least one event in a window that counts: for points
any grant, so a user whose points cancel out or are negative is there too; for completed questions
a successful submission, so nobody has the score zero. Tallies are maps, and two of them are equal
if they give the same scores to the same users, in whatever order the events came. -/

namespace Standings

/-- The scores of users. -/
abbrev Tally := Std.ExtTreeMap UserId Int64

namespace Tally

/-- Adds a grant to a tally of points. -/
def addGrant (tally : Tally) (grant : Grant) : Tally :=
  -- A user without a score starts at zero and is there from now on.
  tally.alter grant.user fun score => some (score.getD 0 + grant.points.toInt64)

/-- The points granted in a window, by user. -/
def ofGrants (grants : List Grant) (window : Window) : Tally :=
  (grants.filter fun grant => window.contains grant.grantedAt).foldl addGrant ∅

/-- Whether a submission counts in a window. -/
def counts (window : Window) (submission : Submission) : Bool :=
  submission.status = .success && window.contains submission.submittedAt

/-- The questions solved, by user. -/
abbrev Solved := Std.ExtTreeMap UserId (Std.ExtTreeSet Int64)

/-- Adds a submission to the questions solved. -/
def Solved.add (solved : Solved) (submission : Submission) : Solved :=
  solved.alter submission.user fun questions =>
    some ((questions.getD ∅).insert submission.question)

/-- The number of different questions solved in a window, by user. -/
def ofSubmissions (submissions : List Submission) (window : Window) : Tally :=
  -- A set holds a question once, however often it has been solved.
  ((submissions.filter (counts window)).foldl Solved.add ∅).map fun _ questions =>
    Int64.ofNat questions.size

/-- The tally of pairs of a user and a score; of two pairs of one user the later counts. -/
def ofPairs (pairs : List (UserId × Int64)) : Tally :=
  pairs.foldl (fun tally (user, score) => tally.insert user score) ∅

/-- The users of a tally with their scores, in the order of their ids. -/
def standings (tally : Tally) : List Standing :=
  tally.toList.map fun (user, score) => ⟨user, score⟩

/-- Adding a grant changes the score of its user and of nobody else. -/
theorem getElem?_addGrant (tally : Tally) (grant : Grant) (user : UserId) :
    (tally.addGrant grant)[user]? =
      if user = grant.user then some ((tally[user]?.getD 0) + grant.points.toInt64)
      else tally[user]? := by
  rw [addGrant, Std.ExtTreeMap.getElem?_alter]
  by_cases h : grant.user = user
  · subst h
    simp
  · have hne : compare grant.user user ≠ .eq := fun heq => h (Std.LawfulEqOrd.eq_of_compare heq)
    simp [hne, Ne.symm h]

/-- The standings of a tally are its users with their scores. -/
theorem mem_standings {tally : Tally} {s : Standing} :
    s ∈ tally.standings ↔ tally[s.user]? = some s.score := by
  simp only [standings, List.mem_map, Prod.exists]
  constructor
  · rintro ⟨user, score, h, rfl⟩
    exact Std.ExtTreeMap.mem_toList_iff_getElem?_eq_some.1 h
  · intro h
    exact ⟨s.user, s.score, Std.ExtTreeMap.mem_toList_iff_getElem?_eq_some.2 h, rfl⟩

end Tally

end Standings
