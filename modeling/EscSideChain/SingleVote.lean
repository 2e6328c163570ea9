import Mathlib.Data.List.Pairwise
import Mathlib.Logic.Relation
import Mathlib.Order.Basic

namespace SingleVote

/-!
# Voting once for each position

A voter moves through an ordered set of positions.  At each position it votes
at most once, and it remembers only whether it has voted at the current one.
As long as it never moves back, it votes at most once at every position.
-/

variable {Position Proposal : Type*}

/-- A position, whether it is used up, and the votes cast so far. -/
structure Voter (Position Proposal : Type*) where
  position : Position
  voted : Bool
  casts : List (Position × Proposal)

inductive Step [LT Position] : Voter Position Proposal → Voter Position Proposal → Prop
  | advance (voter : Voter Position Proposal) (later : Position) (voted : Bool)
      (forward : voter.position < later) :
      Step voter { voter with position := later, voted := voted }
  | close (voter : Voter Position Proposal) : Step voter { voter with voted := true }
  | cast (voter : Voter Position Proposal) (proposal : Proposal) (fresh : voter.voted = false) :
      Step voter { voter with
        voted := true
        casts := voter.casts ++ [(voter.position, proposal)] }

/-- No vote is ahead of the voter, and no position has two. -/
structure InOrder [LT Position] (voter : Voter Position Proposal) : Prop where
  behind : ∀ vote ∈ voter.casts, vote.1 < voter.position ∨
      vote.1 = voter.position ∧ voter.voted = true
  once : voter.casts.Pairwise fun first second => first.1 ≠ second.1

variable {voter : Voter Position Proposal}

section Preorder

variable [Preorder Position]

theorem InOrder.step {voter next : Voter Position Proposal} (inOrder : InOrder voter)
    (step : Step voter next) : InOrder next := by
  cases step with
  | advance later voted forward =>
    refine ⟨fun vote member => .inl ?_, inOrder.once⟩
    rcases inOrder.behind vote member with earlier | ⟨here, -⟩
    · exact earlier.trans forward
    · exact here ▸ forward
  | close =>
    refine ⟨fun vote member => ?_, inOrder.once⟩
    rcases inOrder.behind vote member with earlier | ⟨here, -⟩
    · exact .inl earlier
    · exact .inr ⟨here, rfl⟩
  | cast proposal fresh =>
    -- Before the cast no vote is at the current position.
    have strictly : ∀ vote ∈ voter.casts, vote.1 < voter.position := by
      intro vote member
      rcases inOrder.behind vote member with earlier | ⟨-, voted⟩
      · exact earlier
      · simp [fresh] at voted
    constructor
    · intro vote member
      rcases List.mem_append.mp member with earlier | latest
      · exact .inl (strictly vote earlier)
      · cases List.mem_singleton.mp latest
        exact .inr ⟨rfl, rfl⟩
    · refine List.pairwise_append.mpr ⟨inOrder.once, List.pairwise_singleton _ _, ?_⟩
      intro vote member latest isLatest
      cases List.mem_singleton.mp isLatest
      exact (strictly vote member).ne

theorem InOrder.run {voter next : Voter Position Proposal} (inOrder : InOrder voter)
    (steps : Relation.ReflTransGen Step voter next) : InOrder next := by
  induction steps with
  | refl => exact inOrder
  | tail _ last inductionHypothesis => exact inductionHypothesis.step last

theorem InOrder.unique (inOrder : InOrder voter)
    {first second : Position × Proposal} (firstCast : first ∈ voter.casts)
    (secondCast : second ∈ voter.casts) (same : first.1 = second.1) : first = second := by
  have symmetric : Std.Symm
      fun first second : Position × Proposal =>
        first.1 ≠ second.1 :=
    ⟨fun _ _ apart => apart.symm⟩
  by_contra different
  exact inOrder.once.forall firstCast secondCast different same

end Preorder

end SingleVote
