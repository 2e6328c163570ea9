import EscSideChain.PbftNesting
import EscSideChain.PbftVotingState

namespace EscSideChain.Pbft

open Dpos

/-!
# What the handler of a proposal does step by step

`OnProposalReceived` changes the view, which may hand a stored proposal to
`OnProposalReceived` again, asks for a reset if the view has gone too far, and
answers the proposal.  A relation between the nodes before and after that is
reflexive, transitive and holds for each of these steps holds for the whole
handler, however deep the proposals nest.
-/

namespace Node

variable (setup : Setup) (moment : Moment)

/-- The request that `OnChangeView` creates. -/
def ownRequest (node : Node) : ResetView :=
  ⟨node.view.publicKey, setup.sign (setup.resetViewData node.view.publicKey)⟩

/-- The second half of `OnChangeView`, after the view has been changed. -/
def askReset (level : Nat) (node : Node) : Node :=
  if node.view.viewOffset ≥ maxViewOffset then
    let message := node.ownRequest setup
    let broadcast := node.broadMessage (.resetView message)
    if broadcast.dispatcher.resetViewRequests.contains message.sponsor then broadcast
    else
      broadcast.onResponseResetViewReceived setup moment
        (node.innerProposal setup moment) level message
  else node

theorem onChangeView_eq_askReset (nested : Node → DPOSProposal → Node) (level : Nat) (node : Node) :
    node.onChangeView setup moment nested level =
      (node.tryChangeView moment nested (moment.order level)
        (moment.clock level 0)).askReset setup moment level := by
  unfold onChangeView askReset ownRequest
  dsimp only
  rw [onResponseResetViewReceived_congr]

/-- The part of `OnProposalReceived` that answers the proposal. -/
def answer (order : IterationOrder) (id : Bytes) (proposal : DPOSProposal) (node : Node) : Node :=
  let chosen := node.chooseVote setup moment order id proposal
  chosen.1.sendVote proposal chosen.2.1 chosen.2.2

def KnowsBlock (node : Node) (proposal : DPOSProposal) : Prop :=
  ¬((node.pool.blocks.lookup proposal.blockHash).isNone ∧
    node.pool.isBadBlockProposal proposal = false)

end Node

structure HandlerRule (setup : Setup) (moment : Moment) (related : Node → Node → Prop) : Prop where
  refl : ∀ node, related node node
  trans : ∀ {first second third}, related first second → related second third → related first third
  taken : ∀ node hash, related node { node with
    dispatcher := { node.dispatcher with
      precociousProposals :=
        node.dispatcher.precociousProposals.erase hash } }
  moved : ∀ node now force parentTime, related node { node with
    view := (node.view.changeView now force parentTime).1 }
  cleaned : ∀ node, related node (node.cleanProposals true)
  ready : ∀ node, related node { node with view := node.view.setReady }
  asked : ∀ node level, related node (node.askReset setup moment level)
  answered : ∀ node order id proposal, node.KnowsBlock proposal →
    related node (node.answer setup moment order id proposal)

namespace HandlerRule

variable {setup : Setup} {moment : Moment}
variable {related : Node → Node → Prop}
variable {nested : Node → DPOSProposal → Node}

section

variable (rule : HandlerRule setup moment related)
  (inner : ∀ state proposal, related state (nested state proposal))

include rule inner

theorem onViewChanged (order : IterationOrder) (isOnDuty force : Bool) (node : Node) :
    related node (Node.onViewChanged moment nested order isOnDuty force node) := by
  have settled : ∀ state : Node, related state (if force then
        state
      else if moment.isCurrent ∧ isOnDuty then
        { state.cleanProposals true with
          view := (state.cleanProposals true).view.setReady }
      else
        state.cleanProposals true) := by
    intro state
    split
    · exact rule.refl state
    split
    · exact rule.trans (rule.cleaned state) (rule.ready _)
    · exact rule.cleaned state
  unfold Node.onViewChanged
  cases found : node.dispatcher.updatePrecociousProposals node.view order with
  | none => exact settled node
  | some stored =>
    obtain ⟨proposal, dispatcher⟩ := stored
    obtain ⟨hash, -, rfl⟩ := Dispatcher.updatePrecociousProposals_eq_some found
    exact rule.trans (rule.trans (rule.taken node hash) (inner _ proposal)) (settled _)

theorem changeView (order : IterationOrder)
    (now : Int) (force : Bool) (parentTime : UInt64) (node : Node) :
    related node (node.changeView moment nested order now force parentTime) := by
  have moved := rule.moved node now force parentTime
  unfold Node.changeView
  split
  · next unheard =>
      rw [unheard] at moved
      exact moved
  next heard =>
    rw [heard] at moved
    exact rule.trans moved (rule.onViewChanged inner order _ force _)

theorem onChangeView (level : Nat) (node : Node) :
    related node (node.onChangeView setup moment nested level) := by
  have changed : related node
      (node.tryChangeView moment nested (moment.order level) (moment.clock level 0)) := by
    unfold Node.tryChangeView
    split
    · exact rule.changeView inner _ _ _ _ node
    · exact rule.refl node
  rw [Node.onChangeView_eq_askReset]
  exact rule.trans changed (rule.asked _ level)

end

theorem onProposalReceivedWith (rule : HandlerRule setup moment related)
    (inner : ∀ state proposal, related state (nested state proposal)) (level : Nat) (id : Bytes)
    (node : Node) (proposal : DPOSProposal) :
    related node (Node.onProposalReceivedWith setup moment nested level id node proposal) := by
  have changed : related node (node.onChangeView setup moment nested level) :=
    rule.onChangeView inner level node
  unfold Node.onProposalReceivedWith
  split
  · exact rule.refl node
  split
  · exact rule.refl node
  dsimp only
  split
  · exact changed
  split
  · exact changed
  next known =>
    have answered := rule.answered _ (moment.order level) id proposal known
    unfold Node.answer at answered
    generalize Node.chooseVote setup moment (moment.order level)
      (node.onChangeView setup moment nested level) id proposal = outcome at answered ⊢
    obtain ⟨chosen, vote, handled⟩ := outcome
    exact rule.trans changed answered

theorem onProposalReceived (rule : HandlerRule setup moment related) (fuel level : Nat) (id : Bytes)
    (node : Node) (proposal : DPOSProposal) :
    related node (Node.onProposalReceived setup moment fuel level id node proposal) := by
  induction fuel generalizing level id node proposal with
  | zero => exact rule.refl node
  | succ fuel inductionHypothesis =>
    exact rule.onProposalReceivedWith
      (inductionHypothesis (level + 1) zeroPID) level id node proposal

end HandlerRule

end EscSideChain.Pbft
