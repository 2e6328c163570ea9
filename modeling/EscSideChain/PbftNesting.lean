import EscSideChain.PbftHandlers

namespace EscSideChain.Pbft

open Dpos

/-!
# How deep proposals nest

`OnProposalReceived` calls itself through a view change that takes a stored
proposal out of the map.  Every level has one stored proposal fewer, so the
recursion ends, and the bound that `handle` and `innerProposal` use is large
enough: a larger bound gives the same result.
-/

variable {proposal : DPOSProposal} {node : Node} {order : IterationOrder} {level : Nat}

namespace Node

variable {setup : Setup} {moment : Moment}

def stored (node : Node) : Nat :=
  node.dispatcher.precociousProposals.len

def AgreeBelow (bound : Nat) (first second : Node → DPOSProposal → Node) : Prop :=
  ∀ node proposal, node.stored < bound → first node proposal = second node proposal

section Congruence

variable {first second : Node → DPOSProposal → Node}

theorem onViewChanged_congr {isOnDuty force : Bool} (agree : AgreeBelow node.stored first second) :
    onViewChanged moment first order isOnDuty force node =
      onViewChanged moment second order isOnDuty force node := by
  unfold onViewChanged
  cases found : node.dispatcher.updatePrecociousProposals node.view order with
  | none => rfl
  | some taken =>
    obtain ⟨proposal, dispatcher⟩ := taken
    obtain ⟨hash, present, rest⟩ := Dispatcher.updatePrecociousProposals_eq_some found
    have fewer : ({ node with dispatcher := dispatcher } : Node).stored < node.stored := by
      rw [rest]
      exact GoMap.len_erase_lt (Option.isSome_of_eq_some present)
    dsimp only
    rw [agree _ proposal fewer]

theorem changeView_congr {now : Int} {force : Bool} {parentTime : UInt64}
    (agree : AgreeBelow node.stored first second) :
    node.changeView moment first order now force parentTime =
      node.changeView moment second order now force parentTime := by
  unfold changeView
  split
  · rfl
  · exact onViewChanged_congr agree

theorem tryChangeView_congr {now : Int} (agree : AgreeBelow node.stored first second) :
    node.tryChangeView moment first order now = node.tryChangeView moment second order now := by
  unfold tryChangeView
  split
  · exact changeView_congr agree
  · rfl

theorem changeView_forced_stopped {nested : Node → DPOSProposal → Node}
    {now : Int} {parentTime : UInt64} (stopped : node.view.isRunning = false) :
    node.changeView moment nested order now true parentTime = { node with
        view := (node.view.changeView now true parentTime).1 } := by
  have none :
      node.dispatcher.updatePrecociousProposals
        (node.view.changeView now true parentTime).1 order = none := by
    refine Dispatcher.updatePrecociousProposals_not_running ?_
    rw [ConsensusView.isRunning_changeView, stopped]
  have called :
      node.view.changeView now true parentTime =
        ((node.view.changeView now true parentTime).1, true) :=
    rfl
  unfold changeView
  rw [called]
  simp only [onViewChanged, none, ↓reduceIte]

theorem resetConsensus_congr {height : UInt64} :
    node.resetConsensus moment first level height =
      node.resetConsensus moment second level height := by
  unfold resetConsensus
  split
  · dsimp only
    rw [changeView_forced_stopped rfl, changeView_forced_stopped rfl]
  · rfl

theorem onResponseResetViewReceived_congr {message : ResetView} :
    node.onResponseResetViewReceived setup moment first level message =
      node.onResponseResetViewReceived setup moment second level
        message := by
  unfold onResponseResetViewReceived
  split
  · rfl
  split
  · rfl
  split
  · rfl
  dsimp only
  rw [resetConsensus_congr]

theorem onChangeView_congr (agree : AgreeBelow node.stored first second) :
    node.onChangeView setup moment first level = node.onChangeView setup moment second level := by
  unfold onChangeView
  rw [tryChangeView_congr agree]
  dsimp only
  rw [onResponseResetViewReceived_congr]

theorem onProposalReceivedWith_congr {id : Bytes} (agree : AgreeBelow node.stored first second) :
    onProposalReceivedWith setup moment first level id node proposal =
      onProposalReceivedWith setup moment second level id node
        proposal := by
  unfold onProposalReceivedWith
  rw [onChangeView_congr agree]

end Congruence

theorem onProposalReceived_succ {fuel level : Nat} {id : Bytes} (enough : node.stored < fuel) :
    onProposalReceived setup moment (fuel + 1) level id node proposal =
      onProposalReceived setup moment fuel level id node
        proposal := by
  induction fuel generalizing level id node proposal with
  | zero => exact absurd enough (Nat.not_lt_zero _)
  | succ fuel inductionHypothesis =>
    rw [onProposalReceived, onProposalReceived]
    refine onProposalReceivedWith_congr ?_
    intro inner taken fewer
    exact inductionHypothesis (by omega)

theorem onProposalReceived_of_le {fuel more level : Nat} {id : Bytes}
    (enough : node.stored < fuel) (larger : fuel ≤ more) :
    onProposalReceived setup moment more level id node proposal =
      onProposalReceived setup moment fuel level id node
        proposal := by
  induction more, larger using Nat.le_induction with
  | base => rfl
  | succ bound larger inductionHypothesis =>
    rw [onProposalReceived_succ (by omega), inductionHypothesis]

/-- However deep the handlers may nest, they nest no deeper than there are stored proposals. -/
theorem nesting_bounded (setup : Setup) (moment : Moment) (node : Node) (id : Bytes)
    (proposal : DPOSProposal) (more : Nat) :
    onProposalReceived setup moment (node.stored + 1 + more) 0 id node proposal =
        node.handle setup moment (.proposal id proposal) ∧
      node.onChangeView setup moment
          (onProposalReceived setup moment (node.stored + more) 1 zeroPID) 0 =
        node.handle setup moment .changeView :=
  ⟨onProposalReceived_of_le (Nat.lt_succ_self _) (Nat.le_add_right _ _),
    onChangeView_congr fun _ _ fewer => onProposalReceived_of_le fewer (Nat.le_add_right _ _)⟩

end Node

end EscSideChain.Pbft
