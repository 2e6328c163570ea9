import EscSideChain.DposBlockPool
import EscSideChain.DposConsensusView

namespace EscSideChain.Dpos

/-!
# The dispatcher's maps and flags

The data of `dpos.Dispatcher` and the operations on it that make no call back
into the engine.  The two flags that decide whether a proposal is voted on are
`processingProposal` and `proposalProcessFinished`; `cleanProposals` clears
both.
-/

/-- The state of `dpos.Dispatcher` apart from its consensus view. -/
structure Dispatcher where
  acceptVotes : GoMap Hash DPOSProposalVote
  rejectedVotes : GoMap Hash DPOSProposalVote
  pendingVotes : GoMap Hash DPOSProposalVote
  precociousProposals : GoMap Hash DPOSProposal
  processingProposal : Option DPOSProposal
  proposalProcessFinished : Bool
  finishedHeight : UInt64
  finishedBlockSealHash : Hash
  finishedProposal : Hash
  resetViewRequests : List Bytes

variable {dispatcher : Dispatcher} {order : IterationOrder} {view : ConsensusView}

namespace Dispatcher

/-- The dispatcher that `NewDispatcher` builds. -/
def new : Dispatcher where
  acceptVotes := ∅
  rejectedVotes := ∅
  pendingVotes := ∅
  precociousProposals := ∅
  processingProposal := none
  proposalProcessFinished := false
  finishedHeight := 0
  finishedBlockSealHash := emptyHash
  finishedProposal := emptyHash
  resetViewRequests := []

def addPendingVote (ela : ElaLibrary) (dispatcher : Dispatcher)
    (vote : DPOSProposalVote) : Dispatcher :=
  { dispatcher with
    pendingVotes :=
      dispatcher.pendingVotes.insert (ela.voteHash vote) vote }

def alreadyExistVote (ela : ElaLibrary) (dispatcher : Dispatcher)
    (vote : DPOSProposalVote) : Bool :=
  (dispatcher.acceptVotes.lookup (ela.voteHash vote)).isSome ||
    (dispatcher.rejectedVotes.lookup (ela.voteHash vote)).isSome

/--
`CleanProposals`.  A view change keeps the stored proposals of the current and
of later views.
-/
def cleanProposals (dispatcher : Dispatcher) (changeView : Bool)
    (currentOffset : UInt32) : Dispatcher :=
  { dispatcher with
    processingProposal := none
    acceptVotes := ∅
    rejectedVotes := ∅
    pendingVotes := ∅
    proposalProcessFinished := false
    precociousProposals :=
      if changeView then
        GoMap.deleteWhere (fun _ proposal => proposal.viewOffset < currentOffset)
          dispatcher.precociousProposals
      else ∅ }

/--
`UpdatePrecociousProposals`: take a stored proposal of the current view out of
the map, the first one that the iteration meets.
-/
def updatePrecociousProposals (dispatcher : Dispatcher) (view : ConsensusView)
    (order : IterationOrder) : Option (DPOSProposal × Dispatcher) :=
  match (GoMap.iterate order dispatcher.precociousProposals).find?
      fun entry =>
        view.isRunning && entry.2.viewOffset = view.viewOffset with
  | none => none
  | some (hash, proposal) =>
    some (proposal, { dispatcher with
      precociousProposals :=
        dispatcher.precociousProposals.erase hash })

/-- The confirm that `createConfirm` builds from the accept votes. -/
def createConfirm (dispatcher : Dispatcher) (order : IterationOrder) : Option Confirm :=
  dispatcher.processingProposal.map fun proposal =>
    ⟨proposal, (GoMap.iterate order dispatcher.acceptVotes).map Prod.snd⟩

def recordViewRequest (dispatcher : Dispatcher) (sponsor : Bytes) : Dispatcher :=
  if dispatcher.resetViewRequests.contains sponsor then dispatcher
  else
    { dispatcher with
      resetViewRequests := sponsor :: dispatcher.resetViewRequests }

theorem updatePrecociousProposals_not_running (stopped : view.isRunning = false) :
    dispatcher.updatePrecociousProposals view order = none := by
  have nothing : (GoMap.iterate order dispatcher.precociousProposals).find? (fun entry =>
          view.isRunning && entry.2.viewOffset = view.viewOffset) = none := by
    simp [stopped]
  simp only [updatePrecociousProposals, nothing]

theorem updatePrecociousProposals_eq_none_iff :
    dispatcher.updatePrecociousProposals view order = none ↔ view.isRunning = false ∨
        ∀ hash proposal, dispatcher.precociousProposals.lookup hash = some proposal →
          proposal.viewOffset ≠ view.viewOffset := by
  have searched :
      dispatcher.updatePrecociousProposals view order = none ↔
        (GoMap.iterate order dispatcher.precociousProposals).find? (fun entry =>
            view.isRunning && entry.2.viewOffset = view.viewOffset) = none := by
    unfold updatePrecociousProposals
    generalize (GoMap.iterate order dispatcher.precociousProposals).find? _ = found
    cases found <;> simp
  rw [searched, List.find?_eq_none]
  cases running : view.isRunning with
  | false => simp
  | true => simp [GoMap.mem_iterate]

theorem updatePrecociousProposals_eq_some {dispatcher taken : Dispatcher} {proposal : DPOSProposal}
    (found : dispatcher.updatePrecociousProposals view order = some (proposal, taken)) :
    ∃ hash, dispatcher.precociousProposals.lookup hash = some proposal ∧ taken = { dispatcher with
          precociousProposals :=
            dispatcher.precociousProposals.erase hash } := by
  unfold updatePrecociousProposals at found
  split at found
  · cases found
  next hash stored first =>
    cases found
    exact ⟨hash, GoMap.mem_iterate.mp (List.mem_of_find?_eq_some first), rfl⟩

end Dispatcher

end EscSideChain.Dpos
