import EscSideChain.PbftHandlers

namespace EscSideChain.Pbft

open Dpos

/-!
# What decides on a producer's votes

The votes that a producer broadcast, and the parts of its state that
decide whether it votes: the view, the finished height, the flag that a vote
went out, the blocks that wait in the pool or for their parent, and the recorded requests for a
reset.  Counting the votes of others leaves all of them alone.
-/

/-- A vote that was broadcast, with its proposal and the height of the proposed block. -/
structure Ballot where
  vote : DPOSProposalVote
  about : DPOSProposal
  height : UInt64
  deriving DecidableEq

/-- The ballot that a message casts. -/
def Outgoing.ballot : Outgoing → Option Ballot
  | .vote cast about height => some ⟨cast, about, height⟩
  | _ => none

/-- An accepting vote that was broadcast. -/
structure Cast where
  about : DPOSProposal
  height : UInt64
  deriving DecidableEq

/-- The accepting vote of a ballot. -/
def Ballot.accepted (ballot : Ballot) : Option Cast :=
  if ballot.vote.accept then some ⟨ballot.about, ballot.height⟩
  else none

namespace Node

/-- The votes that the node broadcast, oldest first. -/
def ballots (node : Node) : List Ballot :=
  node.sent.filterMap Outgoing.ballot

/-- The accepting votes among them. -/
def casts (node : Node) : List Cast :=
  node.ballots.filterMap Ballot.accepted

end Node

/-- What counting the votes of others leaves alone. -/
structure VotingState where
  view : ConsensusView
  finishedHeight : UInt64
  voted : Bool
  ballots : List Ballot
  blocks : GoMap Hash Header
  futureBlocks : GoMap Hash Header
  requests : List Bytes

variable {proposal : DPOSProposal} {vote : DPOSProposalVote} {order : IterationOrder} {node : Node}

namespace Node

/-- The voting state of a node. -/
def votingState (node : Node) : VotingState where
  view := node.view
  finishedHeight := node.dispatcher.finishedHeight
  voted := node.dispatcher.proposalProcessFinished
  ballots := node.ballots
  blocks := node.pool.blocks
  futureBlocks := node.pool.futureBlocks
  requests := node.dispatcher.resetViewRequests

theorem ballots_broadMessage {message : Outgoing} (other : message.ballot = none) :
    (node.broadMessage message).ballots = node.ballots := by
  simp [ballots, broadMessage, other]

theorem ballots_broadMessage_vote (node : Node) (vote : DPOSProposalVote) (proposal : DPOSProposal)
    (height : UInt64) :
    (node.broadMessage (.vote vote proposal height)).ballots =
      node.ballots ++ [⟨vote, proposal, height⟩] := by
  simp [ballots, broadMessage, Outgoing.ballot]

theorem votingState_broadMessage {message : Outgoing} (other : message.ballot = none) :
    (node.broadMessage message).votingState = node.votingState := by
  have same : (node.broadMessage message).ballots = node.ballots := ballots_broadMessage other
  unfold votingState
  rw [same]
  rfl

theorem blocks_appendConfirm (verifyConfirm : Confirm → UInt64 → Except String Unit)
    (pool : BlockPool) (confirm : Confirm) :
    (pool.appendConfirm verifyConfirm confirm).1.blocks = pool.blocks ∧
      (pool.appendConfirm verifyConfirm confirm).1.futureBlocks = pool.futureBlocks := by
  unfold BlockPool.appendConfirm
  dsimp only
  split
  · exact ⟨rfl, rfl⟩
  split
  · exact ⟨rfl, rfl⟩
  · split <;> exact ⟨rfl, rfl⟩

variable {setup : Setup} {moment : Moment}

theorem votingState_onConfirm (node : Node) (confirm : Confirm) :
    (node.onConfirm setup moment confirm).1.votingState = node.votingState := by
  obtain ⟨blocks, future⟩ := blocks_appendConfirm
    (node.verifier setup moment).verifyConfirm node.pool confirm
  unfold onConfirm
  split
  · rfl
  next pool appended =>
    rw [appended] at blocks future
    dsimp only at blocks future ⊢
    split
    · simp [votingState, ballots, blocks, future]
    split
    · split
      · simp [votingState, ballots, blocks, future]
      split
      · simp [votingState, ballots, blocks, future]
      · split <;> simp [votingState, ballots, blocks, future]
    · simp [votingState, ballots, blocks, future]

theorem votingState_onUnConfirm (node : Node) (unconfirm : Confirm) :
    (node.onUnConfirm unconfirm).votingState = node.votingState := by
  unfold onUnConfirm
  split
  · rfl
  · split <;> rfl

section

variable (order : IterationOrder)

theorem votingState_countAccept (node : Node) (vote : DPOSProposalVote) :
    (node.countAccept setup moment order vote).1.votingState = node.votingState := by
  unfold countAccept
  dsimp only
  split
  · split
    · rfl
    · exact (votingState_onConfirm _ _).trans rfl
  · rfl

theorem votingState_countReject (node : Node) (vote : DPOSProposalVote) :
    (node.countReject setup order vote).1.votingState = node.votingState := by
  unfold countReject
  dsimp only
  split
  · split
    · rfl
    · exact (votingState_onUnConfirm _ _).trans rfl
  · rfl

theorem votingState_processVote (node : Node) (vote : DPOSProposalVote) :
    (node.processVote setup moment order vote).1.votingState = node.votingState := by
  unfold processVote
  split
  · rfl
  split
  · rfl
  split
  · rfl
  split
  · rfl
  split
  · rfl
  split
  · exact votingState_countAccept order node vote
  · exact votingState_countReject order node vote

theorem votingState_processPendingVotes (proposalHash : Hash)
    (votes : List DPOSProposalVote) (node : Node) :
    (processPendingVotes setup moment order proposalHash
      votes node).1.votingState = node.votingState := by
  induction votes generalizing node with
  | nil => rfl
  | cons vote rest inductionHypothesis =>
    have counted : (node.processVote setup moment order vote).1.votingState = node.votingState :=
      votingState_processVote order node vote
    unfold processPendingVotes
    split
    · split
      · next processedEq => rwa [processedEq] at counted
      next processedEq =>
        rw [processedEq] at counted
        exact (inductionHypothesis _).trans counted
    · exact inductionHypothesis node

theorem votingState_setProcessingProposal (node : Node) (proposal : DPOSProposal) :
    (node.setProcessingProposal setup moment order proposal).1.votingState = node.votingState :=
  (votingState_processPendingVotes order _ _ _).trans rfl

theorem votingState_processProposal (node : Node) (id : Bytes) (proposal : DPOSProposal) :
    (node.processProposal setup moment order id proposal).1.votingState = node.votingState := by
  unfold processProposal
  dsimp only
  split
  · dsimp only
    split <;> rfl
  split
  · rfl
  split
  · rfl
  split
  · rfl
  split
  · rfl
  · exact votingState_setProcessingProposal order node proposal

end

theorem processProposal_error_eq_none {id : Bytes}
    (taken : (node.processProposal setup moment order id proposal).2.error = none) :
    proposal.viewOffset = node.view.viewOffset := by
  unfold processProposal at taken
  dsimp only at taken
  by_cases otherView : node.view.viewOffset ≠ proposal.viewOffset
  · simp [otherView] at taken
  · exact (not_not.mp otherView).symm

theorem votingState_rejectProposal (order : IterationOrder) (node : Node)
    (proposal : DPOSProposal) :
    (node.rejectProposal setup moment order proposal).1.votingState = node.votingState := by
  have processing :
      (node.setProcessingProposal setup moment order proposal).1.votingState = node.votingState :=
    votingState_setProcessingProposal order node proposal
  unfold rejectProposal
  split
  all_goals
    next outcome => rwa [outcome] at processing

theorem startVote_eq_some {accept : Bool}
    (started : node.startVote setup proposal accept = some vote) :
    vote.accept = accept ∧ vote.proposalHash = setup.ela.proposalHash proposal ∧
      vote.signer = node.view.publicKey := by
  unfold startVote at started
  dsimp only at started
  split at started
  · cases started
  cases started
  exact ⟨rfl, rfl, rfl⟩

theorem rejectProposal_vote
    (rejected : (node.rejectProposal setup moment order proposal).2 = some vote) :
    vote.accept = false ∧ vote.proposalHash = setup.ela.proposalHash proposal := by
  unfold rejectProposal at rejected
  split at rejected
  · cases rejected
  obtain ⟨rejecting, sameProposal, -⟩ := startVote_eq_some rejected
  exact ⟨rejecting, sameProposal⟩

theorem votingState_recoverAbnormalState (node : Node) :
    (node.recoverAbnormalState moment).votingState = node.votingState := by
  unfold recoverAbnormalState
  split
  · rfl
  split
  · rfl
  split
  · rfl
  · exact (votingState_broadMessage rfl).trans rfl

theorem votingState_noteNotHandled (node : Node) (id : Bytes) :
    (node.noteNotHandled moment id).votingState = node.votingState := by
  unfold noteNotHandled
  dsimp only
  split
  all_goals
    split
    · exact (votingState_recoverAbnormalState _).trans rfl
    · rfl

/-! ## Choosing and sending a vote -/

theorem votingState_chooseVote (order : IterationOrder) (node : Node) (id : Bytes)
    (proposal : DPOSProposal) :
    (node.chooseVote setup moment order id proposal).1.votingState = node.votingState := by
  have processed :
      (node.processProposal setup moment order id proposal).1.votingState = node.votingState :=
    votingState_processProposal order node id proposal
  unfold chooseVote
  dsimp only
  split
  · next outcome =>
      rw [outcome] at processed
      split
      · exact (votingState_rejectProposal order _ proposal).trans processed
      split
      · exact processed
      · exact (votingState_noteNotHandled _ id).trans processed
  · next outcome =>
      rw [outcome] at processed
      split
      · exact (votingState_rejectProposal order _ proposal).trans processed
      · exact processed

theorem chooseVote_vote {id : Bytes}
    (chosen : (node.chooseVote setup moment order id proposal).2.1 = some vote) :
    vote.proposalHash = setup.ela.proposalHash proposal ∧
      (vote.accept = true → proposal.viewOffset = node.view.viewOffset ∧
          node.pool.isBadBlockProposal proposal = false) := by
  unfold chooseVote at chosen
  dsimp only at chosen
  split at chosen
  · split at chosen
    · obtain ⟨rejecting, sameProposal⟩ := rejectProposal_vote chosen
      exact ⟨sameProposal, fun accepting => by
        simp [accepting] at rejecting⟩
    · split at chosen <;> cases chosen
  · next outcome =>
      split at chosen
      · obtain ⟨rejecting, sameProposal⟩ := rejectProposal_vote chosen
        exact ⟨sameProposal, fun accepting => by
          simp [accepting] at rejecting⟩
      next good =>
        have taken : (node.processProposal setup moment order id proposal).2.error = none := by
          rw [outcome]
        exact ⟨(startVote_eq_some chosen).2.1, fun _ =>
          ⟨processProposal_error_eq_none taken, by simpa using good⟩⟩

theorem proposalHeight_of_lookup {block : Header}
    (waiting : node.pool.blocks.lookup proposal.blockHash = some block) :
    node.proposalHeight proposal = blockHeight block := by
  simp [proposalHeight, waiting]

theorem sendVote_cases (node : Node) (proposal : DPOSProposal) (vote : Option DPOSProposalVote)
    (handled : Bool) :
    (node.sendVote proposal vote handled).votingState = node.votingState ∨ ∃ ballot,
        vote = some ballot ∧ node.dispatcher.proposalProcessFinished = false ∧
          (node.sendVote proposal vote handled).votingState = { node.votingState with
              voted := true
              ballots := node.ballots ++ [⟨ballot, proposal, node.proposalHeight proposal⟩] } := by
  have noted : ∀ handled : Bool, ∃ other : Node,
        (if handled then { node with notHandledProposal := [] }
          else node) = other ∧
        other.votingState = node.votingState ∧
        other.proposalHeight proposal = node.proposalHeight proposal := by
    intro handled
    cases handled <;> exact ⟨_, rfl, rfl, rfl⟩
  obtain ⟨other, otherEq, sameState, sameHeight⟩ := noted handled
  have sameVoted : other.dispatcher.proposalProcessFinished =
      node.dispatcher.proposalProcessFinished :=
    congrArg VotingState.voted sameState
  unfold sendVote
  rw [otherEq]
  cases vote with
  | none => exact .inl sameState
  | some ballot =>
    dsimp only
    split
    · exact .inl sameState
    next fresh =>
      refine .inr ⟨ballot, rfl, ?_, ?_⟩
      · rw [← sameVoted]
        simpa using fresh
      · rw [sameHeight, ← sameState]
        have sameBallots : node.ballots = other.ballots :=
          (congrArg VotingState.ballots sameState).symm
        rw [sameBallots]
        rw [← ballots_broadMessage_vote]
        rfl

structure Answers (setup : Setup) (node : Node) (proposal : DPOSProposal)
    (vote : DPOSProposalVote) : Prop where
  sameProposal : vote.proposalHash = setup.ela.proposalHash proposal
  sameView : vote.accept = true → proposal.viewOffset = node.view.viewOffset
  waiting : vote.accept = true → ∃ block, node.pool.blocks.lookup proposal.blockHash = some block

theorem chooseVote_answers {id : Bytes}
    (known : ¬((node.pool.blocks.lookup proposal.blockHash).isNone ∧
      node.pool.isBadBlockProposal proposal = false))
    (chosen : (node.chooseVote setup moment order id proposal).2.1 = some vote) :
    Answers setup (node.chooseVote setup moment order id proposal).1
      proposal vote := by
  have same : (node.chooseVote setup moment order id proposal).1.votingState = node.votingState :=
    votingState_chooseVote _ _ _ _
  have view : (node.chooseVote setup moment order id proposal).1.view = node.view :=
    congrArg VotingState.view same
  have blocks : (node.chooseVote setup moment order id proposal).1.pool.blocks = node.pool.blocks :=
    congrArg VotingState.blocks same
  obtain ⟨sameProposal, accepts⟩ := chooseVote_vote chosen
  refine ⟨sameProposal, ?_, ?_⟩
  · intro accepting
    rw [view]
    exact (accepts accepting).1
  · intro accepting
    rw [blocks]
    refine Option.ne_none_iff_exists'.mp ?_
    simpa [(accepts accepting).2] using known

theorem onProposalReceivedWith_cases (nested : Node → DPOSProposal → Node) (level : Nat)
    (id : Bytes) (node : Node) (proposal : DPOSProposal) :
    onProposalReceivedWith setup moment nested level id node proposal = node ∨
      onProposalReceivedWith setup moment nested level id node
        proposal = node.onChangeView setup moment nested level ∨
      ∃ chosen vote handled, chosen.votingState =
            (node.onChangeView setup moment nested level).votingState ∧
          (∀ ballot, vote = some ballot → Answers setup chosen proposal ballot) ∧
          onProposalReceivedWith setup moment nested level id node
            proposal = chosen.sendVote proposal vote handled := by
  unfold onProposalReceivedWith
  dsimp only
  split
  · exact .inl rfl
  split
  · exact .inl rfl
  right
  split
  · exact .inl rfl
  split
  · exact .inl rfl
  next known =>
    exact .inr ⟨_, _, _, votingState_chooseVote _ _ _ _,
      fun _ chosen => chooseVote_answers known chosen, rfl⟩

/-! ## Votes and confirms of others -/

theorem votingState_processConfirmVotes (votes : List DPOSProposalVote) (aliased : List Hash)
    (node : Node) :
    (processConfirmVotes setup moment votes aliased node).votingState = node.votingState := by
  induction votes generalizing aliased node with
  | nil => rfl
  | cons vote rest inductionHypothesis =>
    unfold processConfirmVotes
    exact (inductionHypothesis _ _).trans ((votingState_processVote _ _ _).trans rfl)

theorem votingState_onConfirmReceived (node : Node) (confirm : Confirm) (height : UInt64) :
    (node.onConfirmReceived setup moment confirm height).votingState = node.votingState := by
  unfold onConfirmReceived
  split
  · rfl
  split
  · rfl
  split
  · rfl
  split
  · rfl
  split
  · rfl
  split
  · rfl
  · exact (votingState_processConfirmVotes _ _ _).trans rfl

theorem votingState_onVoteAccepted (node : Node) (vote : DPOSProposalVote) :
    (node.onVoteAccepted setup moment vote).votingState = node.votingState := by
  unfold onVoteAccepted
  split
  · rfl
  split
  · rfl
  split
  · rfl
  split
  · rfl
  split
  · rfl
  split
  · rfl
  split
  · rfl
  split
  · rfl
  · exact votingState_processVote _ _ _

end Node

end EscSideChain.Pbft
