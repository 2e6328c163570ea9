import EscSideChain.PbftHandlerRules

namespace EscSideChain.Pbft

open Dpos

/-!
# What a producer's votes are about

Whatever events a producer handles, each vote it broadcast carries the hash of
the proposal it was cast for, and an accept vote was cast for a block that the
producer had, of the height that the vote is recorded with.
-/

def Event.block? : Event → Option Header
  | .block header => some header
  | .sealBlock header => some header
  | _ => none

/-- The vote is for its proposal, and an accept has the height of a known block. -/
structure Ballot.NamesBlock (setup : Setup) (known : Header → Prop) (ballot : Ballot) : Prop where
  sameProposal : ballot.vote.proposalHash = setup.ela.proposalHash ballot.about
  height : ballot.vote.accept = true → ∃ block, known block ∧
        setup.sealHash block = ballot.about.blockHash ∧ blockHeight block = ballot.height

/-- The pool holds known blocks, and the votes name such. -/
structure Recorded (setup : Setup) (known : Header → Prop) (node : Node) : Prop where
  pooled : ∀ hash block, node.pool.blocks.lookup hash = some block →
    known block ∧ setup.sealHash block = hash
  future : ∀ hash block, node.pool.futureBlocks.lookup hash = some block → known block
  votes : ∀ ballot ∈ node.ballots, ballot.NamesBlock setup known

variable {node : Node} {proposal : DPOSProposal} {block : Header}

namespace Recorded

variable {setup : Setup} {moment : Moment} {known : Header → Prop}

theorem of_same {before after : Node} (recorded : Recorded setup known before)
    (blocks : after.pool.blocks = before.pool.blocks)
    (future : after.pool.futureBlocks = before.pool.futureBlocks)
    (ballots : after.ballots = before.ballots) : Recorded setup known after := by
  refine ⟨?_, ?_, ?_⟩
  · rw [blocks]
    exact recorded.pooled
  · rw [future]
    exact recorded.future
  · rw [ballots]
    exact recorded.votes

theorem of_votingState {before after : Node} (recorded : Recorded setup known before)
    (same : after.votingState = before.votingState) : Recorded setup known after :=
  recorded.of_same (congrArg VotingState.blocks same) (congrArg VotingState.futureBlocks same)
    (congrArg VotingState.ballots same)

theorem new (publicKey : Bytes) (producers : Producers) :
    Recorded setup known (Node.new publicKey producers) where
  pooled _ _ found := by
    cases found
  future _ _ found := by
    cases found
  votes _ member := absurd member List.not_mem_nil

theorem appendDposBlock (recorded : Recorded setup known node)
    {verifyBlock : Header → Except HeaderError Unit} (isKnown : known block) :
    Recorded setup known { node with
      pool := (node.pool.appendDposBlock setup.sealHash verifyBlock block).1 } := by
  unfold BlockPool.appendDposBlock
  dsimp only
  split
  · exact recorded
  split
  · exact recorded
  refine ⟨fun hash stored found => ?_, fun hash stored found => ?_, recorded.votes⟩
  · rcases GoMap.lookup_insert_cases found with ⟨rfl, rfl⟩ | before
    · exact ⟨isKnown, rfl⟩
    · exact recorded.pooled hash stored before
  · by_cases same : hash = setup.sealHash block
    · subst same
      rw [AList.lookup_erase] at found
      cases found
    rw [AList.lookup_erase_ne same] at found
    exact recorded.future hash stored found

theorem appendFutureBlock (recorded : Recorded setup known node)
    (isKnown : known block) : Recorded setup known { node with
      pool := node.pool.appendFutureBlock setup.sealHash block } := by
  unfold BlockPool.appendFutureBlock
  split
  · exact recorded
  refine ⟨recorded.pooled, fun hash stored found => ?_, recorded.votes⟩
  rcases GoMap.lookup_insert_cases found with ⟨rfl, rfl⟩ | before
  · exact isKnown
  · exact recorded.future hash stored before

theorem addBallot {before after : Node} (recorded : Recorded setup known before) {ballot : Ballot}
    (blocks : after.pool.blocks = before.pool.blocks)
    (future : after.pool.futureBlocks = before.pool.futureBlocks)
    (ballots : after.ballots = before.ballots ++ [ballot]) (names : ballot.NamesBlock setup known) :
    Recorded setup known after := by
  refine ⟨by rw [blocks]; exact recorded.pooled, by rw [future]; exact recorded.future, ?_⟩
  rw [ballots]
  intro cast member
  rcases List.mem_append.mp member with earlier | latest
  · exact recorded.votes cast earlier
  · cases List.mem_singleton.mp latest
    exact names

theorem sendVote (recorded : Recorded setup known node)
    {vote : Option DPOSProposalVote} {handled : Bool}
    (about : ∀ ballot, vote = some ballot → Ballot.NamesBlock setup known
        ⟨ballot, proposal, node.proposalHeight proposal⟩) :
    Recorded setup known (node.sendVote proposal vote handled) := by
  rcases Node.sendVote_cases node proposal vote handled with silent | ⟨ballot, isVote, -, sent⟩
  · exact recorded.of_votingState silent
  · exact recorded.addBallot (congrArg VotingState.blocks sent)
      (congrArg VotingState.futureBlocks sent)
      (congrArg VotingState.ballots sent) (about ballot isVote)

theorem resetConsensus {nested : Node → DPOSProposal → Node}
    (recorded : Recorded setup known node) (level : Nat) (height : UInt64) :
    Recorded setup known (node.resetConsensus moment nested level height) := by
  unfold Node.resetConsensus
  dsimp only
  split
  · rw [Node.changeView_forced_stopped rfl]
    exact recorded.of_same rfl rfl rfl
  · exact recorded.of_same rfl rfl rfl

theorem onResponseResetViewReceived {nested : Node → DPOSProposal → Node} {node : Node}
    (recorded : Recorded setup known node) (level : Nat) (message : ResetView) :
    Recorded setup known (node.onResponseResetViewReceived setup moment nested level message) := by
  have noted : Recorded setup known { node with
      dispatcher :=
        node.dispatcher.recordViewRequest message.sponsor } :=
    recorded.of_same rfl rfl rfl
  unfold Node.onResponseResetViewReceived
  split
  · exact recorded
  split
  · exact recorded
  split
  · exact recorded
  dsimp only
  split
  · exact noted.resetConsensus level _
  · exact noted

theorem askReset (recorded : Recorded setup known node) (level : Nat) :
    Recorded setup known (node.askReset setup moment level) := by
  have sent : Recorded setup known (node.broadMessage (.resetView (node.ownRequest setup))) :=
    recorded.of_votingState (Node.votingState_broadMessage rfl)
  unfold Node.askReset
  split
  · dsimp only
    split
    · exact sent
    · exact sent.onResponseResetViewReceived level _
  · exact recorded

theorem answer (recorded : Recorded setup known node) (order : IterationOrder)
    (id : Bytes) (knows : node.KnowsBlock proposal) :
    Recorded setup known (node.answer setup moment order id proposal) := by
  have chosenRecorded : Recorded setup known (node.chooseVote setup moment order id proposal).1 :=
    recorded.of_votingState (Node.votingState_chooseVote _ _ _ _)
  refine chosenRecorded.sendVote ?_
  intro ballot sent
  have answers := Node.chooseVote_answers knows sent
  refine ⟨answers.sameProposal, ?_⟩
  intro accepting
  obtain ⟨block, waiting⟩ := answers.waiting accepting
  obtain ⟨isKnown, sameHash⟩ := chosenRecorded.pooled _ _ waiting
  exact ⟨block, isKnown, sameHash, (Node.proposalHeight_of_lookup waiting).symm⟩

theorem handlerRule : HandlerRule setup moment fun before after =>
      Recorded setup known before → Recorded setup known after where
  refl _ := id
  trans earlier later recorded := later (earlier recorded)
  taken _ _ recorded := recorded.of_same rfl rfl rfl
  moved _ _ _ _ recorded := recorded.of_same rfl rfl rfl
  cleaned _ recorded := recorded.of_same rfl rfl rfl
  ready _ recorded := recorded.of_same rfl rfl rfl
  asked _ level recorded := recorded.askReset level
  answered _ order id _ knows recorded :=
    recorded.answer order id knows

section

variable (recorded : Recorded setup known node)

include recorded

theorem onBlock
    (isKnown : known block) : Recorded setup known (node.onBlock setup moment block) := by
  have appended : Recorded setup known { node with
      pool := (node.pool.appendDposBlock setup.sealHash
        (node.verifyBlock setup moment) block).1 } :=
    recorded.appendDposBlock isKnown
  unfold Node.onBlock
  split
  · exact recorded
  split
  · have same : (node.pool.addBadBlock setup.sealHash block).blocks = node.pool.blocks ∧
        (node.pool.addBadBlock setup.sealHash block).futureBlocks = node.pool.futureBlocks := by
      unfold BlockPool.addBadBlock
      split <;> exact ⟨rfl, rfl⟩
    exact recorded.of_same same.1 same.2 rfl
  · dsimp only
    -- A block without parent waits among the future blocks.
    by_cases unknown :
        (node.pool.appendDposBlock setup.sealHash (node.verifyBlock setup moment) block).2 =
          .error .unknownAncestor
    · simp only [unknown, ↓reduceIte]
      have waiting := appended.appendFutureBlock isKnown
      split
      · exact waiting
      · exact waiting.of_votingState (Node.votingState_onConfirmReceived _ _ _)
    · simp only [unknown, ↓reduceIte]
      split
      · exact appended
      · exact appended.of_votingState (Node.votingState_onConfirmReceived _ _ _)

theorem accessFutureBlock (parentHeight : UInt64) :
    Recorded setup known (node.accessFutureBlock setup moment parentHeight) := by
  unfold Node.accessFutureBlock BlockPool.handleParentBlock
  split
  · exact recorded
  next hash block found =>
    have member := List.mem_of_find?_eq_some found
    exact recorded.appendDposBlock (recorded.future hash block (GoMap.mem_iterate.mp member))

theorem finishedProposal (height : UInt64) (sealHash : Hash) (headerTime : UInt64) :
    Recorded setup known (node.finishedProposal setup moment height sealHash headerTime) := by
  unfold Node.finishedProposal
  split
  · exact recorded
  dsimp only
  rw [Node.changeView_forced_stopped rfl]
  exact recorded.of_same rfl rfl rfl

theorem finalize (header : Header) : Recorded setup known (node.finalize setup moment header) := by
  have finished : Recorded setup known
      (node.finishedProposal setup moment (blockHeight header)
        (setup.sealHash header) header.time) :=
    recorded.finishedProposal _ _ _
  exact ⟨fun hash block found => finished.pooled hash block
    (GoMap.lookup_of_lookup_deleteWhere found), finished.future, finished.votes⟩

theorem onRecoverTimeout : Recorded setup known (node.onRecoverTimeout setup moment) := by
  have settled : Recorded setup known (node.doRecover setup moment) := by
    unfold Node.doRecover
    dsimp only
    split <;> exact recorded.of_same rfl rfl rfl
  unfold Node.onRecoverTimeout
  dsimp only
  split
  · split
    · exact settled.of_same rfl rfl rfl
    · exact recorded.of_same rfl rfl rfl
  · exact recorded.of_same rfl rfl rfl

theorem prepare (header : Header) : Recorded setup known (node.prepare moment header) := by
  unfold Node.prepare
  dsimp only
  repeat' split
  all_goals exact recorded.of_same rfl rfl rfl

theorem startProposal (block : Header) :
    Recorded setup known (node.startProposal setup moment block).1 := by
  unfold Node.startProposal
  dsimp only
  split
  · exact recorded
  next sign _ =>
    have processed : Recorded setup known
        (node.processProposal setup moment (moment.order 0) node.view.publicKey
          ⟨node.view.publicKey, setup.sealHash block, node.view.viewOffset, sign⟩).1 :=
      recorded.of_votingState (Node.votingState_processProposal _ _ _ _)
    split
    · next outcome =>
        rw [outcome] at processed
        exact processed
    next outcome =>
      rw [outcome] at processed
      exact processed.of_votingState (Node.votingState_broadMessage rfl)

end

theorem startProposal_blockHash
    (proposed : (node.startProposal setup moment block).2 = some proposal) :
    proposal.blockHash = setup.sealHash block := by
  unfold Node.startProposal at proposed
  dsimp only at proposed
  split at proposed
  · cases proposed
  split at proposed
  · cases proposed
  cases proposed
  rfl

theorem sealBlock (recorded : Recorded setup known node)
    (isKnown : known block) : Recorded setup known (node.sealBlock setup moment block) := by
  have pooled : Recorded setup known { node.broadMessage (.block block) with
        pool := ((node.broadMessage (.block block)).pool.appendDposBlock setup.sealHash
          ((node.broadMessage (.block block)).verifyBlock setup moment) block).1 } :=
    (recorded.of_votingState (Node.votingState_broadMessage rfl)).appendDposBlock isKnown
  unfold Node.sealBlock
  split
  · exact recorded
  split
  · exact recorded
  split
  · exact recorded
  split
  · exact recorded
  split
  · exact recorded
  dsimp only
  have proposed : Recorded setup known (Node.startProposal setup moment _ block).1 :=
    pooled.startProposal block
  split
  · next outcome => rwa [outcome] at proposed
  next proposal outcome =>
    have sameBlock : proposal.blockHash = setup.sealHash block :=
      startProposal_blockHash (congrArg Prod.snd outcome)
    rw [outcome] at proposed
    split
    · exact proposed.of_same rfl rfl rfl
    next vote accepted =>
      exact proposed.addBallot rfl rfl (Node.ballots_broadMessage_vote _ vote proposal _)
        ⟨(Node.startVote_eq_some accepted).2.1, fun _ => ⟨block, isKnown, sameBlock.symm, rfl⟩⟩

theorem handle (recorded : Recorded setup known node) {event : Event}
    (isKnown : ∀ block, event.block? = some block → known block) :
    Recorded setup known (node.handle setup moment event) := by
  have rule : HandlerRule setup moment fun before after =>
      Recorded setup known before → Recorded setup known after :=
    handlerRule
  cases event with
  | proposal id proposal => exact rule.onProposalReceived _ 0 id node proposal recorded
  | vote vote => exact recorded.of_votingState (Node.votingState_onVoteAccepted _ _)
  | confirm confirm height =>
    exact recorded.of_votingState (Node.votingState_onConfirmReceived _ _ _)
  | block block => exact recorded.onBlock (isKnown block rfl)
  | parentBlock height => exact recorded.accessFutureBlock height
  | changeView => exact rule.onChangeView (rule.onProposalReceived _ 1 zeroPID) 0 node recorded
  | resetView message => exact recorded.onResponseResetViewReceived 0 message
  | recover =>
    rw [Node.handle, Node.onRecover]
    split
    · exact recorded.of_votingState (Node.votingState_recoverAbnormalState node)
    · exact recorded
  | responseConsensus id status =>
    rw [Node.handle, Node.onResponseConsensus]
    split
    · exact recorded
    split
    · exact recorded
    split
    · exact recorded
    · exact recorded.of_same rfl rfl rfl
  | recoverTimeout => exact recorded.onRecoverTimeout
  | finalize header => exact recorded.finalize header
  | prepare header => exact recorded.prepare header
  | sealBlock block => exact recorded.sealBlock (isKnown block rfl)
  | sealConfirmed =>
    rw [Node.handle, Node.sealConfirmed]
    split
    · next block _ _ _ =>
        have waiting : Recorded setup known { node with sealing := none, confirmCh := none } :=
          recorded.of_same rfl rfl rfl
        exact (waiting.finishedProposal (blockHeight block)
          (setup.sealHash block) block.time).of_same rfl rfl rfl
    · exact recorded
  | sealStopped =>
    rw [Node.handle, Node.sealStopped]
    split
    · exact recorded
    · exact recorded.of_same rfl rfl rfl

end Recorded

end EscSideChain.Pbft
