import EscSideChain.PbftNesting
import EscSideChain.PbftVotingState
import EscSideChain.SingleVote
import Mathlib.Data.Prod.Lex

namespace EscSideChain.Pbft

open Dpos

/-!
# Voting once for each height and view

A producer is a voter whose position is the height it works on and its view offset.  Under
the condition `Orderly` every event is a run of the voter of `SingleVote`, so no two
accept votes go to different proposals of one height and view offset.
-/

namespace Node

/--
No two accept votes went to different proposals of the same height and view
offset.
-/
def VotesOnce (node : Node) : Prop :=
  ∀ first ∈ node.casts, ∀ second ∈ node.casts, first.height = second.height →
    first.about.viewOffset = second.about.viewOffset → first.about = second.about

end Node

/-! ## The producer as a voter -/

def votePosition (height : Nat) (viewOffset : UInt32) : ℕ ×ₗ ℕ :=
  toLex (height, viewOffset.toNat)

def Cast.placed (cast : Cast) : (ℕ ×ₗ ℕ) × Cast :=
  (votePosition cast.height.toNat cast.about.viewOffset, cast)

def Node.voter (node : Node) : SingleVote.Voter (ℕ ×ₗ ℕ) Cast where
  position := votePosition (node.dispatcher.finishedHeight.toNat + 1) node.view.viewOffset
  voted := node.dispatcher.proposalProcessFinished
  casts := node.casts.map Cast.placed

theorem votePosition_lt_of_offset {height : Nat} {earlier later : UInt32}
    (before : earlier < later) : votePosition height earlier < votePosition height later :=
  Prod.Lex.toLex_lt_toLex.mpr (.inr ⟨rfl, UInt32.lt_iff_toNat_lt.mp before⟩)

theorem votePosition_lt_of_height {earlier later : Nat} (before : earlier < later)
    (first second : UInt32) : votePosition earlier first < votePosition later second :=
  Prod.Lex.toLex_lt_toLex.mpr (.inl before)

variable {node : Node} {proposal : DPOSProposal} (nested : Node → DPOSProposal → Node)
    (order : IterationOrder)

theorem Node.votesOnce_of_inOrder (inOrder : SingleVote.InOrder node.voter) : node.VotesOnce := by
  intro first firstCast second secondCast sameHeight sameOffset
  have same := inOrder.unique (List.mem_map_of_mem firstCast) (List.mem_map_of_mem secondCast)
    (by simp [Cast.placed, sameHeight, sameOffset])
  have sameCast : first = second := congrArg Prod.snd same
  rw [sameCast]

namespace Node

variable {setup : Setup} {moment : Moment}

theorem voter_eq_of_votingState {before after : Node}
    (same : after.votingState = before.votingState) : after.voter = before.voter := by
  have view := congrArg VotingState.view same
  have finishedHeight := congrArg VotingState.finishedHeight same
  have voted := congrArg VotingState.voted same
  have ballots := congrArg VotingState.ballots same
  simp only [votingState] at view finishedHeight voted ballots
  simp only [voter, casts, view, finishedHeight, voted, ballots]

theorem voter_of_ballot {before after : Node} {ballot : DPOSProposalVote}
    {height : UInt64} (sent : after.votingState = { before.votingState with
      voted := true
      ballots := before.ballots ++ [⟨ballot, proposal, height⟩] }) :
    after.voter = { before.voter with
        voted := true
        casts := before.voter.casts ++
          if ballot.accept then [Cast.placed ⟨proposal, height⟩]
          else
            [] } := by
  have view : after.view = before.view := congrArg VotingState.view sent
  have finishedHeight : after.dispatcher.finishedHeight = before.dispatcher.finishedHeight :=
    congrArg VotingState.finishedHeight sent
  have voted : after.dispatcher.proposalProcessFinished = true := congrArg VotingState.voted sent
  have ballots : after.ballots = before.ballots ++ [⟨ballot, proposal, height⟩] :=
    congrArg VotingState.ballots sent
  cases accepting : ballot.accept <;>
    simp [voter, casts, view, finishedHeight, voted, ballots, Ballot.accepted, accepting]

theorem voter_sendVote {vote : Option DPOSProposalVote} {handled : Bool}
    (inPlace : ∀ ballot, vote = some ballot → ballot.accept = true →
      proposal.viewOffset = node.view.viewOffset ∧ (node.proposalHeight proposal).toNat =
          node.dispatcher.finishedHeight.toNat + 1) :
    Relation.ReflTransGen SingleVote.Step node.voter
      (node.sendVote proposal vote handled).voter := by
  rcases sendVote_cases node proposal vote handled with silent | ⟨ballot, isVote, fresh, sent⟩
  · rw [voter_eq_of_votingState silent]
  · rw [voter_of_ballot sent]
    cases accepting : ballot.accept with
    | false => simpa using Relation.ReflTransGen.single (SingleVote.Step.close node.voter)
    | true =>
      obtain ⟨sameView, sameStage⟩ := inPlace ballot isVote accepting
      have placed :
          Cast.placed ⟨proposal, node.proposalHeight proposal⟩ =
            (node.voter.position, ⟨proposal, node.proposalHeight proposal⟩) := by
        simp [Cast.placed, voter, sameView, sameStage]
      rw [if_pos rfl, placed]
      exact .single (.cast node.voter _ fresh)

/-! ## Ticks -/

def ViewDue (moment : Moment) (node : Node) : Prop :=
  node.view.isRunning = true ∧ moment.clock 0 0 > node.view.viewChangeTime

instance (moment : Moment) (node : Node) : Decidable (node.ViewDue moment) :=
  inferInstanceAs (Decidable (_ ∧ _))

def nextOffset (moment : Moment) (node : Node) : UInt32 :=
  node.view.viewOffset +
    (node.view.calculateOffsetTime node.view.viewStartTime (moment.clock 0 0)).1

structure OrderlyTick (moment : Moment) (node : Node) : Prop where
  below : node.view.viewOffset < maxViewOffset
  grows : node.ViewDue moment → node.view.viewOffset ≤ node.nextOffset moment ∧
      node.nextOffset moment < maxViewOffset
  noneStored : node.ViewDue moment → ∀ hash proposal,
      node.dispatcher.precociousProposals.lookup hash = some proposal →
      proposal.viewOffset ≠ node.nextOffset moment

structure Moves (before after : Node) : Prop where
  steps : Relation.ReflTransGen SingleVote.Step before.voter after.voter
  finishedHeight : after.dispatcher.finishedHeight = before.dispatcher.finishedHeight
  blocks : after.pool.blocks = before.pool.blocks

theorem Moves.of_votingState {before after : Node} (same : after.votingState = before.votingState) :
    Moves before after where
  steps := by
    rw [voter_eq_of_votingState same]
  finishedHeight := congrArg VotingState.finishedHeight same
  blocks := congrArg VotingState.blocks same

theorem onViewChanged_quiet (isOnDuty : Bool) (node : Node)
    (quiet : node.dispatcher.updatePrecociousProposals node.view order = none) :
    (onViewChanged moment nested order isOnDuty false node).voter =
        { node.voter with voted := false } ∧
      (onViewChanged moment nested order isOnDuty false node).dispatcher.finishedHeight =
          node.dispatcher.finishedHeight ∧
      (onViewChanged moment nested order isOnDuty false node).pool.blocks = node.pool.blocks ∧
      (onViewChanged moment nested order isOnDuty false
        node).view.viewOffset = node.view.viewOffset := by
  unfold onViewChanged
  simp only [quiet, Bool.false_eq_true, ↓reduceIte]
  split <;> exact ⟨rfl, rfl, rfl, rfl⟩

theorem Moves.of_viewOffset {view : ConsensusView}
    (same : view.viewOffset = node.view.viewOffset) : Moves node { node with view := view } where
  steps := by
    have sameVoter : ({ node with view := view } : Node).voter = node.voter := by
      simp [voter, casts, ballots, same]
    rw [sameVoter]
  finishedHeight := rfl
  blocks := rfl

theorem moves_onViewChanged (isOnDuty : Bool) {view : ConsensusView}
    (later : node.view.viewOffset < view.viewOffset)
    (quiet : node.dispatcher.updatePrecociousProposals view order = none) :
    Moves node (onViewChanged moment nested order isOnDuty false { node with view := view }) := by
  obtain ⟨sameVoter, sameHeight, sameBlocks, -⟩ :=
    onViewChanged_quiet nested order isOnDuty { node with view := view } quiet
  refine ⟨?_, sameHeight, sameBlocks⟩
  rw [sameVoter]
  have advanced : { ({ node with view := view } : Node).voter with
          voted := false } =
        { node.voter with
          position := votePosition (node.dispatcher.finishedHeight.toNat + 1) view.viewOffset
          voted := false } := by
    simp [voter, casts, ballots]
  rw [advanced]
  exact .single (.advance node.voter _ _ (votePosition_lt_of_offset later))

theorem nextOffset_eq_iff :
    node.nextOffset moment = node.view.viewOffset ↔
      (node.view.calculateOffsetTime node.view.viewStartTime (moment.clock 0 0)).1 = 0 := by
  simp [nextOffset]

theorem moves_tryChangeView (orderly : node.OrderlyTick moment) :
    Moves node (node.tryChangeView moment nested order (moment.clock 0 0)) ∧
      (node.tryChangeView moment nested order
        (moment.clock 0 0)).view.viewOffset < maxViewOffset := by
  unfold tryChangeView
  split
  · next due =>
      obtain ⟨forward, below⟩ := orderly.grows due
      have nextView := ConsensusView.viewOffset_changeView node.view
        (moment.clock 0 0) (unixSeconds (node.view.viewChangeTime - node.view.signTolerance))
      have called := ConsensusView.changeView_called node.view
        (moment.clock 0 0) (unixSeconds (node.view.viewChangeTime - node.view.signTolerance))
      change _ = node.nextOffset moment at nextView
      unfold changeView
      split
      · next view outcome =>
          rw [outcome] at nextView called
          have stays : node.nextOffset moment = node.view.viewOffset := by
            rw [nextOffset_eq_iff]
            simpa using called.symm
          exact ⟨.of_viewOffset (nextView.trans stays), nextView.trans_lt below⟩
      · next view outcome =>
          rw [outcome] at nextView called
          have differs : node.nextOffset moment ≠ node.view.viewOffset := by
            rw [Ne, nextOffset_eq_iff]
            intro nothing
            simp [nothing] at called
          have later : node.view.viewOffset < view.viewOffset := by
            rw [nextView]
            exact UInt32.lt_of_le_of_ne forward differs.symm
          have quiet : node.dispatcher.updatePrecociousProposals view order = none := by
            rw [Dispatcher.updatePrecociousProposals_eq_none_iff, nextView]
            exact .inr (orderly.noneStored due)
          refine ⟨moves_onViewChanged nested order _ later quiet, ?_⟩
          rw [(onViewChanged_quiet nested order view.isDposOnDuty
            { node with view := view } quiet).2.2.2]
          exact nextView.trans_lt below
  · exact ⟨.of_votingState rfl, orderly.below⟩

theorem moves_onChangeView
    (orderly : node.OrderlyTick moment) : Moves node (node.onChangeView setup moment nested 0) := by
  obtain ⟨moves, below⟩ := moves_tryChangeView nested (moment.order 0) orderly
  have noReset := UInt32.not_le.mpr below
  simp only [onChangeView, ge_iff_le, noReset, ↓reduceIte]
  exact moves

/-! ## The handlers as runs of the voter -/

def NamesNextBlock (node : Node) (proposal : DPOSProposal) : Prop :=
  ∀ block, node.pool.blocks.lookup proposal.blockHash = some block → (blockHeight block).toNat =
      node.dispatcher.finishedHeight.toNat + 1

theorem voter_onProposalReceivedWith (id : Bytes) (orderly : node.OrderlyTick moment)
    (next : node.NamesNextBlock proposal) :
    Relation.ReflTransGen SingleVote.Step node.voter
      (onProposalReceivedWith setup moment nested 0 id node proposal).voter := by
  obtain ⟨steps, sameHeight, sameBlocks⟩ : Moves node (node.onChangeView setup moment nested 0) :=
    moves_onChangeView nested orderly
  rcases onProposalReceivedWith_cases nested 0 id node proposal with
    same | same | ⟨chosen, vote, handled, sameState, answers, same⟩
  · rw [same]
  · rw [same]
    exact steps
  · have chosenHeight : chosen.dispatcher.finishedHeight =
        (node.onChangeView setup moment nested 0).dispatcher.finishedHeight :=
      congrArg VotingState.finishedHeight sameState
    have chosenBlocks : chosen.pool.blocks =
        (node.onChangeView setup moment nested 0).pool.blocks :=
      congrArg VotingState.blocks sameState
    rw [same]
    refine steps.trans ?_
    rw [← voter_eq_of_votingState sameState]
    refine voter_sendVote ?_
    intro ballot sent accepting
    have answer := answers ballot sent
    obtain ⟨block, waiting⟩ := answer.waiting accepting
    refine ⟨answer.sameView accepting, ?_⟩
    rw [proposalHeight_of_lookup waiting, chosenHeight, sameHeight]
    rw [chosenBlocks, sameBlocks] at waiting
    exact next block waiting

theorem voter_finishedProposal (node : Node) (height : UInt64) (sealHash : Hash)
    (headerTime : UInt64) :
    Relation.ReflTransGen SingleVote.Step node.voter
      (node.finishedProposal setup moment height sealHash headerTime).voter := by
  unfold finishedProposal
  split
  · exact .refl
  next later =>
    dsimp only
    rw [changeView_forced_stopped rfl]
    have forward : node.voter.position < votePosition (height.toNat + 1) 0 := by
      refine votePosition_lt_of_height ?_ _ _
      have above := UInt64.lt_iff_toNat_lt.mp (UInt64.not_le.mp later)
      omega
    exact .single (.advance node.voter _ false forward)

theorem voter_recoverFromConsensusStatus {status : ConsensusStatus}
    (forward : node.view.viewOffset ≤ status.viewOffset) :
    Relation.ReflTransGen SingleVote.Step node.voter
      (node.recoverFromConsensusStatus status).voter := by
  have recovered : (node.recoverFromConsensusStatus status).voter = { node.voter with
          position := votePosition (node.dispatcher.finishedHeight.toNat + 1)
            status.viewOffset } := by
    unfold recoverFromConsensusStatus
    simp only [voter, casts, ballots]
    split <;> rfl
  rw [recovered]
  by_cases same : node.view.viewOffset = status.viewOffset
  · rw [← same]
    exact .refl
  exact .single (.advance node.voter _ node.dispatcher.proposalProcessFinished
    (votePosition_lt_of_offset (UInt32.lt_of_le_of_ne forward same)))

theorem voter_onRecoverTimeout
    (forward : ∀ status, node.recoverStarted = true → node.settledStatus setup moment = some status →
      node.view.viewOffset ≤ status.viewOffset) :
    Relation.ReflTransGen SingleVote.Step node.voter (node.onRecoverTimeout setup moment).voter := by
  unfold onRecoverTimeout
  dsimp only
  split
  · next started =>
      split
      · cases settled : node.settledStatus setup moment with
        | none =>
          simp only [doRecover, settled]
          exact .refl
        | some status =>
          simp only [doRecover, settled]
          exact voter_recoverFromConsensusStatus (forward status started settled)
      · exact .refl
  · exact .refl

/-! ## Handlers that are no step of the voter -/

theorem voter_onBlock (node : Node) (block : Header) :
    (node.onBlock setup moment block).voter = node.voter := by
  unfold onBlock
  split
  · rfl
  split
  · rfl
  dsimp only
  split
  · rfl
  · exact (voter_eq_of_votingState (votingState_onConfirmReceived _ _ _)).trans rfl

theorem voter_prepare (node : Node) (header : Header) :
    (node.prepare moment header).voter = node.voter := by
  have started (opened : Node) (time : UInt64) :
      (opened.start moment time).voter = opened.voter := by
    unfold start
    simp only [voter, casts, ballots]
    split <;> rfl
  unfold prepare
  dsimp only
  split
  · rfl
  split
  · rfl
  split
  · rfl
  split
  · rfl
  next parent _ _ _ _ =>
    have opened :
        (({ node with isSealOver := false } : Node).start moment parent.time).voter = node.voter :=
      started { node with isSealOver := false } parent.time
    split <;> exact opened

structure ResetsView (setup : Setup) (node : Node) (message : ResetView) : Prop where
  running : node.view.isRunning = true
  producer : node.isProducer = true
  sponsor : node.view.producers.isProducers message.sponsor = true
  signed : checkSignature setup.ela message.sponsor
    (setup.resetViewData message.sponsor) message.sign = .ok ()
  complete : node.view.producers.getMajorityCount ≤
    (node.dispatcher.recordViewRequest message.sponsor).resetViewRequests.length

theorem voter_onResponseResetViewReceived
    {message : ResetView} (incomplete : ¬node.ResetsView setup message) :
    (node.onResponseResetViewReceived setup moment nested 0 message).voter = node.voter := by
  have recorded : ({ node with
        dispatcher := node.dispatcher.recordViewRequest
          message.sponsor } : Node).voter = node.voter := by
    unfold Dispatcher.recordViewRequest
    simp only [voter, casts, ballots]
    split <;> rfl
  unfold onResponseResetViewReceived
  split
  · rfl
  next producer =>
    split
    · rfl
    next sponsor =>
      split
      · rfl
      next signed =>
        dsimp only
        split
        · next complete =>
            have stopped : node.view.isRunning = false := by
              by_contra running
              exact incomplete ⟨by simpa using running, by simpa using producer,
                by simpa using sponsor, signed, complete⟩
            simp only [resetConsensus, stopped, Bool.false_eq_true, ↓reduceIte]
            exact recorded
        · exact recorded

def Orderly (setup : Setup) (moment : Moment) (node : Node) : Event → Prop
  | .proposal _ proposal => node.OrderlyTick moment ∧ node.NamesNextBlock proposal
  | .changeView => node.OrderlyTick moment
  | .resetView message => ¬node.ResetsView setup message
  | .recoverTimeout =>
    ∀ status, node.recoverStarted = true → node.settledStatus setup moment = some status →
      node.view.viewOffset ≤ status.viewOffset
  | .sealBlock _ => False
  | _ => True

theorem voter_handle {event : Event} (orderly : node.Orderly setup moment event) :
    Relation.ReflTransGen SingleVote.Step node.voter (node.handle setup moment event).voter := by
  cases event with
  | proposal id proposal => exact voter_onProposalReceivedWith _ id orderly.1 orderly.2
  | vote vote => rw [handle, voter_eq_of_votingState (votingState_onVoteAccepted node vote)]
  | confirm confirm height =>
    rw [handle, voter_eq_of_votingState (votingState_onConfirmReceived node confirm height)]
  | block block => rw [handle, voter_onBlock]
  | parentBlock height => exact .refl
  | changeView => exact (moves_onChangeView _ orderly).steps
  | resetView message => rw [handle, voter_onResponseResetViewReceived _ orderly]
  | recover =>
    rw [handle, onRecover]
    split
    · rw [voter_eq_of_votingState (votingState_recoverAbnormalState node)]
    · exact .refl
  | responseConsensus id status =>
    rw [handle, onResponseConsensus]
    split
    · exact .refl
    split
    · exact .refl
    · split <;> exact .refl
  | recoverTimeout => exact voter_onRecoverTimeout orderly
  | finalize header => exact voter_finishedProposal node _ _ _
  | prepare header => rw [handle, voter_prepare]
  | sealBlock block => exact orderly.elim
  | sealConfirmed =>
    rw [handle, sealConfirmed]
    split
    · next block _ _ _ =>
        exact voter_finishedProposal { node with sealing := none, confirmCh := none }
          (blockHeight block) (setup.sealHash block) block.time
    · exact .refl
  | sealStopped =>
    rw [handle, sealStopped]
    split <;> exact .refl

theorem inOrder_new (publicKey : Bytes) (producers : Producers) :
    SingleVote.InOrder (Node.new publicKey producers).voter where
  behind _ member := absurd member List.not_mem_nil
  once := List.Pairwise.nil

def step (setup : Setup) (node : Node) (arrival : Moment × Event) : Node :=
  node.handle setup arrival.1 arrival.2

def OrderlyRun (setup : Setup) (node : Node) (arrivals : List (Moment × Event)) : Prop :=
  EventRuns.Along (fun state arrival =>
      Orderly setup arrival.1 state arrival.2)
    (step setup) node arrivals

/--
Voting once, for every run of a producer that does not seal blocks itself: if
every event is orderly in the state it arrives in, the producer has never
broadcast accept votes for two different proposals of the same height and view
offset.
-/
theorem votesOnce_of_orderlyRun (setup : Setup) (publicKey : Bytes) (producers : Producers)
    (arrivals : List (Moment × Event))
    (orderly : OrderlyRun setup (Node.new publicKey producers) arrivals) :
    (EventRuns.run (step setup) (Node.new publicKey producers) arrivals).VotesOnce := by
  have preserved : ∀ (state : Node) (arrival : Moment × Event),
      state.Orderly setup arrival.1 arrival.2 → SingleVote.InOrder state.voter →
      SingleVote.InOrder (step setup state arrival).voter :=
    fun _ _ arrivalOrderly inOrder =>
      inOrder.run (voter_handle arrivalOrderly)
  exact votesOnce_of_inOrder (EventRuns.run_invariant preserved
    orderly (inOrder_new publicKey producers))

end Node

/-! ## Four producers -/

namespace Sample

def fourProducers : Producers where
  totalProducers := 4
  producers := [[1], [2], [3], [4]]
  dutyIndex := 0
  workingHeight := 0
  spvHeight := 0
  nextTotalProducers := 0
  nextProducers := []
  defaultCRCSignerNumber := 4

def setup (key : Bytes) : Setup where
  ela := plainLibrary []
  rlpHash := digest
  signProposal proposal :=
    .ok (key ++ (plainLibrary []).proposalData proposal)
  signVote vote := .ok (key ++ (plainLibrary []).voteData vote)
  resetViewData sponsor := sponsor
  sign data := key ++ data
  int64ToTime time := time.toInt / 1000000 * 1000000

/-- A moment at which all clock readings are the given number of seconds. -/
def at_ (seconds : Int) : Moment where
  clock _ _ := seconds * 1000000000
  order _ := IterationOrder.stored
  chain := chain
  currentHeight := 0
  spvService := none
  wallClock := 1000
  validateBody _ := .ok ()
  activePeers := 3
  isCurrent := true

def waitingBlock (time : UInt64) : Header :=
  { child time [] with nonce := 0 }

def proposalFor (sponsor : Bytes) (time : UInt64) (viewOffset : UInt32) : DPOSProposal :=
  plainLibrary.proposal sponsor (digest (encodeSigHeader (waitingBlock time))) viewOffset

def opening : List (Moment × Event) :=
  [(at_ 1, .recoverTimeout), (at_ 1, .prepare (waitingBlock 5)), (at_ 1, .block (waitingBlock 5)),
    (at_ 1, .block (waitingBlock 6))]

def ordinaryRun : List (Moment × Event) :=
  opening ++ [(at_ 2, .proposal [2] (proposalFor [2] 5 0))]

/--
Two proposals of the second view by the producer on duty then.  The first one
comes early and is stored; the second one arrives when the first view has run
out.
-/
def equivocatingRun : List (Moment × Event) :=
  opening ++
    [(at_ 2, .proposal [3] (proposalFor [3] 5 1)), (at_ 15, .proposal [3] (proposalFor [3] 6 1))]

end Sample

open Sample

/-- The run with one proposal is orderly, casts a vote and votes once. -/
theorem votesOnce_ordinaryRun :
    (EventRuns.run (Node.step (setup [4])) (Node.new [4] fourProducers) ordinaryRun).casts =
      [⟨proposalFor [2] 5 0, 1⟩] ∧
    (EventRuns.run (Node.step (setup [4])) (Node.new [4] fourProducers) ordinaryRun).VotesOnce := by
  refine ⟨by decide +kernel, Node.votesOnce_of_orderlyRun (setup [4]) [4]
      fourProducers ordinaryRun ?_⟩
  let state := EventRuns.run (Node.step (setup [4])) (Node.new [4] fourProducers) opening
  have notDue : ¬state.ViewDue (at_ 2) := by decide +kernel
  have tick : state.OrderlyTick (at_ 2) :=
    ⟨by decide +kernel, fun due => (notDue due).elim, fun due => (notDue due).elim⟩
  have next : state.NamesNextBlock (proposalFor [2] 5 0) := by
    intro block waiting
    have found : state.pool.blocks.lookup (proposalFor [2] 5 0).blockHash =
          some (waitingBlock 5) := by
      decide +kernel
    cases found.symm.trans waiting
    decide +kernel
  have opened : Node.OrderlyRun (setup [4]) (Node.new [4] fourProducers) opening :=
    ⟨fun _ started => (nomatch started), trivial, trivial, trivial, trivial⟩
  exact (EventRuns.along_append _ _ _).mpr ⟨opened, ⟨tick, next⟩, trivial⟩

/--
The stored proposal gets an accept vote when the view changes, the flags are
cleaned after that, and the second proposal of the same view gets an accept
vote too.
-/
theorem votes_twice_after_stored_proposal :
    ¬(EventRuns.run (Node.step (setup [4])) (Node.new [4] fourProducers)
      equivocatingRun).VotesOnce := by
  intro once
  have twice : (EventRuns.run (Node.step (setup [4])) (Node.new [4] fourProducers)
      equivocatingRun).casts = [⟨proposalFor [3] 5 1, 1⟩, ⟨proposalFor [3] 6 1, 1⟩] := by
    decide +kernel
  have same := once ⟨proposalFor [3] 5 1, 1⟩ (by simp [twice])
    ⟨proposalFor [3] 6 1, 1⟩ (by simp [twice]) rfl rfl
  revert same
  decide +kernel

end EscSideChain.Pbft
