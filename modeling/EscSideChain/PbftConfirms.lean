import EscSideChain.PbftDutySchedule

namespace EscSideChain.Pbft

open Dpos

/-!
# The confirms of the dispatcher

The operations of `dpos/dispatcher.go` on proposals and votes, and the confirms that they
hand to `onConfirm`.  A new proposal does not clear the accept votes of the one before, so
a confirm may hold votes that were cast for that one.
-/

inductive DispatcherOp where
  | processProposal (id : Bytes) (proposal : DPOSProposal)
  | addPendingVote (vote : DPOSProposalVote)
  | processVote (vote : DPOSProposalVote)
  | rejectProposal (proposal : DPOSProposal)
  | cleanProposals (changeView : Bool)
  | finishedProposal (height : UInt64) (sealHash : Hash) (headerTime : UInt64)
  | resetAcceptVotes
  | recover (status : ConsensusStatus)

namespace Node

variable (setup : Setup) (moment : Moment)

def resetAcceptVotes (node : Node) : Node :=
  { node with dispatcher := { node.dispatcher with acceptVotes := ∅ } }

def perform (node : Node) : DispatcherOp → Node
  | .processProposal id proposal =>
    (node.processProposal setup moment (moment.order 0) id proposal).1
  | .addPendingVote vote =>
    { node with
      dispatcher := node.dispatcher.addPendingVote setup.ela vote }
  | .processVote vote => (node.processVote setup moment (moment.order 0) vote).1
  | .rejectProposal proposal => (node.rejectProposal setup moment (moment.order 0) proposal).1
  | .cleanProposals changeView => node.cleanProposals changeView
  | .finishedProposal height sealHash headerTime =>
    node.finishedProposal setup moment height sealHash headerTime
  | .resetAcceptVotes => node.resetAcceptVotes
  | .recover status => node.recoverFromConsensusStatus status

/--
The confirm that a finished vote was handed to `onConfirm` with.  The callback
leaves the dispatcher alone, so it can be read off afterwards.
-/
def confirmIf (order : IterationOrder) (finished : Bool) (node : Node) : List Confirm :=
  if finished then (node.dispatcher.createConfirm order).toList
  else []

/-- The confirm that `processVote` hands to `onConfirm`. -/
def emittedByVote (order : IterationOrder) (node : Node) (vote : DPOSProposalVote) : List Confirm :=
  let processed := node.processVote setup moment order vote
  processed.1.confirmIf order processed.2.1

/--
The confirm that `setProcessingProposal` hands to `onConfirm` through one of the
pending votes; the loop over them ends there.
-/
def emittedBySet (order : IterationOrder) (node : Node) (proposal : DPOSProposal) : List Confirm :=
  let processed := node.setProcessingProposal setup moment order proposal
  processed.1.confirmIf order processed.2

/-- The confirms that an operation hands to `onConfirm`. -/
def emitted (node : Node) : DispatcherOp → List Confirm
  | .processProposal id proposal =>
    if (node.processProposal setup moment (moment.order 0) id proposal).2.error = none then
      node.emittedBySet setup moment (moment.order 0) proposal
    else []
  | .processVote vote => node.emittedByVote setup moment (moment.order 0) vote
  | .rejectProposal proposal => node.emittedBySet setup moment (moment.order 0) proposal
  | _ => []

end Node

structure ValidConfirm (setup : Setup) (table : Producers) (confirm : Confirm) : Prop where
  accepting : ∀ vote ∈ confirm.votes, AcceptsProposal setup.ela
      (setup.ela.proposalHash confirm.proposal) vote
  seated : ∀ vote ∈ confirm.votes, table.isProducers vote.signer = true
  distinct : (confirm.votes.map DPOSProposalVote.signer).Nodup
  quorum : table.totalProducers * 2 / 3 < confirm.votes.length

/-! ## What one vote does -/

structure CountsVote (setup : Setup) (node : Node) (vote : DPOSProposalVote)
    (proposal : DPOSProposal) : Prop where
  processing : node.dispatcher.processingProposal = some proposal
  sameProposal : vote.proposalHash = setup.ela.proposalHash proposal
  seated : node.view.producers.isProducers vote.signer = true
  signed : checkVote setup.ela vote = .ok ()

variable {proposal : DPOSProposal} {confirm : Confirm}

namespace Node

variable {setup : Setup} {moment : Moment} {node : Node}
variable {order : IterationOrder} {vote : DPOSProposalVote}

theorem onConfirm_frame (confirm : Confirm) :
    (node.onConfirm setup moment confirm).1.view = node.view ∧
      (node.onConfirm setup moment confirm).1.dispatcher = node.dispatcher := by
  unfold onConfirm
  split
  · exact ⟨rfl, rfl⟩
  dsimp only
  split
  · exact ⟨rfl, rfl⟩
  split
  · split
    · exact ⟨rfl, rfl⟩
    split
    · exact ⟨rfl, rfl⟩
    · split <;> exact ⟨rfl, rfl⟩
  · exact ⟨rfl, rfl⟩

theorem onUnConfirm_frame (unconfirm : Confirm) :
    (node.onUnConfirm unconfirm).view = node.view ∧
      (node.onUnConfirm unconfirm).dispatcher = node.dispatcher := by
  unfold onUnConfirm
  split_ifs <;> exact ⟨rfl, rfl⟩

def withAccept (setup : Setup) (node : Node) (vote : DPOSProposalVote) : Dispatcher :=
  { node.dispatcher with
    acceptVotes := node.dispatcher.acceptVotes.insert (setup.ela.voteHash vote) vote }

theorem countAccept_frame :
    (node.countAccept setup moment order vote).1.view = node.view ∧
      (node.countAccept setup moment order vote).1.dispatcher = node.withAccept setup vote ∧
      (node.countAccept setup moment order vote).2.1 = node.view.producers.isMajorityAgree
          (node.withAccept setup vote).acceptVotes.len := by
  unfold countAccept
  dsimp only
  split
  · next agreed =>
      split
      · exact ⟨rfl, rfl, agreed.symm⟩
      · exact ⟨(onConfirm_frame _).1, (onConfirm_frame _).2, agreed.symm⟩
  · next agreed => exact ⟨rfl, rfl, (Bool.eq_false_of_not_eq_true agreed).symm⟩

def withReject (setup : Setup) (node : Node) (vote : DPOSProposalVote) : Dispatcher :=
  { node.dispatcher with
    rejectedVotes := node.dispatcher.rejectedVotes.insert (setup.ela.voteHash vote) vote }

theorem countReject_frame :
    (node.countReject setup order vote).1.view = node.view ∧
      (node.countReject setup order vote).1.dispatcher = node.withReject setup vote ∧
      (node.countReject setup order vote).2.1 = false := by
  unfold countReject
  dsimp only
  split
  · split
    · exact ⟨rfl, rfl, rfl⟩
    · exact ⟨(onUnConfirm_frame _).1, (onUnConfirm_frame _).2, rfl⟩
  · exact ⟨rfl, rfl, rfl⟩

theorem processVote_cases :
    (∃ reason, node.processVote setup moment order vote = (node, false, .error reason)) ∨
    ∃ proposal, CountsVote setup node vote proposal ∧
      (vote.accept = true ∧ node.processVote setup moment order vote =
            node.countAccept setup moment order vote ∨
        vote.accept = false ∧ node.processVote setup moment order vote =
            node.countReject setup order vote) := by
  unfold processVote
  split
  · exact .inl ⟨_, rfl⟩
  next proposal processing =>
    by_cases other : vote.proposalHash ≠ setup.ela.proposalHash proposal
    · exact .inl ⟨_, if_pos other⟩
    rw [if_neg other]
    split
    · exact .inl ⟨_, rfl⟩
    split
    · exact .inl ⟨_, rfl⟩
    next stranger =>
      split
      · exact .inl ⟨_, rfl⟩
      next signed =>
        refine .inr ⟨proposal, ⟨processing, not_not.1 other,
          Bool.eq_true_of_not_eq_false stranger, signed⟩, ?_⟩
        split_ifs with accepts
        · exact .inl ⟨accepts, rfl⟩
        · exact .inr ⟨Bool.eq_false_of_not_eq_true accepts, rfl⟩

end Node

/-! ## What the stored votes are -/

structure StoredVote (setup : Setup) (table : Producers) (dispatcher : Dispatcher) (hash : Hash)
    (vote : DPOSProposalVote) : Prop where
  keyed : hash = setup.ela.voteHash vote
  seated : table.isProducers vote.signer = true
  counted : ∃ proposal, dispatcher.processingProposal = some proposal ∧
    AcceptsProposal setup.ela (setup.ela.proposalHash proposal) vote

structure VotesSound (setup : Setup) (table : Producers) (node : Node) : Prop where
  producers : node.view.producers.producers = table.producers
  total : node.view.producers.totalProducers = table.totalProducers
  stored : ∀ hash vote, node.dispatcher.acceptVotes.lookup hash = some vote →
      StoredVote setup table node.dispatcher hash vote

structure OutcomeSound (setup : Setup) (table : Producers) (outcome : Node × Bool) : Prop where
  votes : VotesSound setup table outcome.1
  majority : outcome.2 = true → outcome.1.view.producers.isMajorityAgree
      outcome.1.dispatcher.acceptVotes.len = true

/-- The vote hash is taken over the proposal, the signer and the answer. -/
def HashesUnsigned (ela : ElaLibrary) : Prop :=
  ∀ first second : DPOSProposalVote, first.proposalHash = second.proposalHash →
    first.signer = second.signer → first.accept = second.accept →
      ela.voteHash first = ela.voteHash second

section Soundness

variable {setup : Setup} {moment : Moment} {table : Producers}
variable {node : Node} {order : IterationOrder}

theorem VotesSound.of_frame {after : Node} (sound : VotesSound setup table node)
    (sameProducers : after.view.producers.producers = node.view.producers.producers)
    (sameTotal : after.view.producers.totalProducers = node.view.producers.totalProducers)
    (sameVotes : after.dispatcher.acceptVotes = node.dispatcher.acceptVotes)
    (sameProposal : after.dispatcher.processingProposal = node.dispatcher.processingProposal) :
    VotesSound setup table after where
  producers := sameProducers.trans sound.producers
  total := sameTotal.trans sound.total
  stored hash vote found := by
    rw [sameVotes] at found
    obtain ⟨keyed, seated, counted⟩ := sound.stored hash vote found
    exact ⟨keyed, seated, by rwa [sameProposal]⟩

theorem votesSound_of_no_votes (sameProducers : node.view.producers.producers = table.producers)
    (sameTotal : node.view.producers.totalProducers = table.totalProducers)
    (noVotes : node.dispatcher.acceptVotes = ∅) : VotesSound setup table node where
  producers := sameProducers
  total := sameTotal
  stored hash vote found := by
    rw [noVotes] at found
    cases found

theorem outcomeSound_processVote {vote : DPOSProposalVote} (sound : VotesSound setup table node) :
    OutcomeSound setup table
      ((node.processVote setup moment order vote).1,
        (node.processVote setup moment order vote).2.1) := by
  rcases @Node.processVote_cases setup moment node order vote with
    ⟨reason, refused⟩ | ⟨proposal, counts, way⟩
  · rw [refused]
    exact ⟨sound, fun finished => (nomatch finished)⟩
  · rcases way with ⟨accepts, accepted⟩ | ⟨-, rejected⟩
    · obtain ⟨sameView, counted, finished⟩ := @Node.countAccept_frame setup moment node order vote
      rw [accepted]
      constructor
      · refine ⟨sameView ▸ sound.producers, sameView ▸ sound.total, ?_⟩
        dsimp only
        rw [counted]
        intro hash other found
        rcases GoMap.lookup_insert_cases found with ⟨isNew, rfl⟩ | before
        · refine ⟨isNew, ?_, proposal, counts.processing, accepts,
            counts.sameProposal, counts.signed⟩
          have seated := counts.seated
          rwa [Producers.isProducers, sound.producers] at seated
        · obtain ⟨keyed, seated, stored⟩ := sound.stored hash other before
          exact ⟨keyed, seated, stored⟩
      · dsimp only
        rw [finished, sameView, counted]
        exact id
    · obtain ⟨sameView, counted, finished⟩ := @Node.countReject_frame setup node order vote
      rw [rejected]
      refine ⟨sound.of_frame (by rw [sameView]) (by rw [sameView])
        (by rw [counted]; rfl) (by rw [counted]; rfl), ?_⟩
      dsimp only
      rw [finished]
      intro never
      cases never

theorem outcomeSound_processPendingVotes {proposalHash : Hash} {votes : List DPOSProposalVote}
    (sound : VotesSound setup table node) :
    OutcomeSound setup table
      (Node.processPendingVotes setup moment order proposalHash votes node) := by
  induction votes generalizing node with
  | nil => exact ⟨sound.of_frame rfl rfl rfl rfl, fun finished => (nomatch finished)⟩
  | cons vote rest inductionHypothesis =>
    have counted := @outcomeSound_processVote setup moment table node order vote sound
    unfold Node.processPendingVotes
    split
    · split
      · next processedEq => rwa [processedEq] at counted
      next processedEq =>
        rw [processedEq] at counted
        exact inductionHypothesis counted.votes
    · exact inductionHypothesis sound

def NoOtherVotes (setup : Setup) (node : Node) (proposal : DPOSProposal) : Prop :=
  ∀ hash vote, node.dispatcher.acceptVotes.lookup hash = some vote →
      vote.proposalHash = setup.ela.proposalHash proposal

theorem outcomeSound_setProcessingProposal
    (sound : VotesSound setup table node) (uncrossed : NoOtherVotes setup node proposal) :
    OutcomeSound setup table (node.setProcessingProposal setup moment order proposal) := by
  unfold Node.setProcessingProposal
  apply outcomeSound_processPendingVotes
  refine ⟨sound.producers, sound.total, ?_⟩
  intro hash vote found
  obtain ⟨keyed, seated, earlier, -, accepts⟩ := sound.stored hash vote found
  exact ⟨keyed, seated, proposal, rfl, accepts.accepting, uncrossed hash vote found, accepts.signed⟩

theorem VotesSound.accepts {hash : Hash} {vote : DPOSProposalVote}
    (votes : VotesSound setup table node)
    (processing : node.dispatcher.processingProposal = some proposal)
    (found : node.dispatcher.acceptVotes.lookup hash = some vote) :
    AcceptsProposal setup.ela (setup.ela.proposalHash proposal) vote := by
  obtain ⟨counted, processingAlso, accepting⟩ := (votes.stored hash vote found).counted
  rwa [Option.some.inj (processing.symm.trans processingAlso)]

theorem VotesSound.hash_eq_of_signer_eq {hash otherHash : Hash} {vote other : DPOSProposalVote}
    (unsigned : HashesUnsigned setup.ela) (votes : VotesSound setup table node)
    (found : node.dispatcher.acceptVotes.lookup hash = some vote)
    (otherFound : node.dispatcher.acceptVotes.lookup otherHash = some other)
    (sameSigner : vote.signer = other.signer) : hash = otherHash := by
  obtain ⟨proposal, processing, first⟩ := (votes.stored hash vote found).counted
  have second := votes.accepts processing otherFound
  rw [(votes.stored hash vote found).keyed, (votes.stored otherHash other otherFound).keyed]
  exact unsigned vote other (first.sameProposal.trans second.sameProposal.symm) sameSigner
    (first.accepting.trans second.accepting.symm)

theorem validConfirm_of_outcomeSound {outcome : Node × Bool}
    (unsigned : HashesUnsigned setup.ela) (sound : OutcomeSound setup table outcome)
    (emission : confirm ∈ outcome.1.confirmIf order outcome.2) :
    ValidConfirm setup table confirm := by
  obtain ⟨votes, majority⟩ := sound
  unfold Node.confirmIf at emission
  split_ifs at emission with finished
  · obtain ⟨proposal, processing, rfl⟩ := Option.map_eq_some_iff.1 (Option.mem_toList.1 emission)
    have listed : ∀ vote,
        vote ∈ (GoMap.iterate order outcome.1.dispatcher.acceptVotes).map Prod.snd →
        ∃ hash, outcome.1.dispatcher.acceptVotes.lookup hash = some vote := by
      intro vote member
      obtain ⟨⟨hash, stored⟩, visited, rfl⟩ := List.mem_map.1 member
      exact ⟨hash, GoMap.mem_iterate.1 visited⟩
    constructor
    · intro vote member
      obtain ⟨hash, found⟩ := listed vote member
      exact votes.accepts processing found
    · intro vote member
      obtain ⟨hash, found⟩ := listed vote member
      exact (votes.stored hash vote found).seated
    · apply GoMap.nodup_map_iterate
      intro hash vote otherHash other found otherFound sameSigner
      exact votes.hash_eq_of_signer_eq unsigned found otherFound sameSigner
    · have enough := majority finished
      rw [Producers.isMajorityAgree, Producers.getMajorityCount,
        votes.total, decide_eq_true_iff] at enough
      rwa [List.length_map, GoMap.length_iterate]
  · cases emission

end Soundness

/-! ## Operations and runs -/

/--
An operation that takes up a proposal does so while no accept vote for another
one is stored.
-/
def Uncrossed (setup : Setup) (node : Node) (event : Moment × DispatcherOp) : Prop :=
  match event.2 with
  | .processProposal id proposal =>
    (node.processProposal setup event.1 (event.1.order 0) id proposal).2.error = none →
      NoOtherVotes setup node proposal
  | .rejectProposal proposal => NoOtherVotes setup node proposal
  | _ => True

section Runs

variable {setup : Setup} {moment : Moment} {table : Producers}
variable {node : Node}

theorem processProposal_cases {order : IterationOrder} {id : Bytes} {proposal : DPOSProposal} :
    ((node.processProposal setup moment order id proposal).2.error ≠ none ∧ ∃ precocious,
          (node.processProposal setup moment order id proposal).1 = { node with
              dispatcher := { node.dispatcher with
                precociousProposals := precocious } }) ∨
      (node.processProposal setup moment order id proposal).2.error = none ∧
        (node.processProposal setup moment order id proposal).1 =
          (node.setProcessingProposal setup moment order proposal).1 := by
  unfold Node.processProposal
  dsimp only
  split
  · refine .inl ⟨nofun, ?_⟩
    dsimp only
    split <;> exact ⟨_, rfl⟩
  split
  · exact .inl ⟨nofun, _, rfl⟩
  split
  · exact .inl ⟨nofun, _, rfl⟩
  split
  · exact .inl ⟨nofun, _, rfl⟩
  split
  · exact .inl ⟨nofun, _, rfl⟩
  · exact .inr ⟨rfl, rfl⟩

theorem rejectProposal_node {order : IterationOrder} :
    (node.rejectProposal setup moment order proposal).1 =
      (node.setProcessingProposal setup moment order proposal).1 := by
  unfold Node.rejectProposal
  split
  · next taken => rw [taken]
  · next taken => rw [taken]

theorem votesSound_finishedProposal {height headerTime : UInt64} {sealHash : Hash}
    (sound : VotesSound setup table node) :
    VotesSound setup table (node.finishedProposal setup moment height sealHash headerTime) := by
  by_cases known : height ≤ node.dispatcher.finishedHeight
  · rwa [Node.finishedProposal, if_pos known]
  have seats := @Node.producers_finishedProposal setup moment node
    height headerTime sealHash (UInt64.not_le.1 known)
  refine votesSound_of_no_votes ?_ ?_ ?_
  · rw [seats, Producers.producers_updateDutyIndex, sound.producers]
  · rw [seats, Producers.totalProducers_updateDutyIndex, sound.total]
  · rw [Node.finishedProposal, if_neg known]
    dsimp only
    rw [Node.changeView_forced_stopped rfl]
    rfl

theorem votesSound_recover {status : ConsensusStatus} (sound : VotesSound setup table node) :
    VotesSound setup table (node.recoverFromConsensusStatus status) := by
  have seats := @Node.seats_recoverFromConsensusStatus node status
  refine votesSound_of_no_votes ?_ ?_ rfl
  · exact seats.1.trans sound.producers
  · exact seats.2.trans sound.total

theorem votesSound_perform {event : Moment × DispatcherOp} (uncrossed : Uncrossed setup node event)
    (sound : VotesSound setup table node) :
    VotesSound setup table (node.perform setup event.1 event.2) := by
  obtain ⟨moment, operation⟩ := event
  cases operation with
  | processProposal id proposal =>
    rcases @processProposal_cases setup moment node (moment.order 0) id
      proposal with ⟨-, precocious, same⟩ | ⟨taken, same⟩
    · simp only [Node.perform]
      rw [same]
      exact sound.of_frame rfl rfl rfl rfl
    · simp only [Node.perform]
      rw [same]
      exact (outcomeSound_setProcessingProposal sound (uncrossed taken)).votes
  | addPendingVote vote => exact sound.of_frame rfl rfl rfl rfl
  | processVote vote => exact (outcomeSound_processVote sound).votes
  | rejectProposal proposal =>
    simp only [Node.perform]
    rw [rejectProposal_node]
    exact (outcomeSound_setProcessingProposal sound uncrossed).votes
  | cleanProposals changeView => exact votesSound_of_no_votes sound.producers sound.total rfl
  | finishedProposal height sealHash headerTime => exact votesSound_finishedProposal sound
  | resetAcceptVotes => exact votesSound_of_no_votes sound.producers sound.total rfl
  | recover status => exact votesSound_recover sound

theorem validConfirm_of_emitted {event : Moment × DispatcherOp}
    (unsigned : HashesUnsigned setup.ela) (uncrossed : Uncrossed setup node event)
    (sound : VotesSound setup table node)
    (emission : confirm ∈ node.emitted setup event.1 event.2) :
    ValidConfirm setup table confirm := by
  obtain ⟨moment, operation⟩ := event
  cases operation with
  | processProposal id proposal =>
    simp only [Node.emitted] at emission
    split_ifs at emission with taken
    · exact validConfirm_of_outcomeSound unsigned
        (outcomeSound_setProcessingProposal sound (uncrossed taken)) emission
    · cases emission
  | processVote vote =>
    exact validConfirm_of_outcomeSound unsigned (outcomeSound_processVote sound) emission
  | rejectProposal proposal =>
    exact validConfirm_of_outcomeSound unsigned
      (outcomeSound_setProcessingProposal sound uncrossed) emission
  | addPendingVote vote => cases emission
  | cleanProposals changeView => cases emission
  | finishedProposal height sealHash headerTime => cases emission
  | resetAcceptVotes => cases emission
  | recover status => cases emission

end Runs

/-- The confirms that a run of operations hands to `onConfirm`. -/
def confirmsOf (setup : Setup) (node : Node)
    (events : List (Moment × DispatcherOp)) : List Confirm :=
  EventRuns.outputs (fun node event => node.emitted setup event.1 event.2)
    (fun node event => node.perform setup event.1 event.2) node events

/--
In a run of a new node in which no proposal is taken up over accept votes for
another one, every confirm is valid.
-/
theorem confirmsOf_valid (setup : Setup) (publicKey : Bytes) (table : Producers)
    (events : List (Moment × DispatcherOp)) (unsigned : HashesUnsigned setup.ela)
    (uncrossed : EventRuns.Along (Uncrossed setup)
      (fun node event => node.perform setup event.1 event.2) (Node.new publicKey table) events) :
    ∀ confirm ∈ confirmsOf setup (Node.new publicKey table) events,
      ValidConfirm setup table confirm := by
  have preserved : ∀ node event, Uncrossed setup node event → VotesSound setup table node →
        VotesSound setup table (node.perform setup event.1 event.2) :=
    fun _ _ free sound => votesSound_perform free sound
  refine EventRuns.outputs_good preserved ?_ uncrossed ?_
  · intro node event free sound confirm emission
    exact validConfirm_of_emitted unsigned free sound emission
  · exact votesSound_of_no_votes rfl rfl rfl

namespace Sample

/-- An accept vote for the block that the first producer made at a time. -/
def voteFor (signer : Bytes) (time : UInt64) : DPOSProposalVote :=
  plainLibrary.acceptVote signer (proposalFor [1] time 0)

def singleProposal : List (Moment × DispatcherOp) :=
  [(at_ 2, .addPendingVote (voteFor [3] 5)), (at_ 2, .processProposal [1] (proposalFor [1] 5 0)),
    (at_ 2, .processVote (voteFor [1] 5)), (at_ 2, .processVote (voteFor [2] 5))]

/--
The producer on duty proposes two blocks.  The first one gets one vote and the
second one gets two.
-/
def secondProposal : List (Moment × DispatcherOp) :=
  [(at_ 2, .processProposal [1] (proposalFor [1] 5 0)), (at_ 2, .processVote (voteFor [1] 5)),
    (at_ 2, .processProposal [1] (proposalFor [1] 6 0)), (at_ 2, .processVote (voteFor [1] 6)),
    (at_ 2, .processVote (voteFor [2] 6))]

theorem hashesUnsigned_plainLibrary : HashesUnsigned (plainLibrary []) := by
  intro first second sameProposal sameSigner sameAnswer
  simp only [plainLibrary, sameProposal, sameSigner, sameAnswer]

end Sample

open Sample

/-- The votes for one proposal give one confirm, and it is valid. -/
theorem confirmsOf_valid_singleProposal :
    confirmsOf (setup [4]) (Node.new [4] fourProducers) singleProposal =
      [⟨proposalFor [1] 5 0, [voteFor [2] 5, voteFor [1] 5, voteFor [3] 5]⟩] ∧
    ∀ confirm ∈ confirmsOf (setup [4]) (Node.new [4] fourProducers) singleProposal,
      ValidConfirm (setup [4]) fourProducers confirm := by
  refine ⟨by decide +kernel, confirmsOf_valid (setup [4]) [4]
    fourProducers singleProposal hashesUnsigned_plainLibrary ?_⟩
  refine ⟨trivial, ?_, trivial, trivial, trivial⟩
  intro taken hash vote found
  cases found

/--
The vote for the first proposal is still there when the second one is taken up:
two producers are enough for a confirm of the second one.
-/
theorem confirm_counts_earlier_vote :
    HashesUnsigned (setup [4]).ela ∧
      confirmsOf (setup [4]) (Node.new [4] fourProducers) secondProposal =
        [⟨proposalFor [1] 6 0, [voteFor [2] 6, voteFor [1] 6, voteFor [1] 5]⟩] ∧
      ¬∀ confirm ∈ confirmsOf (setup [4]) (Node.new [4] fourProducers) secondProposal,
        ValidConfirm (setup [4]) fourProducers
          confirm := by
  have emission :
      confirmsOf (setup [4]) (Node.new [4] fourProducers) secondProposal =
        [⟨proposalFor [1] 6 0, [voteFor [2] 6, voteFor [1] 6, voteFor [1] 5]⟩] := by
    decide +kernel
  refine ⟨hashesUnsigned_plainLibrary, emission, ?_⟩
  intro allValid
  rw [emission] at allValid
  have valid := allValid _ List.mem_cons_self
  have earlier := (valid.accepting (voteFor [1] 5) (by simp)).sameProposal
  revert earlier
  decide +kernel

end EscSideChain.Pbft
