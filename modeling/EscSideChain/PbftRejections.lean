import EscSideChain.PbftConfirms

namespace EscSideChain.Pbft

open Dpos

/-!
# Confirmed and rejected proposals

The dispatcher confirms a proposal once enough producers accept it and gives it
up once enough reject it.  The two thresholds exclude each other as long as no
producer is counted on both sides.  Votes are told apart by their hash, which
depends on the answer, so a producer that signs both answers is counted twice.
-/

namespace Node

def recorded (node : Node) (answer : Bool) : GoMap Hash DPOSProposalVote :=
  if answer then node.dispatcher.acceptVotes
  else node.dispatcher.rejectedVotes

variable (setup : Setup) (moment : Moment)

/-- The votes that `createUnConfirm` takes once enough producers reject. -/
def unconfirmIf (order : IterationOrder) (node : Node) : List Confirm :=
  if node.view.producers.isMajorityRejected node.dispatcher.rejectedVotes.len then
    (node.dispatcher.processingProposal.map fun proposal =>
      ⟨proposal, (GoMap.iterate order node.dispatcher.rejectedVotes).map Prod.snd⟩).toList
  else []

/--
What `processVote` hands to `unConfirm`.  It does so only for a reject vote that
it counted, and the callback leaves the dispatcher alone.
-/
def unconfirmedByVote (order : IterationOrder) (node : Node)
    (vote : DPOSProposalVote) : List Confirm :=
  let processed := node.processVote setup moment order vote
  if vote.accept = false ∧ processed.2.2 = .ok () then processed.1.unconfirmIf order
  else []

/-- What the loop over the pending votes hands to `unConfirm`. -/
def unconfirmedByPending (order : IterationOrder) (proposalHash : Hash) :
    List DPOSProposalVote → Node → List Confirm
  | [], _ => []
  | vote :: rest, node =>
    if vote.proposalHash = proposalHash then
      node.unconfirmedByVote setup moment order vote ++
        match node.processVote setup moment order vote with
        | (_, true, _) => []
        | (processed, false, _) => unconfirmedByPending order proposalHash rest processed
    else unconfirmedByPending order proposalHash rest node

/-- What `setProcessingProposal` hands to `unConfirm`. -/
def unconfirmedBySet (order : IterationOrder) (node : Node)
    (proposal : DPOSProposal) : List Confirm :=
  unconfirmedByPending setup moment order (setup.ela.proposalHash proposal)
    ((GoMap.iterate order node.dispatcher.pendingVotes).map Prod.snd) { node with
      dispatcher := { node.dispatcher with
        processingProposal := some proposal } }

/-- What an operation hands to `unConfirm`. -/
def unconfirmed (node : Node) : DispatcherOp → List Confirm
  | .processProposal id proposal =>
    if (node.processProposal setup moment (moment.order 0) id proposal).2.error = none then
      node.unconfirmedBySet setup moment (moment.order 0) proposal
    else []
  | .processVote vote => node.unconfirmedByVote setup moment (moment.order 0) vote
  | .rejectProposal proposal => node.unconfirmedBySet setup moment (moment.order 0) proposal
  | _ => []

end Node

def DispatcherOp.vote? : DispatcherOp → Option DPOSProposalVote
  | .addPendingVote vote => some vote
  | .processVote vote => some vote
  | _ => none

/-! ## The counted votes -/

structure CountedVote (setup : Setup) (table : Producers) (cast : DPOSProposalVote → Prop)
    (dispatcher : Dispatcher) (answer : Bool) (hash : Hash) (vote : DPOSProposalVote) : Prop where
  keyed : hash = setup.ela.voteHash vote
  seated : table.isProducers vote.signer = true
  signed : checkVote setup.ela vote = .ok ()
  brought : cast vote
  answered : vote.accept = answer
  counted : ∃ proposal, dispatcher.processingProposal = some proposal ∧
    vote.proposalHash = setup.ela.proposalHash proposal

structure CountsSound (setup : Setup) (table : Producers) (cast : DPOSProposalVote → Prop)
    (node : Node) : Prop where
  producers : node.view.producers.producers = table.producers
  total : node.view.producers.totalProducers = table.totalProducers
  recorded : ∀ answer hash vote, (node.recorded answer).lookup hash = some vote →
      CountedVote setup table cast node.dispatcher answer hash vote
  pending : ∀ hash vote, node.dispatcher.pendingVotes.lookup hash = some vote → cast vote

def Backed (table : Producers) (cast : DPOSProposalVote → Prop) (setup : Setup) (answer : Bool)
    (proposalHash : Hash) (signers : Finset Bytes) : Prop :=
  ∀ signer ∈ signers, signer ∈ table.producers ∧
    ∃ vote, cast vote ∧ vote.signer = signer ∧ vote.accept = answer ∧
      checkVote setup.ela vote = .ok () ∧ vote.proposalHash = proposalHash

def BackedConfirm (setup : Setup) (table : Producers) (cast : DPOSProposalVote → Prop)
    (confirm : Confirm) : Prop :=
  ∃ signers, Backed table cast setup true (setup.ela.proposalHash confirm.proposal) signers ∧
    table.getMajorityCount < signers.card

def BackedUnconfirm (setup : Setup) (table : Producers) (cast : DPOSProposalVote → Prop)
    (unconfirm : Confirm) : Prop :=
  ∃ signers, Backed table cast setup false (setup.ela.proposalHash unconfirm.proposal) signers ∧
    (table.producers.length : Int) - table.getMajorityCount ≤ signers.card

variable {unconfirm : Confirm} {event : Moment × DispatcherOp} {vote : DPOSProposalVote}

section Counts

variable {setup : Setup} {moment : Moment} {table : Producers}
variable {cast : DPOSProposalVote → Prop}
variable {node : Node} {order : IterationOrder}

theorem CountsSound.backed {proposal : DPOSProposal} {answer : Bool}
    (unsigned : HashesUnsigned setup.ela) (sound : CountsSound setup table cast node)
    (processing : node.dispatcher.processingProposal = some proposal) :
    ∃ signers, Backed table cast setup answer (setup.ela.proposalHash proposal) signers ∧
      signers.card = (node.recorded answer).len := by
  have sameHash : ∀ hash vote, (node.recorded answer).lookup hash = some vote →
        vote.proposalHash = setup.ela.proposalHash proposal := by
    intro hash vote found
    obtain ⟨other, processingAlso, same⟩ := (sound.recorded answer hash vote found).counted
    rwa [Option.some.inj (processing.symm.trans processingAlso)]
  have distinct : (((GoMap.iterate IterationOrder.stored (node.recorded answer)).map Prod.snd).map
        DPOSProposalVote.signer).Nodup := by
    apply GoMap.nodup_map_iterate
    intro hash vote otherHash other found otherFound sameSigner
    have first := sound.recorded answer hash vote found
    have second := sound.recorded answer otherHash other otherFound
    rw [first.keyed, second.keyed]
    exact unsigned vote other
      ((sameHash hash vote found).trans (sameHash otherHash other otherFound).symm) sameSigner
      (first.answered.trans second.answered.symm)
  refine ⟨(((GoMap.iterate IterationOrder.stored (node.recorded answer)).map Prod.snd).map
      DPOSProposalVote.signer).toFinset, ?_, ?_⟩
  · intro signer member
    obtain ⟨vote, listed, rfl⟩ := List.mem_map.mp (List.mem_toFinset.mp member)
    obtain ⟨⟨hash, stored⟩, visited, rfl⟩ := List.mem_map.mp listed
    have found := GoMap.mem_iterate.mp visited
    have counted := sound.recorded answer hash stored found
    refine ⟨?_, stored, counted.brought, rfl, counted.answered,
      counted.signed, sameHash hash stored found⟩
    have seated := counted.seated
    simpa [Producers.isProducers] using seated
  · rw [List.toFinset_card_of_nodup distinct, List.length_map,
      List.length_map, GoMap.length_iterate]

theorem CountsSound.of_frame {after : Node} (sound : CountsSound setup table cast node)
    (sameView : after.view = node.view)
    (sameAccepts : after.dispatcher.acceptVotes = node.dispatcher.acceptVotes)
    (sameRejects : after.dispatcher.rejectedVotes = node.dispatcher.rejectedVotes)
    (pending : ∀ hash vote, after.dispatcher.pendingVotes.lookup hash = some vote → cast vote)
    (sameProposal : after.dispatcher.processingProposal = node.dispatcher.processingProposal) :
    CountsSound setup table cast after where
  producers := sameView ▸ sound.producers
  total := sameView ▸ sound.total
  recorded answer hash vote found := by
    have same : after.recorded answer = node.recorded answer := by
      simp only [Node.recorded, sameAccepts, sameRejects]
    rw [same] at found
    obtain ⟨keyed, seated, signed, brought, answered, counted⟩ :=
      sound.recorded answer hash vote found
    exact ⟨keyed, seated, signed, brought, answered, by rwa [sameProposal]⟩
  pending := pending

theorem countsSound_of_no_votes (sameProducers : node.view.producers.producers = table.producers)
    (sameTotal : node.view.producers.totalProducers = table.totalProducers)
    (noAccepts : node.dispatcher.acceptVotes = ∅) (noRejects : node.dispatcher.rejectedVotes = ∅)
    (noPending : node.dispatcher.pendingVotes = ∅) : CountsSound setup table cast node where
  producers := sameProducers
  total := sameTotal
  recorded answer hash vote found := by
    cases answer with
    | false => simp [Node.recorded, noRejects] at found
    | true => simp [Node.recorded, noAccepts] at found
  pending hash vote found := by
    simp [noPending] at found

theorem CountsSound.count {proposal : DPOSProposal} {after : Node}
    (sound : CountsSound setup table cast node) (brought : cast vote)
    (counts : CountsVote setup node vote proposal) (sameView : after.view = node.view)
    (sameProposal : after.dispatcher.processingProposal = node.dispatcher.processingProposal)
    (samePending : after.dispatcher.pendingVotes = node.dispatcher.pendingVotes)
    (counted : after.recorded vote.accept =
      (node.recorded vote.accept).insert (setup.ela.voteHash vote) vote)
    (other : after.recorded (!vote.accept) = node.recorded (!vote.accept)) :
    CountsSound setup table cast after where
  producers := sameView ▸ sound.producers
  total := sameView ▸ sound.total
  recorded answer hash stored found := by
    have old : (node.recorded answer).lookup hash = some stored →
        CountedVote setup table cast after.dispatcher answer hash
          stored := by
      intro before
      obtain ⟨keyed, seated, signed, given_, answered, was⟩ :=
        sound.recorded answer hash stored before
      exact ⟨keyed, seated, signed, given_, answered, by rwa [sameProposal]⟩
    by_cases side : answer = vote.accept
    · subst side
      rw [counted] at found
      rcases GoMap.lookup_insert_cases found with ⟨isNew, rfl⟩ | before
      · have seated := counts.seated
        rw [Producers.isProducers, sound.producers] at seated
        exact ⟨isNew, seated, counts.signed, brought, rfl, proposal,
          sameProposal.trans counts.processing, counts.sameProposal⟩
      · exact old before
    · have opposite : answer = !vote.accept := Bool.eq_not_of_ne side
      rw [opposite, other, ← opposite] at found
      exact old found
  pending hash stored found := by
    rw [samePending] at found
    exact sound.pending hash stored found

theorem countsSound_processVote {vote : DPOSProposalVote} (brought : cast vote)
    (sound : CountsSound setup table cast node) :
    CountsSound setup table cast (node.processVote setup moment order vote).1 := by
  rcases @Node.processVote_cases setup moment node order vote with
    ⟨reason, refused⟩ | ⟨proposal, counts, way⟩
  · rw [refused]
    exact sound
  · rcases way with ⟨accepts, accepted⟩ | ⟨rejects, rejected⟩
    · obtain ⟨sameView, dispatcher, -⟩ := @Node.countAccept_frame setup moment node order vote
      rw [accepted]
      refine sound.count brought counts sameView ?_ ?_ ?_ ?_
      · rw [dispatcher]
        rfl
      · rw [dispatcher]
        rfl
      · rw [accepts, Node.recorded, dispatcher]
        rfl
      · rw [accepts, Node.recorded, dispatcher]
        rfl
    · obtain ⟨sameView, dispatcher, -⟩ := @Node.countReject_frame setup node order vote
      rw [rejected]
      refine sound.count brought counts sameView ?_ ?_ ?_ ?_
      · rw [dispatcher]
        rfl
      · rw [dispatcher]
        rfl
      · rw [rejects, Node.recorded, dispatcher]
        rfl
      · rw [rejects, Node.recorded, dispatcher]
        rfl

theorem majority_of_processVote_finished {vote : DPOSProposalVote}
    (finished : (node.processVote setup moment order vote).2.1 = true) :
    (node.processVote setup moment order vote).1.view.producers.isMajorityAgree
      (node.processVote setup moment order vote).1.dispatcher.acceptVotes.len = true := by
  rcases @Node.processVote_cases setup moment node order vote with
    ⟨reason, refused⟩ | ⟨proposal, counts, ⟨-, accepted⟩ | ⟨-, rejected⟩⟩
  · rw [refused] at finished
    cases finished
  · obtain ⟨sameView, dispatcher, agreed⟩ := @Node.countAccept_frame setup moment node order vote
    rw [accepted] at finished ⊢
    rwa [sameView, dispatcher, ← agreed]
  · have unfinished := (@Node.countReject_frame setup node order vote).2.2
    rw [rejected, unfinished] at finished
    cases finished

theorem backedConfirm_of_confirmIf {finished : Bool} {confirm : Confirm}
    (unsigned : HashesUnsigned setup.ela) (sound : CountsSound setup table cast node)
    (majority : finished = true → node.view.producers.isMajorityAgree
        node.dispatcher.acceptVotes.len = true)
    (emission : confirm ∈ node.confirmIf order finished) :
    BackedConfirm setup table cast confirm := by
  unfold Node.confirmIf at emission
  split_ifs at emission with isFinished
  · obtain ⟨proposal, processing, rfl⟩ := Option.map_eq_some_iff.mp (Option.mem_toList.mp emission)
    obtain ⟨signers, backed, card⟩ :=
      @CountsSound.backed setup table cast node proposal true unsigned sound processing
    have enough := majority isFinished
    rw [Producers.isMajorityAgree, Producers.getMajorityCount,
      sound.total, decide_eq_true_iff] at enough
    refine ⟨signers, backed, ?_⟩
    rw [card]
    exact enough
  · cases emission

theorem backedUnconfirm_of_unconfirmIf (unsigned : HashesUnsigned setup.ela)
    (sound : CountsSound setup table cast node) (emission : unconfirm ∈ node.unconfirmIf order) :
    BackedUnconfirm setup table cast unconfirm := by
  unfold Node.unconfirmIf at emission
  split_ifs at emission with enough
  · obtain ⟨proposal, processing, rfl⟩ := Option.map_eq_some_iff.mp (Option.mem_toList.mp emission)
    obtain ⟨signers, backed, card⟩ :=
      @CountsSound.backed setup table cast node proposal false unsigned sound processing
    rw [Producers.isMajorityRejected, Producers.getMajorityCount,
      sound.total, sound.producers, decide_eq_true_iff] at enough
    refine ⟨signers, backed, ?_⟩
    rw [card]
    exact enough
  · cases emission

theorem backedUnconfirm_of_vote (unsigned : HashesUnsigned setup.ela) (brought : cast vote)
    (sound : CountsSound setup table cast node)
    (emission : unconfirm ∈ node.unconfirmedByVote setup moment order vote) :
    BackedUnconfirm setup table cast unconfirm := by
  unfold Node.unconfirmedByVote at emission
  dsimp only at emission
  split_ifs at emission
  · exact backedUnconfirm_of_unconfirmIf unsigned (countsSound_processVote brought sound) emission
  · cases emission

structure PendingOutcome (setup : Setup) (table : Producers) (cast : DPOSProposalVote → Prop)
    (outcome : Node × Bool) (givenUp : List Confirm) : Prop where
  counts : CountsSound setup table cast outcome.1
  majority : outcome.2 = true → outcome.1.view.producers.isMajorityAgree
      outcome.1.dispatcher.acceptVotes.len = true
  rejected : ∀ unconfirm ∈ givenUp, BackedUnconfirm setup table cast unconfirm

theorem pendingOutcome_processPendingVotes {proposalHash : Hash} {votes : List DPOSProposalVote}
    (unsigned : HashesUnsigned setup.ela) (brought : ∀ vote ∈ votes, cast vote)
    (sound : CountsSound setup table cast node) :
    PendingOutcome setup table cast
      (Node.processPendingVotes setup moment order proposalHash votes node)
      (Node.unconfirmedByPending setup moment order proposalHash votes node) := by
  induction votes generalizing node with
  | nil =>
    refine ⟨sound.of_frame rfl rfl rfl ?_ rfl, ?_, ?_⟩
    · intro hash vote found
      cases found
    · intro finished
      cases finished
    · intro unconfirm emission
      cases emission
  | cons vote rest inductionHypothesis =>
    have voteBrought := brought vote List.mem_cons_self
    have restBrought : ∀ other ∈ rest, cast other :=
      fun other member => brought other (List.mem_cons_of_mem vote member)
    have counted := @countsSound_processVote setup moment table cast node
      order vote voteBrought sound
    have finished := @majority_of_processVote_finished setup moment node order vote
    have now : ∀ unconfirm ∈ node.unconfirmedByVote setup moment order vote,
        BackedUnconfirm setup table cast unconfirm :=
      fun unconfirm => backedUnconfirm_of_vote unsigned voteBrought sound
    unfold Node.processPendingVotes Node.unconfirmedByPending
    by_cases forThis : vote.proposalHash = proposalHash
    · rw [if_pos forThis, if_pos forThis]
      revert counted finished
      rcases node.processVote setup moment order vote with ⟨processed, done, error⟩
      intro counted finished
      cases done with
      | true =>
        refine ⟨counted, finished, ?_⟩
        dsimp only
        rw [List.append_nil]
        exact now
      | false =>
        have later := inductionHypothesis restBrought counted
        refine ⟨later.counts, later.majority, ?_⟩
        intro unconfirm emission
        rcases List.mem_append.mp emission with early | late
        · exact now unconfirm early
        · exact later.rejected unconfirm late
    · rw [if_neg forThis, if_neg forThis]
      exact inductionHypothesis restBrought sound

def NoOtherAnswers (setup : Setup) (node : Node) (proposal : DPOSProposal) : Prop :=
  ∀ answer hash vote, (node.recorded answer).lookup hash = some vote →
      vote.proposalHash = setup.ela.proposalHash proposal

theorem pendingOutcome_setProcessingProposal {proposal : DPOSProposal}
    (unsigned : HashesUnsigned setup.ela) (sound : CountsSound setup table cast node)
    (unmixed : NoOtherAnswers setup node proposal) :
    PendingOutcome setup table cast (node.setProcessingProposal setup moment order proposal)
      (node.unconfirmedBySet setup moment order proposal) := by
  refine pendingOutcome_processPendingVotes unsigned ?_ ?_
  · intro vote member
    obtain ⟨⟨hash, stored⟩, visited, rfl⟩ := List.mem_map.mp member
    exact sound.pending hash stored (GoMap.mem_iterate.mp visited)
  · refine ⟨sound.producers, sound.total, ?_, sound.pending⟩
    intro answer hash vote found
    obtain ⟨keyed, seated, signed, given_, answered, -⟩ := sound.recorded answer hash vote found
    exact ⟨keyed, seated, signed, given_, answered, proposal, rfl, unmixed answer hash vote found⟩

end Counts

/-! ## Operations and runs -/

def Unmixed (setup : Setup) (node : Node) (event : Moment × DispatcherOp) : Prop :=
  match event.2 with
  | .processProposal id proposal =>
    (node.processProposal setup event.1 (event.1.order 0) id proposal).2.error = none →
      NoOtherAnswers setup node proposal
  | .rejectProposal proposal => NoOtherAnswers setup node proposal
  | _ => True

section Runs

variable {setup : Setup} {moment : Moment} {table : Producers}
variable {cast : DPOSProposalVote → Prop} {node : Node}

theorem countsSound_finishedProposal {height headerTime : UInt64} {sealHash : Hash}
    (sound : CountsSound setup table cast node) :
    CountsSound setup table cast
      (node.finishedProposal setup moment height sealHash headerTime) := by
  by_cases known : height ≤ node.dispatcher.finishedHeight
  · rwa [Node.finishedProposal, if_pos known]
  have seats := @Node.producers_finishedProposal setup moment node
    height headerTime sealHash (UInt64.not_le.1 known)
  have cleared : (node.finishedProposal setup moment height sealHash
      headerTime).dispatcher.acceptVotes = ∅ ∧
      (node.finishedProposal setup moment height sealHash headerTime).dispatcher.rejectedVotes = ∅ ∧
      (node.finishedProposal setup moment height sealHash
        headerTime).dispatcher.pendingVotes = ∅ := by
    rw [Node.finishedProposal, if_neg known]
    dsimp only
    rw [Node.changeView_forced_stopped rfl]
    exact ⟨rfl, rfl, rfl⟩
  refine countsSound_of_no_votes ?_ ?_ cleared.1 cleared.2.1 cleared.2.2
  · rw [seats, Producers.producers_updateDutyIndex, sound.producers]
  · rw [seats, Producers.totalProducers_updateDutyIndex, sound.total]

theorem countsSound_recover {status : ConsensusStatus} (sound : CountsSound setup table cast node) :
    CountsSound setup table cast (node.recoverFromConsensusStatus status) := by
  have seats := @Node.seats_recoverFromConsensusStatus node status
  refine countsSound_of_no_votes ?_ ?_ rfl rfl rfl
  · exact seats.1.trans sound.producers
  · exact seats.2.trans sound.total

variable (unsigned : HashesUnsigned setup.ela)
  (brought : ∀ vote, event.2.vote? = some vote → cast vote) (unmixed : Unmixed setup node event)
  (sound : CountsSound setup table cast node)

include unsigned brought unmixed sound

theorem countsSound_perform :
    CountsSound setup table cast (node.perform setup event.1 event.2) := by
  obtain ⟨moment, operation⟩ := event
  cases operation with
  | processProposal id proposal =>
    simp only [Node.perform]
    rcases @processProposal_cases setup moment node (moment.order 0) id
      proposal with ⟨-, precocious, same⟩ | ⟨taken, same⟩
    · rw [same]
      exact sound.of_frame rfl rfl rfl sound.pending rfl
    · rw [same]
      exact (pendingOutcome_setProcessingProposal unsigned sound (unmixed taken)).counts
  | addPendingVote vote =>
    refine sound.of_frame rfl rfl rfl ?_ rfl
    intro hash stored found
    rcases GoMap.lookup_insert_cases found with ⟨-, rfl⟩ | before
    · exact brought stored rfl
    · exact sound.pending hash stored before
  | processVote vote => exact countsSound_processVote (brought vote rfl) sound
  | rejectProposal proposal =>
    simp only [Node.perform]
    rw [rejectProposal_node]
    exact (pendingOutcome_setProcessingProposal unsigned sound unmixed).counts
  | cleanProposals changeView =>
    exact countsSound_of_no_votes sound.producers sound.total rfl rfl rfl
  | finishedProposal height sealHash headerTime => exact countsSound_finishedProposal sound
  | resetAcceptVotes =>
    refine ⟨sound.producers, sound.total, ?_, sound.pending⟩
    intro answer hash vote found
    cases answer with
    | false =>
      obtain ⟨keyed, seated, signed, given_, answered, counted⟩ :=
        sound.recorded false hash vote found
      exact ⟨keyed, seated, signed, given_, answered, counted⟩
    | true => cases found
  | recover status => exact countsSound_recover sound

theorem backedConfirm_of_emitted {confirm : Confirm}
    (emission : confirm ∈ node.emitted setup event.1 event.2) :
    BackedConfirm setup table cast confirm := by
  have ofSet : ∀ {moment : Moment} {proposal : DPOSProposal}, NoOtherAnswers setup node proposal →
      confirm ∈ node.emittedBySet setup moment (moment.order 0) proposal →
      BackedConfirm setup table cast confirm := by
    intro moment proposal free emittedBySet
    have outcome := @pendingOutcome_setProcessingProposal setup moment
      table cast node (moment.order 0) proposal unsigned sound free
    exact backedConfirm_of_confirmIf unsigned outcome.counts outcome.majority emittedBySet
  obtain ⟨moment, operation⟩ := event
  cases operation with
  | processProposal id proposal =>
    simp only [Node.emitted] at emission
    split_ifs at emission with taken
    · exact ofSet (unmixed taken) emission
    · cases emission
  | processVote vote =>
    exact backedConfirm_of_confirmIf unsigned (countsSound_processVote (brought vote rfl) sound)
      majority_of_processVote_finished emission
  | rejectProposal proposal => exact ofSet unmixed emission
  | addPendingVote vote => cases emission
  | cleanProposals changeView => cases emission
  | finishedProposal height sealHash headerTime => cases emission
  | resetAcceptVotes => cases emission
  | recover status => cases emission

theorem backedUnconfirm_of_unconfirmed
    (emission : unconfirm ∈ node.unconfirmed setup event.1 event.2) :
    BackedUnconfirm setup table cast unconfirm := by
  obtain ⟨moment, operation⟩ := event
  cases operation with
  | processProposal id proposal =>
    simp only [Node.unconfirmed] at emission
    split_ifs at emission with taken
    · exact (pendingOutcome_setProcessingProposal unsigned sound
        (unmixed taken)).rejected unconfirm emission
    · cases emission
  | processVote vote => exact backedUnconfirm_of_vote unsigned (brought vote rfl) sound emission
  | rejectProposal proposal =>
    exact (pendingOutcome_setProcessingProposal unsigned sound unmixed).rejected unconfirm emission
  | addPendingVote vote => cases emission
  | cleanProposals changeView => cases emission
  | finishedProposal height sealHash headerTime => cases emission
  | resetAcceptVotes => cases emission
  | recover status => cases emission

end Runs

def votesOf (events : List (Moment × DispatcherOp)) : List DPOSProposalVote :=
  events.filterMap fun event => event.2.vote?

/-- What a run of operations hands to `unConfirm`. -/
def unconfirmsOf (setup : Setup) (node : Node)
    (events : List (Moment × DispatcherOp)) : List Confirm :=
  EventRuns.outputs (fun node event => node.unconfirmed setup event.1 event.2)
    (fun node event => node.perform setup event.1 event.2) node events

def SingleAnswers (setup : Setup) (table : Producers) (votes : List DPOSProposalVote) : Prop :=
  ∀ first ∈ votes, ∀ second ∈ votes, table.isProducers first.signer = true →
    checkVote setup.ela first = .ok () → checkVote setup.ela second = .ok () →
    first.signer = second.signer → first.proposalHash = second.proposalHash →
      first.accept = second.accept

def CountedOnce (node : Node) : Prop :=
  ∀ hash vote otherHash other, node.dispatcher.acceptVotes.lookup hash = some vote →
    node.dispatcher.rejectedVotes.lookup otherHash = some other → vote.signer ≠ other.signer

/-- No proposal is both handed to `onConfirm` and to `unConfirm`. -/
def DecidedOnce (setup : Setup) (confirms unconfirms : List Confirm) : Prop :=
  ∀ confirm ∈ confirms, ∀ unconfirm ∈ unconfirms, setup.ela.proposalHash confirm.proposal ≠
      setup.ela.proposalHash unconfirm.proposal

section Decisions

variable {setup : Setup} {table : Producers}
variable {votes : List DPOSProposalVote} {node : Node}

theorem CountsSound.countedOnce (single : SingleAnswers setup table votes)
    (sound : CountsSound setup table (· ∈ votes) node) : CountedOnce node := by
  intro hash vote otherHash other accepted rejected sameSigner
  have first := sound.recorded true hash vote accepted
  have second := sound.recorded false otherHash other rejected
  obtain ⟨proposal, processing, sameHash⟩ := first.counted
  obtain ⟨also, processingAlso, otherHash⟩ := second.counted
  obtain rfl := Option.some.inj (processing.symm.trans processingAlso)
  have same := single vote first.brought other second.brought first.seated
    first.signed second.signed sameSigner (sameHash.trans otherHash.symm)
  rw [first.answered, second.answered] at same
  cases same

theorem proposalHash_ne_of_backed {confirm unconfirm : Confirm}
    (single : SingleAnswers setup table votes)
    (confirmed : BackedConfirm setup table (· ∈ votes) confirm)
    (rejected : BackedUnconfirm setup table (· ∈ votes) unconfirm) :
    setup.ela.proposalHash confirm.proposal ≠ setup.ela.proposalHash unconfirm.proposal := by
  intro sameHash
  obtain ⟨accepters, accepted, many⟩ := confirmed
  obtain ⟨rejecters, refused, enough⟩ := rejected
  have overlap := @QuorumOverlap.card_add_card_le Bytes _
    table.producers.toFinset accepters rejecters (fun signer member =>
      List.mem_toFinset.mpr (accepted signer member).1)
    (fun signer member =>
      List.mem_toFinset.mpr (refused signer member).1)
  have seats := List.toFinset_card_le table.producers
  have accepterSeats := Finset.card_le_card (fun signer member =>
      List.mem_toFinset.mpr (accepted signer member).1 : accepters ⊆ table.producers.toFinset)
  have shared : 0 < (accepters ∩ rejecters).card := by omega
  obtain ⟨signer, member⟩ := Finset.card_pos.mp shared
  obtain ⟨inAccepters, inRejecters⟩ := Finset.mem_inter.mp member
  obtain ⟨seated, vote, voted, signedBy, accepts, signed, forHash⟩ := accepted signer inAccepters
  obtain ⟨-, other, otherVoted, otherBy, rejects, otherSigned, otherHash⟩ :=
    refused signer inRejecters
  have isProducer : table.isProducers vote.signer = true := by
    simpa [Producers.isProducers, signedBy] using seated
  have same := single vote voted other otherVoted isProducer signed
    otherSigned (signedBy.trans otherBy.symm) (forHash.trans (sameHash.trans otherHash.symm))
  rw [accepts, rejects] at same
  cases same

end Decisions

/--
In a run of a new node in which no producer signs both answers to a proposal,
and no proposal is taken up over counted votes for another one, no producer is
counted on both sides and no proposal is both confirmed and given up.
-/
theorem decided_once (setup : Setup) (publicKey : Bytes) (table : Producers)
    (events : List (Moment × DispatcherOp)) (unsigned : HashesUnsigned setup.ela)
    (single : SingleAnswers setup table (votesOf events))
    (unmixed : EventRuns.Along (Unmixed setup)
      (fun node event => node.perform setup event.1 event.2) (Node.new publicKey table) events) :
    CountedOnce (EventRuns.run (fun node event => node.perform setup event.1 event.2)
        (Node.new publicKey table) events) ∧
      DecidedOnce setup (confirmsOf setup (Node.new publicKey table) events)
        (unconfirmsOf setup (Node.new publicKey table) events) := by
  have brought : ∀ event ∈ events, ∀ vote, event.2.vote? = some vote → vote ∈ votesOf events :=
    fun event member vote isVote =>
      List.mem_filterMap.mpr ⟨event, member, isVote⟩
  have along := EventRuns.along_and_of_mem brought unmixed
  have initially : CountsSound setup table (· ∈ votesOf events) (Node.new publicKey table) :=
    countsSound_of_no_votes rfl rfl rfl rfl rfl
  have preserved : ∀ (node : Node) (event : Moment × DispatcherOp),
      ((∀ vote, event.2.vote? = some vote → vote ∈ votesOf events) ∧ Unmixed setup node event) →
      CountsSound setup table (· ∈ votesOf events) node →
      CountsSound setup table (· ∈ votesOf events) (node.perform setup event.1 event.2) :=
    fun _ _ guard sound =>
      countsSound_perform unsigned guard.1 guard.2 sound
  constructor
  · exact (EventRuns.run_invariant preserved along initially).countedOnce single
  · intro confirm emission unconfirm givenUp
    have confirmed := EventRuns.outputs_good preserved (fun node event guard sound confirm =>
        backedConfirm_of_emitted unsigned guard.1 guard.2 sound)
      along initially confirm emission
    have rejected := EventRuns.outputs_good preserved (fun node event guard sound unconfirm =>
        backedUnconfirm_of_unconfirmed unsigned guard.1 guard.2 sound)
      along initially unconfirm givenUp
    exact proposalHash_ne_of_backed single confirmed rejected

namespace Sample

def rejectionOf (signer : Bytes) (time : UInt64) : DPOSProposalVote :=
  let unsigned := { voteFor signer time with accept := false, sign := [] }
  { unsigned with sign := signer ++ (plainLibrary []).voteData unsigned }

def oneRejection : List (Moment × DispatcherOp) :=
  [(at_ 2, .processProposal [1] (proposalFor [1] 5 0)), (at_ 2, .processVote (voteFor [1] 5)),
    (at_ 2, .processVote (rejectionOf [3] 5)), (at_ 2, .processVote (voteFor [2] 5)),
    (at_ 2, .processVote (voteFor [4] 5))]

def bothAnswers : List (Moment × DispatcherOp) :=
  [(at_ 2, .processProposal [1] (proposalFor [1] 5 0)), (at_ 2, .processVote (voteFor [1] 5)),
    (at_ 2, .processVote (voteFor [2] 5)), (at_ 2, .processVote (rejectionOf [1] 5)),
    (at_ 2, .processVote (rejectionOf [3] 5)), (at_ 2, .processVote (voteFor [4] 5))]

end Sample

open Sample

/-- One rejection does not keep three producers from confirming. -/
theorem decided_once_oneRejection :
    (confirmsOf (setup [4]) (Node.new [4] fourProducers) oneRejection).length = 1 ∧
      CountedOnce (EventRuns.run (fun node event => node.perform (setup [4]) event.1 event.2)
        (Node.new [4] fourProducers) oneRejection) ∧
      DecidedOnce (setup [4]) (confirmsOf (setup [4]) (Node.new [4] fourProducers) oneRejection)
        (unconfirmsOf (setup [4]) (Node.new [4] fourProducers) oneRejection) := by
  refine ⟨by decide +kernel, decided_once (setup [4]) [4]
    fourProducers oneRejection hashesUnsigned_plainLibrary ?_ ?_⟩
  · unfold SingleAnswers
    decide +kernel
  · refine ⟨?_, trivial, trivial, trivial, trivial, trivial⟩
    intro taken answer hash vote found
    cases answer <;> cases found

/--
A producer that signs both answers is counted on both sides, and its proposal is
first given up and then confirmed.
-/
theorem both_answers_counted : HashesUnsigned (setup [4]).ela ∧
      (let node := EventRuns.run (fun node event =>
            node.perform (setup [4]) event.1 event.2)
          (Node.new [4] fourProducers) bothAnswers;
        node.dispatcher.acceptVotes.values.any (·.signer = [1]) = true ∧
          node.dispatcher.rejectedVotes.values.any (·.signer = [1]) = true) ∧
      (confirmsOf (setup [4]) (Node.new [4] fourProducers) bothAnswers).map Confirm.proposal =
        [proposalFor [1] 5 0] ∧
      (unconfirmsOf (setup [4]) (Node.new [4] fourProducers) bothAnswers).map Confirm.proposal =
        [proposalFor [1] 5 0] :=
  ⟨hashesUnsigned_plainLibrary, by decide +kernel, by decide +kernel, by decide +kernel⟩

end EscSideChain.Pbft
