import EscSideChain.PbftRecordedVotes
import EscSideChain.PbftVoteOnce

namespace EscSideChain.Pbft

open Dpos

/-!
# Agreement of the producers

A network of producers, each running the handlers of one node, with messages
delivered in any order and clocks that run as they like.  Faulty producers are
not modelled as nodes: they may send anything, except votes under the key of an
honest producer that this producer never cast.
-/

/-! ## The network -/

/-- What the producers of one network share, and the keys they sign with. -/
structure Deployment where
  ela : ElaLibrary
  rlpHash : List RlpItem → Hash
  producers : Producers
  signProposal : Bytes → DPOSProposal → Except String Bytes
  signVote : Bytes → DPOSProposalVote → Except String Bytes
  resetViewData : Bytes → Bytes
  sign : Bytes → Bytes → Bytes
  int64ToTime : Int64 → Int

structure Delivery where
  receiver : Bytes
  moment : Moment
  event : Event

abbrev Network := Bytes → Node

/--
Whatever arrives in whatever order, a producer holds only blocks that have arrived or that it has
sealed, under their seal hashes, and accepts only such blocks, with their own heights.
-/
theorem holds_received_blocks (setup : Setup) (publicKey : Bytes) (producers : Producers)
    (arrivals : List (Moment × Event)) :
    Recorded setup (fun block => ∃ arrival ∈ arrivals, arrival.2.block? = some block)
      (EventRuns.run (Node.step setup) (Node.new publicKey producers) arrivals) := by
  refine EventRuns.run_invariant_of_mem ?_ (Recorded.new publicKey producers)
  intro node arrival member recorded
  exact recorded.handle fun block brought => ⟨arrival, member, brought⟩

namespace Deployment

variable (deployment : Deployment)

def setup (key : Bytes) : Setup where
  ela := deployment.ela
  rlpHash := deployment.rlpHash
  signProposal := deployment.signProposal key
  signVote := deployment.signVote key
  resetViewData := deployment.resetViewData
  sign := deployment.sign key
  int64ToTime := deployment.int64ToTime

def sealHash (block : Header) : Hash :=
  deployment.rlpHash (encodeSigHeader block)

def population : Finset Bytes :=
  deployment.producers.producers.toFinset

def start : Network :=
  fun key => Node.new key deployment.producers

def deliver (network : Network) (delivery : Delivery) : Network :=
  Function.update network delivery.receiver
    ((network delivery.receiver).handle (deployment.setup delivery.receiver)
      delivery.moment delivery.event)

def after (deliveries : List Delivery) : Network :=
  EventRuns.run deployment.deliver deployment.start deliveries

def deliveredBlocks (deliveries : List Delivery) : List Header :=
  deliveries.filterMap fun delivery => delivery.event.block?

theorem recorded_after (deliveries : List Delivery) (key : Bytes) :
    Recorded (deployment.setup key) (fun block => block ∈ deliveredBlocks deliveries)
      (deployment.after deliveries key) := by
  have preserved : ∀ (network : Network) (delivery : Delivery),
      (∀ block, delivery.event.block? = some block → block ∈ deliveredBlocks deliveries) →
      (∀ key, Recorded (deployment.setup key) (fun block => block ∈ deliveredBlocks deliveries)
        (network key)) →
      ∀ key, Recorded (deployment.setup key) (fun block => block ∈ deliveredBlocks deliveries)
        (deployment.deliver network delivery key) := by
    intro network delivery isKnown recorded key
    unfold deliver
    by_cases receives : key = delivery.receiver
    · subst receives
      rw [Function.update_self]
      exact (recorded _).handle isKnown
    rw [Function.update_of_ne receives]
    exact recorded key
  exact EventRuns.run_invariant_of_mem (fun network delivery member =>
    preserved network delivery fun block brought =>
      List.mem_filterMap.mpr ⟨delivery, member, brought⟩)
    (fun key => Recorded.new key deployment.producers) key

/-! ## Confirms of honest votes -/

def Unforged (honest : Finset Bytes) (network : Network) (vote : DPOSProposalVote) : Prop :=
  vote.signer ∈ honest →
  checkVote deployment.ela vote = .ok () →
  ∃ ballot ∈ (network vote.signer).ballots, ballot.vote.proposalHash = vote.proposalHash ∧
      ballot.vote.accept = vote.accept

def votingProducers (confirm : Confirm) : Finset Bytes :=
  (confirm.votes.map DPOSProposalVote.signer).toFinset ∩ deployment.population

/--
A confirm of a block that an honest producer accepts, with as many different
producers behind it as the dispatcher asks for, and whose hashes collide with
no proposal that an honest producer voted on and with no delivered block.
-/
structure Certified (honest : Finset Bytes) (deliveries : List Delivery) (confirm : Confirm)
    (block : Header) : Prop where
  named : confirm.proposal.blockHash = deployment.sealHash block
  verified : ∃ key ∈ honest, ∃ moment,
    ((deployment.after deliveries key).verifier (deployment.setup key) moment).verifyConfirm confirm
        block.nonce = .ok ()
  majority : deployment.producers.isMajorityAgree (deployment.votingProducers confirm).card = true
  unforged : ∀ vote ∈ confirm.votes, deployment.Unforged honest (deployment.after deliveries) vote
  proposalHash : ∀ key ∈ honest, ∀ ballot ∈ (deployment.after deliveries key).ballots,
      deployment.ela.proposalHash ballot.about = deployment.ela.proposalHash confirm.proposal →
      ballot.about.blockHash = confirm.proposal.blockHash ∧
        ballot.about.viewOffset = confirm.proposal.viewOffset
  sealHash : ∀ other ∈ deliveredBlocks deliveries,
    deployment.sealHash other = deployment.sealHash block → blockHeight other = blockHeight block

variable {deployment}
variable {honest : Finset Bytes} {deliveries : List Delivery}

theorem Certified.exists_cast {confirm : Confirm} {block : Header}
    (certified : deployment.Certified honest deliveries confirm block) {key : Bytes}
    (isHonest : key ∈ honest) (votes : key ∈ deployment.votingProducers confirm) :
    ∃ cast ∈ (deployment.after deliveries key).casts,
      cast.about.blockHash = deployment.sealHash block ∧
        cast.about.viewOffset = confirm.proposal.viewOffset ∧ cast.height = blockHeight block := by
  obtain ⟨vote, inConfirm, rfl⟩ : ∃ vote ∈ confirm.votes, vote.signer = key := by
    simpa using (Finset.mem_inter.mp votes).1
  obtain ⟨_, _, moment, accepted⟩ := certified.verified
  have accepts : AcceptsProposal deployment.ela
      (deployment.ela.proposalHash confirm.proposal) vote :=
    Verifier.verifyConfirm_votes _ accepted vote inConfirm
  obtain ⟨ballot, cast, sameHash, sameDecision⟩ :=
    certified.unforged vote inConfirm isHonest accepts.signed
  have accepting : ballot.vote.accept = true := sameDecision.trans accepts.accepting
  have names := (deployment.recorded_after deliveries vote.signer).votes ballot cast
  have sameProposal : deployment.ela.proposalHash ballot.about =
      deployment.ela.proposalHash confirm.proposal := by
    rw [← accepts.sameProposal, ← sameHash]
    exact names.sameProposal.symm
  obtain ⟨sameBlock, sameOffset⟩ := certified.proposalHash _ isHonest ballot cast sameProposal
  obtain ⟨delivered, isDelivered, deliveredHash, height⟩ := names.height accepting
  have deliveredSeal : deployment.sealHash delivered = deployment.sealHash block :=
    deliveredHash.trans (sameBlock.trans certified.named)
  refine ⟨⟨ballot.about, ballot.height⟩, List.mem_filterMap.mpr ⟨ballot, cast, by
      simp [Ballot.accepted, accepting]⟩,
    sameBlock.trans certified.named, sameOffset, ?_⟩
  exact height.symm.trans (certified.sealHash delivered isDelivered deliveredSeal)

theorem Certified.exists_shared {first second : Confirm} {firstBlock secondBlock : Header}
    (firstCertified : deployment.Certified honest deliveries first firstBlock)
    (secondCertified : deployment.Certified honest deliveries second secondBlock)
    (seated : deployment.producers.totalProducers = deployment.population.card)
    (fewFaulty : 3 * (deployment.population \ honest).card < deployment.population.card) :
    ∃ key ∈ honest, key ∈ deployment.votingProducers first ∧
        key ∈ deployment.votingProducers second := by
  have firstMajority := firstCertified.majority
  have secondMajority := secondCertified.majority
  simp only [Producers.isMajorityAgree, Producers.getMajorityCount,
    seated, decide_eq_true_eq] at firstMajority secondMajority
  have inPopulation (confirm : Confirm) :
      deployment.votingProducers confirm ⊆ deployment.population :=
    Finset.inter_subset_right
  have balance := QuorumOverlap.card_add_card_le (inPopulation first) (inPopulation second)
  have large : (deployment.population \ honest).card <
      (deployment.votingProducers first ∩ deployment.votingProducers second).card := by
    omega
  obtain ⟨key, inFirst, inSecond, notFaulty⟩ := QuorumOverlap.exists_outside large
  have isProducer : key ∈ deployment.population := (Finset.mem_inter.mp inFirst).2
  refine ⟨key, ?_, inFirst, inSecond⟩
  by_contra isFaulty
  exact notFaulty (Finset.mem_sdiff.mpr ⟨isProducer, isFaulty⟩)

/--
Agreement within a view offset, for every interleaving of events: if less than
a third of the producers are faulty and no honest producer ever accepted two
different proposals of one height and view offset, then two confirms of the
same height and view offset that honest producers accept, each with more than
two thirds of the producers behind it, are for the same block.
-/
theorem agreement_within_viewOffset (deployment : Deployment) (deliveries : List Delivery)
    (honest : Finset Bytes)
    (seated : deployment.producers.totalProducers = deployment.population.card)
    (fewFaulty : 3 * (deployment.population \ honest).card < deployment.population.card)
    (votesOnce : ∀ key ∈ honest, (deployment.after deliveries key).VotesOnce)
    (first second : Confirm) (firstBlock secondBlock : Header)
    (firstCertified : deployment.Certified honest deliveries first firstBlock)
    (secondCertified : deployment.Certified honest deliveries second secondBlock)
    (sameHeight : blockHeight firstBlock = blockHeight secondBlock)
    (sameOffset : first.proposal.viewOffset = second.proposal.viewOffset) :
    deployment.sealHash firstBlock = deployment.sealHash secondBlock := by
  obtain ⟨key, isHonest, inFirst, inSecond⟩ :=
    firstCertified.exists_shared secondCertified seated fewFaulty
  obtain ⟨firstCast, firstMember, firstHash, firstOffset, firstHeight⟩ :=
    firstCertified.exists_cast isHonest inFirst
  obtain ⟨secondCast, secondMember, secondHash, secondOffset, secondHeight⟩ :=
    secondCertified.exists_cast isHonest inSecond
  have sameProposal : firstCast.about = secondCast.about :=
    votesOnce key isHonest firstCast firstMember secondCast secondMember
      (by rw [firstHeight, secondHeight, sameHeight])
      (by rw [firstOffset, secondOffset, sameOffset])
  rw [← firstHash, ← secondHash, sameProposal]

end Deployment

/-! ## Honest networks -/

/--
The event is one that an honest network brings about: a message that some
producer of the list has sent, or an event of the receiver itself.
-/
def Network.isGenuine (network : Network) (keys : List Bytes) (delivery : Delivery) : Bool :=
  let sent (message : Outgoing → Bool) : Bool := keys.any fun key => (network key).sent.any message
  match delivery.event with
  | .proposal _ proposal => sent fun message => message = .proposal proposal
  | .vote vote =>
    sent fun message =>
      (message.ballot.map Ballot.vote) = some vote
  | .block block => sent fun message => message = .block block
  | .confirm _ _ => false
  | .resetView _ => false
  | .responseConsensus _ _ => false
  | _ => true

namespace Sample

def deployment : Deployment where
  ela := plainLibrary []
  rlpHash := digest
  producers := fourProducers
  signProposal key proposal :=
    .ok (key ++ (plainLibrary []).proposalData proposal)
  signVote key vote := .ok (key ++ (plainLibrary []).voteData vote)
  resetViewData sponsor := sponsor
  sign key data := key ++ data
  int64ToTime time := time.toInt / 1000000 * 1000000

def keys : List Bytes :=
  [[1], [2], [3], [4]]

def firstView : List Delivery :=
  keys.flatMap fun key =>
    [⟨key, at_ 1, .recoverTimeout⟩, ⟨key, at_ 1, .prepare (waitingBlock 5)⟩]

def proposeTo (sponsor : Bytes) (time : UInt64) (viewOffset : UInt32) (seconds : Int)
    (voters : List Bytes) : List Delivery :=
  ⟨sponsor, at_ seconds, .sealBlock (waitingBlock time)⟩ :: voters.flatMap fun key =>
      [⟨key, at_ seconds, .block (waitingBlock time)⟩,
        ⟨key, at_ seconds, .proposal sponsor (proposalFor sponsor time viewOffset)⟩]

def collect (sponsor : Bytes) (time : UInt64) (viewOffset : UInt32) (seconds : Int)
    (voters : List Bytes) : List Delivery :=
  voters.map fun key =>
    ⟨sponsor, at_ seconds, .vote (plainLibrary.acceptVote key
      (proposalFor sponsor time viewOffset))⟩

/--
The second producer confirms its block; the others do not hear of it, change the view and
confirm another block.
-/
def splitRun : List Delivery :=
  firstView ++ proposeTo [2] 5 0 2 [[1], [3]] ++ collect [2] 5 0 3 [[2], [1], [3]] ++
    [⟨[1], at_ 15, .changeView⟩, ⟨[3], at_ 15, .changeView⟩, ⟨[4], at_ 15, .changeView⟩,
      ⟨[3], at_ 15, .prepare (waitingBlock 6)⟩] ++
    proposeTo [3] 6 1 15 [[1], [4]] ++
    collect [3] 6 1 16 [[3], [1], [4]]

/-- The confirm of a sponsor's block with the votes of the given producers. -/
def confirmOf (sponsor : Bytes) (time : UInt64) (viewOffset : UInt32)
    (voters : List Bytes) : Confirm where
  proposal := proposalFor sponsor time viewOffset
  votes := voters.map fun key =>
    plainLibrary.acceptVote key (proposalFor sponsor time viewOffset)

def agreeingRun : List Delivery :=
  firstView ++ proposeTo [2] 5 0 2 [[1], [3], [4]]

theorem certified_agreeingRun :
    ∀ extra ∈ [[], [7]], ∀ voters ∈ [[[1], [2], [3]], [[1], [2], [4]]],
        deployment.Certified deployment.population agreeingRun (confirmOf [2] 5 0 voters)
          { waitingBlock 5 with extra := extra } := by
  intro extra isExtra voters isVoters
  refine ⟨rfl, ⟨[1], by decide +kernel, at_ 3, ?_⟩, ?_, ?_, ?_, ?_⟩
  · revert voters extra
    decide +kernel
  · revert voters
    decide +kernel
  · revert voters
    unfold Deployment.Unforged
    decide +kernel
  · revert voters
    decide +kernel
  · revert extra
    decide +kernel

end Sample

open Sample in
/-- In the agreeing run two different confirms are for one block. -/
theorem agreement_within_viewOffset_agreeingRun :
    (confirmOf [2] 5 0 [[1], [2], [3]] ≠ confirmOf [2] 5 0 [[1], [2], [4]]) ∧
      deployment.sealHash { waitingBlock 5 with extra := [] } =
        deployment.sealHash { waitingBlock 5 with extra := [7] } := by
  refine ⟨by decide +kernel, ?_⟩
  refine Deployment.agreement_within_viewOffset deployment agreeingRun
    deployment.population (by decide +kernel) (by decide +kernel) ?_
    (confirmOf [2] 5 0 [[1], [2], [3]]) (confirmOf [2] 5 0 [[1], [2], [4]]) _ _
    (certified_agreeingRun [] (by simp) _ (by simp))
    (certified_agreeingRun [7] (by simp) _ (by simp)) rfl rfl
  unfold Node.VotesOnce
  decide +kernel

open Sample in
/--
Four honest producers that only exchange messages of their own confirm two
different blocks of height one at two view offsets, and every one of them
accepts both confirms.
-/
theorem honest_producers_confirm_two_blocks : EventRuns.Along (fun network delivery =>
          network.isGenuine keys delivery = true)
        deployment.deliver deployment.start splitRun ∧
      (deployment.after splitRun [2]).pool.heightConfirms.lookup 1 =
        some (confirmOf [2] 5 0 [[3], [1], [2]]) ∧
      (deployment.after splitRun [3]).pool.heightConfirms.lookup 1 =
        some (confirmOf [3] 6 1 [[4], [1], [3]]) ∧
      (∀ key ∈ keys,
        ((deployment.after splitRun key).verifier (deployment.setup key) (at_ 16)).verifyConfirm
              (confirmOf [2] 5 0 [[3], [1], [2]]) (waitingBlock 5).nonce = .ok () ∧
          ((deployment.after splitRun key).verifier (deployment.setup key) (at_ 16)).verifyConfirm
              (confirmOf [3] 6 1 [[4], [1], [3]]) (waitingBlock 6).nonce = .ok ()) ∧
      (confirmOf [2] 5 0 [[3], [1], [2]]).proposal.blockHash =
        deployment.sealHash (waitingBlock 5) ∧
      (confirmOf [3] 6 1 [[4], [1], [3]]).proposal.blockHash =
        deployment.sealHash (waitingBlock 6) ∧
      blockHeight (waitingBlock 5) = 1 ∧
      blockHeight (waitingBlock 6) = 1 ∧
      deployment.sealHash (waitingBlock 5) ≠ deployment.sealHash (waitingBlock 6) := by
  refine ⟨?_, ?_, ?_, ?_, ?_, ?_, ?_, ?_, ?_⟩
  · decide +kernel
  · decide +kernel
  · decide +kernel
  · decide +kernel
  · rfl
  · rfl
  · rfl
  · rfl
  · decide +kernel

end EscSideChain.Pbft
