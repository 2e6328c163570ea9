import EscSideChain.DposDispatcher
import Mathlib.Data.List.Sort

namespace EscSideChain.Pbft

open Dpos

/-!
# One producer

The handlers of `consensus/pbft/network.go` and the callbacks of
`consensus/pbft/pbft.go` on the state of one producer.  Handlers run one after
another.  What a handler reads of its surroundings comes with the event as a
`Moment`: the clock, the chain, the peers and the order in which loops go
through maps.
-/

/-- What `HelpToRecoverAbnormal` answers and `DoRecover` reads. -/
structure ConsensusStatus where
  consensusStatus : UInt32
  viewOffset : UInt32
  viewStartTime : Int
  workingHeight : UInt64

structure ResetView where
  sponsor : Bytes
  sign : Bytes
  deriving DecidableEq

inductive Outgoing where
  | proposal (proposal : DPOSProposal)
  | vote (vote : DPOSProposalVote) (about : DPOSProposal) (height : UInt64)
  | block (block : Header)
  | resetView (message : ResetView)
  | requestConsensus (height : UInt64)
  deriving DecidableEq

/-- The node's keys and the functions that do not change while it runs. -/
structure Setup where
  ela : ElaLibrary
  rlpHash : List RlpItem → Hash
  signProposal : DPOSProposal → Except String Bytes
  signVote : DPOSProposalVote → Except String Bytes
  resetViewData : Bytes → Bytes
  sign : Bytes → Bytes
  -- `dtime.Int64ToTime`, as nanoseconds since the epoch
  int64ToTime : Int64 → Int

/-- `DBlockSealHash`. -/
def Setup.sealHash (setup : Setup) (block : Header) : Hash :=
  setup.rlpHash (encodeSigHeader block)

/--
What one event finds around the node.  The clock and the iteration orders are
indexed by the nesting level of the handler that uses them; a level reads the
clock up to three times.
-/
structure Moment where
  clock : Nat → Nat → Int
  order : Nat → IterationOrder
  chain : ChainReader
  currentHeight : UInt64
  spvService : Option Spv.SpvService
  wallClock : UInt64
  validateBody : Header → Except HeaderError Unit
  activePeers : Nat
  isCurrent : Bool

structure Node where
  view : ConsensusView
  dispatcher : Dispatcher
  pool : BlockPool
  notHandledProposal : List Bytes
  statusMap : List (UInt32 × Bytes × ConsensusStatus)
  enableViewLoop : Bool
  recoverStarted : Bool
  isRecoved : Bool
  isSealOver : Bool
  sealing : Option Header
  confirmCh : Option Confirm
  unConfirmCh : Option Confirm
  sent : List Outgoing

def maxViewOffset : UInt32 := 100

def zeroPID : Bytes :=
  List.replicate 33 0

namespace Node

/-- The node that `New` builds. -/
def new (publicKey : Bytes) (producers : Producers) : Node where
  view := ConsensusView.new 10000000000 publicKey producers
  dispatcher := Dispatcher.new
  pool := BlockPool.empty
  notHandledProposal := []
  statusMap := []
  enableViewLoop := false
  recoverStarted := false
  isRecoved := false
  isSealOver := false
  sealing := none
  confirmCh := none
  unConfirmCh := none
  sent := []

def broadMessage (node : Node) (message : Outgoing) : Node :=
  { node with sent := node.sent ++ [message] }

def isProducer (node : Node) : Bool :=
  node.view.producers.isProducers node.view.publicKey

/-- Whether `isSealing` is set. -/
def isSealing (node : Node) : Bool :=
  node.sealing.isSome

def cleanProposals (node : Node) (changeView : Bool) : Node :=
  { node with
    dispatcher := node.dispatcher.cleanProposals changeView node.view.viewOffset }

def proposalHeight (node : Node) (proposal : DPOSProposal) : UInt64 :=
  match node.pool.blocks.lookup proposal.blockHash,
      node.pool.badBlocks.lookup proposal.blockHash with
  | some block, _ => blockHeight block
  | none, some block => blockHeight block
  | none, none => 0

variable (setup : Setup) (moment : Moment)

def verifier (node : Node) : Verifier where
  ela := setup.ela
  rlpHash := setup.rlpHash
  spvService := moment.spvService
  producers := node.view.producers
  finishedHeight := node.dispatcher.finishedHeight
  period := 5
  now := moment.wallClock

def verifyBlock (node : Node) (block : Header) : Except HeaderError Unit :=
  match (node.verifier setup moment).verifyHeader moment.chain block [] false with
  | .error reason => .error reason
  | .ok () => moment.validateBody block

/-! ## Votes -/

def startVote (node : Node) (proposal : DPOSProposal) (accept : Bool) : Option DPOSProposalVote :=
  let unsigned : DPOSProposalVote :=
    ⟨setup.ela.proposalHash proposal, node.view.publicKey, accept, []⟩
  match setup.signVote unsigned with
  | .error _ => none
  | .ok sign => some { unsigned with sign := sign }

def onConfirm (node : Node) (confirm : Confirm) : Node × Except String Unit :=
  match node.pool.appendConfirm (node.verifier setup moment).verifyConfirm confirm with
  | (_, .error reason) => (node, .error reason)
  | (pool, .ok ()) =>
    let stored := { node with pool := pool }
    if node.isSealOver ∧ node.view.isDposOnDuty then
      (stored, .error "seal block is over, can't confirm")
    else if node.view.isDposOnDuty then
      match node.dispatcher.processingProposal with
      | none => (stored, .error "is not confirm current proposal")
      | some current =>
        if current.blockHash ≠ confirm.proposal.blockHash then
          (stored, .error "is not confirm current proposal")
        else if node.isSealing then ({ stored with confirmCh := some confirm }, .ok ())
        else (stored, .ok ())
    else (stored, .ok ())

def onUnConfirm (node : Node) (unconfirm : Confirm) : Node :=
  if node.isSealOver then node
  else if node.view.isDposOnDuty ∧ node.isSealing then
    { node with unConfirmCh := some unconfirm }
  else node

def countAccept (order : IterationOrder) (node : Node) (vote : DPOSProposalVote) :
    Node × Bool × Except String Unit :=
  let counted := { node with
    dispatcher := { node.dispatcher with
      acceptVotes := node.dispatcher.acceptVotes.insert (setup.ela.voteHash vote) vote } }
  if counted.view.producers.isMajorityAgree counted.dispatcher.acceptVotes.len then
    match counted.dispatcher.createConfirm order with
    | none => (counted, true, .ok ())
    | some confirm =>
      let outcome := counted.onConfirm setup moment confirm
      (outcome.1, true, outcome.2)
  else (counted, false, .ok ())

def countReject (order : IterationOrder) (node : Node) (vote : DPOSProposalVote) :
    Node × Bool × Except String Unit :=
  let counted := { node with
    dispatcher := { node.dispatcher with
      rejectedVotes := node.dispatcher.rejectedVotes.insert (setup.ela.voteHash vote) vote } }
  if counted.view.producers.isMajorityRejected counted.dispatcher.rejectedVotes.len then
    match counted.dispatcher.processingProposal with
    | none => (counted, false, .ok ())
    | some proposal =>
      (counted.onUnConfirm ⟨proposal,
        (GoMap.iterate order counted.dispatcher.rejectedVotes).map Prod.snd⟩, false, .ok ())
  else (counted, false, .ok ())

/-- `processVote`, with whether the proposal is finished. -/
def processVote (order : IterationOrder) (node : Node) (vote : DPOSProposalVote) :
    Node × Bool × Except String Unit :=
  match node.dispatcher.processingProposal with
  | none => (node, false, .error "not proposal to process vote")
  | some proposal =>
    if vote.proposalHash ≠ setup.ela.proposalHash proposal then
      (node, false, .error "vote proposal is not processing proposal")
    else if node.dispatcher.alreadyExistVote setup.ela vote then
      (node, false, .error "alreadyExistVote")
    else if node.view.producers.isProducers vote.signer = false then
      (node, false, .error (asciiText (bytes2Hex vote.signer) ++ " vote signer is not producer"))
    else
      match checkVote setup.ela vote with
      | .error reason => (node, false, .error reason)
      | .ok () =>
        if vote.accept then node.countAccept setup moment order vote
        else node.countReject setup order vote

/-- The loop of `setProcessingProposal` over the pending votes. -/
def processPendingVotes (order : IterationOrder) (proposalHash : Hash) :
    List DPOSProposalVote → Node → Node × Bool
  | [], node =>
    ({ node with
      dispatcher := { node.dispatcher with pendingVotes := ∅ } },
      false)
  | vote :: rest, node =>
    if vote.proposalHash = proposalHash then
      match node.processVote setup moment order vote with
      | (processed, true, _) => (processed, true)
      | (processed, false, _) => processPendingVotes order proposalHash rest processed
    else processPendingVotes order proposalHash rest node

def setProcessingProposal (order : IterationOrder) (node : Node)
    (proposal : DPOSProposal) : Node × Bool :=
  let processing := { node with
    dispatcher := { node.dispatcher with
      processingProposal := some proposal } }
  processPendingVotes setup moment order (setup.ela.proposalHash proposal)
    ((GoMap.iterate order node.dispatcher.pendingVotes).map Prod.snd) processing

/-! ## Proposals -/

/-- The error, reject and handled values that `ProcessProposal` returns. -/
structure ProposalOutcome where
  error : Option String
  isSendReject : Bool
  handled : Bool

def processProposal (order : IterationOrder) (node : Node) (id : Bytes)
    (proposal : DPOSProposal) : Node × ProposalOutcome :=
  let hash := setup.ela.proposalHash proposal
  if node.view.viewOffset ≠ proposal.viewOffset then
    let stored :=
      if proposal.viewOffset > node.view.viewOffset then
        { node with
          dispatcher := { node.dispatcher with
            precociousProposals :=
              node.dispatcher.precociousProposals.insert hash proposal } }
      else node
    (stored, ⟨some "have different view offset", false, false⟩)
  else if node.view.producerIsOnDuty proposal.sponsor = false then
    (node, ⟨some "current signer is not onDuty", false, id ≠ proposal.sponsor⟩)
  else if node.dispatcher.processingProposal.map setup.ela.proposalHash = some hash then
    (node, ⟨some ("already processing this proposal:" ++
      asciiText (bytes2Hex hash.toList)), false, true⟩)
  else if node.view.producers.isProducers proposal.sponsor = false then
    (node, ⟨some (asciiText (bytes2Hex proposal.sponsor) ++
      " proposal signer is not producer"), true, true⟩)
  else
    match checkProposal setup.ela proposal with
    | .error reason => (node, ⟨some reason, true, true⟩)
    | .ok () => ((node.setProcessingProposal setup moment order proposal).1, ⟨none, false, true⟩)

def acceptProposal (node : Node) (proposal : DPOSProposal) : Option DPOSProposalVote :=
  node.startVote setup proposal true

def rejectProposal (order : IterationOrder) (node : Node) (proposal : DPOSProposal) :
    Node × Option DPOSProposalVote :=
  match node.setProcessingProposal setup moment order proposal with
  | (processing, true) => (processing, none)
  | (processing, false) => (processing, processing.startVote setup proposal false)

/-- `recoverAbnormalState`, without the goroutine that waits for answers. -/
def recoverAbnormalState (node : Node) : Node :=
  if node.recoverStarted then node
  else if node.view.producers.producers.length = 0 then node
  else if moment.activePeers < node.view.producers.getMajorityCount then node
  else
    { node with recoverStarted := true }.broadMessage (.requestConsensus moment.currentHeight)

def noteNotHandled (node : Node) (id : Bytes) : Node :=
  let noted :=
    if node.notHandledProposal.contains id then node
    else
      { node with
        notHandledProposal := id :: node.notHandledProposal }
  if noted.view.viewOffset ≠ 0 ∧ noted.view.producers.hasArbitersMinorityCount
        noted.notHandledProposal.length then
    noted.recoverAbnormalState moment
  else noted

/-- The part of `OnProposalReceived` that chooses a vote. -/
def chooseVote (order : IterationOrder) (node : Node) (id : Bytes) (proposal : DPOSProposal) :
    Node × Option DPOSProposalVote × Bool :=
  let isBadProposal := node.pool.isBadBlockProposal proposal
  match node.processProposal setup moment order id proposal with
  | (processed, ⟨some _, isSendReject, handled⟩) =>
    if isSendReject then
      let rejected := processed.rejectProposal setup moment order proposal
      (rejected.1, rejected.2, handled)
    else if handled then (processed, none, handled)
    else (processed.noteNotHandled moment id, none, handled)
  | (processed, ⟨none, _, handled⟩) =>
    if isBadProposal then
      let rejected := processed.rejectProposal setup moment order proposal
      (rejected.1, rejected.2, handled)
    else (processed, processed.acceptProposal setup proposal, handled)

/-- The broadcast at the end of `OnProposalReceived`. -/
def sendVote (node : Node) (proposal : DPOSProposal) (vote : Option DPOSProposalVote)
    (handled : Bool) : Node :=
  let noted :=
    if handled then
      { node with notHandledProposal := [] }
    else node
  match vote with
  | none => noted
  | some vote =>
    if noted.dispatcher.proposalProcessFinished then noted
    else
      let sent := noted.broadMessage (.vote vote proposal (noted.proposalHeight proposal))
      { sent with
        dispatcher := { sent.dispatcher with
          proposalProcessFinished := true } }

/-! ## View changes -/

/-- `OnViewChanged`; `nested` is the inner `OnProposalReceived`. -/
def onViewChanged (nested : Node → DPOSProposal → Node) (order : IterationOrder)
    (isOnDuty force : Bool) (node : Node) : Node :=
  let proposed :=
    match node.dispatcher.updatePrecociousProposals node.view order with
    | none => node
    | some (proposal, dispatcher) => nested { node with dispatcher := dispatcher } proposal
  if force then proposed
  else
    let cleaned := proposed.cleanProposals true
    if moment.isCurrent ∧ isOnDuty then
      { cleaned with view := cleaned.view.setReady }
    else cleaned

/-- `ChangeView` with its listener. -/
def changeView (nested : Node → DPOSProposal → Node) (order : IterationOrder) (now : Int)
    (force : Bool) (parentTime : UInt64) (node : Node) : Node :=
  match node.view.changeView now force parentTime with
  | (view, false) => { node with view := view }
  | (view, true) =>
    onViewChanged moment nested order view.isDposOnDuty force { node with view := view }

/--
`TryChangeView`.  The parent time that it hands on is read by a forced change
only.
-/
def tryChangeView (nested : Node → DPOSProposal → Node) (order : IterationOrder) (now : Int)
    (node : Node) : Node :=
  if node.view.isRunning ∧ now > node.view.viewChangeTime then
    node.changeView moment nested order now false
      (unixSeconds (node.view.viewChangeTime - node.view.signTolerance))
  else node

def resetConsensus (nested : Node → DPOSProposal → Node) (level : Nat) (height : UInt64)
    (node : Node) : Node :=
  let reset :=
    if node.view.isRunning then
      let cleaned := { node with view := node.view.setReady }.cleanProposals false
      { cleaned with
        view := cleaned.view.resetViewOffset.updateDutyIndex
          height }.changeView moment nested (moment.order level)
        (moment.clock level 1) true
        (unixSeconds (moment.clock level 2))
    else node
  { reset with
    dispatcher := { reset.dispatcher with resetViewRequests := [] } }

/-- `OnResponseResetViewReceived` of the engine and of the dispatcher. -/
def onResponseResetViewReceived (nested : Node → DPOSProposal → Node) (level : Nat)
    (message : ResetView) (node : Node) : Node :=
  if node.isProducer = false then node
  else if node.view.producers.isProducers message.sponsor = false then node
  else
    match checkSignature setup.ela message.sponsor
        (setup.resetViewData message.sponsor) message.sign with
    | .error _ => node
    | .ok () =>
      let recorded := { node with
        dispatcher :=
          node.dispatcher.recordViewRequest message.sponsor }
      if recorded.dispatcher.resetViewRequests.length ≥
          recorded.view.producers.getMajorityCount then
        recorded.resetConsensus moment nested level moment.currentHeight
      else recorded

def onChangeView (nested : Node → DPOSProposal → Node) (level : Nat) (node : Node) : Node :=
  let changed := node.tryChangeView moment nested (moment.order level) (moment.clock level 0)
  if changed.view.viewOffset ≥ maxViewOffset then
    let sponsor := changed.view.publicKey
    let message : ResetView := ⟨sponsor, setup.sign (setup.resetViewData sponsor)⟩
    let broadcast := changed.broadMessage (.resetView message)
    if broadcast.dispatcher.resetViewRequests.contains sponsor then broadcast
    else broadcast.onResponseResetViewReceived setup moment nested level message
  else changed

/-- `OnProposalReceived`, given the inner call. -/
def onProposalReceivedWith (nested : Node → DPOSProposal → Node) (level : Nat) (id : Bytes)
    (node : Node) (proposal : DPOSProposal) : Node :=
  if node.dispatcher.processingProposal.isSome then node
  else if node.view.isRunning = false then node
  else
    let changed := node.onChangeView setup moment nested level
    if proposal.blockHash = changed.dispatcher.finishedBlockSealHash then changed
    else if (changed.pool.blocks.lookup proposal.blockHash).isNone ∧
        changed.pool.isBadBlockProposal proposal = false then
      changed
    else
      match changed.chooseVote setup moment (moment.order level) id proposal with
      | (chosen, vote, handled) => chosen.sendVote proposal vote handled

/-- `OnProposalReceived` with a bound on the nesting. -/
def onProposalReceived : Nat → Nat → Bytes → Node → DPOSProposal → Node
  | 0, _, _, node, _ => node
  | fuel + 1, level, id, node, proposal =>
    onProposalReceivedWith setup moment (onProposalReceived fuel (level + 1) zeroPID)
      level id node proposal

def innerProposal (node : Node) : Node → DPOSProposal → Node :=
  onProposalReceived setup moment node.dispatcher.precociousProposals.len 1 zeroPID

end Node

end EscSideChain.Pbft
