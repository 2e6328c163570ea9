import EscSideChain.PbftNode

namespace EscSideChain.Pbft

open Dpos

/-!
# The events of one producer

The remaining handlers, and `handle`, which runs the handler of an event: the
messages of the network, the view-change ticks, recovery, blocks that the chain
finished, and the miner's calls that prepare and seal a block.
-/

namespace Node

variable (setup : Setup) (moment : Moment)

/-! ## Votes, confirms and blocks from the network -/

/-- `OnVoteAccepted`, also behind `OnVoteRejected`. -/
def onVoteAccepted (node : Node) (vote : DPOSProposalVote) : Node :=
  if node.isProducer = false then node
  else if node.view.isRunning = false then node
  else if node.dispatcher.finishedProposal = vote.proposalHash then node
  else if (node.pool.confirms.lookup vote.proposalHash).isSome then node
  else if node.isSealing = false ∧ node.view.isDposOnDuty then node
  else
    match node.dispatcher.processingProposal with
    | none =>
      { node with
        dispatcher :=
          node.dispatcher.addPendingVote setup.ela vote }
    | some proposal =>
      if setup.ela.proposalHash proposal ≠ vote.proposalHash then node
      else if (node.pool.confirms.lookup proposal.blockHash).isSome then node
      else (node.processVote setup moment (moment.order 0) vote).1

def assignLoopVariable (aliased : List Hash) (vote : DPOSProposalVote)
    (votes : GoMap Hash DPOSProposalVote) : GoMap Hash DPOSProposalVote :=
  aliased.foldl (fun current hash =>
      if (current.lookup hash).isSome then current.insert hash vote
      else current)
    votes

/--
The loop of `OnConfirmReceived`, `for _, vote := range c.Votes`, which hands
the address of its variable to `ProcessVote`.  Before Go 1.22 one variable
serves all turns, so the entries that the loop stores are aliases of it.
-/
def processConfirmVotes : List DPOSProposalVote → List Hash → Node → Node
  | [], _, node => node
  | vote :: rest, aliased, node =>
    let assigned := { node with
      dispatcher := { node.dispatcher with
        acceptVotes := assignLoopVariable aliased vote node.dispatcher.acceptVotes
        rejectedVotes := assignLoopVariable aliased vote node.dispatcher.rejectedVotes } }
    let fresh := assigned.dispatcher.alreadyExistVote setup.ela vote = false
    let processed := (assigned.processVote setup moment (moment.order 0) vote).1
    processConfirmVotes rest (if fresh then setup.ela.voteHash vote :: aliased else aliased)
      processed

def onConfirmReceived (node : Node) (confirm : Confirm) (height : UInt64) : Node :=
  if node.view.isDposOnDuty then
    { node with isSealOver := true }
  else if height > moment.currentHeight + 1 then node
  else if height ≤ node.dispatcher.finishedHeight then node
  else if (node.pool.heightConfirms.lookup height).isSome then node
  else if (node.pool.blocks.lookup confirm.proposal.blockHash).isNone then node
  else if (node.pool.confirms.lookup confirm.proposal.blockHash).isSome then node
  else
    processConfirmVotes setup moment confirm.votes [] { node with
        dispatcher := { node.dispatcher with acceptVotes := ∅ } }

def extraVanity : Nat := 32

/--
`OnBlock`.  A block that carries a confirm goes to the chain, which reports it
back through `finalize`.
-/
def onBlock (node : Node) (block : Header) : Node :=
  if block.extra.length > extraVanity then node
  else if blockHeight block ≤ moment.currentHeight ∨
      blockHeight block ≤ node.dispatcher.finishedHeight then
    { node with pool := node.pool.addBadBlock setup.sealHash block }
  else
    let appended := node.pool.appendDposBlock setup.sealHash (node.verifyBlock setup moment) block
    let pool :=
      if appended.2 = .error .unknownAncestor then appended.1.appendFutureBlock setup.sealHash block
      else appended.1
    let stored := { node with pool := pool }
    match stored.pool.confirms.lookup (setup.sealHash block) with
    | none => stored
    | some confirm => stored.onConfirmReceived setup moment confirm (blockHeight block)

def accessFutureBlock (node : Node) (parentHeight : UInt64) : Node :=
  { node with
    pool := node.pool.handleParentBlock setup.sealHash
      (node.verifyBlock setup moment) (moment.order 0) parentHeight }

/-! ## Finished blocks -/

def finishedProposal (node : Node) (height : UInt64) (sealHash : Hash)
    (headerTime : UInt64) : Node :=
  if height ≤ node.dispatcher.finishedHeight then node
  else
    let finished := { node with
      view := node.view.setReady
      dispatcher := { node.dispatcher with
        finishedHeight := height
        finishedBlockSealHash := sealHash
        finishedProposal :=
          match node.dispatcher.processingProposal with
          | none => node.dispatcher.finishedProposal
          | some proposal => setup.ela.proposalHash proposal } }
    let cleaned := finished.cleanProposals false
    let changed :=
      { cleaned with
        view := cleaned.view.updateDutyIndex height }.changeView
        moment (node.innerProposal setup moment) (moment.order 0)
        (moment.clock 0 0) true headerTime
    { changed with
      dispatcher := { changed.dispatcher with
        resetViewRequests := [] } }

/-- `Finalize`, when the chain processes a block. -/
def finalize (node : Node) (header : Header) : Node :=
  let finished := node.finishedProposal setup moment
    (blockHeight header) (setup.sealHash header) header.time
  { finished with
    pool := finished.pool.cleanFinalConfirmedBlock setup.sealHash (blockHeight header) }

/-! ## Recovery -/

def onRecover (node : Node) : Node :=
  if node.isProducer then node.recoverAbnormalState moment
  else node

def onResponseConsensus (node : Node) (id : Bytes) (status : ConsensusStatus) : Node :=
  if node.isProducer = false then node
  else if node.recoverStarted = false then node
  else if node.statusMap.any fun entry =>
      entry.1 = status.viewOffset && entry.2.1 = id then
    node
  else
    { node with
      statusMap := (status.viewOffset, id, status) :: node.statusMap }

/-- `medianOf`, in the arithmetic of `int64`. -/
def medianOf (nums : List Int64) : Int64 :=
  let half := nums.length / 2
  if nums.length = 0 then 0
  else if nums.length % 2 = 0 then (nums.getD half 0 + nums.getD (half - 1) 0) / 2
  else nums.getD half 0

def recoverFromConsensusStatus (node : Node) (status : ConsensusStatus) : Node :=
  let view :=
    ({ node.view with
      consensusStatus := status.consensusStatus
      viewOffset := status.viewOffset }.resetView
      (unixSeconds status.viewStartTime)).refreshDuty.setWorkingHeight
      status.workingHeight
  { node with
    view :=
      if node.dispatcher.finishedHeight > 0 then view.updateDutyIndex node.dispatcher.finishedHeight
      else view
    dispatcher := { node.dispatcher with
      acceptVotes := ∅
      rejectedVotes := ∅
      processingProposal := none
      pendingVotes := ∅ } }

/-- The status that `RecoverAbnormal` recovers from. -/
def recoveredStatus (node : Node) (status : ConsensusStatus)
    (medianTime : Int64) : ConsensusStatus :=
  let started := setup.int64ToTime medianTime
  if medianTime = 0 then
    { status with viewStartTime := started }
  else
    let passed := node.view.calculateOffsetTime started (moment.clock 0 0)
    { status with
      viewOffset := status.viewOffset + passed.1
      viewStartTime := moment.clock 0 1 - passed.2 }

def highestStatuses (node : Node) : List ConsensusStatus :=
  let highest := (node.statusMap.map Prod.fst).foldl max 0
  (((moment.order 0).arrange node.statusMap).filter fun entry =>
    entry.1 = highest).map fun entry => entry.2.2

/-- `UnixNano`, which wraps as `int64`. -/
def unixNano (time : Int) : Int64 :=
  Int64.ofInt time

/-- The status that `DoRecover` settles on, if any. -/
def settledStatus (node : Node) : Option ConsensusStatus :=
  match node.highestStatuses moment with
  | [] => none
  | status :: rest =>
    if status.consensusStatus = consensusReady then none
    else
      let startTimes := (status :: rest).map fun known =>
        unixNano known.viewStartTime
      some (node.recoveredStatus setup moment status
        (medianOf (startTimes.insertionSort (· ≤ ·))))

def doRecover (node : Node) : Node :=
  let recovered :=
    match node.settledStatus setup moment with
    | none => node
    | some status => node.recoverFromConsensusStatus status
  { recovered with notHandledProposal := [] }

def onRecoverTimeout (node : Node) : Node :=
  let recovered :=
    if node.recoverStarted then
      { (if node.statusMap.length ≠ 0 then
          node.doRecover setup moment
        else
          node) with
        recoverStarted := false
        statusMap := [] }
    else node
  { recovered with isRecoved := true }

/-! ## The miner -/

def start (node : Node) (headerTime : UInt64) : Node :=
  let view :=
    if node.enableViewLoop then node.view.resetView headerTime
    else (node.view.resetView headerTime).updateDutyIndex moment.currentHeight
  { node with enableViewLoop := true, view := view.setRunning }

/-- `Prepare`, as far as it changes the node. -/
def prepare (node : Node) (header : Header) : Node :=
  let opened := { node with isSealOver := false }
  let nowTime := unixSeconds (moment.clock 0 0)
  match moment.chain.getHeader header.parentHash (blockHeight header - 1) with
  | none => opened
  | some parent =>
    if opened.isRecoved = false then opened
    else if blockHeight header ≤ opened.dispatcher.finishedHeight then opened
    else if opened.view.isRunning ∧ opened.enableViewLoop then opened
    else
      let started := opened.start moment parent.time
      if parent.time + 5 < nowTime then
        { started with view := started.view.resetView nowTime }
      else started

/-- `StartProposal` of the engine and of the package `dpos`. -/
def startProposal (node : Node) (block : Header) : Node × Option DPOSProposal :=
  let unsigned : DPOSProposal :=
    ⟨node.view.publicKey, setup.sealHash block, node.view.viewOffset, []⟩
  match setup.signProposal unsigned with
  | .error _ => (node, none)
  | .ok sign =>
    let proposal := { unsigned with sign := sign }
    match node.processProposal setup moment (moment.order 0) node.view.publicKey proposal with
    | (processed, ⟨some _, _, _⟩) => (processed, none)
    | (processed, ⟨none, _, _⟩) => (processed.broadMessage (.proposal proposal), some proposal)

/-- `Seal` up to the point where it waits for the votes. -/
def sealBlock (node : Node) (block : Header) : Node :=
  if node.isRecoved = false then node
  else if (moment.chain.getHeader block.parentHash (blockHeight block - 1)).isNone then node
  else if blockHeight block ≤ node.dispatcher.finishedHeight then node
  else if node.isProducer = false then node
  else if node.view.isDposOnDuty = false then node
  else
    let broadcast := node.broadMessage (.block block)
    let pooled := { broadcast with
      pool := (broadcast.pool.appendDposBlock setup.sealHash
        (broadcast.verifyBlock setup moment) block).1 }
    match pooled.startProposal setup moment block with
    | (proposed, none) => proposed
    | (proposed, some proposal) =>
      let waiting := { proposed with
        isSealOver := false
        sealing := some block }
      match waiting.acceptProposal setup proposal with
      | none => waiting
      | some vote => waiting.broadMessage (.vote vote proposal (blockHeight block))

/-- `Seal` when the confirm arrives. -/
def sealConfirmed (node : Node) : Node :=
  match node.sealing, node.confirmCh with
  | some block, some _ =>
    { node with sealing := none, confirmCh := none
    }.finishedProposal setup moment (blockHeight block) (setup.sealHash block) block.time |>
      fun finished => { finished with isSealOver := true }
  | _, _ => node

/-- `Seal` when the proposal is rejected, late or stopped. -/
def sealStopped (node : Node) : Node :=
  match node.sealing with
  | none => node
  | some _ =>
    { node with
      sealing := none
      unConfirmCh := none
      isSealOver := true }

end Node

inductive Event where
  | proposal (id : Bytes) (proposal : DPOSProposal)
  | vote (vote : DPOSProposalVote)
  | confirm (confirm : Confirm) (height : UInt64)
  | block (block : Header)
  | parentBlock (height : UInt64)
  | changeView
  | resetView (message : ResetView)
  | recover
  | responseConsensus (id : Bytes) (status : ConsensusStatus)
  | recoverTimeout
  | finalize (header : Header)
  | prepare (header : Header)
  | sealBlock (block : Header)
  | sealConfirmed
  | sealStopped

def Node.handle (setup : Setup) (moment : Moment) (node : Node) : Event → Node
  | .proposal id proposal =>
    Node.onProposalReceived setup moment
      (node.dispatcher.precociousProposals.len + 1) 0 id node proposal
  | .vote vote => node.onVoteAccepted setup moment vote
  | .confirm confirm height => node.onConfirmReceived setup moment confirm height
  | .block block => node.onBlock setup moment block
  | .parentBlock height => node.accessFutureBlock setup moment height
  | .changeView => node.onChangeView setup moment (node.innerProposal setup moment) 0
  | .resetView message =>
    node.onResponseResetViewReceived setup moment (node.innerProposal setup moment) 0 message
  | .recover => node.onRecover moment
  | .responseConsensus id status => node.onResponseConsensus id status
  | .recoverTimeout => node.onRecoverTimeout setup moment
  | .finalize header => node.finalize setup moment header
  | .prepare header => node.prepare moment header
  | .sealBlock block => node.sealBlock setup moment block
  | .sealConfirmed => node.sealConfirmed setup moment
  | .sealStopped => node.sealStopped

end EscSideChain.Pbft
