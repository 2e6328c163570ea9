import EscSideChain.DposTurns
import EscSideChain.PbftVoteOnce

namespace EscSideChain.Pbft

open Dpos

/-!
# The duty schedule

After a block is finished, the producer on duty for the next height is found at
the duty index.  Five paths of the code set it: `FinishedProposal`, `Start`,
recovery from the status of a peer, `ResetConsensus` once enough producers asked
for a reset, and the change of producers in `OnInsertBlock`.
-/

structure TurnNode where
  node : Node
  needChangeNextTurnProducers : Bool

namespace TurnNode

variable (setup : Setup) (moment : Moment)

/-- The branch of `OnInsertBlock` that changes the turn. -/
def changeTurn (node : Node) (block : Header) : Node × Bool :=
  let height := blockHeight block
  match node.view.isSameProducers node.view.producers.producers with
  | (view, true) => ({ node with view := view }, false)
  | (view, false) =>
    let changed := { node with
      view := view.changeCurrentProducers (height + 1) (Spv.getSpvHeight moment.spvService) }
    (changed.resetConsensus moment (changed.innerProposal setup moment) 0 (height + 1), true)

/-- The branch of `OnInsertBlock` that catches up with the main chain. -/
def catchUp (node : Node) (block : Header) : Node × Bool :=
  let spvHeight := max (Spv.getSpvHeight moment.spvService) block.nonce
  match Spv.getProducers moment.spvService spvHeight with
  | .error _ => (node, false)
  | .ok (producers, totalCount) =>
    let isBackword := node.view.producers.spvHeight < block.nonce
    match node.view.isCurrentProducers producers with
    | (view, isCurrent) =>
      if isBackword ∧ isCurrent = false then
        ({ node with
            view := view.updateProducers producers totalCount spvHeight },
          true)
      else ({ node with view := view }, false)

/-- `OnInsertBlock`, with whether the producers were changed. -/
def onInsertBlock (state : TurnNode) (block : Header) : TurnNode × Bool :=
  if state.needChangeNextTurnProducers then
    let changed := changeTurn setup moment state.node block
    (⟨changed.1, false⟩, changed.2)
  else if block.nonce > 0 then
    let changed := catchUp moment state.node block
    (⟨changed.1, false⟩, changed.2)
  else (state, false)

end TurnNode

/-! ## The index -/

/--
The index fits the machine integers: the distance of the heights wraps only if
nothing is lost by that, and the index is a `uint32`.
-/
def Representable (height workingHeight count : Nat) : Prop :=
  if height + 1 - workingHeight = 2 ^ 64 then count ∣ 2 ^ 64
  else (height + 1 - workingHeight) % count < 2 ^ 32

instance (height workingHeight count : Nat) :
    Decidable (Representable height workingHeight count) :=
  inferInstanceAs (Decidable (if height + 1 - workingHeight = 2 ^ 64 then
      count ∣ 2 ^ 64
    else (height + 1 - workingHeight) % count < 2 ^ 32))

def scheduledIndex (height workingHeight count : Nat) : Nat :=
  (height + 1 - workingHeight) % count

theorem dutyIndex_updateDutyIndex_iff {table : Producers} {height : UInt64}
    (seated : 0 < table.producers.length) (addressable : table.producers.length < 2 ^ 63)
    (working : table.workingHeight.toNat ≤ height.toNat + 1) :
    (table.updateDutyIndex height).dutyIndex.toNat =
        scheduledIndex height.toNat table.workingHeight.toNat table.producers.length ↔
      Representable height.toNat table.workingHeight.toNat
        table.producers.length := by
  have heightBound : height.toNat < 2 ^ 64 := height.toNat_lt
  have workingBound : table.workingHeight.toNat < 2 ^ 64 := table.workingHeight.toNat_lt
  have count : (UInt64.ofNat table.producers.length).toNat = table.producers.length := by
    rw [UInt64.toNat_ofNat']
    exact Nat.mod_eq_of_lt (by omega)
  have distance : (height + 1 - table.workingHeight).toNat =
      (height.toNat + 1 - table.workingHeight.toNat) % 2 ^ 64 := by
    rw [UInt64.toNat_sub, UInt64.toNat_add]
    simp only [UInt64.toNat_one]
    omega
  have index : (table.updateDutyIndex height).dutyIndex.toNat =
      (height.toNat + 1 - table.workingHeight.toNat) % 2 ^ 64 %
        table.producers.length % 2 ^ 32 := by
    rw [Producers.updateDutyIndex, if_neg seated.ne']
    dsimp only
    rw [UInt64.toNat_toUInt32, UInt64.toNat_mod, count, distance]
  rw [index, scheduledIndex, Representable]
  by_cases wraps : height.toNat + 1 - table.workingHeight.toNat = 2 ^ 64
  · rw [if_pos wraps, wraps, Nat.mod_self, Nat.zero_mod, Nat.zero_mod,
      Nat.dvd_iff_mod_eq_zero, eq_comm]
  rw [if_neg wraps, Nat.mod_eq_of_lt (show height.toNat + 1 - table.workingHeight.toNat < 2 ^ 64 by
      omega)]
  constructor
  · intro same
    rw [← same]
    exact Nat.mod_lt _ (by decide)
  · intro small
    exact Nat.mod_eq_of_lt small

/-! ## The paths -/

/-- The ways in which a node comes to the height after a finished block. -/
inductive FinishPath where
  | finishedProposal (sealHash : Hash) (headerTime : UInt64)
  | start (headerTime : UInt64)
  | recovery (status : ConsensusStatus)
  | resetMajority (message : ResetView)
  | producerChange (block : Header)

structure CompletesReset (setup : Setup) (node : Node) (message : ResetView) : Prop where
  producer : node.isProducer = true
  sponsored : node.view.producers.isProducers message.sponsor = true
  signed :
    checkSignature setup.ela message.sponsor
      (setup.resetViewData message.sponsor) message.sign = .ok ()
  majority :
    node.view.producers.getMajorityCount ≤
      (node.dispatcher.recordViewRequest message.sponsor).resetViewRequests.length

namespace FinishPath

/-- What the code does on a path, after the block of the given height. -/
def after (setup : Setup) (moment : Moment) (node : Node) (height : UInt64) : FinishPath → Node
  | .finishedProposal sealHash headerTime =>
    node.finishedProposal setup moment height sealHash headerTime
  | .start headerTime => node.start moment headerTime
  | .recovery status => node.recoverFromConsensusStatus status
  | .resetMajority message =>
    node.onResponseResetViewReceived setup moment (node.innerProposal setup moment) 0 message
  | .producerChange block => (TurnNode.onInsertBlock setup moment ⟨node, true⟩ block).1.node

def Finishes (setup : Setup) (moment : Moment) (node : Node) (height : UInt64) : FinishPath → Prop
  | .finishedProposal _ _ => node.dispatcher.finishedHeight < height
  | .start _ => moment.currentHeight = height
  | .recovery _ => node.dispatcher.finishedHeight = height
  | .resetMajority message => moment.currentHeight = height ∧ CompletesReset setup node message
  | .producerChange block =>
    blockHeight block = height ∧ (node.view.isSameProducers node.view.producers.producers).2 = false

def count (node : Node) : FinishPath → Nat
  | .producerChange _ => node.view.producers.nextProducers.length
  | _ => node.view.producers.producers.length

/-- The working height of the schedule; a change makes it the next height. -/
def workingHeight (node : Node) (height : UInt64) : FinishPath → Nat
  | .recovery status => status.workingHeight.toNat
  | .producerChange _ => height.toNat + 1
  | _ => node.view.producers.workingHeight.toNat

def due (path : FinishPath) (node : Node) (height : UInt64) : Nat :=
  scheduledIndex height.toNat (path.workingHeight node height) (path.count node)

def Fits (path : FinishPath) (node : Node) (height : UInt64) : Prop :=
  Representable height.toNat (path.workingHeight node height) (path.count node)

def IsDue (path : FinishPath) (node : Node) (height : UInt64) : Prop :=
  node.view.producers.dutyIndex.toNat = path.due node height

/--
When a path leads to the index that is due.  A path that does not set the index
has to find it there, and the change of producers sets it one too far.
-/
def Meets (node : Node) (height : UInt64) : FinishPath → Prop
  | .finishedProposal sealHash headerTime =>
    Fits (.finishedProposal sealHash headerTime) node height
  | .start headerTime =>
    if node.enableViewLoop then IsDue (.start headerTime) node height
    else Fits (.start headerTime) node height
  | .recovery status =>
    if height > 0 then Fits (.recovery status) node height
    else IsDue (.recovery status) node height
  | .resetMajority message =>
    if node.view.isRunning then Fits (.resetMajority message) node height
    else IsDue (.resetMajority message) node height
  | .producerChange block =>
    if node.view.isRunning then node.view.producers.nextProducers.length = 1
    else IsDue (.producerChange block) node height

end FinishPath

/-! ## What the paths do to the table -/

@[simp] theorem producers_changeView (view : ConsensusView) (now : Int) (force : Bool)
    (parentTime : UInt64) :
    (view.changeView now force parentTime).1.producers = view.producers := by
  have advanced : (view.advance now).producers = view.producers := by
    unfold ConsensusView.advance
    dsimp only
    split <;> rfl
  unfold ConsensusView.changeView
  split_ifs <;> exact advanced

namespace Node

variable {setup : Setup} {moment : Moment} {node : Node}

theorem producers_finishedProposal {height headerTime : UInt64} {sealHash : Hash}
    (unfinished : node.dispatcher.finishedHeight < height) :
    (node.finishedProposal setup moment height sealHash headerTime).view.producers =
      node.view.producers.updateDutyIndex height := by
  unfold finishedProposal
  rw [if_neg (UInt64.not_le.2 unfinished)]
  dsimp only
  rw [changeView_forced_stopped rfl]
  exact producers_changeView _ _ _ _

theorem producers_resetConsensus {nested : Node → DPOSProposal → Node} {level : Nat}
    {height : UInt64} : (node.resetConsensus moment nested level height).view.producers =
      if node.view.isRunning then node.view.producers.updateDutyIndex height
      else
        node.view.producers := by
  unfold resetConsensus
  split
  · dsimp only
    rw [changeView_forced_stopped rfl]
    exact producers_changeView _ _ _ _
  · rfl

theorem seats_recoverFromConsensusStatus (status : ConsensusStatus) :
    (node.recoverFromConsensusStatus status).view.producers.producers =
        node.view.producers.producers ∧
      (node.recoverFromConsensusStatus status).view.producers.totalProducers =
        node.view.producers.totalProducers := by
  unfold recoverFromConsensusStatus
  dsimp only
  split
  · exact ⟨Producers.producers_updateDutyIndex _ _, Producers.totalProducers_updateDutyIndex _ _⟩
  · exact ⟨rfl, rfl⟩

theorem producers_onResponseResetViewReceived {nested : Node → DPOSProposal → Node} {level : Nat}
    {message : ResetView} (completes : CompletesReset setup node message) :
    (node.onResponseResetViewReceived setup moment nested level message).view.producers =
      if node.view.isRunning then node.view.producers.updateDutyIndex moment.currentHeight
      else
        node.view.producers := by
  unfold onResponseResetViewReceived
  simp only [completes.producer, completes.sponsored,
    completes.signed, Bool.true_eq_false, ↓reduceIte]
  rw [if_pos completes.majority, producers_resetConsensus]

end Node

def turnTable (moment : Moment) (node : Node) (block : Header) : Producers :=
  (node.view.isSameProducers node.view.producers.producers).1.producers.changeCurrentProducers
    (blockHeight block + 1) (Spv.getSpvHeight moment.spvService)

theorem isSameProducers_fst (view : ConsensusView) (curProducers : List Bytes) :
    (view.isSameProducers curProducers).1.isRunning = view.isRunning ∧
      (view.isSameProducers curProducers).1.producers.dutyIndex = view.producers.dutyIndex ∧
      (view.isSameProducers curProducers).1.producers.nextProducers.length =
        view.producers.nextProducers.length := by
  unfold ConsensusView.isSameProducers
  dsimp only
  split
  · exact ⟨rfl, rfl, rfl⟩
  · exact ⟨rfl, rfl, length_sortKeys _⟩

theorem length_turnTable (moment : Moment) (node : Node) (block : Header) :
    (turnTable moment node block).producers.length = node.view.producers.nextProducers.length := by
  unfold turnTable Producers.changeCurrentProducers
  rw [List.length_map]
  exact (isSameProducers_fst _ _).2.2

theorem producers_producerChange {setup : Setup} {moment : Moment} {node : Node} {block : Header}
    (different : (node.view.isSameProducers node.view.producers.producers).2 = false) :
    (TurnNode.onInsertBlock setup moment ⟨node, true⟩ block).1.node.view.producers =
      if node.view.isRunning then
        (turnTable moment node block).updateDutyIndex (blockHeight block + 1)
      else
        turnTable moment node block := by
  have running := (isSameProducers_fst node.view node.view.producers.producers).1
  unfold TurnNode.onInsertBlock
  rw [if_pos rfl]
  dsimp only
  unfold TurnNode.changeTurn turnTable
  generalize node.view.isSameProducers node.view.producers.producers =
    compared at different running ⊢
  obtain ⟨view, isSame⟩ := compared
  subst different
  dsimp only
  rw [Node.producers_resetConsensus, ← running]
  rfl

theorem dutyIndex_turnTable_iff {moment : Moment} {node : Node} {block : Header}
    (seated : 0 < node.view.producers.nextProducers.length)
    (addressable : node.view.producers.nextProducers.length < 2 ^ 63) :
    ((turnTable moment node block).updateDutyIndex (blockHeight block + 1)).dutyIndex.toNat = 0 ↔
      node.view.producers.nextProducers.length = 1 := by
  have length := length_turnTable moment node block
  have distance : blockHeight block + 1 + 1 - (turnTable moment node block).workingHeight = 1 := by
    show blockHeight block + 1 + 1 - (blockHeight block + 1) = 1
    rw [UInt64.add_comm, UInt64.add_sub_cancel]
  rw [Producers.updateDutyIndex, length, if_neg seated.ne']
  dsimp only
  rw [distance, UInt64.toNat_toUInt32, UInt64.toNat_mod,
    UInt64.toNat_ofNat', Nat.mod_eq_of_lt (by omega : _ < 2 ^ 64), UInt64.toNat_one]
  by_cases single : node.view.producers.nextProducers.length = 1
  · simp [single]
  have second : 1 % node.view.producers.nextProducers.length = 1 := Nat.mod_eq_of_lt (by omega)
  rw [second, iff_false_right single]
  decide

/--
The duty schedule, on every path.  After the block of a height is finished, the
duty index is the one due for the next height exactly under the condition of the
path: the integers suffice where the path computes the index, the index was right
where the path does not touch it, and the change of producers in a running
consensus is right only for a single producer.
-/
theorem dutySchedule_iff (setup : Setup) (moment : Moment) (node : Node) (height : UInt64)
    (path : FinishPath) (finishes : path.Finishes setup moment node height)
    (seated : 0 < path.count node) (addressable : path.count node < 2 ^ 63)
    (working : path.workingHeight node height ≤ height.toNat + 1) :
    (path.after setup moment node height).view.producers.dutyIndex.toNat = path.due node height ↔
      path.Meets node height := by
  cases path with
  | finishedProposal sealHash headerTime =>
    simp only [FinishPath.after]
    rw [Node.producers_finishedProposal finishes]
    exact dutyIndex_updateDutyIndex_iff seated addressable working
  | start headerTime =>
    simp only [FinishPath.after, FinishPath.Meets, Node.start]
    cases node.enableViewLoop with
    | true => exact Iff.rfl
    | false =>
      rw [show moment.currentHeight = height from finishes]
      exact dutyIndex_updateDutyIndex_iff seated addressable working
  | recovery status =>
    simp only [FinishPath.after, FinishPath.Meets, Node.recoverFromConsensusStatus]
    rw [show node.dispatcher.finishedHeight = height from finishes]
    split
    · have index := @dutyIndex_updateDutyIndex_iff
        (node.view.producers.setWorkingHeight status.workingHeight)
        height seated addressable working
      exact index
    · exact Iff.rfl
  | resetMajority message =>
    simp only [FinishPath.after, FinishPath.Meets]
    rw [Node.producers_onResponseResetViewReceived finishes.2, finishes.1]
    split
    · exact dutyIndex_updateDutyIndex_iff seated addressable working
    · exact Iff.rfl
  | producerChange block =>
    have due : FinishPath.due (.producerChange block) node height = 0 := by
      simp [FinishPath.due, scheduledIndex, FinishPath.workingHeight]
    simp only [FinishPath.after, FinishPath.Meets, FinishPath.IsDue]
    rw [producers_producerChange finishes.2, due]
    split
    · exact dutyIndex_turnTable_iff seated addressable
    have index : (turnTable moment node block).dutyIndex = node.view.producers.dutyIndex :=
      (isSameProducers_fst _ _).2.1
    rw [index]

namespace Sample

def turningProducers : Producers :=
  { fourProducers with
    nextProducers := [[1], [2]]
    nextTotalProducers := 2 }

def runningNode (producers : Producers) : Node :=
  let node := Node.new [4] producers
  { node with view := node.view.setRunning }

end Sample

open Sample

/-- Finishing block one of four producers puts the third one on duty. -/
theorem dutySchedule_finishedProposal :
    FinishPath.Finishes (setup [4]) (at_ 1)
        (runningNode fourProducers) 1 (.finishedProposal emptyHash 5) ∧
      ((runningNode fourProducers).finishedProposal
        (setup [4]) (at_ 1) 1 emptyHash 5).view.producers.dutyIndex.toNat = 2 := by
  have finishes : FinishPath.Finishes (setup [4]) (at_ 1)
      (runningNode fourProducers) 1 (.finishedProposal emptyHash 5) :=
    show (0 : UInt64) < 1 by decide
  have meets : FinishPath.Meets (runningNode fourProducers) 1 (.finishedProposal emptyHash 5) :=
    show Representable 1 0 4 by decide
  exact ⟨finishes, (dutySchedule_iff (setup [4]) (at_ 1) (runningNode fourProducers) 1
    (.finishedProposal emptyHash 5) finishes (by decide) (by decide) (by decide)).2 meets⟩

/--
A change of producers while the consensus runs makes height two the working
height, and puts the second producer on duty for it instead of the first.
-/
theorem producerChange_skips_first_seat :
    FinishPath.Finishes (setup [4]) (at_ 1)
        (runningNode turningProducers) 1 (.producerChange (child 5 [])) ∧
      FinishPath.due (.producerChange (child 5 [])) (runningNode turningProducers) 1 = 0 ∧
      (FinishPath.after (setup [4]) (at_ 1) (runningNode turningProducers) 1
        (.producerChange (child 5 []))).view.producers.dutyIndex.toNat ≠ 0 := by
  refine ⟨⟨by decide +kernel, by decide +kernel⟩, by decide +kernel, ?_⟩
  decide +kernel

end EscSideChain.Pbft
