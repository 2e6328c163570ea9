import EscSideChain.PbftVoteOnce
import Mathlib.Data.List.Rotate

namespace EscSideChain.Pbft

open Dpos

/-!
# Recovery from the reports of peers

`DoRecover` takes the statuses of the highest reported view offset, keeps the
first one that the loop over the map meets, and lets `RecoverAbnormal` move it
on by the views that have passed since the median of the reported start times.
-/

/-! ## The median -/

/-- The order in which `DoRecover` hands the start times to `medianOf`. -/
def sortTimes (times : List Int64) : List Int64 :=
  times.insertionSort (· ≤ ·)

def middleTimes (nums : List Int64) : Int64 × Int64 :=
  (nums.getD ((nums.length - 1) / 2) 0, nums.getD (nums.length / 2) 0)

def middleSum (nums : List Int64) : Int :=
  (middleTimes nums).1.toInt + (middleTimes nums).2.toInt

/--
The middle one of an odd number of times is the epoch, or the two middle ones of an even number
add up, in `int64`, to at most one nanosecond.
-/
def MedianAtEpoch (nums : List Int64) : Prop :=
  if nums.length % 2 = 1 then (middleTimes nums).1 = 0
  else
    -1 ≤ (middleSum nums).bmod (2 ^ 64) ∧ (middleSum nums).bmod (2 ^ 64) ≤ 1

section Median

variable {nums : List Int64}

theorem tdiv_two (value : Int) : value.tdiv 2 = if 0 ≤ value then value / 2 else -(-value / 2) := by
  split
  · next nonneg => exact Int.tdiv_eq_ediv_of_nonneg nonneg
  · next negative => rw [← Int.tdiv_eq_ediv_of_nonneg (by omega), Int.neg_tdiv, Int.neg_neg]

theorem bmod_int64 (value : Int) : value.bmod (2 ^ 64) = (value + 2 ^ 63) % 2 ^ 64 - 2 ^ 63 := by
  rw [Int.bmod_def]
  split <;> omega

theorem medianOf_even (nonempty : nums ≠ []) (even : nums.length % 2 = 0) :
    (Node.medianOf nums).toInt = ((middleSum nums).bmod (2 ^ 64)).tdiv 2 := by
  have positive := List.length_pos_iff.mpr nonempty
  have before : nums.length / 2 - 1 = (nums.length - 1) / 2 := by omega
  have found : Node.medianOf nums =
      (nums.getD (nums.length / 2) 0 + nums.getD ((nums.length - 1) / 2) 0) / 2 := by
    unfold Node.medianOf
    rw [if_neg (by omega), if_pos even, before]
  have two : (2 : Int64).toInt = 2 := by decide
  rw [found, Int64.toInt_div, Int64.toInt_add, middleSum, middleTimes,
    Int.add_comm, two, bmod_int64, bmod_int64, tdiv_two]
  omega

theorem medianOf_eq_zero_iff (nonempty : nums ≠ []) :
    Node.medianOf nums = 0 ↔ MedianAtEpoch nums := by
  have zero : Node.medianOf nums = 0 ↔ (Node.medianOf nums).toInt = 0 :=
    Int64.toInt_inj.symm
  unfold MedianAtEpoch
  rcases Nat.mod_two_eq_zero_or_one nums.length with even | odd
  · rw [zero, medianOf_even nonempty even, if_neg (by omega), tdiv_two]
    omega
  · have same : (nums.length - 1) / 2 = nums.length / 2 := by omega
    rw [if_pos odd, middleTimes, same]
    unfold Node.medianOf
    rw [if_neg (by omega), if_neg (by omega)]

end Median

/-! ## The recovered view offset -/

namespace Node

variable (setup : Setup)
variable (moment : Moment)
variable (node : Node)

/-- `RecoverAbnormal`, on a status that is not nil. -/
def recoverAbnormal (status : ConsensusStatus) (medianTime : Int64) : Node :=
  node.recoverFromConsensusStatus (node.recoveredStatus setup moment status medianTime)

variable {setup moment node}
variable {status : ConsensusStatus}

open Sample

end Node

/-! ## The order of the loop -/

namespace Node

/-- The statuses under the highest reported view offset. -/
def reportedHighest (node : Node) : List ConsensusStatus :=
  let highest := (node.statusMap.map Prod.fst).foldl max 0
  (node.statusMap.filter fun entry => entry.1 = highest).map fun entry => entry.2.2

/-- Their start times, in order. -/
def reportedTimes (node : Node) : List Int64 :=
  sortTimes (node.reportedHighest.map fun known => unixNano known.viewStartTime)

/--
The node already has what recovery takes from a status whose view starts at the epoch, and it
stores no votes and no proposal.
-/
structure StandsAt (setup : Setup) (node : Node) (status : ConsensusStatus) : Prop where
  consensusStatus : node.view.consensusStatus = status.consensusStatus
  viewOffset : node.view.viewOffset = status.viewOffset
  viewStartTime : node.view.viewStartTime = timeOfSeconds (unixSeconds (setup.int64ToTime 0))
  viewChangeTime : node.view.viewChangeTime = node.view.viewStartTime + node.view.signTolerance
  workingHeight : node.view.producers.workingHeight = status.workingHeight
  dutyIndex : 0 < node.dispatcher.finishedHeight →
    node.view.producers.updateDutyIndex node.dispatcher.finishedHeight = node.view.producers
  duty : node.view.isDposOnDuty = node.view.producerIsOnDuty node.view.publicKey
  acceptVotes : node.dispatcher.acceptVotes = ∅
  rejectedVotes : node.dispatcher.rejectedVotes = ∅
  pendingVotes : node.dispatcher.pendingVotes = ∅
  processingProposal : node.dispatcher.processingProposal = none

/--
The statuses of the highest view offset agree on what recovery takes from them:
those that are not ready have the same data, and ready ones stand beside others only if the
median of the start times is the epoch and the node already stands at the others.
-/
structure ReportsAgree (setup : Setup) (node : Node) : Prop where
  alike : ∀ first ∈ node.reportedHighest, ∀ second ∈ node.reportedHighest,
      first.consensusStatus ≠ consensusReady → second.consensusStatus ≠ consensusReady →
      first.consensusStatus = second.consensusStatus ∧ first.viewOffset = second.viewOffset ∧
        first.workingHeight = second.workingHeight
  mixed : ∀ first ∈ node.reportedHighest, ∀ second ∈ node.reportedHighest,
      first.consensusStatus = consensusReady → second.consensusStatus ≠ consensusReady →
      MedianAtEpoch node.reportedTimes ∧ node.StandsAt setup second

/-- What `DoRecover` makes of the status that its loop meets first. -/
def recoveredFrom (setup : Setup) (moment : Moment) (node : Node)
    (status : ConsensusStatus) : Node :=
  if status.consensusStatus = consensusReady then node
  else node.recoverAbnormal setup moment status (medianOf node.reportedTimes)

def recoveredTable (node : Node) (workingHeight : UInt64) : Producers :=
  let table := node.view.producers.setWorkingHeight workingHeight
  if node.dispatcher.finishedHeight > 0 then table.updateDutyIndex node.dispatcher.finishedHeight
  else table

section Recovered

variable {setup : Setup}
variable {moment : Moment}
variable {node : Node}
variable {status first second : ConsensusStatus}
variable {median : Int64}

theorem view_recoverFromConsensusStatus :
    (node.recoverFromConsensusStatus status).view = ConsensusView.refreshDuty { node.view with
        consensusStatus := status.consensusStatus
        viewOffset := status.viewOffset
        viewStartTime :=
          timeOfSeconds (unixSeconds status.viewStartTime)
        viewChangeTime :=
          timeOfSeconds (unixSeconds status.viewStartTime) + node.view.signTolerance
        producers := node.recoveredTable status.workingHeight } := by
  unfold recoverFromConsensusStatus recoveredTable
  dsimp only
  split <;> rfl

@[simp] theorem workingHeight_recoveredTable (workingHeight : UInt64) :
    (node.recoveredTable workingHeight).workingHeight = workingHeight := by
  unfold recoveredTable
  dsimp only
  split
  · rw [Producers.workingHeight_updateDutyIndex]
    rfl
  · rfl

theorem recoveredTable_eq_iff {workingHeight : UInt64} :
    node.recoveredTable workingHeight = node.view.producers ↔
      node.view.producers.workingHeight = workingHeight ∧
        (0 < node.dispatcher.finishedHeight → node.view.producers.updateDutyIndex
              node.dispatcher.finishedHeight =
            node.view.producers) := by
  constructor
  · intro same
    have height : node.view.producers.workingHeight = workingHeight := by
      rw [← same, workingHeight_recoveredTable]
    refine ⟨height, fun finished => ?_⟩
    subst height
    exact (if_pos finished).symm.trans same
  · rintro ⟨rfl, index⟩
    unfold recoveredTable
    split
    · next finished => exact index finished
    · rfl

@[simp] theorem consensusStatus_recoveredStatus :
    (node.recoveredStatus setup moment status median).consensusStatus = status.consensusStatus := by
  unfold recoveredStatus
  split <;> rfl

@[simp] theorem workingHeight_recoveredStatus :
    (node.recoveredStatus setup moment status median).workingHeight = status.workingHeight := by
  unfold recoveredStatus
  split <;> rfl

theorem viewOffset_recoveredStatus_inj :
    (node.recoveredStatus setup moment first median).viewOffset =
        (node.recoveredStatus setup moment second median).viewOffset ↔
      first.viewOffset = second.viewOffset := by
  unfold recoveredStatus
  split
  · exact Iff.rfl
  · exact UInt32.add_left_inj _

theorem view_recoverAbnormal_eq_iff :
    (node.recoverAbnormal setup moment first median).view =
        (node.recoverAbnormal setup moment second median).view ↔
      first.consensusStatus = second.consensusStatus ∧ first.viewOffset = second.viewOffset ∧
        first.workingHeight = second.workingHeight := by
  unfold recoverAbnormal
  constructor
  · intro same
    rw [view_recoverFromConsensusStatus, view_recoverFromConsensusStatus] at same
    have statuses := congrArg ConsensusView.consensusStatus same
    have offsets := congrArg ConsensusView.viewOffset same
    have heights := congrArg (fun view => view.producers.workingHeight) same
    simp only [ConsensusView.refreshDuty, workingHeight_recoveredTable,
      consensusStatus_recoveredStatus, workingHeight_recoveredStatus] at statuses offsets heights
    exact ⟨statuses, viewOffset_recoveredStatus_inj.mp offsets, heights⟩
  · rintro ⟨statuses, offsets, heights⟩
    have same : node.recoveredStatus setup moment first median =
        node.recoveredStatus setup moment second median := by
      simp only [recoveredStatus, statuses, offsets, heights]
    rw [same]

theorem viewStartTime_recoverAbnormal (notMissing : median ≠ 0) :
    (node.recoverAbnormal setup moment status median).view.viewStartTime =
      timeOfSeconds (unixSeconds (moment.clock 0 1 -
        (node.view.calculateOffsetTime (setup.int64ToTime median) (moment.clock 0 0)).2)) := by
  rw [recoverAbnormal, view_recoverFromConsensusStatus, recoveredStatus, if_neg notMissing]
  rfl

theorem dispatcher_recoverFromConsensusStatus_eq_iff :
    (node.recoverFromConsensusStatus status).dispatcher = node.dispatcher ↔
      node.dispatcher.acceptVotes = ∅ ∧ node.dispatcher.rejectedVotes = ∅ ∧
        node.dispatcher.pendingVotes = ∅ ∧ node.dispatcher.processingProposal = none := by
  unfold recoverFromConsensusStatus
  cases node.dispatcher
  simp [eq_comm]

def SameState (first second : Node) : Prop :=
  first.view = second.view ∧ first.dispatcher = second.dispatcher

theorem sameState_missing_iff :
    SameState (node.recoverAbnormal setup moment status 0) node ↔ node.StandsAt setup status := by
  have missing : node.recoveredStatus setup moment status 0 =
      { status with viewStartTime := setup.int64ToTime 0 } := by
    rw [recoveredStatus, if_pos rfl]
  rw [SameState, recoverAbnormal, missing, view_recoverFromConsensusStatus,
    dispatcher_recoverFromConsensusStatus_eq_iff]
  constructor
  · rintro ⟨view, acceptVotes, rejectedVotes, pendingVotes, proposal⟩
    have statuses := congrArg ConsensusView.consensusStatus view
    have offsets := congrArg ConsensusView.viewOffset view
    have starts := congrArg ConsensusView.viewStartTime view
    have changes := congrArg ConsensusView.viewChangeTime view
    have duties := congrArg ConsensusView.isDposOnDuty view
    have tables := congrArg ConsensusView.producers view
    simp only [ConsensusView.refreshDuty] at statuses offsets starts changes tables
    obtain ⟨height, index⟩ := recoveredTable_eq_iff.mp tables
    exact {
      consensusStatus := statuses.symm
      viewOffset := offsets.symm
      viewStartTime := starts.symm
      viewChangeTime := by rw [← starts, changes]
      workingHeight := height
      dutyIndex := index
      duty := by
        rw [← duties]
        simp only [ConsensusView.refreshDuty, ConsensusView.producerIsOnDuty, tables, offsets]
      acceptVotes := acceptVotes
      rejectedVotes := rejectedVotes
      pendingVotes := pendingVotes
      processingProposal := proposal }
  · intro stands
    refine ⟨?_, stands.acceptVotes, stands.rejectedVotes, stands.pendingVotes,
      stands.processingProposal⟩
    have table : node.recoveredTable status.workingHeight = node.view.producers :=
      recoveredTable_eq_iff.mpr ⟨stands.workingHeight, stands.dutyIndex⟩
    dsimp only
    rw [table, ← stands.viewOffset, ← stands.viewStartTime, ← stands.viewChangeTime,
      ← stands.consensusStatus, ConsensusView.refreshDuty]
    exact congrArg (fun duty => { node.view with isDposOnDuty := duty }) stands.duty.symm

/-- Unless the median is zero, the recovered start time moves with the clock. -/
theorem exists_clock_moved (notMissing : median ≠ 0) :
    ∃ clock : Nat → Nat → Int,
      ¬SameState (node.recoverAbnormal setup { moment with clock := clock } status median)
        node := by
  let rest := (node.view.calculateOffsetTime (setup.int64ToTime median) 0).2
  let clock (seconds : Int) (_ reading : Nat) : Int :=
    if reading = 0 then 0 else seconds * 1000000000 + rest
  have started (seconds : Int) :
      (node.recoverAbnormal setup { moment with clock := clock seconds } status
        median).view.viewStartTime = timeOfSeconds (unixSeconds (seconds * 1000000000)) := by
    rw [viewStartTime_recoverAbnormal notMissing]
    simp [clock, rest]
  by_contra! still
  have early := congrArg ConsensusView.viewStartTime (still (clock 0)).1
  have late := congrArg ConsensusView.viewStartTime (still (clock 1)).1
  rw [started] at early late
  exact absurd (early.trans late.symm) (by decide)

theorem sameState_at_every_clock_iff :
    (∀ clock : Nat → Nat → Int,
      SameState (node.recoverAbnormal setup { moment with clock := clock } status median) node) ↔
      median = 0 ∧ node.StandsAt setup status := by
  constructor
  · intro still
    have missing : median = 0 := by
      by_contra notMissing
      obtain ⟨clock, moved⟩ := @exists_clock_moved setup moment node status median notMissing
      exact moved (still clock)
    subst missing
    exact ⟨rfl, sameState_missing_iff.mp (still moment.clock)⟩
  · rintro ⟨rfl, stands⟩ clock
    exact sameState_missing_iff.mpr stands

end Recovered

section Order

variable {setup : Setup}
variable {moment : Moment}
variable {node : Node}
variable {status : ConsensusStatus}

theorem highestStatuses_perm : (node.highestStatuses moment).Perm node.reportedHighest :=
  (((moment.order 0).perm node.statusMap).filter _).map _

theorem sortTimes_eq_of_perm {first second : List Int64} (same : first.Perm second) :
    sortTimes first = sortTimes second :=
  List.Perm.eq_of_pairwise' (List.pairwise_insertionSort _ first)
    (List.pairwise_insertionSort _ second)
    ((List.perm_insertionSort _ first).trans (same.trans (List.perm_insertionSort _ second).symm))

theorem doRecover_eq :
    node.doRecover setup moment = { (match (node.highestStatuses moment).head? with
          | none => node
          | some status => node.recoveredFrom setup moment status) with
        notHandledProposal := [] } := by
  have times : sortTimes ((node.highestStatuses moment).map
      fun known => unixNano known.viewStartTime) = node.reportedTimes :=
    sortTimes_eq_of_perm (highestStatuses_perm.map _)
  unfold doRecover settledStatus recoveredFrom recoverAbnormal
  rw [← times]
  cases node.highestStatuses moment with
  | nil => rfl
  | cons status rest =>
    by_cases ready : status.consensusStatus = consensusReady
    · simp [ready]
    · simp [ready, sortTimes]

def rotated (start : Nat) : IterationOrder where
  arrange entries := entries.rotate start
  perm entries := entries.rotate_perm start

theorem exists_order_head (reported : status ∈ node.reportedHighest) :
    ∃ order : IterationOrder, (node.highestStatuses { moment with order := fun _ => order }).head? =
          some status := by
  obtain ⟨entry, member, rfl⟩ := List.mem_map.mp reported
  obtain ⟨stored, highest⟩ := List.mem_filter.mp member
  obtain ⟨before, after, split⟩ := List.append_of_mem stored
  refine ⟨rotated before.length, ?_⟩
  have arranged : (rotated before.length).arrange node.statusMap = entry :: (after ++ before) := by
    rw [split]
    exact List.rotate_append_length_eq before (entry :: after)
  unfold highestStatuses
  dsimp only
  rw [arranged, List.filter_cons, if_pos highest]
  rfl

theorem doRecover_sameState_iff :
    (∀ first second : Nat → IterationOrder,
      SameState (node.doRecover setup { moment with order := first })
        (node.doRecover setup { moment with order := second })) ↔
      ∀ first ∈ node.reportedHighest, ∀ second ∈ node.reportedHighest,
        SameState (node.recoveredFrom setup moment first)
          (node.recoveredFrom setup moment second) := by
  constructor
  · intro same first firstReported second secondReported
    obtain ⟨firstOrder, firstHead⟩ := @exists_order_head moment node first firstReported
    obtain ⟨secondOrder, secondHead⟩ := @exists_order_head moment node second secondReported
    have outcomes := same (fun _ => firstOrder) (fun _ => secondOrder)
    rw [doRecover_eq, doRecover_eq, firstHead, secondHead] at outcomes
    exact outcomes
  · intro same first second
    rw [doRecover_eq, doRecover_eq]
    have firstPerm := @highestStatuses_perm { moment with order := first } node
    have secondPerm := @highestStatuses_perm { moment with order := second } node
    revert firstPerm secondPerm
    generalize node.highestStatuses { moment with order := first } = firstMet
    generalize node.highestStatuses { moment with order := second } = secondMet
    intro firstPerm secondPerm
    cases firstMet with
    | nil =>
      cases (firstPerm.trans secondPerm.symm).nil_eq
      exact ⟨rfl, rfl⟩
    | cons firstStatus firstRest =>
      cases secondMet with
      | nil => cases (secondPerm.trans firstPerm.symm).nil_eq
      | cons secondStatus secondRest =>
        exact same firstStatus (firstPerm.mem_iff.mp (by simp))
          secondStatus (secondPerm.mem_iff.mp (by simp))

theorem recoveredFrom_ready (ready : status.consensusStatus = consensusReady) :
    node.recoveredFrom setup moment status = node :=
  if_pos ready

theorem recoveredFrom_not_ready (notReady : status.consensusStatus ≠ consensusReady) :
    node.recoveredFrom setup moment status =
      node.recoverAbnormal setup moment status (medianOf node.reportedTimes) :=
  if_neg notReady

theorem median_zero_iff (reported : status ∈ node.reportedHighest) :
    medianOf node.reportedTimes = 0 ↔ MedianAtEpoch node.reportedTimes := by
  refine medianOf_eq_zero_iff (List.ne_nil_of_length_pos ?_)
  rw [reportedTimes, sortTimes, List.length_insertionSort, List.length_map]
  exact List.length_pos_of_mem reported

theorem SameState.symm {first second : Node} (same : SameState first second) :
    SameState second first :=
  ⟨same.1.symm, same.2.symm⟩

/--
At every clock, `DoRecover` leaves the view and the dispatcher in the same state in every order
of its loop if and only if the statuses of the highest view offset agree.
-/
theorem doRecover_order_irrelevant_iff (setup : Setup) (moment : Moment) (node : Node) :
    (∀ (clock : Nat → Nat → Int) (first second : Nat → IterationOrder),
      SameState (node.doRecover setup { moment with clock := clock, order := first })
        (node.doRecover setup { moment with clock := clock, order := second })) ↔
      node.ReportsAgree setup := by
  have outcomes (clock : Nat → Nat → Int) :=
    @doRecover_sameState_iff setup { moment with clock := clock } node
  constructor
  · intro irrelevant
    have same (clock : Nat → Nat → Int) := (outcomes clock).mp (irrelevant clock)
    constructor
    · intro first firstReported second secondReported firstRuns secondRuns
      have alike := same moment.clock first firstReported second secondReported
      rw [recoveredFrom_not_ready firstRuns, recoveredFrom_not_ready secondRuns] at alike
      exact view_recoverAbnormal_eq_iff.mp alike.1
    · intro first firstReported second secondReported ready runs
      rw [← median_zero_iff secondReported, ← @sameState_at_every_clock_iff setup moment node]
      intro clock
      have still := same clock second secondReported first firstReported
      rwa [recoveredFrom_ready ready, recoveredFrom_not_ready runs] at still
  · rintro ⟨alike, mixed⟩ clock
    have still {first second : ConsensusStatus}
        (firstReported : first ∈ node.reportedHighest)
        (secondReported : second ∈ node.reportedHighest)
        (ready : first.consensusStatus = consensusReady)
        (runs : second.consensusStatus ≠ consensusReady) :
        SameState (node.recoveredFrom setup { moment with clock := clock } second) node := by
      have stands := mixed first firstReported second secondReported ready runs
      rw [← median_zero_iff secondReported, ← @sameState_at_every_clock_iff setup moment node]
        at stands
      rw [recoveredFrom_not_ready runs]
      exact stands clock
    rw [outcomes clock]
    intro first firstReported second secondReported
    by_cases firstReady : first.consensusStatus = consensusReady <;>
      by_cases secondReady : second.consensusStatus = consensusReady
    · rw [recoveredFrom_ready firstReady, recoveredFrom_ready secondReady]
      exact ⟨rfl, rfl⟩
    · rw [recoveredFrom_ready firstReady]
      exact (still firstReported secondReported firstReady secondReady).symm
    · rw [recoveredFrom_ready secondReady]
      exact still secondReported firstReported secondReady firstReady
    · rw [recoveredFrom_not_ready firstReady, recoveredFrom_not_ready secondReady]
      exact ⟨view_recoverAbnormal_eq_iff.mpr
        (alike first firstReported second secondReported firstReady secondReady), rfl⟩

end Order

end Node

namespace Sample

def twoReports : List (Moment × Event) :=
  [(at_ 1, .recover), (at_ 1, .responseConsensus [2] ⟨consensusReady, 1, 0, 0⟩),
    (at_ 1, .responseConsensus [3] ⟨consensusRunning, 1, 0, 0⟩)]

end Sample

open Sample

namespace Node

/--
After these two reports the order of the loop decides whether the node runs.
-/
theorem loop_order_decides_recovery :
    let node := EventRuns.run (step (setup [4])) (Node.new [4] fourProducers) twoReports
    (node.doRecover (setup [4]) { at_ 2 with
        order := fun _ => rotated 0 }).view.consensusStatus = consensusRunning ∧
      (node.doRecover (setup [4]) { at_ 2 with
        order := fun _ => rotated 1 }).view.consensusStatus = consensusReady := by
  decide +kernel

end Node

end EscSideChain.Pbft
