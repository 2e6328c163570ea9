import EscSideChain.PbftDutySchedule
import EscSideChain.PbftHandlerRules
import EscSideChain.PbftRecovery

namespace EscSideChain.Pbft

open Dpos

/-!
# The duty flag

A view keeps the answer to whether its node is on duty in `isDposOnDuty`.  Most operations
set the flag anew;  `UpdateProducers` and `ChangeCurrentProducers` replace the list of
producers and leave it as it was.
-/

def DutyCurrent (view : ConsensusView) : Prop :=
  view.isDposOnDuty = view.producerIsOnDuty view.publicKey

/--
`IsOnduty` is right: it compares the producer on duty with the node's key, and
nobody is on duty without producers or without a key.
-/
structure DutyRight (view : ConsensusView) : Prop where
  current : DutyCurrent view
  vacant : view.producers.producers = [] ∨ view.publicKey = [] → view.isDposOnDuty = false

def Distinguishable (key : Bytes) (seats : List Bytes) : Prop :=
  key ≠ [] ∨ seats ≠ [] ∧ seats.length < 2 ^ 32 ∧ [] ∉ seats

theorem getNextOnDutyProducer_mem {table : Producers} {offset : UInt32}
    (seated : table.producers ≠ []) (addressable : table.producers.length < 2 ^ 32) :
    ∃ producer ∈ table.producers, table.getNextOnDutyProducer offset = some producer := by
  have positive := List.length_pos_iff.mpr seated
  have count : (UInt32.ofNat table.producers.length).toNat = table.producers.length := by
    rw [UInt32.toNat_ofNat']
    exact Nat.mod_eq_of_lt addressable
  have inside : ((table.dutyIndex + offset) % UInt32.ofNat table.producers.length).toNat <
        table.producers.length := by
    rw [UInt32.toNat_mod, count]
    exact Nat.mod_lt _ positive
  refine ⟨_, List.getElem_mem inside, ?_⟩
  rw [Producers.getNextOnDutyProducer, if_neg positive.ne', List.getElem?_eq_getElem inside]

theorem DutyCurrent.right {view : ConsensusView} (current : DutyCurrent view)
    (distinguishable : Distinguishable view.publicKey view.producers.producers) :
    DutyRight view := by
  refine ⟨current, fun vacant => ?_⟩
  rw [show view.isDposOnDuty = _ from current,
    ConsensusView.producerIsOnDuty, decide_eq_false_iff_not]
  rcases distinguishable with keyed | ⟨seated, addressable, noEmpty⟩
  · have empty := vacant.resolve_right keyed
    simpa [Producers.getNextOnDutyProducer, empty] using keyed.symm
  · obtain ⟨producer, member, onDuty⟩ :=
      @getNextOnDutyProducer_mem view.producers view.viewOffset seated addressable
    rw [onDuty, vacant.resolve_left seated]
    rintro rfl
    exact noEmpty member

theorem dutyCurrent_refreshDuty (view : ConsensusView) : DutyCurrent view.refreshDuty :=
  rfl

/-! ## The operations -/

inductive DutyOp where
  | updateProducers (keys : List Bytes) (totalCount : Nat) (spvHeight : UInt64)
  | changeCurrentProducers (changeHeight spvHeight : UInt64)
  | updateDutyIndex (height : UInt64)
  | changeView (now : Int) (force : Bool) (parentTime : UInt64)
  | resetConsensus (height : UInt64)
  | finishedProposal (height : UInt64) (sealHash : Hash) (headerTime : UInt64)
  | recover (status : ConsensusStatus)

namespace DutyOp

variable (setup : Setup) (moment : Moment)

/-- Run an operation, with the listener that `ChangeView` calls. -/
def perform (node : Node) : DutyOp → Node
  | .updateProducers keys totalCount spvHeight =>
    { node with
      view := node.view.updateProducers keys totalCount spvHeight }
  | .changeCurrentProducers changeHeight spvHeight =>
    { node with
      view := node.view.changeCurrentProducers changeHeight spvHeight }
  | .updateDutyIndex height => { node with view := node.view.updateDutyIndex height }
  | .changeView now force parentTime =>
    node.changeView moment (node.innerProposal setup moment) (moment.order 0) now force parentTime
  | .resetConsensus height => node.resetConsensus moment (node.innerProposal setup moment) 0 height
  | .finishedProposal height sealHash headerTime =>
    node.finishedProposal setup moment height sealHash headerTime
  | .recover status => node.recoverFromConsensusStatus status

def Recomputes (node : Node) : DutyOp → Prop
  | .updateProducers _ _ _ => False
  | .changeCurrentProducers _ _ => False
  | .updateDutyIndex _ => True
  | .changeView now force _ =>
    force = true ∨ (node.view.calculateOffsetTime node.view.viewStartTime now).1 > 0
  | .resetConsensus _ => node.view.isRunning = true
  | .finishedProposal height _ _ => node.dispatcher.finishedHeight < height
  | .recover _ => True

def reseated (node : Node) : DutyOp → Producers
  | .updateProducers keys totalCount spvHeight =>
    node.view.producers.updateProducers (sortKeys keys) totalCount spvHeight
  | .changeCurrentProducers changeHeight spvHeight =>
    node.view.producers.changeCurrentProducers changeHeight spvHeight
  | _ => node.view.producers

/--
The operation sets the flag anew, or the list it leaves behind has the node on
duty exactly if the list before had; and the node's key can be told apart from
an empty seat.
-/
structure KeepsFlag (node : Node) (op : DutyOp) : Prop where
  distinguishable : Distinguishable node.view.publicKey (op.reseated node).producers
  sameDuty : op.Recomputes node ∨ { node.view with producers := op.reseated node }.producerIsOnDuty
        node.view.publicKey =
      node.view.producerIsOnDuty node.view.publicKey

end DutyOp

/-! ## Handlers behind a view change -/

structure KeptByHandlers (invariant : ConsensusView → Prop) : Prop where
  ready : ∀ view, invariant view → invariant view.setReady
  moved : ∀ view now force parentTime, invariant view →
    invariant (view.changeView now force parentTime).1
  reset : ∀ view height, invariant view →
    invariant (view.setReady.resetViewOffset.updateDutyIndex height)

namespace KeptByHandlers

variable {setup : Setup} {moment : Moment}
variable {invariant : ConsensusView → Prop}
variable {nested : Node → DPOSProposal → Node} {node : Node}

theorem resetConsensus (kept : KeptByHandlers invariant) (holds : invariant node.view) (level : Nat)
    (height : UInt64) : invariant (node.resetConsensus moment nested level height).view := by
  unfold Node.resetConsensus
  dsimp only
  split
  · rw [Node.changeView_forced_stopped rfl]
    exact kept.moved _ _ _ _ (kept.reset _ height holds)
  · exact holds

theorem onResponseResetViewReceived (kept : KeptByHandlers invariant) (holds : invariant node.view)
    (level : Nat) (message : ResetView) :
    invariant (node.onResponseResetViewReceived setup moment nested level message).view := by
  unfold Node.onResponseResetViewReceived
  split
  · exact holds
  split
  · exact holds
  split
  · exact holds
  dsimp only
  split
  · refine kept.resetConsensus ?_ level _
    exact holds
  · exact holds

variable (kept : KeptByHandlers invariant)

include kept

theorem askReset (holds : invariant node.view) (level : Nat) :
    invariant (node.askReset setup moment level).view := by
  unfold Node.askReset
  split
  · dsimp only
    split
    · exact holds
    refine kept.onResponseResetViewReceived ?_ level _
    exact holds
  · exact holds

theorem handlerRule : HandlerRule setup moment fun before after =>
      invariant before.view → invariant after.view where
  refl _ := id
  trans earlier later holds := later (earlier holds)
  taken _ _ := id
  moved node now force parentTime := kept.moved _ now force parentTime
  cleaned _ := id
  ready node := kept.ready _
  asked _ level holds := kept.askReset holds level
  answered node order id proposal _ holds := by
    have chosenView : (node.chooseVote setup moment order id proposal).1.view = node.view :=
      congrArg VotingState.view (Node.votingState_chooseVote _ _ _ _)
    have sentView : (node.answer setup moment order id proposal).view =
        (node.chooseVote setup moment order id proposal).1.view := by
      rcases Node.sendVote_cases (node.chooseVote setup moment order id proposal).1 proposal
          (node.chooseVote setup moment order id proposal).2.1
          (node.chooseVote setup moment order id proposal).2.2 with
        unsent | ⟨ballot, -, -, sent⟩
      · exact congrArg VotingState.view unsent
      · exact congrArg VotingState.view sent
    rw [sentView, chosenView]
    exact holds

theorem changeView_of_changed {now : Int} {force : Bool} {parentTime : UInt64}
    (changed : invariant (node.view.changeView now force parentTime).1) (order : IterationOrder) :
    invariant
      (node.changeView moment (node.innerProposal setup moment) order now
        force parentTime).view := by
  have rule : HandlerRule setup moment fun before after =>
      invariant before.view → invariant after.view :=
    kept.handlerRule
  unfold Node.changeView
  split
  · next unheard =>
      rw [unheard] at changed
      exact changed
  next heard =>
    rw [heard] at changed
    exact rule.onViewChanged (rule.onProposalReceived _ 1 zeroPID) order _ force _ changed

end KeptByHandlers

/-! ## The flag along a run -/

structure FlagOf (key : Bytes) (seats : List Bytes) (view : ConsensusView) : Prop where
  publicKey : view.publicKey = key
  seated : view.producers.producers = seats
  current : DutyCurrent view

section Flag

variable {key : Bytes} {seats : List Bytes} {view : ConsensusView}

@[simp] theorem publicKey_changeView (now : Int) (force : Bool) (parentTime : UInt64) :
    (view.changeView now force parentTime).1.publicKey = view.publicKey := by
  have advanced : (view.advance now).publicKey = view.publicKey := by
    unfold ConsensusView.advance
    dsimp only
    split <;> rfl
  unfold ConsensusView.changeView
  split_ifs <;> exact advanced

theorem dutyCurrent_changeView {now : Int} {force : Bool} {parentTime : UInt64}
    (moves : force = true ∨ (view.calculateOffsetTime view.viewStartTime now).1 > 0) :
    DutyCurrent (view.changeView now force parentTime).1 := by
  unfold ConsensusView.changeView
  split
  · exact dutyCurrent_refreshDuty _
  next unforced =>
    rw [if_pos (moves.resolve_left unforced)]
    exact dutyCurrent_refreshDuty _

theorem changeView_unmoved {now : Int} {force : Bool} {parentTime : UInt64}
    (stays : ¬(force = true ∨ (view.calculateOffsetTime view.viewStartTime now).1 > 0)) :
    view.changeView now force parentTime = (view, false) := by
  obtain ⟨unforced, near⟩ := not_or.mp stays
  have none : (view.calculateOffsetTime view.viewStartTime now).1 = 0 :=
    UInt32.le_zero_iff.mp (UInt32.not_lt.mp near)
  simp [ConsensusView.changeView, ConsensusView.advance, unforced, none]

theorem flagOf_kept : KeptByHandlers (FlagOf key seats) where
  ready _ flag := ⟨flag.publicKey, flag.seated, flag.current⟩
  moved view now force parentTime flag := by
    by_cases moves : force = true ∨ (view.calculateOffsetTime view.viewStartTime now).1 > 0
    · refine ⟨?_, ?_, dutyCurrent_changeView moves⟩
      · rw [publicKey_changeView, flag.publicKey]
      · rw [producers_changeView, flag.seated]
    rw [changeView_unmoved moves]
    exact flag
  reset view height flag := by
    refine ⟨flag.publicKey, ?_, dutyCurrent_refreshDuty _⟩
    exact (Producers.producers_updateDutyIndex _ height).trans flag.seated

end Flag

namespace DutyOp

variable {setup : Setup} {moment : Moment} {node : Node}

theorem flagOf_perform (op : DutyOp) (current : DutyCurrent node.view ∨ op.Recomputes node)
    (keeps : op.KeepsFlag node) :
    FlagOf node.view.publicKey (op.reseated node).producers
      (op.perform setup moment node).view := by
  cases op with
  | updateProducers keys totalCount spvHeight =>
    have flag := current.resolve_right id
    have duty := keeps.sameDuty.resolve_left id
    exact ⟨rfl, rfl, flag.trans duty.symm⟩
  | changeCurrentProducers changeHeight spvHeight =>
    have flag := current.resolve_right id
    have duty := keeps.sameDuty.resolve_left id
    exact ⟨rfl, rfl, flag.trans duty.symm⟩
  | updateDutyIndex height =>
    exact ⟨rfl, Producers.producers_updateDutyIndex _ height, dutyCurrent_refreshDuty _⟩
  | changeView now force parentTime =>
    refine flagOf_kept.changeView_of_changed ?_ _
    refine ⟨publicKey_changeView _ _ _,
      congrArg Producers.producers (producers_changeView _ _ _ _), ?_⟩
    by_cases moves : force = true ∨
        (node.view.calculateOffsetTime node.view.viewStartTime now).1 > 0
    · exact dutyCurrent_changeView moves
    rw [changeView_unmoved moves]
    exact current.resolve_right moves
  | resetConsensus height =>
    by_cases running : node.view.isRunning = true
    · unfold perform Node.resetConsensus
      dsimp only
      rw [if_pos running, Node.changeView_forced_stopped rfl]
      refine ⟨publicKey_changeView _ _ _, ?_, dutyCurrent_changeView (.inl rfl)⟩
      dsimp only
      rw [producers_changeView]
      exact Producers.producers_updateDutyIndex _ height
    · unfold perform Node.resetConsensus
      dsimp only
      rw [if_neg running]
      exact ⟨rfl, rfl, current.resolve_right running⟩
  | finishedProposal height sealHash headerTime =>
    by_cases finishes : node.dispatcher.finishedHeight < height
    · unfold perform Node.finishedProposal
      dsimp only
      rw [if_neg (UInt64.not_le.2 finishes), Node.changeView_forced_stopped rfl]
      refine ⟨publicKey_changeView _ _ _, ?_, dutyCurrent_changeView (.inl rfl)⟩
      dsimp only
      rw [producers_changeView]
      exact Producers.producers_updateDutyIndex _ height
    · unfold perform Node.finishedProposal
      dsimp only
      rw [if_pos (UInt64.not_lt.1 finishes)]
      exact ⟨rfl, rfl, current.resolve_right finishes⟩
  | recover status =>
    unfold perform
    dsimp only
    rw [Node.view_recoverFromConsensusStatus]
    refine ⟨rfl, ?_, dutyCurrent_refreshDuty _⟩
    unfold ConsensusView.refreshDuty Node.recoveredTable
    dsimp only
    split
    · exact Producers.producers_updateDutyIndex _ _
    · rfl

end DutyOp

def dutyStep (setup : Setup) (node : Node) (arrival : Moment × DutyOp) : Node :=
  arrival.2.perform setup arrival.1 node

structure FlagSettled (node : Node) : Prop where
  current : DutyCurrent node.view
  distinguishable : Distinguishable node.view.publicKey node.view.producers.producers

theorem flagSettled_dutyStep {setup : Setup} {node : Node} {arrival : Moment × DutyOp}
    (current : DutyCurrent node.view ∨ arrival.2.Recomputes node)
    (keeps : arrival.2.KeepsFlag node) : FlagSettled (dutyStep setup node arrival) := by
  have flag := @DutyOp.flagOf_perform setup arrival.1 node arrival.2 current keeps
  refine ⟨flag.current, ?_⟩
  rw [dutyStep, flag.publicKey, flag.seated]
  exact keeps.distinguishable

/--
A new node that is not on duty, or whose first operation sets the flag, has the
right flag after every operation, as long as each operation sets the flag anew
or keeps the duty, and the node's key differs from an empty seat.
-/
theorem dutyRight_of_run (setup : Setup) (key : Bytes) (producers : Producers)
    (first : Moment × DutyOp) (rest : List (Moment × DutyOp))
    (start :
      (Node.new key producers).view.producerIsOnDuty key = false ∨
        first.2.Recomputes (Node.new key producers))
    (along : EventRuns.Along (fun node arrival => arrival.2.KeepsFlag node) (dutyStep setup)
      (Node.new key producers) (first :: rest)) :
    DutyRight (EventRuns.run (dutyStep setup) (Node.new key producers) (first :: rest)).view := by
  have opened : FlagSettled (dutyStep setup (Node.new key producers) first) :=
    flagSettled_dutyStep (start.imp_left Eq.symm) along.1
  have settled : FlagSettled (EventRuns.run (dutyStep setup)
      (dutyStep setup (Node.new key producers) first) rest) :=
    EventRuns.run_invariant (fun _ _ keeps before =>
        flagSettled_dutyStep (.inl before.current) keeps)
      along.2 opened
  exact settled.current.right settled.distinguishable

namespace Sample

def seatKept : List (Moment × DutyOp) :=
  [(at_ 1, .updateDutyIndex 2), (at_ 1, .updateProducers [[4], [3], [2], [1]] 4 0),
    (at_ 1, .changeView 0 true 0)]

end Sample

open Sample

/-- Storing the same producers again keeps the flag right. -/
theorem dutyRight_of_run_seatKept :
    DutyRight (EventRuns.run (dutyStep (setup [4])) (Node.new [4] fourProducers) seatKept).view :=
  dutyRight_of_run (setup [4]) [4] fourProducers (at_ 1, .updateDutyIndex 2)
    [(at_ 1, .updateProducers [[4], [3], [2], [1]] 4 0), (at_ 1, .changeView 0 true 0)]
    (.inr trivial)
    ⟨⟨.inl (by decide), .inl trivial⟩, ⟨.inl (by decide), .inr (by decide +kernel)⟩,
      ⟨.inl (by decide), .inl (.inl rfl)⟩, trivial⟩

/--
The fourth producer keeps its duty flag when other producers take over, a node
without key is on duty for an empty list, and a new node with the first seat
does not learn that it is on duty from a view change that moves nothing.
-/
theorem duty_flag_stale :
    (let view := (EventRuns.run (dutyStep (setup [4])) (Node.new [4] fourProducers)
        [(at_ 1, .updateDutyIndex 2), (at_ 1, .updateProducers [[5], [6]] 2 0)]).view;
      view.isDposOnDuty = true ∧ view.producers.getNextOnDutyProducer view.viewOffset = some [6] ∧
        ¬DutyRight view) ∧
    (let view := (EventRuns.run (dutyStep (setup []))
        (Node.new [] { fourProducers with producers := [] }) [(at_ 1, .updateDutyIndex 2)]).view;
      view.isDposOnDuty = true ∧ ¬DutyRight view) ∧
    (let view := (EventRuns.run (dutyStep (setup [1])) (Node.new [1] fourProducers)
        [(at_ 1, .changeView 0 false 0)]).view;
      view.isDposOnDuty = false ∧ view.producers.getNextOnDutyProducer view.viewOffset = some [1] ∧
        ¬DutyRight view) := by
  refine ⟨⟨by decide +kernel, by decide +kernel, fun right => ?_⟩,
    ⟨by decide +kernel, fun right => ?_⟩, ⟨by decide +kernel, by decide +kernel, fun right => ?_⟩⟩
  · exact absurd right.current (by unfold DutyCurrent; decide +kernel)
  · exact absurd (right.vacant (.inr rfl)) (by decide +kernel)
  · exact absurd right.current (by unfold DutyCurrent; decide +kernel)

end EscSideChain.Pbft
