import EscSideChain.RechargeSending

namespace EscSideChain.Spv

open Dpos SmallCross

/-!
# The rounds of the goroutine over the queue

Transactions are put into the queue and the goroutine makes one round after
another, each in surroundings of its own in which any of the calls may fail.  The
lists of failed recharges belong to the whole node, so between the rounds they may
change in any way.
-/

namespace Queue

def next (queue : Queue) : Option UInt64 :=
  let index := getUnTransactionNum queue.db .index
  let seek := counterOf queue.db .seek
  if index = missingNumber ∨ seek = index then none else some seek

def head (queue : Queue) : Option Bytes :=
  queue.next.bind fun seek => queue.db (QueueKey.entry seek).text

/-- `setNextSeek`, for the transaction that stood under the number. -/
def setNextSeek (queue : Queue) (seek : UInt64) (txHash : Option Bytes) : Queue :=
  let removed := queue.put (.entry seek) none
  { removed.put .seek (some (encodeUnTransactionNumber (seek + 1))) with
    left := queue.left ++ txHash.toList }

end Queue

structure SendingState where
  queue : Queue
  failed : FailedRecharges

/--
What happens to them: a call of `UpTransactionIndex`, a change of the lists by the
rest of the node, and a round of the goroutine.
-/
inductive SendingEvent where
  | up (elaTx : Bytes)
  | relist (failed : FailedRecharges)
  | round (node : SendingNode)

namespace SendingState

section Functions

variable (format : ElaFormat) (codec : ListFormat)
variable (writer : RecordWriter) (ela : ElaLibrary)

def afterRound (state : SendingState) (node : SendingNode) : SendingState :=
  match state.queue.next with
  | none => state
  | some seek =>
    match state.queue.db (QueueKey.entry seek).text with
    | none => { state with queue := state.queue.setNextSeek seek none }
    | some txHash =>
      let result := node.round format codec writer ela state.failed txHash
      { queue :=
          if result.advanced then state.queue.setNextSeek seek (some txHash)
          else state.queue
        failed := result.failed }

def step (state : SendingState) : SendingEvent → SendingState
  | .up elaTx => { state with queue := state.queue.upTransactionIndex elaTx }
  | .relist failed => { state with failed := failed }
  | .round node => state.afterRound format codec writer ela node

/--
Every transaction that leaves the queue has been accepted, or is complete, or is
recorded as failed.  `UpTransactionIndex` has cut a leading 0x off.
-/
def AccountsFor (state : SendingState) (event : SendingEvent) : Prop :=
  ∀ id, strip0x id = id → (state.step format codec writer ela event).queue.left =
      state.queue.left ++ [id] →
    ∃ node, event = .round node ∧
      ((node.round format codec writer ela state.failed id).accepted.isSome = true ∨
        node.Complete id ∨ node.isFailed format codec
          (state.step format codec writer ela event).failed id = .ok true)

/--
A round finds a transaction that is complete or recorded as failed already, or one
that none of the failures drops.
-/
def DropsNothing (state : SendingState) : SendingEvent → Prop
  | .up _ => True
  | .relist _ => True
  | .round node =>
    ∀ id ∈ state.queue.head, strip0x id = id → node.Complete id ∨
        node.isFailed format codec state.failed id = .ok true ∨
        ¬node.Drops format codec writer ela state.failed id

end Functions

section Steps

variable {format : ElaFormat} {codec : ListFormat}
variable {writer : RecordWriter} {ela : ElaLibrary}
variable {state : SendingState} {node : SendingNode}

theorem left_afterRound_of_nothing (nothing : state.queue.head = none) :
    (state.afterRound format codec writer ela node).queue.left = state.queue.left := by
  unfold afterRound
  cases isNext : state.queue.next with
  | none => rfl
  | some seek =>
    have missing : state.queue.db (QueueKey.entry seek).text = none := by
      rw [Queue.head, isNext] at nothing
      exact nothing
    simp [missing, Queue.setNextSeek]

theorem afterRound_of_head {txHash : Bytes} (found : state.queue.head = some txHash) :
    (state.afterRound format codec writer ela node).failed =
        (node.round format codec writer ela state.failed txHash).failed ∧
      (state.afterRound format codec writer ela node).queue.left = state.queue.left ++
          if (node.round format codec writer ela state.failed
              txHash).advanced then [txHash] else [] := by
  obtain ⟨seek, isNext, there⟩ := Option.bind_eq_some_iff.1 found
  unfold afterRound
  simp only [isNext, there, true_and]
  split_ifs
  · rfl
  · simp

theorem accountsFor_round_iff :
    state.AccountsFor format codec writer ela (.round node) ↔
      state.DropsNothing format codec writer ela (.round node) := by
  unfold AccountsFor DropsNothing step
  cases found : state.queue.head with
  | none => simp [left_afterRound_of_nothing found]
  | some txHash =>
    obtain ⟨failed, left⟩ := @afterRound_of_head format codec writer ela state node txHash found
    simp only [failed, left, Option.mem_some_iff, forall_eq',
      SendingEvent.round.injEq, exists_eq_left', List.append_cancel_left_eq]
    constructor
    · intro accounts bare
      refine (SendingNode.round_accounted_iff format codec writer ela
        node state.failed txHash bare).1 fun advanced => ?_
      exact accounts txHash bare (if_pos advanced)
    · intro kept id bare leaves
      split_ifs at leaves with advanced
      · obtain rfl : txHash = id := List.singleton_inj.1 leaves
        exact (SendingNode.round_accounted_iff format codec writer ela
          node state.failed txHash bare).2 (kept bare) advanced

theorem accountsFor_iff (event : SendingEvent) :
    state.AccountsFor format codec writer ela event ↔
      state.DropsNothing format codec writer ela event := by
  cases event with
  | up elaTx => simp [AccountsFor, DropsNothing, step, Queue.upTransactionIndex, Queue.put]
  | relist failed => simp [AccountsFor, DropsNothing, step]
  | round node => exact accountsFor_round_iff

end Steps

/--
In a run every transaction that leaves the queue is accounted for exactly if no
round drops its transaction.
-/
theorem rounds_accounted_iff (format : ElaFormat) (codec : ListFormat) (writer : RecordWriter)
    (ela : ElaLibrary) (state : SendingState) (events : List SendingEvent) :
    EventRuns.Along (AccountsFor format codec writer ela)
        (step format codec writer ela) state events ↔
      EventRuns.Along (DropsNothing format codec writer ela)
        (step format codec writer ela) state events := by
  constructor
  · exact EventRuns.along_imp fun _ event => (accountsFor_iff event).1
  · exact EventRuns.along_imp fun _ event => (accountsFor_iff event).2

end SendingState

namespace Sample

def unreachableStorage : RoundClient :=
  { reachableClient with
    storageFails := fun call =>
      if call = 0 then some "connection refused" else none }

def fullPool : RoundClient :=
  { reachableClient with
    sendPublicTransaction := fun _ =>
      .error "transaction pool limit reached" }

def unknownHeight : RoundClient :=
  { reachableClient with heightFails := some "connection refused" }

def sendingStart : SendingState where
  queue := Queue.initial
  failed := FailedRecharges.initial

def putAndSend (client : RoundClient) (elaTx : Bytes) : List SendingEvent :=
  [.up elaTx, .round (sendingNode client)]

def sendingStep : SendingState → SendingEvent → SendingState :=
  SendingState.step strokes tallies SmallCross.Sample.oneIdWriter fixedLibrary

end Sample

open Sample

namespace SendingState

/-- When all calls succeed, the transaction is accepted and leaves the queue. -/
theorem rounds_accounted_reachable :
    (EventRuns.run sendingStep sendingStart
        (putAndSend reachableClient firstId)).queue.left = [firstId] ∧
      EventRuns.Along (DropsNothing strokes tallies SmallCross.Sample.oneIdWriter fixedLibrary)
        sendingStep sendingStart (putAndSend reachableClient firstId) := by
  have taken : (EventRuns.run sendingStep sendingStart
      (putAndSend reachableClient firstId)).queue.left = [firstId] := by
    decide +kernel
  refine ⟨taken, (rounds_accounted_iff strokes tallies
    SmallCross.Sample.oneIdWriter fixedLibrary sendingStart
    (putAndSend reachableClient firstId)).1 ⟨?_, ?_, trivial⟩⟩
  · intro id _ leaves
    cases leaves
  · intro id _ leaves
    obtain rfl : firstId = id := List.singleton_inj.1 (taken.symm.trans leaves)
    exact ⟨_, rfl, .inl (by decide +kernel)⟩

theorem not_accounted_putAndSend {client : RoundClient} {elaTx : Bytes}
    (bare : strip0x elaTx = elaTx)
    (taken : (EventRuns.run sendingStep sendingStart
      (putAndSend client elaTx)).queue.left = [elaTx])
    (unaccounted :
      ¬(((sendingNode client).round strokes tallies SmallCross.Sample.oneIdWriter fixedLibrary
            FailedRecharges.initial elaTx).accepted.isSome = true ∨
        (sendingNode client).Complete elaTx ∨
        (sendingNode client).isFailed strokes tallies
          (EventRuns.run sendingStep sendingStart
            (putAndSend client elaTx)).failed elaTx = .ok true)) :
    ¬EventRuns.Along (AccountsFor strokes tallies SmallCross.Sample.oneIdWriter fixedLibrary)
      sendingStep sendingStart (putAndSend client elaTx) := by
  rintro ⟨-, second, -⟩
  obtain ⟨node, isRound, accounted⟩ := second elaTx bare taken
  cases isRound
  exact unaccounted accounted

/--
A round takes a transaction out that is neither accepted nor complete nor
failed: because `StorageAt` fails, because the transaction cannot be sent, or
because the height is not known to list it under.
-/
theorem rounds_drop_deposit :
    ¬EventRuns.Along (AccountsFor strokes tallies SmallCross.Sample.oneIdWriter fixedLibrary)
        sendingStep sendingStart (putAndSend unreachableStorage firstId) ∧
      ¬EventRuns.Along (AccountsFor strokes tallies SmallCross.Sample.oneIdWriter fixedLibrary)
        sendingStep sendingStart (putAndSend fullPool firstId) ∧
      ¬EventRuns.Along (AccountsFor strokes tallies SmallCross.Sample.oneIdWriter fixedLibrary)
        sendingStep sendingStart (putAndSend unknownHeight secondId) := by
  refine ⟨?_, ?_, ?_⟩ <;>
    refine not_accounted_putAndSend (by decide) (by decide +kernel) ?_ <;>
    unfold SendingNode.Complete <;>
    decide +kernel

end SendingState

end EscSideChain.Spv
