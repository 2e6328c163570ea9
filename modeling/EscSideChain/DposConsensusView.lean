import EscSideChain.DposProducers

namespace EscSideChain.Dpos

/-!
# The consensus view

`dpos/consensusview.go`: which view a node is in, when the view ends, and who
is on duty.  Times are nanoseconds since the epoch.  The listener that
`ChangeView` calls at its end belongs to the node; `changeView` says whether
the call is made.
-/

def consensusReady : UInt32 := 0

def consensusRunning : UInt32 := 1

/-- A whole number of seconds as a time, `time.Unix(int64(seconds), 0)`. -/
def timeOfSeconds (seconds : UInt64) : Int :=
  seconds.toInt64.toInt * 1000000000

/-- The `uint64` of the Unix seconds of a time. -/
def unixSeconds (time : Int) : UInt64 :=
  UInt64.ofInt (time / 1000000000)

/-- `Time.Sub`, which saturates at the limits of a duration. -/
def timeSub (later earlier : Int) : Int :=
  max (-(2 ^ 63)) (min (later - earlier) (2 ^ 63 - 1))

/-- The state of `dpos.ConsensusView`. -/
structure ConsensusView where
  consensusStatus : UInt32
  viewOffset : UInt32
  publicKey : Bytes
  signTolerance : Int
  viewStartTime : Int
  viewChangeTime : Int
  isDposOnDuty : Bool
  producers : Producers

namespace ConsensusView

/-- `NewConsensusView`; the change time starts at Go's zero time. -/
def new (tolerance : Int) (account : Bytes) (producers : Producers) : ConsensusView where
  consensusStatus := consensusReady
  viewOffset := 0
  publicKey := account
  signTolerance := tolerance
  viewStartTime := 0
  viewChangeTime := -62135596800000000000
  isDposOnDuty := false
  producers := producers

def isRunning (view : ConsensusView) : Bool :=
  view.consensusStatus = consensusRunning

def setRunning (view : ConsensusView) : ConsensusView :=
  { view with consensusStatus := consensusRunning }

def setReady (view : ConsensusView) : ConsensusView :=
  { view with consensusStatus := consensusReady }

def resetViewOffset (view : ConsensusView) : ConsensusView :=
  { view with viewOffset := 0 }

/-- `SetChangViewTime`, also under the name `ResetView`. -/
def resetView (view : ConsensusView) (parentTime : UInt64) : ConsensusView :=
  { view with
    viewChangeTime := timeOfSeconds parentTime + view.signTolerance
    viewStartTime := timeOfSeconds parentTime }

/-- `ProducerIsOnDuty`; a missing producer equals an empty account. -/
def producerIsOnDuty (view : ConsensusView) (account : Bytes) : Bool :=
  (view.producers.getNextOnDutyProducer view.viewOffset).getD [] = account

def refreshDuty (view : ConsensusView) : ConsensusView :=
  { view with isDposOnDuty := view.producerIsOnDuty view.publicKey }

def updateDutyIndex (view : ConsensusView) (height : UInt64) : ConsensusView :=
  refreshDuty { view with producers := view.producers.updateDutyIndex height }

def setWorkingHeight (view : ConsensusView) (height : UInt64) : ConsensusView :=
  { view with producers := view.producers.setWorkingHeight height }

/--
`calculateOffsetTime`: how many whole views have passed and how far the next
one has got.  Go divides towards zero, and the count wraps as `uint32`.
-/
def calculateOffsetTime (view : ConsensusView) (startTime now : Int) : UInt32 × Int :=
  let duration := timeSub now startTime
  (UInt32.ofInt (duration.tdiv view.signTolerance), duration.tmod view.signTolerance)

def advance (view : ConsensusView) (now : Int) : ConsensusView :=
  let passed := view.calculateOffsetTime view.viewStartTime now
  let restarted :=
    if passed.1 > 0 then view.resetView (unixSeconds (now - passed.2))
    else view
  { restarted with viewOffset := restarted.viewOffset + passed.1 }

/--
`ChangeView` up to the call of the listener, and whether the listener is
called.
-/
def changeView (view : ConsensusView) (now : Int) (force : Bool) (parentTime : UInt64) :
    ConsensusView × Bool :=
  if force then (((view.advance now).resetViewOffset.resetView parentTime).refreshDuty, true)
  else if (view.calculateOffsetTime view.viewStartTime now).1 > 0 then
    ((view.advance now).refreshDuty, true)
  else (view.advance now, false)

/-! What the operations leave alone. -/

section Frame

variable (view : ConsensusView)

@[simp] theorem consensusStatus_advance (now : Int) :
    (view.advance now).consensusStatus = view.consensusStatus := by
  unfold advance
  dsimp only
  split <;> rfl

@[simp] theorem isRunning_changeView (now : Int) (force : Bool) (parentTime : UInt64) :
    (view.changeView now force parentTime).1.isRunning = view.isRunning := by
  unfold changeView isRunning
  split_ifs <;>
    simp [resetView, refreshDuty, resetViewOffset]

theorem viewOffset_advance (now : Int) :
    (view.advance now).viewOffset = view.viewOffset +
        (view.calculateOffsetTime view.viewStartTime now).1 := by
  unfold advance
  dsimp only
  split <;> rfl

end Frame

theorem viewOffset_changeView (view : ConsensusView) (now : Int) (parentTime : UInt64) :
    (view.changeView now false parentTime).1.viewOffset = view.viewOffset +
        (view.calculateOffsetTime view.viewStartTime now).1 := by
  rw [← viewOffset_advance]
  simp only [changeView, Bool.false_eq_true, ↓reduceIte]
  split <;> rfl

theorem changeView_called (view : ConsensusView) (now : Int) (parentTime : UInt64) :
    (view.changeView now false parentTime).2 =
      decide ((view.calculateOffsetTime view.viewStartTime now).1 > 0) := by
  simp only [changeView, Bool.false_eq_true, ↓reduceIte]
  split
  · next passed => simp [passed]
  · next passed => simp [passed]

end ConsensusView

end EscSideChain.Dpos
