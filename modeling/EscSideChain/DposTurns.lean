import EscSideChain.DposConsensusView
import EscSideChain.SpvArbiters
import Mathlib.Data.List.Sort

namespace EscSideChain

/-!
# Changing turns

The producers of a turn come into the table in two ways.  The keys of the next
turn that the SPV client has seen, `DumpNextDposInfo` of `spv/blocklistener.go`,
are stored by `UpdateNextProducers` and become current by
`ChangeCurrentProducers` (`dpos/producers.go`).  A node that catches up reads the
keys by `GetProducers` and stores them by `UpdateProducers`.
-/

namespace Spv

/-- The variable `IsOnlyCRConsensus`, which nothing sets. -/
def isOnlyCRConsensus : Bool := true

structure NextTurnDPOSInfo where
  workingHeight : UInt32
  crPublicKeys : List Bytes
  dposPublicKeys : List Bytes

/-- What `InitNextTurnDposInfo` and `IsNexturnBlock` store of a turn. -/
def nextTurnDposInfo (workingHeight : UInt32) (crcArbiters normalArbiters : List Bytes) :
    NextTurnDPOSInfo where
  workingHeight := workingHeight
  crPublicKeys := crcArbiters
  dposPublicKeys := if isOnlyCRConsensus then [] else normalArbiters

/-- `copy(pid[:], key)` into a new `peer.PID`, an array of 33 bytes. -/
def pidOf (key : Bytes) : Bytes :=
  key.take 33 ++ List.replicate (33 - key.length) 0

/-- One of the two loops of `DumpNextDposInfo`. -/
def dumpKeys (keys : List Bytes) : List Bytes :=
  (keys.filter fun arbiter => 0 < arbiter.length).map pidOf

def dumpNextDposInfo (info : NextTurnDPOSInfo) : List Bytes :=
  dumpKeys info.crPublicKeys ++ dumpKeys info.dposPublicKeys

def getTotalProducersCount (info : NextTurnDPOSInfo) : Nat :=
  match safeAdd info.crPublicKeys.length info.dposPublicKeys.length with
  | .error _ => 0
  | .ok count => count

theorem pidOf_of_length {key : Bytes} (full : key.length = 33) : pidOf key = key := by
  rw [pidOf, full, Nat.sub_self, List.replicate_zero,
    List.append_nil, List.take_of_length_le full.le]

end Spv

namespace Dpos

/-- `sort.Slice` with `bytes.Compare`. -/
def sortKeys (keys : List Bytes) : List Bytes :=
  keys.insertionSort (· ≤ ·)

@[simp] theorem length_sortKeys (keys : List Bytes) : (sortKeys keys).length = keys.length :=
  List.length_insertionSort _ keys

@[simp] theorem mem_sortKeys {key : Bytes} {keys : List Bytes} : key ∈ sortKeys keys ↔ key ∈ keys :=
  (List.perm_insertionSort _ keys).mem_iff

namespace Producers

def updateProducers (table : Producers) (producers : List Bytes) (totalCount : Nat)
    (spvHeight : UInt64) : Producers :=
  { table with
    producers := producers
    totalProducers := totalCount
    spvHeight := spvHeight }

/-- `ChangeCurrentProducers`, which leaves a seat of zeros without a key. -/
def changeCurrentProducers (table : Producers) (changeHeight spvHeight : UInt64) : Producers :=
  { table with
    producers := table.nextProducers.map fun signer =>
      if signer = Spv.zeroKey then [] else signer
    workingHeight := changeHeight
    totalProducers := table.nextTotalProducers
    spvHeight := spvHeight }

def updateNextProducers (table : Producers) (producers : List Bytes)
    (totalCount : Nat) : Producers :=
  { table with
    nextProducers := sortKeys producers
    nextTotalProducers := totalCount }

end Producers

namespace ConsensusView

def updateProducers (view : ConsensusView) (producers : List Bytes) (totalCount : Nat)
    (spvHeight : UInt64) : ConsensusView :=
  { view with
    producers := view.producers.updateProducers (sortKeys producers) totalCount spvHeight }

def changeCurrentProducers (view : ConsensusView)
    (changeHeight spvHeight : UInt64) : ConsensusView :=
  { view with
    producers := view.producers.changeCurrentProducers changeHeight spvHeight }

def updateNextProducers (view : ConsensusView) (producers : List Bytes)
    (totalCount : Nat) : ConsensusView :=
  { view with
    producers := view.producers.updateNextProducers producers totalCount }

/-- `IsSameProducers`, which sorts the next producers in place. -/
def isSameProducers (view : ConsensusView) (curProducers : List Bytes) : ConsensusView × Bool :=
  let next := view.producers.nextProducers
  if curProducers.length ≠ next.length then (view, false)
  else
    ({ view with
        producers := { view.producers with
          nextProducers := sortKeys next } },
      sortKeys curProducers = sortKeys next)

/-- `IsCurrentProducers`, which sorts the current producers in place. -/
def isCurrentProducers (view : ConsensusView) (curProducers : List Bytes) : ConsensusView × Bool :=
  let current := view.producers.producers
  if current.length = 0 then (view, false)
  else if curProducers.length ≠ current.length then (view, false)
  else
    ({ view with
        producers := { view.producers with
          producers := sortKeys current } },
      sortKeys curProducers = sortKeys current)

end ConsensusView

end Dpos

end EscSideChain
