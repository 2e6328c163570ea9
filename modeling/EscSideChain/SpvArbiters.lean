import EscSideChain.ByteStrings

namespace EscSideChain.Spv

/-!
# Producers and arbiters read from the main chain

`spv.GetProducers` and `spv.GetArbiters`: which public keys a side-chain block
is checked against, and how many seats count for a threshold.  The SPV service
and the consensus engine are the records `SpvService` and `PbftEngine` of the
answers the code asks them for.
-/

inductive ConsensusAlgorithm where
  | dpos
  | pow
  deriving DecidableEq

structure SpvService where
  blockListenerHeight : Option UInt32
  bestHeaderHeight : Except String UInt32
  getConsensusAlgorithm : UInt32 → Except String ConsensusAlgorithm
  getArbiters : UInt32 → Except String (List Bytes × List Bytes)

def getSpvHeight (service : Option SpvService) : UInt64 :=
  match service with
  | none => 0
  | some spv =>
    match spv.blockListenerHeight with
    | none => 0
    | some listened =>
      match spv.bestHeaderHeight with
      | .error _ => listened.toUInt64
      | .ok best => best.toUInt64

/-- `GetCurrentConsensusMode`, which reads the mode at the local SPV tip. -/
def getCurrentConsensusMode (service : Option SpvService) : ConsensusAlgorithm :=
  match service with
  | none => .dpos
  | some spv =>
    match spv.getConsensusAlgorithm (getSpvHeight service).toUInt32 with
    | .error _ => .dpos
    | .ok mode => mode

/-- `SafeAdd` on non-negative `int` arguments. -/
def safeAdd (first second : Nat) : Except String Nat :=
  if first + second < 2 ^ 63 then .ok (first + second)
  else .error "safe add overflow"

def zeroKey : Bytes :=
  List.replicate 33 0

/-- The seats that `GetProducers` keeps. -/
def isSeated (arbiter : Bytes) : Bool :=
  0 < arbiter.length && arbiter ≠ zeroKey

/--
`GetProducers`: the seated council keys and the number of council seats.  Only
council members take part (`IsOnlyCRConsensus`), and in proof-of-work mode the
answer is the empty list.
-/
def getProducers (service : Option SpvService) (elaHeight : UInt64) :
    Except String (List Bytes × Nat) :=
  match service with
  | none => .error "spv is not start"
  | some spv =>
    if getCurrentConsensusMode service = .pow then .ok ([], 0)
    else
      match spv.getArbiters elaHeight.toUInt32 with
      | .error reason => .error reason
      | .ok (crcArbiters, _) =>
        match safeAdd crcArbiters.length 0 with
        | .error reason => .error reason
        | .ok totalCount => .ok (crcArbiters.filter isSeated, totalCount)

structure PbftEngine where
  currentBlockNonce : UInt64
  blockNonceByHeight : UInt64 → Option UInt64
  configProducers : List Bytes

/-- `GetArbiters`, with the keys as hexadecimal text. -/
def getArbiters (service : Option SpvService) (engine : Option PbftEngine) :
    Except String (List Bytes × Nat) :=
  match engine with
  | none => .error "pbftEngine is nil"
  | some pbft =>
    if pbft.currentBlockNonce = 0 then .ok (pbft.configProducers, pbft.configProducers.length)
    else
      match getProducers service pbft.currentBlockNonce with
      | .error reason => .error reason
      | .ok (list, totalProducers) => .ok (list.map bytes2Hex, totalProducers)

/-- `smallcrosstx.GetMaxArbitersSign` and `withdrawfailedtx.getMaxArbitersSign`. -/
def getMaxArbitersSign (total : Nat) : Nat :=
  total * 2 / 3 + 1

theorem getMaxArbitersSign_pos (total : Nat) : 0 < getMaxArbitersSign total :=
  Nat.succ_pos _

end EscSideChain.Spv
