import EscSideChain.RechargeFaults
import EscSideChain.SmallCrossCollection
import EscSideChain.WithdrawRefund

namespace EscSideChain.Pbft

open Dpos Spv

/-!
# Messages of peers that stop a producer

The handlers of `consensus/pbft/network.go` for a block, a small cross-chain
transaction and a failed withdrawal, followed with regard to what keeps them from
returning.  The content of the messages is chosen by the peer.
-/

inductive Crash where
  | panic (text : String)
  | fault (fault : Fault)
  deriving DecidableEq

/-! ## Blocks -/

structure BlockReader (Block : Type) where
  decodeRLP : Bytes → Except String Block
  number : Block → Nat
  hash : Block → Hash
  parentHash : Block → Hash

/--
The chain and the network when the handler has waited for the time of the block.
`InsertChain` and the function that handles its error may themselves not return.
-/
structure ReceivingNode (Block : Type) where
  hasBlock : Hash → UInt64 → Bool
  hasBlockByHash : Hash → Bool
  currentNumber : Nat
  activePeers : Nat
  hasProducerMajorityCount : Nat → Bool
  insertChain : Block → Except Crash (Option String)
  onInsertChainError : Option (Block → String → Except Crash Unit)

inductive BlockReply where
  | unconfirmed
  | unknownAncestor (announces : Bool)
  | tooHigh
  | known
  | refused (err : String)
  | inserted (inventories : List Hash)

section Blocks

variable {Block : Type}
variable (reader : BlockReader Block) (node : ReceivingNode Block)

def isTooHigh (block : Block) : Bool :=
  node.currentNumber ≤ reader.number block && 1 < UInt64.ofNat (reader.number block) -
      UInt64.ofNat node.currentNumber

/-- The part of `OnBlockReceived` that inserts the block. -/
def insertReceived (block : Block) : Except Crash BlockReply :=
  match node.insertChain block with
  | .error crash => .error crash
  | .ok none => .ok (.inserted [reader.parentHash block, reader.hash block])
  | .ok (some err) =>
    match node.onInsertChainError with
    | none => .ok (.refused err)
    | some onError =>
      match onError block err with
      | .error crash => .error crash
      | .ok () => .ok (.refused err)

/-- The part of `OnBlockReceived` after the block was decoded. -/
def importReceived (block : Block) : Except Crash BlockReply :=
  if !node.hasBlock (reader.parentHash block) (UInt64.ofNat (reader.number block) - 1) then
    .ok (.unknownAncestor (!node.hasProducerMajorityCount node.activePeers))
  else if isTooHigh reader node block then .ok .tooHigh
  else if node.hasBlockByHash (reader.hash block) then .ok .known
  else insertReceived reader node block

def onBlockReceived (data : Bytes) (confirmed : Bool) : Except Crash BlockReply :=
  if !confirmed then .ok .unconfirmed
  else
    match reader.decodeRLP data with
    | .error err => .error (.panic ("OnBlock Decode Block Msg error:" ++ err))
    | .ok block => importReceived reader node block

/-- The block gets as far as `InsertChain`. -/
structure Imports (block : Block) : Prop where
  parent : node.hasBlock (reader.parentHash block) (UInt64.ofNat (reader.number block) - 1) = true
  next : isTooHigh reader node block = false
  new : node.hasBlockByHash (reader.hash block) = false

/-- `InsertChain` returns for a block, and so does the handler of its error. -/
def ImportReturns (block : Block) : Prop :=
  ∃ outcome, node.insertChain block = .ok outcome ∧
    ∀ err ∈ outcome, ∀ onError ∈ node.onInsertChainError, onError block err = .ok ()

def BlockMsgSafe (data : Bytes) (confirmed : Bool) : Prop :=
  confirmed = true → ∃ block, reader.decodeRLP data = .ok block ∧
      (Imports reader node block → ImportReturns node block)

variable {reader node}

theorem insertReceived_returns_iff {block : Block} :
    (∃ reply, insertReceived reader node block = .ok reply) ↔ ImportReturns node block := by
  unfold insertReceived ImportReturns
  cases node.insertChain block with
  | error crash => simp
  | ok outcome =>
    cases outcome with
    | none => simp
    | some err =>
      cases node.onInsertChainError with
      | none => simp
      | some onError =>
        cases handled : onError block err with
        | error crash => simp [handled]
        | ok done => simp [handled]

theorem importReceived_returns_iff {block : Block} :
    (∃ reply, importReceived reader node block = .ok reply) ↔
      (Imports reader node block → ImportReturns node block) := by
  unfold importReceived
  split
  · next orphan =>
      refine iff_of_true ⟨_, rfl⟩ fun imports => ?_
      simp [imports.parent] at orphan
  next hasParent =>
    split
    · next high =>
        refine iff_of_true ⟨_, rfl⟩ fun imports => ?_
        simp [imports.next] at high
    next notHigh =>
      split
      · next known =>
          refine iff_of_true ⟨_, rfl⟩ fun imports => ?_
          simp [imports.new] at known
      next new =>
        have imports : Imports reader node block :=
          ⟨by simpa using hasParent, by simpa using notHigh, by simpa using new⟩
        rw [insertReceived_returns_iff, forall_prop_of_true imports]

theorem onBlockReceived_returns_iff (data : Bytes) (confirmed : Bool) :
    (∃ reply, onBlockReceived reader node data confirmed = .ok reply) ↔
      BlockMsgSafe reader node data confirmed := by
  unfold onBlockReceived BlockMsgSafe
  cases confirmed with
  | false => simp
  | true =>
    cases reader.decodeRLP data with
    | error err => simp
    | ok block => simp [importReceived_returns_iff]

end Blocks

/-! ## Small cross-chain transactions -/

section SmallCross

variable {format : ElaFormat}

/--
How the main-chain library reads a transaction: first its type, for which
`GetTransactionByBytes` makes an empty transaction, and then its content.
-/
structure TransactionReader (format : ElaFormat) where
  getTransactionByBytes : Bytes → Except String ElaTx
  deserialize : ElaTx → Bytes → Except String ElaTx
  composed : ∀ buff, format.deserializeTransaction buff =
    getTransactionByBytes buff >>= fun txn => deserialize txn buff

variable (reader : TransactionReader format)

/--
`GetSmallCrossTxMsg`, which slices the id, and slices what is left of it again when
it reads a stored transaction.
-/
def getSmallCrossTxMsgFault (db : SmallCross.Db) (elaHash : Bytes) : Option Fault :=
  (sliceFault elaHash).or (match SmallCross.stored db (.tx (strip0x elaHash)) with
    | none => none
    | some _ => sliceFault (strip0x elaHash))

/--
`OnSmallCrossTx`.  The error of `GetTransactionByBytes` is overwritten, and the nil
transaction that comes with it is used.
-/
def onSmallCrossTxFault (collector : SmallCross.Collector) (rawTx : Bytes) : Option Fault :=
  if collector.eventMux = false then none
  else if collector.smallCrossTxMsgMap rawTx then none
  else
    match hexDecodeString rawTx with
    | none => none
    | some buff =>
      match reader.getTransactionByBytes buff with
      | .error _ => some .nilPointer
      | .ok empty =>
        match reader.deserialize empty buff with
        | .error _ => none
        | .ok txn => getSmallCrossTxMsgFault collector.smallCrossTxDb txn.hash

/-- `OnSmallCroTxReceived`, with the collector that it leaves. -/
def onSmallCroTxReceived (ela : ElaLibrary) (producers : List Bytes) (total : Nat) (height : UInt64)
    (collector : SmallCross.Collector)
    (signature rawTx : Bytes) : Except Crash SmallCross.Collector :=
  match onSmallCrossTxFault reader collector rawTx with
  | some fault => .error (.fault fault)
  | none =>
    .ok (SmallCross.onSmallCrossTx format ela collector
      ⟨producers.map bytes2Hex, total, signature, rawTx, height⟩).1

def SliceableId (db : SmallCross.Db) (elaHash : Bytes) : Prop :=
  2 ≤ elaHash.length ∧
    ((SmallCross.stored db (.tx (strip0x elaHash))).isSome = true → 2 ≤ (strip0x elaHash).length)

def SmallCroTxSafe (collector : SmallCross.Collector) (rawTx : Bytes) : Prop :=
  collector.eventMux = true → collector.smallCrossTxMsgMap rawTx = false →
    ∀ buff, hexDecodeString rawTx = some buff →
      ∃ empty, reader.getTransactionByBytes buff = .ok empty ∧
        ∀ txn, reader.deserialize empty buff = .ok txn →
          SliceableId collector.smallCrossTxDb txn.hash

variable {reader}

theorem getSmallCrossTxMsgFault_eq_none_iff {db : SmallCross.Db} {elaHash : Bytes} :
    getSmallCrossTxMsgFault db elaHash = none ↔ SliceableId db elaHash := by
  unfold getSmallCrossTxMsgFault SliceableId
  rw [Option.or_eq_none_iff, sliceFault_eq_none]
  refine and_congr_right fun _ => ?_
  cases SmallCross.stored db (.tx (strip0x elaHash)) with
  | none => simp
  | some rawTx => simp

theorem onSmallCrossTxFault_eq_none_iff {collector : SmallCross.Collector} {rawTx : Bytes} :
    onSmallCrossTxFault reader collector rawTx = none ↔ SmallCroTxSafe reader collector rawTx := by
  unfold onSmallCrossTxFault SmallCroTxSafe
  cases collector.eventMux with
  | false => simp
  | true =>
    cases collector.smallCrossTxMsgMap rawTx with
    | true => simp
    | false =>
      cases hexDecodeString rawTx with
      | none => simp
      | some buff =>
        cases created : reader.getTransactionByBytes buff with
        | error err => simp [created]
        | ok empty =>
          cases read : reader.deserialize empty buff with
          | error err => simp [created, read]
          | ok txn => simp [created, read, getSmallCrossTxMsgFault_eq_none_iff]

theorem onSmallCroTxReceived_returns_iff (ela : ElaLibrary) (producers : List Bytes) (total : Nat)
    (height : UInt64) (collector : SmallCross.Collector) (signature rawTx : Bytes) :
    (∃ left, onSmallCroTxReceived reader ela producers total height collector
        signature rawTx = .ok left) ↔
      SmallCroTxSafe reader collector rawTx := by
  rw [← onSmallCrossTxFault_eq_none_iff]
  unfold onSmallCroTxReceived
  cases onSmallCrossTxFault reader collector rawTx with
  | none => simp
  | some fault => simp

end SmallCross

/-! ## Failed withdrawals -/

section FailedWithdrawals

open WithdrawFailedTx

variable (ela : ElaLibrary)

/--
`ReceivedFailedWithdrawTx`.  The id is sliced when it comes in, once more by
`OnProcessFaildWithdrawTx` when the withdrawal is already refunded, and `SendRefundTx`
slices the text of the hash.
-/
def receivedFailedWithdrawTxFault (node : Surroundings) (collector : WithdrawFailedTx.Collector)
    (hashText signature : Bytes) : Option Fault :=
  let hash := strip0x hashText
  (sliceFault hashText).or (if collector.isSignatureVerified hash signature then
      none
    else
      match node.client with
      | none => none
      | some client =>
        match client.storageAt (hexToHash hash), client.transactionReceipt (hexToHash hash) with
        | .ok txhash, .ok receipt =>
          if receipt.status = 0 then none
          else if bytesToHash txhash ≠ emptyHash then sliceFault hash
          else
            match node.arbiters with
            | .error _ => none
            | .ok (arbiters, total) =>
              let count := (collector.verifiedArbiter hash).length
              if count < getMaxArbitersSign total ∧ getMaxArbitersSign total ≤ count + 1 ∧
                  (verifySignature ela collector hash signature arbiters).isSome then
                sliceFault (hashString (hexToHash hash))
              else none
        | _, _ => none)

/-- `OnFailedWithdrawTxReceived`, with the collector that it leaves. -/
def onFailedWithdrawTxReceived (node : Surroundings) (collector : WithdrawFailedTx.Collector)
    (hashText signature : Bytes) : Except Crash WithdrawFailedTx.Collector :=
  match receivedFailedWithdrawTxFault ela node collector hashText signature with
  | some fault => .error (.fault fault)
  | none => .ok (receivedFailedWithdrawTx ela node collector hashText signature).1

def AlreadyRefunded (node : Surroundings) (hash : Bytes) : Prop :=
  ∃ client ∈ node.client, ∃ txhash receipt, client.storageAt (hexToHash hash) = .ok txhash ∧
      client.transactionReceipt (hexToHash hash) = .ok receipt ∧
      receipt.status ≠ 0 ∧ bytesToHash txhash ≠ emptyHash

/--
The id has two bytes, and without the leading `0x` it still has two if the signature
is new and the withdrawal is already refunded.
-/
def FailedWithdrawTxSafe (node : Surroundings) (collector : WithdrawFailedTx.Collector)
    (hashText signature : Bytes) : Prop :=
  2 ≤ hashText.length ∧
    (collector.isSignatureVerified (strip0x hashText) signature = false →
      AlreadyRefunded node (strip0x hashText) → 2 ≤ (strip0x hashText).length)

variable {ela}

theorem sliceFault_hashString (hash : Hash) : sliceFault (hashString hash) = none := by
  rw [sliceFault_eq_none]
  simp [hashString, hexutilEncode, hexPrefix]

theorem receivedFailedWithdrawTxFault_eq_none_iff {node : Surroundings}
    {collector : WithdrawFailedTx.Collector} {hashText signature : Bytes} :
    receivedFailedWithdrawTxFault ela node collector hashText signature = none ↔
      FailedWithdrawTxSafe node collector hashText signature := by
  unfold receivedFailedWithdrawTxFault FailedWithdrawTxSafe AlreadyRefunded
  dsimp only
  rw [Option.or_eq_none_iff, sliceFault_eq_none]
  refine and_congr_right fun _ => ?_
  cases collector.isSignatureVerified (strip0x hashText) signature with
  | true => simp
  | false =>
    cases node.client with
    | none => simp
    | some client =>
      cases stored : client.storageAt (hexToHash (strip0x hashText)) with
      | error reason => simp [stored]
      | ok txhash =>
        cases found : client.transactionReceipt (hexToHash (strip0x hashText)) with
        | error reason => simp [stored, found]
        | ok receipt =>
          by_cases failed : receipt.status = 0
          · simp [stored, found, failed]
          by_cases refunded : bytesToHash txhash = emptyHash
          · refine iff_of_true ?_ (by simp [stored, refunded])
            simp only [stored, found, failed, refunded,
              Bool.false_eq_true, if_false, ne_eq, not_true]
            cases node.arbiters with
            | error reason => rfl
            | ok listed =>
              dsimp only
              rw [sliceFault_hashString, ite_self]
          · simp [stored, found, failed, refunded]

theorem onFailedWithdrawTxReceived_returns_iff (ela : ElaLibrary) (node : Surroundings)
    (collector : WithdrawFailedTx.Collector) (hashText signature : Bytes) :
    (∃ left, onFailedWithdrawTxReceived ela node collector hashText signature = .ok left) ↔
      FailedWithdrawTxSafe node collector hashText signature := by
  rw [← @receivedFailedWithdrawTxFault_eq_none_iff ela]
  unfold onFailedWithdrawTxReceived
  cases receivedFailedWithdrawTxFault ela node collector hashText signature with
  | none => simp
  | some fault => simp

end FailedWithdrawals

/-! ## All messages -/

inductive PeerMessage where
  | block (data : Bytes) (confirmed : Bool)
  | smallCroTx (signature rawTx : Bytes)
  | failedWithdrawTx (hashText signature : Bytes)

structure Producer (Block : Type) (format : ElaFormat) where
  ela : ElaLibrary
  blocks : BlockReader Block
  chain : ReceivingNode Block
  transactions : TransactionReader format
  producers : List Bytes
  total : Nat
  height : UInt64
  smallCross : SmallCross.Collector
  surroundings : WithdrawFailedTx.Surroundings
  withdrawals : WithdrawFailedTx.Collector

section Messages

variable {Block : Type} {format : ElaFormat}
variable (producer : Producer Block format)

def handleMessage : PeerMessage → Except Crash (Producer Block format)
  | .block data confirmed =>
    (onBlockReceived producer.blocks producer.chain data confirmed).map fun _ => producer
  | .smallCroTx signature rawTx =>
    (onSmallCroTxReceived producer.transactions producer.ela
      producer.producers producer.total producer.height producer.smallCross signature rawTx).map
      fun left => { producer with smallCross := left }
  | .failedWithdrawTx hashText signature =>
    (onFailedWithdrawTxReceived producer.ela producer.surroundings
      producer.withdrawals hashText signature).map fun left => { producer with withdrawals := left }

def MessageSafe : PeerMessage → Prop
  | .block data confirmed => BlockMsgSafe producer.blocks producer.chain data confirmed
  | .smallCroTx _ rawTx => SmallCroTxSafe producer.transactions producer.smallCross rawTx
  | .failedWithdrawTx hashText signature =>
    FailedWithdrawTxSafe producer.surroundings producer.withdrawals hashText signature

theorem exists_map_eq_ok_iff {Error First Second : Type*} {outcome : Except Error First}
    {change : First → Second} :
    (∃ result, outcome.map change = .ok result) ↔ ∃ result, outcome = .ok result := by
  cases outcome with
  | error err => simp [Except.map]
  | ok value => simp [Except.map]

/--
A producer survives a message of a peer exactly if a confirmed block can be decoded and
its import returns, a small cross-chain transaction in hexadecimal digits begins with a
type that the library knows, and the id of a failed withdrawal has two bytes, also
without its leading `0x` if the withdrawal is already refunded.
-/
theorem handleMessage_returns_iff (message : PeerMessage) :
    (∃ left, handleMessage producer message = .ok left) ↔ MessageSafe producer message := by
  cases message with
  | block data confirmed =>
    exact exists_map_eq_ok_iff.trans (onBlockReceived_returns_iff data confirmed)
  | smallCroTx signature rawTx =>
    exact exists_map_eq_ok_iff.trans (onSmallCroTxReceived_returns_iff _ _ _ _ _ signature rawTx)
  | failedWithdrawTx hashText signature =>
    exact exists_map_eq_ok_iff.trans
      (onFailedWithdrawTxReceived_returns_iff _ _ _ hashText signature)

end Messages

namespace Sample

def oneIdReader : TransactionReader SmallCross.Sample.oneIdFormat where
  getTransactionByBytes buff :=
    SmallCross.Sample.oneIdFormat.deserializeTransaction buff
  deserialize txn _ := .ok txn
  composed buff := by
    cases SmallCross.Sample.oneIdFormat.deserializeTransaction buff <;> rfl

def freshProducer : Producer Unit SmallCross.Sample.oneIdFormat where
  ela := plainLibrary []
  blocks := {
    decodeRLP data := if data = [] then .error "EOF" else .ok ()
    number _ := 1
    hash _ := emptyHash
    parentHash _ := emptyHash }
  chain := {
    hasBlock _ _ := true
    hasBlockByHash _ := false
    currentNumber := 0
    activePeers := 0
    hasProducerMajorityCount _ := false
    insertChain _ := .ok none
    onInsertChainError := none }
  transactions := oneIdReader
  producers := []
  total := 0
  height := 0
  smallCross := .initial
  surroundings := ⟨none, none, none⟩
  withdrawals := .empty

end Sample

open Sample

/--
Messages without content: the panic of the decoder, a nil transaction, and a slice out
of range.
-/
theorem empty_messages_stop_producer :
    (¬∃ left, handleMessage freshProducer (.block [] true) = .ok left) ∧
      (¬∃ left, handleMessage freshProducer (.smallCroTx [] []) = .ok left) ∧
      ¬∃ left, handleMessage freshProducer (.failedWithdrawTx [] []) = .ok left := by
  refine ⟨?_, ?_, ?_⟩
  · rintro ⟨left, returns⟩
    cases returns
  · rintro ⟨left, returns⟩
    cases returns
  · rintro ⟨left, returns⟩
    cases returns

end EscSideChain.Pbft
