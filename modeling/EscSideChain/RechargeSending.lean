import EscSideChain.FailedRechargePacking
import EscSideChain.RechargeQueue
import EscSideChain.SmallCrossCollection

namespace EscSideChain.Spv

open Dpos SmallCross

/-!
# Sending the recharges of the queue

One round of the goroutine of `IteratorUnTransaction`: it looks up the outputs of the
transaction at the head of the queue, sends it to this chain with `SendTransaction`, and
moves on if that says so.  `SendTransaction` asks the node's own interface four times, and
each of these calls may fail.  Most failures leave the transaction where it is.
-/

structure PublicTx where
  sender : Address
  gas : UInt64
  data : Bytes
  gasPrice : Int
  deriving DecidableEq

/--
The client of the node's own interface in one round: the errors of the calls that
fail, and the answers that do not come from the state of the chain.  The calls of
`StorageAt` are counted.
-/
structure RoundClient where
  storageFails : Nat → Option String
  heightFails : Option String
  estimateGas : Address → Bytes → Except String UInt64
  sendPublicTransaction : PublicTx → Except String Hash

structure SendingNode where
  storage : Hash → Bytes
  height : UInt64
  service : Option RechargeService
  engine : PbftEngine
  store : SpvStore
  smallCrossTxDb : Db
  ipcClient : Option RoundClient
  sender : Address
  candSend : Bool

def answered {Value : Type} (failure : Option String) (value : Value) : Except String Value :=
  match failure with
  | none => .ok value
  | some reason => .error reason

/-- The text of `ErrMainTxHashPresence`. -/
def mainTxHashPresence : String :=
  "main txhash presence"

/-- `strings.Contains`. -/
def containsText (text part : String) : Bool :=
  text.toList.tails.any fun rest => part.toList.isPrefixOf rest

/-- What `SendTransaction` leaves behind and returns. -/
structure Sent where
  failed : FailedRecharges
  err : Option String
  finished : Bool
  accepted : Option PublicTx

structure RoundResult where
  failed : FailedRecharges
  advanced : Bool
  goOn : Bool
  accepted : Option PublicTx

namespace SendingNode

section Functions

variable (format : ElaFormat) (codec : ListFormat)
variable (writer : RecordWriter) (ela : ElaLibrary)
variable (node : SendingNode)

/-- The answer of a `StorageAt` of the round. -/
def storageAt (client : RoundClient) (call : Nat) (slot : Hash) : Except String Bytes :=
  answered (client.storageFails call) (node.storage slot)

/-- What `OnTx2Failed` sees: the later calls of `StorageAt`. -/
def around : IpcSurroundings where
  ipcClient := node.ipcClient.map fun client =>
    { storageAt := fun call => node.storageAt client (call + 1)
      currentBlockNumber := answered client.heightFails node.height }
  service := node.service

/-- `IsFailedElaTx` in this node. -/
def isFailed (failed : FailedRecharges) (elaTx : Bytes) : Except String Bool :=
  isFailedElaTx format node.service (failed.toStore codec node.store) elaTx

/-- `GetRechargeDataByTxhash` in this node. -/
def recharges (failed : FailedRecharges)
    (elaTx : Bytes) : Except String (List RechargeData × Int) :=
  getRechargeDataByTxhash format node.service (failed.toStore codec node.store) elaTx

/-- `OnTx2Failed` in this node. -/
def onTx2Failed (failed : FailedRecharges) (elaTx : Bytes) : FailedRecharges :=
  failed.onTx2Failed format codec node.around elaTx

/-- `HexStringToBytes` of the id; an error makes `SendTransaction` finish. -/
def idBytes (elaTx : Bytes) : Except (String × Bool) Bytes :=
  (format.hexStringToBytes elaTx).mapError fun reason => (reason, true)

def isBlank (recharge : RechargeData) : Bool :=
  recharge.fee ≤ 0 && recharge.targetAmount ≤ 0 && recharge.targetAddress = blackAddr

/--
The input of the transaction: the signed record of a small transfer, or the id.
An error comes with what `SendTransaction` returns as `finished`.
-/
def callData (failed : FailedRecharges) (elaTx : Bytes) : Except (String × Bool) Bytes :=
  match getSmallCrossTxBytes writer node.smallCrossTxDb elaTx with
  | .error _ => idBytes format elaTx
  | .ok (data, ctx) =>
    match verifySmallCrossTxBySignature ela
        (node.service.map RechargeService.toSpvService) node.engine
        ctx.rawTx ctx.signatures ctx.blockHeight with
    | .error errmsg => .error (errmsg, false)
    | .ok true => .ok data
    | .ok false =>
      match node.recharges format codec failed elaTx with
      | .error _ | .ok ([], _) => .error ("verifyed small cross chain transaction failed", false)
      | .ok (outputs, _) =>
        if outputs.any isBlank then .error ("verifyed small cross chain transaction failed", false)
        else idBytes format elaTx

/-- The lines of `SendTransaction` after an estimate that is no use. -/
def giveUp (failed : FailedRecharges) (elaTx : Bytes) : Sent :=
  match node.isFailed format codec failed elaTx with
  | .error reason => ⟨failed, some reason, false, none⟩
  | .ok true => ⟨failed, none, true, none⟩
  | .ok false => ⟨node.onTx2Failed format codec failed elaTx, none, false, none⟩

def publicTx (gasLimit : UInt64) (data : Bytes) (fee : Int) : PublicTx where
  sender := node.sender
  gas := gasLimit
  data := data
  gasPrice := fee.tdiv gasLimit.toNat

/-- `SendTransaction` once the input is known. -/
def sendData (client : RoundClient) (failed : FailedRecharges) (elaTx data : Bytes)
    (fee : Int) : Sent :=
  match node.isFailed format codec failed elaTx with
  | .error reason => ⟨failed, some reason, false, none⟩
  | .ok true => ⟨failed, some "is failed tx, can't to send", true, none⟩
  | .ok false =>
    match client.estimateGas node.sender data with
    | .error reason =>
      if containsText reason mainTxHashPresence then ⟨failed, some reason, true, none⟩
      else node.giveUp format codec failed elaTx
    | .ok gasLimit =>
      if gasLimit = 0 then node.giveUp format codec failed elaTx
      else if node.candSend = false then ⟨failed, some "canSend is 0", false, none⟩
      else
        match client.sendPublicTransaction (node.publicTx gasLimit data fee) with
        | .error reason => ⟨failed, some reason, true, none⟩
        | .ok _ => ⟨failed, none, true, some (node.publicTx gasLimit data fee)⟩

/-- `SendTransaction`; without a client it does not return. -/
def sendTransaction (failed : FailedRecharges) (elaTx : Bytes) (fee : Int) : Sent :=
  match node.ipcClient with
  | none => ⟨failed, some "runtime error: nil pointer dereference", false, none⟩
  | some client =>
    match node.storageAt client 0 (slotOf elaTx) with
    | .error reason => ⟨failed, some reason, true, none⟩
    | .ok ethTx =>
      if bytesToHash ethTx ≠ emptyHash then
        ⟨failed.onElaTxPacked codec elaTx,
          some ("Cross-chain transactions have been processed " ++ asciiText elaTx), true, none⟩
      else
        match node.callData format codec writer ela failed elaTx with
        | .error (reason, finished) => ⟨failed, some reason, finished, none⟩
        | .ok data => node.sendData format codec client failed elaTx data fee

def round (failed : FailedRecharges) (txHash : Bytes) : RoundResult :=
  match node.recharges format codec failed txHash with
  | .error _ | .ok ([], _) =>
    match node.isFailed format codec failed txHash with
    | .error _ => ⟨failed, false, false, none⟩
    | .ok true => ⟨failed, true, false, none⟩
    | .ok false => ⟨node.onTx2Failed format codec failed txHash, true, false, none⟩
  | .ok (_ :: _, fee) =>
    let sent := node.sendTransaction format codec writer ela failed txHash fee
    ⟨sent.failed, sent.finished, true, sent.accepted⟩

end Functions

def Complete (node : SendingNode) (elaTx : Bytes) : Prop :=
  bytesToHash (node.storage (slotOf elaTx)) ≠ emptyHash

section Accounting

variable (format : ElaFormat) (codec : ListFormat)
variable (writer : RecordWriter) (ela : ElaLibrary)
variable (node : SendingNode)

/--
The interface does not answer what `OnTx2Failed` has to know to list a
transaction: its second `StorageAt` or the height.
-/
def Unanswered : Prop :=
  ∀ client, node.ipcClient = some client → client.storageFails 2 = none → client.heightFails ≠ none

def DropsData (client : RoundClient) (data : Bytes) (fee : Int) : Prop :=
  (∃ reason, client.estimateGas node.sender data = .error reason ∧
      containsText reason mainTxHashPresence = true) ∨
    ∃ gasLimit reason, client.estimateGas node.sender data = .ok gasLimit ∧
        gasLimit ≠ 0 ∧ node.candSend = true ∧ client.sendPublicTransaction
          (node.publicTx gasLimit data fee) = .error reason

/--
The first `StorageAt` fails, the id does not decode where it is needed, or the
input is dropped.
-/
def DropsSent (client : RoundClient) (failed : FailedRecharges) (elaTx : Bytes)
    (fee : Int) : Prop :=
  client.storageFails 0 ≠ none ∨
    (∃ reason, node.callData format codec writer ela failed elaTx = .error (reason, true)) ∨
    ∃ data, node.callData format codec writer ela failed elaTx = .ok data ∧
      node.DropsData client data fee

def Drops (failed : FailedRecharges) (elaTx : Bytes) : Prop :=
  (∀ output outputs fee, node.recharges format codec failed elaTx ≠ .ok (output :: outputs, fee)) ∧
    node.isFailed format codec failed elaTx = .ok false ∧ node.Unanswered ∨
  ∃ output outputs fee client, node.recharges format codec failed elaTx =
        .ok (output :: outputs, fee) ∧
      node.ipcClient = some client ∧
      node.DropsSent format codec writer ela client failed elaTx fee

def Accounted (elaTx : Bytes) (result : RoundResult) : Prop :=
  result.advanced = true → result.accepted.isSome = true ∨ node.Complete elaTx ∨
      node.isFailed format codec result.failed elaTx = .ok true

end Accounting

section Rounds

variable {format : ElaFormat} {codec : ListFormat}
variable {writer : RecordWriter} {ela : ElaLibrary}
variable {node : SendingNode} {client : RoundClient}
variable {failed : FailedRecharges} {elaTx data : Bytes} {fee : Int}

section

variable {verdict : Bool} (known : node.isFailed format codec failed elaTx = .ok verdict)

include known

theorem isHash_of_isFailed : ∃ hash, format.uint256FromHexString (strip0x elaTx) = .ok hash := by
  unfold isFailed isFailedElaTx at known
  dsimp only at known
  split at known
  · cases known
  · next hash isHash => exact ⟨hash, isHash⟩

theorem isFailed_record (height : UInt64) :
    node.isFailed format codec (failed.record codec height elaTx) elaTx = .ok true := by
  obtain ⟨hash, isHash⟩ := isHash_of_isFailed known
  refine FailedRecharges.isFailedElaTx_of_listed node.service isHash
    (FailedRecharges.mem_listed.2 ⟨height, .inl ?_⟩)
  simp [FailedRecharges.record, FailedRecharges.memoryAt]

end

theorem isPackagedElaTx_around (bare : strip0x elaTx = elaTx) (incomplete : ¬node.Complete elaTx)
    (hasClient : node.ipcClient = some client) :
    isPackagedElaTx node.around.ipcClient elaTx = .ok false := by
  have unmarked : bytesToHash (node.storage (slotOf elaTx)) = emptyHash := not_not.1 incomplete
  unfold isPackagedElaTx around storageAt
  simp only [hasClient, Option.map_some, bare]
  cases client.storageFails 1 with
  | none => simp [answered, unmarked]
  | some reason => rfl

theorem recordingHeight_around (incomplete : ¬node.Complete elaTx)
    (known : node.isFailed format codec failed elaTx = .ok false)
    (hasClient : node.ipcClient = some client) :
    failed.recordingHeight format codec node.around elaTx =
      if client.storageFails 2 = none ∧ client.heightFails = none then some node.height
      else
        none := by
  have unmarked : bytesToHash (node.storage (slotOf elaTx)) = emptyHash := not_not.1 incomplete
  have verdict : isFailedElaTx format node.around.service
      (failed.toStore codec ⟨none, [], []⟩) elaTx = .ok false := known
  have asked : node.around.ipcClient = some
      { storageAt := fun call => node.storageAt client (call + 1)
        currentBlockNumber := answered client.heightFails node.height } := by
    simp [around, hasClient]
  unfold FailedRecharges.recordingHeight
  simp only [verdict, asked, storageAt]
  cases client.storageFails 2 with
  | some reason => simp [answered]
  | none =>
    cases client.heightFails with
    | some reason => simp [answered, unmarked]
    | none => simp [answered, unmarked]

theorem isFailed_onTx2Failed_iff (bare : strip0x elaTx = elaTx) (incomplete : ¬node.Complete elaTx)
    (known : node.isFailed format codec failed elaTx = .ok false) :
    node.isFailed format codec (node.onTx2Failed format codec failed elaTx) elaTx = .ok true ↔
      ¬node.Unanswered := by
  have unlisted : node.isFailed format codec failed elaTx ≠ .ok true := by
    rw [known]
    simp
  unfold onTx2Failed FailedRecharges.onTx2Failed
  rw [bare]
  cases hasClient : node.ipcClient with
  | none =>
    have silent : node.Unanswered := by
      intro client found
      cases hasClient.symm.trans found
    simp [around, hasClient, isPackagedElaTx, unlisted, silent]
  | some client =>
    have listens : ¬node.Unanswered ↔ client.storageFails 2 = none ∧ client.heightFails = none := by
      unfold Unanswered
      rw [hasClient]
      simp
    dsimp only
    rw [isPackagedElaTx_around bare incomplete hasClient, listens]
    dsimp only
    rw [recordingHeight_around incomplete known hasClient]
    by_cases answers : client.storageFails 2 = none ∧ client.heightFails = none
    · simp only [answers, and_self, if_true, iff_true]
      exact isFailed_record known node.height
    simp only [answers, if_false, iff_false]
    exact unlisted

theorem giveUp_unfinished (known : node.isFailed format codec failed elaTx = .ok false) :
    (node.giveUp format codec failed elaTx).finished = false := by
  rw [giveUp, known]

def Settles (format : ElaFormat) (codec : ListFormat) (node : SendingNode) (elaTx : Bytes)
    (sent : Sent) : Prop :=
  sent.finished = true → sent.accepted.isSome = true ∨
      node.isFailed format codec sent.failed elaTx = .ok true

theorem not_settles {err : Option String}
    (known : node.isFailed format codec failed elaTx = .ok false) :
    ¬Settles format codec node elaTx ⟨failed, err, true, none⟩ := by
  intro settles
  rcases settles rfl with accepted | listed
  · cases accepted
  · cases known.symm.trans listed

theorem settles_of_unfinished {sent : Sent} (unfinished : sent.finished = false) :
    Settles format codec node elaTx sent := by
  intro finished
  rw [unfinished] at finished
  cases finished

theorem settles_sendData_iff (known : node.isFailed format codec failed elaTx = .ok false) :
    Settles format codec node elaTx (node.sendData format codec client failed elaTx data fee) ↔
      ¬node.DropsData client data fee := by
  unfold sendData DropsData
  rw [known]
  dsimp only
  cases estimated : client.estimateGas node.sender data with
  | error reason =>
    by_cases presence : containsText reason mainTxHashPresence = true
    · simp [presence, not_settles known]
    · simp [presence, settles_of_unfinished (giveUp_unfinished known)]
  | ok gasLimit =>
    by_cases zero : gasLimit = 0
    · simp [zero, settles_of_unfinished (giveUp_unfinished known)]
    by_cases stopped : node.candSend = false
    · simp [zero, stopped, settles_of_unfinished]
    have sends : node.candSend = true := Bool.eq_true_of_not_eq_false stopped
    cases sent : client.sendPublicTransaction (node.publicTx gasLimit data fee) with
    | error reason => simp [zero, sends, sent, not_settles known]
    | ok hash => simp [zero, sends, sent, Settles]

theorem settles_sendTransaction_iff (incomplete : ¬node.Complete elaTx)
    (known : node.isFailed format codec failed elaTx = .ok false)
    (hasClient : node.ipcClient = some client) :
    Settles format codec node elaTx
        (node.sendTransaction format codec writer ela failed elaTx fee) ↔
      ¬node.DropsSent format codec writer ela client failed elaTx fee := by
  have unmarked : bytesToHash (node.storage (slotOf elaTx)) = emptyHash := not_not.1 incomplete
  unfold sendTransaction DropsSent storageAt
  rw [hasClient]
  dsimp only
  cases client.storageFails 0 with
  | some reason => simp [answered, not_settles known]
  | none =>
    simp only [answered, unmarked, ne_eq, not_true_eq_false, if_false, false_or]
    rcases node.callData format codec writer ela failed elaTx with ⟨reason, _ | _⟩ | data
    · simp [settles_of_unfinished]
    · simp [not_settles known]
    · simp [settles_sendData_iff known]

theorem isFailed_of_recharges (bare : strip0x elaTx = elaTx) {outputs : List RechargeData}
    (found : node.recharges format codec failed elaTx = .ok (outputs, fee)) :
    node.isFailed format codec failed elaTx = .ok false := by
  unfold recharges getRechargeDataByTxhash at found
  dsimp only at found
  rw [bare] at found
  split at found
  · cases found
  split at found
  · cases found
  · cases found
  · next notFailed => exact notFailed

theorem accounted_of_failed (known : node.isFailed format codec failed elaTx = .ok true)
    (bare : strip0x elaTx = elaTx) :
    node.Accounted format codec elaTx (node.round format codec writer ela failed elaTx) := by
  unfold round
  split
  · rw [known]
    exact fun _ => .inr (.inr known)
  · rw [known]
    exact fun _ => .inr (.inr known)
  · next found => cases known.symm.trans (isFailed_of_recharges bare found)

theorem accounted_of_nothing_iff (bare : strip0x elaTx = elaTx) (incomplete : ¬node.Complete elaTx)
    (unlisted : node.isFailed format codec failed elaTx ≠ .ok true)
    (nothing : ∀ output outputs fee, node.recharges format codec failed elaTx ≠
        .ok (output :: outputs, fee)) :
    node.Accounted format codec elaTx (node.round format codec writer ela failed elaTx) ↔
      ¬(node.isFailed format codec failed elaTx = .ok false ∧ node.Unanswered) := by
  have outcome : node.round format codec writer ela failed elaTx =
      match node.isFailed format codec failed elaTx with
      | .error _ => ⟨failed, false, false, none⟩
      | .ok true => ⟨failed, true, false, none⟩
      | .ok false =>
        ⟨node.onTx2Failed format codec failed elaTx, true, false, none⟩ := by
    unfold round
    split
    · rfl
    · rfl
    · next found => exact absurd found (nothing _ _ _)
  rw [outcome]
  unfold Accounted
  rcases known : node.isFailed format codec failed elaTx with reason | _ | _
  · simp
  · simp only [incomplete, true_and, forall_const, Option.isSome_none, Bool.false_eq_true, false_or]
    exact isFailed_onTx2Failed_iff bare incomplete known
  · exact absurd known unlisted

theorem accounted_of_outputs_iff {output : RechargeData} {outputs : List RechargeData}
    (bare : strip0x elaTx = elaTx) (incomplete : ¬node.Complete elaTx)
    (found : node.recharges format codec failed elaTx = .ok (output :: outputs, fee)) :
    node.Accounted format codec elaTx (node.round format codec writer ela failed elaTx) ↔
      ¬∃ client, node.ipcClient = some client ∧
        node.DropsSent format codec writer ela client failed elaTx
          fee := by
  have known := isFailed_of_recharges bare found
  have settles : node.Accounted format codec elaTx
      (node.round format codec writer ela failed elaTx) ↔ Settles format codec node elaTx
          (node.sendTransaction format codec writer ela failed elaTx fee) := by
    unfold round Accounted Settles
    rw [found]
    simp only [incomplete, false_or]
  rw [settles]
  cases hasClient : node.ipcClient with
  | none =>
    have unfinished : (node.sendTransaction format codec writer ela
        failed elaTx fee).finished = false := by
      rw [sendTransaction, hasClient]
    simp [settles_of_unfinished unfinished]
  | some client =>
    rw [settles_sendTransaction_iff incomplete known hasClient]
    simp

end Rounds

theorem round_accounted_iff (format : ElaFormat) (codec : ListFormat) (writer : RecordWriter)
    (ela : ElaLibrary) (node : SendingNode) (failed : FailedRecharges) (elaTx : Bytes)
    (bare : strip0x elaTx = elaTx) :
    node.Accounted format codec elaTx (node.round format codec writer ela failed elaTx) ↔
      node.Complete elaTx ∨ node.isFailed format codec failed elaTx = .ok true ∨
        ¬node.Drops format codec writer ela failed elaTx := by
  by_cases complete : node.Complete elaTx
  · simp only [complete, true_or, iff_true]
    exact fun _ => .inr (.inl complete)
  by_cases listed : node.isFailed format codec failed elaTx = .ok true
  · simp only [listed, true_or, or_true, iff_true]
    exact accounted_of_failed listed bare
  simp only [complete, listed, false_or]
  unfold Drops
  by_cases nothing : ∀ output outputs fee, node.recharges format codec failed elaTx ≠
        .ok (output :: outputs, fee)
  · rw [accounted_of_nothing_iff bare complete listed nothing]
    simp [nothing]
  push Not at nothing
  obtain ⟨output, outputs, fee, found⟩ := nothing
  rw [accounted_of_outputs_iff bare complete found, found]
  simp

end SendingNode

namespace Sample

def reachableClient : RoundClient where
  storageFails _ := none
  heightFails := none
  estimateGas _ _ := .ok 21000
  sendPublicTransaction _ := .ok emptyHash

def sendingNode (client : RoundClient) : SendingNode where
  storage _ := []
  height := 10
  service := some noReturns
  engine := SmallCross.Sample.heightEngine
  store := saveOutputPayload strokes emptyStore [outputWith [99]] firstId
  smallCrossTxDb _ := none
  ipcClient := some client
  sender := blackAddr
  candSend := true

end Sample

end EscSideChain.Spv
