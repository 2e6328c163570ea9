import EscSideChain.AcceptedMessages

namespace EscSideChain.Core

open Dpos State Spv WithdrawFailedTx Vm

/-!
# Applying transactions

`core/state_processor.go`.  `ApplyTransaction` applies a transaction as a message, records
a refund or a recharge as completed in the storage of the zero address, and finalises the
state.  The callers keep the state only if there was no error.
-/

structure Transaction where
  hash : Hash
  sender : Except String Address
  recipient : Option Address
  gasPrice : Int
  gas : Nat
  value : Int
  nonce : UInt64
  data : Bytes
  accessList : List (Address × List Hash)

def Transaction.asMessage (tx : Transaction) : Except String Message :=
  match tx.sender with
  | .error reason => .error reason
  | .ok sender =>
    .ok {
      sender := sender
      recipient := tx.recipient
      gasPrice := tx.gasPrice
      gas := tx.gas
      value := tx.value
      nonce := tx.nonce
      checkNonce := true
      data := tx.data
      accessList := tx.accessList }

structure TxReceipt where
  failed : Bool
  cumulativeGasUsed : Nat
  txHash : Hash
  gasUsed : Nat
  contractAddress : Option Address
  logs : List Log

def complete (db : StateDB) (txHash : Bytes) (hash : Hash) : StateDB :=
  let stored := db.setState blackAddr (hexToHash txHash) hash
  stored.setNonce blackAddr (stored.getNonce blackAddr + 1)

/-- The part of `ApplyTransaction` that records a completed id. -/
def recordCompletion (evm : Evm) (store : SpvStore) (db : StateDB) (tx : Transaction) :
    SpvStore × Except CoreError StateDB :=
  if tx.recipient ≠ some blackAddr then (store, .ok db)
  else
    match evm.isWithdawFailedTx db tx.data with
    | .error reason => (store, .error (.other reason))
    | .ok (true, txHash) => (store, .ok (complete db txHash tx.hash))
    | .ok (false, _) =>
      if tx.data.length = 32 then
        let txHash := hexutilEncode tx.data
        match trySetRechargeDataFromSpvService evm.format evm.spvService store txHash with
        | (stored, .error reason) => (stored, .error (.other reason))
        | (stored, .ok ()) =>
          let (fee, addr, output) :=
            findOutputFeeAndaddressByTxHash evm.format evm.spvService stored txHash
          if fee > 0 ∧ output > 0 ∧ addr ≠ blackAddr then (stored, .ok (complete db txHash tx.hash))
          else (stored, .ok db)
      else
        match isSmallCrossTxByData evm.format evm.pbftEngine tx.data with
        | none => (store, .ok db)
        | some small => (store, .ok (complete db small.rawTxID tx.hash))

def deletesEmpty (evm : Evm) : Bool :=
  evm.rules.isByzantium || evm.rules.isEIP158

/--
`ApplyTransaction`.  The accounts that the journal holds at the end are left
open.
-/
def applyTransaction (evm : Evm) (st : Transition) (usedGas : Nat) (dirties : Address → Bool)
    (tx : Transaction) : Transition × Except CoreError TxReceipt :=
  match tx.asMessage with
  | .error reason => (st, .error (.other reason))
  | .ok msg =>
    let execution := applyMessage evm st.world st.store st.gasPool msg
    match execution.err with
    | some err => (execution.st, .error err)
    | none =>
      match recordCompletion evm execution.st.store execution.st.db tx with
      | (store, .error err) => ({ execution.st with store := store }, .error err)
      | (store, .ok recorded) =>
        let final := recorded.finalise dirties (deletesEmpty evm)
        ({ execution.st.withDb final with store := store }, .ok {
            failed := execution.result.err.isSome
            cumulativeGasUsed :=
              usedGas + execution.result.usedGas
            txHash := tx.hash
            gasUsed := execution.result.usedGas
            contractAddress :=
              if msg.recipient.isNone then some (evm.createAddress msg.sender tx.nonce)
              else none
            logs := final.logs })

structure Submission where
  evm : Evm
  store : SpvStore
  collector : Collector
  gasPool : Nat
  usedGas : Nat
  dirties : Address → Bool
  tx : Transaction

namespace Submission

/-- The state before the transaction; it collects its own logs and movements. -/
def start (submission : Submission) (db : StateDB) : Transition where
  world := {
    db := { db with logs := [], movements := [] }
    collector := submission.collector
    calls := [] }
  store := submission.store
  gasPool := submission.gasPool
  gas := 0
  initialGas := 0

def apply (submission : Submission) (db : StateDB) : Transition × Except CoreError TxReceipt :=
  applyTransaction submission.evm (submission.start db)
    submission.usedGas submission.dirties submission.tx

/-- `commitTransaction`: the state is kept if there was no error. -/
def commit (db : StateDB) (submission : Submission) : StateDB :=
  match (submission.apply db).2 with
  | .error _ => db
  | .ok _ => (submission.apply db).1.db

def calls (db : StateDB) (submission : Submission) : List CallSite :=
  (submission.apply db).1.world.calls

def movements (db : StateDB) (submission : Submission) : List Movement :=
  match (submission.apply db).2 with
  | .error _ => []
  | .ok _ => (submission.apply db).1.db.movements

end Submission

/-! ## What an applied transaction has done -/

theorem Transaction.asMessage_ok {tx : Transaction} {msg : Message}
    (isMessage : tx.asMessage = .ok msg) : msg.recipient = tx.recipient ∧ msg.data = tx.data := by
  unfold asMessage at isMessage
  split at isMessage
  · cases isMessage
  cases isMessage
  exact ⟨rfl, rfl⟩

structure Submission.Applied (submission : Submission) (db : StateDB) (msg : Message)
    (stored : SpvStore) (recorded : StateDB) : Prop where
  isMessage : submission.tx.asMessage = .ok msg
  accepted : (transitionDb submission.evm (submission.start db) msg).err = none
  isRecorded : recordCompletion submission.evm
      (transitionDb submission.evm (submission.start db) msg).st.store
      (transitionDb submission.evm (submission.start db) msg).st.db
      submission.tx = (stored, .ok recorded)
  committed : submission.commit db =
    recorded.finalise submission.dirties (deletesEmpty submission.evm)
  moved : submission.movements db = recorded.movements
  called : submission.calls db =
    (transitionDb submission.evm (submission.start db) msg).st.world.calls

theorem Submission.apply_ok {submission : Submission} {db : StateDB} {receipt : TxReceipt}
    (applied : (submission.apply db).2 = .ok receipt) :
    ∃ msg stored recorded, submission.Applied db msg stored recorded := by
  have kept : submission.commit db = (submission.apply db).1.db := by rw [commit, applied]
  have noted : submission.movements db = (submission.apply db).1.db.movements := by
    rw [movements, applied]
  unfold apply applyTransaction at applied
  split at applied
  · cases applied
  next msg isMessage =>
    dsimp only at applied
    split at applied
    · cases applied
    next accepted =>
      split at applied
      · cases applied
      next stored recorded isRecorded =>
        have final : (submission.apply db).1.db = recorded.finalise submission.dirties
              (deletesEmpty submission.evm) := by
          unfold apply applyTransaction
          simp only [isMessage, accepted, isRecorded]
          rfl
        have called : submission.calls db =
            (transitionDb submission.evm (submission.start db) msg).st.world.calls := by
          unfold calls apply applyTransaction
          simp only [isMessage, accepted, isRecorded]
          rfl
        exact ⟨msg, stored, recorded, isMessage, accepted, isRecorded, kept.trans final,
          by rw [noted, final]; rfl, called⟩

theorem Submission.commit_cases (submission : Submission) (db : StateDB) :
    submission.commit db = db ∧ submission.movements db = [] ∨ ∃ msg stored recorded,
        submission.Applied db msg stored recorded := by
  cases applied : (submission.apply db).2 with
  | error err => exact .inl ⟨by rw [commit, applied], by rw [movements, applied]⟩
  | ok receipt => exact .inr (apply_ok applied)

end EscSideChain.Core
