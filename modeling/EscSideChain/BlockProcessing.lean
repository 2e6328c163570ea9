import EscSideChain.StateProcessor
import EscSideChain.TransactionSigning

namespace EscSideChain.Core

open Dpos State Spv WithdrawFailedTx Vm Pbft

/-!
# Processing blocks

`Process` of `core/state_processor.go` and `ValidateState` of
`core/block_validator.go`.  The transactions of a block are applied one after
the other.  They share the state, the gas pool, the collected refund signatures
and the store of recharges; the first error ends the block.
-/

structure BlockTx where
  evm : Evm
  dirties : Address → Bool
  tx : Transaction

structure Block where
  header : Header
  transactions : List BlockTx

def Block.number (block : Block) : Nat :=
  block.header.number.getD 0

structure Progress where
  db : StateDB
  collector : Collector
  store : SpvStore
  gasPool : Nat
  usedGas : Nat
  receipts : List TxReceipt

namespace Progress

def submission (progress : Progress) (next : BlockTx) : Submission where
  evm := next.evm
  store := progress.store
  collector := progress.collector
  gasPool := progress.gasPool
  usedGas := progress.usedGas
  dirties := next.dirties
  tx := next.tx

def applyNext (progress : Progress) (next : BlockTx) : Progress × Option CoreError :=
  let applied := (progress.submission next).apply progress.db
  let reached := { progress with
    db := applied.1.db
    collector := applied.1.world.collector
    store := applied.1.store
    gasPool := applied.1.gasPool }
  match applied.2 with
  | .error err => (reached, some err)
  | .ok receipt =>
    ({ reached with
        usedGas := receipt.cumulativeGasUsed
        receipts := progress.receipts ++ [receipt] },
      none)

end Progress

/-- The loop of `Process` over the transactions. -/
def processTransactions : List BlockTx → Progress → Progress × Option CoreError
  | [], progress => (progress, none)
  | next :: rest, progress =>
    match progress.applyNext next with
    | (reached, some err) => (reached, some err)
    | (reached, none) => processTransactions rest reached

/-- The configuration that `Process` reads. -/
structure ProcessRules where
  config : Types.ChainConfig
  isPbftEngine : Bool
  daoForkBlock : Option Int
  daoForkSupport : Bool
  daoRefundContract : Address
  daoDrainList : List Address

/-- One turn of the loop of `ApplyDAOHardFork`. -/
def drain (refundContract : Address) (db : StateDB) (addr : Address) : StateDB :=
  let paid := db.addBalance refundContract (db.getBalance addr)
  paid.subBalance addr (paid.getBalance addr)

def applyDAOHardFork (rules : ProcessRules) (db : StateDB) : StateDB :=
  rules.daoDrainList.foldl (drain rules.daoRefundContract) (if db.exist rules.daoRefundContract then
      db
    else db.createAccount rules.daoRefundContract)

/-- What `Process` starts the loop with. -/
def Progress.opening (rules : ProcessRules) (block : Block) (progress : Progress) : Progress :=
  { progress with
    db :=
      if rules.daoForkSupport ∧ rules.daoForkBlock = some (block.number : Int) then
        applyDAOHardFork rules progress.db
      else progress.db
    gasPool := block.header.gasLimit.toNat
    usedGas := 0
    receipts := [] }

/-- `Process`, up to the call of `Finalize`. -/
def process (rules : ProcessRules) (block : Block)
    (progress : Progress) : Progress × Option CoreError :=
  processTransactions block.transactions (progress.opening rules block)

/-- The functions that `ValidateState` recomputes the header's fields with. -/
structure StateValidator where
  createBloom : List TxReceipt → List Transaction → List.Vector UInt8 256
  deriveSha : List TxReceipt → Hash
  intermediateRoot : StateDB → Hash

/-- The errors of `ValidateState`. -/
inductive ValidateError where
  | gasUsed (remote : UInt64) («local» : Nat)
  | bloom (remote «local» : List.Vector UInt8 256)
  | receiptRoot (remote «local» : Hash)
  | merkleRoot (remote «local» : Hash)
  deriving DecidableEq

def validateState (validator : StateValidator) (block : Block)
    (progress : Progress) : Option ValidateError :=
  let header := block.header
  let rbloom := validator.createBloom progress.receipts (block.transactions.map BlockTx.tx)
  let receiptSha := validator.deriveSha progress.receipts
  let root := validator.intermediateRoot progress.db
  if header.gasUsed.toNat ≠ progress.usedGas then some (.gasUsed header.gasUsed progress.usedGas)
  else if rbloom ≠ header.bloom then some (.bloom header.bloom rbloom)
  else if receiptSha ≠ header.receiptHash then some (.receiptRoot header.receiptHash receiptSha)
  else if header.root ≠ root then some (.merkleRoot header.root root)
  else none

end EscSideChain.Core
