import EscSideChain.GasExemption
import EscSideChain.TxList

namespace EscSideChain.Core

open Dpos State Spv WithdrawFailedTx Vm

/-!
# The checks of the transaction pool

`validateTx` of `core/tx_pool.go`, check by check in the order of the source.
-/

inductive PoolError where
  | known (hash : Hash)
  | oversizedData
  | negativeValue
  | gasLimit
  | invalidSender
  | underpriced
  | replaceUnderpriced
  | lowGasPrice
  | nonceTooLow
  | insufficientFunds
  | mainChainInPowMode
  | core (err : CoreError)
  | intrinsicGas
  | frozenAccount
  | fault (reason : String)
  deriving DecidableEq

/--
What the pool reads of the chain and of its node during an operation.  The size of a
transaction is the length of its encoding.
-/
structure PoolView where
  currentState : StateDB
  currentMaxGas : Nat
  istanbul : Bool
  gasPrice : Int
  minGasPrice : Except String Int
  mainChainIsPowMode : Bool
  frozeAccountList : List Bytes
  isBlacklistedOnChain : Address → Except String Bool
  size : Transaction → Nat

variable (evm : Evm) (view : PoolView)

/-- `ErrX` if a check fails. -/
def PoolError.unless (err : PoolError) (passes : Prop) [Decidable passes] : Except PoolError Unit :=
  if passes then .ok () else .error err

/-! ## Size, value and gas -/

def checkLimits (tx : Transaction) : Except PoolError Unit := do
  PoolError.oversizedData.unless (view.size tx ≤ 32 * 1024)
  PoolError.negativeValue.unless (0 ≤ tx.value)
  PoolError.gasLimit.unless (tx.gas ≤ view.currentMaxGas)

def senderOf (tx : Transaction) : Except PoolError Address :=
  match tx.sender with
  | .error _ => .error .invalidSender
  | .ok sender => .ok sender

def checkPrice (tx : Transaction) (isLocal : Bool) : Except PoolError Unit := do
  PoolError.underpriced.unless (isLocal ∨ view.gasPrice ≤ tx.gasPrice)
  match view.minGasPrice with
  | .error _ => .ok ()
  | .ok minGasPrice => PoolError.lowGasPrice.unless (minGasPrice ≤ tx.gasPrice)

/-! ## Funds -/

def checkBalance (sender : Address) (tx : Transaction) : Except PoolError Unit :=
  PoolError.insufficientFunds.unless (tx.cost ≤ view.currentState.getBalance sender)

def isExemptCall (tx : Transaction) : Except PoolError Bool :=
  match evm.isWithdawFailedTx view.currentState tx.data with
  | .error reason => .error (.fault reason)
  | .ok (isWithdrawRefund, _) =>
    .ok (isWithdrawRefund ||
      (32 < tx.data.length && (isSmallCrossTxByData evm.format evm.pbftEngine tx.data).isSome))

def checkFunds (sender : Address) (tx : Transaction) : Except PoolError Unit :=
  match tx.recipient with
  | some recipient => do
      if recipient ≠ blackAddr then checkBalance view sender tx
      else if tx.data.length ≠ 32 then
        if !(← isExemptCall evm view tx) then checkBalance view sender tx
      PoolError.mainChainInPowMode.unless
        (¬(evm.addressString recipient = evm.config.blackContractAddr ∧
          view.mainChainIsPowMode = true))
  | none =>
    if evm.addressString (evm.createAddress sender (view.currentState.getNonce sender)) ≠
          evm.config.blackContractAddr then
      checkBalance view sender tx
    else .ok ()

/-! ## The intrinsic gas -/

/-- `IntrinsicGas` as the pool calls it. -/
def poolIntrinsicGas (tx : Transaction) : Except CoreError Nat :=
  intrinsicGas evm tx.data tx.recipient.isNone true view.istanbul

def checkIntrinsicGas (tx : Transaction) : Except PoolError Unit :=
  match poolIntrinsicGas evm view tx with
  | .error err => .error (.core err)
  | .ok intrGas => PoolError.intrinsicGas.unless (intrGas ≤ tx.gas)

/-! ## Frozen accounts -/

def isFrozenAccount (account : Address) : Bool :=
  evm.addressString account ∈ view.frozeAccountList ||
    match view.isBlacklistedOnChain account with
    | .error _ => false
    | .ok blacklisted => blacklisted

/-- `transferFrom`, `move` and `pull`, whose first argument is the payer. -/
def payerSelectors : List Bytes :=
  [[0x23, 0xb8, 0x72, 0xdd], [0xfb, 0xcb, 0xc0, 0xf1], [0xf2, 0xd5, 0xd5, 0x6b]]

/-- `transfer`, `push` and `transferAndCall`, whose payer is the caller. -/
def callerSelectors : List Bytes :=
  [[0xa9, 0x05, 0x9c, 0xbb], [0xb7, 0x53, 0xa9, 0x8c], [0x40, 0x00, 0xae, 0xa0]]

def isERC20FromFrozen (tx : Transaction) (sender : Address) : Bool :=
  if tx.recipient.isNone ∨ tx.data.length < 4 then false
  else if tx.data.take 4 ∈ payerSelectors then
    if 4 + 32 ≤ tx.data.length then
      isFrozenAccount evm view (fixedBytes 20 ((tx.data.drop (4 + 12)).take 20))
    else false
  else if tx.data.take 4 ∈ callerSelectors then isFrozenAccount evm view sender
  else false

def checkFrozen (sender : Address) (tx : Transaction) : Except PoolError Unit := do
  PoolError.frozenAccount.unless (¬isFrozenAccount evm view sender = true)
  match tx.recipient with
  | none => .ok ()
  | some recipient =>
    PoolError.frozenAccount.unless (¬isFrozenAccount evm view recipient = true)
    PoolError.frozenAccount.unless (¬isERC20FromFrozen evm view tx recipient = true)
  PoolError.frozenAccount.unless (¬isERC20FromFrozen evm view tx sender = true)

/-! ## `validateTx` -/

/-- `validateTx`; the accounts whose transactions the pool prefers are given. -/
def validateTx (isLocalAccount : Address → Bool) (tx : Transaction)
    (isLocal : Bool) : Except PoolError Unit := do
  checkLimits view tx
  let sender ← senderOf tx
  checkPrice view tx (isLocal || isLocalAccount sender)
  PoolError.nonceTooLow.unless (view.currentState.getNonce sender ≤ tx.nonce)
  checkFunds evm view sender tx
  checkIntrinsicGas evm view tx
  checkFrozen evm view sender tx

end EscSideChain.Core
