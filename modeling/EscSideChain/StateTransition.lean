import EscSideChain.EvmCall

namespace EscSideChain.Core

open Dpos State Spv WithdrawFailedTx Vm

/-!
# State transitions

`core/state_transition.go`.  `TransitionDb` first looks at what a message is
for: a refund, a recharge and the deployment of the black contract are lent
`PassBalance`, so that an account without money can send them, and leave a
deferred function behind that takes the loan back.  Then it buys gas, runs the
message and pays the miner.  The deferred function runs last, on every way out.
-/

inductive CoreError where
  | gasLimitReached
  | nonceTooHigh
  | nonceTooLow
  | insufficientBalanceForGas
  | intrinsicGas (available wanted : Nat)
  | mainTxHashPresence
  | elaToEthAddress
  | refunded
  | smallCrossTxVerify
  | vm (err : VmError)
  | other (reason : String)
  deriving DecidableEq

structure Message where
  sender : Address
  recipient : Option Address
  gasPrice : Int
  gas : Nat
  value : Int
  nonce : UInt64
  checkNonce : Bool
  data : Bytes
  accessList : List (Address × List Hash)

structure ExecutionResult where
  usedGas : Nat := 0
  err : Option CoreError := none
  returnData : Bytes := []

/--
`StateTransition` with what it works on: the state, the store of recharges and
the gas pool of the block.
-/
structure Transition where
  world : World
  store : SpvStore
  gasPool : Nat
  gas : Nat
  initialGas : Nat

/-- What a message is lent `PassBalance` for. -/
inductive Loan where
  | unneeded
  | refund
  | recharge (datas : List RechargeData) (fee : Int)
  | blackContract

/-- What `TransitionDb` has reached when it returns, and the results of its calls. -/
structure Execution where
  st : Transition
  result : ExecutionResult
  vmerr : Option VmError
  err : Option CoreError
  calls : List Result

namespace Transition

def db (st : Transition) : StateDB :=
  st.world.db

def withDb (st : Transition) (db : StateDB) : Transition :=
  { st with world := { st.world with db := db } }

def gasUsed (st : Transition) : Nat :=
  st.initialGas - st.gas

end Transition

def Execution.refuse (st : Transition) (err : CoreError) : Execution where
  st := st
  result := {}
  vmerr := none
  err := some err
  calls := []

variable (evm : Evm)

/-! ## What a message is for -/

/--
`dealSmallCrossTx`, with the store it leaves behind: nothing if the data is no
small cross-chain transfer, otherwise its id and whether it is verified.  Taking
the first two bytes of a shorter id fails.
-/
def dealSmallCrossTx (store : SpvStore) (data : Bytes) :
    SpvStore × Option (Bytes × Except String Bool) :=
  match isSmallCrossTxByData evm.format evm.pbftEngine data with
  | none => (store, none)
  | some tx =>
    if tx.rawTxID.length < 2 then
      (store, some (tx.rawTxID, .error "runtime error: slice bounds out of range"))
    else
      match verifySmallCrossTx evm.format evm.spvService evm.ela evm.pbftEngine store tx with
      | .error reason => (store, some (tx.rawTxID, .error reason))
      | .ok false => (store, some (tx.rawTxID, .ok false))
      | .ok true =>
        match hexDecodeString tx.rawTx with
        | none => (store, some (tx.rawTxID, .error (hexDecodeError tx.rawTx)))
        | some buff =>
          match evm.format.deserializeTransaction buff with
          | .error reason => (store, some (tx.rawTxID, .error reason))
          | .ok txn =>
            (notifySmallCrossTx evm.format evm.spvService store txn, some (tx.rawTxID, .ok true))

def rechargeRequest (store : SpvStore) (data : Bytes) :
    SpvStore × Except CoreError (Option Bytes) :=
  if 32 < data.length then
    match dealSmallCrossTx evm store data with
    | (stored, none) => (stored, .ok none)
    | (stored, some (_, .error reason)) => (stored, .error (.other reason))
    | (stored, some (_, .ok false)) => (stored, .error .smallCrossTxVerify)
    | (stored, some (rawTxID, .ok true)) => (stored, .ok (some rawTxID))
  else if data.length = 32 then (store, .ok (some (hexutilEncode data)))
  else (store, .ok none)

def unpayable (data : RechargeData) : Bool :=
  data.targetAddress = blackAddr || data.targetAmount < data.fee

def admitRecharge (db : StateDB) (store : SpvStore) (txhash : Bytes) :
    SpvStore × Except CoreError (List RechargeData × Int) :=
  match trySetRechargeDataFromSpvService evm.format evm.spvService store txhash with
  | (stored, .error _) => (stored, .error .elaToEthAddress)
  | (stored, .ok ()) =>
    match getRechargeDataByTxhash evm.format evm.spvService stored txhash with
    | .error _ => (stored, .error .elaToEthAddress)
    | .ok (datas, fee) =>
      if datas = [] then (stored, .error .elaToEthAddress)
      else if db.getState blackAddr (hexToHash txhash) ≠ emptyHash then
        (stored, .error .mainTxHashPresence)
      else if datas.any unpayable then (stored, .error .elaToEthAddress)
      else (stored, .ok (datas, fee))

/-- The amount `PassBalance` of a loan. -/
def passBalance : Int :=
  evm.config.passBalance.toNat

/-- Lend the sender `PassBalance`. -/
def lend (msg : Message) (st : Transition) : Transition :=
  st.withDb (st.db.addBalance msg.sender (passBalance evm))

def deploysBlackContract (db : StateDB) (msg : Message) : Bool :=
  evm.addressString (evm.createAddress msg.sender (db.getNonce msg.sender)) =
    evm.config.blackContractAddr

/-- The part of `TransitionDb` that a message to the zero address takes. -/
def admitToZero (st : Transition) (msg : Message) : Transition × Except CoreError Loan :=
  match evm.isWithdawFailedTx st.db msg.data with
  | .error reason => (st, .error (.other reason))
  | .ok (true, txhash) =>
    if st.db.getState blackAddr (hexToHash txhash) ≠ emptyHash then (st, .error .refunded)
    else (lend evm msg st, .ok .refund)
  | .ok (false, _) =>
    match rechargeRequest evm st.store msg.data with
    | (store, .error err) => ({ st with store := store }, .error err)
    | (store, .ok none) => ({ st with store := store }, .ok .unneeded)
    | (store, .ok (some txhash)) =>
      match admitRecharge evm st.db store txhash with
      | (stored, .error err) => ({ st with store := stored }, .error err)
      | (stored, .ok (datas, fee)) =>
        (lend evm msg { st with store := stored }, .ok (.recharge datas fee))

/-- The part of `TransitionDb` before its first deferred return. -/
def admitMessage (st : Transition) (msg : Message) : Transition × Except CoreError Loan :=
  match msg.recipient with
  | some addr =>
    if addr = blackAddr then admitToZero evm st msg
    else (st, .ok .unneeded)
  | none =>
    if deploysBlackContract evm st.db msg then (lend evm msg st, .ok .blackContract)
    else (st, .ok .unneeded)

/-! ## Gas -/

def Message.mgval (msg : Message) : Int :=
  msg.gas * msg.gasPrice

def bought (st : Transition) (msg : Message) : Transition :=
  { st.withDb (st.db.subBalance msg.sender msg.mgval) with
    gasPool := st.gasPool - msg.gas
    gas := st.gas + msg.gas
    initialGas := msg.gas }

/-- `buyGas`, with `SubGas` of the pool. -/
def buyGas (st : Transition) (msg : Message) : Except CoreError Transition :=
  if st.db.getBalance msg.sender < msg.mgval then .error .insufficientBalanceForGas
  else if st.gasPool < msg.gas then .error .gasLimitReached
  else .ok (bought st msg)

def preCheck (st : Transition) (msg : Message) : Except CoreError Transition :=
  let nonce := st.db.getNonce msg.sender
  if msg.checkNonce ∧ nonce < msg.nonce then .error .nonceTooHigh
  else if msg.checkNonce ∧ nonce > msg.nonce then .error .nonceTooLow
  else buyGas st msg

/-- The largest number of the type `uint64`. -/
def maxUint64 : Nat := 2 ^ 64 - 1

def intrinsicGas (data : Bytes) (contractCreation isEIP155 isEIP2028 : Bool) :
    Except CoreError Nat :=
  let base := if contractCreation && isEIP155 then 53000 else 21000
  if (isSmallCrossTxByData evm.format evm.pbftEngine data).isSome then .ok base
  else
    let nonZero := data.countP fun byte => byte ≠ 0
    let nonZeroGas := if isEIP2028 then 16 else 68
    if (maxUint64 - base) / nonZeroGas < nonZero then .error (.vm .outOfGas)
    else
      let gas := base + nonZero * nonZeroGas
      let zeros := data.length - nonZero
      if (maxUint64 - gas) / 4 < zeros then .error (.vm .outOfGas)
      else .ok (gas + zeros * 4)

def returnGas (refund : Nat) (st : Transition) (msg : Message) : Transition :=
  let gas := st.gas + refund
  { st.withDb (st.db.addBalance msg.sender (gas * msg.gasPrice)) with
    gas := gas
    gasPool := st.gasPool + gas }

def refundGas (st : Transition) (msg : Message) : Transition :=
  returnGas (min (st.gasUsed / 2) st.db.refund) st msg

def refundBridgeGas (st : Transition) (msg : Message) : Transition :=
  returnGas st.gasUsed st msg

def isBridgeContract (db : StateDB) (msg : Message) : Bool :=
  let bridge := hexToAddress evm.config.bridgeContractAddr
  evm.config.bridgeContractAddr ≠ [] && bridge ≠ blackAddr && db.getCode bridge ≠ [] &&
    (evm.setArbiterList.isPrefixOf msg.data || evm.setManualArbiter.isPrefixOf msg.data)

def payDevelopers (subFee : Int) : List Bytes → StateDB → Int → StateDB × Int
  | [], db, minerFee => (db, minerFee)
  | account :: rest, db, minerFee =>
    payDevelopers subFee rest (db.addBalance (hexToAddress account) subFee) (minerFee - subFee)

def payMiner (db : StateDB) (minerFee : Int) : StateDB :=
  let developers := evm.config.developerContract
  if developers ≠ [] ∧ evm.config.isdeveloperSplitfeeTime then
    let subFee := minerFee * 50 / 100 / developers.length
    let paid := payDevelopers subFee developers db minerFee
    paid.1.addBalance evm.coinbase paid.2
  else db.addBalance evm.coinbase minerFee

def Loan.isFree : Loan → Bool
  | .refund => true
  | .blackContract => true
  | _ => false

def payFee (loan : Loan) (st : Transition) (msg : Message) : Transition :=
  let fee : Int := st.gasUsed * msg.gasPrice
  if loan.isFree then st.withDb (st.db.addBalance msg.sender fee)
  else st.withDb (payMiner evm st.db fee)

/-! ## Running a message -/

def prepareAccessList (db : StateDB) (msg : Message) : StateDB :=
  let slots := msg.accessList.flatMap fun entry =>
    (entry.1, none) :: entry.2.map fun key => (entry.1, some key)
  let warm :=
    if evm.rules.isShanghai then [(evm.coinbase, none)] else []
  { db with
    accessList := (msg.sender, none) :: (msg.recipient.toList ++ evm.activePrecompiles).map
        (fun addr => (addr, none)) ++ slots ++ warm
    transientStorage := fun _ _ => emptyHash }

def callEach (msg : Message) (addr : Address) :
    List (Option RechargeData) → Transition → Transition × List Result
  | [], st => (st, [])
  | recharge :: rest, st =>
    let called := evm.topCall st.world msg.sender addr msg.data st.gas msg.value recharge
    let others := callEach msg addr rest { st with world := called.1, gas := called.2.gas }
    (others.1, called.2 :: others.2)

def Loan.arguments : Loan → List (Option RechargeData)
  | .recharge datas _ => if datas = [] then [none] else datas.map some
  | _ => [none]

def perform (loan : Loan) (st : Transition) (msg : Message) : Transition × List Result :=
  match msg.recipient with
  | none =>
    let created := evm.topCreate st.world msg.sender msg.data st.gas msg.value
    ({ st with world := created.1, gas := created.2.gas }, [created.2])
  | some addr =>
    callEach evm msg addr loan.arguments
      (st.withDb (st.db.setNonce msg.sender (st.db.getNonce msg.sender + 1)))

def prepared (st : Transition) (msg : Message) : Transition :=
  if evm.rules.isBerlin then st.withDb (prepareAccessList evm st.db msg)
  else st

def payOut (loan : Loan) (vmerr : Option VmError) (st : Transition) (msg : Message) : Transition :=
  if isBridgeContract evm st.db msg ∧ vmerr = none then payFee evm loan (refundBridgeGas st msg) msg
  else payFee evm loan (refundGas st msg) msg

/-- `TransitionDb` from the calls on; only the last call's result counts. -/
def runMessage (loan : Loan) (st : Transition) (msg : Message) : Execution :=
  let performed := perform evm loan (prepared evm st msg) msg
  let last := performed.2.getLast?
  let vmerr := last.bind Result.err
  let ret := (last.map Result.ret).getD []
  if vmerr = some .withdawrefundCallFailed then
    { st := performed.1
      result := ⟨0, vmerr.map .vm, ret⟩
      vmerr := vmerr
      err := vmerr.map .vm
      calls := performed.2 }
  else
    let final := payOut evm loan vmerr performed.1 msg
    { st := final
      result := ⟨final.gasUsed, vmerr.map .vm, ret⟩
      vmerr := vmerr
      err := none
      calls := performed.2 }

/-- `TransitionDb` between the loan and the deferred function. -/
def execute (loan : Loan) (st : Transition) (msg : Message) : Execution :=
  match preCheck st msg with
  | .error err => .refuse st err
  | .ok checked =>
    match intrinsicGas evm msg.data msg.recipient.isNone
        evm.rules.isHomestead evm.rules.isIstanbul with
    | .error err => .refuse checked err
    | .ok gas =>
      if checked.gas < gas then .refuse checked (.intrinsicGas checked.gas gas)
      else runMessage evm loan { checked with gas := checked.gas - gas } msg

/-! ## The deferred functions -/

def Execution.revert (snapshot : StateDB) (execution : Execution) : Execution :=
  { execution with
    st := execution.st.withDb snapshot
    result := {}
    err := some (execution.err.getD .gasLimitReached) }

def Execution.repay (msg : Message) (execution : Execution) : Execution :=
  { execution with
    st := execution.st.withDb (execution.st.db.subBalance msg.sender (passBalance evm)) }

def Execution.usedFee (msg : Message) (execution : Execution) : Int :=
  execution.st.gasUsed * msg.gasPrice

def Execution.repayOrRevert (snapshot : StateDB) (msg : Message)
    (execution : Execution) : Execution :=
  if execution.st.db.getBalance msg.sender < passBalance evm then execution.revert snapshot
  else execution.repay evm msg

def settleRefund (snapshot : StateDB) (msg : Message) (execution : Execution) : Execution :=
  if execution.st.db.getBalance msg.sender < execution.usedFee msg ∨ execution.vmerr ≠ none then
    let reverted := execution.revert snapshot
    { reverted with
      result := { reverted.result with err := reverted.err } }
  else execution.repayOrRevert evm snapshot msg

def settleRecharge (datas : List RechargeData) (fee : Int) (snapshot : StateDB) (msg : Message)
    (execution : Execution) : Execution :=
  if datas.any fun data => data.fee ≤ 0 then execution.revert snapshot
  else
    let paid := { execution with
      st := execution.st.withDb (execution.st.db.addBalance msg.sender fee) }
    if fee < execution.usedFee msg then paid.revert snapshot
    else paid.repayOrRevert evm snapshot msg

def settleLoan : Loan → StateDB → Message → Execution → Execution
  | .unneeded, _, _, execution => execution
  | .refund, snapshot, msg, execution => settleRefund evm snapshot msg execution
  | .recharge datas fee, snapshot, msg, execution =>
    settleRecharge evm datas fee snapshot msg execution
  | .blackContract, snapshot, msg, execution => execution.repayOrRevert evm snapshot msg

def transitionDb (st : Transition) (msg : Message) : Execution :=
  match admitMessage evm st msg with
  | (refused, .error err) => .refuse refused err
  | (admitted, .ok loan) => settleLoan evm loan st.db msg (execute evm loan admitted msg)

/-- `ApplyMessage`, with a new `StateTransition`. -/
def applyMessage (world : World) (store : SpvStore) (gasPool : Nat) (msg : Message) : Execution :=
  transitionDb evm ⟨world, store, gasPool, 0, 0⟩ msg

end EscSideChain.Core
