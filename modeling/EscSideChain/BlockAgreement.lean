import EscSideChain.BlockImport
import EscSideChain.NodeAnswers
import EscSideChain.PaidOnce

namespace EscSideChain.Core

open Dpos State Spv WithdrawFailedTx Vm Pbft

/-!
# Two nodes execute a block

A block is executed on two nodes that share the chain but not what each of them
keeps for itself: the collected refund signatures, the list of failed recharges,
the SPV service, the consensus engine and the RPC client.  Where the answers of
these agree, the two executions go step by step alike and end with the same
state, the same receipts and the same verdict on the block.
-/

/-! ## Stores of recharges -/

/--
Two stores with the same entries.  Each node has its own list of failed
recharges, which no transaction changes.
-/
structure AlikeStores (failed failed' : List Bytes) (first second : SpvStore) : Prop where
  transactionDb_eq : second.transactionDb = first.transactionDb
  spvTxhash_eq : second.spvTxhash = first.spvTxhash
  failedFirst : first.failedTxList = failed
  failedSecond : second.failedTxList = failed'

variable {evm : Evm} {other : NodeData} {totals : Set Nat}
variable {failed failed' : List Bytes}

section Stores

variable {first second : SpvStore}

section

variable (alike : AlikeStores failed failed' first second)

include alike

theorem AlikeStores.putOutputs (txHash fees addresses amounts memos : Bytes) :
    AlikeStores failed failed' (first.putOutputs txHash fees addresses amounts memos)
      (second.putOutputs txHash fees addresses amounts memos) := by
  unfold SpvStore.putOutputs
  rw [alike.spvTxhash_eq, alike.transactionDb_eq]
  split
  · exact alike
  · exact ⟨rfl, rfl, alike.failedFirst, alike.failedSecond⟩

theorem AlikeStores.onReceivedRechargeTx (format : ElaFormat) (tx : ElaTx) :
    AlikeStores failed failed' (Spv.onReceivedRechargeTx format first tx)
      (Spv.onReceivedRechargeTx format second tx) := by
  unfold Spv.onReceivedRechargeTx
  split
  · exact alike
  · exact alike
  · exact alike.putOutputs _ _ _ _ _

theorem AlikeStores.savePayloadInfo (format : ElaFormat) (tx : ElaTx) :
    AlikeStores failed failed' (Spv.savePayloadInfo format first tx)
      (Spv.savePayloadInfo format second tx) := by
  unfold Spv.savePayloadInfo
  split
  · exact alike.onReceivedRechargeTx format tx
  · exact alike.putOutputs _ _ _ _ _

end

/-- The part of `TrySetRechargeDataFromSpvService` that asks the service. -/
def fetchRecharge (format : ElaFormat) (mainChainTx : Option (Hash → Except String (Option ElaTx)))
    (store : SpvStore) (elaHash : Bytes) : SpvStore × Except String Unit :=
  match format.uint256FromHexString elaHash with
  | .error reason => (store, .error reason)
  | .ok txID =>
    match mainChainTx with
    | none => (store, .error "runtime error: invalid memory address")
    | some getTransaction =>
      match getTransaction txID with
      | .error reason => (store, .error reason)
      | .ok none => (store, .error ("not recharge tx: " ++ asciiText elaHash))
      | .ok (some tx) =>
        if tx.isTransferCrossChainAsset = false then
          (store, .error ("not recharge tx: " ++ asciiText elaHash))
        else (savePayloadInfo format store tx, .ok ())

theorem trySetRechargeDataFromSpvService_eq (format : ElaFormat) (service : Option RechargeService)
    (store : SpvStore) (txhash : Bytes) :
    trySetRechargeDataFromSpvService format service store txhash =
      let found := findOutputFeeAndaddressByTxHash format service store (strip0x txhash)
      if found.1 ≤ 0 ∧ found.2.2 ≤ 0 ∧ found.2.1 = blackAddr then
        fetchRecharge format (service.map RechargeService.getTransaction) store (strip0x txhash)
      else
        (store, .ok ()) := by
  cases service <;> rfl

theorem fetchRecharge_alike (alike : AlikeStores failed failed' first second) (format : ElaFormat)
    (mainChainTx : Option (Hash → Except String (Option ElaTx))) (elaHash : Bytes) :
    Paired (AlikeStores failed failed') (fetchRecharge format mainChainTx first elaHash)
      (fetchRecharge format mainChainTx second elaHash) := by
  unfold fetchRecharge
  split
  · exact ⟨alike, rfl⟩
  split
  · exact ⟨alike, rfl⟩
  split
  · exact ⟨alike, rfl⟩
  · exact ⟨alike, rfl⟩
  · split
    · exact ⟨alike, rfl⟩
    · exact ⟨alike.savePayloadInfo format _, rfl⟩

variable (same : SameAnswers evm other totals failed failed')
variable (alike : AlikeStores failed failed' first second)

include same alike

theorem isFailedElaTx_eq (elaTx : Bytes) :
    isFailedElaTx (evm.on other).format (evm.on other).spvService second elaTx =
      isFailedElaTx evm.format evm.spvService first elaTx := by
  have verdicts := congrFun (congrArg Answers.isFailed same.answers) elaTx
  unfold isFailedElaTx
  rw [alike.failedFirst, alike.failedSecond]
  exact verdicts

theorem findOutputFeeAndaddressByTxHash_eq (transactionHash : Bytes) :
    findOutputFeeAndaddressByTxHash (evm.on other).format
        (evm.on other).spvService second transactionHash =
      findOutputFeeAndaddressByTxHash evm.format evm.spvService first
        transactionHash := by
  unfold findOutputFeeAndaddressByTxHash
  dsimp only
  rw [alike.transactionDb_eq, isFailedElaTx_eq same alike]
  rfl

theorem getRechargeDataByTxhash_eq (txhash : Bytes) :
    getRechargeDataByTxhash (evm.on other).format (evm.on other).spvService second txhash =
      getRechargeDataByTxhash evm.format evm.spvService first
        txhash := by
  unfold getRechargeDataByTxhash
  dsimp only
  rw [alike.transactionDb_eq, isFailedElaTx_eq same alike]
  rfl

theorem trySetRechargeDataFromSpvService_alike (txhash : Bytes) :
    Paired (AlikeStores failed failed')
      (trySetRechargeDataFromSpvService evm.format evm.spvService first txhash)
      (trySetRechargeDataFromSpvService (evm.on other).format
        (evm.on other).spvService second txhash) := by
  have answers : (evm.on other).spvService.map RechargeService.getTransaction =
        evm.spvService.map RechargeService.getTransaction :=
    congrArg Answers.mainChainTx same.answers
  rw [trySetRechargeDataFromSpvService_eq, trySetRechargeDataFromSpvService_eq]
  dsimp only
  rw [findOutputFeeAndaddressByTxHash_eq same alike, answers]
  split
  · exact fetchRecharge_alike alike _ _ _
  · exact ⟨alike, rfl⟩

theorem verifySmallCrossTx_eq (tx : SmallCrossTx) :
    verifySmallCrossTx (evm.on other).format (evm.on other).spvService
        (evm.on other).ela (evm.on other).pbftEngine second tx =
      verifySmallCrossTx evm.format evm.spvService evm.ela evm.pbftEngine first tx := by
  have answers := congrArg Answers.smallCrossTx same.answers
  unfold Evm.answers at answers
  dsimp only at answers
  unfold verifySmallCrossTx
  rw [findOutputFeeAndaddressByTxHash_eq same alike]
  cases isOther : (evm.on other).pbftEngine with
  | none =>
    cases isOwn : evm.pbftEngine with
    | none => rfl
    | some pbft =>
      rw [isOther, isOwn] at answers
      cases answers
  | some pbft' =>
    cases isOwn : evm.pbftEngine with
    | none =>
      rw [isOther, isOwn] at answers
      cases answers
    | some pbft =>
      rw [isOther, isOwn] at answers
      have verdicts := congrFun (congrFun (congrFun
        (Option.some.inj answers) tx.rawTx) tx.signatures) tx.blockHeight
      dsimp only at verdicts ⊢
      rw [verdicts]

theorem notifySmallCrossTx_alike (tx : ElaTx) :
    AlikeStores failed failed' (notifySmallCrossTx evm.format evm.spvService first tx)
      (notifySmallCrossTx (evm.on other).format (evm.on other).spvService second tx) := by
  unfold notifySmallCrossTx
  rw [findOutputFeeAndaddressByTxHash_eq same alike]
  dsimp only
  split
  · exact alike
  · exact alike.savePayloadInfo evm.format tx

end Stores

/-! ## Admission -/

section Admission

variable (same : SameAnswers evm other totals failed failed')

include same

variable {first second : SpvStore} (alike : AlikeStores failed failed' first second)

include alike

theorem dealSmallCrossTx_alike (data : Bytes) :
    Paired (AlikeStores failed failed') (dealSmallCrossTx evm first data)
      (dealSmallCrossTx (evm.on other) second data) := by
  unfold dealSmallCrossTx
  rw [Evm.isSmallCrossTxByData_eq same]
  split
  · exact ⟨alike, rfl⟩
  next tx isSmall =>
    rw [verifySmallCrossTx_eq same alike, Evm.on_format]
    split
    · exact ⟨alike, rfl⟩
    split
    · exact ⟨alike, rfl⟩
    · exact ⟨alike, rfl⟩
    · split
      · exact ⟨alike, rfl⟩
      split
      · exact ⟨alike, rfl⟩
      · exact ⟨notifySmallCrossTx_alike same alike _, rfl⟩

theorem rechargeRequest_alike (data : Bytes) :
    Paired (AlikeStores failed failed') (rechargeRequest evm first data)
      (rechargeRequest (evm.on other) second data) := by
  obtain ⟨stored, stored', answer, stores, dealt, dealt'⟩ :=
    (dealSmallCrossTx_alike same alike data).exists_eq
  unfold rechargeRequest
  rw [dealt, dealt']
  split
  · rcases answer with _ | ⟨rawTxID, reason | verified⟩
    · exact ⟨stores, rfl⟩
    · exact ⟨stores, rfl⟩
    · cases verified with
      | false => exact ⟨stores, rfl⟩
      | true => exact ⟨stores, rfl⟩
  · split
    · exact ⟨alike, rfl⟩
    · exact ⟨alike, rfl⟩

theorem admitRecharge_alike (db : StateDB) (txhash : Bytes) :
    Paired (AlikeStores failed failed') (admitRecharge evm db first txhash)
      (admitRecharge (evm.on other) db second txhash) := by
  obtain ⟨stored, stored', answer, stores, tried, tried'⟩ :=
    (trySetRechargeDataFromSpvService_alike same alike txhash).exists_eq
  unfold admitRecharge
  rw [tried, tried']
  cases answer with
  | error reason => exact ⟨stores, rfl⟩
  | ok _ =>
    dsimp only
    rw [getRechargeDataByTxhash_eq same stores]
    split
    · exact ⟨stores, rfl⟩
    split
    · exact ⟨stores, rfl⟩
    split
    · exact ⟨stores, rfl⟩
    split
    · exact ⟨stores, rfl⟩
    · exact ⟨stores, rfl⟩

end Admission

/-! ## Transitions -/

structure AlikeTransitions (totals : Set Nat) (failed failed' : List Bytes)
    (first second : Transition) : Prop where
  world : AlikeWorlds totals first.world second.world
  store : AlikeStores failed failed' first.store second.store
  gasPool_eq : second.gasPool = first.gasPool
  gas_eq : second.gas = first.gas
  initialGas_eq : second.initialGas = first.initialGas

namespace AlikeTransitions

variable {first second : Transition}

variable (alike : AlikeTransitions totals failed failed' first second)

include alike

theorem db_eq : second.db = first.db :=
  alike.world.db_eq

theorem gasUsed_eq : second.gasUsed = first.gasUsed := by
  rw [Transition.gasUsed, alike.initialGas_eq, alike.gas_eq]
  rfl

theorem withDb (db : StateDB) :
    AlikeTransitions totals failed failed' (first.withDb db) (second.withDb db) :=
  ⟨alike.world.withDb db, alike.store, alike.gasPool_eq, alike.gas_eq, alike.initialGas_eq⟩

theorem withStore {store store' : SpvStore} (stores : AlikeStores failed failed' store store') :
    AlikeTransitions totals failed failed'
      { first with store := store } { second with store := store' } :=
  ⟨alike.world, stores, alike.gasPool_eq, alike.gas_eq, alike.initialGas_eq⟩

theorem withGas (gas : Nat) :
    AlikeTransitions totals failed failed' { first with gas := gas } { second with gas := gas } :=
  ⟨alike.world, alike.store, alike.gasPool_eq, rfl, alike.initialGas_eq⟩

theorem after
    {outcome outcome' : World × Result} (outcomes : Paired (AlikeWorlds totals) outcome outcome') :
    AlikeTransitions totals failed failed' { first with world := outcome.1, gas := outcome.2.gas }
      { second with world := outcome'.1, gas := outcome'.2.gas } :=
  ⟨outcomes.state, alike.store, alike.gasPool_eq,
    congrArg Result.gas outcomes.answer_eq, alike.initialGas_eq⟩

theorem lend (msg : Message) :
    AlikeTransitions totals failed failed' (Core.lend evm msg first)
      (Core.lend (evm.on other) msg second) := by
  unfold Core.lend
  rw [alike.db_eq]
  exact alike.withDb _

end AlikeTransitions

variable {second first : Transition}

section

variable (same : SameAnswers evm other totals failed failed')
  (alike : AlikeTransitions totals failed failed' first second) (msg : Message)

include same alike

theorem admitToZero_alike :
    Paired (AlikeTransitions totals failed failed') (admitToZero evm first msg)
      (admitToZero (evm.on other) second msg) := by
  have asks : (evm.on other).isWithdawFailedTx first.db msg.data =
      evm.isWithdawFailedTx first.db msg.data :=
    congrFun (congrFun (congrArg Answers.asksRefund same.answers) first.db) msg.data
  unfold admitToZero
  rw [alike.db_eq, asks]
  split
  · exact ⟨alike, rfl⟩
  · split
    · exact ⟨alike, rfl⟩
    · exact ⟨alike.lend msg, rfl⟩
  · obtain ⟨stored, stored', request, stores, requested, requested'⟩ :=
      (rechargeRequest_alike same alike.store msg.data).exists_eq
    rw [requested, requested']
    rcases request with err | _ | txhash
    · exact ⟨alike.withStore stores, rfl⟩
    · exact ⟨alike.withStore stores, rfl⟩
    · obtain ⟨kept, kept', admission, stores, admitted, admitted'⟩ :=
        (admitRecharge_alike same stores first.db txhash).exists_eq
      dsimp only
      rw [admitted, admitted']
      rcases admission with err | ⟨datas, fee⟩
      · exact ⟨alike.withStore stores, rfl⟩
      · exact ⟨(alike.withStore stores).lend msg, rfl⟩

theorem admitMessage_alike :
    Paired (AlikeTransitions totals failed failed') (admitMessage evm first msg)
      (admitMessage (evm.on other) second msg) := by
  have deploys (db : StateDB) : deploysBlackContract (evm.on other) db
      msg = deploysBlackContract evm db msg := rfl
  unfold admitMessage
  rw [alike.db_eq, deploys]
  split
  · split
    · exact admitToZero_alike same alike msg
    · exact ⟨alike, rfl⟩
  split
  · exact ⟨alike.lend msg, rfl⟩
  · exact ⟨alike, rfl⟩

end

/-! ## Messages -/

theorem preCheck_alike
    (alike : AlikeTransitions totals failed failed' first second) (msg : Message) :
    Agreeing (AlikeTransitions totals failed failed')
      (preCheck first msg) (preCheck second msg) := by
  have bought : AlikeTransitions totals failed failed' (bought first msg) (bought second msg) := by
    refine ⟨⟨?_, alike.world.calls_eq, alike.world.collector⟩, alike.store, ?_, ?_, rfl⟩
    · exact congrArg (StateDB.subBalance · msg.sender msg.mgval) alike.db_eq
    · exact congrArg (· - msg.gas) alike.gasPool_eq
    · exact congrArg (· + msg.gas) alike.gas_eq
  unfold preCheck buyGas
  rw [alike.db_eq, alike.gasPool_eq]
  dsimp only
  split
  · exact .error _
  split
  · exact .error _
  split
  · exact .error _
  split
  · exact .error _
  · exact .ok bought

theorem prepared_alike (evm : Evm) (other : NodeData)
    (alike : AlikeTransitions totals failed failed' first second) (msg : Message) :
    AlikeTransitions totals failed failed' (prepared evm first msg)
      (prepared (evm.on other) second msg) := by
  unfold prepared
  rw [alike.db_eq, Evm.on_rules]
  split
  · exact alike.withDb _
  · exact alike

section

variable (same : SameAnswers evm other totals failed failed')
  (alike : AlikeTransitions totals failed failed' first second)

include same alike

theorem callEach_alike (msg : Message) (addr : Address) (arguments : List (Option RechargeData)) :
    Paired (AlikeTransitions totals failed failed') (callEach evm msg addr arguments first)
      (callEach (evm.on other) msg addr arguments second) := by
  induction arguments generalizing first second with
  | nil => exact ⟨alike, rfl⟩
  | cons argument rest inductionHypothesis =>
    have called : Paired _
        (evm.topCall first.world msg.sender addr msg.data first.gas msg.value argument) _ :=
      Evm.enter_alike same _ alike.world _
    unfold callEach
    rw [alike.gas_eq]
    have others := inductionHypothesis (alike.after called)
    exact ⟨others.state, congrArg₂ List.cons called.answer_eq others.answer_eq⟩

theorem perform_alike (loan : Loan) (msg : Message) :
    Paired (AlikeTransitions totals failed failed') (perform evm loan first msg)
      (perform (evm.on other) loan second msg) := by
  unfold perform
  rw [alike.db_eq, alike.gas_eq]
  split
  · have created : Paired _ (evm.topCreate first.world msg.sender msg.data first.gas msg.value) _ :=
      Evm.enter_alike same _ alike.world _
    exact ⟨alike.after created, congrArg (fun result => [result]) created.answer_eq⟩
  · exact callEach_alike same (alike.withDb _) msg _ _

end

theorem returnGas_alike
    (alike : AlikeTransitions totals failed failed' first second) (refund : Nat) (msg : Message) :
    AlikeTransitions totals failed failed' (returnGas refund first msg)
      (returnGas refund second msg) := by
  have paid := alike.withDb (first.db.addBalance msg.sender
    ((first.gas + refund : Nat) * msg.gasPrice))
  unfold returnGas
  rw [alike.gas_eq, alike.db_eq, alike.gasPool_eq]
  exact ⟨paid.world, paid.store, rfl, rfl, paid.initialGas_eq⟩

section

variable (evm : Evm) (other : NodeData)
  (alike : AlikeTransitions totals failed failed' first second) (loan : Loan)

include alike

theorem payFee_alike (msg : Message) :
    AlikeTransitions totals failed failed' (payFee evm loan first msg)
      (payFee (evm.on other) loan second msg) := by
  have miner (db : StateDB) (fee : Int) :
      payMiner (evm.on other) db fee = payMiner evm db fee := rfl
  unfold payFee
  rw [alike.gasUsed_eq, alike.db_eq]
  dsimp only
  rw [miner]
  split
  · exact alike.withDb _
  · exact alike.withDb _

theorem payOut_alike (vmerr : Option VmError) (msg : Message) :
    AlikeTransitions totals failed failed' (payOut evm loan vmerr first msg)
      (payOut (evm.on other) loan vmerr second msg) := by
  have bridge (db : StateDB) : isBridgeContract (evm.on other) db msg =
      isBridgeContract evm db msg := rfl
  unfold payOut refundBridgeGas refundGas
  rw [alike.gasUsed_eq, alike.db_eq, bridge]
  split
  · exact payFee_alike evm other (returnGas_alike alike _ msg) loan msg
  · exact payFee_alike evm other (returnGas_alike alike _ msg) loan msg

end

structure AlikeExecutions (totals : Set Nat) (failed failed' : List Bytes)
    (first second : Execution) : Prop where
  st : AlikeTransitions totals failed failed' first.st second.st
  result_eq : second.result = first.result
  vmerr_eq : second.vmerr = first.vmerr
  err_eq : second.err = first.err
  calls_eq : second.calls = first.calls

section

variable (same : SameAnswers evm other totals failed failed')
  (alike : AlikeTransitions totals failed failed' first second) (loan : Loan) (msg : Message)

include same alike

theorem runMessage_alike :
    AlikeExecutions totals failed failed' (runMessage evm loan first msg)
      (runMessage (evm.on other) loan second msg) := by
  have performed := perform_alike same (prepared_alike evm other alike msg) loan msg
  unfold runMessage
  dsimp only
  rw [performed.answer_eq]
  split
  · exact ⟨performed.state, rfl, rfl, rfl, rfl⟩
  have paid := payOut_alike evm other performed.state loan
    ((perform evm loan (prepared evm first msg) msg).2.getLast?.bind Result.err) msg
  refine ⟨paid, ?_, rfl, rfl, rfl⟩
  rw [paid.gasUsed_eq]

theorem execute_alike :
    AlikeExecutions totals failed failed' (execute evm loan first msg)
      (execute (evm.on other) loan second msg) := by
  have gas : intrinsicGas (evm.on other) msg.data msg.recipient.isNone
      (evm.on other).rules.isHomestead (evm.on other).rules.isIstanbul =
        intrinsicGas evm msg.data msg.recipient.isNone
          evm.rules.isHomestead evm.rules.isIstanbul := by
    unfold intrinsicGas
    rw [Evm.isSmallCrossTxByData_eq same]
    rfl
  have refused {first second : Transition}
      (alike : AlikeTransitions totals failed failed' first second) (err : CoreError) :
      AlikeExecutions totals failed failed' (.refuse first err) (.refuse second err) :=
    ⟨alike, rfl, rfl, rfl, rfl⟩
  have checks := preCheck_alike alike msg
  unfold execute
  rw [gas]
  generalize preCheck first msg = checked at checks ⊢
  generalize preCheck second msg = checked' at checks ⊢
  cases checks with
  | error err => exact refused alike err
  | ok bought =>
    dsimp only
    split
    · exact refused bought _
    rw [bought.gas_eq]
    split
    · exact refused bought _
    · exact runMessage_alike same (bought.withGas _) loan msg

end

/-! ## The deferred functions -/

namespace AlikeExecutions

variable {first second : Execution}

variable (alike : AlikeExecutions totals failed failed' first second)

include alike

theorem revert (snapshot : StateDB) :
    AlikeExecutions totals failed failed' (first.revert snapshot) (second.revert snapshot) := by
  unfold Execution.revert
  rw [alike.err_eq]
  exact ⟨alike.st.withDb snapshot, rfl, alike.vmerr_eq, rfl, alike.calls_eq⟩

theorem withDb (db : StateDB) :
    AlikeExecutions totals failed failed' { first with st := first.st.withDb db }
      { second with st := second.st.withDb db } :=
  ⟨alike.st.withDb db, alike.result_eq, alike.vmerr_eq, alike.err_eq, alike.calls_eq⟩

theorem repayOrRevert (evm : Evm) (other : NodeData) (snapshot : StateDB) (msg : Message) :
    AlikeExecutions totals failed failed' (first.repayOrRevert evm snapshot msg)
      (second.repayOrRevert (evm.on other) snapshot msg) := by
  have balance : passBalance (evm.on other) = passBalance evm := rfl
  unfold Execution.repayOrRevert Execution.repay
  rw [alike.st.db_eq, balance]
  split
  · exact alike.revert snapshot
  · exact alike.withDb _

theorem usedFee_eq (msg : Message) : second.usedFee msg = first.usedFee msg := by
  unfold Execution.usedFee
  rw [alike.st.gasUsed_eq]

theorem settleRefund (evm : Evm) (other : NodeData) (snapshot : StateDB) (msg : Message) :
    AlikeExecutions totals failed failed' (Core.settleRefund evm snapshot msg first)
      (Core.settleRefund (evm.on other) snapshot msg second) := by
  unfold Core.settleRefund
  rw [alike.st.db_eq, alike.usedFee_eq, alike.vmerr_eq]
  split
  · have reverted := alike.revert snapshot
    refine ⟨reverted.st, ?_, reverted.vmerr_eq, reverted.err_eq, reverted.calls_eq⟩
    dsimp only
    rw [reverted.result_eq, reverted.err_eq]
  · exact alike.repayOrRevert evm other snapshot msg

theorem settleRecharge (evm : Evm)
    (other : NodeData) (datas : List RechargeData) (fee : Int) (snapshot : StateDB)
    (msg : Message) :
    AlikeExecutions totals failed failed' (Core.settleRecharge evm datas fee snapshot msg first)
      (Core.settleRecharge (evm.on other) datas fee snapshot msg second) := by
  unfold Core.settleRecharge
  rw [alike.st.db_eq, alike.usedFee_eq]
  split
  · exact alike.revert snapshot
  have paid := alike.withDb (first.st.db.addBalance msg.sender fee)
  split
  · exact paid.revert snapshot
  · exact paid.repayOrRevert evm other snapshot msg

theorem settleLoan (evm : Evm)
    (other : NodeData) (loan : Loan) (snapshot : StateDB) (msg : Message) :
    AlikeExecutions totals failed failed' (Core.settleLoan evm loan snapshot msg first)
      (Core.settleLoan (evm.on other) loan snapshot msg second) := by
  cases loan with
  | unneeded => exact alike
  | blackContract => exact alike.repayOrRevert evm other snapshot msg
  | refund => exact alike.settleRefund evm other snapshot msg
  | recharge datas fee => exact alike.settleRecharge evm other datas fee snapshot msg

end AlikeExecutions

theorem transitionDb_alike (same : SameAnswers evm other totals failed failed')
    (alike : AlikeTransitions totals failed failed' first second) (msg : Message) :
    AlikeExecutions totals failed failed' (transitionDb evm first msg)
      (transitionDb (evm.on other) second msg) := by
  obtain ⟨st, st', admission, admitted, isFirst, isSecond⟩ :=
    (admitMessage_alike same alike msg).exists_eq
  unfold transitionDb
  rw [isFirst, isSecond, alike.db_eq]
  cases admission with
  | error err => exact ⟨admitted, rfl, rfl, rfl, rfl⟩
  | ok loan => exact (execute_alike same admitted loan msg).settleLoan evm other loan first.db msg

/-! ## Transactions -/

theorem recordCompletion_alike (same : SameAnswers evm other totals failed failed')
    {first second : SpvStore} (alike : AlikeStores failed failed' first second) (db : StateDB)
    (tx : Transaction) :
    Paired (AlikeStores failed failed') (recordCompletion evm first db tx)
      (recordCompletion (evm.on other) second db tx) := by
  have asks : (evm.on other).isWithdawFailedTx db tx.data = evm.isWithdawFailedTx db tx.data :=
    congrFun (congrFun (congrArg Answers.asksRefund same.answers) db) tx.data
  obtain ⟨stored, stored', answer, stores, tried, tried'⟩ :=
    (trySetRechargeDataFromSpvService_alike same alike (hexutilEncode tx.data)).exists_eq
  unfold recordCompletion
  dsimp only
  rw [asks, tried, tried', Evm.isSmallCrossTxByData_eq same]
  split
  · exact ⟨alike, rfl⟩
  split
  · exact ⟨alike, rfl⟩
  · exact ⟨alike, rfl⟩
  · split
    · cases answer with
      | error reason => exact ⟨stores, rfl⟩
      | ok _ =>
        dsimp only
        rw [findOutputFeeAndaddressByTxHash_eq same stores]
        split
        · exact ⟨stores, rfl⟩
        · exact ⟨stores, rfl⟩
    · split
      · exact ⟨alike, rfl⟩
      · exact ⟨alike, rfl⟩

theorem applyTransaction_alike (same : SameAnswers evm other totals failed failed')
    (alike : AlikeTransitions totals failed failed' first second)
    (usedGas : Nat) (dirties : Address → Bool) (tx : Transaction) :
    Paired (AlikeTransitions totals failed failed') (applyTransaction evm first usedGas dirties tx)
      (applyTransaction (evm.on other) second usedGas dirties tx) := by
  unfold applyTransaction
  split
  · exact ⟨alike, rfl⟩
  next msg isMessage =>
    have started : AlikeTransitions totals failed failed'
        ⟨first.world, first.store, first.gasPool, 0, 0⟩
        ⟨second.world, second.store, second.gasPool, 0, 0⟩ :=
      ⟨alike.world, alike.store, alike.gasPool_eq, rfl, rfl⟩
    have executed := transitionDb_alike same started msg
    unfold applyMessage
    generalize transitionDb evm ⟨first.world, first.store, first.gasPool, 0, 0⟩ msg = execution
      at executed ⊢
    generalize transitionDb (evm.on other)
      ⟨second.world, second.store, second.gasPool, 0, 0⟩ msg = execution' at executed ⊢
    obtain ⟨stored, stored', answer, stores, recorded, recorded'⟩ :=
      (recordCompletion_alike same executed.st.store execution.st.db tx).exists_eq
    dsimp only
    rw [executed.err_eq, executed.st.db_eq, recorded, recorded']
    split
    · exact ⟨executed.st, rfl⟩
    cases answer with
    | error err => exact ⟨executed.st.withStore stores, rfl⟩
    | ok final =>
      rw [executed.result_eq]
      exact ⟨(executed.st.withDb _).withStore stores, rfl⟩

/-! ## Blocks -/

structure ChainTx where
  evm : Evm
  dirties : Address → Bool
  tx : Transaction

def ChainTx.on (chainTx : ChainTx) (node : NodeData) : BlockTx where
  evm := chainTx.evm.on node
  dirties := chainTx.dirties
  tx := chainTx.tx

/--
A transaction that two nodes run, with what each keeps for itself at that time.
-/
structure SharedTx where
  chainTx : ChainTx
  first : NodeData
  second : NodeData

def SharedTx.Agrees (totals : Set Nat) (failed failed' : List Bytes) (shared : SharedTx) : Prop :=
  SameAnswers (shared.chainTx.evm.on shared.first) shared.second totals failed failed'

structure AlikeProgress (totals : Set Nat) (failed failed' : List Bytes)
    (first second : Progress) : Prop where
  db_eq : second.db = first.db
  collector : AlikeCollectors totals first.collector second.collector
  store : AlikeStores failed failed' first.store second.store
  gasPool_eq : second.gasPool = first.gasPool
  usedGas_eq : second.usedGas = first.usedGas
  receipts_eq : second.receipts = first.receipts

theorem applyNext_alike {first second : Progress}
    (alike : AlikeProgress totals failed failed' first second) {shared : SharedTx}
    (agrees : shared.Agrees totals failed failed') :
    Paired (AlikeProgress totals failed failed') (first.applyNext (shared.chainTx.on shared.first))
      (second.applyNext (shared.chainTx.on shared.second)) := by
  have started : AlikeTransitions totals failed failed'
      ((first.submission (shared.chainTx.on shared.first)).start first.db)
      ((second.submission (shared.chainTx.on shared.second)).start second.db) := by
    refine ⟨⟨?_, rfl, alike.collector⟩, alike.store, alike.gasPool_eq, rfl, rfl⟩
    exact congrArg (fun db : StateDB =>
      { db with logs := [], movements := [] }) alike.db_eq
  obtain ⟨st, st', answer, reached, isFirst, isSecond⟩ :=
    (applyTransaction_alike agrees started first.usedGas
      shared.chainTx.dirties shared.chainTx.tx).exists_eq
  have ranFirst : (first.submission (shared.chainTx.on shared.first)).apply first.db =
        (st, answer) :=
    isFirst
  have ranSecond : (second.submission (shared.chainTx.on shared.second)).apply second.db =
        (st', answer) := by
    rw [← isSecond, ← alike.usedGas_eq]
    rfl
  unfold Progress.applyNext
  rw [ranFirst, ranSecond]
  cases answer with
  | error err =>
    exact ⟨⟨reached.db_eq, reached.world.collector, reached.store,
      reached.gasPool_eq, alike.usedGas_eq, alike.receipts_eq⟩, rfl⟩
  | ok receipt =>
    exact ⟨⟨reached.db_eq, reached.world.collector, reached.store, reached.gasPool_eq, rfl,
      congrArg (· ++ [receipt]) alike.receipts_eq⟩, rfl⟩

theorem processTransactions_alike (transactions : List SharedTx)
    (agree : ∀ shared ∈ transactions, shared.Agrees totals failed failed') {first second : Progress}
    (alike : AlikeProgress totals failed failed' first second) :
    Paired (AlikeProgress totals failed failed')
      (processTransactions (transactions.map fun shared =>
        shared.chainTx.on shared.first) first)
      (processTransactions (transactions.map fun shared =>
        shared.chainTx.on shared.second) second) := by
  induction transactions generalizing first second with
  | nil => exact ⟨alike, rfl⟩
  | cons shared rest inductionHypothesis =>
    obtain ⟨progress, progress', stop, reached, isFirst, isSecond⟩ :=
      (applyNext_alike alike (agree shared List.mem_cons_self)).exists_eq
    rw [List.map_cons, List.map_cons, processTransactions, processTransactions, isFirst, isSecond]
    cases stop with
    | some err => exact ⟨reached, rfl⟩
    | none => exact inductionHypothesis (fun other member => agree other (.tail _ member)) reached

structure SharedBlock where
  header : Header
  transactions : List SharedTx

def SharedBlock.onFirst (block : SharedBlock) : Block where
  header := block.header
  transactions := block.transactions.map fun shared =>
    shared.chainTx.on shared.first

def SharedBlock.onSecond (block : SharedBlock) : Block where
  header := block.header
  transactions := block.transactions.map fun shared =>
    shared.chainTx.on shared.second

def executeBlock (rules : ProcessRules) (validator : StateValidator) (block : Block)
    (progress : Progress) : Progress × Option ImportError :=
  match process rules block progress with
  | (reached, some err) => (reached, some (.process err))
  | (reached, none) => (reached, (validateState validator block reached).map .validate)

theorem validateState_eq (validator : StateValidator) (block : SharedBlock)
    {first second : Progress} (alike : AlikeProgress totals failed failed' first second) :
    validateState validator block.onSecond second =
      validateState validator block.onFirst first := by
  have transactions : block.onSecond.transactions.map BlockTx.tx =
      block.onFirst.transactions.map BlockTx.tx := by
    simp only [SharedBlock.onSecond, SharedBlock.onFirst, List.map_map]
    rfl
  unfold validateState
  rw [transactions, alike.receipts_eq, alike.usedGas_eq, alike.db_eq]
  rfl

theorem executeBlock_alike (rules : ProcessRules) (validator : StateValidator) (block : SharedBlock)
    (agree : ∀ shared ∈ block.transactions, shared.Agrees totals failed failed')
    {first second : Progress} (sameState : second.db = first.db)
    (collectors : AlikeCollectors totals first.collector second.collector)
    (stores : AlikeStores failed failed' first.store second.store) :
    Paired (AlikeProgress totals failed failed') (executeBlock rules validator block.onFirst first)
      (executeBlock rules validator block.onSecond second) := by
  have opened : AlikeProgress totals failed failed' (first.opening rules block.onFirst)
      (second.opening rules block.onSecond) := by
    refine ⟨?_, collectors, stores, rfl, rfl, rfl⟩
    unfold Progress.opening
    rw [sameState]
    rfl
  obtain ⟨progress, progress', stop, reached, isFirst, isSecond⟩ :=
    (processTransactions_alike block.transactions agree opened).exists_eq
  have ranFirst : process rules block.onFirst first = (progress, stop) := isFirst
  have ranSecond : process rules block.onSecond second = (progress', stop) := isSecond
  unfold executeBlock
  rw [ranFirst, ranSecond]
  cases stop with
  | some err => exact ⟨reached, rfl⟩
  | none =>
    exact ⟨reached, congrArg (Option.map ImportError.validate)
      (validateState_eq validator block reached)⟩

/--
Two nodes that start from the same state and give the same answers come to the
same state, the same receipts and the same verdict on a block.
-/
theorem executeBlock_agrees (rules : ProcessRules) (validator : StateValidator)
    (block : SharedBlock) (totals : Set Nat) (first second : Progress)
    (sameState : second.db = first.db)
    (collectors : AlikeCollectors totals first.collector second.collector)
    (stores : AlikeStores first.store.failedTxList
      second.store.failedTxList first.store second.store)
    (agree : ∀ shared ∈ block.transactions, shared.Agrees totals first.store.failedTxList
        second.store.failedTxList) :
    (executeBlock rules validator block.onSecond second).1.db =
        (executeBlock rules validator block.onFirst first).1.db ∧
      (executeBlock rules validator block.onSecond second).1.receipts =
        (executeBlock rules validator block.onFirst first).1.receipts ∧
      (executeBlock rules validator block.onSecond second).2 =
        (executeBlock rules validator block.onFirst first).2 := by
  obtain ⟨reached, verdict⟩ := executeBlock_alike rules validator block
    agree sameState collectors stores
  exact ⟨reached.db_eq, reached.receipts_eq, verdict⟩

/-- Blocks one after the other; the state of a block that is refused is dropped. -/
def executeBlocks (rules : ProcessRules) (validator : StateValidator) :
    List Block → Progress → Progress × List (Option ImportError)
  | [], progress => (progress, [])
  | block :: rest, progress =>
    let (reached, verdict) := executeBlock rules validator block progress
    let next := if verdict.isSome then { reached with db := progress.db } else reached
    let (after, verdicts) := executeBlocks rules validator rest next
    (after, verdict :: verdicts)

/-- Two nodes that give the same answers agree on every sequence of blocks. -/
theorem executeBlocks_agree (rules : ProcessRules) (validator : StateValidator)
    (blocks : List SharedBlock) {first second : Progress}
    (alike : AlikeProgress totals failed failed' first second)
    (agree : ∀ block ∈ blocks, ∀ shared ∈ block.transactions, shared.Agrees totals failed failed') :
    Paired (AlikeProgress totals failed failed')
      (executeBlocks rules validator (blocks.map SharedBlock.onFirst) first)
      (executeBlocks rules validator (blocks.map SharedBlock.onSecond) second) := by
  induction blocks generalizing first second with
  | nil => exact ⟨alike, rfl⟩
  | cons block rest inductionHypothesis =>
    obtain ⟨progress, progress', verdict, reached, isFirst, isSecond⟩ :=
      (executeBlock_alike rules validator block (agree block List.mem_cons_self) alike.db_eq
        alike.collector alike.store).exists_eq
    have next : AlikeProgress totals failed failed'
        (if verdict.isSome then { progress with db := first.db } else progress)
        (if verdict.isSome then { progress' with db := second.db } else progress') := by
      split
      · exact { reached with db_eq := alike.db_eq }
      · exact reached
    obtain ⟨later, verdicts⟩ := inductionHypothesis next
      fun other member => agree other (List.mem_cons_of_mem _ member)
    rw [List.map_cons, List.map_cons, executeBlocks, executeBlocks, isFirst, isSecond]
    exact ⟨later, congrArg (verdict :: ·) verdicts⟩

namespace Sample

def nodeData : NodeData where
  spvService := (node idle).spvService
  pbftEngine := (node idle).pbftEngine
  rpc := (node idle).rpc
  precompile _ := none

def atMainHeight (height : UInt32) : NodeData :=
  { nodeData with
    spvService := nodeData.spvService.map fun spv =>
      { spv with bestHeaderHeight := .ok height } }

def withoutStorage : NodeData :=
  { nodeData with
    rpc := nodeData.rpc.map fun rpc =>
      { rpc with storageAt := fun _ _ => .error "missing trie node" } }

def unsignedRefund : Bytes :=
  withdrawal ++ List.replicate 64 0

def counted (arbiters : List Bytes) : Collector where
  failedTxList _ := arbiters
  verifiedArbiter _ := arbiters

def storesHeight (_ : Frame) : Script :=
  .invoke (.staticCall mainChainLatestHeightAddr [] 0) fun result =>
    .perform (.sstore emptyHash (bytesToHash result.ret)) (.halt [] none)

def sharedBlock (gasUsed : UInt64) (interpreter : Frame → Script) (tx : Transaction)
    (first second : NodeData) : SharedBlock where
  header := { Pbft.Sample.waitingBlock 5 with
    gasLimit := 200000
    gasUsed := gasUsed }
  transactions :=
    [⟨⟨node interpreter, fun _ => true, tx⟩, first, second⟩]

/-- A node before the block, with its collector and its failed recharges. -/
def beforeBlock (collector : Collector) (failed : List Bytes) : Progress where
  db := contractState
  collector := collector
  store := { store with failedTxList := failed }
  gasPool := 0
  usedGas := 0
  receipts := []

def executed (block : Block) (progress : Progress) : Progress × Option ImportError :=
  executeBlock importer.rules importer.validator block progress

def refundBlock : SharedBlock :=
  sharedBlock 21768 idle (transaction blackAddr 0 unsignedRefund) nodeData nodeData

def rechargeBlock : SharedBlock :=
  sharedBlock 21512 idle (transaction blackAddr 0 mainTx) nodeData nodeData

def heightBlock : SharedBlock :=
  sharedBlock 21000 storesHeight (transaction (account 2) 0 []) (atMainHeight 5) (atMainHeight 6)

/-- A block with a refund that is signed, on nodes with different clients. -/
def signedRefundBlock : SharedBlock :=
  sharedBlock 22536 idle (transaction blackAddr 0 refundInput) nodeData withoutStorage

end Sample

open Sample

/--
One node accepts the block and the other one rejects it, if only one of them has
counted an arbiter, lists the recharge as failed, or cannot read the state over
its RPC client; and a different best height of the main chain makes a different
state.
-/
theorem local_data_changes_execution :
    ((executed refundBlock.onFirst (beforeBlock (counted [[1]]) [])).2.isNone = true ∧
      (executed refundBlock.onSecond (beforeBlock Collector.empty [])).2.isSome = true) ∧
    ((executed rechargeBlock.onFirst (beforeBlock Collector.empty [])).2.isNone = true ∧
      (executed rechargeBlock.onSecond
          (beforeBlock Collector.empty [bytes2Hex mainTx])).2.isSome = true) ∧
    ((executed heightBlock.onFirst (beforeBlock Collector.empty [])).1.db.getState
            (account 2) emptyHash = bytesToHash [5] ∧
      (executed heightBlock.onSecond (beforeBlock Collector.empty [])).1.db.getState
            (account 2) emptyHash = bytesToHash [6]) ∧
    ((executed signedRefundBlock.onFirst (beforeBlock Collector.empty [])).2.isNone = true ∧
      (executed signedRefundBlock.onSecond (beforeBlock Collector.empty [])).2.isSome = true) := by
  decide +kernel

namespace Sample

def failedOnce : List Bytes :=
  [bytes2Hex mainTx]

def failedTwice : List Bytes :=
  [hexutilEncode mainTx, bytes2Hex mainTx]

theorem counted_alike {arbiters arbiters' : List Bytes} (nonempty : arbiters ≠ [])
    (nonempty' : arbiters' ≠ []) : AlikeCollectors {1} (counted arbiters) (counted arbiters') where
  backedFirst _ unsigned := unsigned
  backedSecond _ unsigned := unsigned
  reached_iff total seats txid := by
    obtain rfl := Set.mem_singleton_iff.mp seats
    exact iff_of_true (List.length_pos_iff.mpr nonempty') (List.length_pos_iff.mpr nonempty)

theorem refundBlock_agrees :
    ∀ shared ∈ refundBlock.transactions, shared.Agrees {1} failedOnce failedTwice := by
  intro shared member
  obtain rfl := List.mem_singleton.mp member
  refine ⟨Evm.answers_eq _ (by decide +kernel), ?_⟩
  intro arbiters total isArbiters
  cases isArbiters
  exact Set.mem_singleton 1

end Sample

/--
Nodes that have counted different arbiters, and have different lists of failed
recharges, accept the refund alike.
-/
theorem executeBlock_agrees_refund :
    (executed refundBlock.onFirst (beforeBlock (counted [[1]]) failedOnce)).2.isNone = true ∧
      (executed refundBlock.onSecond (beforeBlock (counted [[1], [2]]) failedTwice)).1.db =
        (executed refundBlock.onFirst (beforeBlock (counted [[1]]) failedOnce)).1.db :=
  ⟨by decide +kernel,
    (executeBlock_agrees importer.rules importer.validator refundBlock {1}
      (beforeBlock (counted [[1]]) failedOnce) (beforeBlock (counted [[1], [2]]) failedTwice) rfl
      (counted_alike (by decide) (by decide)) ⟨rfl, rfl, rfl, rfl⟩ refundBlock_agrees).1⟩

theorem executeBlocks_agree_refunds :
    (executeBlocks importer.rules importer.validator
        ((List.replicate 2 refundBlock).map SharedBlock.onSecond)
        (beforeBlock (counted [[1], [2]]) failedTwice)).2 =
      (executeBlocks importer.rules importer.validator
        ((List.replicate 2 refundBlock).map SharedBlock.onFirst)
        (beforeBlock (counted [[1]]) failedOnce)).2 := by
  have alike : AlikeProgress {1} failedOnce failedTwice (beforeBlock (counted [[1]]) failedOnce)
      (beforeBlock (counted [[1], [2]]) failedTwice) :=
    ⟨rfl, counted_alike (by decide) (by decide), ⟨rfl, rfl, rfl, rfl⟩, rfl, rfl, rfl⟩
  refine (executeBlocks_agree _ _ _ alike fun block member => ?_).2
  rw [List.eq_of_mem_replicate member]
  exact refundBlock_agrees

end EscSideChain.Core
