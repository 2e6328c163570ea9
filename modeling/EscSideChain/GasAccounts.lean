import EscSideChain.GasExemption
import EscSideChain.PaidOnce

namespace EscSideChain.Core

open Dpos State Spv WithdrawFailedTx Vm

/-!
# The gas accounts of the miner

`commitTransaction` of `miner/worker.go` applies a transaction to the block that is
being made, and reverts the state if there is an error.  The gas pool is not part of
the state: what `buyGas` took out of it stays out, unless the transaction comes to
the point where the remaining gas is returned, and what was used until then is added
to the header only if there is no error at all.
-/

variable {evm : Evm} {loan : Loan} {st : Transition} {msg : Message}

/-! ## The block in the making -/

/-- The block that the miner works on, with its gas pool and its state. -/
structure MinerBlock where
  gasLimit : Nat
  gasUsed : Nat
  gasPool : Nat
  db : StateDB

namespace MinerBlock

def start (gasLimit : Nat) (db : StateDB) : MinerBlock where
  gasLimit := gasLimit
  gasUsed := 0
  gasPool := gasLimit
  db := db

def submit (block : MinerBlock) (submission : Submission) : Submission :=
  { submission with
    gasPool := block.gasPool
    usedGas := block.gasUsed }

def commitTransaction (block : MinerBlock) (submission : Submission) : MinerBlock :=
  match (block.submit submission).apply block.db with
  | (left, .error _) => { block with gasPool := left.gasPool }
  | (left, .ok receipt) =>
    { block with
      gasUsed := receipt.cumulativeGasUsed
      gasPool := left.gasPool
      db := left.db }

def Balanced (block : MinerBlock) : Prop :=
  block.gasPool + block.gasUsed = block.gasLimit

end MinerBlock

/-! ## Admission -/

theorem admitMessage_gasPool (evm : Evm) (st : Transition) (msg : Message) :
    (admitMessage evm st msg).1.gasPool = st.gasPool := by
  have toZero : (admitToZero evm st msg).1.gasPool = st.gasPool := by
    unfold admitToZero
    split
    · rfl
    · split <;> rfl
    · split
      · rfl
      · rfl
      · split <;> rfl
  unfold admitMessage
  split
  · split
    · exact toZero
    · rfl
  · split <;> rfl

variable {admitted : Transition} {execution : Execution} {gas : Nat}

theorem transitionDb_of_admitted (admission : admitMessage evm st msg = (admitted, .ok loan)) :
    transitionDb evm st msg = settleLoan evm loan st.db msg (execute evm loan admitted msg) := by
  rw [transitionDb, admission]

/-! ## Buying gas -/

/-- `preCheck` lets a message buy its gas. -/
structure CanBuyGas (st : Transition) (msg : Message) : Prop where
  nonce : msg.checkNonce = true → st.db.getNonce msg.sender = msg.nonce
  funds : msg.mgval ≤ st.db.getBalance msg.sender
  room : msg.gas ≤ st.gasPool

theorem preCheck_of_canBuyGas (canBuy : CanBuyGas st msg) :
    preCheck st msg = .ok (bought st msg) := by
  have notHigher : ¬(msg.checkNonce = true ∧ st.db.getNonce msg.sender < msg.nonce) := by
    rintro ⟨checks, lower⟩
    rw [canBuy.nonce checks] at lower
    exact UInt64.lt_irrefl _ lower
  have notLower : ¬(msg.checkNonce = true ∧ st.db.getNonce msg.sender > msg.nonce) := by
    rintro ⟨checks, higher⟩
    rw [canBuy.nonce checks] at higher
    exact UInt64.lt_irrefl _ higher
  unfold preCheck buyGas
  rw [if_neg notHigher, if_neg notLower, if_neg (not_lt.2 canBuy.funds),
    if_neg (not_lt.2 canBuy.room)]

theorem preCheck_of_not_canBuyGas (cannotBuy : ¬CanBuyGas st msg) :
    ∃ err, preCheck st msg = .error err := by
  unfold preCheck buyGas
  dsimp only
  split
  · exact ⟨_, rfl⟩
  next notHigher =>
    split
    · exact ⟨_, rfl⟩
    next notLower =>
      split
      · exact ⟨_, rfl⟩
      next funds =>
        split
        · exact ⟨_, rfl⟩
        next room =>
          refine absurd ⟨fun checks => ?_, not_lt.1 funds, not_lt.1 room⟩ cannotBuy
          refine UInt64.le_antisymm ?_ ?_
          · exact UInt64.not_lt.1 fun lower =>
              notLower ⟨checks, lower⟩
          · exact UInt64.not_lt.1 fun higher =>
              notHigher ⟨checks, higher⟩

theorem execute_of_not_canBuyGas (evm : Evm) (loan : Loan) (cannotBuy : ¬CanBuyGas st msg) :
    (execute evm loan st msg).err ≠ none ∧ (execute evm loan st msg).st.gasPool = st.gasPool := by
  obtain ⟨err, refused⟩ := preCheck_of_not_canBuyGas cannotBuy
  rw [execute, refused]
  exact ⟨Option.some_ne_none _, rfl⟩

/-! ## The calls -/

def CoversIntrinsic (evm : Evm) (msg : Message) (gas : Nat) : Prop :=
  intrinsicGas evm msg.data msg.recipient.isNone evm.rules.isHomestead
      evm.rules.isIstanbul = .ok gas ∧
    gas ≤ msg.gas

def calledWith (evm : Evm) (loan : Loan) (gas : Nat) (st : Transition)
    (msg : Message) : Transition × List Result :=
  perform evm loan (ready evm gas st msg) msg

theorem execute_of_uncovered (loan : Loan) (unused : st.gas = 0) (canBuy : CanBuyGas st msg)
    (uncovered : ∀ gas, ¬CoversIntrinsic evm msg gas) :
    (execute evm loan st msg).err ≠ none ∧
      (execute evm loan st msg).st.gasPool = st.gasPool - msg.gas := by
  rw [execute, preCheck_of_canBuyGas canBuy]
  dsimp only
  cases charge : intrinsicGas evm msg.data msg.recipient.isNone
      evm.rules.isHomestead evm.rules.isIstanbul with
  | error err => exact ⟨Option.some_ne_none _, rfl⟩
  | ok gas =>
    have short : (bought st msg).gas < gas := by
      unfold bought
      dsimp only
      rw [unused, Nat.zero_add]
      exact not_le.1 fun enough => uncovered gas ⟨charge, enough⟩
    dsimp only
    rw [if_pos short]
    exact ⟨Option.some_ne_none _, rfl⟩

theorem callEach_gasPool (addr : Address) (arguments : List (Option RechargeData))
    (st : Transition) : (callEach evm msg addr arguments st).1.gasPool = st.gasPool := by
  induction arguments generalizing st with
  | nil => rfl
  | cons argument rest inductionHypothesis => exact inductionHypothesis _

theorem perform_gasPool (loan : Loan) (st : Transition) :
    (perform evm loan st msg).1.gasPool = st.gasPool := by
  unfold perform
  cases msg.recipient with
  | none => rfl
  | some addr => exact callEach_gasPool addr loan.arguments _

theorem calledWith_gasPool (gas : Nat) :
    (calledWith evm loan gas st msg).1.gasPool = st.gasPool - msg.gas := by
  unfold calledWith
  rw [perform_gasPool]
  unfold ready prepared
  split <;> rfl

theorem execute_of_covers (unused : st.gas = 0) (canBuy : CanBuyGas st msg)
    (covers : CoversIntrinsic evm msg gas) :
    execute evm loan st msg = runMessage evm loan
        { bought st msg with gas := (bought st msg).gas - gas } msg := by
  have enough : ¬(bought st msg).gas < gas := by
    unfold bought
    dsimp only
    rw [unused, Nat.zero_add]
    exact not_lt.2 covers.2
  rw [execute, preCheck_of_canBuyGas canBuy]
  dsimp only
  rw [covers.1]
  dsimp only
  rw [if_neg enough]

theorem runMessage_of_failed
    (failed : lastErr (perform evm loan (prepared evm st msg) msg).2 =
      some .withdawrefundCallFailed) :
    (runMessage evm loan st msg).err = some (.vm .withdawrefundCallFailed) ∧
      (runMessage evm loan st msg).st = (perform evm loan (prepared evm st msg) msg).1 := by
  unfold runMessage
  generalize perform evm loan (prepared evm st msg) msg = performed at failed ⊢
  unfold lastErr at failed
  dsimp only
  rw [failed, if_pos rfl]
  exact ⟨rfl, rfl⟩

theorem runMessage_of_not_failed
    (notFailed : lastErr (perform evm loan (prepared evm st msg) msg).2 ≠
      some .withdawrefundCallFailed) :
    runMessage evm loan st msg = finished evm loan msg
        (perform evm loan (prepared evm st msg) msg) := by
  unfold runMessage
  generalize perform evm loan (prepared evm st msg) msg = performed at notFailed ⊢
  exact if_neg notFailed

theorem execute_of_failed (unused : st.gas = 0) (canBuy : CanBuyGas st msg)
    (covers : CoversIntrinsic evm msg gas)
    (failed : lastErr (calledWith evm loan gas st msg).2 = some .withdawrefundCallFailed) :
    (execute evm loan st msg).err ≠ none ∧
      (execute evm loan st msg).st.gasPool = st.gasPool - msg.gas := by
  obtain ⟨stops, reached⟩ := runMessage_of_failed failed
  rw [execute_of_covers unused canBuy covers, stops, reached]
  exact ⟨Option.some_ne_none _, calledWith_gasPool gas⟩

/-! ## Paying out -/

theorem payOut_gas (loan : Loan) (vmerr : Option VmError) (bounded : st.gas ≤ st.initialGas) :
    (payOut evm loan vmerr st msg).gasPool + (payOut evm loan vmerr st msg).gasUsed =
      st.gasPool + st.initialGas := by
  obtain ⟨refund, covered, paidOut⟩ := @payOut_eq evm msg loan vmerr st bounded
  have pool : (payFee evm loan (returnGas refund st msg) msg).gasPool =
      st.gasPool + (st.gas + refund) := by
    unfold payFee
    split <;> rfl
  rw [paidOut, gasUsed_payFee, gasUsed_returnGas, pool, Transition.gasUsed]
  omega

theorem finished_gas (evm : Evm) (loan : Loan) (gas : Nat) (unused : st.gas = 0)
    (canBuy : CanBuyGas st msg) :
    (finished evm loan msg (calledWith evm loan gas st msg)).st.gasPool +
        (finished evm loan msg (calledWith evm loan gas st msg)).result.usedGas =
      st.gasPool := by
  have readyGas : (ready evm gas st msg).gas ≤ msg.gas ∧
      (ready evm gas st msg).initialGas = msg.gas :=
    ready_gas unused
  have performed :
      (calledWith evm loan gas st msg).1.gas ≤ (ready evm gas st msg).gas ∧
        (calledWith evm loan gas st msg).1.initialGas = (ready evm gas st msg).initialGas :=
    perform_gas loan _
  have bounded : (calledWith evm loan gas st msg).1.gas ≤
      (calledWith evm loan gas st msg).1.initialGas := by
    omega
  refine (payOut_gas loan _ bounded).trans ?_
  rw [calledWith_gasPool, performed.2, readyGas.2]
  exact Nat.sub_add_cancel canBuy.room

theorem usedGas_finished_eq_zero_iff (loan : Loan) (unused : st.gas = 0)
    (covers : CoversIntrinsic evm msg gas) :
    (finished evm loan msg (calledWith evm loan gas st msg)).result.usedGas = 0 ↔
      isBridgeContract evm (calledWith evm loan gas st msg).1.db msg = true ∧
        lastErr (calledWith evm loan gas st msg).2 = none :=
  gasUsed_payOut_eq_zero_iff (gasUsed_perform_pos unused (intrinsicGas_pos covers.1) covers.2 loan)
    loan _

/-! ## Taking the loan back -/

def Loan.Repayable (evm : Evm) (msg : Message) (vmerr : Option VmError)
    (st : Transition) : Loan → Prop
  | .unneeded => True
  | .refund =>
    (st.gasUsed * msg.gasPrice ≤ st.db.getBalance msg.sender ∧ vmerr = none) ∧
      passBalance evm ≤ st.db.getBalance msg.sender
  | .recharge datas fee =>
    (∀ data ∈ datas, 0 < data.fee) ∧ st.gasUsed * msg.gasPrice ≤ fee ∧ passBalance evm ≤
        (st.db.addBalance msg.sender fee).getBalance msg.sender
  | .blackContract => passBalance evm ≤ st.db.getBalance msg.sender

theorem repayOrRevert_err_iff {snapshot : StateDB} (noErr : execution.err = none) :
    (execution.repayOrRevert evm snapshot msg).err = none ↔
      passBalance evm ≤ execution.st.db.getBalance msg.sender := by
  unfold Execution.repayOrRevert
  split
  · next poor => exact iff_of_false (Option.some_ne_none _) (not_le.2 poor)
  · next rich => exact iff_of_true noErr (not_lt.1 rich)

theorem settleLoan_err_iff (snapshot : StateDB) (noErr : execution.err = none) :
    (settleLoan evm loan snapshot msg execution).err = none ↔
      loan.Repayable evm msg execution.vmerr execution.st := by
  cases loan with
  | unneeded => exact iff_of_true noErr trivial
  | blackContract => exact repayOrRevert_err_iff noErr
  | refund =>
    simp only [settleLoan, settleRefund, Loan.Repayable]
    by_cases unpaid : execution.st.db.getBalance msg.sender <
        execution.usedFee msg ∨ execution.vmerr ≠ none
    · rw [if_pos unpaid]
      refine iff_of_false (Option.some_ne_none _) ?_
      rintro ⟨⟨paid, succeeded⟩, _⟩
      rcases unpaid with short | failed
      · exact not_le.2 short paid
      · exact failed succeeded
    · rw [if_neg unpaid]
      rw [not_or, not_lt, not_not] at unpaid
      rw [repayOrRevert_err_iff noErr]
      exact (and_iff_right unpaid).symm
  | recharge datas fee =>
    simp only [settleLoan, settleRecharge, Loan.Repayable]
    split
    · next feeless =>
        refine iff_of_false (Option.some_ne_none _) ?_
        rintro ⟨fees, _⟩
        obtain ⟨data, member, isFree⟩ := List.any_eq_true.1 feeless
        exact not_lt.2 (of_decide_eq_true isFree) (fees data member)
    · next feeless =>
        have fees : ∀ data ∈ datas, 0 < data.fee := by
          intro data member
          exact not_le.1 fun isFree => feeless
            (List.any_eq_true.2 ⟨data, member, decide_eq_true isFree⟩)
        rw [and_iff_right fees]
        by_cases short : fee < execution.usedFee msg
        · rw [if_pos short]
          exact iff_of_false (Option.some_ne_none _) fun paid => not_le.2 short paid.1
        rw [if_neg short]
        refine Iff.trans ?_ (and_iff_right (not_lt.1 short)).symm
        exact repayOrRevert_err_iff noErr

theorem settleLoan_gasPool (evm : Evm) (loan : Loan) (snapshot : StateDB) (msg : Message)
    (execution : Execution) :
    (settleLoan evm loan snapshot msg execution).st.gasPool = execution.st.gasPool := by
  have repaid : ∀ execution : Execution, (execution.repayOrRevert evm snapshot msg).st.gasPool =
        execution.st.gasPool := by
    intro execution
    unfold Execution.repayOrRevert
    split <;> rfl
  cases loan with
  | unneeded => rfl
  | blackContract => exact repaid execution
  | refund =>
    simp only [settleLoan, settleRefund]
    split
    · rfl
    · exact repaid execution
  | recharge datas fee =>
    simp only [settleLoan, settleRecharge]
    split
    · rfl
    split
    · rfl
    · exact repaid _

/-! ## Recording the completion -/

/-- `ApplyTransaction` can record that a transaction completes its id. -/
def Recordable (evm : Evm) (store : SpvStore) (db : StateDB) (tx : Transaction) : Prop :=
  tx.recipient = some blackAddr → ∃ isRefund txHash,
      evm.isWithdawFailedTx db tx.data = .ok (isRefund, txHash) ∧
        (isRefund = false → tx.data.length = 32 →
          (trySetRechargeDataFromSpvService evm.format evm.spvService store
            (hexutilEncode tx.data)).2 = .ok ())

theorem recordCompletion_iff {store : SpvStore} {db : StateDB} {tx : Transaction} :
    (∃ recorded, (recordCompletion evm store db tx).2 = .ok recorded) ↔
      Recordable evm store db tx := by
  unfold recordCompletion Recordable
  split
  · next elsewhere => exact iff_of_true ⟨db, rfl⟩ fun isZero => absurd isZero elsewhere
  next isZero =>
    rw [not_not] at isZero
    rw [forall_prop_of_true isZero]
    cases asked : evm.isWithdawFailedTx db tx.data with
    | error reason => simp
    | ok answer =>
      obtain ⟨isRefund, txHash⟩ := answer
      cases isRefund with
      | true => simp
      | false =>
        dsimp only
        by_cases isHash : tx.data.length = 32
        · rw [if_pos isHash]
          rcases trySetRechargeDataFromSpvService evm.format
              evm.spvService store (hexutilEncode tx.data) with
            ⟨stored, _ | _⟩
          · simp [isHash]
          · dsimp only
            split <;> simp
        · rw [if_neg isHash]
          split <;> simp [isHash]

/-! ## One transaction -/

namespace Submission

variable {submission : Submission} {db : StateDB}

theorem applyMessage_start (submission : Submission) (db : StateDB) (msg : Message) :
    applyMessage submission.evm (submission.start db).world
        (submission.start db).store (submission.start db).gasPool msg =
      transitionDb submission.evm (submission.start db) msg :=
  rfl

theorem apply_of_err {err : CoreError} (isMessage : submission.tx.asMessage = .ok msg)
    (isErr : (transitionDb submission.evm (submission.start db) msg).err = some err) :
    submission.apply db =
      ((transitionDb submission.evm (submission.start db) msg).st, .error err) := by
  unfold apply applyTransaction
  rw [isMessage]
  dsimp only
  rw [applyMessage_start]
  generalize transitionDb submission.evm (submission.start db) msg = execution at isErr ⊢
  rw [isErr]

variable (submission : Submission) (isMessage : submission.tx.asMessage = .ok msg)
  (accepted : (transitionDb submission.evm (submission.start db) msg).err = none)

include isMessage accepted

theorem apply_of_accepted :
    let execution := transitionDb submission.evm (submission.start db) msg
    let recordable := Recordable submission.evm execution.st.store execution.st.db submission.tx
    (¬recordable ∧ ∃ left err, submission.apply db = (left, .error err) ∧
        left.gasPool = execution.st.gasPool) ∨
      (recordable ∧ ∃ left receipt, submission.apply db = (left, .ok receipt) ∧
        left.gasPool = execution.st.gasPool ∧ receipt.gasUsed = execution.result.usedGas ∧
        receipt.cumulativeGasUsed = submission.usedGas + receipt.gasUsed) := by
  unfold apply applyTransaction
  rw [isMessage]
  dsimp only
  rw [applyMessage_start]
  generalize transitionDb submission.evm (submission.start db) msg = execution at accepted ⊢
  rw [accepted, ← recordCompletion_iff]
  generalize recordCompletion submission.evm execution.st.store
    execution.st.db submission.tx = outcome
  obtain ⟨store, err | recorded⟩ := outcome
  · exact .inl ⟨by simp, _, err, rfl, rfl⟩
  · exact .inr ⟨⟨recorded, rfl⟩, _, _, rfl, rfl, rfl, rfl⟩

end Submission

def AccountsForGas (evm : Evm) (loan : Loan) (st : Transition) (msg : Message)
    (tx : Transaction) : Prop :=
  ∃ gas, CoversIntrinsic evm msg gas ∧
    let called := calledWith evm loan gas st msg
    let final := payOut evm loan (lastErr called.2) called.1 msg
    lastErr called.2 ≠ some .withdawrefundCallFailed ∧
      ((isBridgeContract evm called.1.db msg = true ∧ lastErr called.2 = none) ∨
        (loan.Repayable evm msg (lastErr called.2) final ∧
          Recordable evm final.store (loan.settled evm msg final.db) tx))

theorem accountsForGas_iff {tx : Transaction} (covers : CoversIntrinsic evm msg gas) :
    AccountsForGas evm loan st msg tx ↔
      let called := calledWith evm loan gas st msg
      let final := payOut evm loan (lastErr called.2) called.1 msg
      lastErr called.2 ≠ some .withdawrefundCallFailed ∧
        ((isBridgeContract evm called.1.db msg = true ∧ lastErr called.2 = none) ∨
          (loan.Repayable evm msg (lastErr called.2) final ∧
            Recordable evm final.store (loan.settled evm msg final.db) tx)) := by
  constructor
  · rintro ⟨other, otherCovers, accounts⟩
    have same := covers.1.symm.trans otherCovers.1
    cases same
    exact accounts
  · intro accounts
    exact ⟨gas, covers, accounts⟩

namespace MinerBlock

variable {block : MinerBlock} {submission : Submission}

def entry (block : MinerBlock) (submission : Submission) : Transition :=
  (block.submit submission).start block.db

/--
Every transaction that comes to buy gas, and asks for some, accounts for the gas that
it bought.
-/
def GasSafe (block : MinerBlock) (submission : Submission) : Prop :=
  ∀ msg admitted loan, submission.tx.asMessage = .ok msg →
    admitMessage submission.evm (block.entry submission) msg = (admitted, .ok loan) →
    CanBuyGas admitted msg → 0 < msg.gas →
      AccountsForGas submission.evm loan admitted msg submission.tx

theorem balanced_of_error {left : Transition} {err : CoreError} (balanced : block.Balanced)
    (failed : (block.submit submission).apply block.db = (left, .error err)) :
    (block.commitTransaction submission).Balanced ↔ left.gasPool = block.gasPool := by
  unfold commitTransaction
  rw [failed]
  unfold Balanced at balanced ⊢
  dsimp only
  omega

theorem balanced_of_ok {left : Transition} {receipt : TxReceipt} (balanced : block.Balanced)
    (applied : (block.submit submission).apply block.db = (left, .ok receipt))
    (lost : left.gasPool + receipt.gasUsed = block.gasPool)
    (counted : receipt.cumulativeGasUsed = block.gasUsed + receipt.gasUsed) :
    (block.commitTransaction submission).Balanced := by
  unfold commitTransaction
  rw [applied]
  unfold Balanced at balanced ⊢
  dsimp only
  omega

section

variable (balanced : block.Balanced) (isMessage : submission.tx.asMessage = .ok msg)

include balanced isMessage

theorem balanced_of_err
    (failed : (transitionDb submission.evm (block.entry submission) msg).err ≠ none) :
    (block.commitTransaction submission).Balanced ↔
      (transitionDb submission.evm (block.entry submission) msg).st.gasPool = block.gasPool := by
  obtain ⟨err, isErr⟩ := Option.ne_none_iff_exists'.1 failed
  exact balanced_of_error balanced (Submission.apply_of_err isMessage isErr)

theorem balanced_of_execute_err {loan : Loan}
    (admission : admitMessage submission.evm (block.entry submission) msg = (admitted, .ok loan))
    (failed : (execute submission.evm loan admitted msg).err ≠ none) :
    (block.commitTransaction submission).Balanced ↔
      (execute submission.evm loan admitted msg).st.gasPool = block.gasPool := by
  have settled := transitionDb_of_admitted admission
  have stillFailed : (transitionDb submission.evm (block.entry submission) msg).err ≠ none := by
    rw [settled]
    intro accepted
    exact failed (settleLoan_ok accepted).1
  rw [balanced_of_err balanced isMessage stillFailed, settled, settleLoan_gasPool]

theorem balanced_of_settled {loan : Loan} {snapshot : StateDB}
    (settles : transitionDb submission.evm (block.entry submission) msg =
      settleLoan submission.evm loan snapshot msg execution)
    (noErr : execution.err = none)
    (gasLeft : execution.st.gasPool + execution.result.usedGas = block.gasPool) :
    (block.commitTransaction submission).Balanced ↔ execution.result.usedGas = 0 ∨
        (loan.Repayable submission.evm msg execution.vmerr execution.st ∧
          Recordable submission.evm execution.st.store
            (loan.settled submission.evm msg execution.st.db) submission.tx) := by
  have samePool := settleLoan_gasPool submission.evm loan snapshot msg execution
  have unused_iff : execution.st.gasPool = block.gasPool ↔ execution.result.usedGas = 0 := by omega
  rw [← settles] at samePool
  by_cases repayable : loan.Repayable submission.evm msg execution.vmerr execution.st
  · have accepted := (settleLoan_err_iff snapshot noErr).2 repayable
    obtain ⟨_, final, _, result, _⟩ := settleLoan_ok accepted
    rw [← settles] at accepted final result
    have sameStore := congrArg Transition.store final
    have sameDb := congrArg Transition.db final
    change _ = execution.st.store at sameStore
    change _ = loan.settled submission.evm msg execution.st.db at sameDb
    rw [and_iff_right repayable, ← sameStore, ← sameDb]
    rcases (block.submit submission).apply_of_accepted isMessage accepted with
      ⟨unrecorded, left, err, failed, pool⟩ |
      ⟨recordable, left, receipt, applied, pool, used, counted⟩
    · rw [balanced_of_error balanced failed, pool.trans samePool, unused_iff]
      exact (or_iff_left unrecorded).symm
    · refine iff_of_true (balanced_of_ok balanced applied ?_ counted) (.inr recordable)
      rw [pool, used]
      exact (congrArg₂ (· + ·) samePool (congrArg ExecutionResult.usedGas result)).trans gasLeft
  · have failed : (transitionDb submission.evm (block.entry submission) msg).err ≠ none := by
      rw [settles]
      exact fun accepted =>
        repayable ((settleLoan_err_iff snapshot noErr).1 accepted)
    rw [balanced_of_err balanced isMessage failed, samePool,
      or_iff_left fun both => repayable both.1]
    exact unused_iff

end

section

variable (balanced : block.Balanced) (isMessage : submission.tx.asMessage = .ok msg) {loan : Loan}
  (admission : admitMessage submission.evm (block.entry submission) msg = (admitted, .ok loan))
  (samePool : admitted.gasPool = block.gasPool)

include balanced isMessage admission samePool

theorem balanced_of_finished (unused : admitted.gas = 0)
    (canBuy : CanBuyGas admitted msg) (covers : CoversIntrinsic submission.evm msg gas)
    (notFailed : lastErr (calledWith submission.evm loan gas admitted msg).2 ≠
        some .withdawrefundCallFailed) :
    (block.commitTransaction submission).Balanced ↔
      AccountsForGas submission.evm loan admitted msg submission.tx := by
  have settles := transitionDb_of_admitted admission
  rw [execute_of_covers unused canBuy covers, runMessage_of_not_failed notFailed] at settles
  have gasLeft := (finished_gas submission.evm loan gas unused canBuy).trans samePool
  rw [accountsForGas_iff covers]
  rw [and_iff_right notFailed, ← usedGas_finished_eq_zero_iff loan unused covers]
  exact balanced_of_settled balanced isMessage settles rfl gasLeft

theorem balanced_of_admitted :
    (block.commitTransaction submission).Balanced ↔ block.GasSafe submission := by
  have unused : admitted.gas = 0 := (admitMessage_ok admission).gas_eq
  have gasSafe_iff : block.GasSafe submission ↔
      (CanBuyGas admitted msg → 0 < msg.gas →
        AccountsForGas submission.evm loan admitted msg submission.tx) := by
    constructor
    · intro safe
      exact safe msg admitted loan isMessage admission
    · intro accounts other otherAdmitted otherLoan isOther otherAdmission
      rw [isMessage] at isOther
      cases isOther
      rw [admission] at otherAdmission
      cases otherAdmission
      exact accounts
  rw [gasSafe_iff]
  by_cases canBuy : CanBuyGas admitted msg
  · rw [forall_prop_of_true canBuy]
    have room := canBuy.room
    by_cases covered : ∃ gas, CoversIntrinsic submission.evm msg gas
    · obtain ⟨gas, covers⟩ := covered
      have positive := (intrinsicGas_pos covers.1).trans_le covers.2
      rw [forall_prop_of_true positive]
      by_cases failed : lastErr (calledWith submission.evm loan gas admitted msg).2 =
            some .withdawrefundCallFailed
      · obtain ⟨isErr, left⟩ := execute_of_failed unused canBuy covers failed
        rw [balanced_of_execute_err balanced isMessage admission isErr, left]
        refine iff_of_false (by omega) fun accounts => ?_
        exact ((accountsForGas_iff covers).1 accounts).1 failed
      · exact balanced_of_finished balanced isMessage admission samePool unused canBuy covers failed
    · have uncovered := not_exists.1 covered
      obtain ⟨isErr, left⟩ := execute_of_uncovered loan unused canBuy uncovered
      rw [balanced_of_execute_err balanced isMessage admission isErr, left]
      constructor
      · intro same
        omega
      · intro accounts
        by_contra changed
        obtain ⟨gas, covers, _⟩ := accounts (by omega)
        exact uncovered gas covers
  · obtain ⟨isErr, left⟩ := execute_of_not_canBuyGas submission.evm loan canBuy
    rw [balanced_of_execute_err balanced isMessage admission isErr, left]
    exact iff_of_true samePool fun buys => absurd buys canBuy

end

theorem balanced_iff_gasSafe (submission : Submission) (balanced : block.Balanced) :
    (block.commitTransaction submission).Balanced ↔ block.GasSafe submission := by
  cases isMessage : submission.tx.asMessage with
  | error reason =>
    have refused : (block.submit submission).apply block.db =
        (block.entry submission, .error (.other reason)) := by
      unfold Submission.apply applyTransaction
      rw [show (block.submit submission).tx.asMessage = .error reason
        from isMessage]
      rfl
    refine iff_of_true ((balanced_of_error balanced refused).2 rfl) ?_
    intro msg admitted loan isOk
    rw [isMessage] at isOk
    cases isOk
  | ok msg =>
    have samePool := admitMessage_gasPool submission.evm (block.entry submission) msg
    cases admission : admitMessage submission.evm (block.entry submission) msg with
    | mk admitted outcome =>
      rw [admission] at samePool
      cases outcome with
      | error err =>
        have refused : transitionDb submission.evm
            (block.entry submission) msg = .refuse admitted err := by
          rw [transitionDb, admission]
        refine iff_of_true ((balanced_of_err balanced isMessage ?_).2 ?_) ?_
        · rw [refused]
          exact Option.some_ne_none _
        · rw [refused]
          exact samePool
        · intro other otherAdmitted loan isOther otherAdmission
          rw [isMessage] at isOther
          cases isOther
          rw [admission] at otherAdmission
          cases otherAdmission
      | ok loan => exact balanced_of_admitted balanced isMessage admission samePool

/-! ## Runs -/

/--
On a new block, the gas accounts are balanced after every call of `commitTransaction`
exactly if every transaction accounts for the gas that it buys.
-/
theorem along_balanced_iff (gasLimit : Nat) (db : StateDB) (submissions : List Submission) :
    EventRuns.Along (fun block submission =>
          (block.commitTransaction submission).Balanced)
        commitTransaction (start gasLimit db) submissions ↔
      EventRuns.Along GasSafe commitTransaction (start gasLimit db)
        submissions := by
  refine EventRuns.along_congr Balanced ?_ ?_ (Nat.add_zero gasLimit)
  · intro block submission balanced
    exact balanced_iff_gasSafe submission balanced
  · intro block submission balancedAfter _
    exact balancedAfter

end MinerBlock

namespace Sample

/-- A recharge at a price that its fee does not pay for, by an account with money. -/
def dearRecharge : Submission :=
  submitted idle { transaction blackAddr 0 mainTx with gasPrice := 1000000 }

def minerBlock : MinerBlock :=
  .start 200000 (emptyState.addBalance (account 3) 1000000000000)

end Sample

/--
The recharge is reverted because its fee is too low, but the gas that it used is not
returned to the pool.
-/
theorem MinerBlock.dear_recharge_unbalances :
    ¬(Sample.minerBlock.commitTransaction Sample.dearRecharge).Balanced := by
  unfold Balanced
  decide +kernel

end EscSideChain.Core
