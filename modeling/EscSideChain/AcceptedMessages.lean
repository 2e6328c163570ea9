import EscSideChain.EvmTopLevel
import EscSideChain.StateTransition

namespace EscSideChain.Core

open Dpos State Spv WithdrawFailedTx Vm

/-!
# Accepted messages

What `TransitionDb` has done when it returns no error: the message was admitted
with or without a loan, gas was bought, the calls were made, the gas was paid
out and the loan was taken back.  Each part of the function is inverted once,
here.
-/

variable {evm : Evm} {st : Transition} {msg : Message}

/-! ## Admission -/

inductive Admitted (evm : Evm) (st : Transition) (msg : Message) : Transition → Loan → Prop where
  | plain (store : SpvStore)
      (noRefund : msg.recipient = some blackAddr → ∃ text,
        evm.isWithdawFailedTx st.db msg.data = .ok (false, text)) :
      Admitted evm st msg { st with store := store } .unneeded
  | refund {txid : Bytes} (isZero : msg.recipient = some blackAddr)
      (isRefund : evm.isWithdawFailedTx st.db msg.data = .ok (true, txid))
      (unmarked : st.db.getState blackAddr (hexToHash txid) = emptyHash) :
      Admitted evm st msg (lend evm msg st) .refund
  | recharge {stored : SpvStore} {text txhash : Bytes} {datas : List RechargeData} {fee : Int}
      (isZero : msg.recipient = some blackAddr)
      (noRefund : evm.isWithdawFailedTx st.db msg.data = .ok (false, text))
      (named : evm.rechargeHash msg.data = some txhash)
      (read : getRechargeDataByTxhash evm.format evm.spvService stored txhash = .ok (datas, fee))
      (outputs : datas ≠ []) (unmarked : st.db.getState blackAddr (hexToHash txhash) = emptyHash)
      (payable : ∀ data ∈ datas, data.targetAddress ≠ blackAddr ∧ data.fee ≤ data.targetAmount) :
      Admitted evm st msg (lend evm msg { st with store := stored }) (.recharge datas fee)
  | blackContract (isCreation : msg.recipient = none) :
      Admitted evm st msg (lend evm msg st) .blackContract

theorem dealSmallCrossTx_verified {store stored : SpvStore} {data rawTxID : Bytes}
    (verified : dealSmallCrossTx evm store data = (stored, some (rawTxID, .ok true))) :
    (isSmallCrossTxByData evm.format evm.pbftEngine data).map
      SmallCrossTx.rawTxID = some rawTxID := by
  unfold dealSmallCrossTx at verified
  split at verified
  · cases verified
  next tx isSmall =>
    rw [isSmall]
    split at verified
    · cases verified
    split at verified
    · cases verified
    · cases verified
    · split at verified
      · cases verified
      split at verified
      · cases verified
      cases verified
      rfl

theorem rechargeRequest_named {store stored : SpvStore} {data txhash : Bytes}
    (requested : rechargeRequest evm store data = (stored, .ok (some txhash))) :
    evm.rechargeHash data = some txhash := by
  unfold rechargeRequest at requested
  unfold Evm.rechargeHash
  split at requested
  · next long =>
      rw [if_neg (Nat.ne_of_gt long), if_pos long]
      split at requested
      · cases requested
      · cases requested
      · cases requested
      · next verified =>
          cases requested
          exact dealSmallCrossTx_verified verified
  · split at requested
    · next exactly =>
        cases requested
        rw [if_pos exactly]
    · cases requested

theorem admitRecharge_ok {db : StateDB} {store stored : SpvStore} {txhash : Bytes}
    {datas : List RechargeData} {fee : Int}
    (admitted : admitRecharge evm db store txhash = (stored, .ok (datas, fee))) :
    getRechargeDataByTxhash evm.format evm.spvService stored txhash = .ok (datas, fee) ∧
      datas ≠ [] ∧ db.getState blackAddr (hexToHash txhash) = emptyHash ∧
      ∀ data ∈ datas, data.targetAddress ≠ blackAddr ∧ data.fee ≤ data.targetAmount := by
  unfold admitRecharge at admitted
  split at admitted
  · cases admitted
  split at admitted
  · cases admitted
  next read =>
    split at admitted
    · cases admitted
    next outputs =>
      split at admitted
      · cases admitted
      next unmarked =>
        split at admitted
        · cases admitted
        next payable =>
          cases admitted
          refine ⟨read, outputs, not_not.mp unmarked, ?_⟩
          intro data member
          simpa [unpayable] using fun isUnpayable =>
            payable (List.any_eq_true.mpr ⟨data, member, isUnpayable⟩)

theorem admitToZero_ok {admitted : Transition} {loan : Loan}
    (isZero : msg.recipient = some blackAddr)
    (accepted : admitToZero evm st msg = (admitted, .ok loan)) :
    Admitted evm st msg admitted loan := by
  unfold admitToZero at accepted
  split at accepted
  · cases accepted
  · next txhash isRefund =>
      split at accepted
      · cases accepted
      next unmarked =>
        cases accepted
        exact .refund isZero isRefund (not_not.mp unmarked)
  · next text noRefund =>
      split at accepted
      · cases accepted
      · cases accepted
        exact .plain _ fun _ => ⟨text, noRefund⟩
      · next store txhash requested =>
          split at accepted
          · cases accepted
          next stored datas fee recharged =>
            cases accepted
            obtain ⟨read, outputs, unmarked, payable⟩ := admitRecharge_ok recharged
            exact .recharge isZero noRefund (rechargeRequest_named requested) read outputs
              unmarked payable

theorem admitMessage_ok {admitted : Transition} {loan : Loan}
    (accepted : admitMessage evm st msg = (admitted, .ok loan)) :
    Admitted evm st msg admitted loan := by
  unfold admitMessage at accepted
  split at accepted
  · next addr recipient =>
      split at accepted
      · next isZero => exact admitToZero_ok (by rw [recipient, isZero]) accepted
      next notZero =>
        cases accepted
        refine .plain st.store fun isZero => absurd ?_ notZero
        rw [recipient] at isZero
        exact Option.some.inj isZero
  · next isCreation =>
      split at accepted
      · cases accepted
        exact .blackContract isCreation
      cases accepted
      refine .plain st.store ?_
      intro isZero
      rw [isCreation] at isZero
      cases isZero

/-! ## Execution -/

theorem preCheck_ok {checked : Transition} (accepted : preCheck st msg = .ok checked) :
    checked = bought st msg := by
  unfold preCheck buyGas at accepted
  dsimp only at accepted
  split at accepted
  · cases accepted
  split at accepted
  · cases accepted
  split at accepted
  · cases accepted
  split at accepted
  · cases accepted
  cases accepted
  rfl

def ready (evm : Evm) (gas : Nat) (st : Transition) (msg : Message) : Transition :=
  prepared evm { bought st msg with gas := (bought st msg).gas - gas } msg

/-- The error of the last call, the only one that `TransitionDb` looks at. -/
def lastErr (calls : List Result) : Option VmError :=
  calls.getLast?.bind Result.err

def finished (evm : Evm) (loan : Loan) (msg : Message)
    (performed : Transition × List Result) : Execution :=
  let final := payOut evm loan (lastErr performed.2) performed.1 msg
  { st := final
    result := ⟨final.gasUsed, (lastErr performed.2).map .vm,
      (performed.2.getLast?.map Result.ret).getD []⟩
    vmerr := lastErr performed.2
    err := none
    calls := performed.2 }

theorem execute_ok {loan : Loan} (accepted : (execute evm loan st msg).err = none) :
    ∃ gas, intrinsicGas evm msg.data msg.recipient.isNone
          evm.rules.isHomestead evm.rules.isIstanbul = .ok gas ∧
        gas ≤ (bought st msg).gas ∧
        execute evm loan st msg = finished evm loan msg
            (perform evm loan (ready evm gas st msg) msg) := by
  unfold execute at accepted ⊢
  split at accepted
  · cases accepted
  next checked isChecked =>
    obtain rfl := preCheck_ok isChecked
    split at accepted
    · cases accepted
    next gas isIntrinsic =>
      split at accepted
      · cases accepted
      next enough =>
        rw [if_neg enough]
        refine ⟨gas, isIntrinsic, not_lt.1 enough, ?_⟩
        unfold runMessage at accepted ⊢
        dsimp only at accepted ⊢
        split at accepted
        · next failed =>
            rw [failed] at accepted
            cases accepted
        next notFailed =>
          rw [if_neg notFailed]
          rfl

/-! ## The deferred functions -/

def Loan.settled (evm : Evm) (msg : Message) (db : StateDB) : Loan → StateDB
  | .unneeded => db
  | .recharge _ fee => (db.addBalance msg.sender fee).subBalance msg.sender (passBalance evm)
  | _ => db.subBalance msg.sender (passBalance evm)

def Loan.FeesPaid : Loan → Prop
  | .recharge datas _ => ∀ data ∈ datas, 0 < data.fee
  | _ => True

theorem repayOrRevert_ok {snapshot : StateDB} {execution : Execution}
    (accepted : (execution.repayOrRevert evm snapshot msg).err = none) :
    execution.repayOrRevert evm snapshot msg = execution.repay evm msg := by
  unfold Execution.repayOrRevert at accepted ⊢
  split at accepted
  · cases accepted
  · next enough => rw [if_neg enough]

theorem settleLoan_ok {loan : Loan} {snapshot : StateDB} {execution : Execution}
    (accepted : (settleLoan evm loan snapshot msg execution).err = none) :
    execution.err = none ∧ (settleLoan evm loan snapshot msg execution).st = execution.st.withDb
          (loan.settled evm msg execution.st.db) ∧
      (settleLoan evm loan snapshot msg execution).calls = execution.calls ∧
      (settleLoan evm loan snapshot msg execution).result = execution.result ∧
      loan.FeesPaid := by
  cases loan with
  | unneeded => exact ⟨accepted, rfl, rfl, rfl, trivial⟩
  | blackContract =>
    simp only [settleLoan] at accepted ⊢
    have repaid := repayOrRevert_ok accepted
    rw [repaid] at accepted ⊢
    exact ⟨accepted, rfl, rfl, rfl, trivial⟩
  | refund =>
    simp only [settleLoan, settleRefund] at accepted ⊢
    split at accepted
    · cases accepted
    next paid =>
      rw [if_neg paid]
      have repaid := repayOrRevert_ok accepted
      rw [repaid] at accepted ⊢
      exact ⟨accepted, rfl, rfl, rfl, trivial⟩
  | recharge datas fee =>
    simp only [settleLoan, settleRecharge] at accepted ⊢
    split at accepted
    · cases accepted
    next fees =>
      rw [if_neg fees]
      split at accepted
      · cases accepted
      next paid =>
        rw [if_neg paid]
        have repaid := repayOrRevert_ok accepted
        rw [repaid] at accepted ⊢
        refine ⟨accepted, rfl, rfl, rfl, ?_⟩
        intro data member
        by_contra unpaid
        exact fees (List.any_eq_true.mpr ⟨data, member, by simpa using unpaid⟩)

/--
The stages of a message that `TransitionDb` returned no error for: it was
admitted, paid its intrinsic gas, made its calls, paid the gas out and returned
its loan.
-/
structure Accepted (evm : Evm) (st : Transition) (msg : Message) (admitted : Transition)
    (loan : Loan) (gas : Nat) : Prop where
  isAdmitted : admitMessage evm st msg = (admitted, .ok loan)
  feesPaid : loan.FeesPaid
  intrinsic : intrinsicGas evm msg.data msg.recipient.isNone
    evm.rules.isHomestead evm.rules.isIstanbul = .ok gas
  enough : gas ≤ (bought admitted msg).gas
  calls : (transitionDb evm st msg).calls = (perform evm loan (ready evm gas admitted msg) msg).2
  result : (transitionDb evm st msg).result =
    (finished evm loan msg (perform evm loan (ready evm gas admitted msg) msg)).result
  final : (transitionDb evm st msg).st =
    (finished evm loan msg (perform evm loan (ready evm gas admitted msg) msg)).st.withDb
      (loan.settled evm msg (finished evm loan msg
        (perform evm loan (ready evm gas admitted msg) msg)).st.db)

theorem transitionDb_ok (accepted : (transitionDb evm st msg).err = none) :
    ∃ admitted loan gas, Accepted evm st msg admitted loan gas := by
  cases admission : admitMessage evm st msg with
  | mk admitted outcome =>
    cases outcome with
    | error err =>
      rw [transitionDb, admission] at accepted
      cases accepted
    | ok loan =>
      have settling : transitionDb evm st msg = settleLoan evm loan st.db msg
            (execute evm loan admitted msg) := by
        rw [transitionDb, admission]
      rw [settling] at accepted
      obtain ⟨executed, settled, calls, result, fees⟩ := settleLoan_ok accepted
      obtain ⟨gas, isIntrinsic, enough, finishes⟩ := execute_ok executed
      refine ⟨admitted, loan, gas, admission, fees, isIntrinsic, enough, ?_, ?_, ?_⟩
      · rw [settling, calls, finishes]
        rfl
      · rw [settling, result, finishes]
      · rw [settling, settled, finishes]

end EscSideChain.Core
