import EscSideChain.GasExemption
import EscSideChain.RechargeOutputs

namespace EscSideChain.Core

open Dpos State Spv WithdrawFailedTx Vm

/-!
# The submitter of a recharge

A recharge is submitted with a loan: the sender is lent `PassBalance` to buy gas
with, each output is credited to the sender and passed on, the gas that is left
is paid back, and at the end the fees of the outputs go to the sender and the
loan is taken back.  The fees cover the used gas, or nothing is kept.
-/

/-! ## The calls -/

namespace OutputCall

variable {evm : Evm} {msg : Message} {txHash : Bytes}
variable {call : OutputCall}

/--
The code of the target, which the memo is passed to, takes nothing from the
sender if it succeeds.
-/
def SparesSender (evm : Evm) (msg : Message) (txHash : Bytes) (call : OutputCall) : Prop :=
  (call.targetRun evm msg txHash).2.err = none →
    (Evm.transferred msg.sender (call.opened evm msg txHash)).getBalance msg.sender ≤
      (call.targetRun evm msg txHash).1.db.getBalance msg.sender

theorem le_getBalance_burn {balances : Address → Int} {recipient other : Address} {value : Int}
    {world : World} {result : Result} (nonnegative : 0 ≤ value)
    (paid : Function.update balances recipient
      (balances recipient + value) other ≤ world.db.getBalance other) :
    balances other ≤ (evm.burn recipient value world result).db.getBalance other := by
  unfold Evm.burn
  by_cases same : other = recipient
  · subst same
    rw [Function.update_self] at paid
    split
    · change _ ≤ (world.db.subBalance other value).getBalance other
      rw [StateDB.getBalance_subBalance, Function.update_self]
      omega
    · omega
  · rw [Function.update_of_ne same] at paid
    split
    · change _ ≤ (world.db.subBalance recipient value).getBalance other
      rw [StateDB.getBalance_subBalance, Function.update_of_ne same]
      exact paid
    · exact paid

theorem Opens.sender_le (opens : call.Opens evm msg txHash)
    (spares : call.SparesSender evm msg txHash) :
    call.st.db.getBalance msg.sender ≤ (call.outcome evm msg).1.db.getBalance msg.sender := by
  have minted := opened_minted evm msg txHash call
  have nonnegative : 0 ≤ call.amount := sub_nonneg.2 opens.covers
  have credited : call.st.db.getBalance msg.sender ≤
      (call.opened evm msg txHash).world.db.getBalance msg.sender := by
    rw [minted.balances, Function.update_self]
    exact le_add_of_nonneg_right nonnegative
  rw [opens.outcome_eq, Evm.callOpened]
  split
  · exact credited
  split
  · exact credited
  dsimp only
  unfold Evm.settle
  split
  · next ended =>
      have kept := spares ended
      rw [minted.getBalance_transferred] at kept
      exact le_getBalance_burn nonnegative kept
  · exact le_rfl

theorem outcome_marked
    (noRefund : ∃ text, evm.isWithdawFailedTx call.st.db msg.data = .ok (false, text))
    (named : evm.rechargeHash msg.data = some txHash)
    (marked : call.st.db.getState blackAddr (hexToHash txHash) ≠ emptyHash) :
    (call.outcome evm msg).1.db = call.st.db := by
  obtain ⟨text, noRefund⟩ := noRefund
  have refused : evm.openCall 0 (call.st.world.record ⟨0, blackAddr, msg.data⟩) msg.sender
      blackAddr msg.data msg.value (some call.data) = .error .mainTxHashPresence := by
    have sameState : (call.st.world.record ⟨0, blackAddr, msg.data⟩).db = call.st.db := rfl
    unfold Evm.openCall
    rw [if_neg (not_not.2 rfl), sameState, noRefund]
    dsimp only
    unfold Evm.openRecharge
    rw [named]
    dsimp only
    rw [sameState, if_pos marked]
  change (Evm.call evm (evm.runFrame (evm.enter Evm.callCreateDepth))
    0 call.st.world msg.sender blackAddr msg.data call.st.gas
    msg.value (some call.data) false).1.db = _
  unfold Evm.call
  rw [refused]
  rfl

/-- The outputs of a recharge as `TransitionDb` has read them. -/
structure Requested (evm : Evm) (msg : Message) (txHash : Bytes)
    (datas : List RechargeData) : Prop where
  noRefund : ∀ db, ∃ text, evm.isWithdawFailedTx db msg.data = .ok (false, text)
  named : evm.rechargeHash msg.data = some txHash
  payable : ∀ data ∈ datas, data.targetAddress ≠ blackAddr ∧ data.fee ≤ data.targetAmount

theorem Requested.sender_le {datas : List RechargeData} (requested : Requested evm msg txHash datas)
    (payable : call.data ∈ datas) (spares : call.SparesSender evm msg txHash) :
    call.st.db.getBalance msg.sender ≤ (call.outcome evm msg).1.db.getBalance msg.sender := by
  by_cases unmarked : call.st.db.getState blackAddr (hexToHash txHash) = emptyHash
  · obtain ⟨target, covers⟩ := requested.payable call.data payable
    exact Opens.sender_le ⟨requested.noRefund _, requested.named, unmarked, target, covers⟩ spares
  · rw [outcome_marked (requested.noRefund _) requested.named unmarked]

end OutputCall

variable {evm : Evm} {msg : Message} {txHash : Bytes}

variable {datas : List RechargeData} {admitted st : Transition}

theorem callEach_sender_le (requested : OutputCall.Requested evm msg txHash datas)
    (spares : ∀ call ∈ outputCalls evm msg datas st, call.SparesSender evm msg txHash) :
    st.db.getBalance msg.sender ≤
      (callEach evm msg blackAddr (datas.map some) st).1.db.getBalance msg.sender := by
  induction datas generalizing st with
  | nil => exact le_rfl
  | cons data rest inductionHypothesis =>
    have first := @OutputCall.Requested.sender_le evm msg txHash
      ⟨st, data⟩ _ requested List.mem_cons_self (spares _ List.mem_cons_self)
    refine first.trans (inductionHypothesis ?_ ?_)
    · exact ⟨requested.noRefund, requested.named,
        fun other member => requested.payable other (.tail _ member)⟩
    · exact fun call member => spares call (.tail _ member)

/-! ## Gas and fees -/

theorem le_getBalance_payDevelopers {subFee : Int} (nonnegative : 0 ≤ subFee)
    (developers : List Bytes) (db : StateDB) (minerFee : Int) (addr : Address) :
    db.getBalance addr ≤ (payDevelopers subFee developers db minerFee).1.getBalance addr ∧
    (payDevelopers subFee developers db minerFee).2 = minerFee - developers.length * subFee := by
  induction developers generalizing db minerFee with
  | nil => exact ⟨le_rfl, by simp [payDevelopers]⟩
  | cons account rest inductionHypothesis =>
    unfold payDevelopers
    obtain ⟨later, left⟩ := inductionHypothesis
      (db.addBalance (hexToAddress account) subFee) (minerFee - subFee)
    refine ⟨(StateDB.getBalance_le_addBalance db _ nonnegative addr).trans later, ?_⟩
    rw [left, List.length_cons]
    push_cast
    ring

theorem le_getBalance_payMiner {minerFee : Int} (nonnegative : 0 ≤ minerFee) (db : StateDB)
    (addr : Address) : db.getBalance addr ≤ (payMiner evm db minerFee).getBalance addr := by
  unfold payMiner
  dsimp only
  split
  · next developed =>
      have many : 0 < (evm.config.developerContract.length : Int) := by
        exact_mod_cast List.length_pos_iff.2 developed.1
      have half : 0 ≤ minerFee * 50 / 100 := by omega
      have share := Int.ediv_nonneg half many.le
      have shares := Int.mul_ediv_self_le (x := minerFee * 50 / 100) many.ne'
      obtain ⟨paid, left⟩ := @le_getBalance_payDevelopers _ share
        evm.config.developerContract db minerFee addr
      refine paid.trans (StateDB.getBalance_le_addBalance _ _ ?_ addr)
      rw [left]
      omega
  · exact StateDB.getBalance_le_addBalance db _ nonnegative addr

theorem le_getBalance_payFee (price : 0 ≤ msg.gasPrice) (loan : Loan) (st : Transition) :
    st.db.getBalance msg.sender ≤ (payFee evm loan st msg).db.getBalance msg.sender := by
  have nonnegative : 0 ≤ (st.gasUsed : Int) * msg.gasPrice :=
    mul_nonneg (Int.natCast_nonneg _) price
  unfold payFee
  dsimp only
  split
  · exact StateDB.getBalance_le_addBalance _ _ nonnegative _
  · exact le_getBalance_payMiner nonnegative _ _

theorem returnGas_payFee_sender (price : 0 ≤ msg.gasPrice) (loan : Loan) {refund : Nat}
    (bounded : st.gas + refund ≤ st.initialGas) :
    st.db.getBalance msg.sender + st.initialGas * msg.gasPrice ≤
      (payFee evm loan (returnGas refund st msg) msg).db.getBalance msg.sender +
        (payFee evm loan (returnGas refund st msg) msg).gasUsed *
          msg.gasPrice := by
  have returned : (returnGas refund st msg).db.getBalance msg.sender = st.db.getBalance msg.sender +
        ((st.gas + refund : Nat) : Int) * msg.gasPrice := by
    change (st.db.addBalance msg.sender _).getBalance msg.sender = _
    rw [StateDB.getBalance_addBalance, Function.update_self]
  have used : (payFee evm loan (returnGas refund st msg) msg).gasUsed =
      st.initialGas - (st.gas + refund) := by
    rw [gasUsed_payFee]
    rfl
  have kept := @le_getBalance_payFee evm msg price loan (returnGas refund st msg)
  rw [returned] at kept
  rw [used]
  have split : (st.initialGas : Int) * msg.gasPrice =
      ((st.gas + refund : Nat) : Int) * msg.gasPrice +
        ((st.initialGas - (st.gas + refund) : Nat) : Int) *
          msg.gasPrice := by
    rw [← add_mul, ← Int.natCast_add, Nat.add_sub_cancel' bounded]
  omega

theorem payOut_sender (price : 0 ≤ msg.gasPrice) (loan : Loan) (vmerr : Option VmError)
    {st : Transition} (bounded : st.gas ≤ st.initialGas) :
    st.db.getBalance msg.sender + st.initialGas * msg.gasPrice ≤
      (payOut evm loan vmerr st msg).db.getBalance msg.sender +
        (payOut evm loan vmerr st msg).gasUsed * msg.gasPrice := by
  obtain ⟨refund, covered, paidOut⟩ := @payOut_eq evm msg loan vmerr st bounded
  rw [paidOut]
  exact returnGas_payFee_sender price loan covered

/-! ## Whole messages -/

theorem dealSmallCrossTx_isSome {store : SpvStore} {data : Bytes} {tx : SmallCrossTx}
    (isSmall : isSmallCrossTxByData evm.format evm.pbftEngine data = some tx) :
    (dealSmallCrossTx evm store data).2 ≠ none := by
  unfold dealSmallCrossTx
  rw [isSmall]
  dsimp only
  split
  · nofun
  split
  · nofun
  · nofun
  · split
    · nofun
    split
    · nofun
    · nofun

theorem rechargeRequest_of_named {store stored : SpvStore} {data : Bytes}
    (named : evm.rechargeHash data = some txHash) :
    rechargeRequest evm store data ≠ (stored, .ok none) := by
  unfold Evm.rechargeHash at named
  unfold rechargeRequest
  intro unrequested
  split at unrequested
  · next long =>
      rw [if_neg (Nat.ne_of_gt long), if_pos long] at named
      obtain ⟨tx, isSmall, -⟩ := Option.map_eq_some_iff.1 named
      split at unrequested
      · next dealt =>
          have isDealt := @dealSmallCrossTx_isSome evm store data tx isSmall
          rw [dealt] at isDealt
          exact isDealt rfl
      · cases unrequested
      · cases unrequested
      · cases unrequested
  · split at unrequested
    · cases unrequested
    next short notExactly =>
      rw [if_neg notExactly, if_neg short] at named
      cases named

theorem admitMessage_recharge {loan : Loan} {text : Bytes} (toZero : msg.recipient = some blackAddr)
    (noRefund : evm.isWithdawFailedTx st.db msg.data = .ok (false, text))
    (named : evm.rechargeHash msg.data = some txHash)
    (isAdmitted : admitMessage evm st msg = (admitted, .ok loan)) :
    ∃ datas fee, loan = .recharge datas fee := by
  unfold admitMessage at isAdmitted
  rw [toZero] at isAdmitted
  dsimp only at isAdmitted
  rw [if_pos rfl] at isAdmitted
  unfold admitToZero at isAdmitted
  rw [noRefund] at isAdmitted
  dsimp only at isAdmitted
  split at isAdmitted
  · cases isAdmitted
  · next unrequested => exact absurd unrequested (rechargeRequest_of_named named)
  · split at isAdmitted
    · cases isAdmitted
    cases isAdmitted
    exact ⟨_, _, rfl⟩

theorem Admitted.recharge_facts {fee : Int}
    (isAdmitted : Admitted evm st msg admitted (.recharge datas fee)) :
    datas ≠ [] ∧ (∀ data ∈ datas, data.targetAddress ≠ blackAddr ∧ data.fee ≤ data.targetAmount) ∧
      admitted.db = st.db.addBalance msg.sender (passBalance evm) ∧ admitted.gas = st.gas := by
  cases isAdmitted with
  | recharge _ _ _ _ outputs _ payable => exact ⟨outputs, payable, rfl, rfl⟩

/-- The state in which the loan is due: the fees have gone to the sender. -/
def due (evm : Evm) (datas : List RechargeData) (fee : Int) (admitted : Transition)
    (msg : Message) : StateDB :=
  (execute evm (.recharge datas fee) admitted msg).st.db.addBalance msg.sender fee

/-- The loan of a recharge is given at the start and taken back at the end. -/
structure Repaid (evm : Evm) (st : Transition) (msg : Message) (datas : List RechargeData)
    (fee : Int) (admitted : Transition) (final : StateDB) : Prop where
  isAdmitted : admitMessage evm st msg = (admitted, .ok (.recharge datas fee))
  lent : admitted.db = st.db.addBalance msg.sender (passBalance evm)
  solvent : passBalance evm ≤ (due evm datas fee admitted msg).getBalance msg.sender
  repaid : final = (due evm datas fee admitted msg).subBalance msg.sender (passBalance evm)

theorem settleRecharge_ok {fee : Int} {snapshot : StateDB} {execution : Execution}
    (accepted : (settleRecharge evm datas fee snapshot msg execution).err = none) :
    execution.err = none ∧ execution.usedFee msg ≤ fee ∧ passBalance evm ≤
        (execution.st.db.addBalance msg.sender fee).getBalance msg.sender ∧
      (settleRecharge evm datas fee snapshot msg execution).st.db =
        (execution.st.db.addBalance msg.sender fee).subBalance msg.sender (passBalance evm) := by
  unfold settleRecharge at accepted ⊢
  split at accepted
  · cases accepted
  next fees =>
    rw [if_neg fees]
    dsimp only at accepted ⊢
    split at accepted
    · cases accepted
    next covered =>
      rw [if_neg covered]
      unfold Execution.repayOrRevert at accepted ⊢
      split at accepted
      · cases accepted
      next solvent =>
        rw [if_neg solvent]
        exact ⟨accepted, not_lt.1 covered, not_lt.1 solvent, rfl⟩

/-- The calls of a recharge message, none if it is not admitted as one. -/
def rechargeCalls (evm : Evm) (st : Transition) (msg : Message) : List OutputCall :=
  match admitMessage evm st msg, intrinsicGas evm msg.data msg.recipient.isNone
        evm.rules.isHomestead evm.rules.isIstanbul with
  | (admitted, .ok (.recharge datas _)), .ok gas =>
    outputCalls evm msg datas (callsStart evm gas admitted msg)
  | _, _ => []

theorem getBalance_callsStart {gas : Nat} :
    (callsStart evm gas admitted msg).db.getBalance msg.sender =
      admitted.db.getBalance msg.sender - msg.mgval := by
  have bought : (ready evm gas admitted msg).db.getBalance =
      (admitted.db.subBalance msg.sender msg.mgval).getBalance := by
    unfold ready prepared
    split <;> rfl
  change ((ready evm gas admitted msg).db.setNonce msg.sender _).getBalance msg.sender = _
  rw [StateDB.getBalance_setNonce, bought, StateDB.getBalance_subBalance, Function.update_self]

theorem perform_recharge {fee : Int} {gas : Nat}
    (toZero : msg.recipient = some blackAddr) (outputs : datas ≠ []) :
    perform evm (.recharge datas fee) (ready evm gas admitted msg) msg =
      callEach evm msg blackAddr (datas.map some) (callsStart evm gas admitted msg) := by
  unfold perform
  rw [toZero]
  dsimp only
  rw [Loan.arguments, if_neg outputs]
  rfl

theorem execute_sender {fee : Int} {gas : Nat}
    (price : 0 ≤ msg.gasPrice) (toZero : msg.recipient = some blackAddr) (outputs : datas ≠ [])
    (unused : admitted.gas = 0) (requested : OutputCall.Requested evm msg txHash datas)
    (spares : ∀ call ∈ outputCalls evm msg datas (callsStart evm gas admitted msg),
      call.SparesSender evm msg txHash)
    (finishes : execute evm (.recharge datas fee) admitted msg =
      finished evm (.recharge datas fee) msg
        (perform evm (.recharge datas fee) (ready evm gas admitted msg) msg)) :
    admitted.db.getBalance msg.sender ≤
      (execute evm (.recharge datas fee) admitted msg).st.db.getBalance msg.sender +
        (execute evm (.recharge datas fee) admitted msg).usedFee
          msg := by
  have calls := callEach_sender_le requested spares
  rw [getBalance_callsStart, ← perform_recharge toZero outputs] at calls
  have readyGas := @ready_gas evm msg gas admitted unused
  have gasLeft := @perform_gas evm msg (.recharge datas fee) (ready evm gas admitted msg)
  have paidOut := @payOut_sender evm msg price (.recharge datas fee)
    (lastErr (perform evm (.recharge datas fee) (ready evm gas admitted msg) msg).2)
    (perform evm (.recharge datas fee) (ready evm gas admitted msg) msg).1 (by omega)
  rw [gasLeft.2, readyGas.2] at paidOut
  rw [finishes]
  unfold Message.mgval at calls
  exact (sub_le_iff_le_add.1 calls).trans paidOut

/--
The submitter of a recharge that is accepted has at least as much as before, and
has returned its loan, if the code that the memos go to takes nothing from it.
-/
theorem recharge_keeps_submitter (evm : Evm) (world : World) (store : SpvStore) (gasPool : Nat)
    (msg : Message) (text txHash : Bytes) (price : 0 ≤ msg.gasPrice)
    (toZero : msg.recipient = some blackAddr)
    (noRefund : evm.isWithdawFailedTx world.db msg.data = .ok (false, text))
    (named : evm.rechargeHash msg.data = some txHash)
    (spares : ∀ call ∈ rechargeCalls evm ⟨world, store, gasPool, 0, 0⟩ msg,
      call.SparesSender evm msg txHash)
    (accepted : (applyMessage evm world store gasPool msg).err = none) :
    world.db.getBalance msg.sender ≤ (applyMessage evm world store gasPool msg).st.db.getBalance
          msg.sender ∧
      ∃ datas fee admitted, Repaid evm ⟨world, store, gasPool, 0, 0⟩ msg datas fee admitted
          (applyMessage evm world store gasPool msg).st.db := by
  obtain ⟨admitted, loan, gas, stages⟩ := transitionDb_ok accepted
  obtain ⟨datas, fee, rfl⟩ := admitMessage_recharge toZero noRefund named stages.isAdmitted
  have settling : applyMessage evm world store gasPool msg =
      settleRecharge evm datas fee world.db msg
        (execute evm (.recharge datas fee) admitted msg) := by
    rw [applyMessage, transitionDb, stages.isAdmitted]
    rfl
  rw [settling] at accepted ⊢
  obtain ⟨executed, covered, solvent, final⟩ := settleRecharge_ok accepted
  obtain ⟨intrinsic, isIntrinsic, -, finishes⟩ := execute_ok executed
  obtain ⟨outputs, payable, lent, unused⟩ := (admitMessage_ok stages.isAdmitted).recharge_facts
  have requested : OutputCall.Requested evm msg txHash datas := by
    refine ⟨fun db => ⟨text, ?_⟩, named, payable⟩
    rw [Evm.isWithdawFailedTx_congr db world.db]
    exact noRefund
  have sameCalls : rechargeCalls evm ⟨world, store, gasPool, 0, 0⟩ msg = outputCalls evm msg datas
        (callsStart evm intrinsic admitted msg) := by
    unfold rechargeCalls
    rw [stages.isAdmitted, isIntrinsic]
  rw [sameCalls] at spares
  have kept := execute_sender price toZero outputs unused requested spares finishes
  rw [lent, StateDB.getBalance_addBalance, Function.update_self] at kept
  refine ⟨?_, datas, fee, admitted, stages.isAdmitted, lent, solvent, final⟩
  rw [final, StateDB.getBalance_subBalance, Function.update_self,
    StateDB.getBalance_addBalance, Function.update_self]
  change world.db.getBalance msg.sender + passBalance evm ≤ _ at kept
  omega

open Sample

/-- An account without money submits a recharge and keeps part of the fee. -/
theorem recharge_keeps_submitter_penniless :
    let final := (applyMessage (node idle) ⟨emptyState, Collector.empty, []⟩ store 200000
      (message blackAddr mainTx)).st.db
    emptyState.getBalance (account 3) = 0 ∧ 0 ≤ final.getBalance (account 3) ∧
      final.getBalance (account 3) = rate - 21512 := by
  have spared : (rechargeCalls (node idle)
      ⟨⟨emptyState, Collector.empty, []⟩, store, 200000,
        0, 0⟩ (message blackAddr mainTx)).all (fun call =>
        decide ((Evm.transferred (account 3)
          (call.opened (node idle) (message blackAddr mainTx)
            (hexutilEncode mainTx))).getBalance (account 3) ≤
          (call.targetRun (node idle) (message blackAddr mainTx)
            (hexutilEncode mainTx)).1.db.getBalance (account 3))) = true := by
    decide +kernel
  have kept := recharge_keeps_submitter (node idle) ⟨emptyState, Collector.empty, []⟩ store 200000
    (message blackAddr mainTx) _ _ (by decide) rfl rfl rfl
    (fun call member _ => of_decide_eq_true
      (List.all_eq_true.1 spared call member)) (by decide +kernel)
  exact ⟨rfl, kept.1, by decide +kernel⟩

end EscSideChain.Core
