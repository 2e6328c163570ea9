import EscSideChain.CrossChainCalls
import EscSideChain.RechargeRoundTrip

namespace EscSideChain.Core

open Dpos State Spv WithdrawFailedTx Vm

/-!
# The outputs of one recharge

`TransitionDb` makes one call for each output of a recharge.  Every call reverts
for itself, and the error of each is overwritten by the next one.  The id of the
main-chain transaction is marked as completed afterwards, whatever the calls
came to.
-/

/-! ## The call of one output -/

structure OutputCall where
  st : Transition
  data : RechargeData

namespace OutputCall

def amount (call : OutputCall) : Int :=
  call.data.targetAmount - call.data.fee

section Call

variable (evm : Evm) (msg : Message) (txHash : Bytes)
variable (call : OutputCall)

def opened : Evm.Opened where
  world := { call.st.world.record ⟨0, blackAddr, msg.data⟩ with
    db := ((call.st.db.addLog {
        address := blackAddr
        topics := [rechargeEventHash, hexToHash (evm.addressString msg.sender), hexToHash txHash,
          hexToHash (evm.addressString call.data.targetAddress), bigToHash call.amount]
        data := []
        blockNumber := evm.blockNumber }).addBalance msg.sender
      call.amount).note (.recharge txHash call.amount) }
  addr := call.data.targetAddress
  recipient := call.data.targetAddress
  value := call.amount
  input := call.data.targetData

def targetRun : World × Result :=
  let opened := call.opened evm msg txHash
  evm.execute (evm.runFrame (evm.enter Evm.callCreateDepth))
    { opened.world with db := Evm.transferred msg.sender opened } call.data.targetAddress
    (Evm.calledFrame msg.sender opened false) call.st.gas

/-- The call as `TransitionDb` makes it. -/
def outcome : World × Result :=
  evm.topCall call.st.world msg.sender blackAddr msg.data call.st.gas msg.value (some call.data)

def next : Transition :=
  { call.st with
    world := (call.outcome evm msg).1
    gas := (call.outcome evm msg).2.gas }

def IsIdle : Prop :=
  (call.opened evm msg txHash).world.db.exist call.data.targetAddress = false ∧
    (evm.precompile call.data.targetAddress).isNone ∧ evm.rules.isEIP158 ∧ call.amount = 0

/--
The sender can pass the amount on, and the code of the target ends without an
error.
-/
structure Accepts : Prop where
  solvent : call.amount ≠ 0 → 0 ≤ call.st.db.getBalance msg.sender
  runs : call.IsIdle evm msg txHash ∨ (call.targetRun evm msg txHash).2.err = none

structure Credited : Prop where
  paid : (Evm.transferred msg.sender (call.opened evm msg txHash)).getBalance
        call.data.targetAddress =
    call.st.db.getBalance call.data.targetAddress + call.amount
  stands : (call.outcome evm msg).2.err = none

end Call

section Lemmas

variable {evm : Evm} {msg : Message} {txHash : Bytes}
variable {call : OutputCall}

structure Opens (evm : Evm) (msg : Message) (txHash : Bytes) (call : OutputCall) : Prop where
  noRefund : ∃ text, evm.isWithdawFailedTx call.st.db msg.data = .ok (false, text)
  named : evm.rechargeHash msg.data = some txHash
  unmarked : call.st.db.getState blackAddr (hexToHash txHash) = emptyHash
  target : call.data.targetAddress ≠ blackAddr
  covers : call.data.fee ≤ call.data.targetAmount

theorem Opens.openCall_eq (opens : call.Opens evm msg txHash) :
    evm.openCall 0 (call.st.world.record ⟨0, blackAddr, msg.data⟩)
        msg.sender blackAddr msg.data msg.value (some call.data) =
      .ok (call.opened evm msg txHash) := by
  obtain ⟨text, noRefund⟩ := opens.noRefund
  have sameState : (call.st.world.record ⟨0, blackAddr, msg.data⟩).db = call.st.db := rfl
  unfold Evm.openCall
  rw [if_neg (not_not.mpr rfl), sameState, noRefund]
  dsimp only
  unfold Evm.openRecharge
  rw [opens.named]
  dsimp only
  rw [sameState, if_neg (not_not.mpr opens.unmarked), if_pos ⟨opens.target, opens.covers⟩]
  rfl

theorem opened_minted (evm : Evm) (msg : Message) (txHash : Bytes) (call : OutputCall) :
    (call.opened evm msg txHash).Minted call.st.db msg.sender :=
  .of_credit rfl

theorem canTransfer_opened (evm : Evm) (msg : Message) (txHash : Bytes) (call : OutputCall) :
    (call.opened evm msg txHash).world.db.canTransfer msg.sender call.amount = true ↔
      0 ≤ call.st.db.getBalance msg.sender := by
  rw [StateDB.canTransfer, (opened_minted evm msg txHash call).balances,
    Function.update_self, decide_eq_true_eq]
  change _ + call.amount ≥ call.amount ↔ _
  omega

theorem Opens.outcome_eq (opens : call.Opens evm msg txHash) :
    call.outcome evm msg = evm.callOpened (evm.runFrame (evm.enter Evm.callCreateDepth))
        call.st.db msg.sender (call.opened evm msg txHash)
        call.st.gas false := by
  change Evm.call evm (evm.runFrame (evm.enter Evm.callCreateDepth))
    0 call.st.world msg.sender blackAddr msg.data call.st.gas msg.value (some call.data) false = _
  unfold Evm.call
  rw [opens.openCall_eq]
  rfl

theorem Opens.err_eq_none (opens : call.Opens evm msg txHash) :
    (call.outcome evm msg).2.err = none ↔ call.Accepts evm msg txHash := by
  have transfers := canTransfer_opened evm msg txHash call
  rw [opens.outcome_eq, Evm.callOpened]
  split
  · next insolvent =>
      refine ⟨(fun failed => by cases failed), ?_⟩
      intro accepts
      have solvent := transfers.mpr (accepts.solvent insolvent.1)
      exact absurd (solvent.symm.trans insolvent.2) (by decide)
  · next solvent =>
      have pays : call.amount ≠ 0 → 0 ≤ call.st.db.getBalance msg.sender := by
        intro positive
        by_contra negative
        refine solvent ⟨positive, Bool.eq_false_iff.mpr ?_⟩
        exact fun transferable => negative (transfers.mp transferable)
      split
      · next idle => exact ⟨fun _ => ⟨pays, .inl idle⟩, fun _ => rfl⟩
      next busy =>
        dsimp only
        rw [Evm.settle_err]
        refine ⟨fun ended => ⟨pays, .inr ended⟩, ?_⟩
        intro accepts
        exact accepts.runs.resolve_left busy

theorem getBalance_transferred (evm : Evm) (msg : Message) (txHash : Bytes) (call : OutputCall) :
    (Evm.transferred msg.sender (call.opened evm msg txHash)).getBalance call.data.targetAddress =
      call.st.db.getBalance call.data.targetAddress + call.amount := by
  rw [(opened_minted evm msg txHash call).getBalance_transferred]
  exact Function.update_self ..

theorem Opens.credited_iff (opens : call.Opens evm msg txHash) :
    call.Credited evm msg txHash ↔ call.Accepts evm msg txHash := by
  refine ⟨fun credited => opens.err_eq_none.mp credited.stands, ?_⟩
  intro accepts
  exact ⟨getBalance_transferred evm msg txHash call, opens.err_eq_none.mpr accepts⟩

end Lemmas

end OutputCall

/-! ## The calls of a recharge -/

def outputCalls (evm : Evm) (msg : Message) : List RechargeData → Transition → List OutputCall
  | [], _ => []
  | data :: rest, st => ⟨st, data⟩ :: outputCalls evm msg rest (OutputCall.next evm msg ⟨st, data⟩)

def callsStart (evm : Evm) (gas : Nat) (admitted : Transition) (msg : Message) : Transition :=
  let st := ready evm gas admitted msg
  st.withDb (st.db.setNonce msg.sender (st.db.getNonce msg.sender + 1))

/-- A recharge, as `TransitionDb` goes through it. -/
structure Recharge where
  msg : Message
  txHash : Bytes
  calls : List OutputCall

/-- The recharge that a transaction asks for, if it is admitted as one. -/
def Submission.recharge (submission : Submission) (db : StateDB) : Option Recharge :=
  match submission.tx.asMessage with
  | .error _ => none
  | .ok msg =>
    match submission.evm.rechargeHash msg.data,
        admitMessage submission.evm (submission.start db) msg,
        intrinsicGas submission.evm msg.data msg.recipient.isNone submission.evm.rules.isHomestead
          submission.evm.rules.isIstanbul with
    | some txHash, (admitted, .ok (.recharge datas _)), .ok gas =>
      some ⟨msg, txHash, outputCalls submission.evm msg datas
        (callsStart submission.evm gas admitted msg)⟩
    | _, _, _ => none

structure Recharge.From (submission : Submission) (db : StateDB) (recharge : Recharge)
    (admitted : Transition) (datas : List RechargeData) (fee : Int) (gas : Nat) : Prop where
  isMessage : submission.tx.asMessage = .ok recharge.msg
  named : submission.evm.rechargeHash recharge.msg.data = some recharge.txHash
  isAdmitted : admitMessage submission.evm (submission.start db)
    recharge.msg = (admitted, .ok (.recharge datas fee))
  intrinsic : intrinsicGas submission.evm recharge.msg.data
    recharge.msg.recipient.isNone submission.evm.rules.isHomestead
    submission.evm.rules.isIstanbul = .ok gas
  calls : recharge.calls = outputCalls submission.evm recharge.msg
    datas (callsStart submission.evm gas admitted recharge.msg)

section Recharge

variable {submission : Submission} {db : StateDB}
variable {recharge : Recharge}

theorem Submission.recharge_some (isRecharge : submission.recharge db = some recharge) :
    ∃ admitted datas fee gas, recharge.From submission db admitted datas fee gas := by
  unfold Submission.recharge at isRecharge
  split at isRecharge
  · cases isRecharge
  next msg isMessage =>
    split at isRecharge
    · next named isAdmitted intrinsic =>
        cases isRecharge
        exact ⟨_, _, _, _, isMessage, named, isAdmitted, intrinsic, rfl⟩
    · cases isRecharge

theorem Recharge.From.payable {admitted : Transition} {datas : List RechargeData} {fee : Int}
    {gas : Nat} (origin : recharge.From submission db admitted datas fee gas) :
    recharge.msg.recipient = some blackAddr ∧
      (∃ text, submission.evm.isWithdawFailedTx (submission.start db).db recharge.msg.data =
          .ok (false, text)) ∧
      getRechargeDataByTxhash submission.evm.format
        submission.evm.spvService admitted.store recharge.txHash = .ok (datas, fee) ∧
      datas ≠ [] ∧
      db.getState blackAddr (hexToHash recharge.txHash) = emptyHash ∧
      (∀ data ∈ datas, data.targetAddress ≠ blackAddr ∧ data.fee ≤ data.targetAmount) ∧
      BalancesOnly (submission.start db).db admitted.db := by
  have admission := admitMessage_ok origin.isAdmitted
  have balances := admission.balancesOnly
  cases admission with
  | recharge isZero noRefund named read outputs unmarked payable =>
    cases named.symm.trans origin.named
    exact ⟨isZero, ⟨_, noRefund⟩, read, outputs, unmarked, payable, balances⟩

theorem outputCalls_opens {evm : Evm} {msg : Message} {txHash : Bytes} {loan : Loan}
    {datas : List RechargeData} {st : Transition} (spares : SparesZero evm)
    (isZero : msg.recipient = some blackAddr)
    (noRefund : ∃ text, evm.isWithdawFailedTx st.db msg.data = .ok (false, text))
    (named : evm.rechargeHash msg.data = some txHash)
    (payable : ∀ data ∈ datas, data.targetAddress ≠ blackAddr ∧ data.fee ≤ data.targetAmount)
    (argued : ∀ data ∈ datas, some data ∈ loan.arguments) (codeless : st.db.getCode blackAddr = [])
    (unmarked : st.db.getState blackAddr (hexToHash txHash) = emptyHash) :
    ∀ call ∈ outputCalls evm msg datas st, call.Opens evm msg txHash := by
  induction datas generalizing st with
  | nil =>
    intro call member
    cases member
  | cons data rest inductionHypothesis =>
    obtain ⟨target, covers⟩ := payable data List.mem_cons_self
    have effect := topCall_effect spares codeless isZero (argued data List.mem_cons_self) st.gas
    have kept : (OutputCall.next evm msg ⟨st, data⟩).db.viewOf blackAddr = st.db.viewOf blackAddr :=
      effect.viewOf_zero
    obtain ⟨text, answer⟩ := noRefund
    rw [Evm.isWithdawFailedTx_congr _ (OutputCall.next evm msg ⟨st, data⟩).db] at answer
    have others := inductionHypothesis ⟨text, answer⟩
      (fun other member => payable other (.tail _ member))
      (fun other member => argued other (.tail _ member)) ((getCode_zero kept).trans codeless)
      ((congrFun (congrArg AccountView.storage kept) _).trans unmarked)
    intro call member
    rcases List.mem_cons.mp member with rfl | later
    · rw [Evm.isWithdawFailedTx_congr _ st.db] at answer
      exact ⟨⟨text, answer⟩, named, unmarked, target, covers⟩
    · exact others call later

theorem Submission.recharge_opens (spares : SparesZero submission.evm)
    (codeless : db.getCode blackAddr = []) (isRecharge : submission.recharge db = some recharge) :
    ∀ call ∈ recharge.calls, call.Opens submission.evm recharge.msg recharge.txHash := by
  obtain ⟨admitted, datas, fee, gas, origin⟩ := recharge_some isRecharge
  obtain ⟨isZero, ⟨text, noRefund⟩, -, outputs, unmarked, payable, balances⟩ := origin.payable
  have paid : BalancesOnly (submission.start db).db
      (ready submission.evm gas admitted recharge.msg).db :=
    balances.trans (ready_balancesOnly gas admitted)
  obtain ⟨count, -, raised⟩ :=
    Raised.setNonce (ready submission.evm gas admitted recharge.msg).db recharge.msg.sender
  rw [paid.viewOf_eq blackAddr] at raised
  have arguments : (Loan.recharge datas fee).arguments = datas.map some := if_neg outputs
  have argued : ∀ data ∈ datas, some data ∈ (Loan.recharge datas fee).arguments := by
    intro data member
    rw [arguments]
    exact List.mem_map_of_mem member
  rw [origin.calls]
  refine outputCalls_opens spares isZero ⟨text, ?_⟩ origin.named payable argued ?_ ?_
  · rw [Evm.isWithdawFailedTx_congr _ (submission.start db).db]
    exact noRefund
  · exact (congrArg AccountView.code raised).trans codeless
  · exact (congrFun (congrArg AccountView.storage raised) _).trans unmarked

theorem Submission.recharge_marks {receipt : TxReceipt} (proper : submission.Proper)
    (zeroReady : ZeroReady 1 (db.viewOf blackAddr))
    (applied : (submission.apply db).2 = .ok receipt)
    (isRecharge : submission.recharge db = some recharge) :
    Marks ((submission.commit db).viewOf blackAddr) (hexToHash recharge.txHash) := by
  have run : ProperRun db [submission] :=
    ⟨fun other member => List.mem_singleton.mp member ▸ proper, zeroReady⟩
  obtain ⟨admitted, datas, fee, gas, origin⟩ := recharge_some isRecharge
  obtain ⟨isZero, ⟨text, noRefund⟩, read, outputs, -, payable, -⟩ := origin.payable
  obtain ⟨msg, stored, recorded, isApplied⟩ := apply_ok applied
  cases origin.isMessage.symm.trans isApplied.isMessage
  obtain ⟨admitted', loan', gas', stages⟩ := transitionDb_ok isApplied.accepted
  cases origin.isAdmitted.symm.trans stages.isAdmitted
  have store := (stages.effect proper.spares zeroReady.codeless).1
  exact run.marks_recharge isApplied isZero noRefund origin.named
    store read outputs stages.feesPaid payable

/-! ## All or nothing -/

/--
Either every output is credited or none is, and the id is marked only if all
are.
-/
structure AllOrNothing (submission : Submission) (db : StateDB) (recharge : Recharge) : Prop where
  together :
    (∀ call ∈ recharge.calls, call.Credited submission.evm recharge.msg recharge.txHash) ∨
    (∀ call ∈ recharge.calls, ¬call.Credited submission.evm recharge.msg recharge.txHash)
  marked : Marks ((submission.commit db).viewOf blackAddr) (hexToHash recharge.txHash) →
    ∀ call ∈ recharge.calls, call.Credited submission.evm recharge.msg recharge.txHash

end Recharge

/--
An applied recharge is all or nothing exactly if every target accepts its
output.
-/
theorem recharge_allOrNothing_iff (submission : Submission) (db : StateDB) (recharge : Recharge)
    (receipt : TxReceipt) (proper : submission.Proper)
    (zeroReady : ZeroReady 1 (db.viewOf blackAddr))
    (applied : (submission.apply db).2 = .ok receipt)
    (isRecharge : submission.recharge db = some recharge) :
    AllOrNothing submission db recharge ↔ ∀ call ∈ recharge.calls,
        call.Accepts submission.evm recharge.msg recharge.txHash := by
  have opens := submission.recharge_opens proper.spares zeroReady.codeless isRecharge
  constructor
  · intro allOrNothing call member
    have credited := allOrNothing.marked
      (submission.recharge_marks proper zeroReady applied isRecharge) call member
    exact (opens call member).credited_iff.mp credited
  · intro accept
    have credited : ∀ call ∈ recharge.calls, call.Credited submission.evm recharge.msg
          recharge.txHash := by
      intro call member
      exact (opens call member).credited_iff.mpr (accept call member)
    exact ⟨.inl credited, fun _ => credited⟩

namespace Sample

def twoOutputs : SpvStore where
  transactionDb := some fun key =>
    if key = feeKey (bytes2Hex mainTx) then some (joinComma [[49], [49]])
    else if key = outputKey (bytes2Hex mainTx) then some (joinComma [[50, 50], [50, 50]])
    else if key = addressKey (bytes2Hex mainTx) then
      some (joinComma [hexutilEncode (account 2).toList, hexutilEncode (account 4).toList])
    else if key = inputKey (bytes2Hex mainTx) then some (joinComma [[], []])
    else none
  failedTxList := []
  spvTxhash := []

def refusing (_ : Frame) : Script :=
  .halt [] (some .executionReverted)

def rechargeBoth (interpreter : Frame → Script) : Submission :=
  { submitted interpreter (transaction blackAddr 0 mainTx) with
    store := twoOutputs }

theorem rechargeBoth_proper (interpreter : Frame → Script) : (rechargeBoth interpreter).Proper :=
  have proper := submitted_proper interpreter blackAddr 0 mainTx
  ⟨proper.spares, proper.nonempty⟩

def callErrors (submission : Submission) : Option (List (Option VmError)) :=
  (submission.recharge contractState).map fun recharge =>
    recharge.calls.map fun call =>
      (call.outcome submission.evm recharge.msg).2.err

theorem contractState_ready : ZeroReady 1 (contractState.viewOf blackAddr) where
  codeless := by decide +kernel
  alive := by decide +kernel
  counted _ marked := absurd rfl marked
  room := by decide +kernel

end Sample

open Sample

/--
The contract refuses its output, the account gets the other one, and the id is
marked.
-/
theorem second_output_paid_alone :
    ((rechargeBoth refusing).apply contractState).2.isOk = true ∧
      ((rechargeBoth refusing).commit contractState).getBalance (account 2) = 0 ∧
      ((rechargeBoth refusing).commit contractState).getBalance (account 4) = 10000000000 ∧
      ∃ recharge, (rechargeBoth refusing).recharge contractState = some recharge ∧
          Marks (((rechargeBoth refusing).commit
            contractState).viewOf blackAddr) (hexToHash recharge.txHash) ∧
          ¬AllOrNothing (rechargeBoth refusing)
            contractState recharge := by
  have isOk : ((rechargeBoth refusing).apply contractState).2.isOk = true := by
    decide +kernel
  have errors : callErrors (rechargeBoth refusing) = some [some .executionReverted, none] := by
    decide +kernel
  refine ⟨isOk, by decide +kernel, by decide +kernel, ?_⟩
  obtain ⟨recharge, isRecharge, ended⟩ := Option.map_eq_some_iff.mp errors
  cases applied : ((rechargeBoth refusing).apply contractState).2 with
  | error err =>
    rw [applied] at isOk
    cases isOk
  | ok receipt =>
    have marked := Submission.recharge_marks (rechargeBoth_proper refusing)
      contractState_ready applied isRecharge
    refine ⟨recharge, isRecharge, marked, ?_⟩
    intro allOrNothing
    have refused : some VmError.executionReverted ∈
        recharge.calls.map fun call => (call.outcome (rechargeBoth refusing).evm
          recharge.msg).2.err := by
      rw [ended]
      exact List.mem_cons_self
    obtain ⟨call, member, failed⟩ := List.mem_map.mp refused
    have stands := (allOrNothing.marked marked call member).stands
    cases failed.symm.trans stands

/-- Both outputs are paid if the contract takes its own. -/
theorem recharge_allOrNothing_both :
    ∃ recharge, (rechargeBoth idle).recharge contractState = some recharge ∧
        AllOrNothing (rechargeBoth idle)
          contractState recharge := by
  have isOk : ((rechargeBoth idle).apply contractState).2.isOk = true := by
    decide +kernel
  have errors : callErrors (rechargeBoth idle) = some [none, none] := by
    decide +kernel
  obtain ⟨recharge, isRecharge, ended⟩ := Option.map_eq_some_iff.mp errors
  have proper := rechargeBoth_proper idle
  have opens := Submission.recharge_opens proper.spares contractState_ready.codeless isRecharge
  cases applied : ((rechargeBoth idle).apply contractState).2 with
  | error err =>
    rw [applied] at isOk
    cases isOk
  | ok receipt =>
    refine ⟨recharge, isRecharge,
      (recharge_allOrNothing_iff _ _ recharge receipt proper
        contractState_ready applied isRecharge).mpr ?_⟩
    intro call member
    refine (opens call member).err_eq_none.mp ?_
    have stands := List.mem_map_of_mem (f := fun call =>
      (OutputCall.outcome (rechargeBoth idle).evm recharge.msg call).2.err) member
    rw [ended] at stands
    simpa using stands

end EscSideChain.Core
