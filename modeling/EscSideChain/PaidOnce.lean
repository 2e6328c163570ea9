import EscSideChain.CompletionMarks
import EscSideChain.SupplyConservation

namespace EscSideChain.Core

open Dpos State Spv WithdrawFailedTx Vm

/-!
# Recharges and refunds are paid once

Runs of transactions, each on a node of its own: the store of recharges, the
collector, the arbiters and everything else around the state may change from one
transaction to the next.  An id that is paid was not marked before, and is marked
afterwards, and a mark stays.
-/

/-- No contract is created at the zero address, and the hash can be a mark. -/
structure Submission.Proper (submission : Submission) : Prop where
  spares : SparesZero submission.evm
  nonempty : submission.tx.hash ≠ emptyHash

/-- The transactions of a run, with a zero account that is ready for them. -/
structure ProperRun (db : StateDB) (submissions : List Submission) : Prop where
  proper : ∀ submission ∈ submissions, submission.Proper
  ready : ZeroReady submissions.length (db.viewOf blackAddr)

variable {db : StateDB} {submission : Submission}
variable {rest : List Submission}

section

variable (run : ProperRun db (submission :: rest))

include run

theorem ProperRun.head : submission.Proper :=
  run.proper submission List.mem_cons_self

theorem ProperRun.zeroStep :
    ZeroStep submission.tx.hash (db.viewOf blackAddr) ((submission.commit db).viewOf blackAddr) :=
  commit_zeroStep run.head.spares run.ready

theorem ProperRun.next : ProperRun (submission.commit db) rest where
  proper other member := run.proper other (.tail _ member)
  ready := run.ready.step run.zeroStep

end

variable {recorded : StateDB} {stored : SpvStore} {msg : Message} {txid : Bytes}

theorem Submission.Applied.movements_eq (applied : submission.Applied db msg stored recorded) :
    submission.movements db =
      (transitionDb submission.evm (submission.start db) msg).st.db.movements := by
  rw [applied.moved]
  rcases recordCompletion_ok applied.isRecorded with unrecorded | ⟨txHash, completed⟩
  · rw [unrecorded]
  · rw [completed]
    rfl

theorem ProperRun.origin (run : ProperRun db (submission :: rest)) {movement : Movement}
    (noted : movement ∈ submission.movements db) :
    ∃ msg stored recorded admitted loan, submission.Applied db msg stored recorded ∧
        Admitted submission.evm (submission.start db) msg admitted loan ∧ loan.FeesPaid ∧
        (transitionDb submission.evm (submission.start db) msg).st.store = admitted.store ∧
        MessageEffect submission.evm msg loan (submission.start db).world
          (transitionDb submission.evm (submission.start db) msg).st.world ∧
        Noted submission.evm msg loan (submission.calls db)
          movement := by
  rcases submission.commit_cases db with ⟨-, nothing⟩ | ⟨msg, stored, recorded, applied⟩
  · rw [nothing] at noted
    cases noted
  · have codeless : (submission.start db).db.getCode blackAddr = [] := run.ready.codeless
    obtain ⟨admitted, loan, admission, fees, store, effect⟩ :=
      transitionDb_effect run.head.spares codeless applied.accepted
    obtain ⟨gained, same, kinds⟩ := effect.gains
    -- The state at the start has no movements of its own.
    have all : submission.movements db = gained := applied.movements_eq.trans same
    rw [all] at noted
    rw [applied.called]
    exact ⟨msg, stored, recorded, admitted, loan, applied, admission,
      fees, store, effect, kinds movement noted⟩

theorem ProperRun.marks (run : ProperRun db (submission :: rest)) {txHash : Bytes}
    (applied : submission.Applied db msg stored recorded)
    (completed : recordCompletion submission.evm
      (transitionDb submission.evm (submission.start db) msg).st.store
      (transitionDb submission.evm (submission.start db) msg).st.db submission.tx =
        ((transitionDb submission.evm (submission.start db) msg).st.store,
          .ok (complete
            (transitionDb submission.evm (submission.start db)
              msg).st.db txHash submission.tx.hash))) :
    Marks ((submission.commit db).viewOf blackAddr) (hexToHash txHash) := by
  cases completed.symm.trans applied.isRecorded
  obtain ⟨count, -, view⟩ := applied.viewOf_commit rfl run.head.spares run.ready
  rw [view]
  exact marks_stamp run.head.nonempty (.inl rfl)

/-! ## Recharges -/

def isRechargeOf (id : Hash) : Movement → Bool
  | .recharge txHash _ => hexToHash txHash = id
  | _ => false

/-- One if an applied transaction pays outputs of the id, and zero otherwise. -/
def rechargeCredits (id : Hash) (db : StateDB) (submission : Submission) : Nat :=
  if (submission.movements db).any (isRechargeOf id) then 1 else 0

theorem recordCompletion_recharge {evm : Evm} {store : SpvStore} {tx : Transaction}
    {text txhash : Bytes} {datas : List RechargeData} {fee : Int}
    (isZero : tx.recipient = some blackAddr)
    (noRefund : evm.isWithdawFailedTx db tx.data = .ok (false, text))
    (named : evm.rechargeHash tx.data = some txhash)
    (read : getRechargeDataByTxhash evm.format evm.spvService store txhash = .ok (datas, fee))
    (outputs : datas ≠ []) (fees : ∀ data ∈ datas, 0 < data.fee)
    (payable : ∀ data ∈ datas, data.targetAddress ≠ blackAddr ∧ data.fee ≤ data.targetAmount) :
    recordCompletion evm store db tx = (store, .ok (complete db txhash tx.hash)) := by
  unfold recordCompletion
  rw [if_neg (not_not.mpr isZero), noRefund]
  dsimp only
  unfold Evm.rechargeHash at named
  by_cases exactly : tx.data.length = 32
  · rw [if_pos exactly] at named ⊢
    cases named
    obtain ⟨data, others, rfl⟩ := List.exists_cons_of_ne_nil outputs
    have found := findOutput_of_getRechargeData evm.format evm.spvService read
    have stripped : strip0x (hexutilEncode tx.data) = bytes2Hex tx.data := rfl
    have again : findOutputFeeAndaddressByTxHash evm.format
        evm.spvService store (strip0x (hexutilEncode tx.data)) =
        findOutputFeeAndaddressByTxHash evm.format evm.spvService store
          (hexutilEncode tx.data) := by
      unfold findOutputFeeAndaddressByTxHash
      rw [stripped, strip0x_bytes2Hex]
    have feePaid := fees data List.mem_cons_self
    obtain ⟨target, covers⟩ := payable data List.mem_cons_self
    have kept : trySetRechargeDataFromSpvService evm.format
        evm.spvService store (hexutilEncode tx.data) = (store, .ok ()) := by
      unfold trySetRechargeDataFromSpvService
      dsimp only
      rw [again, found]
      dsimp only
      rw [if_neg fun missing => absurd missing.1 (not_le.mpr feePaid)]
    rw [kept]
    dsimp only
    rw [found]
    dsimp only
    rw [if_pos ⟨feePaid, lt_of_lt_of_le feePaid covers, target⟩]
  · rw [if_neg exactly] at named ⊢
    split at named
    · obtain ⟨small, isSmall, rfl⟩ := Option.map_eq_some_iff.mp named
      rw [isSmall]
    · cases named

theorem ProperRun.marks_recharge (run : ProperRun db (submission :: rest))
    {stored found : SpvStore} {text txHash : Bytes} {datas : List RechargeData}
    {fee : Int} (applied : submission.Applied db msg stored recorded)
    (isZero : msg.recipient = some blackAddr)
    (noRefund : submission.evm.isWithdawFailedTx
      (submission.start db).db msg.data = .ok (false, text))
    (named : submission.evm.rechargeHash msg.data = some txHash)
    (store : (transitionDb submission.evm (submission.start db) msg).st.store = found)
    (read : getRechargeDataByTxhash submission.evm.format
      submission.evm.spvService found txHash = .ok (datas, fee))
    (outputs : datas ≠ [])
    (fees : ∀ data ∈ datas, 0 < data.fee)
    (payable : ∀ data ∈ datas, data.targetAddress ≠ blackAddr ∧ data.fee ≤ data.targetAmount) :
    Marks ((submission.commit db).viewOf blackAddr) (hexToHash txHash) := by
  obtain ⟨recipient, data⟩ := Transaction.asMessage_ok applied.isMessage
  refine run.marks applied ?_
  rw [Evm.isWithdawFailedTx_congr _
    (transitionDb submission.evm (submission.start db) msg).st.db] at noRefund
  rw [data] at noRefund named
  exact recordCompletion_recharge (recipient.symm.trans isZero) noRefund named
    ((congrArg (getRechargeDataByTxhash _ _ · txHash) store).trans read) outputs fees payable

theorem marks_of_recharge {id : Hash} (run : ProperRun db (submission :: rest))
    (credits : rechargeCredits id db submission ≠ 0) :
    ¬Marks (db.viewOf blackAddr) id ∧ Marks ((submission.commit db).viewOf blackAddr) id := by
  have paid : (submission.movements db).any (isRechargeOf id) = true := by
    by_contra unpaid
    exact credits (if_neg unpaid)
  obtain ⟨movement, noted, isRecharge⟩ := List.any_eq_true.mp paid
  obtain ⟨msg, stored, recorded, admitted, loan, applied, admission,
    fees, store, effect, kind⟩ := run.origin noted
  cases movement with
  | refund _ _ _ => cases isRecharge
  | frame _ _ _ => cases isRecharge
  | recharge txHash amount =>
    obtain rfl : hexToHash txHash = id := by
      simpa [isRechargeOf] using isRecharge
    obtain ⟨named, arguments⟩ := kind
    cases admission with
    | recharge isZero noRefund named' read outputs unmarked payable =>
      cases named'.symm.trans named
      exact ⟨fun marked => marked unmarked,
        run.marks_recharge applied isZero noRefund named store read outputs fees payable⟩
    -- The other messages make one call without a recharge.
    | plain _ _ => exact absurd rfl arguments
    | refund _ _ _ => exact absurd rfl arguments
    | blackContract _ => exact absurd rfl arguments

/--
In every run of transactions, the outputs of a main-chain transaction are paid by
at most one of the transactions that are applied.
-/
theorem recharged_at_most_once (id : Hash) (db : StateDB) (submissions : List Submission)
    (run : ProperRun db submissions) :
    EventRuns.tally (rechargeCredits id)
      (fun db submission => submission.commit db) db submissions ≤ 1 := by
  refine (EventRuns.tally_le_one (fun _ _ _ run => ProperRun.next run) ?_
    (fun _ _ _ run credits => marks_of_recharge run credits)
    (fun _ _ _ run marked => Marks.step marked run.ready run.head.nonempty run.zeroStep) run).1
  intro db submission rest run
  unfold rechargeCredits
  split <;> omega

namespace Sample

def transaction (recipient : Address) (nonce : UInt64) (data : Bytes) : Transaction where
  hash := bytesToHash [1]
  sender := .ok (account 3)
  recipient := some recipient
  gasPrice := 1
  gas := 100000
  value := 0
  nonce := nonce
  data := data
  accessList := []

def submitted (interpreter : Frame → Script) (tx : Transaction) : Submission where
  evm := node interpreter
  store := store
  collector := Collector.empty
  gasPool := 200000
  usedGas := 0
  dirties _ := true
  tx := tx

theorem submitted_proper (interpreter : Frame → Script) (recipient : Address) (nonce : UInt64)
    (data : Bytes) : (submitted interpreter (transaction recipient nonce data)).Proper := by
  have created : account 6 ≠ blackAddr := by decide
  have nonempty : bytesToHash [1] ≠ emptyHash := by decide
  exact ⟨⟨fun _ _ => created, fun _ _ _ => created⟩, nonempty⟩

theorem submitted_twice_proper (data : Bytes) :
    ∀ submission ∈ [submitted idle (transaction blackAddr 0 data),
      submitted idle (transaction blackAddr 1 data)], submission.Proper := by
  intro submission member
  simp only [List.mem_cons, List.not_mem_nil, or_false] at member
  rcases member with rfl | rfl
  · exact submitted_proper _ _ _ _
  · exact submitted_proper _ _ _ _

def rechargeTwice : List Submission :=
  [submitted idle (transaction blackAddr 0 mainTx), submitted idle (transaction blackAddr 1 mainTx)]

theorem emptyState_ready {remaining : Nat} (room : 2 * remaining < 2 ^ 64) :
    ZeroReady remaining (emptyState.viewOf blackAddr) where
  codeless := rfl
  alive := rfl
  counted _ marked := absurd rfl marked
  room := by
    change 0 + _ < _
    omega

end Sample

open Sample

/-- The second of two equal recharges is not paid. -/
theorem recharged_at_most_once_twice :
    EventRuns.tally (rechargeCredits (bytesToHash mainTx))
        (fun db submission => submission.commit db) emptyState rechargeTwice = 1 ∧
      EventRuns.tally (rechargeCredits (bytesToHash mainTx))
        (fun db submission => submission.commit db) emptyState rechargeTwice ≤ 1 := by
  refine ⟨by decide +kernel, recharged_at_most_once _ _ _ ⟨?_, ?_⟩⟩
  · exact submitted_twice_proper _
  · exact emptyState_ready (by decide)

/-! ## Refunds -/

def isRefundOf (id : Hash) : Movement → Bool
  | .refund txid _ _ => hexToHash txid = id
  | _ => false

/-- How often the transaction pays the withdrawal back. -/
def refundCredits (id : Hash) (db : StateDB) (submission : Submission) : Nat :=
  (submission.movements db).countP (isRefundOf id)

/-- No inner call asks for this refund. -/
def RefundsOnTop (id : Hash) (db : StateDB) (submission : Submission) : Prop :=
  ∀ site ∈ submission.calls db, site.depth = 0 ∨ site.addr ≠ blackAddr ∨
      bytesToHash (site.input.take 32) ≠ id

instance (id : Hash) (db : StateDB) (submission : Submission) :
    Decidable (RefundsOnTop id db submission) :=
  inferInstanceAs (Decidable (∀ _ ∈ _, _))

/-- A run in which no inner call asks for the refund. -/
structure RefundRun (id : Hash) (db : StateDB) (submissions : List Submission) : Prop where
  proper : ProperRun db submissions
  onTop : EventRuns.Along (RefundsOnTop id)
    (fun db submission => submission.commit db) db submissions

theorem RefundsOnTop.not_isDeep {depth : Nat} {amount : Int}
    (onTop : RefundsOnTop (hexToHash txid) db submission) :
    ¬IsDeep (submission.calls db) (.refund txid depth amount) := by
  rintro ⟨below, site, called, rfl, isZero, rfl⟩
  have same : hexToHash site.refundId = bytesToHash (site.input.take 32) := by
    rw [CallSite.refundId, hexToHash, fromHex_hexutilEncode]
  rcases onTop site called with top | elsewhere | other
  · exact Nat.ne_of_gt below top
  · exact elsewhere isZero
  · exact other same.symm

theorem refundCredits_eq {id : Hash} (run : ProperRun db (submission :: rest))
    (onTop : RefundsOnTop id db submission) :
    refundCredits id db submission = (submission.movements db).countP (isTopRefund id) := by
  refine List.countP_congr ?_
  intro movement member
  cases movement with
  | refund txid depth amount =>
    simp only [isRefundOf, isTopRefund, Bool.and_eq_true, decide_eq_true_eq]
    refine ⟨?_, And.right⟩
    rintro rfl
    obtain ⟨_, _, _, _, _, -, -, -, -, -, kind⟩ := run.origin member
    exact ⟨(kind.resolve_left onTop.not_isDeep).1, rfl⟩
  | _ => rfl

theorem Admitted.of_asks {evm : Evm} {st admitted : Transition} {loan : Loan}
    (admission : Admitted evm st msg admitted loan) (toZero : msg.recipient = some blackAddr)
    (asks : evm.isWithdawFailedTx st.db msg.data = .ok (true, txid)) :
    loan = .refund ∧ st.db.getState blackAddr (hexToHash txid) = emptyHash := by
  cases admission with
  | refund isZero isRefund unmarked =>
    cases asks.symm.trans isRefund
    exact ⟨rfl, unmarked⟩
  -- The other messages are no refunds.
  | plain _ noRefund =>
    obtain ⟨text, answer⟩ := noRefund toZero
    cases asks.symm.trans answer
  | recharge _ noRefund _ _ _ _ _ => cases asks.symm.trans noRefund
  | blackContract isCreation => cases toZero.symm.trans isCreation

theorem ProperRun.marks_refund (run : ProperRun db (submission :: rest))
    (applied : submission.Applied db msg stored recorded) (toZero : msg.recipient = some blackAddr)
    (asks : submission.evm.isWithdawFailedTx (submission.start db).db msg.data = .ok (true, txid)) :
    Marks ((submission.commit db).viewOf blackAddr) (hexToHash txid) := by
  obtain ⟨recipient, data⟩ := Transaction.asMessage_ok applied.isMessage
  refine run.marks applied ?_
  rw [data, Evm.isWithdawFailedTx_congr _
    (transitionDb submission.evm (submission.start db) msg).st.db] at asks
  unfold recordCompletion
  rw [if_neg (not_not.mpr (recipient.symm.trans toZero)), asks]

theorem marks_of_refund {id : Hash} (run : ProperRun db (submission :: rest))
    (onTop : RefundsOnTop id db submission) (credits : refundCredits id db submission ≠ 0) :
    refundCredits id db submission ≤ 1 ∧ ¬Marks (db.viewOf blackAddr) id ∧
      Marks ((submission.commit db).viewOf blackAddr) id := by
  have positive : 0 < (submission.movements db).countP (isTopRefund id) := by
    rw [← refundCredits_eq run onTop]
    exact Nat.pos_of_ne_zero credits
  obtain ⟨movement, noted, isTop⟩ := List.countP_pos_iff.mp positive
  obtain ⟨msg, stored, recorded, admitted, loan, applied, admission,
    fees, store, effect, kind⟩ := run.origin noted
  cases movement with
  | recharge _ _ => cases isTop
  | frame _ _ _ => cases isTop
  | refund txid depth amount =>
    simp only [isTopRefund, Bool.and_eq_true, decide_eq_true_eq] at isTop
    obtain ⟨rfl, rfl⟩ := isTop
    obtain ⟨-, toZero, other, asks⟩ := kind.resolve_left onTop.not_isDeep
    rw [Evm.isWithdawFailedTx_congr other (submission.start db).db] at asks
    obtain ⟨rfl, unmarked⟩ := admission.of_asks toZero asks
    refine ⟨?_, fun marked => marked unmarked, run.marks_refund applied toZero asks⟩
    rw [refundCredits_eq run onTop, applied.movements_eq]
    exact effect.topRefunds_le _

/--
In every run in which no contract calls the zero address with an id, the refund
of this id is credited at most once.
-/
theorem refunded_at_most_once (id : Hash) (db : StateDB) (submissions : List Submission)
    (run : RefundRun id db submissions) :
    EventRuns.tally (refundCredits id) (fun db submission => submission.commit db) db submissions ≤
        1 := by
  refine (EventRuns.tally_le_one (fun _ _ _ run => RefundRun.mk run.proper.next run.onTop.2) ?_
    (fun _ _ _ run credits =>
      (marks_of_refund run.proper run.onTop.1 credits).2)
    (fun _ _ _ run marked => Marks.step marked run.proper.ready
      run.proper.head.nonempty run.proper.zeroStep) run).1
  intro db submission rest run
  by_cases credits : refundCredits id db submission = 0
  · omega
  · exact (marks_of_refund run.proper run.onTop.1 credits).1

namespace Sample

def withdrawal : Bytes :=
  List.replicate 32 7

def refundInput : Bytes :=
  withdrawal ++ (producer ++ withdrawal)

def refundTwice : List Submission :=
  [submitted idle (transaction blackAddr 0 refundInput),
    submitted idle (transaction blackAddr 1 refundInput)]

def twice (_ : Frame) : Script :=
  .invoke (.call blackAddr refundInput 0 0) fun _ =>
    .invoke (.call blackAddr refundInput 0 0) fun _ =>
      .halt [] none

def contractState : StateDB :=
  (emptyState.setCode (account 2) [1]).addBalance (account 3) 200000

def callContract : List Submission :=
  [submitted twice (transaction (account 2) 0 [])]

end Sample

/-- The second of two equal refunds is not paid. -/
theorem refunded_at_most_once_twice :
    EventRuns.tally (refundCredits (bytesToHash withdrawal))
        (fun db submission => submission.commit db) emptyState refundTwice = 1 ∧
      EventRuns.tally (refundCredits (bytesToHash withdrawal))
        (fun db submission => submission.commit db) emptyState refundTwice ≤ 1 := by
  refine ⟨by decide +kernel, refunded_at_most_once _ _ _ ⟨⟨?_, ?_⟩, by decide +kernel⟩⟩
  · exact submitted_twice_proper _
  · exact emptyState_ready (by decide)

/--
A contract that calls the zero address twice is credited the same refund twice,
and the id stays unmarked.
-/
theorem contract_credits_refund_twice :
    EventRuns.tally (refundCredits (bytesToHash withdrawal))
        (fun db submission => submission.commit db) contractState callContract = 2 ∧
      (EventRuns.run (fun db submission => submission.commit db)
        contractState callContract).getBalance (account 5) = 200 ∧
      (EventRuns.run (fun db submission => submission.commit db)
        contractState callContract).getState blackAddr (bytesToHash withdrawal) = emptyHash := by
  decide +kernel

end EscSideChain.Core
