import EscSideChain.AcceptedMessages

namespace EscSideChain.Core

open Dpos State Spv WithdrawFailedTx Vm

/-!
# Conservation of the supply

An accepted message whose calls all succeed changes the sum of all balances by
the money that crossed the border of this chain and nothing else.  The loan, the
gas that is bought, returned and paid to the miner and the developers, and the
free deployment cancel out.
-/

/-! ## The movements by kind -/

/-- The money that a note of a recharge stands for. -/
def rechargedBy : Movement → Int
  | .recharge _ amount => amount
  | _ => 0

/-- The money that a note of a refund stands for. -/
def refundedBy : Movement → Int
  | .refund _ _ amount => amount
  | _ => 0

/-- The value of a successful frame whose recipient is the black contract. -/
def burntBy : Movement → Int
  | .frame _ true value => value
  | _ => 0

/-- The sum of the recharged amounts. -/
def recharged (db : StateDB) : Int :=
  (db.movements.map rechargedBy).sum

/-- The sum of the refunded amounts. -/
def refunded (db : StateDB) : Int :=
  (db.movements.map refundedBy).sum

/-- The sum of the values of the successful frames to the black contract. -/
def burnt (db : StateDB) : Int :=
  (db.movements.map burntBy).sum

variable {st admitted : Transition} {loan : Loan} {addr : Address} (db : StateDB)

theorem netMovements_eq : netMovements db = recharged db + refunded db - burnt db := by
  unfold netMovements recharged refunded burnt
  induction db.movements with
  | nil => rfl
  | cons movement rest inductionHypothesis =>
    have single : movement.net = rechargedBy movement + refundedBy movement - burntBy movement := by
      cases movement with
      | recharge txHash amount => simp [Movement.net, rechargedBy, refundedBy, burntBy]
      | refund txid depth amount => simp [Movement.net, rechargedBy, refundedBy, burntBy]
      | frame recipient toBlack value =>
        cases toBlack <;> simp [Movement.net, rechargedBy, refundedBy, burntBy]
    simp only [List.map_cons, List.sum_cons, inductionHypothesis, single]
    ring

theorem recharged_eq_of_gains {calls : List CallSite} {before after : StateDB}
    (gains : Gains (IsDeep calls) before after) : recharged after = recharged before := by
  obtain ⟨gained, same, deep⟩ := gains
  have nothing : (gained.map rechargedBy).sum = 0 := by
    refine List.sum_eq_zero ?_
    intro amount member
    obtain ⟨movement, inGained, rfl⟩ := List.mem_map.mp member
    cases movement with
    | recharge _ _ => exact (deep _ inGained).elim
    | _ => rfl
  simp [recharged, same, nothing]

/-! ## Two sums along a transition -/

structure Accounted (own paid : Int) (before after : StateDB) : Prop where
  ownTotal_eq : ownTotal after = ownTotal before + own
  recharged_eq : recharged after = recharged before + paid

namespace Accounted

variable {before between after : StateDB}

theorem trans {own paid own' paid' ownBoth paidBoth : Int}
    (first : Accounted own paid before between) (second : Accounted own' paid' between after)
    (ownSum : own + own' = ownBoth) (paidSum : paid + paid' = paidBoth) :
    Accounted ownBoth paidBoth before after where
  ownTotal_eq := by
    rw [second.ownTotal_eq, first.ownTotal_eq, add_assoc, ownSum]
  recharged_eq := by
    rw [second.recharged_eq, first.recharged_eq, add_assoc, paidSum]

theorem skip {own paid : Int} (first : Accounted 0 0 before between)
    (second : Accounted own paid between after) : Accounted own paid before after :=
  first.trans second (zero_add own) (zero_add paid)

theorem of_eq (accounts : after.account = before.account)
    (movements : after.movements = before.movements) : Accounted 0 0 before after where
  ownTotal_eq := by
    rw [add_zero]
    exact ownTotal_congr accounts movements
  recharged_eq := by
    simp [recharged, movements]

theorem addBalance (addr : Address) (amount : Int) :
    Accounted amount 0 db (db.addBalance addr amount) where
  ownTotal_eq := ownTotal_addBalance db addr amount
  recharged_eq := (add_zero _).symm

theorem subBalance (addr : Address) (amount : Int) :
    Accounted (-amount) 0 db (db.subBalance addr amount) where
  ownTotal_eq := ownTotal_subBalance db addr amount
  recharged_eq := (add_zero _).symm

theorem setNonce (addr : Address) (nonce : UInt64) : Accounted 0 0 db (db.setNonce addr nonce) where
  ownTotal_eq := by
    rw [add_zero]
    exact ownTotal_modify rfl
  recharged_eq := (add_zero _).symm

end Accounted

/-! ## Calls -/

def conserving : Bounds where
  home _ := True
  destructs self beneficiary := self ≠ beneficiary

/--
The code of a frame conserves the sum of all balances.  Destruction in favour of
the destructed account itself is the one instruction that does not.
-/
def Conserves (evm : Evm) : Prop :=
  ∀ frame, (evm.interpreter frame).Obeys (frame.self ≠ ·)

theorem Conserves.within {evm : Evm} (conserves : Conserves evm) : evm.Within conserving where
  created _ _ := trivial
  created2 _ _ _ := trivial
  obeys := conserves

theorem conserving_clean : conserving.Clean db :=
  fun _ away => absurd trivial away

theorem Accounted.of_frameRun {before after : World} (run : FrameRun conserving before after) :
    Accounted 0 0 before.db after.db where
  ownTotal_eq := by
    rw [add_zero]
    exact run.ownTotal_eq fun _ _ other => other
  recharged_eq := by
    rw [add_zero]
    exact recharged_eq_of_gains run.gains

def argumentAmount : Option RechargeData → Int
  | none => 0
  | some data => data.targetAmount - data.fee

def Payable (evm : Evm) (data : Bytes) (addr : Address) : Option RechargeData → Prop
  | none => True
  | some recharge =>
    addr = blackAddr ∧ (∃ text, ∀ db, evm.isWithdawFailedTx db data = .ok (false, text)) ∧
      (∃ txHash, evm.rechargeHash data = some txHash) ∧ recharge.targetAddress ≠ blackAddr ∧
      recharge.fee ≤ recharge.targetAmount

theorem Accounted.of_opening {evm : Evm} {caller addr : Address} {input : Bytes}
    {recharge : Option RechargeData} (payable : Payable evm input addr recharge)
    {before after : World} (opening : evm.Opening 0 caller addr input recharge before after) :
    Accounted 0 (argumentAmount recharge) before.db after.db := by
  refine ⟨by rw [opening.ownTotal_eq, add_zero], ?_⟩
  cases opening with
  | plain unpaid =>
    cases recharge with
    | none => exact (add_zero _).symm
    | some data =>
      obtain ⟨isZero, -, ⟨txHash, named⟩, target, covers⟩ := payable
      rcases unpaid data txHash isZero rfl named with isBlack | short
      · exact absurd isBlack target
      · exact absurd covers (not_le.mpr short)
  | refund _ isRefund _ log amount _ =>
    cases recharge with
    | none =>
      simp [recharged, StateDB.note, StateDB.addBalance,
        StateDB.modify, StateDB.addLog, rechargedBy, argumentAmount]
    | some data =>
      obtain ⟨-, ⟨text, noRefund⟩, -⟩ := payable
      rw [noRefund] at isRefund
      cases isRefund
  | recharge _ _ given _ _ log =>
    subst given
    simp [recharged, StateDB.note, StateDB.addBalance, StateDB.modify, StateDB.addLog, rechargedBy,
      argumentAmount]

theorem topCall_accounted {evm : Evm} (conserves : Conserves evm) {world : World}
    {caller addr : Address} {input : Bytes} {gas : Nat} {value : Int}
    {recharge : Option RechargeData} (payable : Payable evm input addr recharge)
    (succeeded : (evm.topCall world caller addr input gas value recharge).2.err = none) :
    Accounted 0 (argumentAmount recharge) world.db
      (evm.topCall world caller addr input gas value recharge).1.db := by
  rcases (Evm.topCall_cases conserves.within (conserving_clean world.db) caller addr input gas value
      recharge).2 with ⟨-, failed⟩ | ⟨opened, opening, ran⟩
  · exact absurd succeeded failed
  · exact (Accounted.of_opening payable opening).trans (.of_frameRun ran) (add_zero _) (add_zero _)

theorem topCreate_accounted {evm : Evm} (conserves : Conserves evm) (world : World)
    (caller : Address) (code : Bytes) (gas : Nat) (value : Int) :
    Accounted 0 0 world.db (evm.topCreate world caller code gas value).1.db := by
  rcases Evm.topCreate_cases conserves.within (conserving_clean world.db) caller code gas value with
    same | ⟨address, ran⟩
  · rw [same]
    exact .of_eq rfl rfl
  · have counted : Accounted 0 0 world.db (evm.countedCreation world.db caller address) :=
      (Accounted.setNonce _ _ _).skip
        (.of_eq (Evm.countedCreation_account _ _ _) (Evm.countedCreation_movements _ _ _))
    exact counted.skip (.of_frameRun ran)

variable {evm : Evm} {msg : Message}

theorem callEach_accounted (conserves : Conserves evm) {arguments : List (Option RechargeData)}
    (payable : ∀ argument ∈ arguments, Payable evm msg.data addr argument) (st : Transition)
    (succeeded : ∀ call ∈ (callEach evm msg addr arguments st).2, call.err = none) :
    Accounted 0 (arguments.map argumentAmount).sum st.db
      (callEach evm msg addr arguments st).1.db := by
  induction arguments generalizing st with
  | nil => exact .of_eq rfl rfl
  | cons argument rest inductionHypothesis =>
    have first := topCall_accounted conserves (payable argument List.mem_cons_self)
      (succeeded _ List.mem_cons_self)
    have others := inductionHypothesis (fun other member => payable other (.tail _ member)) _
      (fun call member => succeeded call (.tail _ member))
    exact first.trans others (add_zero _) (by rw [List.map_cons, List.sum_cons])

theorem callEach_gas (addr : Address) (arguments : List (Option RechargeData)) (st : Transition) :
    (callEach evm msg addr arguments st).1.gas ≤ st.gas ∧
      (callEach evm msg addr arguments st).1.initialGas = st.initialGas := by
  induction arguments generalizing st with
  | nil => exact ⟨le_rfl, rfl⟩
  | cons argument rest inductionHypothesis =>
    have others := inductionHypothesis { st with
        world := (evm.topCall st.world msg.sender addr msg.data st.gas msg.value argument).1
        gas := (evm.topCall st.world msg.sender addr msg.data st.gas msg.value argument).2.gas }
    exact ⟨others.1.trans (Evm.enter_gas _ _ _), others.2⟩

theorem perform_accounted (conserves : Conserves evm)
    (payable : ∀ addr, msg.recipient = some addr →
      ∀ argument ∈ loan.arguments, Payable evm msg.data addr argument)
    (creates : msg.recipient = none → (loan.arguments.map argumentAmount).sum = 0)
    (st : Transition)
    (succeeded : ∀ call ∈ (perform evm loan st msg).2, call.err = none) :
    Accounted 0 (loan.arguments.map argumentAmount).sum st.db (perform evm loan st msg).1.db := by
  unfold perform at succeeded ⊢
  split at succeeded
  · next isCreation =>
      rw [creates isCreation]
      exact topCreate_accounted conserves _ _ _ _ _
  next addr recipient =>
    exact (Accounted.setNonce _ _ _).skip
      (callEach_accounted conserves (payable addr recipient) _ succeeded)

theorem perform_gas (loan : Loan) (st : Transition) :
    (perform evm loan st msg).1.gas ≤ st.gas ∧
      (perform evm loan st msg).1.initialGas = st.initialGas := by
  unfold perform
  split
  · exact ⟨Evm.topCreate_gas _ _ _ _ _, rfl⟩
  · exact callEach_gas _ _ _

/-! ## Gas and fees -/

theorem payDevelopers_accounted (subFee : Int) (developers : List Bytes) (db : StateDB)
    (minerFee : Int) :
    Accounted (minerFee - (payDevelopers subFee developers db minerFee).2) 0 db
      (payDevelopers subFee developers db minerFee).1 := by
  induction developers generalizing db minerFee with
  | nil =>
    unfold payDevelopers
    rw [sub_self]
    exact .of_eq rfl rfl
  | cons account rest inductionHypothesis =>
    unfold payDevelopers
    refine (Accounted.addBalance db (hexToAddress account)
      subFee).trans (inductionHypothesis _ (minerFee - subFee)) ?_ (add_zero _)
    ring

theorem payMiner_accounted (minerFee : Int) :
    Accounted minerFee 0 db (payMiner evm db minerFee) := by
  unfold payMiner
  dsimp only
  split
  · exact (payDevelopers_accounted _ _ db minerFee).trans
      (Accounted.addBalance _ evm.coinbase _) (sub_add_cancel _ _) (add_zero _)
  · exact Accounted.addBalance db evm.coinbase minerFee

theorem payFee_accounted (loan : Loan) (st : Transition) :
    Accounted (st.gasUsed * msg.gasPrice) 0 st.db (payFee evm loan st msg).db := by
  unfold payFee
  dsimp only
  split
  · exact Accounted.addBalance _ _ _
  · exact payMiner_accounted _ _

theorem returnGas_payFee_accounted (loan : Loan) {refund : Nat}
    (bounded : st.gas + refund ≤ st.initialGas) :
    Accounted (st.initialGas * msg.gasPrice) 0 st.db
      (payFee evm loan (returnGas refund st msg) msg).db := by
  have returned : Accounted (((st.gas + refund : Nat) : Int) *
      msg.gasPrice) 0 st.db (returnGas refund st msg).db :=
    Accounted.addBalance _ _ _
  refine returned.trans (payFee_accounted loan (returnGas refund st msg)) ?_ (add_zero _)
  have used : (returnGas refund st msg).gasUsed = st.initialGas - (st.gas + refund) := rfl
  rw [← add_mul, used]
  congr 1
  omega

theorem payOut_eq (loan : Loan) (vmerr : Option VmError) {st : Transition}
    (bounded : st.gas ≤ st.initialGas) :
    ∃ refund, st.gas + refund ≤ st.initialGas ∧ payOut evm loan vmerr st msg =
        payFee evm loan (returnGas refund st msg) msg := by
  unfold payOut
  split
  · refine ⟨st.gasUsed, ?_, rfl⟩
    unfold Transition.gasUsed
    omega
  refine ⟨min (st.gasUsed / 2) st.db.refund, ?_, rfl⟩
  unfold Transition.gasUsed
  omega

theorem payOut_accounted (loan : Loan) (vmerr : Option VmError) {gas : Nat}
    (bounded : st.gas ≤ gas) (initial : st.initialGas = gas) :
    Accounted (gas * msg.gasPrice) 0 st.db (payOut evm loan vmerr st msg).db := by
  subst initial
  obtain ⟨refund, covered, paidOut⟩ := @payOut_eq evm msg loan vmerr st bounded
  rw [paidOut]
  exact returnGas_payFee_accounted loan covered

/-! ## Whole messages -/

def Loan.lent (evm : Evm) : Loan → Int
  | .unneeded => 0
  | _ => passBalance evm

def Loan.fees : Loan → Int
  | .recharge _ fee => fee
  | _ => 0

theorem Admitted.accounted (isAdmitted : Admitted evm st msg admitted loan) :
    Accounted (loan.lent evm) 0 st.db admitted.db := by
  cases isAdmitted with
  | plain store _ => exact .of_eq rfl rfl
  | refund _ _ _ => exact Accounted.addBalance _ _ _
  | recharge _ _ _ _ _ _ _ => exact Accounted.addBalance _ _ _
  | blackContract _ => exact Accounted.addBalance _ _ _

theorem Admitted.gas_eq
    (isAdmitted : Admitted evm st msg admitted loan) : admitted.gas = st.gas := by
  cases isAdmitted <;> rfl

theorem Loan.settled_accounted (loan : Loan) (db : StateDB) :
    Accounted (loan.fees - loan.lent evm) 0 db (loan.settled evm msg db) := by
  cases loan with
  | unneeded => exact .of_eq rfl rfl
  | recharge datas fee =>
    exact (Accounted.addBalance db msg.sender fee).trans
      (Accounted.subBalance _ msg.sender (passBalance evm)) (sub_eq_add_neg _ _).symm (add_zero _)
  | refund =>
    rw [show Loan.refund.fees - Loan.refund.lent evm = -passBalance evm from zero_sub _]
    exact Accounted.subBalance db msg.sender (passBalance evm)
  | blackContract =>
    rw [show Loan.blackContract.fees - Loan.blackContract.lent evm =
      -passBalance evm from zero_sub _]
    exact Accounted.subBalance db msg.sender (passBalance evm)

theorem ready_accounted (gas : Nat) (st : Transition) :
    Accounted (-msg.mgval) 0 st.db (ready evm gas st msg).db := by
  have paid := Accounted.subBalance st.db msg.sender msg.mgval
  unfold ready prepared
  split
  · exact paid.trans (.of_eq rfl rfl) (add_zero _) (add_zero _)
  · exact paid

theorem ready_gas {gas : Nat} {st : Transition} (unused : st.gas = 0) :
    (ready evm gas st msg).gas ≤ msg.gas ∧ (ready evm gas st msg).initialGas = msg.gas := by
  unfold ready prepared bought
  rw [unused]
  split <;> exact ⟨by simp [Transition.withDb], rfl⟩

theorem Admitted.payable (isAdmitted : Admitted evm st msg admitted loan)
    (recipient : msg.recipient = some addr) :
    ∀ argument ∈ loan.arguments, Payable evm msg.data addr argument := by
  cases isAdmitted with
  | recharge isZero noRefund named read outputs _ payable =>
    rw [isZero] at recipient
    intro argument member
    simp only [Loan.arguments, outputs, ↓reduceIte, List.mem_map] at member
    obtain ⟨data, inDatas, rfl⟩ := member
    exact ⟨(Option.some.inj recipient).symm,
      ⟨_, fun db => (Evm.isWithdawFailedTx_congr db st.db _).trans noRefund⟩,
      ⟨_, named⟩, payable data inDatas⟩
  | _ =>
    intro argument member
    rw [List.mem_singleton.mp member]
    trivial

theorem Admitted.creates
    (isAdmitted : Admitted evm st msg admitted loan) (isCreation : msg.recipient = none) :
    (loan.arguments.map argumentAmount).sum = 0 := by
  cases isAdmitted with
  | recharge isZero _ _ _ _ _ _ =>
    rw [isCreation] at isZero
    cases isZero
  | _ => simp [Loan.arguments, argumentAmount]

def rechargesOf (evm : Evm) (st : Transition) (msg : Message) : List RechargeData :=
  match (admitMessage evm st msg).2 with
  | .ok (.recharge datas _) => datas
  | _ => []

theorem Admitted.amounts (isAdmitted : admitMessage evm st msg = (admitted, .ok loan)) :
    (loan.arguments.map argumentAmount).sum + loan.fees =
      ((rechargesOf evm st msg).map RechargeData.targetAmount).sum := by
  have loaned : (admitMessage evm st msg).2 = .ok loan := by rw [isAdmitted]
  unfold rechargesOf
  rw [loaned]
  cases admitMessage_ok isAdmitted with
  | @recharge stored text txhash datas fee _ _ _ read outputs _ _ =>
    obtain rfl : fee = totalFee datas := getRechargeData_totalFee evm.format evm.spvService read
    simp only [Loan.arguments, outputs, ↓reduceIte, Loan.fees,
      totalFee, List.map_map, ← List.sum_map_add]
    congr 1
    refine List.map_congr_left ?_
    intro data _
    simp [argumentAmount]
  | _ => simp [Loan.arguments, Loan.fees, argumentAmount]

theorem transitionDb_accounted (conserves : Conserves evm) (unused : st.gas = 0)
    (accepted : (transitionDb evm st msg).err = none)
    (succeeded : ∀ call ∈ (transitionDb evm st msg).calls, call.err = none) :
    ∃ fees paid, Accounted fees paid st.db (transitionDb evm st msg).st.db ∧ paid + fees =
          ((rechargesOf evm st msg).map RechargeData.targetAmount).sum := by
  obtain ⟨admitted, loan, gas, stages⟩ := transitionDb_ok accepted
  rw [stages.calls] at succeeded
  have admission := admitMessage_ok stages.isAdmitted
  have lent := admission.accounted
  have bought : Accounted (-msg.mgval) 0 admitted.db (ready evm gas admitted msg).db :=
    ready_accounted gas admitted
  have made := perform_accounted conserves (fun addr recipient => admission.payable recipient)
    admission.creates (ready evm gas admitted msg) succeeded
  have readyGas : (ready evm gas admitted msg).gas ≤ msg.gas ∧
      (ready evm gas admitted msg).initialGas = msg.gas :=
    ready_gas (admission.gas_eq.trans unused)
  have performedGas :
      (perform evm loan (ready evm gas admitted msg) msg).1.gas ≤ (ready evm gas admitted msg).gas ∧
        (perform evm loan (ready evm gas admitted msg)
          msg).1.initialGas = (ready evm gas admitted msg).initialGas :=
    perform_gas loan _
  have paid : Accounted (msg.gas * msg.gasPrice) 0
      (perform evm loan (ready evm gas admitted msg) msg).1.db
      (finished evm loan msg (perform evm loan (ready evm gas admitted msg) msg)).st.db :=
    payOut_accounted loan _ (performedGas.1.trans readyGas.1) (performedGas.2.trans readyGas.2)
  have settled : Accounted (loan.fees - loan.lent evm) 0
      (finished evm loan msg (perform evm loan (ready evm gas admitted msg) msg)).st.db
      (loan.settled evm msg (finished evm loan msg
        (perform evm loan (ready evm gas admitted msg) msg)).st.db) :=
    loan.settled_accounted _
  refine ⟨loan.fees, (loan.arguments.map argumentAmount).sum, ?_,
    Admitted.amounts stages.isAdmitted⟩
  rw [stages.final]
  -- The loan, the gas and the fee cancel, and the fees of a recharge stay.
  have chain := (((lent.trans bought rfl (add_zero _)).trans made rfl
    (zero_add _)).trans paid rfl (add_zero _)).trans settled rfl (add_zero _)
  have cancelled : loan.lent evm + -msg.mgval + 0 +
      msg.gas * msg.gasPrice + (loan.fees - loan.lent evm) = loan.fees := by
    unfold Message.mgval
    ring
  rw [cancelled] at chain
  exact chain

/--
For every accepted message whose calls all succeed, the sum of all balances
changes by the amounts of the recharged outputs, plus what was refunded, minus
the values of the successful calls to the black contract.
-/
theorem applyMessage_conserves_supply (evm : Evm) (conserves : Conserves evm) (world : World)
    (store : SpvStore) (gasPool : Nat) (msg : Message)
    (accepted : (applyMessage evm world store gasPool msg).err = none)
    (succeeded : ∀ call ∈ (applyMessage evm world store gasPool msg).calls, call.err = none) :
    (applyMessage evm world store gasPool msg).st.db.total = world.db.total +
        ((rechargesOf evm ⟨world, store, gasPool, 0, 0⟩ msg).map RechargeData.targetAmount).sum +
        (refunded (applyMessage evm world store gasPool msg).st.db - refunded world.db) -
        (burnt (applyMessage evm world store gasPool msg).st.db - burnt world.db) := by
  obtain ⟨fees, paid, accounted, amounts⟩ := transitionDb_accounted conserves rfl accepted succeeded
  have before : ownTotal world.db = world.db.total -
      (recharged world.db + refunded world.db - burnt world.db) := by
    rw [← netMovements_eq, ownTotal]
  have after := accounted.ownTotal_eq
  rw [ownTotal, netMovements_eq, accounted.recharged_eq] at after
  rw [← amounts]
  unfold applyMessage
  change _ = ownTotal world.db + fees at after
  change _ - (recharged world.db + paid + _ - _) = _ at after
  linarith

namespace Sample

def format : ElaFormat where
  stringToFixed64 text := .ok (Int64.ofNat text.length)
  fixed64String _ := []
  uint256FromHexString _ := .ok emptyHash
  readVarString _ := .error "EOF"
  readUint8 _ := .error "EOF"
  readUint64 _ := .error "EOF"
  deserializeTransaction _ := .error "EOF"

def producer : Bytes :=
  List.replicate 32 1

def account (last : UInt8) : Address :=
  fixedBytes 20 [last]

def node (interpreter : Frame → Script) : Evm where
  ela := plainLibrary []
  format := format
  spvService := some {
    blockListenerHeight := none
    bestHeaderHeight := .ok 0
    getConsensusAlgorithm _ := .ok .dpos
    getArbiters _ := .ok ([], [])
    getTransaction _ := .ok none
    haveRetSideChainDepositCoinTx _ := false }
  pbftEngine := some {
    currentBlockNonce := 0
    blockNonceByHeight _ := none
    configProducers := [bytes2Hex producer] }
  rpc := some {
    storageAt db key := .ok (db.getState blackAddr key).toList
    transactionReceipt _ :=
      .ok ⟨1, [⟨[emptyHash, bytesToHash [5]], []⟩]⟩
    transactionByHash _ := .ok (some (some (account 9))) }
  withdrawEvent := ⟨emptyHash, fun _ => .ok 100⟩
  refundEventHash := emptyHash
  addressString addr := hexutilEncode addr.toList
  config := {
    blackContractAddr := hexutilEncode (account 9).toList
    passBalance := 1000000
    bridgeContractAddr := []
    developerContract := [hexutilEncode (account 7).toList]
    isdeveloperSplitfeeTime := true }
  rules := ⟨true, true, true, true, true, true, true, true⟩
  coinbase := account 8
  blockNumber := 1
  precompile _ := none
  activePrecompiles := []
  setArbiterList := [1]
  setManualArbiter := [2]
  createAddress _ _ := account 6
  createAddress2 _ _ _ := account 6
  interpreter := interpreter

def idle (_ : Frame) : Script :=
  .halt [] none

def emptyState : StateDB where
  account _ := none
  logs := []
  refund := 0
  accessList := []
  transientStorage _ _ := emptyHash
  movements := []

def mainTx : Bytes :=
  List.replicate 32 3

def store : SpvStore where
  transactionDb := some fun key =>
    if key = feeKey (bytes2Hex mainTx) then some [49]
    else if key = outputKey (bytes2Hex mainTx) then some [50, 50]
    else if key = addressKey (bytes2Hex mainTx) then some (hexutilEncode (account 4).toList)
    else none
  failedTxList := []
  spvTxhash := []

def message (recipient : Address) (data : Bytes) : Message where
  sender := account 3
  recipient := some recipient
  gasPrice := 1
  gas := 100000
  value := 0
  nonce := 0
  checkNonce := true
  data := data
  accessList := []

end Sample

open Sample

/--
A recharge by an account without money brings in its output, and a payment of 30 to the black
contract takes 30 out.
-/
theorem applyMessage_conserves_supply_both_ways :
    let empty : World := ⟨emptyState, Collector.empty, []⟩
    let rich : World := ⟨emptyState.addBalance (account 3) 1000000, Collector.empty, []⟩
    let payment : Message := { message (account 9) [] with value := 30 }
    (applyMessage (node idle) empty store 200000 (message blackAddr mainTx)).st.db.total =
        emptyState.total + 20000000000 ∧
      (applyMessage (node idle) rich store 200000 payment).st.db.total = rich.db.total - 30 := by
  intro empty rich payment
  have noMovements : refunded emptyState = 0 ∧ burnt emptyState = 0 ∧ refunded rich.db = 0 ∧
      burnt rich.db = 0 := by
    decide +kernel
  have recharges : rechargesOf (node idle) ⟨empty, store, 200000, 0, 0⟩
        (message blackAddr mainTx) = [⟨account 4, 20000000000, 10000000000, []⟩] ∧
      rechargesOf (node idle) ⟨rich, store, 200000, 0, 0⟩ payment = [] := by
    decide +kernel
  have brought := applyMessage_conserves_supply (node idle) (fun _ => trivial) empty store 200000
    (message blackAddr mainTx) (by decide +kernel) (by decide +kernel)
  have burns := applyMessage_conserves_supply (node idle) (fun _ => trivial) rich store 200000
    payment (by decide +kernel) (by decide +kernel)
  have moved :
      refunded (applyMessage (node idle) empty store 200000 (message blackAddr mainTx)).st.db = 0 ∧
      burnt (applyMessage (node idle) empty store 200000 (message blackAddr mainTx)).st.db = 0 ∧
      refunded (applyMessage (node idle) rich store 200000 payment).st.db = 0 ∧
      burnt (applyMessage (node idle) rich store 200000 payment).st.db = 30 := by
    decide +kernel
  obtain ⟨noRefund, noBurn, noRefund', burnt30⟩ := moved
  rw [recharges.1, noRefund, noBurn, noMovements.1, noMovements.2.1] at brought
  rw [recharges.2, noRefund', burnt30, noMovements.2.2.1, noMovements.2.2.2] at burns
  exact ⟨by simpa using brought, by simpa using burns⟩

end EscSideChain.Core
