import EscSideChain.AcceptedMessages

namespace EscSideChain.Core

open Dpos State Spv WithdrawFailedTx Vm

/-!
# What a message leaves behind

The effect of an accepted message on the zero account, which holds the marks of
completed refunds and recharges, and the movements of money that it notes.  The
zero account keeps everything but its balance and its nonce, which grows by one
if it sent the message itself.
-/

/-! ## Parts that change balances only -/

/-- Only balances differ between the two states. -/
structure BalancesOnly (before after : StateDB) : Prop where
  viewOf_eq : ∀ addr, after.viewOf addr = before.viewOf addr
  movements_eq : after.movements = before.movements

variable {calls : List CallSite} {before after : StateDB} {loan : Loan}

namespace BalancesOnly

theorem trans {before between after : StateDB} (first : BalancesOnly before between)
    (second : BalancesOnly between after) : BalancesOnly before after where
  viewOf_eq addr := (second.viewOf_eq addr).trans (first.viewOf_eq addr)
  movements_eq := second.movements_eq.trans first.movements_eq

theorem of_eq (accounts : after.account = before.account)
    (movements : after.movements = before.movements) : BalancesOnly before after where
  viewOf_eq := StateDB.viewOf_congr accounts
  movements_eq := movements

theorem addBalance (db : StateDB) (addr : Address) (amount : Int) :
    BalancesOnly db (db.addBalance addr amount) where
  viewOf_eq := StateDB.viewOf_addBalance db addr amount
  movements_eq := rfl

theorem subBalance (db : StateDB) (addr : Address) (amount : Int) :
    BalancesOnly db (db.subBalance addr amount) where
  viewOf_eq := StateDB.viewOf_subBalance db addr amount
  movements_eq := rfl

end BalancesOnly

variable {evm : Evm} {msg : Message} {st : Transition}

theorem Admitted.balancesOnly {admitted : Transition}
    (isAdmitted : Admitted evm st msg admitted loan) : BalancesOnly st.db admitted.db := by
  cases isAdmitted with
  | plain store _ => exact .of_eq rfl rfl
  | _ => exact .addBalance _ _ _

theorem ready_balancesOnly (gas : Nat) (st : Transition) :
    BalancesOnly st.db (ready evm gas st msg).db := by
  have paid := BalancesOnly.subBalance st.db msg.sender msg.mgval
  unfold ready prepared
  split
  · exact paid.trans (.of_eq rfl rfl)
  · exact paid

theorem payDevelopers_balancesOnly (subFee : Int) (developers : List Bytes) (db : StateDB)
    (minerFee : Int) : BalancesOnly db (payDevelopers subFee developers db minerFee).1 := by
  induction developers generalizing db minerFee with
  | nil => exact .of_eq rfl rfl
  | cons account rest inductionHypothesis =>
    exact (BalancesOnly.addBalance _ _ _).trans (inductionHypothesis _ _)

theorem payFee_balancesOnly (loan : Loan) (st : Transition) :
    BalancesOnly st.db (payFee evm loan st msg).db := by
  unfold payFee
  dsimp only
  split
  · exact .addBalance _ _ _
  change BalancesOnly st.db (payMiner evm st.db _)
  unfold payMiner
  dsimp only
  split
  · exact (payDevelopers_balancesOnly _ _ _ _).trans (.addBalance _ _ _)
  · exact .addBalance _ _ _

theorem payOut_balancesOnly (loan : Loan) (vmerr : Option VmError) (st : Transition) :
    BalancesOnly st.db (payOut evm loan vmerr st msg).db := by
  have returned (refund : Nat) : BalancesOnly st.db (returnGas refund st msg).db :=
    .addBalance _ _ _
  unfold payOut
  split
  · exact (returned _).trans (payFee_balancesOnly loan _)
  · exact (returned _).trans (payFee_balancesOnly loan _)

theorem Loan.settled_balancesOnly (loan : Loan) (db : StateDB) :
    BalancesOnly db (loan.settled evm msg db) := by
  cases loan with
  | unneeded => exact .of_eq rfl rfl
  | recharge datas fee => exact (BalancesOnly.addBalance _ _ _).trans (.subBalance _ _ _)
  | refund => exact .subBalance _ _ _
  | blackContract => exact .subBalance _ _ _

/-! ## The zero account -/

/-- The account with its nonce raised. -/
def raise (view : AccountView) (count : Nat) : AccountView :=
  { view with nonce := view.nonce + UInt64.ofNat count }

@[simp] theorem raise_raise (view : AccountView) (first second : Nat) :
    raise (raise view first) second = raise view (first + second) := by
  simp [raise, UInt64.ofNat_add, UInt64.add_assoc]

/-- The zero account differs only in a nonce that rose by at most the limit. -/
def Raised (limit : Nat) (before after : StateDB) : Prop :=
  ∃ count ≤ limit, after.viewOf blackAddr = raise (before.viewOf blackAddr) count

namespace Raised

variable {before between after : StateDB}

theorem of_eq (limit : Nat) (same : after.viewOf blackAddr = before.viewOf blackAddr) :
    Raised limit before after :=
  ⟨0, Nat.zero_le limit, by simp [raise, same]⟩

theorem trans {limit limit' : Nat} (first : Raised limit before between)
    (second : Raised limit' between after) : Raised (limit + limit') before after := by
  obtain ⟨count, bounded, raised⟩ := first
  obtain ⟨count', bounded', raised'⟩ := second
  refine ⟨count + count', Nat.add_le_add bounded bounded', ?_⟩
  rw [raised', raised, raise_raise]

theorem setNonce (db : StateDB) (addr : Address) :
    Raised 1 db (db.setNonce addr (db.getNonce addr + 1)) := by
  by_cases isZero : addr = blackAddr
  · subst isZero
    exact ⟨1, le_rfl, StateDB.viewOf_setNonce_self _ _ _⟩
  · exact .of_eq 1 (StateDB.viewOf_modify_of_ne (Ne.symm isZero))

end Raised

/-- The bounds of code whose home is not the zero account. -/
def sparing : Bounds where
  home addr := addr ≠ blackAddr
  destructs _ _ := True

/-- No contract is created at the zero account. -/
structure SparesZero (evm : Evm) : Prop where
  created : ∀ caller nonce, evm.createAddress caller nonce ≠ blackAddr
  created2 : ∀ caller salt code, evm.createAddress2 caller salt code ≠ blackAddr

theorem SparesZero.within (spares : SparesZero evm) : evm.Within sparing where
  created := spares.created
  created2 := spares.created2
  obeys frame := by
    induction evm.interpreter frame with
    | halt _ _ => trivial
    | charge _ _ inductionHypothesis => exact inductionHypothesis
    | inspect _ inductionHypothesis => exact fun db gas => inductionHypothesis db gas
    | perform _ _ inductionHypothesis => exact inductionHypothesis
    | selfdestruct _ => trivial
    | invoke _ _ inductionHypothesis => exact fun result => inductionHypothesis result

theorem sparing_clean {db : StateDB} (codeless : db.getCode blackAddr = []) : sparing.Clean db := by
  intro addr away
  rw [not_not.mp away]
  exact codeless

theorem frameRun_viewOf_zero {before after : World} (run : FrameRun sparing before after) :
    after.db.viewOf blackAddr = before.db.viewOf blackAddr :=
  run.viewOf_eq (not_not.mpr rfl)

/-! ## The movements that a message notes -/

/-- What a movement that a message notes says of the message. -/
def Noted (evm : Evm) (msg : Message) (loan : Loan) (calls : List CallSite) : Movement → Prop
  | .recharge txHash _ => evm.rechargeHash msg.data = some txHash ∧ loan.arguments ≠ [none]
  | .refund txid depth amount =>
    IsDeep calls (.refund txid depth amount) ∨ depth = 0 ∧ msg.recipient = some blackAddr ∧
        ∃ db, evm.isWithdawFailedTx db msg.data = .ok (true, txid)
  | .frame _ _ _ => True

theorem noted_of_isDeep (movement : Movement)
    (deep : IsDeep calls movement) : Noted evm msg loan calls movement := by
  cases movement with
  | recharge _ _ => exact deep.elim
  | refund _ _ _ => exact .inl deep
  | frame _ _ _ => trivial

theorem Noted.mono {calls later : List CallSite} (recorded : calls ⊆ later)
    {movement : Movement} (noted : Noted evm msg loan calls movement) :
    Noted evm msg loan later movement := by
  cases movement with
  | recharge _ _ => exact noted
  | refund _ _ _ => exact noted.imp (IsDeep.mono recorded) fun onTop => onTop
  | frame _ _ _ => trivial

/-- A refund of this withdrawal by the message itself. -/
def isTopRefund (id : Hash) : Movement → Bool
  | .refund txid depth _ => depth = 0 && hexToHash txid = id
  | _ => false

def topRefunds (id : Hash) (db : StateDB) : Nat :=
  db.movements.countP (isTopRefund id)

theorem topRefunds_of_gains (id : Hash)
    (gains : Gains (IsDeep calls) before after) : topRefunds id after = topRefunds id before := by
  obtain ⟨gained, same, deep⟩ := gains
  have nothing : gained.countP (isTopRefund id) = 0 := by
    refine List.countP_eq_zero.mpr ?_
    intro movement member
    have isDeep := deep movement member
    cases movement with
    | refund txid depth amount => simp [isTopRefund, Nat.ne_of_gt isDeep.1]
    | _ => simp [isTopRefund]
  simp [topRefunds, same, nothing]

/-- What `count` calls of a message do. -/
structure CallEffect (evm : Evm) (msg : Message) (loan : Loan) (count : Nat)
    (before after : World) : Prop where
  viewOf_zero : after.db.viewOf blackAddr = before.db.viewOf blackAddr
  calls_subset : before.calls ⊆ after.calls
  gains : Gains (Noted evm msg loan after.calls) before.db after.db
  topRefunds_le : ∀ id, topRefunds id after.db ≤ topRefunds id before.db + count

namespace CallEffect

variable {loan : Loan} {before between after : World}

theorem of_eq (count : Nat) (viewOf_zero : after.db.viewOf blackAddr = before.db.viewOf blackAddr)
    (movements : after.db.movements = before.db.movements)
    (calls_subset : before.calls ⊆ after.calls) : CallEffect evm msg loan count before after where
  viewOf_zero := viewOf_zero
  calls_subset := calls_subset
  gains := .of_eq movements
  topRefunds_le id := by
    simp [topRefunds, movements]

theorem trans {count count' : Nat} (first : CallEffect evm msg loan count before between)
    (second : CallEffect evm msg loan count' between after) :
    CallEffect evm msg loan (count + count') before after where
  viewOf_zero := second.viewOf_zero.trans first.viewOf_zero
  calls_subset :=
    List.Subset.trans first.calls_subset second.calls_subset
  gains := (first.gains.mono fun _ noted =>
    noted.mono second.calls_subset).trans second.gains
  topRefunds_le id := by
    have earlier := first.topRefunds_le id
    have later := second.topRefunds_le id
    omega

theorem of_frameRun (run : FrameRun sparing before after) :
    CallEffect evm msg loan 0 before after where
  viewOf_zero := frameRun_viewOf_zero run
  calls_subset := run.calls_subset
  gains := run.gains.mono noted_of_isDeep
  topRefunds_le id := (topRefunds_of_gains id run.gains).le

theorem of_opening {addr : Address} (recipient : msg.recipient = some addr)
    {argument : Option RechargeData} (argued : argument ∈ loan.arguments)
    (opening : evm.Opening 0 msg.sender addr msg.data argument before after) :
    CallEffect evm msg loan 1 before after := by
  refine ⟨opening.viewOf_eq blackAddr, ?_, ?_, ?_⟩
  · rw [opening.calls_eq]
    exact List.Subset.refl _
  · cases opening with
    | plain _ => exact .of_eq rfl
    | refund isZero isRefund _ _ _ _ =>
      exact .single rfl (.inr ⟨rfl, by rw [recipient, isZero], _, isRefund⟩)
    | recharge _ _ given named _ _ =>
      refine .single rfl ⟨named, fun lone => ?_⟩
      rw [lone, given] at argued
      cases List.mem_singleton.mp argued
  · intro id
    cases opening with
    | plain _ => exact Nat.le_succ _
    | refund _ _ _ _ _ _ =>
      simp only [topRefunds, StateDB.note, List.countP_append]
      exact Nat.add_le_add_left List.countP_le_length _
    | recharge _ _ _ _ _ _ =>
      simp only [topRefunds, StateDB.note, List.countP_append]
      exact Nat.add_le_add_left List.countP_le_length _

end CallEffect

theorem topCall_effect (spares : SparesZero evm) {world : World}
    (codeless : world.db.getCode blackAddr = []) {addr : Address}
    (recipient : msg.recipient = some addr) {argument : Option RechargeData}
    (argued : argument ∈ loan.arguments) (gas : Nat) :
    CallEffect evm msg loan 1 world
      (evm.topCall world msg.sender addr msg.data gas msg.value argument).1 := by
  obtain ⟨recorded, ⟨same, -⟩ | ⟨opened, opening, ran⟩⟩ :=
    Evm.topCall_cases spares.within (sparing_clean codeless)
      msg.sender addr msg.data gas msg.value argument
  · exact .of_eq 1 (by rw [same]) (by rw [same]) recorded
  · have recording : CallEffect evm msg loan 0 world (world.record ⟨0, addr, msg.data⟩) :=
      .of_eq 0 rfl rfl (List.subset_append_left _ _)
    exact recording.trans
      ((CallEffect.of_opening recipient argued opening).trans (.of_frameRun ran))

theorem getCode_zero (same : after.viewOf blackAddr = before.viewOf blackAddr) :
    after.getCode blackAddr = before.getCode blackAddr :=
  congrArg AccountView.code same

theorem callEach_effect (spares : SparesZero evm) {addr : Address}
    (recipient : msg.recipient = some addr) {arguments : List (Option RechargeData)}
    (argued : ∀ argument ∈ arguments, argument ∈ loan.arguments) (st : Transition)
    (codeless : st.db.getCode blackAddr = []) :
    CallEffect evm msg loan arguments.length st.world (callEach evm msg addr arguments st).1.world ∧
      (callEach evm msg addr arguments st).1.store = st.store := by
  induction arguments generalizing st with
  | nil => exact ⟨.of_eq 0 rfl rfl (List.Subset.refl _), rfl⟩
  | cons argument rest inductionHypothesis =>
    have first := topCall_effect spares codeless recipient
      (argued argument List.mem_cons_self) st.gas
    have others := inductionHypothesis (fun other member => argued other (.tail _ member)) { st with
        world := (evm.topCall st.world msg.sender addr msg.data st.gas msg.value argument).1
        gas := (evm.topCall st.world msg.sender addr msg.data st.gas msg.value argument).2.gas }
      ((getCode_zero first.viewOf_zero).trans codeless)
    refine ⟨?_, others.2⟩
    rw [List.length_cons, Nat.add_comm]
    exact first.trans others.1

/-! ## Whole messages -/

/-- What a whole message does. -/
structure MessageEffect (evm : Evm) (msg : Message) (loan : Loan)
    (before after : World) : Prop where
  raised : Raised 1 before.db after.db
  gains : Gains (Noted evm msg loan after.calls) before.db after.db
  topRefunds_le : ∀ id, topRefunds id after.db ≤ topRefunds id before.db + loan.arguments.length

namespace MessageEffect

variable {loan : Loan} {before between after : World}

theorem after_balances (balances : BalancesOnly before.db between.db)
    (effect : MessageEffect evm msg loan between after) :
    MessageEffect evm msg loan before after where
  raised := by
    have first : Raised 0 before.db between.db := .of_eq 0 (balances.viewOf_eq blackAddr)
    exact first.trans effect.raised
  gains := .trans (.of_eq balances.movements_eq) effect.gains
  topRefunds_le id := by
    have bounded := effect.topRefunds_le id
    simpa only [topRefunds, balances.movements_eq] using bounded

theorem before_balances (effect : MessageEffect evm msg loan before between)
    (balances : BalancesOnly between.db after.db) (calls : after.calls = between.calls) :
    MessageEffect evm msg loan before after where
  raised := effect.raised.trans (.of_eq 0 (balances.viewOf_eq blackAddr))
  gains := by
    rw [calls]
    exact effect.gains.trans (.of_eq balances.movements_eq)
  topRefunds_le id := by
    have bounded := effect.topRefunds_le id
    simpa only [topRefunds, balances.movements_eq] using bounded

theorem of_calls (addr : Address) (made : CallEffect evm msg loan loan.arguments.length
      { before with
        db := before.db.setNonce addr (before.db.getNonce addr + 1) }
      after) :
    MessageEffect evm msg loan before after where
  raised := (Raised.setNonce before.db addr).trans (.of_eq 0 made.viewOf_zero)
  gains := made.gains
  topRefunds_le := made.topRefunds_le

end MessageEffect

theorem topCreate_effect (spares : SparesZero evm) (loan : Loan) {world : World}
    (codeless : world.db.getCode blackAddr = []) (gas : Nat) :
    MessageEffect evm msg loan world (evm.topCreate world msg.sender msg.data gas msg.value).1 := by
  rcases Evm.topCreate_cases spares.within (sparing_clean codeless)
      msg.sender msg.data gas msg.value with same | ⟨address, ran⟩
  · rw [same]
    exact ⟨.of_eq 1 rfl, .of_eq rfl, fun _ => Nat.le_add_right _ _⟩
  · have counted : CallEffect evm msg loan loan.arguments.length { world with
          db := world.db.setNonce msg.sender (world.db.getNonce msg.sender + 1) }
        { world with
          db := evm.countedCreation world.db msg.sender address } :=
      .of_eq _ (StateDB.viewOf_congr (Evm.countedCreation_account _ _ _) blackAddr)
        (Evm.countedCreation_movements _ _ _) (List.Subset.refl _)
    exact .of_calls msg.sender (counted.trans (.of_frameRun ran))

theorem perform_effect (spares : SparesZero evm) (loan : Loan) (st : Transition)
    (codeless : st.db.getCode blackAddr = []) :
    MessageEffect evm msg loan st.world (perform evm loan st msg).1.world ∧
      (perform evm loan st msg).1.store = st.store := by
  unfold perform
  split
  · exact ⟨topCreate_effect spares loan codeless st.gas, rfl⟩
  next addr recipient =>
    have made := callEach_effect spares recipient
      (fun argument (member : argument ∈ loan.arguments) => member)
      (st.withDb (st.db.setNonce msg.sender (st.db.getNonce msg.sender + 1)))
      ((StateDB.getCode_setNonce _ _ _ _).trans codeless)
    exact ⟨.of_calls msg.sender made.1, made.2⟩

theorem ready_store (gas : Nat) (st : Transition) : (ready evm gas st msg).store = st.store := by
  unfold ready prepared
  split <;> rfl

theorem payOut_rest (evm : Evm) (msg : Message) (loan : Loan) (vmerr : Option VmError)
    (st : Transition) :
    (payOut evm loan vmerr st msg).store = st.store ∧ (payOut evm loan vmerr st msg).world.calls =
        st.world.calls := by
  have paid (other : Transition) :
      (payFee evm loan other msg).store = other.store ∧ (payFee evm loan other msg).world.calls =
          other.world.calls := by
    unfold payFee
    split <;> exact ⟨rfl, rfl⟩
  unfold payOut
  split
  · exact paid _
  · exact paid _

theorem Accepted.effect {admitted : Transition} {gas : Nat}
    (stages : Accepted evm st msg admitted loan gas) (spares : SparesZero evm)
    (codeless : st.db.getCode blackAddr = []) :
    (transitionDb evm st msg).st.store = admitted.store ∧ MessageEffect evm msg loan st.world
        (transitionDb evm st msg).st.world := by
  have before : BalancesOnly st.db (ready evm gas admitted msg).db :=
    (admitMessage_ok stages.isAdmitted).balancesOnly.trans (ready_balancesOnly gas admitted)
  obtain ⟨effect, store⟩ := perform_effect spares loan (ready evm gas admitted msg)
    ((getCode_zero (before.viewOf_eq blackAddr)).trans codeless)
  have paid := payOut_rest evm msg loan
    (lastErr (perform evm loan (ready evm gas admitted msg) msg).2)
    (perform evm loan (ready evm gas admitted msg) msg).1
  rw [stages.final]
  refine ⟨(paid.1.trans store).trans (ready_store gas admitted), ?_⟩
  exact ((effect.after_balances before).before_balances
    (payOut_balancesOnly loan _ _) paid.2).before_balances (loan.settled_balancesOnly _) rfl

theorem transitionDb_effect (spares : SparesZero evm) (codeless : st.db.getCode blackAddr = [])
    (accepted : (transitionDb evm st msg).err = none) :
    ∃ admitted loan, Admitted evm st msg admitted loan ∧ loan.FeesPaid ∧
        (transitionDb evm st msg).st.store = admitted.store ∧ MessageEffect evm msg loan st.world
          (transitionDb evm st msg).st.world := by
  obtain ⟨admitted, loan, gas, stages⟩ := transitionDb_ok accepted
  exact ⟨admitted, loan, admitMessage_ok stages.isAdmitted,
    stages.feesPaid, stages.effect spares codeless⟩

end EscSideChain.Core
