import EscSideChain.PaidOnce

namespace EscSideChain.Vm

open Dpos State Spv WithdrawFailedTx

/-!
# Calls that bring in money

A call to the zero address first credits its caller with a refund or an output
of a recharge, and then passes the money on like any other value.  The credit is
only kept if the call succeeds: the caller can always pass on what it was just
given, and every later error reverts to the snapshot.
-/

variable {before : StateDB}

namespace Evm

variable {evm : Evm}

/-! ## The credit -/

structure Opened.Minted (before : StateDB) (caller : Address) (opened : Opened) : Prop where
  balances : opened.world.db.getBalance = Function.update before.getBalance caller
      (before.getBalance caller + opened.value)
  views : ∀ addr, opened.world.db.viewOf addr = before.viewOf addr

theorem Opened.Minted.of_credit {caller : Address} {opened : Opened} {log : Log}
    {movement : Movement}
    (isCredit : opened.world.db = ((before.addLog log).addBalance caller opened.value).note
        movement) :
    opened.Minted before caller where
  balances := by
    rw [isCredit]
    exact StateDB.getBalance_addBalance (before.addLog log) caller _
  views addr := by
    rw [isCredit]
    exact StateDB.viewOf_addBalance (before.addLog log) caller _ addr

/--
What a call to the zero address has to pay: the refund of a failed withdrawal to
its sender, or the net amount of an output of a recharge to its target.
-/
inductive Pays (evm : Evm) (db : StateDB) (input : Bytes) (recharge : Option RechargeData) :
    Address → Int → Prop where
  | refund {txid sender : Bytes} {amount : Nat}
      (isRefund : evm.isWithdawFailedTx db input = .ok (true, txid))
      (isValue : getWithdrawTxValue evm.withdrawEvent (evm.client db) txid = .ok (sender, amount)) :
      Pays evm db input recharge (hexToAddress sender) amount
  | recharge {text txHash : Bytes} {data : RechargeData}
      (noRefund : evm.isWithdawFailedTx db input = .ok (false, text)) (given : recharge = some data)
      (named : evm.rechargeHash input = some txHash) (target : data.targetAddress ≠ blackAddr)
      (covers : data.fee ≤ data.targetAmount) :
      Pays evm db input recharge data.targetAddress (data.targetAmount - data.fee)

structure Opened.PassesOn (before : StateDB) (caller target : Address) (amount : Int)
    (opened : Opened) : Prop where
  minted : opened.Minted before caller
  recipient : opened.recipient = target
  value : opened.value = amount
  addr : opened.addr = blackAddr ∨ opened.addr = target

variable {depth : Nat} {world : World} {caller : Address}
variable {input : Bytes} {value : Int}
variable {recharge : Option RechargeData} {opened : Opened}

theorem openCall_minted
    (isOpen : evm.openCall depth world caller blackAddr input value recharge = .ok opened) :
    opened.world.db = world.db ∨ opened.Minted world.db caller := by
  unfold openCall at isOpen
  rw [if_neg (not_not.2 rfl)] at isOpen
  split at isOpen
  · cases isOpen
  · unfold openRefund at isOpen
    split at isOpen
    · split at isOpen
      · cases isOpen
      cases isOpen
      exact .inr (.of_credit rfl)
    · cases isOpen
  · split at isOpen
    · cases isOpen
      exact .inl rfl
    unfold openRecharge at isOpen
    split at isOpen
    · cases isOpen
      exact .inl rfl
    split at isOpen
    · cases isOpen
    split at isOpen
    · cases isOpen
      exact .inr (.of_credit rfl)
    cases isOpen
    exact .inl rfl

theorem Pays.passesOn {target : Address} {amount : Int}
    (pays : Pays evm world.db input recharge target amount)
    (isOpen : evm.openCall depth world caller blackAddr input value recharge = .ok opened) :
    opened.PassesOn world.db caller target amount := by
  unfold openCall at isOpen
  rw [if_neg (not_not.2 rfl)] at isOpen
  cases pays with
  | refund isRefund isValue =>
    rw [isRefund] at isOpen
    dsimp only at isOpen
    unfold openRefund at isOpen
    split at isOpen
    · rw [isValue] at isOpen
      cases isOpen
      exact ⟨.of_credit rfl, rfl, rfl, .inl rfl⟩
    · cases isOpen
  | recharge noRefund given named target covers =>
    subst given
    rw [noRefund] at isOpen
    dsimp only at isOpen
    unfold openRecharge at isOpen
    rw [named] at isOpen
    dsimp only at isOpen
    split at isOpen
    · cases isOpen
    rw [if_pos ⟨target, covers⟩] at isOpen
    cases isOpen
    exact ⟨.of_credit rfl, rfl, rfl, .inr rfl⟩

/-! ## After the credit -/

theorem Opened.Minted.canTransfer (minted : opened.Minted before caller)
    (solvent : 0 ≤ before.getBalance caller) :
    opened.world.db.canTransfer caller opened.value = true := by
  rw [StateDB.canTransfer, minted.balances, Function.update_self, decide_eq_true_eq]
  omega

theorem Opened.Minted.getBalance_transferred (minted : opened.Minted before caller) :
    (transferred caller opened).getBalance = Function.update before.getBalance opened.recipient
        (before.getBalance opened.recipient + opened.value) := by
  have passes (db : StateDB) (same : db.getBalance = opened.world.db.getBalance) :
      (db.transfer caller opened.recipient opened.value).getBalance =
        Function.update before.getBalance opened.recipient
          (before.getBalance opened.recipient + opened.value) := by
    rw [StateDB.transfer, StateDB.getBalance_addBalance, StateDB.getBalance_subBalance, same,
      minted.balances, Function.update_self, Function.update_idem, add_sub_cancel_right,
      Function.update_eq_self]
  unfold transferred
  dsimp only
  split
  · exact passes _ rfl
  · exact passes _ (StateDB.getBalance_createAccount _ _)

theorem Opened.Minted.getCode_transferred (minted : opened.Minted before caller)
    (addr : Address) : (transferred caller opened).getCode addr = before.getCode addr := by
  have sameView : (transferred caller opened).viewOf addr = before.viewOf addr := by
    rw [← minted.views addr]
    unfold transferred
    dsimp only
    split
    · exact StateDB.viewOf_transfer _ _ _ _ addr
    next missing =>
      rw [StateDB.viewOf_transfer]
      exact StateDB.viewOf_createAccount (by simpa using missing) addr
  exact congrArg AccountView.code sameView

variable {run : World → Frame → Nat → World × Result}
variable {snapshot : StateDB} {gas : Nat} {readOnly : Bool}

theorem callOpened_db_of_err
    (unchanged : opened.world.db = snapshot ∨ opened.Minted snapshot caller)
    (solvent : 0 ≤ snapshot.getBalance caller)
    (failed : (evm.callOpened run snapshot caller opened gas readOnly).2.err ≠ none) :
    (evm.callOpened run snapshot caller opened gas readOnly).1.db = snapshot := by
  unfold callOpened at failed ⊢
  split
  · next insolvent =>
      rcases unchanged with same | minted
      · exact same
      · have transferable := minted.canTransfer solvent
        rw [insolvent.2] at transferable
        cases transferable
  · next transferable =>
      rw [if_neg transferable] at failed
      split
      · next idle =>
          rw [if_pos idle] at failed
          exact absurd rfl failed
      next busy =>
        rw [if_neg busy] at failed
        rw [settle_err] at failed
        exact settle_db_of_err failed

theorem execute_codeless {inner : World → Request → World × Result} {addr : Address} {frame : Frame}
    (codeless : frame.code = []) :
    (evm.execute (evm.runFrame inner) world addr frame gas).1 = world := by
  unfold execute
  split
  · rfl
  unfold runFrame
  rw [if_pos codeless]

theorem Opened.PassesOn.getBalance_callOpened {inner : World → Request → World × Result}
    {target : Address} {amount : Int} (passesOn : opened.PassesOn snapshot caller target amount)
    (codeless : snapshot.getCode opened.addr = [])
    (notBlack : evm.addressString target ≠ evm.config.blackContractAddr)
    (succeeded : (evm.callOpened (evm.runFrame inner) snapshot caller
      opened gas readOnly).2.err = none) :
    (evm.callOpened (evm.runFrame inner) snapshot caller opened gas readOnly).1.db.getBalance =
      Function.update snapshot.getBalance target (snapshot.getBalance target + amount) := by
  obtain ⟨minted, rfl, rfl, -⟩ := passesOn
  unfold callOpened at succeeded ⊢
  split
  · next insolvent =>
      rw [if_pos insolvent] at succeeded
      cases succeeded
  next transferable =>
    rw [if_neg transferable] at succeeded
    split
    · -- Nothing is credited, so that nothing has to be passed on.
      next idle =>
        have balances := minted.balances
        rw [idle.2.2.2, add_zero, Function.update_eq_self] at balances
        rw [idle.2.2.2, add_zero, Function.update_eq_self]
        exact balances
    · next busy =>
        rw [if_neg busy] at succeeded
        dsimp only at succeeded ⊢
        rw [settle_err] at succeeded
        unfold settle burn
        rw [succeeded, if_neg (fun burns => notBlack burns.1), execute_codeless
            ((minted.getCode_transferred opened.addr).trans codeless)]
        exact minted.getBalance_transferred

/-! ## The whole call -/

/--
A call to the zero address that fails leaves the state as it was.  A call that
succeeds and pays a target without code changes the balance of the target alone.
-/
theorem crossChainCall_atomic (evm : Evm) (levels : Nat) (world : World) (caller : Address)
    (input : Bytes) (gas : Nat) (value : Int) (recharge : Option RechargeData) (readOnly : Bool)
    (nonnegative : ∀ addr, 0 ≤ world.db.getBalance addr)
    (zeroCodeless : world.db.getCode blackAddr = []) :
    ((evm.enter levels world (.call caller blackAddr input gas value
          recharge readOnly)).2.err ≠ none →
        (evm.enter levels world (.call caller blackAddr input gas value
          recharge readOnly)).1.db = world.db) ∧
      ∀ target amount, Pays evm world.db input recharge target amount →
        world.db.getCode target = [] → evm.addressString target ≠ evm.config.blackContractAddr →
        (evm.enter levels world (.call caller blackAddr input gas value
          recharge readOnly)).2.err = none →
        (evm.enter levels world (.call caller blackAddr input gas value
            recharge readOnly)).1.db.getBalance =
          Function.update world.db.getBalance target (world.db.getBalance target + amount) := by
  cases levels with
  | zero =>
    refine ⟨fun _ => rfl, ?_⟩
    intro _ _ _ _ _ succeeded
    cases succeeded
  | succ below =>
    unfold enter handle call
    dsimp only
    split
    · refine ⟨fun _ => rfl, ?_⟩
      intro _ _ _ _ _ succeeded
      cases succeeded
    next opened isOpen =>
      have unchanged := openCall_minted isOpen
      refine ⟨callOpened_db_of_err unchanged (nonnegative caller), ?_⟩
      intro target amount pays targetCodeless notBlack succeeded
      have passesOn := @Pays.passesOn evm _ (world.record ⟨_, blackAddr, input⟩) caller input value
        recharge opened target amount pays isOpen
      refine passesOn.getBalance_callOpened ?_ notBlack succeeded
      rcases passesOn.addr with isZero | isTarget
      · rw [isZero]
        exact zeroCodeless
      · rw [isTarget]
        exact targetCodeless

end Evm

open Core.Sample

namespace Sample

def rechargeCall (data : RechargeData) : World × Result :=
  (node idle).enter 1 ⟨emptyState, Collector.empty, []⟩
    (.call (account 3) blackAddr mainTx 0 0 (some data) false)

def output (target : Address) : RechargeData :=
  ⟨target, 2 * rate, rate, []⟩

end Sample

open Sample

/-- An account without code is paid its output. -/
theorem crossChainCall_atomic_output :
    (rechargeCall (output (account 4))).2.err = none ∧
      (rechargeCall (output (account 4))).1.db.getBalance = Function.update emptyState.getBalance
            (account 4) (0 + (2 * rate - rate)) := by
  have succeeded : (rechargeCall (output (account 4))).2.err = none := by
    decide +kernel
  refine ⟨succeeded, ?_⟩
  exact (Evm.crossChainCall_atomic (node idle) 1
    ⟨emptyState, Collector.empty, []⟩ (account 3) mainTx 0 0
    (some (output (account 4))) false (fun _ => le_rfl) rfl).2 (account 4) _
    (.recharge rfl rfl rfl (by decide) (by decide)) rfl (by decide +kernel) succeeded

/--
A call for an output to the zero address, or with a fee above its amount,
succeeds and pays nobody.
-/
theorem unpayable_output_accepted :
    (rechargeCall (output blackAddr)).2.err = none ∧
      (rechargeCall (output blackAddr)).1.db.getBalance blackAddr ≠
          emptyState.getBalance blackAddr + (2 * rate - rate) ∧
      (rechargeCall ⟨account 4, 1, 2, []⟩).2.err = none ∧
      (rechargeCall ⟨account 4, 1, 2, []⟩).1.db.getBalance (account 4) ≠
          emptyState.getBalance (account 4) + (1 - 2) := by
  decide +kernel

end EscSideChain.Vm
