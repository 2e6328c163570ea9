import EscSideChain.EvmFrames

namespace EscSideChain.Vm

open Dpos State Spv WithdrawFailedTx

/-!
# The frames of a message

The calls and the creation that a message makes itself.  A call passes the
branches on the zero address, at depth zero, and goes on with a run of frames
below; a creation counts itself in the sender's nonce first.
-/

namespace Evm

variable {evm : Evm} {bounds : Bounds}

/-! ## The branches on the zero address -/

namespace Opening

variable {depth : Nat} {caller addr : Address}
variable {input : Bytes} {recharge : Option RechargeData}
variable {before after : World}

variable (opening : Opening evm depth caller addr input recharge before after)

include opening

theorem viewOf_eq (other : Address) : after.db.viewOf other = before.db.viewOf other := by
  cases opening with
  | plain _ => rfl
  | refund _ _ _ _ _ _ => exact StateDB.viewOf_addBalance _ _ _ _
  | recharge _ _ _ _ _ _ => exact StateDB.viewOf_addBalance _ _ _ _

theorem ownTotal_eq : ownTotal after.db = ownTotal before.db := by
  have logged (log : Log) : ownTotal (before.db.addLog log) = ownTotal before.db :=
    ownTotal_congr rfl rfl
  cases opening with
  | plain _ => rfl
  | refund _ _ _ log amount _ => simp [ownTotal_note, Movement.net, logged]
  | recharge _ _ _ _ _ log => simp [ownTotal_note, Movement.net, logged]

theorem calls_eq : after.calls = before.calls := by
  cases opening <;> rfl

theorem clean (isClean : bounds.Clean before.db) : bounds.Clean after.db := by
  intro other away
  have same : after.db.getCode other = before.db.getCode other :=
    congrArg AccountView.code (opening.viewOf_eq other)
  rw [same]
  exact isClean other away

end Opening

theorem isWithdawFailedTx_congr (first second : StateDB) (input : Bytes) :
    evm.isWithdawFailedTx first input = evm.isWithdawFailedTx second input := by
  unfold isWithdawFailedTx WithdrawFailedTx.isWithdawFailedTx client
  cases evm.rpc <;> rfl

/-! ## Calls -/

theorem topCall_cases (within : evm.Within bounds) {world : World} (clean : bounds.Clean world.db)
    (caller addr : Address) (input : Bytes) (gas : Nat) (value : Int)
    (recharge : Option RechargeData) :
    world.calls ⊆ (evm.topCall world caller addr input gas value recharge).1.calls ∧
      ((evm.topCall world caller addr input gas value recharge).1.db = world.db ∧
          (evm.topCall world caller addr input gas value recharge).2.err ≠ none ∨
        ∃ opened, Opening evm 0 caller addr input recharge (world.record ⟨0, addr, input⟩) opened ∧
            FrameRun bounds opened (evm.topCall world caller addr input gas value recharge).1) := by
  have frames : RunsFrames bounds (evm.runFrame (evm.enter callCreateDepth)) :=
    runFrame_frameRun within (enter_frameRun within le_rfl)
  have unfolded : evm.topCall world caller addr input gas value
      recharge = evm.call (evm.runFrame (evm.enter callCreateDepth)) 0
        world caller addr input gas value recharge false := rfl
  have recorded : world.calls ⊆ (world.record ⟨0, addr, input⟩).calls := List.subset_append_left _ _
  rw [unfolded]
  unfold call
  split
  · exact ⟨recorded, .inl ⟨rfl, by simp⟩⟩
  next opened isOpen =>
    have opening := openCall_opening isOpen
    have passed : world.calls ⊆ opened.world.calls := by
      rw [opening.calls_eq]
      exact recorded
    have opensClean : bounds.Clean opened.world.db := opening.clean clean
    rcases callOpened_cases frames world.db caller opensClean gas
        false with ended | ⟨final, ended, reverted, failed⟩
    · exact ⟨List.Subset.trans passed ended.calls_subset, .inr ⟨opened.world, opening, ended⟩⟩
    · rw [reverted]
      exact ⟨List.Subset.trans passed ended.calls_subset, .inl ⟨rfl, failed⟩⟩

/-! ## Creations -/

theorem countedCreation_account (db : StateDB) (caller address : Address) :
    (evm.countedCreation db caller address).account =
      (db.setNonce caller (db.getNonce caller + 1)).account := by
  unfold countedCreation
  split <;> rfl

theorem countedCreation_movements (db : StateDB) (caller address : Address) :
    (evm.countedCreation db caller address).movements = db.movements := by
  unfold countedCreation
  split <;> rfl

theorem topCreate_cases (within : evm.Within bounds) {world : World} (clean : bounds.Clean world.db)
    (caller : Address) (code : Bytes) (gas : Nat) (value : Int) :
    (evm.topCreate world caller code gas value).1 = world ∨ ∃ address, FrameRun bounds { world with
            db := evm.countedCreation world.db caller address }
          (evm.topCreate world caller code gas value).1 := by
  have frames : RunsFrames bounds (evm.runFrame (evm.enter callCreateDepth)) :=
    runFrame_frameRun within (enter_frameRun within le_rfl)
  have counted : bounds.Clean (evm.countedCreation world.db caller
      (evm.createAddress caller (world.db.getNonce caller))) := by
    intro addr away
    unfold StateDB.getCode StateDB.object
    rw [countedCreation_account]
    exact (StateDB.getCode_setNonce _ _ _ _).trans (clean addr away)
  rcases create_cases frames caller code gas value
      (within.created caller (world.db.getNonce caller)) counted false with same | ⟨-, ran⟩
  · exact .inl same
  · exact .inr ⟨_, ran⟩

theorem topCreate_gas (world : World) (caller : Address) (code : Bytes) (gas : Nat) (value : Int) :
    (evm.topCreate world caller code gas value).2.gas ≤ gas :=
  enter_gas _ _ _

end Evm

end EscSideChain.Vm
