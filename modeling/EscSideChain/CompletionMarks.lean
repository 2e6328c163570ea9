import EscSideChain.MessageEffects
import EscSideChain.StateProcessor

namespace EscSideChain.Core

open Dpos State Spv WithdrawFailedTx Vm

/-!
# The marks of completed ids

`ApplyTransaction` marks a completed id in the storage of the zero address and
raises the nonce of that address, so that the account is not deleted as an empty
one.  Nothing ever takes a mark away: the account has no code, is never created
anew, and its nonce does not come back to zero.
-/

def Marks (view : AccountView) (id : Hash) : Prop :=
  view.storage id ≠ emptyHash

def stamp (view : AccountView) (id hash : Hash) : AccountView :=
  { view with storage := Function.update view.storage id hash }

variable {view : AccountView}

theorem marks_stamp {id other hash : Hash} (nonempty : hash ≠ emptyHash)
    (marked : other = id ∨ Marks view other) : Marks (stamp view id hash) other := by
  unfold Marks stamp
  dsimp only
  by_cases same : other = id
  · rwa [same, Function.update_self]
  rw [Function.update_of_ne same]
  exact marked.resolve_left same

/--
The zero account before some more transactions: it has no code, was not
destructed, has a nonce if it has a mark, and the nonce has room.
-/
structure ZeroReady (remaining : Nat) (view : AccountView) : Prop where
  codeless : view.code = []
  alive : view.suicided = false
  counted : ∀ id, Marks view id → view.nonce ≠ 0
  room : view.nonce.toNat + 2 * remaining < 2 ^ 64

inductive ZeroStep (hash : Hash) (view : AccountView) : AccountView → Prop where
  | raised {count : Nat} (bounded : count ≤ 1) : ZeroStep hash view (raise view count)
  | completed {count : Nat} (bounded : count ≤ 1) (id : Hash) :
      ZeroStep hash view (stamp (raise view (count + 1)) id hash)
  | deleted (empty : view.nonce = 0) : ZeroStep hash view Account.new.view

theorem raise_nonce_toNat {count : Nat} (room : view.nonce.toNat + count < 2 ^ 64) :
    (raise view count).nonce.toNat = view.nonce.toNat + count := by
  unfold raise
  rw [UInt64.toNat_add, UInt64.toNat_ofNat']
  omega

theorem raise_nonce_ne_zero {count : Nat}
    (room : view.nonce.toNat + count < 2 ^ 64) (positive : view.nonce ≠ 0 ∨ 0 < count) :
    (raise view count).nonce ≠ 0 := by
  intro isZero
  have same := raise_nonce_toNat room
  rw [isZero] at same
  rcases positive with nonzero | counts
  · refine nonzero (UInt64.toNat_inj.mp ?_)
    change view.nonce.toNat = 0
    change 0 = _ at same
    omega
  · change 0 = _ at same
    omega

/-! ## One transaction -/

theorem recordCompletion_ok {evm : Evm} {store stored : SpvStore} {db recorded : StateDB}
    {tx : Transaction} (isRecorded : recordCompletion evm store db tx = (stored, .ok recorded)) :
    recorded = db ∨ ∃ txHash, recorded = complete db txHash tx.hash := by
  unfold recordCompletion at isRecorded
  split at isRecorded
  · cases isRecorded
    exact .inl rfl
  split at isRecorded
  · cases isRecorded
  · cases isRecorded
    exact .inr ⟨_, rfl⟩
  · split at isRecorded
    · dsimp only at isRecorded
      split at isRecorded
      · cases isRecorded
      split at isRecorded
      · cases isRecorded
        exact .inr ⟨_, rfl⟩
      cases isRecorded
      exact .inl rfl
    · split at isRecorded
      · cases isRecorded
        exact .inl rfl
      cases isRecorded
      exact .inr ⟨_, rfl⟩

theorem viewOf_complete (db : StateDB) (txHash : Bytes) (hash : Hash) :
    (complete db txHash hash).viewOf blackAddr =
      stamp (raise (db.viewOf blackAddr) 1) (hexToHash txHash)
        hash := by
  simp [complete, StateDB.viewOf, StateDB.setNonce, StateDB.setState,
    StateDB.getNonce, Account.view, raise, stamp]

theorem viewOf_finalise {db : StateDB} {addr : Address} (alive : (db.viewOf addr).suicided = false)
    (dirties : Address → Bool) (deleteEmptyObjects : Bool) :
    (db.finalise dirties deleteEmptyObjects).viewOf addr = db.viewOf addr ∨
      (db.viewOf addr).nonce = 0 ∧ (db.finalise dirties deleteEmptyObjects).viewOf addr =
          Account.new.view := by
  unfold StateDB.viewOf StateDB.object at alive ⊢
  cases present : db.account addr with
  | none => exact .inl (by simp [StateDB.finalise, present])
  | some account =>
    simp only [present, Option.getD_some] at alive ⊢
    by_cases isDeleted : (dirties addr &&
        (account.suicided || (deleteEmptyObjects && account.isEmpty))) = true
    · right
      have isEmpty : account.isEmpty = true := by
        simp only [Account.view] at alive
        simp only [alive, Bool.false_or, Bool.and_eq_true] at isDeleted
        exact isDeleted.2.2
      refine ⟨?_, by
        simp only [StateDB.finalise, present, if_pos isDeleted, Option.getD_none]⟩
      simp only [Account.isEmpty, Bool.and_eq_true, decide_eq_true_eq] at isEmpty
      exact isEmpty.1.1
    · exact .inl (by
        simp only [StateDB.finalise, present, if_neg isDeleted, Option.getD_some])

/-! ## Steps of the zero account -/

section ZeroStep

variable {remaining : Nat} {hash : Hash} {view next : AccountView}

theorem ZeroReady.step (ready : ZeroReady (remaining + 1) view) (step : ZeroStep hash view next) :
    ZeroReady remaining next := by
  have room := ready.room
  cases step with
  | @raised count bounded =>
    have fits : view.nonce.toNat + count < 2 ^ 64 := by omega
    refine ⟨ready.codeless, ready.alive, ?_, ?_⟩
    · intro id marked
      exact raise_nonce_ne_zero fits (.inl (ready.counted id marked))
    · rw [raise_nonce_toNat fits]
      omega
  | @completed count bounded id =>
    have fits : view.nonce.toNat + (count + 1) < 2 ^ 64 := by omega
    refine ⟨ready.codeless, ready.alive, ?_, ?_⟩
    · intro _ _
      exact raise_nonce_ne_zero fits (.inr count.succ_pos)
    · have same := raise_nonce_toNat fits
      simp only [stamp]
      omega
  | deleted _ =>
    refine ⟨rfl, rfl, fun _ marked => absurd rfl marked, ?_⟩
    change 0 + 2 * remaining < 2 ^ 64
    omega

theorem Marks.step {id : Hash} (marked : Marks view id) (ready : ZeroReady remaining view)
    (nonempty : hash ≠ emptyHash) (step : ZeroStep hash view next) : Marks next id := by
  cases step with
  | raised _ => exact marked
  | completed _ other => exact marks_stamp nonempty (.inr marked)
  | deleted empty => exact absurd empty (ready.counted id marked)

end ZeroStep

/-! ## One transaction -/

variable {remaining : Nat} {db : StateDB} {submission : Submission}

namespace Submission.Applied

variable {msg : Message} {stored : SpvStore} {recorded : StateDB}

theorem raised (applied : submission.Applied db msg stored recorded)
    (spares : SparesZero submission.evm) (codeless : db.getCode blackAddr = []) :
    Raised 1 db (transitionDb submission.evm (submission.start db) msg).st.db := by
  have started : (submission.start db).db.getCode blackAddr = [] := codeless
  obtain ⟨_, _, -, -, -, effect⟩ := transitionDb_effect spares started applied.accepted
  exact effect.raised

theorem viewOf_commit {txHash : Bytes} (applied : submission.Applied db msg stored recorded)
    (completed : recorded = complete (transitionDb submission.evm (submission.start db) msg).st.db
      txHash submission.tx.hash)
    (spares : SparesZero submission.evm)
    (ready : ZeroReady (remaining + 1) (db.viewOf blackAddr)) :
    ∃ count ≤ 1, (submission.commit db).viewOf blackAddr =
        stamp (raise (db.viewOf blackAddr) (count + 1)) (hexToHash txHash) submission.tx.hash := by
  have room := ready.room
  obtain ⟨count, bounded, raised⟩ := applied.raised spares ready.codeless
  have view : recorded.viewOf blackAddr = stamp (raise (db.viewOf blackAddr) (count + 1))
        (hexToHash txHash) submission.tx.hash := by
    rw [completed, viewOf_complete, raised, raise_raise]
  refine ⟨count, bounded, ?_⟩
  rw [applied.committed]
  have alive : (recorded.viewOf blackAddr).suicided = false := by
    rw [view]
    exact ready.alive
  rcases viewOf_finalise alive submission.dirties
      (deletesEmpty submission.evm) with kept | ⟨empty, -⟩
  · rw [kept, view]
  · rw [view] at empty
    exact absurd empty (raise_nonce_ne_zero (by omega) (.inr count.succ_pos))

end Submission.Applied

theorem commit_zeroStep (spares : SparesZero submission.evm)
    (ready : ZeroReady (remaining + 1) (db.viewOf blackAddr)) :
    ZeroStep submission.tx.hash (db.viewOf blackAddr)
      ((submission.commit db).viewOf blackAddr) := by
  have room := ready.room
  rcases submission.commit_cases db with ⟨same, -⟩ | ⟨msg, stored, recorded, applied⟩
  · rw [same]
    have unchanged : ZeroStep submission.tx.hash (db.viewOf blackAddr)
        (raise (db.viewOf blackAddr) 0) :=
      .raised (Nat.zero_le 1)
    simpa [raise] using unchanged
  · rcases recordCompletion_ok applied.isRecorded with unrecorded | ⟨txHash, completed⟩
    · obtain ⟨count, bounded, raised⟩ := applied.raised spares ready.codeless
      rw [← unrecorded] at raised
      have alive : (recorded.viewOf blackAddr).suicided = false := by
        rw [raised]
        exact ready.alive
      rw [applied.committed]
      rcases viewOf_finalise alive submission.dirties
          (deletesEmpty submission.evm) with kept | ⟨empty, deleted⟩
      · rw [kept, raised]
        exact .raised bounded
      · rw [deleted]
        refine .deleted ?_
        by_contra nonzero
        rw [raised] at empty
        exact raise_nonce_ne_zero (by omega) (.inl nonzero) empty
    · obtain ⟨count, bounded, view⟩ := applied.viewOf_commit completed spares ready
      rw [view]
      exact .completed bounded (hexToHash txHash)

end EscSideChain.Core
