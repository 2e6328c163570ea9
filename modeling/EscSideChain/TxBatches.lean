import EscSideChain.TxPoolValidation

namespace EscSideChain.Core

open Dpos State Spv WithdrawFailedTx Vm

/-!
# Batches of transactions

`addTxs` and `addTxsLocked` of `core/tx_pool.go`.  Known transactions and those without a
sender are left out before the pool is locked; the errors of the others are put into the
slots that are still empty.
-/

/-- What a batch uses of the pool, and the store of the SPV module. -/
structure PoolParts (Pool : Type) where
  get : Pool → Hash → Option Transaction
  currentState : Pool → StateDB
  add : Pool → Transaction → Bool → Pool × Bool × Option PoolError
  store : SpvStore

section Batch

variable {Pool : Type} (evm : Evm) (parts : PoolParts Pool) (isLocal : Bool)

/-- The hash of the main-chain transaction that a recharge is for, as text. -/
def mainTxHash (tx : Transaction) : Bytes :=
  if tx.data.length = 32 then hexutilEncode tx.data
  else ((isSmallCrossTxByData evm.format evm.pbftEngine tx.data).map SmallCrossTx.rawTxID).getD []

/--
The checks of a recharge; later ones overwrite the error of earlier ones.  With an error
`GetRechargeDataByTxhash` returns the fee zero and the outputs before the bad one, if any, which
can only turn one error into another.
-/
def rechargeError (pool : Pool) (tx : Transaction) : Option PoolError :=
  let txhash := mainTxHash evm tx
  let read := getRechargeDataByTxhash evm.format evm.spvService parts.store txhash
  let (recharges, fee) := read.toOption.getD ([], 0)
  let slot := match read with
    | .error reason => some (.fault reason)
    | .ok _ => none
  let slot :=
    if (parts.currentState pool).getState blackAddr (hexToHash txhash) ≠ emptyHash then
      some (.core .mainTxHashPresence)
    else slot
  let slot :=
    if recharges.any fun recharge => recharge.targetAddress ≠ blackAddr ∧ recharge.fee ≤ 0 ∧
        recharge.targetAmount ≤ 0 then some (.core .gasLimitReached)
    else slot
  if fee < tx.gas * tx.gasPrice then some (.core .gasLimitReached) else slot

/-- `addTxsLocked`: the pool, the errors and the accounts with new transactions. -/
def addTxsLocked : Pool → List Transaction → Pool × List (Option PoolError) × List Address
  | pool, [] => (pool, [], [])
  | pool, tx :: rest =>
    let early := if isRechargeTx evm tx then rechargeError evm parts pool tx else none
    if early.isSome then
      let (after, errs, dirty) := addTxsLocked pool rest
      (after, early :: errs, dirty)
    else
      let (added, replaced, err) := parts.add pool tx isLocal
      let (after, errs, dirty) := addTxsLocked added rest
      (after, err :: errs, if err.isNone ∧ ¬replaced then tx.sender.toOption.toList ++ dirty else dirty)

/-- The error that a transaction gets before the pool is locked. -/
def earlyError (pool : Pool) (tx : Transaction) : Option PoolError :=
  if (parts.get pool tx.hash).isSome then some (.known tx.hash)
  else if tx.sender.toOption.isNone then some .invalidSender
  else none

/-- The transactions that are handed on to `addTxsLocked`. -/
def news (pool : Pool) (txs : List Transaction) : List Transaction :=
  txs.filter fun tx => (earlyError parts pool tx).isNone

def firstNil {Err : Type} : List (Option Err) → Option Nat
  | [] => none
  | none :: _ => some 0
  | some _ :: rest => (firstNil rest).map (· + 1)

/-- The merge of the errors; without an empty slot the index runs out of range. -/
def mergeErrs {Err : Type} : List (Option Err) → Nat → List (Option Err) → Option (List (Option Err))
  | errs, _, [] => some errs
  | errs, nilSlot, err :: newErrs =>
    (firstNil (errs.drop nilSlot)).bind fun skipped =>
      mergeErrs (errs.set (nilSlot + skipped) err) (nilSlot + skipped + 1) newErrs

/-- `addTxs`, up to the request for the promotion. -/
def addTxs (pool : Pool) (txs : List Transaction) :
    Option (Pool × List (Option PoolError) × List Address) :=
  let errs := txs.map (earlyError parts pool)
  if (news parts pool txs).isEmpty then some (pool, errs, [])
  else
    let (after, newErrs, dirty) := addTxsLocked evm parts isLocal pool (news parts pool txs)
    (mergeErrs errs 0 newErrs).map fun merged => (after, merged, dirty)

end Batch

/-! ## The slots -/

section Slots

variable {Err : Type}

/-- The empty slots filled from the front. -/
def fill : List (Option Err) → List (Option Err) → List (Option Err)
  | [], _ => []
  | some err :: slots, newErrs => some err :: fill slots newErrs
  | none :: slots, [] => none :: slots
  | none :: slots, err :: newErrs => err :: fill slots newErrs

theorem fill_nil (slots : List (Option Err)) : fill slots [] = slots := by
  induction slots with
  | nil => rfl
  | cons slot rest inductionHypothesis =>
    cases slot with
    | none => rfl
    | some err => rw [fill, inductionHypothesis]

theorem mergeErrs_skip {done rest : List (Option Err)} {err : Err} {newErrs : List (Option Err)} :
    mergeErrs (done ++ some err :: rest) done.length newErrs =
      mergeErrs ((done ++ [some err]) ++ rest) (done ++ [some err]).length newErrs := by
  rw [← List.append_cons]
  cases newErrs with
  | nil => rfl
  | cons first others =>
    have behind : (done ++ some err :: rest).drop (done ++ [some err]).length = rest := by
      rw [List.length_append, List.length_singleton, ← List.drop_drop, List.drop_left]
      rfl
    rw [mergeErrs, mergeErrs, List.drop_left, behind, firstNil]
    cases firstNil rest with
    | none => rfl
    | some skipped =>
      simp only [Option.map_some, Option.bind_some, List.length_append, List.length_singleton]
      rw [Nat.add_right_comm done.length 1 skipped, Nat.add_assoc done.length skipped 1]

theorem mergeErrs_eq (slots : List (Option Err)) :
    ∀ (done newErrs : List (Option Err)), newErrs.length ≤ slots.countP Option.isNone →
      mergeErrs (done ++ slots) done.length newErrs = some (done ++ fill slots newErrs) := by
  induction slots with
  | nil =>
    intro done newErrs enough
    obtain rfl := List.length_eq_zero_iff.1 (Nat.le_zero.1 enough)
    rfl
  | cons slot rest inductionHypothesis =>
    intro done newErrs enough
    cases slot with
    | some err =>
      rw [List.countP_cons_of_neg (by simp)] at enough
      rw [mergeErrs_skip, inductionHypothesis _ newErrs enough, fill, List.append_assoc,
        List.singleton_append]
    | none =>
      cases newErrs with
      | nil => rw [fill_nil]; rfl
      | cons err newErrs =>
        rw [List.countP_cons_of_pos (by rfl), List.length_cons] at enough
        rw [mergeErrs, List.drop_left, firstNil, Option.bind_some, Nat.add_zero,
          List.set_append_right _ _ le_rfl, Nat.sub_self, List.set_cons_zero, List.append_cons]
        have next := inductionHypothesis (done ++ [err]) newErrs (Nat.le_of_succ_le_succ enough)
        rw [List.length_append, List.length_singleton] at next
        rw [next, fill, List.append_assoc, List.singleton_append]

theorem getElem?_fill {Item : Type} (early : Item → Option Err) (items : List Item) :
    ∀ (newErrs : List (Option Err)) (i : Nat) (item : Item), items[i]? = some item →
      newErrs.length = items.countP (fun item => (early item).isNone) →
      (∀ err, early item = some err →
        (fill (items.map early) newErrs)[i]? = some (some err)) ∧
      (early item = none → (fill (items.map early) newErrs)[i]? =
        newErrs[(items.take i).countP fun item => (early item).isNone]?) := by
  induction items with
  | nil => intro _ i item found; cases found
  | cons first rest inductionHypothesis =>
    intro newErrs i item found enough
    cases isEarly : early first with
    | some err =>
      rw [List.countP_cons_of_neg (by simp [isEarly])] at enough
      rw [List.map_cons, isEarly, fill]
      cases i with
      | zero =>
        cases found
        simp [isEarly]
      | succ i =>
        rw [List.take_succ_cons, List.countP_cons_of_neg (by simp [isEarly])]
        exact inductionHypothesis newErrs i item found enough
    | none =>
      rw [List.countP_cons_of_pos (by simp [isEarly])] at enough
      cases newErrs with
      | nil => cases enough
      | cons err newErrs =>
        rw [List.map_cons, isEarly, fill]
        cases i with
        | zero =>
          cases found
          simp [isEarly]
        | succ i =>
          rw [List.take_succ_cons, List.countP_cons_of_pos (by simp [isEarly])]
          exact inductionHypothesis newErrs i item found (Nat.succ.inj enough)

theorem length_fill (slots : List (Option Err)) :
    ∀ newErrs : List (Option Err), (fill slots newErrs).length = slots.length := by
  induction slots with
  | nil => exact fun _ => rfl
  | cons slot rest inductionHypothesis =>
    intro newErrs
    cases slot with
    | some err => exact congrArg (· + 1) (inductionHypothesis newErrs)
    | none =>
      cases newErrs with
      | nil => rfl
      | cons err newErrs => exact congrArg (· + 1) (inductionHypothesis newErrs)

end Slots

variable {Pool : Type} (evm : Evm) (parts : PoolParts Pool) (isLocal : Bool)

theorem length_addTxsLocked (txs : List Transaction) : ∀ pool : Pool,
    (addTxsLocked evm parts isLocal pool txs).2.1.length = txs.length := by
  induction txs with
  | nil => exact fun _ => rfl
  | cons tx rest inductionHypothesis =>
    intro pool
    rw [addTxsLocked]
    generalize (if isRechargeTx evm tx then rechargeError evm parts pool tx else none) = early
    cases early with
    | some err => exact congrArg (· + 1) (inductionHypothesis pool)
    | none => exact congrArg (· + 1) (inductionHypothesis _)

/--
A batch of transactions comes back with one error for each of them: the early error of one
that was left out, and otherwise what `addTxsLocked` returned for it.
-/
theorem addTxs_slots (pool : Pool) (txs : List Transaction) :
    ∃ after errs dirty, addTxs evm parts isLocal pool txs = some (after, errs, dirty) ∧
      errs.length = txs.length ∧
      ∀ i tx, txs[i]? = some tx →
        (∀ err, earlyError parts pool tx = some err → errs[i]? = some (some err)) ∧
        (earlyError parts pool tx = none → errs[i]? =
          (addTxsLocked evm parts isLocal pool (news parts pool txs)).2.1[(txs.take i).countP
            fun tx => (earlyError parts pool tx).isNone]?) := by
  have lengths := length_addTxsLocked evm parts isLocal (news parts pool txs) pool
  have count : (news parts pool txs).length =
      txs.countP fun tx => (earlyError parts pool tx).isNone :=
    List.countP_eq_length_filter.symm
  have slots : (txs.map (earlyError parts pool)).countP Option.isNone =
      txs.countP fun tx => (earlyError parts pool tx).isNone := by
    rw [List.countP_map]
    rfl
  have merged := mergeErrs_eq (txs.map (earlyError parts pool)) []
    (addTxsLocked evm parts isLocal pool (news parts pool txs)).2.1
    (by rw [slots, lengths, count])
  have filled := getElem?_fill (earlyError parts pool) txs
    (addTxsLocked evm parts isLocal pool (news parts pool txs)).2.1
  unfold addTxs
  dsimp only
  split
  next none =>
    have noNews := List.isEmpty_iff.1 none
    have noErrs : (addTxsLocked evm parts isLocal pool (news parts pool txs)).2.1 = [] := by
      rw [noNews]
      rfl
    rw [noErrs, fill_nil] at filled
    refine ⟨_, _, _, rfl, List.length_map _, fun i tx found => ?_⟩
    rw [noErrs]
    exact filled i tx found (by rw [← count, noNews]; rfl)
  · rw [List.nil_append, List.nil_append, List.length_nil] at merged
    rw [merged]
    refine ⟨_, _, _, rfl, by rw [length_fill, List.length_map], fun i tx found => ?_⟩
    exact filled i tx found (lengths.trans count)

end EscSideChain.Core
