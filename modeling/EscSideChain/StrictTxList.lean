import EscSideChain.TxListFilter
import Mathlib.Order.Bounds.Defs

namespace EscSideChain.Core

open Dpos State Spv WithdrawFailedTx Vm

/-!
# What the strict transaction lists lose

The pending transactions of an account follow each other without a gap.  When one
of them goes, `txList.Remove` and `txList.Filter` make another pass for those with
a higher nonce, with a gas limit of zero.  A recharge changes the predicate of that
pass too, to one that every transaction with some gas meets.
-/

namespace TxList

variable (evm : Evm)

structure LosesLater (remaining : Transaction → Prop) (nonce : UInt64) (left : TxList true)
    (invalids : List Transaction) : Prop where
  invalidated : ∀ tx, tx ∈ invalids ↔ remaining tx ∧ nonce < tx.nonce
  kept : ∀ tx, remaining tx → tx.nonce < nonce → left.txs.Holds tx

section Pass

variable {evm} {list : TxList true} {nonce : UInt64}

theorem rebinds_laterScope (evm : Evm) (tx : Transaction) :
    laterScope.rebinds evm tx = isRechargeTx evm tx := by
  cases recipient : tx.recipient with
  | none =>
    simp [FilterScope.rebinds, isRechargeTx, recipient, laterScope,
      FilterScope.deploysBlackContract]
  | some addr => simp only [FilterScope.rebinds, recipient]

theorem exceedsGas_laterScope (tx : Transaction) : laterScope.exceedsGas tx = true ↔ 0 < tx.gas :=
  decide_eq_true_iff

theorem losesLater_dropLater_iff {order : IterationOrder} :
    LosesLater list.txs.Holds nonce (list.dropLater evm order nonce).1
        (list.dropLater evm order nonce).2 ↔
      ∀ tx, list.txs.Holds tx →
        (tx.nonce ∈ list.txs.filter evm order
          (fun tx => tx.nonce > nonce) laterScope ↔ nonce < tx.nonce) := by
  constructor
  · intro loses tx holds
    have invalidated := loses.invalidated tx
    rw [dropLater, take, TxSortedMap.mem_pick_iff] at invalidated
    simpa [holds] using invalidated
  · intro splits
    constructor
    · intro tx
      rw [dropLater, take, TxSortedMap.mem_pick_iff]
      exact and_congr_right (splits tx)
    · intro tx holds lower
      rw [dropLater, take, drop, TxSortedMap.holds_drop_iff]
      refine ⟨holds, fun taken => ?_⟩
      exact UInt64.lt_asymm lower ((splits tx holds).1 taken)

theorem forall_order_losesLater_iff :
    (∀ order, LosesLater list.txs.Holds nonce (list.dropLater evm order nonce).1
        (list.dropLater evm order nonce).2) ↔
      (∀ tx, list.txs.Holds tx → isRechargeTx evm tx = false) ∨
        ∀ tx, list.txs.Holds tx → (0 < tx.gas ↔ nonce < tx.nonce) := by
  simp only [losesLater_dropLater_iff]
  rw [TxSortedMap.forall_order_filter_iff]
  simp only [rebinds_laterScope, exceedsGas_laterScope,
    decide_eq_true_iff, gt_iff_lt, implies_true, true_and]
  constructor
  · intro agree
    by_cases recharges : ∃ tx, list.txs.Holds tx ∧ isRechargeTx evm tx = true
    · obtain ⟨recharge, holdsRecharge, isRecharge⟩ := recharges
      right
      intro tx holds
      exact agree tx holds recharge holdsRecharge isRecharge
    · left
      intro tx holds
      by_contra isRecharge
      exact recharges ⟨tx, holds, Bool.eq_true_of_not_eq_false isRecharge⟩
  · rintro (none | agree) tx holds recharge holdsRecharge isRecharge
    · rw [none recharge holdsRecharge] at isRecharge
      cases isRecharge
    · exact agree tx holds

end Pass

/-! ## `Remove` -/

/-- `Remove` of a transaction with some nonce loses the later ones. -/
def RemoveLosesLater (list : TxList true) (tx : Transaction) : Prop :=
  ∀ order, list.overlaps tx = true → LosesLater
      (fun other => list.txs.Holds other ∧ other.nonce ≠ tx.nonce)
      tx.nonce (list.remove evm order tx).1 (list.remove evm order tx).2.2

/--
If the nonce is in the list, no other transaction is a recharge, or just the later
ones have gas.
-/
def RemoveSafe (list : TxList true) (tx : Transaction) : Prop :=
  list.overlaps tx = true →
    (∀ other, list.txs.Holds other → other.nonce ≠ tx.nonce → isRechargeTx evm other = false) ∨
    ∀ other, list.txs.Holds other → other.nonce ≠ tx.nonce →
      (0 < other.gas ↔ tx.nonce < other.nonce)

theorem remove_of_strict {evm : Evm} {list : TxList true} {tx : Transaction}
    (overlaps : list.overlaps tx = true) (order : IterationOrder) :
    list.remove evm order tx =
      (((list.drop [tx.nonce]).dropLater evm order tx.nonce).1, true,
        ((list.drop [tx.nonce]).dropLater evm order tx.nonce).2) := by
  obtain ⟨old, found⟩ := Option.isSome_iff_exists.1 overlaps
  simp [remove, found]

theorem holds_drop_singleton {list : TxList true} {nonce : UInt64} :
    (list.drop [nonce]).txs.Holds = fun other => list.txs.Holds other ∧ other.nonce ≠ nonce := by
  funext other
  simp [drop, TxSortedMap.holds_drop_iff]

theorem removeLosesLater_iff {evm : Evm} {list : TxList true} {tx : Transaction} :
    list.RemoveLosesLater evm tx ↔ list.RemoveSafe evm tx := by
  unfold RemoveLosesLater RemoveSafe
  rw [forall_comm]
  refine forall_congr' fun overlaps => ?_
  simp only [remove_of_strict overlaps, ← holds_drop_singleton]
  rw [forall_order_losesLater_iff, holds_drop_singleton]
  simp only [and_imp]

/-! ## `Filter` -/

/-- `Filter` loses what comes after the lowest nonce that it removes. -/
def FilterLosesLater (list : TxList true) (costLimit : Int) (scope : FilterScope) : Prop :=
  ∀ first second nonce,
    IsLeast {removed | ∃ tx ∈ (list.filter evm first second costLimit
      scope).2.1, tx.nonce = removed} nonce →
    LosesLater
      (fun other => list.txs.Holds other ∧
        other ∉ (list.filter evm first second costLimit scope).2.1)
      nonce (list.filter evm first second costLimit scope).1
      (list.filter evm first second costLimit scope).2.2

def Removable (costLimit : Int) (scope : FilterScope) (tx : Transaction) : Prop :=
  scope.gasLimit < tx.gas ∨ costLimit < tx.cost ∧ scope.rebinds evm tx = false

def NoRechargeFits (list : TxList true) (scope : FilterScope) : Prop :=
  ∀ tx, list.txs.Holds tx → isRechargeTx evm tx = true → scope.gasLimit < tx.gas

def LaterHaveGas (list : TxList true) (costLimit : Int) (scope : FilterScope) : Prop :=
  ∀ lowest, list.txs.Holds lowest → Removable evm costLimit scope lowest →
    (∀ tx, list.txs.Holds tx → scope.gasLimit < tx.gas → lowest.nonce ≤ tx.nonce) →
    ∀ tx, list.txs.Holds tx → tx ≠ lowest → tx.gas ≤ scope.gasLimit →
      (0 < tx.gas ↔ lowest.nonce < tx.nonce)

/-- The cases in which `Filter` does no harm to a strict list. -/
def FilterSafe (list : TxList true) (costLimit : Int) (scope : FilterScope) : Prop :=
  list.withinCaps costLimit scope.gasLimit = true ∨
    list.NoRechargeFits evm scope ∨ list.LaterHaveGas evm costLimit scope

section FirstPass

variable {evm} {list : TxList true} {costLimit : Int} {scope : FilterScope}
  {order : IterationOrder} {tx lowest : Transaction}

def removedBy (evm : Evm) (list : TxList true) (costLimit : Int) (scope : FilterScope)
    (order : IterationOrder) : List Transaction :=
  list.txs.pick (list.unpayable evm order costLimit scope)

def IsLowest (removed : List Transaction) (lowest : Transaction) : Prop :=
  lowest ∈ removed ∧ ∀ tx ∈ removed, lowest.nonce ≤ tx.nonce

theorem foldl_lowest_eq {removed : List Transaction} {start : UInt64}
    (lower : ∀ tx ∈ removed, lowest.nonce ≤ tx.nonce) (startsAbove : lowest.nonce ≤ start)
    (reached : start = lowest.nonce ∨ lowest ∈ removed) :
    removed.foldl (fun lowest tx => if lowest > tx.nonce then tx.nonce else lowest)
      start = lowest.nonce := by
  induction removed generalizing start with
  | nil =>
    rcases reached with isLowest | member
    · exact isLowest
    · cases member
  | cons head rest inductionHypothesis =>
    have headAbove := lower head List.mem_cons_self
    have restAbove : ∀ tx ∈ rest, lowest.nonce ≤ tx.nonce :=
      fun tx member => lower tx (List.mem_cons_of_mem head member)
    rw [List.foldl_cons]
    split
    · next above =>
        refine inductionHypothesis restAbove headAbove ?_
        rcases reached with isLowest | member
        · -- the start was the lowest already, so the head is as low
          subst isLowest
          exact absurd above (UInt64.not_lt.2 headAbove)
        · rcases List.mem_cons.1 member with rfl | inRest
          · exact .inl rfl
          · exact .inr inRest
    · next notAbove =>
        refine inductionHypothesis restAbove startsAbove ?_
        rcases reached with isLowest | member
        · exact .inl isLowest
        · rcases List.mem_cons.1 member with rfl | inRest
          · exact .inl (UInt64.le_antisymm (UInt64.not_lt.1 notAbove) startsAbove)
          · exact .inr inRest

theorem lowestNonce_eq {removed : List Transaction} (isLowest : IsLowest removed lowest) :
    lowestNonce removed = lowest.nonce := by
  refine foldl_lowest_eq isLowest.2 ?_ (.inr isLowest.1)
  rw [UInt64.le_iff_toNat_le]
  exact Nat.le_of_lt_succ lowest.nonce.toNat_lt

theorem filter_removed (exceeded : list.withinCaps costLimit scope.gasLimit = false)
    (first second : IterationOrder) :
    (list.filter evm first second costLimit scope).2.1 =
      removedBy evm list costLimit scope first := by
  rw [filter, exceeded, if_neg Bool.false_ne_true]
  dsimp only
  split
  · rfl
  · rfl

theorem filter_of_strict (exceeded : list.withinCaps costLimit scope.gasLimit = false)
    {first : IterationOrder} (isLowest : IsLowest (removedBy evm list costLimit scope first) lowest)
    (second : IterationOrder) :
    list.filter evm first second costLimit scope =
      (((list.lowered evm first costLimit scope).dropLater evm second lowest.nonce).1,
        removedBy evm list costLimit scope first,
        ((list.lowered evm first costLimit scope).dropLater evm second lowest.nonce).2) := by
  have someRemoved : removedBy evm list costLimit scope first ≠ [] := List.ne_nil_of_mem isLowest.1
  have found := lowestNonce_eq isLowest
  unfold removedBy at someRemoved found
  simp [filter, exceeded, someRemoved, found, removedBy]

theorem holds_lowered :
    (list.lowered evm order costLimit scope).txs.Holds = fun other => list.txs.Holds other ∧
        other ∉ removedBy evm list costLimit scope order := by
  funext other
  simp only [lowered, TxSortedMap.holds_drop_iff, removedBy,
    TxSortedMap.mem_pick_iff, not_and, eq_iff_iff]
  exact and_congr_right fun holds => by simp [holds]

theorem filterLosesLater_of_exceeded_iff
    (exceeded : list.withinCaps costLimit scope.gasLimit = false) :
    list.FilterLosesLater evm costLimit scope ↔ ∀ first lowest,
        IsLowest (removedBy evm list costLimit scope first) lowest →
        (∀ tx, (list.lowered evm first costLimit scope).txs.Holds tx →
          isRechargeTx evm tx = false) ∨
        ∀ tx, (list.lowered evm first costLimit scope).txs.Holds tx →
          (0 < tx.gas ↔ lowest.nonce < tx.nonce) := by
  simp only [← forall_order_losesLater_iff]
  unfold FilterLosesLater
  simp only [filter_removed exceeded, ← holds_lowered]
  constructor
  · intro loses first lowest isLowest second
    have least := loses first second lowest.nonce ⟨⟨lowest, isLowest.1, rfl⟩, by
        rintro _ ⟨tx, removed, rfl⟩
        exact isLowest.2 tx removed⟩
    rw [filter_of_strict exceeded isLowest] at least
    exact least
  · rintro loses first second _ ⟨⟨lowest, removed, rfl⟩, below⟩
    have isLowest : IsLowest (removedBy evm list costLimit scope first) lowest :=
      ⟨removed, fun tx other => below ⟨tx, other, rfl⟩⟩
    rw [filter_of_strict exceeded isLowest]
    exact loses first lowest isLowest second

theorem holds_and_removable_of_mem (removed : tx ∈ removedBy evm list costLimit scope order) :
    list.txs.Holds tx ∧ Removable evm costLimit scope tx := by
  obtain ⟨holds, taken⟩ := TxSortedMap.mem_pick_iff.1 removed
  refine ⟨holds, ?_⟩
  have deleted := (TxSortedMap.mem_filter_iff holds).1 taken
  rcases mem_filterLoop_cases (exceeds costLimit scope.gasLimit)
      (TxSortedMap.nodup_visited order list.txs) (GoMap.mem_iterate.2 holds) with
    ⟨keeps, judged⟩ | ⟨_, judged⟩
  · have exceeding := judged.1 deleted
    rw [exceeds, Bool.or_eq_true, decide_eq_true_iff, decide_eq_true_iff] at exceeding
    rcases exceeding with costs | gasExceeds
    · exact .inr ⟨costs, keeps⟩
    · exact .inl gasExceeds
  · exact .inl (of_decide_eq_true (judged.1 deleted))

theorem mem_removedBy_of_exceedsGas (holds : list.txs.Holds tx)
    (gasExceeds : scope.gasLimit < tx.gas) : tx ∈ removedBy evm list costLimit scope order := by
  by_contra notRemoved
  have left : (list.lowered evm order costLimit scope).txs.Holds tx := by
    rw [holds_lowered]
    exact ⟨holds, notRemoved⟩
  exact Nat.not_lt.2 ((list.lowered evm order costLimit scope).gasCapped tx left) gasExceeds

theorem Removable.inForce (removable : Removable evm costLimit scope tx) :
    scope.inForce evm (exceeds costLimit scope.gasLimit) tx tx = true := by
  unfold FilterScope.inForce
  split
  · next rebinds =>
      rcases removable with gasExceeds | ⟨_, keeps⟩
      · exact decide_eq_true gasExceeds
      · rw [rebinds] at keeps
        cases keeps
  · rw [exceeds, Bool.or_eq_true, decide_eq_true_iff, decide_eq_true_iff]
    rcases removable with gasExceeds | ⟨costs, _⟩
    · exact .inr gasExceeds
    · exact .inl costs

theorem exists_order_removing {recharge : Transaction} (holdsLowest : list.txs.Holds lowest)
    (removable : Removable evm costLimit scope lowest) (holdsRecharge : list.txs.Holds recharge)
    (isRecharge : isRechargeTx evm recharge = true) (distinct : lowest ≠ recharge) :
    ∃ order, ∀ tx, tx ∈ removedBy evm list costLimit scope order ↔
      list.txs.Holds tx ∧ (tx = lowest ∨ scope.gasLimit < tx.gas) := by
  obtain ⟨order, rest, arranged⟩ := TxSortedMap.exists_order_first_two
    holdsLowest holdsRecharge distinct
  refine ⟨order, fun tx => ?_⟩
  have rebinds := scope.rebinds_of_recharge isRecharge
  have once := TxSortedMap.nodup_visited order list.txs
  rw [arranged] at once
  rw [removedBy, TxSortedMap.mem_pick_iff]
  refine and_congr_right fun holds => ?_
  have visited : (tx.nonce, tx) ∈ GoMap.iterate order list.txs.items := GoMap.mem_iterate.2 holds
  rw [unpayable, TxSortedMap.mem_filter_iff holds]
  rw [arranged] at visited ⊢
  by_cases isLowest : tx = lowest
  · subst isLowest
    rw [mem_filterLoop_cons_self (List.nodup_cons.1 once).1]
    exact iff_of_true removable.inForce (.inl rfl)
  have notFirst : (tx.nonce, tx) ≠ (lowest.nonce, lowest) :=
    fun same => isLowest (congrArg Prod.snd same)
  rw [mem_filterLoop_cons_of_ne notFirst, filterLoop_of_rebinds rebinds,
    List.mem_filter, and_iff_right (List.mem_of_ne_of_mem notFirst visited), or_iff_right isLowest]
  exact decide_eq_true_iff

theorem fits_of_lowered (left : (list.lowered evm order costLimit scope).txs.Holds tx) :
    tx.gas ≤ scope.gasLimit :=
  (list.lowered evm order costLimit scope).gasCapped tx left

theorem splits_of_safe
    (safe : list.NoRechargeFits evm scope ∨ list.LaterHaveGas evm costLimit scope)
    (isLowest : IsLowest (removedBy evm list costLimit scope order) lowest) :
    (∀ tx, (list.lowered evm order costLimit scope).txs.Holds tx → isRechargeTx evm tx = false) ∨
    ∀ tx, (list.lowered evm order costLimit scope).txs.Holds tx →
      (0 < tx.gas ↔ lowest.nonce < tx.nonce) := by
  rcases safe with noneFits | laterHaveGas
  · left
    intro tx left
    have fits := fits_of_lowered left
    rw [holds_lowered] at left
    by_contra recharge
    exact Nat.not_lt.2 fits (noneFits tx left.1 (Bool.eq_true_of_not_eq_false recharge))
  · right
    intro tx left
    have fits := fits_of_lowered left
    rw [holds_lowered] at left
    obtain ⟨holdsLowest, removable⟩ := holds_and_removable_of_mem isLowest.1
    refine laterHaveGas lowest holdsLowest removable ?_ tx left.1 ?_ fits
    · intro other holds gasExceeds
      exact isLowest.2 other (mem_removedBy_of_exceedsGas holds gasExceeds)
    · rintro rfl
      exact left.2 isLowest.1

theorem laterHaveGas_of_splits {recharge : Transaction}
    (splits : ∀ order lowest, IsLowest (removedBy evm list costLimit scope order) lowest →
      (∀ tx, (list.lowered evm order costLimit scope).txs.Holds tx → isRechargeTx evm tx = false) ∨
      ∀ tx, (list.lowered evm order costLimit scope).txs.Holds tx →
        (0 < tx.gas ↔ lowest.nonce < tx.nonce))
    (holdsRecharge : list.txs.Holds recharge)
    (isRecharge : isRechargeTx evm recharge = true)
    (rechargeFits : recharge.gas ≤ scope.gasLimit) :
    list.LaterHaveGas evm costLimit scope := by
  intro lowest holdsLowest removable below tx holds other fits
  have distinct : lowest ≠ recharge := by
    rintro rfl
    rcases removable with gasExceeds | ⟨_, keeps⟩
    · exact Nat.not_lt.2 rechargeFits gasExceeds
    · rw [scope.rebinds_of_recharge isRecharge] at keeps
      cases keeps
  obtain ⟨order, removes⟩ := exists_order_removing holdsLowest removable
    holdsRecharge isRecharge distinct
  have isLowest : IsLowest (removedBy evm list costLimit scope order) lowest := by
    refine ⟨(removes lowest).2 ⟨holdsLowest, .inl rfl⟩, ?_⟩
    intro removed isRemoved
    rcases (removes removed).1 isRemoved with ⟨holdsRemoved, rfl | gasExceeds⟩
    · exact UInt64.le_refl _
    · exact below removed holdsRemoved gasExceeds
  have isLeft : ∀ tx, list.txs.Holds tx → tx ≠ lowest → tx.gas ≤ scope.gasLimit →
      (list.lowered evm order costLimit scope).txs.Holds tx := by
    intro tx holds other fits
    rw [holds_lowered]
    refine ⟨holds, fun removed => ?_⟩
    rcases ((removes tx).1 removed).2 with isLowest | gasExceeds
    · exact other isLowest
    · exact Nat.not_lt.2 fits gasExceeds
  rcases splits order lowest isLowest with noRecharge | splitsRightly
  · have notRecharge := noRecharge recharge
      (isLeft recharge holdsRecharge distinct.symm rechargeFits)
    rw [isRecharge] at notRecharge
    cases notRecharge
  · exact splitsRightly tx (isLeft tx holds other fits)

end FirstPass

theorem filterLosesLater_iff {evm : Evm} {list : TxList true} {costLimit : Int}
    {scope : FilterScope} :
    list.FilterLosesLater evm costLimit scope ↔ list.FilterSafe evm costLimit scope := by
  unfold FilterSafe
  cases caps : list.withinCaps costLimit scope.gasLimit with
  | true =>
    refine iff_of_true ?_ (.inl rfl)
    rintro first second _ ⟨⟨tx, removed, _⟩, _⟩
    rw [filter_of_withinCaps caps] at removed
    cases removed
  | false =>
    rw [filterLosesLater_of_exceeded_iff caps, or_iff_right Bool.false_ne_true]
    constructor
    · intro splits
      by_cases noneFits : list.NoRechargeFits evm scope
      · exact .inl noneFits
      unfold NoRechargeFits at noneFits
      push Not at noneFits
      obtain ⟨recharge, holds, isRecharge, fits⟩ := noneFits
      exact .inr (laterHaveGas_of_splits splits holds isRecharge fits)
    · intro safe order lowest isLowest
      exact splits_of_safe safe isLowest

/--
`Remove` and `Filter` of a strict list lose just the transactions after the one that
goes, in every order, exactly if the recharges that remain do no harm.
-/
theorem strict_losesLater_iff (list : TxList true) (tx : Transaction) (costLimit : Int)
    (scope : FilterScope) :
    (list.RemoveLosesLater evm tx ↔ list.RemoveSafe evm tx) ∧
      (list.FilterLosesLater evm costLimit scope ↔ list.FilterSafe evm costLimit scope) :=
  ⟨removeLosesLater_iff, filterLosesLater_iff⟩

end TxList

namespace Sample

def rechargeBetween : TxList true :=
  txListOf true [transferAt 0, rechargeAt 1, transferAt 2]

end Sample

open Sample

namespace TxList

/-- The last transaction goes, and the recharge before it is invalidated. -/
theorem earlier_recharge_invalidated :
    ¬rechargeBetween.RemoveLosesLater (node idle) (transferAt 2) := by
  intro loses
  have invalidated := ((loses .stored (by decide +kernel)).invalidated (rechargeAt 1)).1
  rw [remove_of_strict (by decide +kernel)] at invalidated
  have taken : (rechargeAt 1).nonce ∈ (rechargeBetween.drop [2]).txs.filter (node idle)
        .stored (fun tx => tx.nonce > 2) laterScope := by
    decide +kernel
  have later := invalidated (TxSortedMap.mem_pick_iff.2 ⟨rfl, taken⟩)
  exact absurd later.2 (by decide)

end TxList

end EscSideChain.Core
