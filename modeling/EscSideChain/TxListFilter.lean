import EscSideChain.SupplyConservation
import EscSideChain.TxList

/-!
# What the filters of the transaction lists remove

`txSortedMap.Filter` changes its predicate at the first recharge or black-contract
deployment that it meets.  Which predicate decides about a transaction depends on
the order of the loop, and a result for every order needs both predicates to agree
with what is wanted.
-/

namespace EscSideChain.Dpos

/-! ## Orders that start at a given entry -/

def IterationOrder.startingAt (place : Nat) (order : IterationOrder) : IterationOrder where
  arrange entries :=
    let arranged := order.arrange entries
    match arranged[place]? with
    | none => arranged
    | some entry => entry :: arranged.eraseIdx place
  perm := by
    intro Entry entries
    dsimp only
    split
    · exact order.perm entries
    next entry found =>
      obtain ⟨inside, rfl⟩ := List.getElem?_eq_some_iff.1 found
      exact (List.getElem_cons_eraseIdx_perm inside).trans (order.perm entries)

theorem IterationOrder.exists_startingAt {Key Value : Type} {order : IterationOrder}
    {map : GoMap Key Value} {entry : Key × Value} (member : entry ∈ GoMap.iterate order map) :
    ∃ place, (GoMap.iterate order map)[place]? = some entry ∧
      GoMap.iterate (order.startingAt place) map =
        entry :: (GoMap.iterate order map).eraseIdx place := by
  obtain ⟨place, found⟩ := List.mem_iff_getElem?.1 member
  refine ⟨place, found, ?_⟩
  rw [GoMap.iterate, List.getElem?_map, Option.map_eq_some_iff] at found
  obtain ⟨stored, isStored, rfl⟩ := found
  simp only [GoMap.iterate, startingAt, isStored, List.map_cons, List.eraseIdx_map]

end EscSideChain.Dpos

namespace EscSideChain.Core

open Dpos State Spv WithdrawFailedTx Vm

variable (evm : Evm)

/-! ## The loop -/

section Loop

variable {evm : Evm} {scope : FilterScope} {filter : Transaction → Bool}
  {entry head : UInt64 × Transaction} {entries rest : List (UInt64 × Transaction)}

theorem mem_filterLoop_cons_self (once : entry ∉ rest) :
    entry ∈ filterLoop evm scope filter (entry :: rest) ↔
      scope.inForce evm filter entry.2 entry.2 = true := by
  have notLater : entry ∉ filterLoop evm scope (scope.inForce evm filter entry.2) rest :=
    fun later => once ((filterLoop_sublist evm _ _ _).mem later)
  rw [filterLoop]
  split
  · next judged => exact iff_of_true List.mem_cons_self judged
  · next spared => exact iff_of_false notLater spared

theorem mem_filterLoop_cons_of_ne (other : entry ≠ head) :
    entry ∈ filterLoop evm scope filter (head :: rest) ↔ entry ∈ filterLoop evm scope
        (scope.inForce evm filter head.2) rest := by
  rw [filterLoop]
  split
  · rw [List.mem_cons, or_iff_right other]
  · exact Iff.rfl

theorem filterLoop_exceedsGas :
    filterLoop evm scope scope.exceedsGas entries =
      entries.filter fun entry => scope.exceedsGas entry.2 := by
  induction entries with
  | nil => rfl
  | cons head rest inductionHypothesis =>
    have stays : scope.inForce evm scope.exceedsGas head.2 = scope.exceedsGas := ite_self _
    rw [filterLoop, stays, inductionHypothesis, List.filter_cons]

theorem filterLoop_of_rebinds (rebinds : scope.rebinds evm head.2 = true) :
    filterLoop evm scope filter (head :: rest) =
      (head :: rest).filter fun entry => scope.exceedsGas entry.2 := by
  have rebound : scope.inForce evm filter head.2 = scope.exceedsGas := if_pos rebinds
  rw [filterLoop, rebound, filterLoop_exceedsGas, List.filter_cons]

theorem mem_filterLoop_cases (filter : Transaction → Bool) (once : entries.Nodup)
    (member : entry ∈ entries) :
    (scope.rebinds evm entry.2 = false ∧
      (entry ∈ filterLoop evm scope filter entries ↔ filter entry.2 = true)) ∨
    ((∃ other ∈ entries, scope.rebinds evm other.2 = true) ∧
      (entry ∈ filterLoop evm scope filter entries ↔ scope.exceedsGas entry.2 = true)) := by
  induction entries with
  | nil => cases member
  | cons head rest inductionHypothesis =>
    obtain ⟨notInRest, restOnce⟩ := List.nodup_cons.1 once
    by_cases rebinds : scope.rebinds evm head.2 = true
    · refine .inr ⟨⟨head, List.mem_cons_self, rebinds⟩, ?_⟩
      rw [filterLoop_of_rebinds rebinds, List.mem_filter, and_iff_right member]
    have unchanged : scope.inForce evm filter head.2 = filter := if_neg rebinds
    rcases List.mem_cons.1 member with rfl | inRest
    · refine .inl ⟨Bool.eq_false_of_not_eq_true rebinds, ?_⟩
      rw [mem_filterLoop_cons_self notInRest, unchanged]
    · rw [mem_filterLoop_cons_of_ne (ne_of_mem_of_not_mem inRest notInRest), unchanged]
      rcases inductionHypothesis restOnce inRest with byFilter | ⟨⟨other, inside, changes⟩, byGas⟩
      · exact .inl byFilter
      · exact .inr ⟨⟨other, List.mem_cons_of_mem head inside, changes⟩, byGas⟩

end Loop

/-! ## The map -/

section Map

variable {evm} {map : TxSortedMap} {scope : FilterScope}
  {filter : Transaction → Bool} {order : IterationOrder} {tx : Transaction}

theorem TxSortedMap.nodup_visited (order : IterationOrder) (map : TxSortedMap) :
    (GoMap.iterate order map.items).Nodup :=
  List.Nodup.of_map Prod.fst GoMap.nodup_keys_iterate

theorem TxSortedMap.mem_filter_iff (holds : map.Holds tx) :
    tx.nonce ∈ map.filter evm order filter scope ↔ (tx.nonce, tx) ∈ filterLoop evm scope filter
        (GoMap.iterate order map.items) := by
  rw [TxSortedMap.filter, List.mem_map]
  constructor
  · rintro ⟨⟨nonce, found⟩, deleted, rfl⟩
    have visited := (filterLoop_sublist evm _ _ _).mem deleted
    have same : some found = some tx := (GoMap.mem_iterate.1 visited).symm.trans holds
    cases same
    exact deleted
  · intro deleted
    exact ⟨(tx.nonce, tx), deleted, rfl⟩

theorem TxSortedMap.nodup_filter : (map.filter evm order filter scope).Nodup :=
  GoMap.nodup_keys_iterate.sublist ((filterLoop_sublist evm _ _ _).map Prod.fst)

theorem TxSortedMap.exists_holds_of_mem_filter {nonce : UInt64}
    (member : nonce ∈ map.filter evm order filter scope) :
    ∃ tx, map.Holds tx ∧ tx.nonce = nonce := by
  obtain ⟨⟨_, tx⟩, deleted, rfl⟩ := List.mem_map.1 member
  have visited := (filterLoop_sublist evm _ _ _).mem deleted
  exact ⟨tx, TxSortedMap.get_eq_some_iff.1 (GoMap.mem_iterate.1 visited)⟩

theorem TxSortedMap.exists_order_first (holds : map.Holds tx) :
    ∃ order rest, GoMap.iterate order map.items = (tx.nonce, tx) :: rest := by
  have visited : (tx.nonce, tx) ∈ GoMap.iterate .stored map.items := GoMap.mem_iterate.2 holds
  obtain ⟨place, _, first⟩ := IterationOrder.exists_startingAt visited
  exact ⟨_, _, first⟩

theorem TxSortedMap.exists_order_first_two {second : Transaction} (holds : map.Holds tx)
    (holdsSecond : map.Holds second) (distinct : tx ≠ second) :
    ∃ order rest, GoMap.iterate order map.items =
      (tx.nonce, tx) :: (second.nonce, second) :: rest := by
  obtain ⟨order, rest, first⟩ := TxSortedMap.exists_order_first holdsSecond
  have visited : (tx.nonce, tx) ∈ GoMap.iterate order map.items := GoMap.mem_iterate.2 holds
  obtain ⟨place, found, moved⟩ := IterationOrder.exists_startingAt visited
  rw [first] at found moved
  cases place with
  | zero =>
    have same : second = tx := congrArg Prod.snd (Option.some.inj found)
    exact absurd same.symm distinct
  | succ later => exact ⟨_, _, moved⟩

theorem TxSortedMap.forall_order_filter_iff {wanted : Transaction → Prop} :
    (∀ order tx, map.Holds tx → (tx.nonce ∈ map.filter evm order filter scope ↔ wanted tx)) ↔
    ∀ tx, map.Holds tx → (scope.rebinds evm tx = false → (filter tx = true ↔ wanted tx)) ∧
      ∀ other, map.Holds other → scope.rebinds evm other = true →
        (scope.exceedsGas tx = true ↔ wanted tx) := by
  constructor
  · intro exact tx holds
    constructor
    · intro keeps
      obtain ⟨order, rest, first⟩ := TxSortedMap.exists_order_first holds
      have once := TxSortedMap.nodup_visited order map
      rw [first] at once
      rw [← exact order tx holds, TxSortedMap.mem_filter_iff holds, first,
        mem_filterLoop_cons_self (List.nodup_cons.1 once).1,
        FilterScope.inForce, keeps, if_neg Bool.false_ne_true]
    · intro other holdsOther rebinds
      obtain ⟨order, rest, first⟩ := TxSortedMap.exists_order_first holdsOther
      have visited : (tx.nonce, tx) ∈ GoMap.iterate order map.items := GoMap.mem_iterate.2 holds
      rw [← exact order tx holds, TxSortedMap.mem_filter_iff holds]
      rw [first] at visited ⊢
      rw [filterLoop_of_rebinds rebinds, List.mem_filter, and_iff_right visited]
  · intro agree order tx holds
    obtain ⟨byFilter, byGas⟩ := agree tx holds
    rw [TxSortedMap.mem_filter_iff holds]
    rcases mem_filterLoop_cases filter (TxSortedMap.nodup_visited order map)
        (GoMap.mem_iterate.2 holds) with
      ⟨keeps, judged⟩ | ⟨⟨⟨nonce, other⟩, visited, rebinds⟩, judged⟩
    · exact judged.trans (byFilter keeps)
    · have holdsOther := (TxSortedMap.get_eq_some_iff.1 (GoMap.mem_iterate.1 visited)).1
      exact judged.trans (byGas other holdsOther rebinds)

end Map

/-! ## Lists that are not strict -/

variable {tx : Transaction}

namespace FilterScope

variable (scope : FilterScope)

def Exempt (tx : Transaction) : Prop :=
  isRechargeTx evm tx = true ∨ tx.recipient = none ∧ scope.deploysBlackContract evm = true

def Unaffordable (costLimit : Int) (tx : Transaction) : Prop :=
  scope.gasLimit < tx.gas ∨ ¬scope.Exempt evm tx ∧ costLimit < tx.cost

theorem rebinds_of_recharge {evm : Evm} (scope : FilterScope)
    (recharge : isRechargeTx evm tx = true) : scope.rebinds evm tx = true := by
  cases recipient : tx.recipient with
  | none => simp [isRechargeTx, recipient] at recharge
  | some addr => simpa only [FilterScope.rebinds, recipient] using recharge

end FilterScope

namespace TxList

/--
`Filter` removes the unaffordable transactions and keeps the others, and its result
is the same for every order of its loops.
-/
structure FiltersExactly (list : TxList false) (costLimit : Int) (scope : FilterScope) : Prop where
  removes : ∀ first second tx, tx ∈ (list.filter evm first second costLimit scope).2.1 ↔
      list.txs.Holds tx ∧ scope.Unaffordable evm costLimit tx
  keeps : ∀ first second tx, (list.filter evm first second costLimit scope).1.txs.Holds tx ↔
      list.txs.Holds tx ∧ ¬scope.Unaffordable evm costLimit tx
  sameList : ∀ first second first' second', (list.filter evm first second costLimit scope).1 =
      (list.filter evm first' second' costLimit scope).1
  sameRemoved : ∀ first second first' second',
    (list.filter evm first second costLimit scope).2.1.Perm
      (list.filter evm first' second' costLimit scope).2.1

/--
Of the transactions that cost too much, but whose gas is within the limit, those
that are exempt are spared by the caps of the list or change the predicate; the
others meet neither.
-/
def SparesExempt (list : TxList false) (costLimit : Int) (scope : FilterScope) : Prop :=
  ∀ tx, list.txs.Holds tx → costLimit < tx.cost → tx.gas ≤ scope.gasLimit →
    (scope.Exempt evm tx → list.withinCaps costLimit scope.gasLimit = true ∨
        scope.rebinds evm tx = true) ∧
    (¬scope.Exempt evm tx → list.withinCaps costLimit scope.gasLimit = false ∧
        ∀ other, list.txs.Holds other → scope.rebinds evm other = false)

theorem filter_of_withinCaps {evm : Evm} {strict : Bool} {list : TxList strict} {costLimit : Int}
    {scope : FilterScope} (within : list.withinCaps costLimit scope.gasLimit = true)
    (first second : IterationOrder) :
    list.filter evm first second costLimit scope = (list, [], []) :=
  if_pos within

section Loose

variable {evm} {list : TxList false} {costLimit : Int} {scope : FilterScope}

def TakesUnaffordable (evm : Evm) (list : TxList false) (costLimit : Int)
    (scope : FilterScope) : Prop :=
  ∀ order tx, list.txs.Holds tx →
    (tx.nonce ∈ list.unpayable evm order costLimit scope ↔ scope.Unaffordable evm costLimit tx)

theorem filter_of_loose (exceeded : list.withinCaps costLimit scope.gasLimit = false)
    (first second : IterationOrder) :
    list.filter evm first second costLimit scope =
      (list.lowered evm first costLimit scope,
        list.txs.pick (list.unpayable evm first costLimit scope), []) := by
  simp [filter, exceeded]

theorem gas_le_of_withinCaps
    (within : list.withinCaps costLimit scope.gasLimit = true) (holds : list.txs.Holds tx) :
    tx.gas ≤ scope.gasLimit := by
  rw [withinCaps, Bool.and_eq_true, decide_eq_true_iff, decide_eq_true_iff] at within
  exact (list.gasCapped tx holds).trans within.2

theorem filtersExactly_of_withinCaps_iff
    (within : list.withinCaps costLimit scope.gasLimit = true) :
    list.FiltersExactly evm costLimit scope ↔
      ∀ tx, list.txs.Holds tx → ¬scope.Unaffordable evm costLimit tx := by
  constructor
  · intro exactly tx holds unaffordable
    have removed := (exactly.removes .stored .stored tx).2 ⟨holds, unaffordable⟩
    rw [filter_of_withinCaps within] at removed
    cases removed
  · intro affordable
    constructor
    · intro first second tx
      rw [filter_of_withinCaps within]
      constructor
      · intro removed
        cases removed
      · rintro ⟨holds, unaffordable⟩
        exact absurd unaffordable (affordable tx holds)
    · intro first second tx
      rw [filter_of_withinCaps within]
      exact ⟨fun holds => ⟨holds, affordable tx holds⟩, And.left⟩
    · intro first second first' second'
      rw [filter_of_withinCaps within, filter_of_withinCaps within]
    · intro first second first' second'
      rw [filter_of_withinCaps within, filter_of_withinCaps within]

theorem lowered_congr {first first' : IterationOrder}
    (same : ∀ nonce, nonce ∈ list.unpayable evm first costLimit scope ↔
      nonce ∈ list.unpayable evm first' costLimit scope) :
    list.lowered evm first costLimit scope = list.lowered evm first' costLimit scope := by
  ext1
  · simp only [lowered, TxSortedMap.drop, same]
  · rfl
  · rfl

theorem TakesUnaffordable.mem_unpayable_iff (takes : TakesUnaffordable evm list costLimit scope)
    (first first' : IterationOrder) (nonce : UInt64) :
    nonce ∈ list.unpayable evm first costLimit scope ↔
      nonce ∈ list.unpayable evm first' costLimit scope := by
  constructor
  · intro member
    obtain ⟨tx, holds, rfl⟩ := TxSortedMap.exists_holds_of_mem_filter member
    exact (takes first' tx holds).2 ((takes first tx holds).1 member)
  · intro member
    obtain ⟨tx, holds, rfl⟩ := TxSortedMap.exists_holds_of_mem_filter member
    exact (takes first tx holds).2 ((takes first' tx holds).1 member)

theorem filtersExactly_of_loose_iff (exceeded : list.withinCaps costLimit scope.gasLimit = false) :
    list.FiltersExactly evm costLimit scope ↔ TakesUnaffordable evm list costLimit scope := by
  constructor
  · intro exactly order tx holds
    have removes := exactly.removes order order tx
    rw [filter_of_loose exceeded, TxSortedMap.mem_pick_iff] at removes
    simpa [holds] using removes
  · intro takes
    constructor
    · intro first second tx
      rw [filter_of_loose exceeded, TxSortedMap.mem_pick_iff]
      exact and_congr_right fun holds => takes first tx holds
    · intro first second tx
      rw [filter_of_loose exceeded, lowered, TxSortedMap.holds_drop_iff]
      exact and_congr_right fun holds => not_congr (takes first tx holds)
    · intro first second first' second'
      rw [filter_of_loose exceeded, filter_of_loose exceeded]
      exact lowered_congr (takes.mem_unpayable_iff first first')
    · intro first second first' second'
      rw [filter_of_loose exceeded, filter_of_loose exceeded]
      refine (List.perm_ext_iff_of_nodup ?_ ?_).2 fun tx => ?_
      · exact (TxSortedMap.nodup_nonce_pick TxSortedMap.nodup_filter).of_map _
      · exact (TxSortedMap.nodup_nonce_pick TxSortedMap.nodup_filter).of_map _
      · rw [TxSortedMap.mem_pick_iff, TxSortedMap.mem_pick_iff,
          takes.mem_unpayable_iff first first']

theorem exceeds_iff_unaffordable_iff :
    (exceeds costLimit scope.gasLimit tx = true ↔ scope.Unaffordable evm costLimit tx) ↔
      (costLimit < tx.cost → tx.gas ≤ scope.gasLimit → ¬scope.Exempt evm tx) := by
  rw [exceeds, Bool.or_eq_true, decide_eq_true_iff, decide_eq_true_iff,
    FilterScope.Unaffordable, ← Nat.not_lt, gt_iff_lt, gt_iff_lt]
  tauto

theorem exceedsGas_iff_unaffordable_iff :
    (scope.exceedsGas tx = true ↔ scope.Unaffordable evm costLimit tx) ↔
      (costLimit < tx.cost → tx.gas ≤ scope.gasLimit → scope.Exempt evm tx) := by
  rw [FilterScope.exceedsGas, decide_eq_true_iff, FilterScope.Unaffordable, ← Nat.not_lt, gt_iff_lt]
  constructor
  · intro judged costs fits
    by_contra notExempt
    exact fits (judged.2 (.inr ⟨notExempt, costs⟩))
  · intro safe
    constructor
    · exact Or.inl
    · rintro (gasExceeds | ⟨notExempt, costs⟩)
      · exact gasExceeds
      · by_contra fits
        exact notExempt (safe costs fits)

theorem takesUnaffordable_iff :
    TakesUnaffordable evm list costLimit scope ↔ ∀ tx, list.txs.Holds tx →
        costLimit < tx.cost → tx.gas ≤ scope.gasLimit →
        (scope.Exempt evm tx → scope.rebinds evm tx = true) ∧
        (¬scope.Exempt evm tx → ∀ other, list.txs.Holds other →
          scope.rebinds evm other = false) := by
  refine TxSortedMap.forall_order_filter_iff.trans (forall₂_congr fun tx holds => ?_)
  simp only [exceeds_iff_unaffordable_iff, exceedsGas_iff_unaffordable_iff]
  constructor
  · rintro ⟨byFilter, byGas⟩ costs fits
    constructor
    · intro exempt
      by_contra keeps
      exact byFilter (Bool.eq_false_of_not_eq_true keeps) costs fits exempt
    · intro notExempt other holdsOther
      by_contra rebinds
      exact notExempt (byGas other holdsOther (Bool.eq_true_of_not_eq_false rebinds) costs fits)
  · intro safe
    constructor
    · intro keeps costs fits exempt
      have rebinds := (safe costs fits).1 exempt
      rw [keeps] at rebinds
      exact Bool.false_ne_true rebinds
    · intro other holdsOther rebinds costs fits
      by_contra notExempt
      have keeps := (safe costs fits).2 notExempt other holdsOther
      rw [rebinds] at keeps
      exact Bool.false_ne_true keeps.symm

end Loose

/--
A list that is not strict loses exactly its unaffordable transactions, in every
order, exactly if the changes of the predicate and the caps of the list spare its
exempt transactions only.
-/
theorem filtersExactly_iff (list : TxList false) (costLimit : Int) (scope : FilterScope) :
    list.FiltersExactly evm costLimit scope ↔ list.SparesExempt evm costLimit scope := by
  unfold SparesExempt
  cases caps : list.withinCaps costLimit scope.gasLimit with
  | false =>
    rw [filtersExactly_of_loose_iff caps, takesUnaffordable_iff]
    simp only [Bool.false_eq_true, false_or, true_and]
  | true =>
    rw [filtersExactly_of_withinCaps_iff caps]
    refine forall₂_congr fun tx holds => ?_
    have fits := gas_le_of_withinCaps caps holds
    simp only [FilterScope.Unaffordable, Nat.not_lt.2 fits, false_or,
      not_and, fits, true_or, forall_const, Bool.true_eq_false, false_and]
    tauto

end TxList

namespace Sample

def poolTx (nonce : UInt64) (gasPrice : Int) (recipient : Address)
    (data : Bytes) : Transaction where
  hash := bytesToHash [nonce.toUInt8]
  sender := .ok (account 3)
  recipient := some recipient
  gasPrice := gasPrice
  gas := 30000
  value := 0
  nonce := nonce
  data := data
  accessList := []

def rechargeAt (nonce : UInt64) : Transaction :=
  poolTx nonce 2 blackAddr (List.replicate 32 1)

def transferAt (nonce : UInt64) : Transaction :=
  poolTx nonce 1 (account 4) []

def txListOf (strict : Bool) (txs : List Transaction) : TxList strict :=
  txs.foldl TxList.insert (newTxList strict)

def poolScope : FilterScope where
  gasLimit := 8000000
  currentNonce := some fun _ => 0
  sender := account 3
  blackContractAddr := hexutilEncode (account 9).toList

end Sample

open Sample

namespace TxList

/--
An account without money has a recharge and a transfer in the queue, and the loop
meets the recharge first: the transfer stays.
-/
theorem recharge_spares_transfer :
    ¬(txListOf false [rechargeAt 0, transferAt 1]).FiltersExactly (node idle) 0 poolScope := by
  intro exactly
  have removed := (exactly.removes (IterationOrder.stored.startingAt 1)
    .stored (transferAt 1)).2 ⟨rfl, .inr ⟨?_, by decide⟩⟩
  · have nothing : ((txListOf false [rechargeAt 0, transferAt 1]).filter
        (node idle) (IterationOrder.stored.startingAt 1) .stored 0 poolScope).2.1.length = 0 := by
      decide +kernel
    rw [List.length_eq_zero_iff] at nothing
    rw [nothing] at removed
    cases removed
  · rintro (recharge | ⟨deploys, _⟩)
    · exact absurd recharge (by decide +kernel)
    · cases deploys

end TxList

end EscSideChain.Core
