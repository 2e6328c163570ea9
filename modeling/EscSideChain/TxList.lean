import EscSideChain.DposBlockPool
import EscSideChain.StateProcessor
import Mathlib.Data.List.Sort

namespace EscSideChain.Core

open Dpos State Spv WithdrawFailedTx Vm

/-!
# The transaction lists of the pool

`core/tx_list.go`: the transactions of one account by nonce, as the pool keeps
them for its pending and its queued transactions.  Left out are the heap of nonces and the
functions that go through it, `Forward`, `Cap`, `Ready` and `Flatten`, and `Add`.
-/

def Transaction.cost (tx : Transaction) : Int :=
  tx.gasPrice * tx.gas + tx.value

variable (evm : Evm)

def isRechargeTx (tx : Transaction) : Bool :=
  match tx.recipient with
  | none => false
  | some addr =>
    if addr = blackAddr then
      tx.data.length = 32 || (isSmallCrossTxByData evm.format evm.pbftEngine tx.data).isSome
    else false

/-! ## The sorted map -/

/-- `txSortedMap`: every transaction stands under its own nonce. -/
@[ext] structure TxSortedMap where
  items : GoMap UInt64 Transaction
  keyed : ∀ nonce tx, items.lookup nonce = some tx → tx.nonce = nonce

variable {tx : Transaction}

namespace TxSortedMap

/-- `newTxSortedMap`. -/
def empty : TxSortedMap where
  items := ∅
  keyed _ _ found := nomatch found

variable (map : TxSortedMap)

def get (nonce : UInt64) : Option Transaction :=
  map.items.lookup nonce

def Holds (tx : Transaction) : Prop :=
  map.get tx.nonce = some tx

theorem get_eq_some_iff {map : TxSortedMap} {nonce : UInt64} :
    map.get nonce = some tx ↔ map.Holds tx ∧ tx.nonce = nonce := by
  constructor
  · intro found
    have same := map.keyed nonce tx found
    subst same
    exact ⟨found, rfl⟩
  · rintro ⟨holds, rfl⟩
    exact holds

def put (tx : Transaction) : TxSortedMap where
  items := map.items.insert tx.nonce tx
  keyed := by
    intro nonce found isFound
    rcases GoMap.lookup_insert_cases isFound with ⟨rfl, rfl⟩ | before
    · rfl
    · exact map.keyed nonce found before

def pick (nonces : List UInt64) : List Transaction :=
  nonces.filterMap map.items.lookup

def drop (nonces : List UInt64) : TxSortedMap where
  items := GoMap.deleteWhere (fun nonce _ => nonce ∈ nonces) map.items
  keyed := by
    intro nonce tx found
    exact map.keyed nonce tx (GoMap.lookup_of_lookup_deleteWhere found)

theorem holds_drop_iff {map : TxSortedMap} {nonces : List UInt64} :
    (map.drop nonces).Holds tx ↔ map.Holds tx ∧ tx.nonce ∉ nonces := by
  simp [Holds, get, drop, GoMap.lookup_deleteWhere_eq_some]

theorem mem_pick_iff {map : TxSortedMap} {nonces : List UInt64} :
    tx ∈ map.pick nonces ↔ map.Holds tx ∧ tx.nonce ∈ nonces := by
  rw [pick, List.mem_filterMap]
  constructor
  · rintro ⟨nonce, member, found⟩
    obtain ⟨holds, rfl⟩ := get_eq_some_iff.1 found
    exact ⟨holds, member⟩
  · rintro ⟨holds, member⟩
    exact ⟨tx.nonce, member, holds⟩

theorem nodup_nonce_pick {map : TxSortedMap} {nonces : List UInt64} (once : nonces.Nodup) :
    ((map.pick nonces).map Transaction.nonce).Nodup := by
  refine once.sublist ?_
  induction nonces with
  | nil => exact List.Sublist.refl []
  | cons nonce rest inductionHypothesis =>
    have tail := inductionHypothesis once.of_cons
    rw [pick, List.filterMap_cons]
    cases found : map.items.lookup nonce with
    | none => exact tail.cons nonce
    | some tx =>
      rw [List.map_cons, map.keyed nonce tx found]
      exact tail.cons_cons nonce

end TxSortedMap

/-! ## The loop of `Filter` -/

/-- The arguments of `Filter` beside its predicate. -/
structure FilterScope where
  gasLimit : Nat
  currentNonce : Option (Address → UInt64)
  sender : Address
  blackContractAddr : Bytes

namespace FilterScope

variable (scope : FilterScope)

def deploysBlackContract : Bool :=
  match scope.currentNonce with
  | none => false
  | some getNonce =>
    evm.addressString (evm.createAddress scope.sender (getNonce scope.sender)) =
      scope.blackContractAddr

def rebinds (tx : Transaction) : Bool :=
  match tx.recipient with
  | some _ => isRechargeTx evm tx
  | none => scope.deploysBlackContract evm && 0 < scope.gasLimit && scope.sender ≠ blackAddr

def exceedsGas (tx : Transaction) : Bool :=
  tx.gas > scope.gasLimit

def inForce (filter : Transaction → Bool) (tx : Transaction) : Transaction → Bool :=
  if scope.rebinds evm tx then scope.exceedsGas else filter

end FilterScope

/--
The loop of `txSortedMap.Filter`: the entries that it deletes.  The predicate that
a recharge sets looks at the loop variable, which all iterations share, so it is
one of the current transaction.
-/
def filterLoop (scope : FilterScope) :
    (Transaction → Bool) → List (UInt64 × Transaction) → List (UInt64 × Transaction)
  | _, [] => []
  | filter, (nonce, tx) :: rest =>
    let filter := scope.inForce evm filter tx
    if filter tx then (nonce, tx) :: filterLoop scope filter rest
    else filterLoop scope filter rest

/-- `txSortedMap.Filter`: the nonces that it takes out. -/
def TxSortedMap.filter (order : IterationOrder) (filter : Transaction → Bool) (scope : FilterScope)
    (map : TxSortedMap) : List UInt64 :=
  (filterLoop evm scope filter (GoMap.iterate order map.items)).map Prod.fst

theorem filterLoop_sublist (scope : FilterScope) (filter : Transaction → Bool)
    (entries : List (UInt64 × Transaction)) :
    (filterLoop evm scope filter entries).Sublist entries := by
  induction entries generalizing filter with
  | nil => exact List.Sublist.refl []
  | cons entry rest inductionHypothesis =>
    rw [filterLoop]
    split
    · exact (inductionHypothesis _).cons_cons entry
    · exact (inductionHypothesis _).cons entry

theorem mem_filterLoop_of_exceedsGas {scope : FilterScope} {filter : Transaction → Bool}
    {entries : List (UInt64 × Transaction)} {entry : UInt64 × Transaction}
    (covers : ∀ tx, scope.exceedsGas tx = true → filter tx = true) (member : entry ∈ entries)
    (exceeds : scope.exceedsGas entry.2 = true) : entry ∈ filterLoop evm scope filter entries := by
  induction entries generalizing filter with
  | nil => cases member
  | cons head rest inductionHypothesis =>
    have inForceCovers : ∀ tx, scope.exceedsGas tx = true →
        scope.inForce evm filter head.2 tx = true := by
      intro tx exceedsTx
      unfold FilterScope.inForce
      split
      · exact exceedsTx
      · exact covers tx exceedsTx
    rw [filterLoop]
    rcases List.mem_cons.1 member with rfl | inRest
    · rw [if_pos (inForceCovers _ exceeds)]
      exact List.mem_cons_self
    · have deleted := inductionHypothesis inForceCovers inRest
      split
      · exact List.mem_cons_of_mem head deleted
      · exact deleted

theorem TxSortedMap.gas_le_of_holds_filter {order : IterationOrder} {filter : Transaction → Bool}
    {scope : FilterScope} {map : TxSortedMap}
    (covers : ∀ tx, scope.exceedsGas tx = true → filter tx = true)
    (holds : (map.drop (map.filter evm order filter scope)).Holds tx) :
    tx.gas ≤ scope.gasLimit := by
  obtain ⟨held, kept⟩ := TxSortedMap.holds_drop_iff.1 holds
  by_contra exceeds
  have visited : (tx.nonce, tx) ∈ GoMap.iterate order map.items := GoMap.mem_iterate.2 held
  have deleted := mem_filterLoop_of_exceedsGas evm covers visited
    (decide_eq_true (Nat.lt_of_not_le exceeds))
  exact kept (List.mem_map_of_mem (f := Prod.fst) deleted)

/-! ## The list -/

/--
`txList`: no transaction has more gas than the cap says.  Whether a list is strict
is fixed when it is made.
-/
@[ext] structure TxList (strict : Bool) where
  txs : TxSortedMap
  costcap : Int
  gascap : Nat
  gasCapped : ∀ tx, txs.Holds tx → tx.gas ≤ gascap

def newTxList (strict : Bool) : TxList strict where
  txs := .empty
  costcap := 0
  gascap := 0
  gasCapped _ holds := nomatch holds

namespace TxList

variable {strict : Bool} (list : TxList strict)

def overlaps (tx : Transaction) : Bool :=
  (list.txs.get tx.nonce).isSome

def insert (tx : Transaction) : TxList strict where
  txs := list.txs.put tx
  costcap := if list.costcap < tx.cost then tx.cost else list.costcap
  gascap := if list.gascap < tx.gas then tx.gas else list.gascap
  gasCapped := by
    intro other holds
    rcases GoMap.lookup_insert_cases holds with ⟨_, rfl⟩ | before
    · split <;> omega
    · have capped := list.gasCapped other before
      split <;> omega

def drop (nonces : List UInt64) : TxList strict :=
  { list with
    txs := list.txs.drop nonces
    gasCapped := fun tx holds =>
      list.gasCapped tx (TxSortedMap.holds_drop_iff.1 holds).1 }

def take (nonces : List UInt64) : TxList strict × List Transaction :=
  (list.drop nonces, list.txs.pick nonces)

def laterScope : FilterScope where
  gasLimit := 0
  currentNonce := none
  sender := blackAddr
  blackContractAddr := []

def dropLater (order : IterationOrder) (nonce : UInt64) : TxList strict × List Transaction :=
  list.take (list.txs.filter evm order (fun tx => tx.nonce > nonce) laterScope)

/-- The lowest of some nonces, `MaxUint64` without any. -/
def lowestNonce (removed : List Transaction) : UInt64 :=
  removed.foldl (fun lowest tx => if lowest > tx.nonce then tx.nonce else lowest)
    (UInt64.ofNat maxUint64)

def withinCaps (costLimit : Int) (gasLimit : Nat) : Bool :=
  list.costcap ≤ costLimit && list.gascap ≤ gasLimit

/-- The predicate that `Filter` starts with. -/
def exceeds (costLimit : Int) (gasLimit : Nat) (tx : Transaction) : Bool :=
  tx.cost > costLimit || tx.gas > gasLimit

/-- The nonces that the first pass of `Filter` takes out. -/
def unpayable (order : IterationOrder) (costLimit : Int) (scope : FilterScope) : List UInt64 :=
  list.txs.filter evm order (exceeds costLimit scope.gasLimit) scope

/-- The list after the first pass of `Filter`, with its caps lowered. -/
def lowered (order : IterationOrder) (costLimit : Int) (scope : FilterScope) : TxList strict where
  txs := list.txs.drop (list.unpayable evm order costLimit scope)
  costcap := costLimit
  gascap := scope.gasLimit
  gasCapped := by
    intro tx holds
    refine TxSortedMap.gas_le_of_holds_filter evm ?_ holds
    intro other exceedsGas
    exact Bool.or_eq_true_iff.2 (.inr exceedsGas)

/-- `Filter`: the list, the removed transactions and the invalidated ones. -/
def filter (first second : IterationOrder) (costLimit : Int) (scope : FilterScope) :
    TxList strict × List Transaction × List Transaction :=
  if list.withinCaps costLimit scope.gasLimit then (list, [], [])
  else
    let kept := list.lowered evm first costLimit scope
    let removed := list.txs.pick (list.unpayable evm first costLimit scope)
    if strict ∧ removed ≠ [] then
      let (left, invalids) := kept.dropLater evm second (lowestNonce removed)
      (left, removed, invalids)
    else (kept, removed, [])

/-- `Remove`: the list, whether there was one, and the invalidated ones. -/
def remove (order : IterationOrder) (tx : Transaction) : TxList strict × Bool × List Transaction :=
  match list.txs.get tx.nonce with
  | none => (list, false, [])
  | some _ =>
    let kept := list.drop [tx.nonce]
    if strict then
      let (left, invalids) := kept.dropLater evm order tx.nonce
      (left, true, invalids)
    else (kept, true, [])

end TxList

end EscSideChain.Core
