import EscSideChain.EventRuns
import EscSideChain.PbftHeader
import Mathlib.Data.List.AList

namespace EscSideChain.Dpos

open Pbft

/-!
# The block pool

`dpos/blockpool.go`: blocks waiting for a confirm, by seal hash, and the confirms that
arrived for them.  Go maps are association lists; the order in which a loop goes through a
map is left open and given as an `IterationOrder`.
-/

abbrev GoMap (Key Value : Type) :=
  AList fun _ : Key => Value

structure IterationOrder where
  arrange : {Entry : Type} → List Entry → List Entry
  perm : ∀ {Entry : Type} (entries : List Entry), (arrange entries).Perm entries

def IterationOrder.stored : IterationOrder where
  arrange entries := entries
  perm entries := List.Perm.refl entries

namespace GoMap

variable {Key Value : Type}

def iterate (order : IterationOrder) (map : GoMap Key Value) : List (Key × Value) :=
  (order.arrange map.entries).map fun entry => (entry.1, entry.2)

/-- The number of entries, `len(map)`. -/
def len (map : GoMap Key Value) : Nat :=
  map.entries.length

def values (map : GoMap Key Value) : List Value :=
  map.entries.map fun entry => entry.2

@[simp] theorem length_iterate {order : IterationOrder} {map : GoMap Key Value} :
    (iterate order map).length = map.len := by
  rw [iterate, List.length_map]
  exact (order.perm map.entries).length_eq

theorem nodup_keys_iterate {order : IterationOrder} {map : GoMap Key Value} :
    ((iterate order map).map Prod.fst).Nodup := by
  have keys : (iterate order map).map Prod.fst = (order.arrange map.entries).keys := by
    rw [iterate, List.map_map]
    rfl
  rw [keys]
  exact ((order.perm map.entries).map Sigma.fst).nodup_iff.2 map.nodupKeys

theorem len_eq_length_keys (map : GoMap Key Value) : map.len = map.keys.length := by
  simp [len, AList.keys, List.keys]

variable [DecidableEq Key]

theorem len_erase_lt {map : GoMap Key Value} {key : Key}
    (found : (map.lookup key).isSome = true) : GoMap.len (map.erase key) < map.len := by
  have member : key ∈ map.keys := by rwa [← AList.mem_keys, ← AList.lookup_isSome]
  rw [len_eq_length_keys, len_eq_length_keys, AList.keys_erase, List.length_erase_of_mem member]
  exact Nat.sub_one_lt (List.length_pos_of_mem member).ne'

def deleteWhere (condition : Key → Value → Bool) (map : GoMap Key Value) : GoMap Key Value where
  entries := map.entries.filter fun entry =>
    !condition entry.1 entry.2
  nodupKeys := map.nodupKeys.sublist List.filter_sublist

theorem lookup_of_lookup_deleteWhere {condition : Key → Value → Bool} {map : GoMap Key Value}
    {key : Key} {value : Value} (found : (deleteWhere condition map).lookup key = some value) :
    map.lookup key = some value := by
  rw [← Option.mem_def, AList.mem_lookup_iff] at found ⊢
  exact List.mem_of_mem_filter found

theorem lookup_deleteWhere_eq_some {condition : Key → Value → Bool} {map : GoMap Key Value}
    {key : Key} {value : Value} :
    (deleteWhere condition map).lookup key = some value ↔
      map.lookup key = some value ∧ condition key value = false := by
  simp only [← Option.mem_def, AList.mem_lookup_iff, deleteWhere,
    List.mem_filter, Bool.not_eq_true']

theorem lookup_erase_eq_some {map : GoMap Key Value} {key other : Key} {value : Value} :
    (map.erase key).lookup other = some value ↔ other ≠ key ∧ map.lookup other = some value := by
  by_cases same : other = key
  · subst same
    simp
  · simp [same, AList.lookup_erase_ne same]

theorem mem_iterate {order : IterationOrder} {map : GoMap Key Value} {key : Key} {value : Value} :
    (key, value) ∈ iterate order map ↔ map.lookup key = some value := by
  unfold iterate
  rw [List.mem_map, ← Option.mem_def, AList.mem_lookup_iff]
  constructor
  · rintro ⟨entry, member, same⟩
    cases same
    exact (order.perm map.entries).mem_iff.mp member
  · intro member
    exact ⟨⟨key, value⟩, (order.perm map.entries).mem_iff.mpr member, rfl⟩

theorem nodup_map_iterate {Feature : Type} {order : IterationOrder} {map : GoMap Key Value}
    {feature : Value → Feature}
    (separates : ∀ key value otherKey otherValue, map.lookup key = some value →
      map.lookup otherKey = some otherValue → feature value = feature otherValue → key = otherKey) :
    (((iterate order map).map Prod.snd).map feature).Nodup := by
  rw [List.map_map]
  refine List.Nodup.map_on ?_ (List.Nodup.of_map Prod.fst nodup_keys_iterate)
  rintro ⟨key, value⟩ member ⟨otherKey, otherValue⟩ otherMember same
  have found := mem_iterate.1 member
  have otherFound := mem_iterate.1 otherMember
  obtain rfl := separates key value otherKey otherValue found otherFound same
  rw [Option.some.inj (found.symm.trans otherFound)]

theorem mem_values {map : GoMap Key Value} {value : Value} :
    value ∈ map.values ↔ ∃ key, map.lookup key = some value := by
  unfold values
  rw [List.mem_map]
  constructor
  · rintro ⟨⟨key, stored⟩, member, same⟩
    cases same
    exact ⟨key, AList.mem_lookup_iff.2 member⟩
  · rintro ⟨key, found⟩
    exact ⟨⟨key, value⟩, AList.mem_lookup_iff.1 found, rfl⟩

theorem lookup_insert_cases {map : GoMap Key Value} {key other : Key} {value stored : Value}
    (found : (map.insert key value).lookup other = some stored) :
    other = key ∧ stored = value ∨ map.lookup other = some stored := by
  by_cases isNew : other = key
  · rw [isNew, AList.lookup_insert] at found
    exact .inl ⟨isNew, (Option.some.inj found).symm⟩
  rw [AList.lookup_insert_ne isNew] at found
  exact .inr found

theorem isSome_lookup_insert {map : GoMap Key Value} {key other : Key} {value : Value} :
    ((map.insert key value).lookup other).isSome = true ↔
      other = key ∨ (map.lookup other).isSome = true := by
  rw [AList.lookup_isSome, AList.lookup_isSome]
  exact AList.mem_insert map

theorem len_insert_new {map : GoMap Key Value} {key : Key} {value : Value}
    (missing : map.lookup key = none) : len (map.insert key value) = map.len + 1 := by
  have absent : key ∉ map.keys := by rwa [← AList.mem_keys, ← AList.lookup_eq_none]
  rw [len_eq_length_keys, len_eq_length_keys, AList.keys_insert,
    List.length_cons, List.erase_of_not_mem absent]

theorem len_insert_known {map : GoMap Key Value} {key : Key} {value : Value}
    (found : (map.lookup key).isSome = true) : len (map.insert key value) = map.len := by
  have member : key ∈ map.keys := by rwa [← AList.mem_keys, ← AList.lookup_isSome]
  rw [len_eq_length_keys, len_eq_length_keys, AList.keys_insert,
    List.length_cons, List.length_erase_of_mem member,
    Nat.sub_one_add_one (List.length_pos_of_mem member).ne']

theorem map_snd_iterate_eq_replicate {order : IterationOrder} {map : GoMap Key Value}
    {value : Value} (same : ∀ key stored, map.lookup key = some stored → stored = value) :
    (iterate order map).map Prod.snd = List.replicate map.len value := by
  rw [List.eq_replicate_iff, List.length_map, length_iterate]
  refine ⟨rfl, fun stored member => ?_⟩
  obtain ⟨⟨key, visited⟩, inMap, rfl⟩ := List.mem_map.1 member
  exact same key visited (mem_iterate.1 inMap)

end GoMap

def blockHeight (block : Header) : UInt64 :=
  UInt64.ofNat (block.number.getD 0)

/-- The maps of `dpos.BlockPool`. -/
structure BlockPool where
  blocks : GoMap Hash Header
  confirms : GoMap Hash Confirm
  heightConfirms : GoMap UInt64 Confirm
  badBlocks : GoMap Hash Header
  futureBlocks : GoMap Hash Header

namespace BlockPool

def empty : BlockPool :=
  ⟨∅, ∅, ∅, ∅, ∅⟩

def isBadBlockProposal (pool : BlockPool) (proposal : DPOSProposal) : Bool :=
  (pool.badBlocks.lookup proposal.blockHash).isSome

/-- `AddBadBlock`, whose error its caller drops. -/
def addBadBlock (sealHash : Header → Hash) (pool : BlockPool) (block : Header) : BlockPool :=
  if (pool.badBlocks.lookup (sealHash block)).isSome then pool
  else
    { pool with
      badBlocks := pool.badBlocks.insert (sealHash block) block }

/-- `AppendFutureBlock`, whose error its caller drops. -/
def appendFutureBlock (sealHash : Header → Hash) (pool : BlockPool) (block : Header) : BlockPool :=
  if (pool.futureBlocks.lookup (sealHash block)).isSome then pool
  else
    { pool with
      futureBlocks := pool.futureBlocks.insert (sealHash block) block }

def appendDposBlock (sealHash : Header → Hash) (verifyBlock : Header → Except HeaderError Unit)
    (pool : BlockPool) (block : Header) : BlockPool × Except HeaderError Unit :=
  let hash := sealHash block
  if (pool.blocks.lookup hash).isSome then (pool, .error (.other "duplicate block in pool"))
  else
    match verifyBlock block with
    | .error reason => (pool, .error reason)
    | .ok () =>
      ({ pool with
          blocks := pool.blocks.insert hash block
          futureBlocks := pool.futureBlocks.erase hash },
        .ok ())

/-- `HandleParentBlock`, whose answer only sets off a request. -/
def handleParentBlock (sealHash : Header → Hash) (verifyBlock : Header → Except HeaderError Unit)
    (order : IterationOrder) (pool : BlockPool) (parentHeight : UInt64) : BlockPool :=
  match (GoMap.iterate order pool.futureBlocks).find? fun entry =>
      blockHeight entry.2 - 1 = parentHeight with
  | none => pool
  | some (_, block) => (pool.appendDposBlock sealHash verifyBlock block).1

/-- `AppendConfirm` with `confirmBlock`. -/
def appendConfirm (verifyConfirm : Confirm → UInt64 → Except String Unit) (pool : BlockPool)
    (confirm : Confirm) : BlockPool × Except String Unit :=
  let hash := confirm.proposal.blockHash
  if (pool.confirms.lookup hash).isSome then
    (pool, .error "conformation is all ready in block pool")
  else
    match pool.blocks.lookup hash with
    | none => (pool, .error "appennd confirm error, not have DBlock")
    | some block =>
      match verifyConfirm confirm block.nonce with
      | .error reason => (pool, .error reason)
      | .ok () =>
        ({ pool with
            confirms := pool.confirms.insert hash confirm
            heightConfirms :=
              pool.heightConfirms.insert (blockHeight block) confirm },
          .ok ())

def cachedCount : UInt64 := 6

def isStale (height blockHeight : UInt64) : Bool :=
  height > cachedCount && blockHeight < height - cachedCount

def cleanFinalConfirmedBlock (sealHash : Header → Hash) (pool : BlockPool)
    (height : UInt64) : BlockPool :=
  let stale := pool.blocks.values.filter fun block =>
    isStale height (blockHeight block)
  let dropped := stale.map sealHash
  let bad := (pool.badBlocks.values.filter fun block =>
    isStale height (blockHeight block)).map sealHash
  { pool with
    blocks := GoMap.deleteWhere (fun hash _ => dropped.contains hash) pool.blocks
    confirms := GoMap.deleteWhere (fun hash _ => dropped.contains hash) pool.confirms
    badBlocks := GoMap.deleteWhere (fun hash _ => bad.contains hash) pool.badBlocks
    heightConfirms := GoMap.deleteWhere (fun confirmed _ => isStale height confirmed)
      pool.heightConfirms }

end BlockPool

/-! ## Runs of the pool -/

/--
An operation that changes the blocks of the pool.  A check of a block is made by
the engine as it is at that moment, so it comes with the operation.
-/
inductive PoolEvent where
  | appendDposBlock (verifyBlock : Header → Except HeaderError Unit) (block : Header)
  | appendFutureBlock (block : Header)
  | addBadBlock (block : Header)
  | handleParentBlock (verifyBlock : Header → Except HeaderError Unit) (order : IterationOrder)
      (parentHeight : UInt64)
  | cleanFinalConfirmedBlock (height : UInt64)

/-- The blocks that an operation may put among the blocks of the pool. -/
def PoolEvent.Accepts : PoolEvent → Header → Prop
  | .appendDposBlock verifyBlock given, block => block = given ∧ verifyBlock block = .ok ()
  | .handleParentBlock verifyBlock _ _, block => verifyBlock block = .ok ()
  | _, _ => False

namespace BlockPool

variable {sealHash : Header → Hash}

def handle (sealHash : Header → Hash) (pool : BlockPool) : PoolEvent → BlockPool
  | .appendDposBlock verifyBlock block => (pool.appendDposBlock sealHash verifyBlock block).1
  | .appendFutureBlock block => pool.appendFutureBlock sealHash block
  | .addBadBlock block => pool.addBadBlock sealHash block
  | .handleParentBlock verifyBlock order parentHeight =>
    pool.handleParentBlock sealHash verifyBlock order parentHeight
  | .cleanFinalConfirmedBlock height => pool.cleanFinalConfirmedBlock sealHash height

theorem lookup_appendDposBlock {verifyBlock : Header → Except HeaderError Unit} {pool : BlockPool}
    {given block : Header} {hash : Hash}
    (found : (pool.appendDposBlock sealHash verifyBlock given).1.blocks.lookup hash = some block) :
    pool.blocks.lookup hash = some block ∨ sealHash block = hash ∧ block = given ∧
        verifyBlock block = .ok () := by
  unfold appendDposBlock at found
  dsimp only at found
  split at found
  · exact .inl found
  cases checked : verifyBlock given with
  | error reason =>
    rw [checked] at found
    exact .inl found
  | ok passed =>
    rw [checked] at found
    rcases GoMap.lookup_insert_cases found with ⟨rfl, rfl⟩ | before
    · exact .inr ⟨rfl, rfl, checked⟩
    · exact .inl before

theorem lookup_handle {pool : BlockPool} {event : PoolEvent} {block : Header} {hash : Hash}
    (found : (pool.handle sealHash event).blocks.lookup hash = some block) :
    pool.blocks.lookup hash = some block ∨ sealHash block = hash ∧ event.Accepts block := by
  cases event with
  | appendDposBlock verifyBlock given => exact lookup_appendDposBlock found
  | appendFutureBlock given =>
    simp only [handle, appendFutureBlock] at found
    split at found <;> exact .inl found
  | addBadBlock given =>
    simp only [handle, addBadBlock] at found
    split at found <;> exact .inl found
  | handleParentBlock verifyBlock order parentHeight =>
    simp only [handle, handleParentBlock] at found
    split at found
    · exact .inl found
    rcases lookup_appendDposBlock found with before | ⟨sealed, _, checked⟩
    · exact .inl before
    · exact .inr ⟨sealed, checked⟩
  | cleanFinalConfirmedBlock height => exact .inl (GoMap.lookup_of_lookup_deleteWhere found)

theorem lookup_run {events : List PoolEvent} {block : Header} {hash : Hash}
    (found : (EventRuns.run (handle sealHash) empty events).blocks.lookup hash = some block) :
    sealHash block = hash ∧ ∃ event ∈ events, event.Accepts block := by
  let Accounted (pool : BlockPool) : Prop :=
    ∀ hash block, pool.blocks.lookup hash = some block →
      sealHash block = hash ∧ ∃ event ∈ events, event.Accepts block
  have preserved : ∀ pool, ∀ event ∈ events,
      Accounted pool → Accounted (pool.handle sealHash event) := by
    intro pool event member accounted hash block found
    rcases lookup_handle found with before | ⟨sealed, accepted⟩
    · exact accounted hash block before
    · exact ⟨sealed, event, member, accepted⟩
  have initially : Accounted empty := by
    intro hash block nothing
    cases nothing
  exact EventRuns.run_invariant_of_mem preserved initially hash block found

end BlockPool

end EscSideChain.Dpos
