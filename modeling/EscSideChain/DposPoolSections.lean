import EscSideChain.DposBlockPool
import EscSideChain.Interleaving

namespace EscSideChain.Dpos

open Pbft Interleaving

/-!
# The sections of the block pool

`dpos/blockpool.go` takes the lock of the pool for one section at a time.  `AppendConfirm`
has four of them, with the check of the confirm between the second and the third,
`AppendDposBlock` has two, with the check of the block between them, and the other
operations have one.
-/

namespace BlockPool

def removeConfirm (pool : BlockPool) (hash : Hash) : BlockPool :=
  { pool with confirms := pool.confirms.erase hash }

def addToBlockMap (sealHash : Header → Hash) (pool : BlockPool) (block : Header) : BlockPool :=
  { pool with blocks := pool.blocks.insert (sealHash block) block }

/-- `AddToConfirmMap`, which is also the third section of `AppendConfirm`. -/
def addToConfirmMap (pool : BlockPool) (confirm : Confirm) : BlockPool :=
  { pool with
    confirms :=
      pool.confirms.insert confirm.proposal.blockHash confirm }

/-- `confirmBlock`, the last section of `AppendConfirm`. -/
def confirmBlock (pool : BlockPool) (hash : Hash) : BlockPool × Except String Unit :=
  match pool.blocks.lookup hash with
  | none => (pool, .error "there is no block in pool when confirming block")
  | some block =>
    match pool.confirms.lookup hash with
    | none => (pool, .error "there is no block confirmation in pool when confirming block")
    | some confirm =>
      ({ pool with
          heightConfirms := pool.heightConfirms.insert (blockHeight block) confirm },
        .ok ())

/-- The last section of `AppendDposBlock`. -/
def putBlock (sealHash : Header → Hash) (pool : BlockPool) (block : Header) : BlockPool :=
  { pool with
    blocks := pool.blocks.insert (sealHash block) block
    futureBlocks := pool.futureBlocks.erase (sealHash block) }

end BlockPool

/--
A call of the pool at the section that it runs next.  The first section of a
call bears its name; `getBlock`, `putConfirm` and `confirmBlock` are the later
sections of `AppendConfirm`, and `putBlock` is the later one of
`AppendDposBlock`.
-/
inductive PoolCall where
  | appendConfirm (verifyConfirm : Confirm → UInt64 → Except String Unit) (confirm : Confirm)
  | getBlock (verifyConfirm : Confirm → UInt64 → Except String Unit) (confirm : Confirm)
  | putConfirm (confirm : Confirm)
  | confirmBlock (hash : Hash)
  | appendDposBlock (verifyBlock : Header → Except HeaderError Unit) (block : Header)
  | putBlock (block : Header)
  | removeConfirm (hash : Hash)
  | cleanFinalConfirmedBlock (height : UInt64)
  | handleParentBlock (verifyBlock : Header → Except HeaderError Unit) (order : IterationOrder)
      (parentHeight : UInt64)
  | addBadBlock (block : Header)
  | appendFutureBlock (block : Header)
  | addToBlockMap (block : Header)
  | addToConfirmMap (confirm : Confirm)

namespace PoolCall

variable (sealHash : Header → Hash)

def advance : PoolCall → BlockPool → BlockPool × Option PoolCall
  | .appendConfirm verifyConfirm confirm, pool =>
    if (pool.confirms.lookup confirm.proposal.blockHash).isSome then (pool, none)
    else (pool, some (.getBlock verifyConfirm confirm))
  | .getBlock verifyConfirm confirm, pool =>
    match pool.blocks.lookup confirm.proposal.blockHash with
    | none => (pool, none)
    | some block =>
      match verifyConfirm confirm block.nonce with
      | .error _ => (pool, none)
      | .ok () => (pool, some (.putConfirm confirm))
  | .putConfirm confirm, pool =>
    (pool.addToConfirmMap confirm, some (.confirmBlock confirm.proposal.blockHash))
  | .confirmBlock hash, pool => ((pool.confirmBlock hash).1, none)
  | .appendDposBlock verifyBlock block, pool =>
    if (pool.blocks.lookup (sealHash block)).isSome then (pool, none)
    else
      match verifyBlock block with
      | .error _ => (pool, none)
      | .ok () => (pool, some (.putBlock block))
  | .putBlock block, pool => (pool.putBlock sealHash block, none)
  | .removeConfirm hash, pool => (pool.removeConfirm hash, none)
  | .cleanFinalConfirmedBlock height, pool => (pool.cleanFinalConfirmedBlock sealHash height, none)
  | .handleParentBlock verifyBlock order parentHeight, pool =>
    match (GoMap.iterate order pool.futureBlocks).find? fun entry =>
        blockHeight entry.2 - 1 = parentHeight with
    | none => (pool, none)
    | some (_, block) => (pool, some (.appendDposBlock verifyBlock block))
  | .addBadBlock block, pool => (pool.addBadBlock sealHash block, none)
  | .appendFutureBlock block, pool => (pool.appendFutureBlock sealHash block, none)
  | .addToBlockMap block, pool => (pool.addToBlockMap sealHash block, none)
  | .addToConfirmMap confirm, pool => (pool.addToConfirmMap confirm, none)

inductive Effect (pool : BlockPool) : PoolCall → BlockPool × Option PoolCall → Prop where
  | looks {call : PoolCall} {next : Option PoolCall}
      (unfinished : ∀ hash, call ≠ .confirmBlock hash) : Effect pool call (pool, next)
  | putConfirm (confirm : Confirm) :
      Effect pool (.putConfirm confirm)
        (pool.addToConfirmMap confirm, some (.confirmBlock confirm.proposal.blockHash))
  | confirmBlock (hash : Hash) : Effect pool (.confirmBlock hash) ((pool.confirmBlock hash).1, none)
  | putBlock (block : Header) : Effect pool (.putBlock block) (pool.putBlock sealHash block, none)
  | removeConfirm (hash : Hash) : Effect pool (.removeConfirm hash) (pool.removeConfirm hash, none)
  | cleanFinalConfirmedBlock (height : UInt64) :
      Effect pool (.cleanFinalConfirmedBlock height)
        (pool.cleanFinalConfirmedBlock sealHash height, none)
  | addBadBlock (block : Header) :
      Effect pool (.addBadBlock block) (pool.addBadBlock sealHash block, none)
  | appendFutureBlock (block : Header) :
      Effect pool (.appendFutureBlock block) (pool.appendFutureBlock sealHash block, none)
  | addToBlockMap (block : Header) :
      Effect pool (.addToBlockMap block) (pool.addToBlockMap sealHash block, none)
  | addToConfirmMap (confirm : Confirm) :
      Effect pool (.addToConfirmMap confirm) (pool.addToConfirmMap confirm, none)

theorem effect_advance (call : PoolCall) (pool : BlockPool) :
    Effect sealHash pool call (call.advance sealHash pool) := by
  cases call with
  | appendConfirm verifyConfirm confirm =>
    simp only [advance]
    split <;> exact .looks (by simp)
  | getBlock verifyConfirm confirm =>
    simp only [advance]
    rcases pool.blocks.lookup confirm.proposal.blockHash with - | block
    · exact .looks (by simp)
    · dsimp only
      rcases verifyConfirm confirm block.nonce with - | -
      · exact .looks (by simp)
      · exact .looks (by simp)
  | putConfirm confirm => exact .putConfirm confirm
  | confirmBlock hash => exact .confirmBlock hash
  | appendDposBlock verifyBlock block =>
    simp only [advance]
    split
    · exact .looks (by simp)
    rcases verifyBlock block with - | -
    · exact .looks (by simp)
    · exact .looks (by simp)
  | putBlock block => exact .putBlock block
  | removeConfirm hash => exact .removeConfirm hash
  | cleanFinalConfirmedBlock height => exact .cleanFinalConfirmedBlock height
  | handleParentBlock verifyBlock order parentHeight =>
    simp only [advance]
    split <;> exact .looks (by simp)
  | addBadBlock block => exact .addBadBlock block
  | appendFutureBlock block => exact .appendFutureBlock block
  | addToBlockMap block => exact .addToBlockMap block
  | addToConfirmMap confirm => exact .addToConfirmMap confirm

end PoolCall

/-! ## Cleaning -/

variable {pool : BlockPool}

namespace BlockPool

variable {sealHash : Header → Hash}

/--
The blocks and the bad blocks stand under their seal hashes, and the confirms
under the hashes of the blocks they are for.
-/
structure Keyed (sealHash : Header → Hash) (pool : BlockPool) : Prop where
  blocks : ∀ hash block, pool.blocks.lookup hash = some block → sealHash block = hash
  badBlocks : ∀ hash block, pool.badBlocks.lookup hash = some block → sealHash block = hash
  confirms : ∀ hash confirm, pool.confirms.lookup hash = some confirm →
      confirm.proposal.blockHash = hash

theorem contains_staleHashes {map : GoMap Hash Header}
    (keyed : ∀ hash block, map.lookup hash = some block → sealHash block = hash) (height : UInt64)
    (hash : Hash) : ((map.values.filter fun block =>
        isStale height (blockHeight block)).map sealHash).contains hash = true ↔
      ∃ block, map.lookup hash = some block ∧ isStale height (blockHeight block) = true := by
  rw [List.contains_iff_mem, List.mem_map]
  constructor
  · rintro ⟨block, member, rfl⟩
    obtain ⟨stored, stale⟩ := List.mem_filter.1 member
    obtain ⟨key, found⟩ := GoMap.mem_values.1 stored
    rw [keyed key block found]
    exact ⟨block, found, stale⟩
  · rintro ⟨block, found, stale⟩
    exact ⟨block, List.mem_filter.2 ⟨GoMap.mem_values.2 ⟨hash, found⟩, stale⟩,
      keyed hash block found⟩

theorem lookup_deleteStale {map : GoMap Hash Header}
    (keyed : ∀ hash block, map.lookup hash = some block → sealHash block = hash) {height : UInt64}
    {hash : Hash} {block : Header} :
    (GoMap.deleteWhere (fun hash _ => ((map.values.filter fun block =>
        isStale height (blockHeight block)).map sealHash).contains hash) map).lookup hash =
        some block ↔
      map.lookup hash = some block ∧ isStale height (blockHeight block) = false := by
  refine GoMap.lookup_deleteWhere_eq_some.trans (and_congr_right fun found => ?_)
  rw [← Bool.not_eq_true, contains_staleHashes keyed]
  simp [found]

theorem lookup_blocks_clean (keyed : pool.Keyed sealHash) {height : UInt64}
    {hash : Hash} {block : Header} :
    (pool.cleanFinalConfirmedBlock sealHash height).blocks.lookup hash = some block ↔
      pool.blocks.lookup hash = some block ∧ isStale height (blockHeight block) = false :=
  lookup_deleteStale keyed.blocks

theorem lookup_confirms_clean (keyed : pool.Keyed sealHash) {height : UInt64}
    {hash : Hash} {confirm : Confirm} :
    (pool.cleanFinalConfirmedBlock sealHash height).confirms.lookup hash = some confirm ↔
      pool.confirms.lookup hash = some confirm ∧ ∀ block, pool.blocks.lookup hash = some block →
          isStale height (blockHeight block) = false := by
  refine GoMap.lookup_deleteWhere_eq_some.trans (and_congr_right fun _ => ?_)
  rw [← Bool.not_eq_true, contains_staleHashes keyed.blocks]
  simp

theorem lookup_heightConfirms_clean {height confirmed : UInt64} {confirm : Confirm} :
    (pool.cleanFinalConfirmedBlock sealHash height).heightConfirms.lookup confirmed = some confirm ↔
      pool.heightConfirms.lookup confirmed = some confirm ∧ isStale height confirmed = false :=
  GoMap.lookup_deleteWhere_eq_some

theorem keyed_insert {map : GoMap Hash Header}
    (keyed : ∀ hash block, map.lookup hash = some block → sealHash block = hash) (given : Header)
    (hash : Hash) (block : Header)
    (found : (map.insert (sealHash given) given).lookup hash = some block) :
    sealHash block = hash := by
  rcases GoMap.lookup_insert_cases found with ⟨rfl, rfl⟩ | before
  · rfl
  · exact keyed hash block before

theorem Keyed.addToConfirmMap (keyed : pool.Keyed sealHash) (confirm : Confirm) :
    (pool.addToConfirmMap confirm).Keyed sealHash where
  blocks := keyed.blocks
  badBlocks := keyed.badBlocks
  confirms := by
    intro hash stored found
    rcases GoMap.lookup_insert_cases found with ⟨rfl, rfl⟩ | before
    · rfl
    · exact keyed.confirms hash stored before

theorem Keyed.advance (keyed : pool.Keyed sealHash) (call : PoolCall) :
    (call.advance sealHash pool).1.Keyed sealHash := by
  have effect := PoolCall.effect_advance sealHash call pool
  generalize call.advance sealHash pool = result at effect
  cases effect with
  | looks _ => exact keyed
  | putConfirm confirm => exact keyed.addToConfirmMap confirm
  | confirmBlock hash =>
    unfold confirmBlock
    rcases pool.blocks.lookup hash with - | block
    · exact keyed
    · dsimp only
      rcases pool.confirms.lookup hash with - | confirm
      · exact keyed
      · exact ⟨keyed.blocks, keyed.badBlocks, keyed.confirms⟩
  | putBlock block => exact ⟨keyed_insert keyed.blocks block, keyed.badBlocks, keyed.confirms⟩
  | removeConfirm hash =>
    exact ⟨keyed.blocks, keyed.badBlocks,
      fun other confirm found =>
        keyed.confirms other confirm (GoMap.lookup_erase_eq_some.1 found).2⟩
  | cleanFinalConfirmedBlock height =>
    exact ⟨fun hash block found =>
        keyed.blocks hash block (GoMap.lookup_of_lookup_deleteWhere found),
      fun hash block found =>
        keyed.badBlocks hash block (GoMap.lookup_of_lookup_deleteWhere found),
      fun hash confirm found =>
        keyed.confirms hash confirm (GoMap.lookup_of_lookup_deleteWhere found)⟩
  | addBadBlock block =>
    unfold addBadBlock
    split
    · exact keyed
    · exact ⟨keyed.blocks, keyed_insert keyed.badBlocks block, keyed.confirms⟩
  | appendFutureBlock block =>
    unfold appendFutureBlock
    split
    · exact keyed
    · exact ⟨keyed.blocks, keyed.badBlocks, keyed.confirms⟩
  | addToBlockMap block => exact ⟨keyed_insert keyed.blocks block, keyed.badBlocks, keyed.confirms⟩
  | addToConfirmMap confirm => exact keyed.addToConfirmMap confirm

theorem keyed_empty : empty.Keyed sealHash := by
  refine ⟨?_, ?_, ?_⟩ <;>
  · intro hash entry nothing
    cases nothing

theorem keyed_run {Thread : Type*} [DecidableEq Thread] (turns : List (Turn Thread PoolCall)) :
    (EventRuns.run (step (PoolCall.advance sealHash))
      (World.idle empty) turns).shared.Keyed sealHash :=
  run_shared_invariant (fun _ call keyed => keyed.advance call) turns keyed_empty

def LeftFrom {Key Value : Type} [DecidableEq Key] (limit : UInt64)
    (belongs : Key → Value → UInt64 → Prop) (before after : GoMap Key Value) : Prop :=
  ∀ key value height, belongs key value height →
    (after.lookup key = some value ↔ before.lookup key = some value ∧ limit ≤ height)

/-- The five maps have lost all entries below a height, and nothing else. -/
structure CleanedBelow (sealHash : Header → Hash) (limit : UInt64)
    (before after : BlockPool) : Prop where
  blocks : LeftFrom limit (fun _ block height => blockHeight block = height)
    before.blocks after.blocks
  confirms : LeftFrom limit (fun hash _ height =>
      ∃ block, sealHash block = hash ∧ blockHeight block = height)
    before.confirms after.confirms
  badBlocks : LeftFrom limit (fun _ block height => blockHeight block = height)
    before.badBlocks after.badBlocks
  futureBlocks : LeftFrom limit (fun _ block height => blockHeight block = height)
    before.futureBlocks after.futureBlocks
  heightConfirms : LeftFrom limit (fun confirmed _ height => confirmed = height)
    before.heightConfirms after.heightConfirms

theorem isStale_eq_false_iff {height : UInt64} (high : 6 < height) (other : UInt64) :
    isStale height other = false ↔ height - 6 ≤ other := by
  have above : decide (height > cachedCount) = true := decide_eq_true high
  rw [isStale, above, Bool.true_and, decide_eq_false_iff_not, UInt64.not_lt]
  exact Iff.rfl

theorem cleanedBelow_iff (keyed : pool.Keyed sealHash)
    (heightSealed : ∀ first second, sealHash first = sealHash second →
        blockHeight first = blockHeight second)
    {height : UInt64}
    (high : 6 < height) :
    CleanedBelow sealHash (height - 6) pool (pool.cleanFinalConfirmedBlock sealHash height) ↔
      (∀ hash block, pool.futureBlocks.lookup hash = some block → height - 6 ≤ blockHeight block) ∧
      ∀ block confirm, pool.confirms.lookup (sealHash block) = some confirm →
          blockHeight block < height - 6 → (pool.blocks.lookup (sealHash block)).isSome := by
  constructor
  · intro cleaned
    constructor
    · intro hash block found
      exact ((cleaned.futureBlocks hash block _ rfl).1 found).2
    · intro block confirm found old
      by_contra missing
      have left : (pool.cleanFinalConfirmedBlock sealHash
          height).confirms.lookup (sealHash block) = some confirm := by
        refine (lookup_confirms_clean keyed).2 ⟨found, ?_⟩
        intro stored isStored
        simp [isStored] at missing
      have kept := ((cleaned.confirms _ confirm _ ⟨block, rfl, rfl⟩).1 left).2
      exact UInt64.not_lt.2 kept old
  · rintro ⟨noOldFuture, noOrphan⟩
    refine ⟨?_, ?_, ?_, ?_, ?_⟩
    · rintro hash block _ rfl
      rw [lookup_blocks_clean keyed, isStale_eq_false_iff high]
    · rintro _ confirm _ ⟨block, rfl, rfl⟩
      rw [lookup_confirms_clean keyed]
      refine and_congr_right fun found => ?_
      constructor
      · intro kept
        by_contra old
        obtain ⟨stored, isStored⟩ := Option.isSome_iff_exists.1
          (noOrphan block confirm found (UInt64.not_le.1 old))
        have sameHeight := heightSealed stored block (keyed.blocks _ stored isStored)
        have left := (isStale_eq_false_iff high _).1 (kept stored isStored)
        exact old (sameHeight ▸ left)
      · intro left stored isStored
        rw [isStale_eq_false_iff high, heightSealed stored block (keyed.blocks _ stored isStored)]
        exact left
    · rintro hash block _ rfl
      exact (lookup_deleteStale keyed.badBlocks).trans
        (and_congr_right fun _ => isStale_eq_false_iff high _)
    · rintro hash block _ rfl
      exact ⟨fun found => ⟨found, noOldFuture hash block found⟩, And.left⟩
    · rintro confirmed confirm _ rfl
      rw [lookup_heightConfirms_clean, isStale_eq_false_iff high]

/--
In a pool that some interleaving has filled, `CleanFinalConfirmedBlock` removes
exactly the entries that are more than six heights old if and only if there is no
future block among them, and every confirm among them has its block in the pool.
-/
theorem cleanFinalConfirmedBlock_exact_iff {Thread : Type*} [DecidableEq Thread]
    (heightSealed : ∀ first second, sealHash first = sealHash second →
        blockHeight first = blockHeight second)
    (turns : List (Turn Thread PoolCall))
    (pool : BlockPool)
    (reached : (EventRuns.run (step (PoolCall.advance sealHash))
      (World.idle empty) turns).shared = pool)
    (height : UInt64)
    (high : 6 < height) :
    CleanedBelow sealHash (height - 6) pool (pool.cleanFinalConfirmedBlock sealHash height) ↔
      (∀ hash block, pool.futureBlocks.lookup hash = some block → height - 6 ≤ blockHeight block) ∧
      ∀ block confirm, pool.confirms.lookup (sealHash block) = some confirm →
          blockHeight block < height - 6 → (pool.blocks.lookup (sealHash block)).isSome :=
  cleanedBelow_iff (reached ▸ keyed_run turns) heightSealed high

end BlockPool

namespace Sample

/-- A seal hash that shows the height of a block and the last byte of its time. -/
def heightSeal (header : Header) : Hash :=
  ⟨(List.range 8).map (fun place =>
      UInt8.ofNat ((blockHeight header).toNat / 256 ^ place)) ++
        header.time.toUInt8 :: List.replicate 23 0,
    by simp⟩

theorem mod_pow_eq_of_digits_eq {first second : Nat} (places : Nat)
    (digits : ∀ place < places, first / 256 ^ place % 256 = second / 256 ^ place % 256) :
    first % 256 ^ places = second % 256 ^ places := by
  induction places with
  | zero => rw [pow_zero, Nat.mod_one, Nat.mod_one]
  | succ places inductionHypothesis =>
    have lower := inductionHypothesis fun place low => digits place (Nat.lt_succ_of_lt low)
    rw [Nat.mod_pow_succ, Nat.mod_pow_succ, lower, digits places (Nat.lt_succ_self places)]

theorem blockHeight_eq_of_heightSeal_eq (first second : Header)
    (same : heightSeal first = heightSeal second) : blockHeight first = blockHeight second := by
  have bytes := congrArg List.Vector.toList same
  have digits : ∀ place < 8, (blockHeight first).toNat / 256 ^ place % 256 =
      (blockHeight second).toNat / 256 ^ place % 256 := by
    have heads := (List.append_inj bytes (by simp)).1
    intro place low
    have byte := List.map_inj_left.1 heads place (List.mem_range.2 low)
    simpa [← UInt8.toNat_inj] using byte
  have width : 2 ^ 64 = 256 ^ 8 := by norm_num
  have equal := mod_pow_eq_of_digits_eq 8 digits
  rw [← width, Nat.mod_eq_of_lt (blockHeight first).toNat_lt,
    Nat.mod_eq_of_lt (blockHeight second).toNat_lt] at equal
  exact UInt64.toNat_inj.1 equal

def poolBlock (height : Nat) (time : UInt64) : Header :=
  { Pbft.Sample.genesis with number := some height, time := time }

def poolConfirm (block : Header) : Confirm where
  proposal := {
    sponsor := [1]
    blockHash := heightSeal block
    viewOffset := 0
    sign := [] }
  votes := []

/-- The whole call of a thread, with as many turns as a call has sections. -/
def whole (thread : Fin 2) (call : PoolCall) : List (Turn (Fin 2) PoolCall) :=
  .start thread call :: List.replicate 4 (.resume thread)

def append (block : Header) : PoolCall :=
  .appendDposBlock (fun _ => .ok ()) block

def confirmOf (block : Header) : PoolCall :=
  .appendConfirm (fun _ _ => .ok ()) (poolConfirm block)

def poolAfter (turns : List (Turn (Fin 2) PoolCall)) : BlockPool :=
  (EventRuns.run (step (PoolCall.advance heightSeal)) (World.idle BlockPool.empty) turns).shared

/-- A block of height one and a block of height two, both with a confirm. -/
def confirmedTurns : List (Turn (Fin 2) PoolCall) :=
  whole 0 (append (poolBlock 1 0)) ++ whole 0 (append (poolBlock 2 0)) ++
    whole 0 (confirmOf (poolBlock 1 0)) ++ whole 0 (confirmOf (poolBlock 2 0))

def removedTurns : List (Turn (Fin 2) PoolCall) :=
  whole 0 (append (poolBlock 1 0)) ++ whole 0 (confirmOf (poolBlock 1 0)) ++
    whole 1 (.removeConfirm (heightSeal (poolBlock 1 0)))

def siblingTurns : List (Turn (Fin 2) PoolCall) :=
  whole 0 (append (poolBlock 1 0)) ++ whole 1 (append (poolBlock 1 1)) ++
    whole 0 (confirmOf (poolBlock 1 0))

def futureTurns : List (Turn (Fin 2) PoolCall) :=
  whole 0 (.appendFutureBlock (poolBlock 1 0))

/-- The block is cleaned away between the check of its confirm and its storing. -/
def orphanTurns : List (Turn (Fin 2) PoolCall) :=
  whole 0 (append (poolBlock 1 0)) ++
    [.start 0 (confirmOf (poolBlock 1 0)), .resume 0, .resume 0] ++
    whole 1 (.cleanFinalConfirmedBlock 8) ++ [.resume 0, .resume 0]

end Sample

open Sample

/-- Two confirmed blocks, of which the older one is cleaned away. -/
theorem cleanFinalConfirmedBlock_exact_confirmed :
    (poolAfter confirmedTurns).blocks.keys.length = 2 ∧
    BlockPool.CleanedBelow heightSeal (8 - 6) (poolAfter confirmedTurns)
      ((poolAfter confirmedTurns).cleanFinalConfirmedBlock heightSeal 8) := by
  have confirmed : ∀ hash confirm, (poolAfter confirmedTurns).confirms.lookup hash = some confirm →
      hash = heightSeal (poolBlock 1 0) ∨ hash = heightSeal (poolBlock 2 0) := by
    intro hash confirm found
    have member := AList.lookup_isSome.1 (Option.isSome_of_mem found)
    have keys : (poolAfter confirmedTurns).confirms.keys =
        [heightSeal (poolBlock 2 0), heightSeal (poolBlock 1 0)] := by
      decide +kernel
    rw [AList.mem_keys, keys] at member
    simpa [or_comm] using member
  refine ⟨by decide +kernel,
    (BlockPool.cleanFinalConfirmedBlock_exact_iff
      blockHeight_eq_of_heightSeal_eq confirmedTurns _ rfl 8 (by decide)).2 ⟨?_, ?_⟩⟩
  · intro hash block found
    have nothing : (poolAfter confirmedTurns).futureBlocks.keys = [] := by
      decide +kernel
    have member : hash ∈ (poolAfter confirmedTurns).futureBlocks :=
      AList.lookup_isSome.1 (Option.isSome_of_mem found)
    rw [AList.mem_keys, nothing] at member
    cases member
  · intro block confirm found _
    rcases confirmed _ confirm found with same | same
    · rw [same]
      decide +kernel
    · rw [same]
      decide +kernel

/--
An old future block stays, and so does the confirm of an old block that was
cleaned away before the confirm was stored.
-/
theorem cleanFinalConfirmedBlock_incomplete :
    ¬BlockPool.CleanedBelow heightSeal (8 - 6) (poolAfter futureTurns)
        ((poolAfter futureTurns).cleanFinalConfirmedBlock heightSeal 8) ∧
      ¬BlockPool.CleanedBelow heightSeal (8 - 6) (poolAfter orphanTurns)
        ((poolAfter orphanTurns).cleanFinalConfirmedBlock heightSeal 8) := by
  constructor
  · intro cleaned
    have left : ((poolAfter futureTurns).cleanFinalConfirmedBlock heightSeal
          8).futureBlocks.lookup (heightSeal (poolBlock 1 0)) =
        some (poolBlock 1 0) := by
      decide +kernel
    have recent := ((cleaned.futureBlocks _ _ _ rfl).1 left).2
    revert recent
    decide
  · intro cleaned
    have left : ((poolAfter orphanTurns).cleanFinalConfirmedBlock heightSeal
          8).confirms.lookup (heightSeal (poolBlock 1 0)) =
        some (poolConfirm (poolBlock 1 0)) := by
      decide +kernel
    have recent := ((cleaned.confirms _ _ _ ⟨poolBlock 1 0, rfl, rfl⟩).1 left).2
    revert recent
    decide

end EscSideChain.Dpos
