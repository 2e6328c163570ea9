import EscSideChain.PbftSealSoundness
import EscSideChain.PbftVoteOnce
import Mathlib.Data.Set.Function

namespace EscSideChain.Pbft

open Dpos

/-!
# Headers of blocks that are in the pool

`VerifyHeaders` of `consensus/pbft/pbft.go`.  A header whose seal hash is a key
of the block pool is not checked again: only its seal is.  What the shortcut
leaves out was checked when the block came into the pool, on a header with
possibly other extra data and against the parent that the chain had then.
-/

def Node.isInBlockPool (node : Node) (hash : Hash) : Bool :=
  (node.pool.blocks.lookup hash).isSome

/-- The node and its surroundings when the loop of `VerifyHeaders` takes a turn. -/
structure Occasion where
  node : Node
  moment : Moment

def Occasion.engine (setup : Setup) (occasion : Occasion) : Verifier :=
  occasion.node.verifier setup occasion.moment

/-- One turn of the loop of `VerifyHeaders`. -/
def verifyNextHeader (setup : Setup) (occasion : Occasion) (header : Header) (parents : List Header)
    (checkSeal : Bool) : Except HeaderError Unit :=
  if checkSeal ∧ header.time > occasion.moment.wallClock then .error .futureBlock
  else if occasion.node.isInBlockPool (setup.sealHash header) = false then
    (occasion.engine setup).verifyHeader occasion.moment.chain header parents checkSeal
  else (occasion.engine setup).verifySeal occasion.moment.chain header

/-- `VerifyHeaders`, each turn of which finds its own surroundings. -/
def verifyHeaders (setup : Setup) (occasions : Nat → Occasion) (headers : List Header)
    (seals : List Bool) : List (Except HeaderError Unit) :=
  headers.mapIdx fun index header =>
    verifyNextHeader setup (occasions index) header (headers.take index) (seals.getD index false)

/-! ## Batches and pools -/

def Follows (setup : Setup) (parent header : Header) : Prop :=
  parent.number.isSome = true ∧ blockHeight header = blockHeight parent + 1 ∧
    header.parentHash = setup.rlpHash (encodeHeader parent)

instance (setup : Setup) (parent header : Header) : Decidable (Follows setup parent header) :=
  inferInstanceAs (Decidable (_ ∧ _ ∧ _))

/-- A batch as the callers of `VerifyHeaders` make sure of it. -/
def Contiguous (setup : Setup) (headers : List Header) : Prop :=
  headers.IsChain (Follows setup)

/-- The call of `AppendDposBlock` for a block, with the engine at that time. -/
structure Filling where
  occasion : Occasion
  block : Header

def Filling.event (setup : Setup) (filling : Filling) : PoolEvent :=
  .appendDposBlock (filling.occasion.node.verifyBlock setup filling.occasion.moment) filling.block

/-- The pool that calls of `AppendDposBlock` fill. -/
def filledPool (setup : Setup) (fillings : List Filling) : BlockPool :=
  EventRuns.run (BlockPool.handle setup.sealHash) BlockPool.empty
    (fillings.map (Filling.event setup))

def storedParent (chain : ChainReader) (header : Header) : Option Header :=
  chain.getHeader header.parentHash (blockHeight header - 1)

def StoresParent (setup : Setup) (chain : ChainReader) (header : Header) : Prop :=
  ∃ parent, storedParent chain header = some parent ∧ Follows setup parent header

def sealedHeaders (fillings : List Filling) (headers : List Header) : Set Header :=
  { header | header ∈ headers ∨ ∃ filling ∈ fillings, filling.block = header }

def hashedHeaders (fillings : List Filling) (chain : ChainReader)
    (headers : List Header) : Set Header :=
  { parent | parent ∈ headers ∨
    (∃ filling ∈ fillings, storedParent filling.occasion.moment.chain filling.block = some parent) ∨
    ∃ header ∈ headers, storedParent chain header = some parent }

structure CollisionFree (setup : Setup) (fillings : List Filling) (chain : ChainReader)
    (headers : List Header) : Prop where
  sealHashes : Set.InjOn setup.rlpHash (encodeSigHeader '' sealedHeaders fillings headers)
  blockHashes : Set.InjOn setup.rlpHash (encodeHeader '' hashedHeaders fillings chain headers)

/-! ## What the encodings determine -/

/-- The fields that the checks of `verifyHeader` read, up to nil numbers. -/
structure SameChecks (first second : Header) : Prop where
  parentHash : first.parentHash = second.parentHash
  uncleHash : first.uncleHash = second.uncleHash
  difficulty : first.difficulty.getD 0 = second.difficulty.getD 0
  number : first.number.getD 0 = second.number.getD 0
  gasLimit : first.gasLimit = second.gasLimit
  gasUsed : first.gasUsed = second.gasUsed
  time : first.time = second.time
  mixDigest : first.mixDigest = second.mixDigest

theorem sameChecks_of_items {first second : Header}
    (leading : leadingItems first = leadingItems second)
    (trailing : trailingItems first = trailingItems second) : SameChecks first second := by
  simp only [leadingItems, List.cons.injEq, RlpItem.bytes.injEq,
    RlpItem.uint.injEq, UInt64.toNat_inj] at leading
  simp only [trailingItems, List.cons.injEq, RlpItem.bytes.injEq] at trailing
  obtain ⟨parentHash, uncleHash, -, -, -, -, -, difficulty, number,
    gasLimit, gasUsed, time, -⟩ := leading
  exact {
    parentHash := List.Vector.toList_injective parentHash
    uncleHash := List.Vector.toList_injective uncleHash
    difficulty := difficulty
    number := number
    gasLimit := gasLimit
    gasUsed := gasUsed
    time := time
    mixDigest := List.Vector.toList_injective trailing.1 }

theorem sameChecks_of_encodeHeader {first second : Header}
    (same : encodeHeader first = encodeHeader second) : SameChecks first second := by
  obtain ⟨leading, extraTrailing⟩ := List.append_inj same rfl
  exact sameChecks_of_items leading (List.cons.inj extraTrailing).2

theorem eq_some_of_getD_eq {optional : Option Nat} {value : Nat} (same : optional.getD 0 = value)
    (notZero : value ≠ 0) : optional = some value := by
  cases optional with
  | none => exact absurd same.symm notZero
  | some inner => exact congrArg some same

/-! ## What was checked before -/

theorem Node.verifyBlock_fieldsChecked {setup : Setup} {moment : Moment} {node : Node}
    {block : Header} (accepted : node.verifyBlock setup moment block = .ok ()) :
    ∃ bigNumber parent parentNumber,
      (node.verifier setup moment).FieldsChecked moment.chain block []
        false bigNumber parent parentNumber := by
  rw [← Verifier.verifyHeaderFields_eq_ok_iff]
  unfold verifyBlock Verifier.verifyHeader at accepted
  split at accepted
  · cases accepted
  next checked =>
    split at checked
    · cases checked
    · assumption

theorem exists_filling_of_isInBlockPool {setup : Setup} {fillings : List Filling} {node : Node}
    {header : Header} (filled : node.pool = filledPool setup fillings)
    (pooled : node.isInBlockPool (setup.sealHash header) = true) :
    ∃ filling ∈ fillings, setup.sealHash filling.block = setup.sealHash header ∧
        ∃ bigNumber parent parentNumber, (filling.occasion.engine setup).FieldsChecked
            filling.occasion.moment.chain filling.block [] false bigNumber parent parentNumber := by
  unfold Node.isInBlockPool at pooled
  rw [filled] at pooled
  obtain ⟨block, found⟩ := Option.isSome_iff_exists.1 pooled
  obtain ⟨sealed, event, member, accepted⟩ := BlockPool.lookup_run found
  obtain ⟨filling, filledWith, rfl⟩ := List.mem_map.1 member
  obtain ⟨rfl, checked⟩ := accepted
  exact ⟨filling, filledWith, sealed, Node.verifyBlock_fieldsChecked checked⟩

/-! ## The shortcut -/

theorem exists_parent {setup : Setup} {fillings : List Filling} {chain : ChainReader}
    {headers : List Header} {index : Nat} {header : Header} (contiguous : Contiguous setup headers)
    (stored : ∀ first, headers.head? = some first → StoresParent setup chain first)
    (inBatch : headers[index]? = some header) :
    ∃ parent, Verifier.findParent chain header (headers.take index)
          (blockHeight header) = some parent ∧
        Follows setup parent header ∧
        parent ∈ hashedHeaders fillings chain headers := by
  cases index with
  | zero =>
    -- Nothing stands before the first header, so the chain is asked.
    have isFirst : headers.head? = some header := by rw [List.head?_eq_getElem?, inBatch]
    obtain ⟨parent, found, follows⟩ := stored header isFirst
    refine ⟨parent, ?_, follows, .inr (.inr ⟨header, List.mem_of_getElem? inBatch, found⟩)⟩
    simpa [Verifier.findParent, storedParent] using found
  | succ before =>
    obtain ⟨inside, rfl⟩ := List.getElem?_eq_some_iff.1 inBatch
    have lastTaken : (headers.take (before + 1)).getLast? = some headers[before] := by
      rw [List.getLast?_take, if_neg (Nat.succ_ne_zero before), Nat.add_sub_cancel,
        List.getElem?_eq_getElem (Nat.lt_of_succ_lt inside)]
      rfl
    refine ⟨headers[before], ?_, List.IsChain.getElem contiguous before inside,
      .inl (List.getElem_mem _)⟩
    rw [Verifier.findParent, lastTaken]

theorem fieldsChecked_of_pooled {setup : Setup} {fillings : List Filling} {occasion : Occasion}
    {headers : List Header} {index : Nat} {header : Header}
    (collisionFree : CollisionFree setup fillings occasion.moment.chain headers)
    (filled : occasion.node.pool = filledPool setup fillings)
    (contiguous : Contiguous setup headers)
    (stored : ∀ first, headers.head? = some first → StoresParent setup occasion.moment.chain first)
    (inBatch : headers[index]? = some header)
    (pooled : occasion.node.isInBlockPool (setup.sealHash header) = true)
    (timely : header.time ≤ occasion.moment.wallClock) :
    (occasion.engine setup).verifyHeaderFields occasion.moment.chain
      header (headers.take index) true = .ok () := by
  obtain ⟨filling, member, sameSeal, bigNumber, oldParent, oldParentNumber, checked⟩ :=
    exists_filling_of_isInBlockPool filled pooled
  obtain ⟨leading, trailing⟩ := List.append_inj (collisionFree.sealHashes
    (Set.mem_image_of_mem _ (.inr ⟨filling, member, rfl⟩))
    (Set.mem_image_of_mem _ (.inl (List.mem_of_getElem? inBatch))) sameSeal) rfl
  have covered : SameChecks filling.block header := sameChecks_of_items leading trailing
  -- Neither the number nor the difficulty can be nil under this encoding.
  have numbered : header.number = some bigNumber := by
    refine eq_some_of_getD_eq ?_ fun zero =>
      checked.notGenesis (congrArg UInt64.ofNat zero)
    rw [← covered.number, checked.numbered, Option.getD_some]
  have difficulty : header.difficulty = some 2 := by
    refine eq_some_of_getD_eq ?_ (by decide)
    rw [← covered.difficulty, checked.difficulty, Option.getD_some]
  have height : blockHeight header = UInt64.ofNat bigNumber := by
    rw [blockHeight, numbered, Option.getD_some]
  obtain ⟨parent, found, ⟨parentKnown, follows, linked⟩, hashed⟩ :=
    exists_parent contiguous stored inBatch
  obtain ⟨parentNumber, parentNumbered⟩ := Option.isSome_iff_exists.1 parentKnown
  -- The parent of then and the parent of now have one hash.
  have oldFound : storedParent filling.occasion.moment.chain filling.block = some oldParent := by
    rw [storedParent, blockHeight, checked.numbered, Option.getD_some]
    exact checked.found
  have sameParent : SameChecks oldParent parent := by
    refine sameChecks_of_encodeHeader (collisionFree.blockHashes
      (Set.mem_image_of_mem _ (.inr (.inl ⟨filling, member, oldFound⟩)))
      (Set.mem_image_of_mem _ hashed) ?_)
    calc setup.rlpHash (encodeHeader oldParent) = filling.block.parentHash := checked.linked
      _ = header.parentHash := covered.parentHash
      _ = setup.rlpHash (encodeHeader parent) := linked
  rw [Verifier.verifyHeaderFields_eq_ok_iff]
  refine ⟨bigNumber, parent, parentNumber, ?_⟩
  exact {
    numbered := numbered
    notGenesis := checked.notGenesis
    notFuture := fun _ => timely
    gasLimit := covered.gasLimit ▸ checked.gasLimit
    gasUsed := covered.gasLimit ▸ covered.gasUsed ▸ checked.gasUsed
    mixDigest := covered.mixDigest ▸ checked.mixDigest
    uncleHash := covered.uncleHash ▸ checked.uncleHash
    found := height ▸ found
    parentNumbered := parentNumbered
    follows := by
      rw [← height, follows, blockHeight, parentNumbered, Option.getD_some, UInt64.add_sub_cancel]
    linked := linked.symm
    unfinished := fun unsealed => nomatch unsealed
    spaced := by
      rw [← sameParent.time, ← covered.time]
      exact checked.spaced
    difficulty := difficulty }

/--
The shortcut of `VerifyHeaders` is sound.  If the pool was filled by
`AppendDposBlock` only, the batch is contiguous with all seal flags set, and the
chain has the parent of its first header, then every header that is accepted
because its seal hash is in the pool passes the whole of `verifyHeader` at that
moment.
-/
theorem verifyHeaders_poolShortcut_sound (setup : Setup) (occasions : Nat → Occasion)
    (fillings : List Filling) (headers : List Header) (index : Nat) (header : Header)
    (collisionFree : CollisionFree setup fillings (occasions index).moment.chain headers)
    (filled : (occasions index).node.pool = filledPool setup fillings)
    (contiguous : Contiguous setup headers)
    (stored : ∀ first, headers.head? = some first →
      StoresParent setup (occasions index).moment.chain first)
    (inBatch : headers[index]? = some header)
    (pooled : (occasions index).node.isInBlockPool (setup.sealHash header) = true)
    (accepted : (verifyHeaders setup occasions headers
      (headers.map fun _ => true))[index]? = some (.ok ())) :
    ((occasions index).engine setup).verifyHeader
      (occasions index).moment.chain header (headers.take index) true = .ok () := by
  have flagged : (headers.map fun _ => true).getD index false = true := by
    rw [List.getD_eq_getElem?_getD, List.getElem?_map, inBatch]
    rfl
  rw [verifyHeaders, List.getElem?_mapIdx, inBatch, Option.map_some,
    Option.some.injEq, flagged, verifyNextHeader, pooled, refused_else_eq_ok_iff] at accepted
  obtain ⟨notFuture, sealed⟩ := accepted
  have timely : header.time ≤ (occasions index).moment.wallClock :=
    UInt64.not_lt.1 fun late => notFuture ⟨rfl, late⟩
  rw [if_neg (by decide)] at sealed
  rw [Verifier.verifyHeader_sealed_eq_ok_iff]
  exact ⟨fieldsChecked_of_pooled collisionFree filled contiguous stored
    inBatch pooled timely, sealed⟩

namespace Sample

def sealingSetup : Setup :=
  { setup [1] with
    ela := plainLibrary [([9], Verifier.firstChildConfirm)] }

def poolOccasion (pool : BlockPool) : Occasion where
  node := { Node.new [1] fourProducers with pool := pool }
  moment := { at_ 1 with spvService := some service }

@[simp] theorem pool_poolOccasion (pool : BlockPool) : (poolOccasion pool).node.pool = pool :=
  rfl

def unsealedFilling : Filling :=
  ⟨poolOccasion BlockPool.empty, child 5 []⟩

end Sample

open Sample

/-- The sealed block takes the shortcut of its unsealed form. -/
theorem verifyHeaders_poolShortcut_sealed :
    (poolOccasion (filledPool sealingSetup [unsealedFilling])).node.isInBlockPool
      (sealingSetup.sealHash (child 5 [9])) = true ∧
    ((poolOccasion (filledPool sealingSetup [unsealedFilling])).engine
      sealingSetup).verifyHeader chain (child 5 [9]) [] true = .ok () := by
  have parent : storedParent chain (child 5 [9]) = some genesis := by
    decide +kernel
  have unsealedParent : storedParent chain (child 5 []) = some genesis := by
    decide +kernel
  have distinct :
      sealingSetup.rlpHash (encodeHeader (child 5 [9])) ≠
        sealingSetup.rlpHash (encodeHeader genesis) := by
    decide +kernel
  have sealed : ∀ header ∈ sealedHeaders [unsealedFilling] [child 5 [9]],
      encodeSigHeader header = encodeSigHeader (child 5 []) := by
    rintro header (inBatch | ⟨filling, member, rfl⟩)
    · rw [List.mem_singleton.1 inBatch]
      rfl
    · rw [List.mem_singleton.1 member]
      rfl
  have hashed : ∀ header ∈ hashedHeaders [unsealedFilling] chain [child 5 [9]],
      header = child 5 [9] ∨ header = genesis := by
    rintro header (inBatch | ⟨filling, member, found⟩ | ⟨first, member, found⟩)
    · exact .inl (List.mem_singleton.1 inBatch)
    · rw [List.mem_singleton.1 member] at found
      exact .inr (Option.some.inj (found.symm.trans unsealedParent))
    · rw [List.mem_singleton.1 member] at found
      exact .inr (Option.some.inj (found.symm.trans parent))
  refine ⟨by decide +kernel, verifyHeaders_poolShortcut_sound sealingSetup
      (fun _ => poolOccasion (filledPool sealingSetup [unsealedFilling]))
      [unsealedFilling] [child 5 [9]] 0
      (child 5 [9]) ⟨?_, ?_⟩ (pool_poolOccasion _) (.singleton _) ?_ rfl
      (by decide +kernel) (by decide +kernel)⟩
  · rintro _ ⟨first, firstIn, rfl⟩ _ ⟨second, secondIn, rfl⟩ -
    rw [sealed first firstIn, sealed second secondIn]
  · rintro _ ⟨first, firstIn, rfl⟩ _ ⟨second, secondIn, rfl⟩ same
    rcases hashed first firstIn with rfl | rfl <;>
      rcases hashed second secondIn with rfl | rfl
    · rfl
    · exact absurd same distinct
    · exact absurd same.symm distinct
    · rfl
  · intro first isFirst
    cases isFirst
    exact ⟨genesis, parent, by decide +kernel⟩

end EscSideChain.Pbft
