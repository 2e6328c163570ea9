import EscSideChain.DposBlockPool
import Mathlib.Data.Set.Function

namespace EscSideChain.Core

open Dpos Pbft

/-!
# Validating the bodies of blocks

`ValidateBody` of `core/block_validator.go` with the PBFT engine.  It begins
with a shortcut: a block whose hash is a key of the block pool counts as
validated.  The keys of the pool are seal hashes, which are taken over one item
less than the hash of a block, so the shortcut is never taken.
-/

/-- A block with its body, `types.Block`. -/
structure BodyBlock (Tx : Type) where
  header : Header
  uncles : List Header
  transactions : List Tx

/-- The errors of `ValidateBody`. -/
inductive BodyError where
  | knownBlock
  | unclesNotAllowed
  | uncleRoot (have_ want : Hash)
  | transactionRoot (have_ want : Hash)
  | unknownAncestor
  | prunedAncestor
  deriving DecidableEq

/--
`BlockValidator` with the pool of its engine and the chain it looks blocks up in.
The hash of a list of uncles is taken over their encodings.
-/
structure BlockValidator (Tx : Type) where
  rlpHash : List RlpItem → Hash
  hashUncles : List (List RlpItem) → Hash
  deriveSha : List Tx → Hash
  pool : BlockPool
  getBlock : Hash → UInt64 → Option Header
  hasBlock : Hash → UInt64 → Bool
  hasState : Hash → Bool

namespace BlockValidator

variable {Tx : Type} (validator : BlockValidator Tx)

def calcUncleHash (uncles : List Header) : Hash :=
  if uncles.length = 0 then validator.rlpHash []
  else validator.hashUncles (uncles.map encodeHeader)

def hasBlockAndState (hash : Hash) (number : UInt64) : Bool :=
  match validator.getBlock hash number with
  | none => false
  | some block => validator.hasState block.root

/-- `IsInBlockPool` of the engine. -/
def isInBlockPool (hash : Hash) : Bool :=
  (validator.pool.blocks.lookup hash).isSome

/-- `VerifyUncles` of the engine. -/
def verifyUncles (block : BodyBlock Tx) : Except BodyError Unit :=
  if block.uncles.length > 0 then .error .unclesNotAllowed
  else .ok ()

/-- The checks of `ValidateBody` after its shortcut. -/
def validateContents (block : BodyBlock Tx) : Except BodyError Unit :=
  let header := block.header
  let number := blockHeight header
  if validator.hasBlockAndState (validator.rlpHash (encodeHeader header)) number then
    .error .knownBlock
  else
    match verifyUncles block with
    | .error reason => .error reason
    | .ok () =>
      if validator.calcUncleHash block.uncles ≠ header.uncleHash then
        .error (.uncleRoot (validator.calcUncleHash block.uncles) header.uncleHash)
      else if validator.deriveSha block.transactions ≠ header.txHash then
        .error (.transactionRoot (validator.deriveSha block.transactions) header.txHash)
      else if validator.hasBlockAndState header.parentHash (number - 1) = false then
        if validator.hasBlock header.parentHash (number - 1) then .error .prunedAncestor
        else .error .unknownAncestor
      else .ok ()

def validateBody (block : BodyBlock Tx) : Except BodyError Unit :=
  if validator.isInBlockPool (validator.rlpHash (encodeHeader block.header)) then .ok ()
  else validator.validateContents block

structure BodyValid (block : BodyBlock Tx) : Prop where
  uncleRoot : validator.calcUncleHash block.uncles = block.header.uncleHash
  transactionRoot : validator.deriveSha block.transactions = block.header.txHash
  parent :
    ∃ parent, validator.getBlock block.header.parentHash
          (blockHeight block.header - 1) = some parent ∧
        validator.hasState parent.root = true

variable {validator}

theorem hasBlockAndState_eq_true_iff {hash : Hash} {number : UInt64} :
    validator.hasBlockAndState hash number = true ↔
      ∃ block, validator.getBlock hash number = some block ∧
        validator.hasState block.root = true := by
  unfold hasBlockAndState
  cases validator.getBlock hash number with
  | none => simp
  | some block => simp

theorem bodyValid_of_validateContents {block : BodyBlock Tx}
    (accepted : validator.validateContents block = .ok ()) : validator.BodyValid block := by
  unfold validateContents at accepted
  rw [refused_else_eq_ok_iff] at accepted
  obtain ⟨-, checked⟩ := accepted
  split at checked
  · cases checked
  simp only [refused_else_eq_ok_iff, not_not] at checked
  obtain ⟨uncleRoot, transactionRoot, linkable⟩ := checked
  split at linkable
  · split at linkable <;> cases linkable
  next present =>
    rw [Bool.not_eq_false, hasBlockAndState_eq_true_iff] at present
    exact ⟨uncleRoot, transactionRoot, present⟩

/-- The encodings that are compared when a block is looked up in the pool. -/
def comparedEncodings (pool : BlockPool) (block : BodyBlock Tx) : Set (List RlpItem) :=
  insert (encodeHeader block.header)
    (encodeSigHeader '' { pooled | ∃ hash, pool.blocks.lookup hash = some pooled })

theorem encodeSigHeader_ne_encodeHeader (first second : Header) :
    encodeSigHeader first ≠ encodeHeader second := by
  intro same
  have lengths := congrArg List.length same
  simp [encodeSigHeader, encodeHeader, leadingItems, trailingItems] at lengths

theorem isInBlockPool_headerHash {events : List PoolEvent} {block : BodyBlock Tx}
    (reached : validator.pool = EventRuns.run (BlockPool.handle
      fun header => validator.rlpHash (encodeSigHeader header)) BlockPool.empty events)
    (injective : Set.InjOn validator.rlpHash (comparedEncodings validator.pool block)) :
    validator.isInBlockPool (validator.rlpHash (encodeHeader block.header)) = false := by
  by_contra pooled
  rw [Bool.not_eq_false] at pooled
  obtain ⟨waiting, found⟩ := Option.isSome_iff_exists.1 pooled
  have sealed : validator.rlpHash (encodeSigHeader waiting) =
      validator.rlpHash (encodeHeader block.header) :=
    (BlockPool.lookup_run (reached ▸ found)).1
  exact encodeSigHeader_ne_encodeHeader waiting block.header
    (injective (.inr ⟨waiting, ⟨_, found⟩, rfl⟩) (.inl rfl) sealed)

/--
Whatever the operations of the pool were, a block that `ValidateBody` accepts has
the uncles and transactions that its header names, and its parent is there with
its state.
-/
theorem validateBody_sound (validator : BlockValidator Tx) (events : List PoolEvent)
    (block : BodyBlock Tx)
    (reached : validator.pool = EventRuns.run (BlockPool.handle
      fun header => validator.rlpHash (encodeSigHeader header)) BlockPool.empty events)
    (injective : Set.InjOn validator.rlpHash (comparedEncodings validator.pool block))
    (accepted : validator.validateBody block = .ok ()) :
    validator.BodyValid block := by
  rw [validateBody, isInBlockPool_headerHash reached injective,
    if_neg Bool.false_ne_true] at accepted
  exact bodyValid_of_validateContents accepted

end BlockValidator

namespace Sample

def poolEvents : List PoolEvent :=
  [.appendDposBlock (fun _ => .ok ()) (Pbft.Sample.child 5 [])]

def bodyValidator : BlockValidator Nat where
  rlpHash := Pbft.Sample.digest
  hashUncles _ := emptyHash
  deriveSha _ := emptyHash
  pool := EventRuns.run (BlockPool.handle fun header => Pbft.Sample.digest (encodeSigHeader header))
    BlockPool.empty poolEvents
  getBlock := Pbft.Sample.chain.getHeader
  hasBlock _ _ := true
  hasState _ := true

def sealedBody : BodyBlock Nat :=
  ⟨Pbft.Sample.child 5 [9], [], []⟩

end Sample

open Sample

/-- The sealed form of a block in the pool is validated in full. -/
theorem validateBody_sealedBody :
    bodyValidator.validateBody sealedBody = .ok () ∧ bodyValidator.BodyValid sealedBody := by
  have pooled : ∀ hash header, bodyValidator.pool.blocks.lookup hash = some header →
        header = Pbft.Sample.child 5 [] := by
    intro hash header found
    obtain ⟨-, event, member, accepted⟩ := @BlockPool.lookup_run _ poolEvents _ _ found
    rw [poolEvents, List.mem_singleton] at member
    subst member
    exact accepted.1
  have distinct :
      bodyValidator.rlpHash (encodeHeader (Pbft.Sample.child 5 [9])) ≠
        bodyValidator.rlpHash (encodeSigHeader (Pbft.Sample.child 5 [])) := by
    decide +kernel
  refine ⟨by decide +kernel, BlockValidator.validateBody_sound bodyValidator
      poolEvents sealedBody rfl ?_ (by decide +kernel)⟩
  rintro _ (rfl | ⟨first, ⟨_, firstIn⟩, rfl⟩) _ (rfl | ⟨second, ⟨_, secondIn⟩, rfl⟩) same
  · rfl
  · rw [pooled _ second secondIn] at same
    exact absurd same distinct
  · rw [pooled _ first firstIn] at same
    exact absurd same.symm distinct
  · rw [pooled _ first firstIn, pooled _ second secondIn]

end EscSideChain.Core
