import EscSideChain.TransactionSigning
import Mathlib.Logic.Function.Basic

namespace EscSideChain.BlockChain

open EscSideChain.Types

/-!
# Writing blocks to the chain

`writeBlockWithState`, `reorg` and `insert` of `core/blockchain.go`.  The database holds
blocks and total difficulties under a hash and a number, and for every number of the
canonical chain the hash of its block.  A block without a number below its own has no
parent in the database.
-/

structure Block (Hash : Type) where
  hash : Hash
  parentHash : Hash
  number : Nat
  difficulty : Nat
  deriving DecidableEq

structure Settings where
  pbftBlock : Option Int
  isPbftEngine : Bool
  signersCount : Nat
  blockSignersCount : Nat

structure ChainState (Hash : Type) where
  blocks : Hash → Nat → Option (Block Hash)
  tds : Hash → Nat → Option Nat
  canonical : Nat → Option Hash
  current : Block Hash

/--
What else a write depends on: whether the state can be committed, the verdict
on evil signers, the function `shouldPreserve`, the drawn number, and whether the
batch of receipts and lookup entries can be written.
-/
structure WriteContext (Hash : Type) where
  commitErr : Option String
  isNeedStopChain : Bool
  shouldPreserve : Option (Block Hash → Bool)
  coin : Bool
  batchErr : Option String

inductive WriteError where
  | unknownAncestor
  | commit (reason : String)
  | tooManyEvilSigners
  | nilPointer
  | invalidOldChain
  | invalidNewChain
  | dangerousNewChain
  | finalConfirmChain (first last : Nat)
  | batch (reason : String)
  deriving DecidableEq

/-- `WriteStatus` of a write without error. -/
inductive WriteStatus where
  | canonStatTy
  | sideStatTy
  deriving DecidableEq

variable {Hash : Type}

namespace ChainState

/-- `GetBlock` of the parent. -/
def parent (state : ChainState Hash) (block : Block Hash) : Option (Block Hash) :=
  match block.number with
  | 0 => none
  | number + 1 => state.blocks block.parentHash number

/-- `GetTd` of the parent. -/
def parentTd (state : ChainState Hash) (block : Block Hash) : Option Nat :=
  match block.number with
  | 0 => none
  | number + 1 => state.tds block.parentHash number

/-- `insert`: the block becomes canonical at its number, and the head. -/
def insert (state : ChainState Hash) (block : Block Hash) : ChainState Hash :=
  { state with
    canonical :=
      Function.update state.canonical block.number (some block.hash)
    current := block }

/--
The loop of `reorg` that deletes the canonical numbers above the head, up to the
first number without a block.
-/
def deleteAbove (state : ChainState Hash) : ChainState Hash :=
  { state with
    canonical := fun number =>
      if state.current.number < number ∧ (List.range number).all fun other =>
            other < state.current.number || (state.canonical (other + 1)).isSome then
        none
      else state.canonical number }

variable [DecidableEq Hash]

/-- `WriteTd` and `WriteBlock`. -/
def write (state : ChainState Hash) (block : Block Hash) (td : Nat) : ChainState Hash :=
  { state with
    blocks := fun hash number =>
      if hash = block.hash ∧ number = block.number then some block
      else state.blocks hash number
    tds := fun hash number =>
      if hash = block.hash ∧ number = block.number then some td
      else state.tds hash number }

/-! ## Reorganisation -/

def walkTo (state : ChainState Hash) (target : Nat) :
    Nat → Block Hash → Option (List (Block Hash) × Block Hash)
  | 0, block =>
    if target = 0 then some ([], block)
    else none
  | number + 1, block =>
    if target = number + 1 then some ([], block)
    else
      match state.blocks block.parentHash number with
      | none => none
      | some next =>
        match walkTo state target number next with
        | none => none
        | some (path, last) => some (block :: path, last)

def meet (state : ChainState Hash) :
    Nat → Block Hash → Block Hash → Except WriteError
        (List (Block Hash) × List (Block Hash) × Block Hash)
  | 0, oldBlock, newBlock =>
    if oldBlock.hash = newBlock.hash then .ok ([], [], oldBlock)
    else .error .invalidOldChain
  | number + 1, oldBlock, newBlock =>
    if oldBlock.hash = newBlock.hash then .ok ([], [], oldBlock)
    else
      match state.blocks oldBlock.parentHash number with
      | none => .error .invalidOldChain
      | some oldParent =>
        match state.blocks newBlock.parentHash number with
        | none => .error .invalidNewChain
        | some newParent =>
          match meet state number oldParent newParent with
          | .error err => .error err
          | .ok (oldChain, newChain, common) =>
            .ok (oldBlock :: oldChain, newBlock :: newChain, common)

/-- The blocks that `reorg` drops and adds, from the top, and their ancestor. -/
def reorgChains (state : ChainState Hash) (oldBlock newBlock : Block Hash) :
    Except WriteError (List (Block Hash) × List (Block Hash) × Block Hash) :=
  if oldBlock.number > newBlock.number then
    match state.walkTo newBlock.number oldBlock.number oldBlock with
    | none => .error .invalidOldChain
    | some (dropped, reduced) =>
      match state.meet newBlock.number reduced newBlock with
      | .error err => .error err
      | .ok (oldChain, newChain, common) => .ok (dropped ++ oldChain, newChain, common)
  else
    match state.walkTo oldBlock.number newBlock.number newBlock with
    | none => .error .invalidNewChain
    | some (added, reduced) =>
      match state.meet oldBlock.number oldBlock reduced with
      | .error err => .error err
      | .ok (oldChain, newChain, common) => .ok (oldChain, added ++ newChain, common)

def irreversibleHeight : Nat := 6

/--
The test of `reorg` on the dropped blocks.  The log line of the first refusal reads `newChain[0]`,
which a chain of dropped blocks without a new one does not have.
-/
def dropRefused (settings : Settings) (number : Nat)
    (oldChain : List (Block Hash)) : Option WriteError :=
  if isForked settings.pbftBlock number = false then
    if settings.blockSignersCount > 6 ∧ oldChain.length > settings.blockSignersCount / 2 then
      some .dangerousNewChain
    else none
  else if settings.signersCount > 0 ∧ oldChain.length ≥ irreversibleHeight then
    some (.finalConfirmChain ((oldChain.head?.map Block.number).getD 0)
      ((oldChain.getLast?.map Block.number).getD 0))
  else none

def reorg (settings : Settings) (state : ChainState Hash) (oldBlock newBlock : Block Hash) :
    Except WriteError (ChainState Hash) :=
  match state.reorgChains oldBlock newBlock with
  | .error err => .error err
  | .ok (oldChain, newChain, _) =>
    match dropRefused settings newBlock.number oldChain with
    | some err => .error err
    | none => .ok (newChain.tail.reverse.foldl insert state).deleteAbove

/-! ## Writing a block -/

def isToManyEvilSigners (settings : Settings) (context : WriteContext Hash)
    (state : ChainState Hash) (block : Block Hash) : Bool :=
  (state.canonical block.number).isSome && !isForked settings.pbftBlock block.number &&
    context.isNeedStopChain

def prefers (settings : Settings) (context : WriteContext Hash) (current block : Block Hash)
    (externTd localTd : Nat) : Bool :=
  if externTd > localTd then true
  else if externTd = localTd then
    if block.number < current.number then true
    else if block.number = current.number then
      let currentPreserve := context.shouldPreserve.any (· current)
      let blockPreserve := context.shouldPreserve.any (· block)
      if settings.isPbftEngine then !currentPreserve && blockPreserve
      else !currentPreserve && (blockPreserve || context.coin)
    else false
  else false

/--
The end of `writeBlockWithState`: the batch is written, and then a canonical block becomes the
head.  A failed batch leaves the reorganised chain without its new head.
-/
def finishWrite (context : WriteContext Hash) (state : ChainState Hash) (block : Block Hash)
    (status : WriteStatus) : ChainState Hash × Except WriteError WriteStatus :=
  match context.batchErr with
  | some reason => (state, .error (.batch reason))
  | none =>
    match status with
    | .canonStatTy => (state.insert block, .ok .canonStatTy)
    | .sideStatTy => (state, .ok .sideStatTy)

def writeBlockWithState (settings : Settings) (context : WriteContext Hash)
    (state : ChainState Hash) (block : Block Hash) :
    ChainState Hash × Except WriteError WriteStatus :=
  match state.parentTd block with
  | none => (state, .error .unknownAncestor)
  | some ptd =>
    let externTd := block.difficulty + ptd
    let written := state.write block externTd
    match context.commitErr with
    | some reason => (written, .error (.commit reason))
    | none =>
      if written.isToManyEvilSigners settings context block then
        (written, .error .tooManyEvilSigners)
      else
        match state.tds state.current.hash state.current.number with
        | none => (written, .error .nilPointer)
        | some localTd =>
          if prefers settings context state.current block externTd localTd then
            if block.parentHash ≠ state.current.hash then
              match written.reorg settings state.current block with
              | .error err => (written, .error err)
              | .ok reorganised => reorganised.finishWrite context block .canonStatTy
            else written.finishWrite context block .canonStatTy
          else written.finishWrite context block .sideStatTy

end ChainState

end EscSideChain.BlockChain
