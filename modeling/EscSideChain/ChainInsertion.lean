import EscSideChain.BlockChain

namespace EscSideChain.BlockChain

open EscSideChain.Types

/-!
# Importing a batch of blocks

`insertChain` and `InsertHeaderChain` of `core/blockchain.go`.  A batch that straddles the PBFT
fork is imported in two parts, each under its own engine.  `insertBlockChain`, the import of one
part, is a parameter.
-/

/-- The errors of an import. -/
inductive BatchError where
  | knownBlock
  | prunedAncestor
  | futureBlock
  | unknownAncestor
  | blacklistedHash
  | ghostState
  | missingParent
  | aborted
  | nonContiguous
  | runtime (reason : String)
  | write (err : WriteError)
  | other (reason : String)
  deriving DecidableEq

/-- The events `ChainEvent`, `ChainSideEvent` and `ChainHeadEvent`. -/
inductive ChainEvent (Hash : Type) where
  | chain (block : Block Hash)
  | chainSide (block : Block Hash)
  | chainHead (block : Block Hash)
  deriving DecidableEq

/-- What an import of blocks returns and leaves behind. -/
structure Outcome (Hash State : Type) where
  state : State
  index : Nat
  events : List (ChainEvent Hash)
  err : Option BatchError

variable {Hash : Type}

/-- The fork block minus the number of the first block, as `uint64`. -/
def forkLimit (pbftBlock : Int) (first : Block Hash) : Nat :=
  (UInt64.ofNat pbftBlock.toNat - UInt64.ofNat first.number).toNat

/--
Where a batch is split at the fork: nowhere under the PBFT engine or if all of
its blocks are before the fork.
-/
def splitPoint (settings : Settings) (batch : List (Block Hash)) : Option Nat :=
  match batch, settings.pbftBlock with
  | first :: _, some pbftBlock =>
    if isForked settings.pbftBlock first.number then none
    else if forkLimit pbftBlock first ≥ batch.length then none
    else some (forkLimit pbftBlock first)
  | _, _ => none

def underPbft (settings : Settings) (batch : List (Block Hash)) : Bool :=
  match batch with
  | [] => true
  | first :: _ => isForked settings.pbftBlock first.number || settings.pbftBlock.isNone

/--
`insertChain`.  The last event of the first part is cut off, whatever it is, and the index of the
second part is returned as it is.
-/
def insertChain {State : Type} (settings : Settings)
    (insertBlockChain : Bool → List (Block Hash) → State → Outcome Hash State) (state : State)
    (batch : List (Block Hash)) : Outcome Hash State :=
  match batch with
  | [] => ⟨state, 0, [], some (.runtime "index out of range [0] with length 0")⟩
  | _ :: _ =>
    match splitPoint settings batch with
    | none => insertBlockChain (underPbft settings batch) batch state
    | some limit =>
      let clique := insertBlockChain false (batch.take limit) state
      if clique.err.isSome then clique
      else
        let pbft := insertBlockChain true (batch.drop limit) clique.state
        { pbft with events := clique.events.dropLast ++ pbft.events }

/-! ## Headers -/

/--
What an import of headers is told: the verdict of the engine, whether a header is known, what
writing it comes to, and whether the chain is terminating.
-/
structure HeaderAnswers (Hash State : Type) where
  settings : Settings
  verifyErr : List (Block Hash) → Block Hash → Option BatchError
  badHashes : Hash → Bool
  isIgnored : State → Block Hash → Bool
  writeHeader : State → Block Hash → Except BatchError State
  procInterrupt : Bool → List (Block Hash) → Bool

structure HeaderOutcome (Hash State : Type) where
  state : State
  index : Nat
  err : Option BatchError
  failed : Option (Block Hash)

section Headers

variable [DecidableEq Hash] {State : Type}
variable (answers : HeaderAnswers Hash State)

def follows : List (Block Hash) → Bool
  | first :: second :: rest =>
    second.number = first.number + 1 && second.parentHash = first.hash && follows (second :: rest)
  | _ => true

/-- The loop of `ValidateHeaderChain`. -/
def validateHeaders (batch : List (Block Hash)) (state : State) :
    List (Block Hash) → HeaderOutcome Hash State
  | [] => ⟨state, 0, none, none⟩
  | header :: rest =>
    if answers.procInterrupt true (header :: rest) then ⟨state, 0, some .aborted, none⟩
    else if answers.badHashes header.hash then
      ⟨state, batch.length - (rest.length + 1), some .blacklistedHash, some header⟩
    else
      match answers.verifyErr batch header with
      | some err => ⟨state, batch.length - (rest.length + 1), some err, some header⟩
      | none => validateHeaders batch state rest

/-- The loop of `HeaderChain.InsertHeaderChain`. -/
def writeHeaders (batch : List (Block Hash)) : State → List (Block Hash) → HeaderOutcome Hash State
  | state, [] => ⟨state, 0, none, none⟩
  | state, header :: rest =>
    if answers.procInterrupt false (header :: rest) then
      ⟨state, batch.length - (rest.length + 1), some .aborted, none⟩
    else if answers.isIgnored state header then writeHeaders batch state rest
    else
      match answers.writeHeader state header with
      | .error err => ⟨state, batch.length - (rest.length + 1), some err, some header⟩
      | .ok written => writeHeaders batch written rest

/-- `InsertBlockHeaders`, with `ValidateHeaderChain`. -/
def insertBlockHeaders (state : State) (batch : List (Block Hash)) : HeaderOutcome Hash State :=
  if follows batch = false then ⟨state, 0, some .nonContiguous, none⟩
  else
    let validated := validateHeaders answers batch state batch
    if validated.err.isSome then validated
    else writeHeaders answers batch state batch

def insertHeaderChain (state : State) (batch : List (Block Hash)) : HeaderOutcome Hash State :=
  match splitPoint answers.settings batch with
  | none => insertBlockHeaders answers state batch
  | some limit =>
    let clique := insertBlockHeaders answers state (batch.take limit)
    if clique.err.isSome then clique
    else
      let pbft := insertBlockHeaders answers clique.state (batch.drop limit)
      if pbft.err.isSome then pbft
      else ⟨pbft.state, 0, none, none⟩

end Headers

end EscSideChain.BlockChain
