import EscSideChain.DposPayload
import EscSideChain.DposProducers
import EscSideChain.SpvArbiters

namespace EscSideChain.Pbft

open Dpos

/-!
# Header verification

`verifyHeader`, `verifySeal` and `verifyConfirm` of `consensus/pbft/pbft.go`,
with the two encodings of a header: the full one behind `Header.Hash` and the
one behind `SealHash`, which leaves out the extra data that carries the
confirm.
-/

/-- A block header, `types.Header`. -/
structure Header where
  parentHash : Hash
  uncleHash : Hash
  coinbase : Address
  root : Hash
  txHash : Hash
  receiptHash : Hash
  bloom : List.Vector UInt8 256
  difficulty : Option Nat
  number : Option Nat
  gasLimit : UInt64
  gasUsed : UInt64
  time : UInt64
  extra : Bytes
  mixDigest : Hash
  nonce : UInt64
  deriving DecidableEq

inductive RlpItem where
  | bytes (content : Bytes)
  | uint (value : Nat)
  deriving DecidableEq

def leadingItems (header : Header) : List RlpItem :=
  [.bytes header.parentHash.toList, .bytes header.uncleHash.toList, .bytes header.coinbase.toList,
    .bytes header.root.toList, .bytes header.txHash.toList, .bytes header.receiptHash.toList,
    .bytes header.bloom.toList, .uint (header.difficulty.getD 0), .uint (header.number.getD 0),
    .uint header.gasLimit.toNat, .uint header.gasUsed.toNat, .uint header.time.toNat]

def trailingItems (header : Header) : List RlpItem :=
  [.bytes header.mixDigest.toList, .bytes ((List.range 8).map fun index =>
      UInt8.ofNat (header.nonce.toNat / 256 ^ (7 - index)))]

/-- `encodeSigHeader`: the header without its extra data. -/
def encodeSigHeader (header : Header) : List RlpItem :=
  leadingItems header ++ trailingItems header

def encodeHeader (header : Header) : List RlpItem :=
  leadingItems header ++ .bytes header.extra :: trailingItems header

inductive HeaderError where
  | unknownBlock
  | futureBlock
  | invalidGasLimit (have_ max : UInt64)
  | invalidGasUsed (have_ gasLimit : UInt64)
  | invalidMixDigest
  | invalidUncleHash
  | unknownAncestor
  | alreadyConfirmedBlock
  | invalidTimestamp
  | invalidDifficulty
  | doubleSignBlock
  | nilNumber
  | other (reason : String)
  deriving DecidableEq

theorem refused_else_eq_ok_iff {Reason Value : Type} {refused : Prop} [Decidable refused]
    {reason : Reason} {rest : Except Reason Value} {value : Value} :
    (if refused then .error reason else rest) = .ok value ↔ ¬refused ∧ rest = .ok value := by
  by_cases isRefused : refused
  · simp [isRefused]
  · simp [isRefused]

/-- The chain that headers are checked against, `consensus.ChainReader`. -/
structure ChainReader where
  getHeader : Hash → UInt64 → Option Header
  getHeaderByNumber : UInt64 → Option Header

structure Verifier where
  ela : ElaLibrary
  rlpHash : List RlpItem → Hash
  spvService : Option Spv.SpvService
  producers : Producers
  finishedHeight : UInt64
  period : UInt64
  now : UInt64

variable {header : Header}

namespace Verifier

variable (engine : Verifier)

def sealHash (header : Header) : Hash :=
  engine.rlpHash (encodeSigHeader header)

/-- `Header.Hash`. -/
def headerHash (header : Header) : Hash :=
  engine.rlpHash (encodeHeader header)

def verifyConfirm (confirm : Confirm) (elaHeight : UInt64) : Except String Unit :=
  if elaHeight = 0 then checkConfirm engine.ela confirm engine.producers.getCRMajorityCount
  else
    match Spv.getProducers engine.spvService elaHeight with
    | .error reason => .error reason
    | .ok (_, count) => checkConfirm engine.ela confirm (getMajorityCountByTotalSigners count)

/-- The comparison of `verifySeal` with the stored header of the same height. -/
def checkDoubleSign (chain : ChainReader) (number : UInt64) (header : Header) (confirm : Confirm) :
    Except HeaderError Unit :=
  match chain.getHeaderByNumber number with
  | none => .ok ()
  | some oldHeader =>
    match engine.ela.deserializeConfirm oldHeader.extra with
    | .error _ => .ok ()
    | .ok oldConfirm =>
      if confirm.proposal.viewOffset = oldConfirm.proposal.viewOffset ∧
          engine.headerHash oldHeader ≠ engine.headerHash header then
        .error .doubleSignBlock
      else .ok ()

def verifySeal (chain : ChainReader) (header : Header) : Except HeaderError Unit :=
  match header.number with
  | none => .error .nilNumber
  | some bigNumber =>
    let number := UInt64.ofNat bigNumber
    if number = 0 then .error .unknownBlock
    else
      match engine.ela.deserializeConfirm header.extra with
      | .error reason => .error (.other reason)
      | .ok confirm =>
        match engine.verifyConfirm confirm header.nonce with
        | .error reason => .error (.other reason)
        | .ok () => engine.checkDoubleSign chain number header confirm

/-- The parent lookup of `verifyHeader`. -/
def findParent (chain : ChainReader) (header : Header) (parents : List Header) (number : UInt64) :
    Option Header :=
  match parents.getLast? with
  | some parent => some parent
  | none => chain.getHeader header.parentHash (number - 1)

/-- The checks of `verifyHeader` that come before the seal. -/
def verifyHeaderFields (chain : ChainReader) (header : Header) (parents : List Header)
    (checkSeal : Bool) : Except HeaderError Unit :=
  match header.number with
  | none => .error .unknownBlock
  | some bigNumber =>
    let number := UInt64.ofNat bigNumber
    let cap : UInt64 := 0x7fffffffffffffff
    if number = 0 then .error .unknownBlock
    else if checkSeal ∧ header.time > engine.now then .error .futureBlock
    else if header.gasLimit > cap then .error (.invalidGasLimit header.gasLimit cap)
    else if header.gasUsed > header.gasLimit then
      .error (.invalidGasUsed header.gasUsed header.gasLimit)
    else if header.mixDigest ≠ emptyHash then .error .invalidMixDigest
    else if header.uncleHash ≠ engine.rlpHash [] then .error .invalidUncleHash
    else
      match findParent chain header parents number with
      | none => .error .unknownAncestor
      | some parent =>
        match parent.number with
        | none => .error .nilNumber
        | some parentNumber =>
          if UInt64.ofNat parentNumber ≠ number - 1 ∨
              engine.headerHash parent ≠ header.parentHash then
            .error .unknownAncestor
          else if checkSeal = false ∧ engine.finishedHeight = number then
            .error .alreadyConfirmedBlock
          else if parent.time + engine.period > header.time then .error .invalidTimestamp
          else if header.difficulty ≠ some 2 then .error .invalidDifficulty
          else .ok ()

def verifyHeader (chain : ChainReader) (header : Header) (parents : List Header)
    (checkSeal : Bool) : Except HeaderError Unit :=
  match engine.verifyHeaderFields chain header parents checkSeal with
  | .error reason => .error reason
  | .ok () =>
    if checkSeal then engine.verifySeal chain header
    else .ok ()

/--
The two headers carry confirms of one view offset but are different blocks,
the clash that `verifySeal` calls a double sign.
-/
def ClashesWithStored (chain : ChainReader) (number : UInt64) (header : Header)
    (confirm : Confirm) : Prop :=
  ∃ oldHeader oldConfirm, chain.getHeaderByNumber number = some oldHeader ∧
      engine.ela.deserializeConfirm oldHeader.extra = .ok oldConfirm ∧
      confirm.proposal.viewOffset = oldConfirm.proposal.viewOffset ∧
      engine.headerHash oldHeader ≠ engine.headerHash header

theorem checkDoubleSign_eq_ok_iff {chain : ChainReader} {number : UInt64} {confirm : Confirm} :
    engine.checkDoubleSign chain number header confirm = .ok () ↔
      ¬engine.ClashesWithStored chain number header confirm := by
  unfold checkDoubleSign ClashesWithStored
  cases stored : chain.getHeaderByNumber number with
  | none => simp
  | some oldHeader =>
    cases decoded : engine.ela.deserializeConfirm oldHeader.extra with
    | error reason => simp [decoded]
    | ok oldConfirm => simp [decoded]

/-- The checks that `verifySeal` makes on a header and its confirm. -/
structure SealChecked (chain : ChainReader) (header : Header) (confirm : Confirm) : Prop where
  numbered :
    ∃ bigNumber, header.number = some bigNumber ∧ UInt64.ofNat bigNumber ≠ 0 ∧
        ¬engine.ClashesWithStored chain (UInt64.ofNat bigNumber) header confirm
  decoded : engine.ela.deserializeConfirm header.extra = .ok confirm
  confirmed : engine.verifyConfirm confirm header.nonce = .ok ()

theorem verifySeal_eq_ok_iff {chain : ChainReader} :
    engine.verifySeal chain header = .ok () ↔
      ∃ confirm, engine.SealChecked chain header confirm := by
  unfold verifySeal
  constructor
  · intro accepted
    cases numbered : header.number with
    | none => simp [numbered] at accepted
    | some bigNumber =>
      by_cases genesis : UInt64.ofNat bigNumber = 0
      · simp [numbered, genesis] at accepted
      cases decoded : engine.ela.deserializeConfirm header.extra with
      | error reason => simp [numbered, genesis, decoded] at accepted
      | ok confirm =>
        cases confirmed : engine.verifyConfirm confirm header.nonce with
        | error reason => simp [numbered, genesis, decoded, confirmed] at accepted
        | ok checked =>
          simp only [numbered, genesis, decoded, confirmed, ↓reduceIte,
            checkDoubleSign_eq_ok_iff] at accepted
          exact ⟨confirm, ⟨bigNumber, numbered, genesis, accepted⟩, decoded, confirmed⟩
  · rintro ⟨confirm, ⟨bigNumber, numbered, notGenesis, noClash⟩, decoded, confirmed⟩
    simp only [numbered, notGenesis, decoded, confirmed, ↓reduceIte]
    exact (engine.checkDoubleSign_eq_ok_iff).mpr noClash

/-- The checks of `verifyHeader` on the fields of a header and on its parent. -/
structure FieldsChecked (chain : ChainReader) (header : Header) (parents : List Header)
    (checkSeal : Bool) (bigNumber : Nat) (parent : Header) (parentNumber : Nat) : Prop where
  numbered : header.number = some bigNumber
  notGenesis : UInt64.ofNat bigNumber ≠ 0
  notFuture : checkSeal = true → header.time ≤ engine.now
  gasLimit : header.gasLimit ≤ 0x7fffffffffffffff
  gasUsed : header.gasUsed ≤ header.gasLimit
  mixDigest : header.mixDigest = emptyHash
  uncleHash : header.uncleHash = engine.rlpHash []
  found : findParent chain header parents (UInt64.ofNat bigNumber) = some parent
  parentNumbered : parent.number = some parentNumber
  follows : UInt64.ofNat parentNumber = UInt64.ofNat bigNumber - 1
  linked : engine.headerHash parent = header.parentHash
  unfinished : checkSeal = false → engine.finishedHeight ≠ UInt64.ofNat bigNumber
  spaced : parent.time + engine.period ≤ header.time
  difficulty : header.difficulty = some 2

theorem verifyHeaderFields_eq_ok_iff {chain : ChainReader} {parents : List Header}
    {checkSeal : Bool} :
    engine.verifyHeaderFields chain header parents checkSeal = .ok () ↔
      ∃ bigNumber parent parentNumber, engine.FieldsChecked chain header parents checkSeal
          bigNumber parent parentNumber := by
  unfold verifyHeaderFields
  constructor
  · intro accepted
    split at accepted
    · cases accepted
    next bigNumber numbered =>
      dsimp only at accepted
      simp only [refused_else_eq_ok_iff] at accepted
      obtain ⟨genesis, future, limit, used, mix, uncle, parented⟩ := accepted
      split at parented
      · cases parented
      next parent found =>
        split at parented
        · cases parented
        next parentNumber parentNumbered =>
          simp only [refused_else_eq_ok_iff, not_or, not_not] at parented
          obtain ⟨⟨follows, linked⟩, finished, early, hard, -⟩ := parented
          refine ⟨bigNumber, parent, parentNumber, ?_⟩
          exact {
            numbered := numbered
            notGenesis := genesis
            notFuture := fun sealed =>
              UInt64.not_lt.1 fun late => future ⟨sealed, late⟩
            gasLimit := UInt64.not_lt.1 limit
            gasUsed := UInt64.not_lt.1 used
            mixDigest := not_not.1 mix
            uncleHash := not_not.1 uncle
            found := found
            parentNumbered := parentNumbered
            follows := follows
            linked := linked
            unfinished := fun unsealed same =>
              finished ⟨unsealed, same⟩
            spaced := UInt64.not_lt.1 early
            difficulty := hard }
  · rintro ⟨bigNumber, parent, parentNumber, checked⟩
    have future : ¬(checkSeal = true ∧ header.time > engine.now) :=
      fun late => UInt64.not_lt.2 (checked.notFuture late.1) late.2
    have finished : ¬(checkSeal = false ∧ engine.finishedHeight = UInt64.ofNat bigNumber) :=
      fun same => checked.unfinished same.1 same.2
    simp only [checked.numbered, checked.found,
      checked.parentNumbered, refused_else_eq_ok_iff, not_or, not_not]
    exact ⟨checked.notGenesis, future, UInt64.not_lt.2 checked.gasLimit,
      UInt64.not_lt.2 checked.gasUsed, checked.mixDigest,
      checked.uncleHash, ⟨checked.follows, checked.linked⟩, finished,
      UInt64.not_lt.2 checked.spaced, checked.difficulty, trivial⟩

theorem verifyHeader_sealed_eq_ok_iff {chain : ChainReader} {parents : List Header} :
    engine.verifyHeader chain header parents true = .ok () ↔
      engine.verifyHeaderFields chain header parents true = .ok () ∧
        engine.verifySeal chain header = .ok () := by
  unfold verifyHeader
  cases checked : engine.verifyHeaderFields chain header parents true with
  | error reason => simp
  | ok passed => simp

theorem verifyConfirm_eq_ok_iff {confirm : Confirm} {elaHeight : UInt64} (voted : elaHeight ≠ 0) :
    engine.verifyConfirm confirm elaHeight = .ok () ↔ ∃ producers count,
        Spv.getProducers engine.spvService elaHeight = .ok (producers, count) ∧
          checkConfirm engine.ela confirm (getMajorityCountByTotalSigners count) = .ok () := by
  unfold verifyConfirm
  cases listed : Spv.getProducers engine.spvService elaHeight with
  | error reason => simp [voted]
  | ok answer =>
    obtain ⟨producers, count⟩ := answer
    simp [voted]

theorem verifyConfirm_votes {confirm : Confirm} {elaHeight : UInt64}
    (accepted : engine.verifyConfirm confirm elaHeight = .ok ()) :
    ∀ vote ∈ confirm.votes, AcceptsProposal engine.ela
        (engine.ela.proposalHash confirm.proposal) vote := by
  by_cases voted : elaHeight = 0
  · rw [verifyConfirm, if_pos voted, checkConfirm_eq_ok_iff] at accepted
    exact accepted.2.2
  obtain ⟨_, _, _, checked⟩ := (engine.verifyConfirm_eq_ok_iff voted).mp accepted
  exact ((checkConfirm_eq_ok_iff _).mp checked).2.2

end Verifier

/-! ## A small chain for evaluation -/

namespace Sample

open Dpos

def digest (items : List RlpItem) : Hash :=
  bytesToHash (items.map fun
    | .bytes content => content.foldl (· + ·) 0
    | .uint value => UInt8.ofNat value)

def service : Spv.SpvService where
  blockListenerHeight := some 200
  bestHeaderHeight := .ok 200
  getConsensusAlgorithm _ := .ok .dpos
  getArbiters _ := .ok ([[1], [2], [3]], [])

def verifier (confirms : List (Bytes × Confirm)) : Verifier where
  ela := plainLibrary confirms
  rlpHash := digest
  spvService := some service
  producers := {
    totalProducers := 3
    producers := [[1], [2], [3]]
    dutyIndex := 0
    workingHeight := 0
    spvHeight := 0
    nextTotalProducers := 0
    nextProducers := []
    defaultCRCSignerNumber := 3
  }
  finishedHeight := 0
  period := 5
  now := 1000

def genesis : Header where
  parentHash := emptyHash
  uncleHash := digest []
  coinbase := blackAddr
  root := emptyHash
  txHash := emptyHash
  receiptHash := emptyHash
  bloom := List.Vector.replicate 256 0
  difficulty := some 2
  number := some 0
  gasLimit := 8000000
  gasUsed := 0
  time := 0
  extra := []
  mixDigest := emptyHash
  nonce := 0

def chain : ChainReader where
  getHeader hash number :=
    if hash = digest (encodeHeader genesis) ∧ number = 0 then some genesis
    else none
  getHeaderByNumber number :=
    if number = 0 then some genesis else none

/-- A block on top of the first one, with the given time and extra data. -/
def child (time : UInt64) (extra : Bytes) : Header :=
  { genesis with
    parentHash := digest (encodeHeader genesis)
    number := some 1
    time := time
    extra := extra
    nonce := 100 }

end Sample

end EscSideChain.Pbft
