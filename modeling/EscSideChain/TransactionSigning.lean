import EscSideChain.PbftHeader

namespace EscSideChain.Types

open Pbft

/-!
# Transaction signers

`core/types/transaction_signing.go`, with the fork tests of `params/config.go`
that choose a signer.  A transaction that is protected against replay carries a
chain id.  The chain changed its own id at the height `ChainIDBlock`, and the
signer is meant to take the old id only around that height.
-/

/-- `big.Int.Cmp`. -/
def bigCmp (left right : Int) : Int :=
  if left < right then -1
  else if left = right then 0
  else 1

/-- The fields of `params.ChainConfig` that the signers read. -/
structure ChainConfig where
  oldChainID : Option Int
  chainID : Option Int
  homesteadBlock : Option Int
  eip155Block : Option Int
  chainIDBlock : Option Int
  pbftBlock : Option Int

def isForked (fork : Option Int) (head : Nat) : Bool :=
  match fork with
  | none => false
  | some block => bigCmp block head ≤ 0

namespace ChainConfig

variable (config : ChainConfig)

/-- The configuration with nil in all fields, `&params.ChainConfig{}`. -/
def blank : ChainConfig where
  oldChainID := none
  chainID := none
  homesteadBlock := none
  eip155Block := none
  chainIDBlock := none
  pbftBlock := none

def isHomestead (number : Nat) : Bool :=
  isForked config.homesteadBlock number

def isEIP155 (number : Nat) : Bool :=
  isForked config.eip155Block number

def isChainIDFork (number : Nat) : Bool :=
  isForked config.chainIDBlock number

def isPBFTFork (number : Nat) : Bool :=
  isForked config.pbftBlock number

def getChainIDByHeight (number : Nat) : Option Int :=
  if isForked config.chainIDBlock number then config.chainID
  else
    match config.oldChainID with
    | none => config.chainID
    | some chainID => some chainID

end ChainConfig

inductive SignerError where
  | invalidChainId
  | invalidSig
  | invalidPublicKey
  | nilPointer
  | other (reason : String)
  deriving DecidableEq

/-- The data of a transaction, `txdata`. -/
structure TxData where
  accountNonce : UInt64
  price : Nat
  gasLimit : UInt64
  recipient : Option Address
  amount : Nat
  payload : Bytes
  v : Nat
  r : Nat
  s : Nat

namespace TxData

variable (tx : TxData)

/-- `Protected`; a number below 256 is one of at most eight bits. -/
def isProtected : Bool :=
  if tx.v < 2 ^ 8 then tx.v ≠ 27 && tx.v ≠ 28
  else true

/-- `ChainId`, with the unsigned subtraction of the short case. -/
def chainId : Nat :=
  if tx.v < 2 ^ 64 then
    if tx.v = 27 ∨ tx.v = 28 then 0
    else (tx.v + 2 ^ 64 - 35) % 2 ^ 64 / 2
  else (tx.v - 35) / 2

def signedItems : List RlpItem :=
  [.uint tx.accountNonce.toNat, .uint tx.price, .uint tx.gasLimit.toNat,
    .bytes (tx.recipient.elim [] List.Vector.toList), .uint tx.amount, .bytes tx.payload]

end TxData

/-- The functions of the package `crypto`, and `rlpHash`. -/
structure Crypto where
  rlpHash : List RlpItem → Hash
  ecrecover : Hash → Bytes → Except String Bytes
  keccak256 : Bytes → Hash

def secp256k1N : Nat :=
  0xfffffffffffffffffffffffffffffffebaaedce6af48a03bbfd25e8cd0364141

def validateSignatureValues (v : UInt8) (r s : Nat) (homestead : Bool) : Bool :=
  if r < 1 ∨ s < 1 then false
  else if homestead ∧ s > secp256k1N / 2 then false
  else r < secp256k1N && s < secp256k1N && (v = 0 || v = 1)

def bigEndian32 (number : Nat) : Bytes :=
  (List.range 32).map fun index =>
    UInt8.ofNat (number / 256 ^ (31 - index))

variable (crypto : Crypto)

def recoverPlain (sighash : Hash) (r s : Nat) (vb : Int)
    (homestead : Bool) : Except SignerError Address :=
  if 2 ^ 8 ≤ vb.natAbs then .error .invalidSig
  else
    let v := UInt8.ofNat (vb.natAbs + 2 ^ 64 - 27)
    if validateSignatureValues v r s homestead = false then .error .invalidSig
    else
      match crypto.ecrecover sighash (bigEndian32 r ++ bigEndian32 s ++ [v]) with
      | .error reason => .error (.other reason)
      | .ok pub =>
        match pub with
        | 4 :: point => .ok (fixedBytes 20 (crypto.keccak256 point).toList)
        | _ => .error .invalidPublicKey

/-- `HomesteadSigner.Sender`. -/
def homesteadSender (tx : TxData) : Except SignerError Address :=
  recoverPlain crypto (crypto.rlpHash tx.signedItems) tx.r tx.s tx.v true

/-- `FrontierSigner.Sender`. -/
def frontierSender (tx : TxData) : Except SignerError Address :=
  recoverPlain crypto (crypto.rlpHash tx.signedItems) tx.r tx.s tx.v false

/-- `EIP155Signer`, whose two chain id fields belong together. -/
structure EIP155Signer where
  chainId : Int
  chainIdMul : Int
  config : ChainConfig
  blockNumber : Nat
  isDouble : chainIdMul = chainId * 2

def newEIP155Signer (chainId : Option Int) : EIP155Signer where
  chainId := chainId.getD 0
  chainIdMul := chainId.getD 0 * 2
  config := .blank
  blockNumber := 0
  isDouble := rfl

namespace EIP155Signer

variable (signer : EIP155Signer)

def setForkData (config : ChainConfig) (blockNumber : Nat) : EIP155Signer :=
  { signer with
    config := { signer.config with
      pbftBlock := config.pbftBlock
      chainIDBlock := config.chainIDBlock
      chainID := config.chainID
      oldChainID := config.oldChainID }
    blockNumber := blockNumber }

def withChainId (chainId : Int) : EIP155Signer :=
  { signer with
    chainId := chainId
    chainIdMul := chainId * 2
    isDouble := rfl }

/--
The test of `Sender` for heights at which both chain ids are taken.  The number
that is compared with five is the result of `Cmp`, not a distance of heights.
-/
def takesBothIds : Except SignerError Bool :=
  match signer.config.pbftBlock with
  | none => .ok false
  | some pbftBlock =>
    if bigCmp signer.blockNumber pbftBlock ≥ 0 then
      match signer.config.chainIDBlock with
      | none => .error .nilPointer
      | some chainIDBlock => .ok (bigCmp signer.blockNumber chainIDBlock < 5)
    else .ok false

/-- The test of `Sender` for an id that is neither of the two. -/
def isForeign (chainId : Int) : Except SignerError Bool :=
  match signer.config.chainID with
  | none => .error .nilPointer
  | some chainID =>
    .ok (bigCmp chainId chainID ≠ 0 && signer.config.oldChainID.any fun oldChainID =>
        bigCmp chainId oldChainID ≠ 0)

/-- The part of `Sender` that settles the chain id. -/
def adopt (chainId : Int) : Except SignerError EIP155Signer :=
  if bigCmp chainId signer.chainId ≠ 0 then
    match signer.takesBothIds with
    | .error err => .error err
    | .ok true =>
      match signer.isForeign chainId with
      | .error err => .error err
      | .ok true => .error .invalidChainId
      | .ok false => .ok (signer.withChainId chainId)
    | .ok false =>
      if signer.config.pbftBlock.isNone || signer.config.chainIDBlock.isNone then
        .ok (signer.withChainId chainId)
      else .error .invalidChainId
  else .ok signer

def hash (tx : TxData) : Hash :=
  crypto.rlpHash (tx.signedItems ++ [.uint signer.chainId.toNat, .uint 0, .uint 0])

def sender (tx : TxData) : Except SignerError Address :=
  if tx.isProtected = false then homesteadSender crypto tx
  else
    match signer.adopt tx.chainId with
    | .error err => .error err
    | .ok adopted =>
      recoverPlain crypto (adopted.hash crypto tx) tx.r tx.s (tx.v - adopted.chainIdMul - 8) true

end EIP155Signer

inductive Signer where
  | eip155 (signer : EIP155Signer)
  | homestead
  | frontier

def makeSigner (config : ChainConfig) (blockNumber : Nat) : Signer :=
  if config.isChainIDFork blockNumber = false ∧
      config.isEIP155 blockNumber ∧ config.isPBFTFork blockNumber then
    .eip155 ((newEIP155Signer (config.getChainIDByHeight blockNumber)).setForkData config
        blockNumber)
  else if config.isEIP155 blockNumber then
    .eip155 (newEIP155Signer (config.getChainIDByHeight blockNumber))
  else if config.isHomestead blockNumber then .homestead
  else .frontier

/-- The signer of `ApplyTransaction`. -/
def transactionSigner (config : ChainConfig) (blockNumber : Nat) : Signer :=
  match makeSigner config blockNumber with
  | .eip155 signer => .eip155 (signer.setForkData config blockNumber)
  | .homestead => .homestead
  | .frontier => .frontier

/-- `Sender` of the interface `Signer`. -/
def Signer.sender : Signer → TxData → Except SignerError Address
  | .eip155 signer, tx => signer.sender crypto tx
  | .homestead, tx => homesteadSender crypto tx
  | .frontier, tx => frontierSender crypto tx

/-! ## Which chain ids the signer takes -/

@[simp] theorem bigCmp_eq_zero_iff {left right : Int} : bigCmp left right = 0 ↔ left = right := by
  unfold bigCmp
  split
  · constructor <;> intro h <;> omega
  · split <;> simp_all

@[simp] theorem bigCmp_nonneg_iff {left right : Int} : 0 ≤ bigCmp left right ↔ right ≤ left := by
  unfold bigCmp
  split
  · constructor <;> intro h <;> omega
  · split <;> constructor <;> intro h <;> omega

@[simp] theorem bigCmp_nonpos_iff {left right : Int} : bigCmp left right ≤ 0 ↔ left ≤ right := by
  unfold bigCmp
  split
  · constructor <;> intro h <;> omega
  · split <;> constructor <;> intro h <;> omega

theorem bigCmp_lt_five (left right : Int) : bigCmp left right < 5 := by
  unfold bigCmp
  split
  · decide
  · split <;> decide

@[simp] theorem isForked_some {block : Int} {head : Nat} :
    isForked (some block) head = true ↔ block ≤ head := by
  simp [isForked]

@[simp] theorem isForked_none {head : Nat} : isForked none head = false :=
  rfl

/-- The signer of an EIP155 block, whichever case of `MakeSigner` makes it. -/
def blockSigner (config : ChainConfig) (blockNumber : Nat) : EIP155Signer :=
  (newEIP155Signer (config.getChainIDByHeight blockNumber)).setForkData config blockNumber

variable {config : ChainConfig} {chainIDBlock : Int}

theorem transactionSigner_eq_eip155_iff {blockNumber : Nat} {signer : EIP155Signer} :
    transactionSigner config blockNumber = .eip155 signer ↔ config.isEIP155 blockNumber = true ∧
        signer = blockSigner config blockNumber := by
  unfold transactionSigner makeSigner blockSigner
  by_cases isEIP155 : config.isEIP155 blockNumber = true
  · by_cases inWindow : config.isChainIDFork blockNumber = false ∧
        config.isEIP155 blockNumber = true ∧ config.isPBFTFork blockNumber = true
    · rw [if_pos inWindow]
      simp only [isEIP155, true_and, Signer.eip155.injEq]
      exact eq_comm
    rw [if_neg inWindow, if_pos isEIP155]
    simp only [isEIP155, true_and, Signer.eip155.injEq]
    exact eq_comm
  · rw [if_neg (fun inWindow => isEIP155 inWindow.2.1), if_neg isEIP155]
    by_cases isHomestead : config.isHomestead blockNumber = true
    · simp [isEIP155, isHomestead]
    · simp [isEIP155, isHomestead]

/-- The chain id that `MakeSigner` expects at a height. -/
def heightId (config : ChainConfig) (blockNumber : Nat) : Int :=
  (config.getChainIDByHeight blockNumber).getD 0

def EIP155Signer.Takes (signer : EIP155Signer) (chainId : Int) : Prop :=
  chainId = signer.chainId ∨ signer.config.pbftBlock = none ∨
    (signer.config.isPBFTFork signer.blockNumber = false ∧ signer.config.chainIDBlock = none) ∨
    (signer.config.isPBFTFork signer.blockNumber = true ∧ signer.config.chainIDBlock ≠ none ∧
      ∃ current, signer.config.chainID = some current ∧
        (chainId = current ∨ signer.config.oldChainID = none ∨
          signer.config.oldChainID = some chainId))

theorem EIP155Signer.isForeign_eq_false_iff {signer : EIP155Signer} {chainId : Int} :
    signer.isForeign chainId = .ok false ↔ ∃ current, signer.config.chainID = some current ∧
        (chainId = current ∨ signer.config.oldChainID = none ∨
          signer.config.oldChainID = some chainId) := by
  unfold EIP155Signer.isForeign
  cases signer.config.chainID with
  | none => simp
  | some current =>
    cases signer.config.oldChainID with
    | none => simp
    | some oldChainID =>
      by_cases isCurrent : chainId = current
      · simp [isCurrent]
      · simp [isCurrent, eq_comm (a := oldChainID)]

theorem EIP155Signer.adopt_isOk_iff_takes (signer : EIP155Signer) (chainId : Int) :
    (∃ adopted, signer.adopt chainId = .ok adopted) ↔ signer.Takes chainId := by
  unfold EIP155Signer.Takes EIP155Signer.adopt EIP155Signer.takesBothIds ChainConfig.isPBFTFork
  rw [← EIP155Signer.isForeign_eq_false_iff]
  by_cases ownId : chainId = signer.chainId
  · simp [ownId]
  cases signer.config.pbftBlock with
  | none => simp [ownId]
  | some pbftBlock =>
    by_cases isPbft : pbftBlock ≤ signer.blockNumber
    · have forked : isForked (some pbftBlock) signer.blockNumber = true := isForked_some.2 isPbft
      cases signer.config.chainIDBlock with
      | none => simp [ownId, isPbft, forked]
      | some chainIDBlock =>
        simp only [ne_eq, bigCmp_eq_zero_iff, ownId, not_false_eq_true, ↓reduceIte, ge_iff_le,
          bigCmp_nonneg_iff, isPbft, bigCmp_lt_five, decide_true,
          forked, reduceCtorEq, Bool.true_eq_false, false_and, true_and, false_or]
        cases foreign : signer.isForeign chainId with
        | error err => simp
        | ok isForeign => cases isForeign <;> simp
    · have notForked : isForked (some pbftBlock) signer.blockNumber = false := by
        simpa [isForked] using isPbft
      cases signer.config.chainIDBlock with
      | none => simp [ownId, isPbft, notForked]
      | some chainIDBlock => simp [ownId, isPbft, notForked]

theorem adopt_isOk_iff {blockNumber : Nat}
    (hasBlock : config.chainIDBlock = some chainIDBlock) (chainId : Int) :
    (∃ adopted, (blockSigner config blockNumber).adopt chainId = .ok adopted) ↔
      chainId = heightId config blockNumber ∨ config.pbftBlock = none ∨
        (config.isPBFTFork blockNumber = true ∧ ∃ current, config.chainID = some current ∧
            (chainId = current ∨ config.oldChainID = none ∨ config.oldChainID = some chainId)) := by
  have sameId : (blockSigner config blockNumber).chainId = heightId config blockNumber := rfl
  have sameFork : (blockSigner config blockNumber).config.isPBFTFork
      (blockSigner config blockNumber).blockNumber = config.isPBFTFork blockNumber := rfl
  have sameBlock : (blockSigner config blockNumber).config.chainIDBlock =
      some chainIDBlock := hasBlock
  rw [EIP155Signer.adopt_isOk_iff_takes]
  unfold EIP155Signer.Takes
  rw [sameId, sameFork, sameBlock]
  simp only [reduceCtorEq, and_false, false_or, ne_eq, not_false_eq_true, true_and]
  rfl

theorem adopt_eq_ok {signer adopted : EIP155Signer} {chainId : Int}
    (ok : signer.adopt chainId = .ok adopted) : adopted.chainId = chainId := by
  unfold EIP155Signer.adopt at ok
  split at ok
  · split at ok
    · cases ok
    · split at ok
      · cases ok
      · cases ok
      · cases ok
        rfl
    · split at ok
      · cases ok
        rfl
      · cases ok
  · next sameId =>
      cases ok
      exact (bigCmp_eq_zero_iff.1 (not_not.1 sameId)).symm

/-! ## Replay protection -/

/-- The address that a signature gives under the transaction's own chain id. -/
def ownSender (tx : TxData) : Except SignerError Address :=
  recoverPlain crypto (crypto.rlpHash (tx.signedItems ++ [.uint tx.chainId, .uint 0, .uint 0]))
    tx.r tx.s (tx.v - (tx.chainId : Int) * 2 - 8) true

theorem sender_isOk_iff {signer : EIP155Signer} {tx : TxData}
    (isProtected : tx.isProtected = true) :
    (∃ sender, signer.sender crypto tx = .ok sender) ↔
      (∃ adopted, signer.adopt tx.chainId = .ok adopted) ∧
        ∃ sender, ownSender crypto tx = .ok sender := by
  unfold EIP155Signer.sender
  rw [if_neg (by simp [isProtected])]
  cases adoption : signer.adopt tx.chainId with
  | error err => simp
  | ok adopted =>
    have ownId := adopt_eq_ok adoption
    simp only [EIP155Signer.hash, adopted.isDouble, ownId,
      Int.toNat_natCast, ownSender, Except.ok.injEq, exists_eq', true_and]

def ChainConfig.currentID (config : ChainConfig) : Int :=
  config.chainID.getD 0

def ChainConfig.Expects (config : ChainConfig) (chainIDBlock : Int) (blockNumber : Nat)
    (chainId : Int) : Prop :=
  (chainId = config.currentID ∨ config.oldChainID = some chainId) ∧
    (chainIDBlock + 5 ≤ blockNumber → chainId = config.currentID)

/-- A protected transaction has a sender in a block only with an expected id. -/
def ReplayProtected (config : ChainConfig) (chainIDBlock : Int) (blockNumber : Nat)
    (tx : TxData) : Prop :=
  ∀ signer sender, transactionSigner config blockNumber = .eip155 signer → tx.isProtected = true →
    signer.sender crypto tx = .ok sender → config.Expects chainIDBlock blockNumber tx.chainId

/--
The branches of `Sender` that take an id they should not: without a PBFT height
the id of any other chain; from the PBFT height on without an old id the same;
and from the PBFT height on the old id, also five blocks after the change.
-/
def ChainConfig.Misjudges (config : ChainConfig) (chainIDBlock : Int) (blockNumber : Nat)
    (chainId : Int) : Prop :=
  (config.pbftBlock = none ∧ chainId ≠ config.currentID ∧
      (config.oldChainID = some chainId → chainIDBlock + 5 ≤ blockNumber)) ∨
    (config.isPBFTFork blockNumber = true ∧
      ∃ current, config.chainID = some current ∧ chainId ≠ current ∧
        (config.oldChainID = none ∨
          (config.oldChainID = some chainId ∧ chainIDBlock + 5 ≤ blockNumber)))

theorem expects_heightId (hasBlock : config.chainIDBlock = some chainIDBlock) (blockNumber : Nat) :
    config.Expects chainIDBlock blockNumber (heightId config blockNumber) := by
  unfold heightId ChainConfig.getChainIDByHeight
  by_cases changed : chainIDBlock ≤ blockNumber
  · rw [if_pos (by simpa [hasBlock] using changed)]
    exact ⟨Or.inl rfl, fun _ => rfl⟩
  rw [if_neg (by simpa [hasBlock] using changed)]
  cases hasOld : config.oldChainID with
  | none => exact ⟨Or.inl rfl, fun _ => rfl⟩
  | some oldChainID =>
    refine ⟨Or.inr hasOld, ?_⟩
    intro fiveLater
    exact absurd fiveLater (by omega)

theorem adopt_unexpected_iff
    (hasBlock : config.chainIDBlock = some chainIDBlock) (blockNumber : Nat) (chainId : Int) :
    ((∃ adopted, (blockSigner config blockNumber).adopt chainId = .ok adopted) ∧
      ¬config.Expects chainIDBlock blockNumber chainId) ↔
      config.Misjudges chainIDBlock blockNumber chainId := by
  rw [adopt_isOk_iff hasBlock]
  constructor
  · rintro ⟨isHeightId | noPbft | ⟨isPbft, current, hasCurrent, taken⟩, unexpected⟩
    · subst isHeightId
      exact absurd (expects_heightId hasBlock blockNumber) unexpected
    · refine Or.inl ⟨noPbft, ?_, ?_⟩
      · intro isCurrent
        exact unexpected ⟨Or.inl isCurrent, fun _ => isCurrent⟩
      · intro isOld
        by_contra early
        exact unexpected ⟨Or.inr isOld, fun late => absurd late early⟩
    · have isCurrent : config.currentID = current := by simp [ChainConfig.currentID, hasCurrent]
      have otherId : chainId ≠ current := by
        intro sameId
        subst sameId
        exact unexpected ⟨Or.inl isCurrent.symm, fun _ => isCurrent.symm⟩
      refine Or.inr ⟨isPbft, current, hasCurrent, otherId, ?_⟩
      rcases taken with sameId | noOld | isOld
      · exact absurd sameId otherId
      · exact Or.inl noOld
      · refine Or.inr ⟨isOld, ?_⟩
        by_contra early
        exact unexpected ⟨Or.inr isOld, fun late => absurd late early⟩
  · rintro (⟨noPbft, otherId, onlyLate⟩ |
      ⟨isPbft, current, hasCurrent, otherId, noOld | ⟨isOld, late⟩⟩)
    · refine ⟨Or.inr (Or.inl noPbft), ?_⟩
      rintro ⟨isCurrent | isOld, onlyCurrent⟩
      · exact otherId isCurrent
      · exact otherId (onlyCurrent (onlyLate isOld))
    · refine ⟨Or.inr (Or.inr ⟨isPbft, current, hasCurrent, Or.inr (Or.inl noOld)⟩), ?_⟩
      rintro ⟨isCurrent | isOld, -⟩
      · exact otherId (by simpa [ChainConfig.currentID, hasCurrent] using isCurrent)
      · simp [noOld] at isOld
    · refine ⟨Or.inr (Or.inr ⟨isPbft, current, hasCurrent, Or.inr (Or.inr isOld)⟩), ?_⟩
      rintro ⟨-, onlyCurrent⟩
      exact otherId (by simpa [ChainConfig.currentID, hasCurrent] using onlyCurrent late)

/--
A transaction is protected against replay in a block unless its chain id takes
one of the misjudging branches and its signature recovers under that id.
-/
theorem replayProtected_iff {config : ChainConfig} {chainIDBlock : Int}
    (hasBlock : config.chainIDBlock = some chainIDBlock) (blockNumber : Nat) (tx : TxData) :
    ReplayProtected crypto config chainIDBlock blockNumber tx ↔
      (config.isEIP155 blockNumber = true → tx.isProtected = true →
        (∃ sender, ownSender crypto tx = .ok sender) →
        ¬config.Misjudges chainIDBlock blockNumber tx.chainId) := by
  unfold ReplayProtected
  constructor
  · intro protects isEIP155 isProtected recovers misjudged
    obtain ⟨adopts, unexpected⟩ :=
      (adopt_unexpected_iff hasBlock blockNumber tx.chainId).2 misjudged
    obtain ⟨sender, found⟩ := (sender_isOk_iff crypto isProtected).2 ⟨adopts, recovers⟩
    exact unexpected (protects _ sender
      (transactionSigner_eq_eip155_iff.2 ⟨isEIP155, rfl⟩) isProtected found)
  · intro safe signer sender isSigner isProtected found
    obtain ⟨isEIP155, sameSigner⟩ := transactionSigner_eq_eip155_iff.1 isSigner
    subst sameSigner
    obtain ⟨adopts, recovers⟩ := (sender_isOk_iff crypto isProtected).1 ⟨sender, found⟩
    by_contra unexpected
    exact safe isEIP155 isProtected recovers
      ((adopt_unexpected_iff hasBlock blockNumber tx.chainId).1 ⟨adopts, unexpected⟩)

namespace Sample

def mainnet : ChainConfig where
  oldChainID := some 1
  chainID := some 20
  homesteadBlock := some 1
  eip155Block := some 3
  chainIDBlock := some 2687340
  pbftBlock := some 2426880

def library : Crypto where
  rlpHash := fun _ => emptyHash
  ecrecover := fun _ _ => .ok [4]
  keccak256 := fun _ => emptyHash

def signedFor (chainId : Nat) : TxData where
  accountNonce := 0
  price := 1
  gasLimit := 21000
  recipient := some blackAddr
  amount := 1
  payload := []
  v := 35 + 2 * chainId
  r := 1
  s := 1

end Sample

open Sample

/--
On the main network a transaction for the old chain id, which is the one of
another chain, is still accepted long after the change.
-/
theorem old_chain_id_replayed :
    ¬ReplayProtected library mainnet 2687340 20000000 (signedFor 1) := by
  intro protects
  have expected := protects (blockSigner mainnet 20000000) (fixedBytes 20 emptyHash.toList)
    (transactionSigner_eq_eip155_iff.2 ⟨by decide, rfl⟩) (by decide) (by rfl)
  exact absurd (expected.2 (by decide)) (by decide)

/-- Before that height the same transaction is an expected one. -/
theorem replayProtected_before_change :
    ReplayProtected library mainnet 2687340 2687344 (signedFor 1) :=
  (replayProtected_iff library rfl 2687344 (signedFor 1)).2 (by
      rintro - - - (⟨noPbft, -⟩ | ⟨-, current, -, -, noOld | ⟨-, late⟩⟩)
      · cases noPbft
      · cases noOld
      · exact absurd late (by decide))

end EscSideChain.Types
