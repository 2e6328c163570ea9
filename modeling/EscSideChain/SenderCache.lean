import EscSideChain.MemoTable
import EscSideChain.TransactionSigning

namespace EscSideChain.Types

open Pbft

/-!
# The sender cache of a transaction

`Sender` of `core/types/transaction_signing.go`.  A transaction keeps the last address
that was derived from its signature, with the signer that derived it, and the next call
takes that address if the two signers are `Equal`.  Two EIP155 signers are equal if they
have the same chain id, although their fork data and block number decide which
transactions they take.
-/

/-- `Equal`; signers of two kinds are never equal. -/
def Signer.equal : Signer → Signer → Bool
  | .eip155 signer, .eip155 other => bigCmp other.chainId signer.chainId = 0
  | .homestead, .homestead => true
  | .frontier, .frontier => true
  | _, _ => false

structure SigCache where
  signer : Signer
  fromAddress : Address

/-- `Transaction`: the data, and the cache `from`. -/
structure CachedTx where
  data : TxData
  fromCache : Option SigCache

namespace CachedTx

def fresh (data : TxData) : CachedTx where
  data := data
  fromCache := none

variable (crypto : Crypto)

/-- The part of `Sender` below the cache. -/
def deriveSender (signer : Signer) (tx : CachedTx) : CachedTx × Except SignerError Address :=
  match signer.sender crypto tx.data with
  | .error err => (tx, .error err)
  | .ok addr => ({ tx with fromCache := some ⟨signer, addr⟩ }, .ok addr)

/-- `Sender`: the transaction afterwards, and the answer. -/
def sender (signer : Signer) (tx : CachedTx) : CachedTx × Except SignerError Address :=
  match tx.fromCache with
  | some sigCache =>
    if sigCache.signer.equal signer then (tx, .ok sigCache.fromAddress)
    else deriveSender crypto signer tx
  | none => deriveSender crypto signer tx

/-- The transaction after some calls of `Sender`. -/
def afterCalls : CachedTx → List Signer → CachedTx :=
  EventRuns.run fun tx signer => (tx.sender crypto signer).1

/-! ## The cache as a memo -/

def senderTable (data : TxData) : MemoTable.Table Signer Address SignerError where
  equal := Signer.equal
  compute := fun signer => signer.sender crypto data

def entry (tx : CachedTx) : Option (Signer × Address) :=
  tx.fromCache.map fun sigCache => (sigCache.signer, sigCache.fromAddress)

theorem sender_eq_call (signer : Signer) (tx : CachedTx) :
    (tx.sender crypto signer).1.data = tx.data ∧ (tx.sender crypto signer).1.entry =
        ((senderTable crypto tx.data).call tx.entry signer).1 ∧
      (tx.sender crypto signer).2 = ((senderTable crypto tx.data).call tx.entry signer).2 := by
  obtain ⟨data, fromCache⟩ := tx
  have derived : ∀ cache : Option SigCache,
      (deriveSender crypto signer ⟨data, cache⟩).1.data = data ∧
        (deriveSender crypto signer ⟨data, cache⟩).1.entry =
          ((senderTable crypto data).fill (entry ⟨data, cache⟩) signer).1 ∧
        (deriveSender crypto signer ⟨data, cache⟩).2 =
          ((senderTable crypto data).fill (entry ⟨data, cache⟩) signer).2 := by
    intro cache
    unfold deriveSender MemoTable.Table.fill senderTable
    dsimp only
    cases signer.sender crypto data with
    | error err => exact ⟨rfl, rfl, rfl⟩
    | ok addr => exact ⟨rfl, rfl, rfl⟩
  cases fromCache with
  | none => exact derived none
  | some sigCache =>
    by_cases hit : sigCache.signer.equal signer = true
    · simp [sender, MemoTable.Table.call, senderTable, entry, hit]
    · simpa [sender, MemoTable.Table.call, senderTable, entry, hit] using derived (some sigCache)

theorem afterCalls_eq_entryAfter (tx : CachedTx) (signers : List Signer) :
    (tx.afterCalls crypto signers).data = tx.data ∧ (tx.afterCalls crypto signers).entry =
        (senderTable crypto tx.data).entryAfter tx.entry signers := by
  induction signers generalizing tx with
  | nil => exact ⟨rfl, rfl⟩
  | cons signer rest inductionHypothesis =>
    obtain ⟨sameData, sameEntry, -⟩ := sender_eq_call crypto signer tx
    obtain ⟨laterData, laterEntry⟩ := inductionHypothesis (tx.sender crypto signer).1
    refine ⟨laterData.trans sameData, laterEntry.trans ?_⟩
    rw [sameData, sameEntry]
    rfl

theorem sender_afterCalls (data : TxData) (signers : List Signer) (signer : Signer) :
    (((fresh data).afterCalls crypto signers).sender crypto signer).2 =
      ((senderTable crypto data).call
        ((senderTable crypto data).entryAfter none signers) signer).2 := by
  obtain ⟨sameData, sameEntry⟩ := afterCalls_eq_entryAfter crypto (fresh data) signers
  rw [(sender_eq_call crypto signer _).2.2, sameData, sameEntry]
  rfl

theorem sender_fresh (signer : Signer) (data : TxData) :
    ((fresh data).sender crypto signer).2 = signer.sender crypto data :=
  (sender_eq_call crypto signer (fresh data)).2.2.trans (MemoTable.Table.fill_snd none signer)

end CachedTx

/-! ## What a signer answers -/

variable (crypto : Crypto)

theorem EIP155Signer.sender_of_takes {signer : EIP155Signer} {tx : TxData}
    (isProtected : tx.isProtected = true) (takes : signer.Takes tx.chainId) :
    signer.sender crypto tx = ownSender crypto tx := by
  obtain ⟨adopted, adoption⟩ := (signer.adopt_isOk_iff_takes tx.chainId).2 takes
  have ownId := adopt_eq_ok adoption
  unfold EIP155Signer.sender
  rw [if_neg (by simp [isProtected]), adoption]
  simp only [EIP155Signer.hash, adopted.isDouble, ownId, Int.toNat_natCast, ownSender]

theorem EIP155Signer.takes_of_sender {signer : EIP155Signer} {tx : TxData} {sender : Address}
    (isProtected : tx.isProtected = true) (found : signer.sender crypto tx = .ok sender) :
    signer.Takes tx.chainId :=
  (signer.adopt_isOk_iff_takes tx.chainId).1
    ((sender_isOk_iff crypto isProtected).1 ⟨sender, found⟩).1

/-! ## Coherence of the cache -/

/-- The call after another signer's call gives what a fresh transaction gives. -/
def CacheCoherent (tx : TxData) (first second : EIP155Signer) : Prop :=
  (((CachedTx.fresh tx).sender crypto (.eip155 first)).1.sender crypto (.eip155 second)).2 =
    ((CachedTx.fresh tx).sender crypto (.eip155 second)).2

/--
The answer of the first signer is handed to a second one that would refuse: the
signers have the same chain id, the transaction another one, the first signer
takes that id and the second does not, and the signature recovers under it.
-/
def EIP155Signer.Misleads (tx : TxData) (first second : EIP155Signer) : Prop :=
  tx.isProtected = true ∧ first.chainId = second.chainId ∧ first.Takes tx.chainId ∧
    ¬second.Takes tx.chainId ∧ ∃ sender, ownSender crypto tx = .ok sender

theorem Signer.equal_eip155_iff {first second : EIP155Signer} :
    Signer.equal (.eip155 first) (.eip155 second) = true ↔ first.chainId = second.chainId := by
  simp only [Signer.equal, bigCmp_eq_zero_iff, decide_eq_true_eq]
  exact eq_comm

theorem EIP155Signer.sender_of_not_isProtected {tx : TxData} (signer : EIP155Signer)
    (plain : tx.isProtected = false) : signer.sender crypto tx = homesteadSender crypto tx := by
  simp [EIP155Signer.sender, plain]

theorem equal_answers_iff (tx : TxData) (first second : EIP155Signer) :
    (∀ sender, first.sender crypto tx = .ok sender →
        Signer.equal (.eip155 first) (.eip155 second) = true →
          second.sender crypto tx = .ok sender) ↔
      ¬EIP155Signer.Misleads crypto tx first second := by
  rw [Signer.equal_eip155_iff]
  constructor
  · rintro answers ⟨isProtected, sameId, takes, refuses, sender, recovers⟩
    have found := answers sender ((first.sender_of_takes crypto isProtected takes).trans recovers)
      sameId
    exact refuses (second.takes_of_sender crypto isProtected found)
  · intro notMisled sender found sameId
    cases isProtected : tx.isProtected with
    | false =>
      rw [first.sender_of_not_isProtected crypto isProtected] at found
      rw [second.sender_of_not_isProtected crypto isProtected, found]
    | true =>
      have takes := first.takes_of_sender crypto isProtected found
      have recovers : ownSender crypto tx = .ok sender :=
        (first.sender_of_takes crypto isProtected takes).symm.trans found
      by_cases taken : second.Takes tx.chainId
      · rw [second.sender_of_takes crypto isProtected taken, recovers]
      · exact absurd ⟨isProtected, sameId, takes, taken, sender, recovers⟩ notMisled

/-- The second call answers as a fresh one unless the first signer misleads it. -/
theorem cacheCoherent_iff (tx : TxData) (first second : EIP155Signer) :
    CacheCoherent crypto tx first second ↔ ¬EIP155Signer.Misleads crypto tx first second := by
  unfold CacheCoherent
  rw [CachedTx.sender_fresh, ← equal_answers_iff]
  have answer := CachedTx.sender_afterCalls crypto tx [.eip155 first] (.eip155 second)
  have second_iff :=
    (CachedTx.senderTable crypto tx).second_eq_compute_iff (.eip155 first) (.eip155 second)
  exact (Iff.of_eq (congrArg (· = second.sender crypto tx) answer)).trans second_iff

namespace Sample

def poolSigner : EIP155Signer :=
  newEIP155Signer (mainnet.getChainIDByHeight 20000000)

/-- The signer of the miner and of `ApplyTransaction` at the same height. -/
def minerSigner : EIP155Signer :=
  blockSigner mainnet 20000000

end Sample

open Sample

/--
On the main network the signer that the pool makes at the change of the chain id
has no fork data and takes a transaction of any other chain; the miner's signer
would refuse it, but is equal and is given the cached sender.
-/
theorem pool_sender_misleads_miner : ¬CacheCoherent library (signedFor 5) poolSigner
      minerSigner := by
  intro coherent
  have refused : minerSigner.sender library (signedFor 5) = .error .invalidChainId := by
    rfl
  have accepted : (((CachedTx.fresh (signedFor 5)).sender
      library (.eip155 poolSigner)).1.sender library (.eip155 minerSigner)).2 =
      .ok (fixedBytes 20 emptyHash.toList) := by
    rfl
  have fresh := CachedTx.sender_fresh library (.eip155 minerSigner) (signedFor 5)
  exact nomatch accepted.symm.trans (coherent.trans (fresh.trans refused))

end EscSideChain.Types
