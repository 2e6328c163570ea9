import EscSideChain.DposPayload
import EscSideChain.SpvArbiters
import EscSideChain.ThresholdCount

namespace EscSideChain.Spv

open Dpos

/-!
# Signatures of arbiters over a message

The loop that looks for an arbiter under whose key a signature verifies, which
the small cross-chain transfers and the refunds of failed withdrawals share,
and the signature threshold of the small cross-chain transfers.
-/

def signedByAny (ela : ElaLibrary) (data sig : Bytes) : List Bytes → Bool
  | [] => false
  | pbk :: rest =>
    match ela.decodePoint pbk with
    | .error _ => signedByAny ela data sig rest
    | .ok pubKey =>
      match ela.verify pubKey data sig with
      | .ok () => true
      | .error _ => signedByAny ela data sig rest

theorem signedByAny_iff {ela : ElaLibrary} {data sig : Bytes} {arbiters : List Bytes} :
    signedByAny ela data sig arbiters = true ↔
      ∃ arbiter ∈ arbiters, ValidSignature ela arbiter data sig := by
  induction arbiters with
  | nil => simp [signedByAny]
  | cons pbk rest inductionHypothesis =>
    rw [List.exists_mem_cons_iff, ← inductionHypothesis, signedByAny, ValidSignature]
    cases decoded : ela.decodePoint pbk with
    | error reason => simp
    | ok pubKey =>
      cases verified : ela.verify pubKey data sig with
      | error reason => simp [verified]
      | ok accepted => simp [verified]

/-! ## The threshold of the small cross-chain transfers -/

variable (ela : ElaLibrary)

def blockArbiters (service : Option SpvService) (engine : PbftEngine) (blockHeight : UInt64) :
    Except String (List Bytes × Nat) :=
  match engine.blockNonceByHeight blockHeight with
  | none => .error "current block is nil"
  | some nonce =>
    if nonce = 0 then .ok (engine.configProducers.map hex2Bytes, engine.configProducers.length)
    else getProducers service nonce

def signatureCounts (arbiters : List Bytes) (buff : Bytes) (signature : Bytes) : Bool :=
  match hexDecodeString signature with
  | none => false
  | some sig => signedByAny ela buff sig arbiters

def verifySmallCrossTxBySignature (service : Option SpvService) (engine : PbftEngine)
    (rawTx : Bytes) (signatures : List Bytes) (blockHeight : UInt64) : Except String Bool :=
  match blockArbiters service engine blockHeight with
  | .error reason => .error reason
  | .ok (arbiters, total) =>
    match hexDecodeString rawTx with
    | none => .error (hexDecodeError rawTx)
    | some buff =>
      .ok (ThresholdCount.reaches (getMaxArbitersSign total)
        (signatureCounts ela arbiters buff) 0 signatures)

def SignsText (buff arbiter signature : Bytes) : Prop :=
  ∃ sig ∈ hexDecodeString signature, ValidSignature ela arbiter buff sig

instance (buff arbiter signature : Bytes) : Decidable (SignsText ela buff arbiter signature) :=
  inferInstanceAs (Decidable (∃ sig ∈ hexDecodeString signature, _))

def textSigners (arbiters : List Bytes) (buff : Bytes) (signatures : List Bytes) : Finset Bytes :=
  ThresholdCount.activeOwners arbiters.toFinset (SignsText ela buff) signatures

theorem verifySmallCrossTxBySignature_eq_true_iff {service : Option SpvService}
    {engine : PbftEngine} {rawTx : Bytes} {signatures : List Bytes} {blockHeight : UInt64} :
    verifySmallCrossTxBySignature ela service engine rawTx signatures blockHeight = .ok true ↔
      ∃ arbiters total buff, blockArbiters service engine blockHeight = .ok (arbiters, total) ∧
          hexDecodeString rawTx = some buff ∧ getMaxArbitersSign total ≤ signatures.countP
              (signatureCounts ela arbiters buff) := by
  unfold verifySmallCrossTxBySignature
  cases looked : blockArbiters service engine blockHeight with
  | error reason => simp
  | ok answer =>
    obtain ⟨arbiters, total⟩ := answer
    cases decoded : hexDecodeString rawTx with
    | none => simp
    | some buff => simp [ThresholdCount.reaches_iff (getMaxArbitersSign_pos total)]

/--
At least the threshold of different arbiters of the block have a valid
signature over the raw transaction among those given.
-/
def ArbiterThresholdMet (service : Option SpvService) (engine : PbftEngine) (rawTx : Bytes)
    (signatures : List Bytes) (blockHeight : UInt64) : Prop :=
  ∃ arbiters total buff, blockArbiters service engine blockHeight = .ok (arbiters, total) ∧
      hexDecodeString rawTx = some buff ∧ getMaxArbitersSign total ≤
        (textSigners ela arbiters buff signatures).card

/--
Fewer signatures than the threshold verify, counting repetitions, or as many
different arbiters stand behind them; a verdict needs the block's arbiters and
a decodable transaction in any case.
-/
def FewOrDistinctSigners (service : Option SpvService) (engine : PbftEngine) (rawTx : Bytes)
    (signatures : List Bytes) (blockHeight : UInt64) : Prop :=
  ∀ arbiters total buff, blockArbiters service engine blockHeight = .ok (arbiters, total) →
      hexDecodeString rawTx = some buff → signatures.countP (signatureCounts ela arbiters buff) <
          getMaxArbitersSign total ∨
        getMaxArbitersSign total ≤ (textSigners ela arbiters buff signatures).card

/--
The small cross-chain threshold, for every transaction, signature list and
height: a positive verdict means enough different arbiters exactly when the
signatures that verify are few or come from enough different arbiters.
-/
theorem smallCrossThreshold_characterization (service : Option SpvService) (engine : PbftEngine)
    (rawTx : Bytes) (signatures : List Bytes) (blockHeight : UInt64) :
    (verifySmallCrossTxBySignature ela service engine rawTx signatures blockHeight = .ok true →
        ArbiterThresholdMet ela service engine rawTx signatures blockHeight) ↔
      FewOrDistinctSigners ela service engine rawTx
        signatures blockHeight := by
  rw [verifySmallCrossTxBySignature_eq_true_iff]
  constructor
  · intro sound arbiters total buff looked decoded
    rw [← not_le, ← imp_iff_not_or]
    intro reached
    obtain ⟨sameArbiters, sameTotal, sameBuff, sameLooked, sameDecoded, distinct⟩ :=
      sound ⟨arbiters, total, buff, looked, decoded, reached⟩
    rw [looked] at sameLooked
    rw [decoded] at sameDecoded
    cases sameLooked
    cases sameDecoded
    exact distinct
  · rintro condition ⟨arbiters, total, buff, looked, decoded, reached⟩
    rcases condition arbiters total buff looked decoded with few | distinct
    · omega
    · exact ⟨arbiters, total, buff, looked, decoded, distinct⟩

/-- An engine at a block without SPV height, with three listed producers. -/
def threeProducers : PbftEngine where
  currentBlockNonce := 0
  blockNonceByHeight _ := some 0
  configProducers := [[1], [2], [3]].map bytes2Hex

def firstSignature : Bytes :=
  bytes2Hex [1, 7]

/--
Three producers ask for three signatures, and three copies of one producer's
signature are enough.
-/
theorem smallCross_accepts_repeated_signature :
    let ela := plainLibrary []
    let signatures := [firstSignature, firstSignature, firstSignature]
    verifySmallCrossTxBySignature ela none threeProducers (bytes2Hex [7]) signatures 10 = .ok true ∧
      ¬ArbiterThresholdMet ela none threeProducers (bytes2Hex [7]) signatures 10 := by
  refine ⟨by decide +kernel, ?_⟩
  rintro ⟨arbiters, total, buff, looked, decoded, enough⟩
  have seated : blockArbiters none threeProducers 10 = .ok ([[1], [2], [3]], 3) := by decide +kernel
  have message : hexDecodeString (bytes2Hex [7]) = some [7] := by decide +kernel
  cases seated.symm.trans looked
  cases message.symm.trans decoded
  revert enough
  decide +kernel

end EscSideChain.Spv
