import EscSideChain.SpvRecharge

namespace EscSideChain.Spv

open Dpos

/-!
# Storing a recharge and reading it back

`saveOutputPayload` joins each field of the outputs of a main-chain transaction
with commas, and `GetRechargeDataByTxhash` splits the four texts again.  The
texts of addresses, fees and amounts never have a comma in them.  A memo is any
byte string.
-/

/-! ## Comma-separated lists -/

theorem comma_notMem_of_mem_splitComma (text : Bytes) : ∀ part ∈ splitComma text, comma ∉ part := by
  unfold splitComma
  induction text with
  | nil => simp
  | cons byte rest inductionHypothesis =>
    rw [List.splitOn_cons_eq_if_modifyHead]
    split
    · simpa using inductionHypothesis
    next other =>
      have notComma : comma ≠ byte := by
        intro same
        exact other (by simp [same])
      obtain ⟨first, others, parts⟩ := List.exists_cons_of_ne_nil (List.splitOn_ne_nil comma rest)
      rw [parts] at inductionHypothesis ⊢
      simpa [notComma] using inductionHypothesis

theorem splitComma_joinComma {parts : List Bytes} (nonempty : parts ≠ [])
    (noComma : ∀ part ∈ parts, comma ∉ part) : splitComma (joinComma parts) = parts :=
  List.splitOn_intercalate comma noComma nonempty

theorem length_le_splitComma_joinComma (parts : List Bytes) :
    parts.length ≤ (splitComma (joinComma parts)).length := by
  unfold splitComma joinComma
  induction parts with
  | nil => exact Nat.zero_le _
  | cons first rest inductionHypothesis =>
    cases rest with
    | nil => exact List.length_pos_of_ne_nil (List.splitOn_ne_nil _ _)
    | cons second others =>
      have positive : 0 < (first.splitOn comma).length :=
        List.length_pos_of_ne_nil (List.splitOn_ne_nil _ _)
      simp only [List.intercalate_cons_cons, List.append_assoc,
        List.singleton_append, List.splitOn_append_cons_self,
        List.length_append, List.length_cons] at *
      omega

/-! ## Storing outputs -/

/-- `saveOutputPayload`, as far as it changes the store. -/
def saveOutputPayload (format : ElaFormat) (store : SpvStore)
    (outputs : List (Int64 × CrossChainOutput)) (txHash : Bytes) : SpvStore :=
  store.putOutputs txHash (joinComma (outputs.map fun output =>
      format.fixed64String (output.1 - output.2.targetAmount)))
    (joinComma (outputs.map fun output => output.2.targetAddress))
    (joinComma (outputs.map fun output =>
      format.fixed64String output.1))
    (joinComma (outputs.map fun output => output.2.targetData))

variable (format : ElaFormat)

theorem keys_distinct (elaHash : Bytes) :
    feeKey elaHash ≠ addressKey elaHash ∧ feeKey elaHash ≠ outputKey elaHash ∧
      feeKey elaHash ≠ inputKey elaHash ∧ addressKey elaHash ≠ outputKey elaHash ∧
      addressKey elaHash ≠ inputKey elaHash ∧ outputKey elaHash ≠ inputKey elaHash := by
  simp only [feeKey, addressKey, outputKey, inputKey, ne_eq, List.append_cancel_left_eq]
  decide

theorem putOutputs_get {store : SpvStore} {txHash fees addresses amounts memos : Bytes}
    {before : Bytes → Option Bytes} (database : store.transactionDb = some before)
    (fresh : store.spvTxhash ≠ txHash) :
    ∃ get, (store.putOutputs txHash fees addresses amounts memos).transactionDb = some get ∧
      get (feeKey txHash) = some fees ∧ get (addressKey txHash) = some addresses ∧
      get (outputKey txHash) = some amounts ∧ get (inputKey txHash) = some memos := by
  obtain ⟨feeAddress, feeOutput, feeInput, addressOutput,
    addressInput, outputInput⟩ := keys_distinct txHash
  unfold SpvStore.putOutputs
  rw [if_neg fresh, database]
  refine ⟨_, rfl, ?_, ?_, ?_, ?_⟩ <;>
    simp [Function.update_of_ne, *]

theorem isFailedElaTx_putOutputs (service : Option RechargeService)
    (store : SpvStore) (txHash fees addresses amounts memos elaTx : Bytes) :
    isFailedElaTx format service (store.putOutputs txHash fees addresses amounts memos) elaTx =
      isFailedElaTx format service store elaTx := by
  have sameList : (store.putOutputs txHash fees addresses amounts
      memos).failedTxList = store.failedTxList := by
    unfold SpvStore.putOutputs
    split <;> rfl
  unfold isFailedElaTx
  rw [sameList]

/-! ## Reading them back -/

/--
The text of an amount is read back as that amount, and there is no comma in it.
-/
structure ElaFormat.ReadsAmounts (format : ElaFormat) : Prop where
  readBack : ∀ amount, format.stringToFixed64 (format.fixed64String amount) = .ok amount
  noComma : ∀ amount, comma ∉ format.fixed64String amount

def rechargeWith (output : Int64 × CrossChainOutput) (memo : Bytes) : RechargeData where
  targetAddress := hexToAddress output.2.targetAddress
  targetAmount := output.1.toInt * rate
  fee := (output.1 - output.2.targetAmount).toInt * rate
  targetData := memo

def rechargeData (output : Int64 × CrossChainOutput) : RechargeData :=
  rechargeWith output output.2.targetData

theorem comma_notMem_of_isHexAddress {text : Bytes} (isAddress : isHexAddress text = true) :
    comma ∉ text := by
  have digit : fromHexChar comma = none := by decide
  unfold isHexAddress at isAddress
  dsimp only at isAddress
  split at isAddress
  · next prefixed =>
      rcases text with _ | ⟨zero, _ | ⟨letter, digits⟩⟩
      · cases prefixed
      · simp [has0xPrefix] at prefixed
      · simp only [List.drop_succ_cons, List.drop_zero,
          Bool.and_eq_true, List.all_eq_true] at isAddress
        intro mem
        rcases List.mem_cons.1 mem with atZero | afterZero
        · subst atZero
          simp [has0xPrefix, comma] at prefixed
        · rcases List.mem_cons.1 afterZero with atLetter | inDigits
          · subst atLetter
            simp [has0xPrefix, comma] at prefixed
          · simpa [digit] using isAddress.2 comma inDigits
  · simp only [Bool.and_eq_true, List.all_eq_true] at isAddress
    intro mem
    simpa [digit] using isAddress.2 comma mem

section ReadBack

variable {format : ElaFormat}

theorem ElaFormat.ReadsAmounts.parseAmount_eq (texts : format.ReadsAmounts) (amount : Int64) :
    parseAmount format (format.fixed64String amount) = .ok (amount.toInt * rate) := by
  unfold parseAmount
  rw [texts.readBack amount]

theorem ElaFormat.ReadsAmounts.rechargeLoop_eq (texts : format.ReadsAmounts)
    (outputs : List (Int64 × CrossChainOutput)) (memos : List Bytes)
    (addresses : ∀ output ∈ outputs, isHexAddress output.2.targetAddress = true)
    (enough : outputs.length ≤ memos.length) :
    rechargeLoop format (outputs.map fun output => output.2.targetAddress)
        (outputs.map fun output =>
          format.fixed64String (output.1 - output.2.targetAmount))
        (outputs.map fun output => format.fixed64String output.1)
        memos =
      .ok (List.zipWith rechargeWith outputs memos) := by
  induction outputs generalizing memos with
  | nil => rfl
  | cons output rest inductionHypothesis =>
    cases memos with
    | nil => simp at enough
    | cons memo memos =>
      have first : rechargeOf format output.2.targetAddress
          (format.fixed64String (output.1 - output.2.targetAmount))
          (format.fixed64String output.1) (some memo) = .ok (rechargeWith output memo) := by
        unfold rechargeOf
        rw [addresses output List.mem_cons_self, texts.parseAmount_eq, texts.parseAmount_eq]
        rfl
      have others := inductionHypothesis memos (fun other mem =>
          addresses other (List.mem_cons_of_mem _ mem))
        (Nat.le_of_succ_le_succ enough)
      simp only [List.map_cons, rechargeLoop, List.head?_cons,
        List.tail_cons, first, others, List.zipWith_cons_cons]

theorem map_targetData_zipWith (outputs : List (Int64 × CrossChainOutput)) (memos : List Bytes) :
    (List.zipWith rechargeWith outputs memos).map RechargeData.targetData =
      memos.take outputs.length := by
  induction outputs generalizing memos with
  | nil => rfl
  | cons output rest inductionHypothesis =>
    cases memos with
    | nil => rfl
    | cons memo memos => simp [rechargeWith, inductionHypothesis memos]

theorem ElaFormat.ReadsAmounts.getRechargeData_saved (texts : format.ReadsAmounts)
    (service : Option RechargeService) {store : SpvStore}
    {outputs : List (Int64 × CrossChainOutput)} (id : Bytes) (nonempty : outputs ≠ [])
    (addresses : ∀ output ∈ outputs, isHexAddress output.2.targetAddress = true)
    (hasDatabase : store.transactionDb.isSome = true) (fresh : store.spvTxhash ≠ bytes2Hex id)
    (notFailed : isFailedElaTx format service store (bytes2Hex id) = .ok false) :
    let datas := List.zipWith rechargeWith outputs
      (splitComma (joinComma (outputs.map fun output => output.2.targetData)))
    getRechargeDataByTxhash format service (saveOutputPayload format store outputs (bytes2Hex id))
        (bytes2Hex id) =
      .ok (datas, totalFee datas) := by
  obtain ⟨before, database⟩ := Option.isSome_iff_exists.1 hasDatabase
  obtain ⟨get, stored, fees, addrs, amounts, memos⟩ :
      ∃ get, (saveOutputPayload format store outputs (bytes2Hex id)).transactionDb = some get ∧ _ :=
    putOutputs_get database fresh
  have feesRead : splitComma (joinComma (outputs.map fun output =>
      format.fixed64String (output.1 - output.2.targetAmount))) = _ :=
    splitComma_joinComma (by simpa using nonempty)
      (List.forall_mem_map.2 fun _ _ => texts.noComma _)
  have addrsRead : splitComma (joinComma (outputs.map fun output =>
      output.2.targetAddress)) = _ :=
    splitComma_joinComma (by simpa using nonempty) (List.forall_mem_map.2 fun output listed =>
        comma_notMem_of_isHexAddress (addresses output listed))
  have amountsRead : splitComma (joinComma (outputs.map fun output =>
      format.fixed64String output.1)) = _ :=
    splitComma_joinComma (by simpa using nonempty)
      (List.forall_mem_map.2 fun _ _ => texts.noComma _)
  have loop := texts.rechargeLoop_eq outputs
    (splitComma (joinComma (outputs.map fun output => output.2.targetData))) addresses (by
      simpa using length_le_splitComma_joinComma (outputs.map fun output => output.2.targetData))
  have listed : isFailedElaTx format service (saveOutputPayload format store outputs (bytes2Hex id))
      (bytes2Hex id) = .ok false :=
    (isFailedElaTx_putOutputs ..).trans notFailed
  unfold getRechargeDataByTxhash
  simp only [strip0x_bytes2Hex, stored, listed,
    fees, addrs, amounts, memos, Option.getD_some, feesRead, addrsRead, amountsRead, loop, List.length_map, ne_eq,
    not_true_eq_false, or_self, ↓reduceIte]

/--
A stored list of outputs is read back exactly as it was, with the sum of its
fees, if and only if no memo has a comma in it.
-/
theorem saved_outputs_read_back_iff (texts : format.ReadsAmounts) (service : Option RechargeService)
    (store : SpvStore) (outputs : List (Int64 × CrossChainOutput)) (id : Hash)
    (nonempty : outputs ≠ [])
    (addresses : ∀ output ∈ outputs, isHexAddress output.2.targetAddress = true)
    (hasDatabase : store.transactionDb.isSome = true)
    (fresh : store.spvTxhash ≠ bytes2Hex id.toList)
    (notFailed : isFailedElaTx format service store (bytes2Hex id.toList) = .ok false) :
    getRechargeDataByTxhash format service
        (saveOutputPayload format store outputs (bytes2Hex id.toList)) (bytes2Hex id.toList) =
      .ok (outputs.map rechargeData, (outputs.map fun output =>
          (output.1 - output.2.targetAmount).toInt * rate).sum) ↔
    ∀ output ∈ outputs, comma ∉ output.2.targetData := by
  rw [texts.getRechargeData_saved service id.toList nonempty addresses hasDatabase fresh notFailed]
  constructor
  · intro same output mem
    have datas := congrArg (List.map RechargeData.targetData)
      (Prod.ext_iff.1 (Except.ok.inj same)).1
    rw [map_targetData_zipWith, List.map_map] at datas
    have listed : output.2.targetData ∈ (outputs.map fun output => output.2.targetData) :=
      List.mem_map_of_mem mem
    exact comma_notMem_of_mem_splitComma _ _ (List.mem_of_mem_take (datas.symm ▸ listed))
  · intro noComma
    rw [splitComma_joinComma (by simpa using nonempty)
      (List.forall_mem_map.2 noComma), List.zipWith_map_right]
    simp only [totalFee, List.zipWith_self, List.map_map]
    rfl

end ReadBack

namespace Sample

def strokes : ElaFormat where
  stringToFixed64 text := .ok (UInt64.ofNat text.length).toInt64
  fixed64String amount := List.replicate amount.toUInt64.toNat 49
  uint256FromHexString text := .ok (hexToHash text)
  readVarString _ := .error "EOF"
  readUint8 _ := .error "EOF"
  readUint64 _ := .error "EOF"
  deserializeTransaction _ := .error "EOF"

theorem strokes_readsAmounts : strokes.ReadsAmounts where
  readBack amount := by
    simp only [strokes, List.length_replicate, UInt64.ofNat_toNat, Int64.toInt64_toUInt64]
  noComma amount := by
    simp [strokes, comma]

def noReturns : RechargeService where
  toSpvService := {
    blockListenerHeight := none
    bestHeaderHeight := .error "not found"
    getConsensusAlgorithm _ := .error "not found"
    getArbiters _ := .error "not found" }
  getTransaction _ := .ok none
  haveRetSideChainDepositCoinTx _ := false

def emptyStore : SpvStore where
  transactionDb := some fun _ => none
  failedTxList := []
  spvTxhash := []

def mainId : Hash :=
  bytesToHash [7]

def outputWith (memo : Bytes) : Int64 × CrossChainOutput :=
  (12, ⟨List.replicate 40 51, 10, memo, true⟩)

def readBack (outputs : List (Int64 × CrossChainOutput)) :
    Except String (List RechargeData × Int) :=
  getRechargeDataByTxhash strokes (some noReturns)
    (saveOutputPayload strokes emptyStore outputs (bytes2Hex mainId.toList))
    (bytes2Hex mainId.toList)

end Sample

open Sample

/-- Two outputs without a comma in their memos are read back. -/
theorem saved_outputs_read_back_plain :
    readBack [outputWith [97, 98], outputWith [99]] =
      .ok ([outputWith [97, 98], outputWith [99]].map rechargeData, 40000000000) :=
  (saved_outputs_read_back_iff strokes_readsAmounts (some noReturns) emptyStore
    [outputWith [97, 98], outputWith [99]] mainId
    (by decide) (by decide) rfl (by decide) (by decide)).2 (by decide)

/--
With a comma in the first memo, the first output loses the end of its memo and
the second output gets it in place of its own.
-/
theorem memo_with_comma_misread :
    readBack [outputWith [97, 44, 98], outputWith [99]] =
      .ok ([rechargeWith (outputWith [97, 44, 98]) [97],
        rechargeWith (outputWith [99]) [98]], 40000000000) ∧
    readBack [outputWith [97, 44, 98], outputWith [99]] ≠
      .ok ([outputWith [97, 44, 98], outputWith [99]].map rechargeData, 40000000000) := by
  decide +kernel

end EscSideChain.Spv
