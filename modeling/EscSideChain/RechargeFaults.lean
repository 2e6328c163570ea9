import EscSideChain.RechargeRoundTrip

namespace EscSideChain.Spv

open Dpos

/-!
# Accesses that fail while a recharge is read

Slices and indices that `spv/recharge.go` and `spv/spv_module.go` take without
a check.  Each function that reads a recharge has a companion that follows it
and gives the first access that is out of range, or the nil pointer that is
dereferenced.
-/

inductive Fault where
  | sliceBounds
  | indexRange
  | nilPointer
  deriving DecidableEq

/-- The slice `s[0:2]`. -/
def sliceFault (text : Bytes) : Option Fault :=
  if text.length < 2 then some .sliceBounds
  else none

/-- The loops of `IsFailedElaTx` over the listed ids. -/
def listedFault (elaTx : Bytes) : List Bytes → Option Fault
  | [] => none
  | txid :: rest =>
    (sliceFault txid).or (if strip0x txid = elaTx then none else listedFault elaTx rest)

/-- The element `strings.Split(text, ",")[0]`. -/
def firstPartFault (text : Bytes) : Option Fault :=
  if splitComma text = [] then some .indexRange
  else none

section Functions

variable (format : ElaFormat)
variable (service : Option RechargeService)

/-- `IsFailedElaTx`. -/
def isFailedElaTxFault (store : SpvStore) (elaTx : Bytes) : Option Fault :=
  (sliceFault elaTx).or (match format.uint256FromHexString (strip0x elaTx) with
    | .error _ => none
    | .ok _ => listedFault (strip0x elaTx) store.failedTxList)

/-- `FindOutputFeeAndaddressByTxHash`. -/
def findOutputFault (store : SpvStore) (transactionHash : Bytes) : Option Fault :=
  let elaHash := strip0x transactionHash
  (sliceFault transactionHash).or (match store.transactionDb with
    | none => none
    | some get =>
      (isFailedElaTxFault format store elaHash).or
        (([feeKey elaHash, addressKey elaHash,
          outputKey elaHash].filterMap get).findSome? firstPartFault))

abbrev Row := Bytes × Bytes × Bytes

def isReadable (row : Row) : Bool :=
  isHexAddress row.1 && (parseAmount format row.2.1).isOk && (parseAmount format row.2.2).isOk

/-- The loop of `GetRechargeDataByTxhash`, which takes `targetMemos[i]`. -/
def memoFault : List Row → List Bytes → Option Fault
  | [], _ => none
  | row :: rows, memos =>
    if isReadable format row then
      match memos with
      | [] => some .indexRange
      | _ :: memos => memoFault rows memos
    else none

def rowsOf (addrs fees amounts : Bytes) : List Row :=
  (splitComma addrs).zip ((splitComma fees).zip (splitComma amounts))

def sameCount (addrs fees amounts : Bytes) : Bool :=
  (splitComma addrs).length = (splitComma fees).length &&
    (splitComma fees).length = (splitComma amounts).length

/-- `GetRechargeDataByTxhash`. -/
def getRechargeDataFault (store : SpvStore) (txhash : Bytes) : Option Fault :=
  let elaHash := strip0x txhash
  (sliceFault txhash).or (match store.transactionDb with
    | none => none
    | some get =>
      (isFailedElaTxFault format store elaHash).or
        (match isFailedElaTx format service store elaHash,
            get (feeKey elaHash), get (addressKey elaHash), get (outputKey elaHash) with
        | .ok false, some fees, some addrs, some amounts =>
          if sameCount addrs fees amounts then
            memoFault format (rowsOf addrs fees amounts)
              (splitComma ((get (inputKey elaHash)).getD []))
          else none
        | _, _, _, _ => none))

/-- `TrySetRechargeDataFromSpvService`, up to the call of `SavePayloadInfo`. -/
def trySetRechargeDataFault (store : SpvStore) (txhash : Bytes) : Option Fault :=
  let elaHash := strip0x txhash
  let (fee, addr, output) := findOutputFeeAndaddressByTxHash format service store elaHash
  (sliceFault txhash).or ((findOutputFault format store elaHash).or
      (if fee ≤ 0 ∧ output ≤ 0 ∧ addr = blackAddr then
        match format.uint256FromHexString elaHash, service with
        | .ok _, none => some .nilPointer
        | _, _ => none
      else none))

/-- `VerifySmallCrossTx`. -/
def verifySmallCrossTxFault (engine : Option PbftEngine) (store : SpvStore)
    (tx : SmallCrossTx) : Option Fault :=
  match engine with
  | none => none
  | some _ => findOutputFault format store tx.rawTxID

end Functions

/-! ## What can be stored -/

/--
The recharge stores that the two writers make of an empty one.  The listed
failures are ids of transactions.
-/
inductive Stored (format : ElaFormat) : SpvStore → Prop where
  | opened (failedTxList : List Bytes) (spvTxhash : Bytes)
      (ids : ∀ txid ∈ failedTxList, 2 ≤ txid.length) :
      Stored format ⟨some fun _ => none, failedTxList, spvTxhash⟩
  | saveOutputPayload {store : SpvStore} (stored : Stored format store)
      (outputs : List (Int64 × CrossChainOutput)) (txHash : Bytes) :
      Stored format (saveOutputPayload format store outputs txHash)
  | savePayloadInfo {store : SpvStore} (stored : Stored format store) (elaTx : ElaTx) :
      Stored format (savePayloadInfo format store elaTx)

def HasMemos (get : Bytes → Option Bytes) (elaHash : Bytes) : Prop :=
  ∀ fees, get (feeKey elaHash) = some fees → ∃ memos, get (inputKey elaHash) = some memos ∧
      (memos = [] ∨ (splitComma fees).length ≤ (splitComma memos).length)

theorem keys_disjoint {elaHash txHash : Bytes} (different : elaHash ≠ txHash) :
    ∀ key ∈ [feeKey txHash, addressKey txHash, outputKey txHash, inputKey txHash],
      feeKey elaHash ≠ key ∧ inputKey elaHash ≠ key := by
  intro key member
  simp only [List.mem_cons, List.not_mem_nil, or_false] at member
  -- The suffixes differ from the back, so that the keys are compared reversed.
  rcases member with rfl | rfl | rfl | rfl
  all_goals
    constructor
    all_goals
      intro same
      have reversed := congrArg List.reverse same
      simp [feeKey, addressKey, outputKey, inputKey, ascii] at reversed
  all_goals exact different reversed

theorem putOutputs_get_of_ne {store : SpvStore}
    {elaHash txHash fees addresses amounts memos : Bytes} {before : Bytes → Option Bytes}
    (database : store.transactionDb = some before) (fresh : store.spvTxhash ≠ txHash)
    (different : elaHash ≠ txHash) :
    ∃ get, (store.putOutputs txHash fees addresses amounts memos).transactionDb = some get ∧
      get (feeKey elaHash) = before (feeKey elaHash) ∧
      get (inputKey elaHash) = before (inputKey elaHash) := by
  have disjoint := keys_disjoint different
  simp only [List.forall_mem_cons] at disjoint
  obtain ⟨⟨feeFee, inputFee⟩, ⟨feeAddress, inputAddress⟩,
    ⟨feeOutput, inputOutput⟩, ⟨feeInput, inputInput⟩, _⟩ := disjoint
  unfold SpvStore.putOutputs
  rw [if_neg fresh, database]
  refine ⟨_, rfl, ?_, ?_⟩
  · simp [Function.update_of_ne, feeFee, feeAddress, feeOutput, feeInput]
  · simp [Function.update_of_ne, inputFee, inputAddress, inputOutput, inputInput]

structure Sane (store : SpvStore) : Prop where
  database : store.transactionDb.isSome = true
  memos : ∀ get, store.transactionDb = some get → ∀ elaHash, HasMemos get elaHash
  ids : ∀ txid ∈ store.failedTxList, 2 ≤ txid.length

variable {store : SpvStore} {format : ElaFormat}

theorem Sane.putOutputs (sane : Sane store) (txHash : Bytes) {fees memos : Bytes}
    (addresses amounts : Bytes)
    (enough : memos = [] ∨ (splitComma fees).length ≤ (splitComma memos).length) :
    Sane (store.putOutputs txHash fees addresses amounts memos) := by
  by_cases repeated : store.spvTxhash = txHash
  · unfold SpvStore.putOutputs
    rw [if_pos repeated]
    exact sane
  obtain ⟨before, database⟩ := Option.isSome_iff_exists.1 sane.database
  obtain ⟨get, written, feeStored, _, _, memosStored⟩ :=
    @putOutputs_get store txHash fees addresses amounts memos before database repeated
  refine ⟨by rw [written]; rfl, ?_, ?_⟩
  · intro found same elaHash
    cases written.symm.trans same
    by_cases own : elaHash = txHash
    · subst own
      intro read feeRead
      cases feeStored.symm.trans feeRead
      exact ⟨memos, memosStored, enough⟩
    · obtain ⟨other, otherWritten, sameFee, sameMemos⟩ :=
        @putOutputs_get_of_ne store elaHash txHash fees addresses
          amounts memos before database repeated own
      cases written.symm.trans otherWritten
      intro read feeRead
      rw [sameMemos]
      exact sane.memos before database elaHash read (sameFee ▸ feeRead)
  · have sameList : (store.putOutputs txHash fees addresses amounts
        memos).failedTxList = store.failedTxList := by
      unfold SpvStore.putOutputs
      split <;> rfl
    rw [sameList]
    exact sane.ids

theorem Sane.saveOutputPayload (texts : format.ReadsAmounts)
    (sane : Sane store) (outputs : List (Int64 × CrossChainOutput)) (txHash : Bytes) :
    Sane (saveOutputPayload format store outputs txHash) := by
  refine sane.putOutputs txHash _ _ ?_
  by_cases empty : outputs = []
  · subst empty
    exact Or.inl rfl
  refine Or.inr ?_
  rw [splitComma_joinComma (by simpa using empty)
    (List.forall_mem_map.2 fun _ _ => texts.noComma _)]
  simpa using length_le_splitComma_joinComma (outputs.map fun output => output.2.targetData)

theorem Sane.savePayloadInfo (texts : format.ReadsAmounts)
    (sane : Sane store) (elaTx : ElaTx) : Sane (savePayloadInfo format store elaTx) := by
  unfold Spv.savePayloadInfo
  split
  · unfold onReceivedRechargeTx
    split
    · exact sane
    · exact sane
    · exact sane.saveOutputPayload texts _ elaTx.hash
  · exact sane.putOutputs elaTx.hash _ _ (Or.inl rfl)

theorem Stored.sane (texts : format.ReadsAmounts) (stored : Stored format store) : Sane store := by
  induction stored with
  | opened failedTxList spvTxhash ids =>
    refine ⟨rfl, ?_, ids⟩
    intro get same elaHash fees found
    cases same
    cases found
  | saveOutputPayload _ outputs txHash inductionHypothesis =>
    exact inductionHypothesis.saveOutputPayload texts outputs txHash
  | savePayloadInfo _ elaTx inductionHypothesis =>
    exact inductionHypothesis.savePayloadInfo texts elaTx

/-! ## When an access fails -/

@[simp] theorem sliceFault_eq_none {text : Bytes} : sliceFault text = none ↔ 2 ≤ text.length := by
  unfold sliceFault
  split
  · simpa using by omega
  · simpa using by omega

@[simp] theorem firstPartFault_eq_none (text : Bytes) : firstPartFault text = none := by
  unfold firstPartFault
  exact if_neg (List.splitOn_ne_nil comma text)

theorem listedFault_eq_none {elaTx : Bytes} {listed : List Bytes}
    (ids : ∀ txid ∈ listed, 2 ≤ txid.length) : listedFault elaTx listed = none := by
  induction listed with
  | nil => rfl
  | cons txid rest inductionHypothesis =>
    rw [List.forall_mem_cons] at ids
    rw [listedFault, sliceFault_eq_none.2 ids.1, Option.none_or, inductionHypothesis ids.2]
    split <;> rfl

section Accesses

variable {format : ElaFormat} {service : Option RechargeService}
variable {store : SpvStore}

theorem isFailedElaTxFault_eq_none (sane : Sane store) {elaTx : Bytes} :
    isFailedElaTxFault format store elaTx = none ↔ 2 ≤ elaTx.length := by
  unfold isFailedElaTxFault
  rw [Option.or_eq_none_iff, sliceFault_eq_none, and_iff_left_iff_imp]
  intro _
  split
  · rfl
  · exact listedFault_eq_none sane.ids

theorem two_le_of_strip0x {text : Bytes} (long : 2 ≤ (strip0x text).length) : 2 ≤ text.length := by
  unfold strip0x at long
  split at long
  · rw [List.length_drop] at long
    omega
  · exact long

theorem findOutputFault_eq_none (sane : Sane store) {transactionHash : Bytes} :
    findOutputFault format store transactionHash = none ↔ 2 ≤ (strip0x transactionHash).length := by
  obtain ⟨get, database⟩ := Option.isSome_iff_exists.1 sane.database
  unfold findOutputFault
  simp only [database, Option.or_eq_none_iff, sliceFault_eq_none,
    isFailedElaTxFault_eq_none sane, List.findSome?_eq_none_iff,
    firstPartFault_eq_none, implies_true, and_true]
  exact ⟨fun both => both.2, fun long => ⟨two_le_of_strip0x long, long⟩⟩

theorem findOutput_of_noService (transactionHash : Bytes) :
    findOutputFeeAndaddressByTxHash format none store transactionHash = nothingFound := by
  unfold findOutputFeeAndaddressByTxHash
  dsimp only
  split
  · rfl
  split
  · rfl
  · rfl
  · next verdict =>
      unfold isFailedElaTx at verdict
      dsimp only at verdict
      split at verdict
      · cases verdict
      split at verdict
      · cases verdict
      · cases verdict

theorem trySetRechargeDataFault_eq_none (sane : Sane store) {txhash : Bytes} :
    trySetRechargeDataFault format service store txhash = none ↔
      2 ≤ (strip0x (strip0x txhash)).length ∧
        (service = none → (format.uint256FromHexString (strip0x txhash)).isOk = false) := by
  have shorter : 2 ≤ (strip0x (strip0x txhash)).length → 2 ≤ txhash.length :=
    fun long => two_le_of_strip0x (two_le_of_strip0x long)
  unfold trySetRechargeDataFault
  simp only [Option.or_eq_none_iff, sliceFault_eq_none, findOutputFault_eq_none sane]
  rw [← and_assoc, and_iff_right_of_imp shorter]
  refine and_congr_right fun _ => ?_
  cases service with
  | none =>
    rw [findOutput_of_noService]
    cases parsed : format.uint256FromHexString (strip0x txhash) with
    | error reason => simp [nothingFound, Except.isOk, Except.toBool]
    | ok hash => simp [nothingFound, Except.isOk, Except.toBool]
  | some spv =>
    refine iff_of_true ?_ (fun none => (nomatch none))
    split
    · cases format.uint256FromHexString (strip0x txhash) <;> rfl
    · rfl

/-! ## The memos -/

theorem memoFault_eq_none {rows : List Row} {memos : List Bytes}
    (enough : rows.length ≤ memos.length) : memoFault format rows memos = none := by
  induction rows generalizing memos with
  | nil => rfl
  | cons row rows inductionHypothesis =>
    cases memos with
    | nil => simp at enough
    | cons memo memos =>
      unfold memoFault
      split
      · exact inductionHypothesis (Nat.le_of_succ_le_succ enough)
      · rfl

theorem memoFault_singleton {rows : List Row} {memo : Bytes} :
    memoFault format rows [memo] = none ↔
      ¬(2 ≤ rows.length ∧ ∀ row ∈ rows.take 2, isReadable format row = true) := by
  rcases rows with _ | ⟨first, _ | ⟨second, rest⟩⟩
  · simp [memoFault]
  · simp [memoFault]
  · simp only [memoFault, List.length_cons, List.take_succ_cons,
      List.take_zero, List.forall_mem_cons, List.not_mem_nil, false_imp_iff, implies_true, and_true]
    cases isReadable format first <;>
      cases isReadable format second <;> simp

structure LacksMemos (format : ElaFormat) (service : Option RechargeService) (store : SpvStore)
    (elaHash : Bytes) (get : Bytes → Option Bytes) (addrs fees amounts : Bytes) : Prop where
  database : store.transactionDb = some get
  notFailed : isFailedElaTx format service store elaHash = .ok false
  hasFees : get (feeKey elaHash) = some fees
  hasAddrs : get (addressKey elaHash) = some addrs
  hasAmounts : get (outputKey elaHash) = some amounts
  noMemos : get (inputKey elaHash) = some []
  sameCount : sameCount addrs fees amounts = true
  several : 2 ≤ (rowsOf addrs fees amounts).length
  readable : ∀ row ∈ (rowsOf addrs fees amounts).take 2, isReadable format row = true

theorem exists_lacksMemos_iff {elaHash : Bytes} {get : Bytes → Option Bytes}
    {addrs fees amounts memos : Bytes} (database : store.transactionDb = some get)
    (notFailed : isFailedElaTx format service store elaHash = .ok false)
    (hasFees : get (feeKey elaHash) = some fees) (hasAddrs : get (addressKey elaHash) = some addrs)
    (hasAmounts : get (outputKey elaHash) = some amounts)
    (hasMemos : get (inputKey elaHash) = some memos) :
    (∃ get addrs fees amounts, LacksMemos format service store elaHash get addrs fees amounts) ↔
      memos = [] ∧ sameCount addrs fees amounts = true ∧ 2 ≤ (rowsOf addrs fees amounts).length ∧
        ∀ row ∈ (rowsOf addrs fees amounts).take 2, isReadable format row = true := by
  constructor
  · rintro ⟨found, _, _, _, lacks⟩
    cases database.symm.trans lacks.database
    cases hasFees.symm.trans lacks.hasFees
    cases hasAddrs.symm.trans lacks.hasAddrs
    cases hasAmounts.symm.trans lacks.hasAmounts
    exact ⟨Option.some.inj (hasMemos.symm.trans lacks.noMemos),
      lacks.sameCount, lacks.several, lacks.readable⟩
  · rintro ⟨noMemos, same, several, readable⟩
    exact ⟨get, addrs, fees, amounts, database, notFailed, hasFees,
      hasAddrs, hasAmounts, noMemos ▸ hasMemos, same, several, readable⟩

theorem memoFault_rowsOf {addrs fees amounts memos : Bytes}
    (enough : memos = [] ∨ (splitComma fees).length ≤ (splitComma memos).length) :
    memoFault format (rowsOf addrs fees amounts) (splitComma memos) = none ↔
      ¬(memos = [] ∧ 2 ≤ (rowsOf addrs fees amounts).length ∧
        ∀ row ∈ (rowsOf addrs fees amounts).take 2, isReadable format row = true) := by
  rcases enough with noMemos | enough
  · subst noMemos
    have single : splitComma [] = [[]] := rfl
    rw [single, memoFault_singleton]
    simp only [true_and]
  · have fewer : (rowsOf addrs fees amounts).length ≤ (splitComma memos).length := by
      simp only [rowsOf, List.length_zip]
      omega
    refine iff_of_true (memoFault_eq_none fewer) ?_
    rintro ⟨noMemos, several, _⟩
    subst noMemos
    exact absurd (several.trans fewer) (by decide)

theorem getRechargeDataFault_eq_none (sane : Sane store) {txhash : Bytes}
    (long : 2 ≤ (strip0x txhash).length) :
    getRechargeDataFault format service store txhash = none ↔
      ¬∃ get addrs fees amounts, LacksMemos format service store
        (strip0x txhash) get addrs fees amounts := by
  obtain ⟨get, database⟩ := Option.isSome_iff_exists.1 sane.database
  unfold getRechargeDataFault
  simp only [database, Option.or_eq_none_iff, sliceFault_eq_none,
    isFailedElaTxFault_eq_none sane, two_le_of_strip0x long, long, true_and]
  split
  · next fees addrs amounts notFailed hasFees hasAddrs hasAmounts =>
      obtain ⟨memos, hasMemos, enough⟩ := sane.memos get database _ fees hasFees
      rw [exists_lacksMemos_iff database notFailed hasFees hasAddrs
        hasAmounts hasMemos, hasMemos, Option.getD_some]
      by_cases same : sameCount addrs fees amounts = true
      · rw [if_pos same, memoFault_rowsOf enough]
        simp only [same, true_and]
      rw [if_neg same]
      exact iff_of_true rfl fun lacks => same lacks.2.1
  · next other =>
      refine iff_of_true rfl ?_
      rintro ⟨found, addrs, fees, amounts, lacks⟩
      cases database.symm.trans lacks.database
      exact other fees addrs amounts lacks.notFailed lacks.hasFees lacks.hasAddrs lacks.hasAmounts

end Accesses

end EscSideChain.Spv
