import EscSideChain.SmallCrossSignatures
import Mathlib.Logic.Function.Basic

namespace EscSideChain.Spv

open Dpos

/-!
# Recharges from the main chain

`spv/recharge.go` and the functions of `spv/spv_module.go` that a transaction on this
chain reads a recharge with.  The outputs of a main-chain transaction are kept in a
key-value store as four comma-separated lists under the id of the transaction.
-/

/-- An output that pays to this chain, `outputpayload.CrossChainOutput`. -/
structure CrossChainOutput where
  targetAddress : Bytes
  targetAmount : Int64
  targetData : Bytes
  valid : Bool

structure ElaOutput where
  value : Int64
  crossChain : Option (Option CrossChainOutput)

structure ElaTx where
  hash : Bytes
  isTransferCrossChainAsset : Bool
  payloadVersion : UInt8
  outputs : List ElaOutput
  crossChainAddresses : List Bytes
  crossChainAmounts : List Int64

/-- The functions of the main-chain library that read and write formats. -/
structure ElaFormat where
  stringToFixed64 : Bytes → Except String Int64
  fixed64String : Int64 → Bytes
  uint256FromHexString : Bytes → Except String Hash
  readVarString : Bytes → Except String (Bytes × Bytes)
  readUint8 : Bytes → Except String (UInt8 × Bytes)
  readUint64 : Bytes → Except String (UInt64 × Bytes)
  deserializeTransaction : Bytes → Except String ElaTx
  hexStringToBytes : Bytes → Except String Bytes := fun text =>
    match hexDecodeString text with
    | none => .error (hexDecodeError text)
    | some data => .ok data

structure RechargeService extends SpvService where
  getTransaction : Hash → Except String (Option ElaTx)
  haveRetSideChainDepositCoinTx : Hash → Bool

/--
The database `spvTransactiondb`, the recharges that are listed as failed in
memory or in the database, and the last stored id.
-/
structure SpvStore where
  transactionDb : Option (Bytes → Option Bytes)
  failedTxList : List Bytes
  spvTxhash : Bytes

/-- One output of a recharge, `RechargeData`. -/
structure RechargeData where
  targetAddress : Address
  targetAmount : Int
  fee : Int
  targetData : Bytes
  deriving DecidableEq

/-- The units of this chain in one unit of the main chain, `rate`. -/
def rate : Int := 10000000000

def comma : UInt8 := 44

/-- `strings.Split(text, ",")`. -/
def splitComma (text : Bytes) : List Bytes :=
  text.splitOn comma

/-- `strings.Join(parts, ",")`. -/
def joinComma (parts : List Bytes) : Bytes :=
  [comma].intercalate parts

def ascii (text : String) : Bytes :=
  text.toList.map fun char => UInt8.ofNat char.toNat

/-- The keys of the four lists. -/
def feeKey (elaHash : Bytes) : Bytes := elaHash ++ ascii "Fee"

@[inherit_doc feeKey]
def addressKey (elaHash : Bytes) : Bytes := elaHash ++ ascii "Address"

@[inherit_doc feeKey]
def outputKey (elaHash : Bytes) : Bytes := elaHash ++ ascii "Output"

@[inherit_doc feeKey]
def inputKey (elaHash : Bytes) : Bytes := elaHash ++ ascii "Input"

variable (format : ElaFormat)
variable (service : Option RechargeService)

/-! ## Reading a recharge -/

def isFailedElaTx (store : SpvStore) (elaTx : Bytes) : Except String Bool :=
  let stripped := strip0x elaTx
  match format.uint256FromHexString stripped with
  | .error reason => .error reason
  | .ok hash =>
    if store.failedTxList.any fun txid =>
        strip0x txid = stripped then
      .ok true
    else
      match service with
      | none => .error "SpvService is not initialized"
      | some spv => .ok (spv.haveRetSideChainDepositCoinTx hash)

/-- What `FindOutputFeeAndaddressByTxHash` returns when it finds nothing. -/
def nothingFound : Int × Address × Int :=
  (0, blackAddr, 0)

def parseAmount (text : Bytes) : Except String Int :=
  match format.stringToFixed64 text with
  | .error reason => .error reason
  | .ok fixed => .ok (fixed.toInt * rate)

def firstPart (text : Bytes) : Bytes :=
  (splitComma text).headD []

/-- `FindOutputFeeAndaddressByTxHash`: fee, address and amount of the first output. -/
def findOutputFeeAndaddressByTxHash (store : SpvStore)
    (transactionHash : Bytes) : Int × Address × Int :=
  let elaHash := strip0x transactionHash
  match store.transactionDb with
  | none => nothingFound
  | some get =>
    match isFailedElaTx format service store elaHash with
    | .error _ => nothingFound
    | .ok true => nothingFound
    | .ok false =>
      match get (feeKey elaHash) with
      | none => nothingFound
      | some fees =>
        match parseAmount format (firstPart fees) with
        | .error _ => nothingFound
        | .ok fee =>
          match get (addressKey elaHash) with
          | none => nothingFound
          | some addrs =>
            if isHexAddress (firstPart addrs) = false then nothingFound
            else
              match get (outputKey elaHash) with
              | none => nothingFound
              | some outputs =>
                match parseAmount format (firstPart outputs) with
                | .error _ => nothingFound
                | .ok amount => (fee, hexToAddress (firstPart addrs), amount)

/-- One turn of the loop of `GetRechargeDataByTxhash`. -/
def rechargeOf (addr fee amount : Bytes) (memo : Option Bytes) : Except String RechargeData :=
  if isHexAddress addr = false then .error ("error esc address" ++ asciiText addr)
  else
    match parseAmount format fee with
    | .error reason => .error reason
    | .ok feeValue =>
      match parseAmount format amount with
      | .error reason => .error reason
      | .ok amountValue =>
        match memo with
        | none => .error "runtime error: index out of range"
        | some targetData => .ok ⟨hexToAddress addr, amountValue, feeValue, targetData⟩

/-- The loop of `GetRechargeDataByTxhash` over lists of equal length. -/
def rechargeLoop :
    List Bytes → List Bytes → List Bytes → List Bytes → Except String (List RechargeData)
  | addr :: addrs, fee :: fees, amount :: amounts, memos =>
    match rechargeOf format addr fee amount memos.head? with
    | .error reason => .error reason
    | .ok data =>
      match rechargeLoop addrs fees amounts memos.tail with
      | .error reason => .error reason
      | .ok datas => .ok (data :: datas)
  | _, _, _, _ => .ok []

def totalFee (datas : List RechargeData) : Int :=
  (datas.map RechargeData.fee).sum

def getRechargeDataByTxhash (store : SpvStore) (txhash : Bytes) :
    Except String (List RechargeData × Int) :=
  let elaHash := strip0x txhash
  match store.transactionDb with
  | none => .error "spvTransactiondb is not inited"
  | some get =>
    match isFailedElaTx format service store elaHash with
    | .error reason => .error reason
    | .ok true => .error ("is failed elaTx: " ++ asciiText elaHash)
    | .ok false =>
      match get (feeKey elaHash), get (addressKey elaHash), get (outputKey elaHash) with
      | some feeValues, some addrss, some outputs =>
        let addrs := splitComma addrss
        let fees := splitComma feeValues
        let amounts := splitComma outputs
        let targetMemos := splitComma ((get (inputKey elaHash)).getD [])
        if addrs.length ≠ fees.length ∨ fees.length ≠ amounts.length then
          .error ("recharge data error : " ++ asciiText elaHash)
        else
          match rechargeLoop format addrs fees amounts targetMemos with
          | .error reason => .error reason
          | .ok datas => .ok (datas, totalFee datas)
      | _, _, _ => .error "leveldb: not found"

/-! ## Storing a recharge -/

def SpvStore.putOutputs (store : SpvStore) (txHash : Bytes)
    (fees addresses amounts memos : Bytes) : SpvStore :=
  if store.spvTxhash = txHash then store
  else
    { store with
      spvTxhash := txHash
      transactionDb := store.transactionDb.map fun get =>
        Function.update
          (Function.update
            (Function.update (Function.update get (feeKey txHash) (some fees))
              (addressKey txHash) (some addresses))
            (outputKey txHash) (some amounts))
          (inputKey txHash) (some memos) }

/-- The cross-chain outputs that `OnReceivedRechargeTx` collects. -/
def crossChainOutputs : List ElaOutput → Except String (List (Int64 × CrossChainOutput))
  | [] => .ok []
  | output :: rest =>
    match output.crossChain with
    | none => crossChainOutputs rest
    | some none => .error "invalid cross chain output payload"
    | some (some payload) =>
      if payload.valid = false then .error "invalid cross chain output"
      else
        match crossChainOutputs rest with
        | .error reason => .error reason
        | .ok collected => .ok ((output.value, payload) :: collected)

/-- `OnReceivedRechargeTx` with `saveOutputPayload`, which change only the store. -/
def onReceivedRechargeTx (store : SpvStore) (tx : ElaTx) : SpvStore :=
  match crossChainOutputs tx.outputs with
  | .error _ => store
  | .ok [] => store
  | .ok outputs =>
    store.putOutputs tx.hash (joinComma (outputs.map fun output =>
        format.fixed64String (output.1 - output.2.targetAmount)))
      (joinComma (outputs.map fun output => output.2.targetAddress))
      (joinComma (outputs.map fun output =>
        format.fixed64String output.1))
      (joinComma (outputs.map fun output => output.2.targetData))

/--
The loop of `SavePayloadInfo` over the amounts of the first payload version:
fee, amount and address of every output that covers its amount.
-/
def payloadEntries : List ElaOutput → List Int64 → List Bytes → List (Int64 × Int64 × Bytes)
  | output :: outputs, amount :: amounts, address :: addresses =>
    if output.value < amount then payloadEntries outputs amounts addresses
    else (output.value - amount, output.value, address) :: payloadEntries outputs amounts addresses
  | _, _, _ => []

def transferCrossChainVersionV1 : UInt8 := 1

/-- `SavePayloadInfo`, as far as it changes the store. -/
def savePayloadInfo (store : SpvStore) (elaTx : ElaTx) : SpvStore :=
  if elaTx.payloadVersion ≥ transferCrossChainVersionV1 then onReceivedRechargeTx format store elaTx
  else
    let entries := payloadEntries elaTx.outputs elaTx.crossChainAmounts elaTx.crossChainAddresses
    store.putOutputs elaTx.hash (joinComma (entries.map fun entry =>
        format.fixed64String entry.1))
      (joinComma (entries.map fun entry => entry.2.2))
      (joinComma (entries.map fun entry =>
        format.fixed64String entry.2.1))
      []

/-- `TrySetRechargeDataFromSpvService`, with the store it leaves behind. -/
def trySetRechargeDataFromSpvService (store : SpvStore) (txhash : Bytes) :
    SpvStore × Except String Unit :=
  let elaHash := strip0x txhash
  let (fee, addr, output) := findOutputFeeAndaddressByTxHash format service store elaHash
  if fee ≤ 0 ∧ output ≤ 0 ∧ addr = blackAddr then
    match format.uint256FromHexString elaHash with
    | .error reason => (store, .error reason)
    | .ok txID =>
      match service with
      | none => (store, .error "runtime error: invalid memory address")
      | some spv =>
        match spv.getTransaction txID with
        | .error reason => (store, .error reason)
        | .ok none => (store, .error ("not recharge tx: " ++ asciiText elaHash))
        | .ok (some tx) =>
          if tx.isTransferCrossChainAsset = false then
            (store, .error ("not recharge tx: " ++ asciiText elaHash))
          else (savePayloadInfo format store tx, .ok ())
  else (store, .ok ())

/-! ## Small cross-chain transfers -/

structure SmallCrossTx where
  rawTxID : Bytes
  rawTx : Bytes
  signatures : List Bytes
  blockHeight : UInt64
  deriving DecidableEq

/-- The signature loop of `Deserialize`. -/
def readSignatures : Nat → Bytes → Except String (List Bytes × Bytes)
  | 0, data => .ok ([], data)
  | count + 1, data => do
      let (signature, rest) ← format.readVarString data
      let (signatures, remaining) ← readSignatures count rest
      return (signature :: signatures, remaining)

/-- `SmallCrossTx.Deserialize`. -/
def deserializeSmallCrossTx (data : Bytes) : Except String SmallCrossTx := do
  let (rawTxID, afterID) ← format.readVarString data
  let (rawTx, afterTx) ← format.readVarString afterID
  let (count, afterCount) ← format.readUint8 afterTx
  let (signatures, afterSignatures) ← readSignatures format count.toNat afterCount
  let (blockHeight, _) ← format.readUint64 afterSignatures
  return ⟨rawTxID, rawTx, signatures, blockHeight⟩

/-- The length of a signature, `elaCrypto.SignatureLength`. -/
def signatureLength : Nat := 64

/--
`IsSmallCrossTxByData`, whose empty id is the answer that the data is no small
cross-chain transfer.
-/
def isSmallCrossTxByData (engine : Option PbftEngine) (data : Bytes) : Option SmallCrossTx :=
  if data.length < 1024 ∨ engine.isNone then none
  else
    match deserializeSmallCrossTx format data with
    | .error _ => none
    | .ok tx =>
      if tx.rawTxID ≠ [] ∧ tx.rawTx ≠ [] ∧ tx.blockHeight > 0 ∧ 0 < tx.signatures.length ∧
          tx.signatures.all fun signature =>
            (hexDecodeString signature).any fun sig =>
              sig.length = signatureLength then
        some tx
      else none

def verifySmallCrossTx (ela : ElaLibrary) (engine : Option PbftEngine) (store : SpvStore)
    (tx : SmallCrossTx) : Except String Bool :=
  match engine with
  | none => .error "PbftEngine is nil"
  | some pbft =>
    let (fee, target, _) := findOutputFeeAndaddressByTxHash format service store tx.rawTxID
    if fee % 2 ^ 64 > 0 ∨ target ≠ blackAddr then .ok true
    else
      verifySmallCrossTxBySignature ela (service.map RechargeService.toSpvService) pbft tx.rawTx
        tx.signatures tx.blockHeight

/-- `NotifySmallCrossTx`, as far as it changes the store. -/
def notifySmallCrossTx (store : SpvStore) (tx : ElaTx) : SpvStore :=
  let (fee, addr, output) := findOutputFeeAndaddressByTxHash format service store tx.hash
  if fee > 0 ∨ output > 0 ∨ addr ≠ blackAddr then store
  else savePayloadInfo format store tx

/-! ## The two readers agree on the first output -/

variable {data : RechargeData}

theorem rechargeOf_eq_ok {addr fee amount : Bytes} {memo : Option Bytes}
    (read : rechargeOf format addr fee amount memo = .ok data) :
    isHexAddress addr = true ∧ parseAmount format fee = .ok data.fee ∧
      parseAmount format amount = .ok data.targetAmount ∧
      data.targetAddress = hexToAddress addr := by
  unfold rechargeOf at read
  split at read
  · cases read
  next hexAddress =>
    split at read
    · cases read
    next feeValue feeRead =>
      split at read
      · cases read
      next amountValue amountRead =>
        split at read
        · cases read
        cases read
        exact ⟨by simpa using hexAddress, feeRead, amountRead, rfl⟩

theorem rechargeLoop_eq_cons {addrs fees amounts memos : List Bytes} {rest : List RechargeData}
    (read : rechargeLoop format addrs fees amounts memos = .ok (data :: rest)) :
    isHexAddress (addrs.headD []) = true ∧ parseAmount format (fees.headD []) = .ok data.fee ∧
      parseAmount format (amounts.headD []) = .ok data.targetAmount ∧
      data.targetAddress = hexToAddress (addrs.headD []) := by
  unfold rechargeLoop at read
  split at read
  · split at read
    · cases read
    next first firstRead =>
      split at read
      · cases read
      cases read
      exact rechargeOf_eq_ok format firstRead
  · cases read

theorem findOutput_of_getRechargeData {store : SpvStore} {txhash : Bytes}
    {rest : List RechargeData} {fee : Int}
    (read : getRechargeDataByTxhash format service store txhash = .ok (data :: rest, fee)) :
    findOutputFeeAndaddressByTxHash format service store txhash =
      (data.fee, data.targetAddress, data.targetAmount) := by
  unfold getRechargeDataByTxhash at read
  unfold findOutputFeeAndaddressByTxHash
  dsimp only at read ⊢
  split at read
  · cases read
  next get hasDb =>
    split at read
    · cases read
    · cases read
    · next notFailed =>
        split at read
        · next feeValues addrss outputs hasFees hasAddrs hasOutputs =>
            split at read
            · cases read
            split at read
            · cases read
            next datas loop =>
              cases read
              obtain ⟨hexAddress, feeRead, amountRead, sameAddress⟩ :=
                rechargeLoop_eq_cons format loop
              simp only [hasFees, hasAddrs, hasOutputs, firstPart, feeRead, hexAddress, amountRead,
                sameAddress, Bool.true_eq_false, ↓reduceIte]
        · cases read

theorem getRechargeData_totalFee {store : SpvStore} {txhash : Bytes} {datas : List RechargeData}
    {fee : Int} (read : getRechargeDataByTxhash format service store txhash = .ok (datas, fee)) :
    fee = totalFee datas := by
  unfold getRechargeDataByTxhash at read
  dsimp only at read
  split at read
  · cases read
  split at read
  · cases read
  · cases read
  · split at read
    · split at read
      · cases read
      split at read
      · cases read
      cases read
      rfl
    · cases read

end EscSideChain.Spv
