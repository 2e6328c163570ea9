import EscSideChain.SpvRecharge
import EscSideChain.StateDb
import EscSideChain.WithdrawRefund
import Mathlib.Data.Nat.Digits.Defs

namespace EscSideChain.Vm

open Dpos State Spv WithdrawFailedTx

/-!
# Calls and creations

`core/vm/evm.go`: the five ways to enter a frame, with the two branches of
`Call` on the zero address that bring money into the state, the refund of a
failed withdrawal and the recharge from the main chain.
-/

inductive VmError where
  | outOfGas
  | codeStoreOutOfGas
  | depth
  | insufficientBalance
  | contractAddressCollision
  | withdawrefundCallFailed
  | executionReverted
  | maxCodeSizeExceeded
  | writeProtection
  | invalidCode
  | nonceUintOverflow
  | mainTxHashPresence
  | other (reason : String)
  deriving DecidableEq

structure Result where
  ret : Bytes
  gas : Nat
  err : Option VmError
  address : Address := blackAddr

/-- The scope of one frame, `Contract` with its input. -/
structure Frame where
  caller : Address
  self : Address
  value : Int
  input : Bytes
  code : Bytes
  readOnly : Bool

inductive Op where
  | sstore (key value : Hash)
  | tstore (key value : Hash)
  | log (topics : List Hash) (data : Bytes)
  | addRefund (gas : Nat)
  | subRefund (gas : Nat)
  | warm (addr : Address) (slot : Option Hash)

def Op.isProtected : Op → Bool
  | .sstore _ _ => true
  | .tstore _ _ => true
  | .log _ _ => true
  | _ => false

inductive Invocation where
  | call (addr : Address) (input : Bytes) (gas value : Nat)
  | callCode (addr : Address) (input : Bytes) (gas value : Nat)
  | delegateCall (addr : Address) (input : Bytes) (gas : Nat)
  | staticCall (addr : Address) (input : Bytes) (gas : Nat)
  | create (code : Bytes) (value : Nat)
  | create2 (code : Bytes) (value : Nat) (salt : Hash)

inductive Script where
  | halt (ret : Bytes) (err : Option VmError)
  | charge (cost : Nat) (next : Script)
  | inspect (next : StateDB → Nat → Script)
  | perform (op : Op) (next : Script)
  | selfdestruct (beneficiary : Address)
  | invoke (invocation : Invocation) (next : Result → Script)

/-- `PrecompiledContract`. -/
structure Precompile where
  requiredGas : Bytes → Nat
  run : Bytes → Bytes × Option VmError

structure Rules where
  isHomestead : Bool
  isEIP150 : Bool
  isEIP158 : Bool
  isByzantium : Bool
  isIstanbul : Bool
  isBerlin : Bool
  isLondon : Bool
  isShanghai : Bool

structure ChainConfig where
  blackContractAddr : Bytes
  passBalance : UInt64
  bridgeContractAddr : Bytes
  developerContract : List Bytes
  isdeveloperSplitfeeTime : Bool

structure Rpc where
  storageAt : StateDB → Hash → Except String Bytes
  transactionReceipt : Hash → Except String Receipt
  transactionByHash : Hash → Except String (Option (Option Address))

/--
`EVM` with its context, and the node around it.  The fields `setArbiterList` and
`setManualArbiter` are the ids of these two methods of the bridge contract.
-/
structure Evm where
  ela : ElaLibrary
  format : ElaFormat
  spvService : Option RechargeService
  pbftEngine : Option PbftEngine
  rpc : Option Rpc
  withdrawEvent : PayloadReceived
  refundEventHash : Hash
  addressString : Address → Bytes
  config : ChainConfig
  rules : Rules
  coinbase : Address
  blockNumber : Nat
  precompile : Address → Option Precompile
  activePrecompiles : List Address
  setArbiterList : Bytes
  setManualArbiter : Bytes
  createAddress : Address → UInt64 → Address
  createAddress2 : Address → Hash → Bytes → Address
  interpreter : Frame → Script

/-- The arguments of a `Call`, with the depth of its frame. -/
structure CallSite where
  depth : Nat
  addr : Address
  input : Bytes

/--
The state, and the collector of refund signatures that no revert touches.  The
list `calls` is not part of the source: it records the arguments of all calls.
-/
structure World where
  db : StateDB
  collector : Collector
  calls : List CallSite

def World.record (world : World) (site : CallSite) : World :=
  { world with calls := world.calls ++ [site] }

def World.note (world : World) (movement : Movement) : World :=
  { world with db := world.db.note movement }

inductive Request where
  | call (caller addr : Address) (input : Bytes) (gas : Nat)
      (value : Int) (recharge : Option RechargeData) (readOnly : Bool)
  | callCode (caller addr : Address) (input : Bytes) (gas : Nat) (value : Int) (readOnly : Bool)
  | delegateCall (parent : Frame) (addr : Address) (input : Bytes) (gas : Nat)
  | staticCall (caller addr : Address) (input : Bytes) (gas : Nat)
  | create (caller : Address) (code : Bytes) (gas : Nat) (value : Int) (readOnly : Bool)
  | create2 (caller : Address) (code : Bytes) (gas : Nat)
      (value : Int) (salt : Hash) (readOnly : Bool)

def Request.gas : Request → Nat
  | .call _ _ _ gas _ _ _ => gas
  | .callCode _ _ _ gas _ _ => gas
  | .delegateCall _ _ _ gas => gas
  | .staticCall _ _ _ gas => gas
  | .create _ _ gas _ _ => gas
  | .create2 _ _ gas _ _ _ => gas

/-- The big-endian bytes of a number, `big.Int.Bytes`. -/
def bigBytes (number : Nat) : Bytes :=
  (Nat.digits 256 number).reverse.map UInt8.ofNat

def bigToHash (number : Int) : Hash :=
  bytesToHash (bigBytes number.natAbs)

def rechargeEventHash : Hash :=
  hexToHash (ascii "0x09f15c376272c265d7fcb47bf57d8f84a928195e6ea156d12f5a3cd05b8fed5a")

/-- The gas that a call with value pays, `CallValueTransferGas`. -/
def callValueTransferGas : Nat := 9000

/-- The gas that a call with value gives its frame, `CallStipend`. -/
def callStipend : Nat := 2300

/-- The gas for each byte of new code, `CreateDataGas`. -/
def createDataGas : Nat := 200

/-- The largest code of a contract, `MaxCodeSize`. -/
def maxCodeSize : Nat := 24576

def runPrecompiledContract (contract : Precompile) (input : Bytes) (suppliedGas : Nat) : Result :=
  let gasCost := contract.requiredGas input
  if suppliedGas < gasCost then
    { ret := [], gas := 0, err := some .outOfGas }
  else
    { ret := (contract.run input).1
      gas := suppliedGas - gasCost
      err := (contract.run input).2 }

namespace Evm

variable (evm : Evm)

def client (db : StateDB) : Option Client :=
  evm.rpc.map fun rpc =>
    { storageAt := rpc.storageAt db
      transactionReceipt := rpc.transactionReceipt
      transactionByHash := rpc.transactionByHash }

/-- The node as the package `withdrawfailedtx` sees it. -/
def surroundings (db : StateDB) : Surroundings where
  client := evm.client db
  spvService := evm.spvService.map RechargeService.toSpvService
  pbftEngine := evm.pbftEngine

/-- `IsWithdawFailedTx` on the node. -/
def isWithdawFailedTx (db : StateDB) (input : Bytes) : Except String (Bool × Bytes) :=
  WithdrawFailedTx.isWithdawFailedTx evm.addressString
    (evm.client db) input evm.config.blackContractAddr

def rechargeHash (input : Bytes) : Option Bytes :=
  if input.length = 32 then some (hexutilEncode input)
  else if 32 < input.length then
    (isSmallCrossTxByData evm.format evm.pbftEngine input).map SmallCrossTx.rawTxID
  else none

/-! ## `Call` -/

structure Opened where
  world : World
  addr : Address
  recipient : Address
  value : Int
  input : Bytes

/-- The branch of `Call` that refunds a failed withdrawal. -/
def openRefund (world : World) (caller addr : Address) (input txid : Bytes) :
    Except VmError Opened :=
  if world.db.getState blackAddr (hexToHash txid) = emptyHash ∧
      verifySignatures evm.ela (evm.surroundings world.db) world.collector input = true then
    match getWithdrawTxValue evm.withdrawEvent (evm.client world.db) txid with
    | .error reason => .error (.other reason)
    | .ok (sender, amount) =>
      let log : Log := {
        address := hexToAddress evm.config.blackContractAddr
        topics := [evm.refundEventHash, hexToHash evm.config.blackContractAddr,
          hexToHash (evm.addressString caller), hexToHash sender, bigToHash amount]
        data := []
        blockNumber := evm.blockNumber }
      .ok {
        world := { world with
          db := (world.db.addLog log).addBalance caller amount
          collector :=
            world.collector.onProcessFaildWithdrawTx txid }
        addr := addr
        recipient := hexToAddress sender
        value := amount
        input := input }
  else .error .withdawrefundCallFailed

/-- The branch of `Call` that pays out one output of a recharge. -/
def openRecharge (world : World) (caller addr : Address) (input : Bytes) (value : Int)
    (recharge : RechargeData) : Except VmError Opened :=
  match evm.rechargeHash input with
  | none => .ok ⟨world, addr, addr, value, input⟩
  | some txHash =>
    if world.db.getState blackAddr (hexToHash txHash) ≠ emptyHash then .error .mainTxHashPresence
    else if recharge.targetAddress ≠ blackAddr ∧ recharge.targetAmount ≥ recharge.fee then
      let amount := recharge.targetAmount - recharge.fee
      let log : Log := {
        address := blackAddr
        topics := [rechargeEventHash, hexToHash (evm.addressString caller), hexToHash txHash,
          hexToHash (evm.addressString recharge.targetAddress), bigToHash amount]
        data := []
        blockNumber := evm.blockNumber }
      .ok {
        world := { world with
          db := ((world.db.addLog log).addBalance caller amount).note (.recharge txHash amount) }
        addr := recharge.targetAddress
        recipient := recharge.targetAddress
        value := amount
        input := recharge.targetData }
    else .ok ⟨world, recharge.targetAddress, addr, value, input⟩

/-- The record of a refund: the value with which `Call` goes on. -/
def Opened.noteRefund (txid : Bytes) (depth : Nat) (opened : Opened) : Opened :=
  { opened with world := opened.world.note (.refund txid depth opened.value) }

/-- The branches of `Call` on the zero address. -/
def openCall (depth : Nat) (world : World) (caller addr : Address) (input : Bytes) (value : Int)
    (recharge : Option RechargeData) : Except VmError Opened :=
  if addr ≠ blackAddr then .ok ⟨world, addr, addr, value, input⟩
  else
    match evm.isWithdawFailedTx world.db input with
    | .error reason => .error (.other reason)
    | .ok (true, txid) =>
      (evm.openRefund world caller addr input txid).map (Opened.noteRefund txid depth)
    | .ok (false, _) =>
      match recharge with
      | none => .ok ⟨world, addr, addr, value, input⟩
      | some data => evm.openRecharge world caller addr input value data

def settle (snapshot : StateDB) (world : World) (result : Result) : World × Result :=
  match result.err with
  | none => (world, result)
  | some err =>
    ({ world with db := snapshot }, { result with
        gas :=
          if err = .executionReverted then result.gas else 0 })

theorem settle_err (snapshot : StateDB) (world : World) (result : Result) :
    (settle snapshot world result).2.err = result.err := by
  unfold settle
  split <;> rfl

theorem settle_db_of_err {snapshot : StateDB} {world : World} {result : Result}
    (failed : result.err ≠ none) : (settle snapshot world result).1.db = snapshot := by
  unfold settle
  split
  · next ended => exact absurd ended failed
  · rfl

def burn (recipient : Address) (value : Int) (world : World) (result : Result) : World :=
  if evm.addressString recipient = evm.config.blackContractAddr ∧ result.err = none then
    { world with db := world.db.subBalance recipient value }
  else world

/-- The record of a frame of `Call`. -/
def frameNote (opened : Opened) : Movement :=
  .frame opened.recipient (evm.addressString opened.recipient = evm.config.blackContractAddr)
    opened.value

variable (run : World → Frame → Nat → World × Result)

def execute (world : World) (addr : Address) (frame : Frame) (gas : Nat) : World × Result :=
  match evm.precompile addr with
  | some contract => (world, runPrecompiledContract contract frame.input gas)
  | none => run world frame gas

def transferred (caller : Address) (opened : Opened) : StateDB :=
  let db := opened.world.db
  let created :=
    if db.exist opened.addr then db else db.createAccount opened.addr
  created.transfer caller opened.recipient opened.value

def calledFrame (caller : Address) (opened : Opened) (readOnly : Bool) : Frame where
  caller := caller
  self := opened.addr
  value := opened.value
  input := opened.input
  code := (transferred caller opened).getCode opened.addr
  readOnly := readOnly

/--
`Call` after its branches on the zero address.  The note of a frame that ends with an error is
taken back with the rest.
-/
def callOpened (snapshot : StateDB) (caller : Address) (opened : Opened) (gas : Nat)
    (readOnly : Bool) : World × Result :=
  if opened.value ≠ 0 ∧ opened.world.db.canTransfer caller opened.value = false then
    (opened.world, { ret := [], gas := gas, err := some .insufficientBalance })
  else if opened.world.db.exist opened.addr = false ∧ (evm.precompile opened.addr).isNone ∧
      evm.rules.isEIP158 ∧ opened.value = 0 then
    (opened.world.note (evm.frameNote opened), { ret := [], gas := gas, err := none })
  else
    let executed := evm.execute run { opened.world with db := transferred caller opened }
      opened.addr (calledFrame caller opened readOnly) gas
    settle snapshot ((evm.burn opened.recipient opened.value executed.1 executed.2).note
      (evm.frameNote opened)) executed.2

def call (depth : Nat) (world : World) (caller addr : Address) (input : Bytes) (gas : Nat)
    (value : Int) (recharge : Option RechargeData) (readOnly : Bool) : World × Result :=
  match evm.openCall depth (world.record ⟨depth, addr, input⟩) caller addr input value recharge with
  | .error err => (world.record ⟨depth, addr, input⟩, { ret := [], gas := gas, err := some err })
  | .ok opened => evm.callOpened run world.db caller opened gas readOnly

/-! ## The other frames -/

def callCode (world : World) (caller addr : Address) (input : Bytes) (gas : Nat) (value : Int)
    (readOnly : Bool) : World × Result :=
  if world.db.canTransfer caller value = false then
    (world, { ret := [], gas := gas, err := some .insufficientBalance })
  else
    let executed := evm.execute run world addr {
      caller := caller
      self := caller
      value := value
      input := input
      code := world.db.getCode addr
      readOnly := readOnly } gas
    settle world.db executed.1 executed.2

/-- `DelegateCall`, with the caller and the value of the parent frame. -/
def delegateCall (world : World) (parent : Frame) (addr : Address) (input : Bytes)
    (gas : Nat) : World × Result :=
  let executed := evm.execute run world addr {
    caller := parent.caller
    self := parent.self
    value := parent.value
    input := input
    code := world.db.getCode addr
    readOnly := parent.readOnly } gas
  settle world.db executed.1 executed.2

def staticCall (world : World) (caller addr : Address) (input : Bytes)
    (gas : Nat) : World × Result :=
  let touched := world.db.addBalance addr 0
  let executed := evm.execute run { world with db := touched } addr {
    caller := caller
    self := addr
    value := 0
    input := input
    code := touched.getCode addr
    readOnly := true } gas
  settle world.db executed.1 executed.2

def storeCode (address : Address) (world : World) (result : Result) : World × Result :=
  match result.err with
  | some _ => (world, result)
  | none =>
    if evm.rules.isEIP158 ∧ maxCodeSize < result.ret.length then
      (world, { result with err := some .maxCodeSizeExceeded })
    else if result.ret.head? = some 0xEF ∧ evm.rules.isLondon then
      (world, { result with err := some .invalidCode })
    else
      let cost := result.ret.length * createDataGas
      if result.gas < cost then (world, { result with err := some .codeStoreOutOfGas })
      else
        ({ world with db := world.db.setCode address result.ret },
          { result with gas := result.gas - cost })

def settleCreate (snapshot : StateDB) (world : World) (result : Result) : World × Result :=
  if result.err = some .codeStoreOutOfGas ∧ evm.rules.isHomestead = false then (world, result)
  else settle snapshot world result

def countedCreation (db : StateDB) (caller address : Address) : StateDB :=
  let bumped := db.setNonce caller (db.getNonce caller + 1)
  if evm.rules.isBerlin then bumped.addToAccessList address none
  else bumped

def createdAccount (db : StateDB) (caller address : Address) (value : Int) : StateDB :=
  let created := db.createAccount address
  let numbered :=
    if evm.rules.isEIP158 then created.setNonce address 1 else created
  numbered.transfer caller address value

def create (world : World) (caller : Address) (code : Bytes) (gas : Nat) (value : Int)
    (address : Address) (readOnly : Bool) : World × Result :=
  let nonce := world.db.getNonce caller
  if world.db.canTransfer caller value = false then
    (world, { ret := [], gas := gas, err := some .insufficientBalance })
  else if nonce + 1 < nonce then (world, { ret := [], gas := gas, err := some .nonceUintOverflow })
  else
    let counted := evm.countedCreation world.db caller address
    if counted.getNonce address ≠ 0 ∨ counted.getCode address ≠ [] then
      ({ world with db := counted }, { ret := [], gas := 0, err := some .contractAddressCollision })
    else
      let executed := run { world with
          db := evm.createdAccount counted caller address value }
        { caller := caller
          self := address
          value := value
          input := []
          code := code
          readOnly := readOnly } gas
      let stored := evm.storeCode address executed.1 executed.2
      let settled := evm.settleCreate counted stored.1 stored.2
      (settled.1, { settled.2 with address := address })

/-! ## Scripts -/

def applyOp (self : Address) (db : StateDB) : Op → StateDB
  | .sstore key value => db.setState self key value
  | .tstore key value => db.setTransientState self key value
  | .log topics data => db.addLog ⟨self, topics, data, evm.blockNumber⟩
  | .addRefund gas => db.addRefund gas
  | .subRefund gas => db.subRefund gas
  | .warm addr slot => db.addToAccessList addr slot

def prepareCall (frame : Frame) (available gas value : Nat) (isProtected : Bool)
    (request : Nat → Request) : Except VmError (Nat × Request) :=
  let cost := if value = 0 then gas else gas + callValueTransferGas
  let given := if value = 0 then gas else gas + callStipend
  if available < cost then .error .outOfGas
  else if isProtected ∧ frame.readOnly ∧ value ≠ 0 then .error .writeProtection
  else .ok (available - cost, request given)

def prepare (frame : Frame) (available : Nat) : Invocation → Except VmError (Nat × Request)
  | .call addr input gas value =>
    prepareCall frame available gas value true fun given =>
      .call frame.self addr input given value none frame.readOnly
  | .callCode addr input gas value =>
    prepareCall frame available gas value false fun given =>
      .callCode frame.self addr input given value frame.readOnly
  | .delegateCall addr input gas =>
    prepareCall frame available gas 0 false fun given =>
      .delegateCall frame addr input given
  | .staticCall addr input gas =>
    prepareCall frame available gas 0 false fun given =>
      .staticCall frame.self addr input given
  | .create code value =>
    if frame.readOnly then .error .writeProtection
    else
      let gas :=
        if evm.rules.isEIP150 then available - available / 64
        else available
      .ok (available - gas, .create frame.self code gas value frame.readOnly)
  | .create2 code value salt =>
    if frame.readOnly then .error .writeProtection
    else
      let gas := available - available / 64
      .ok (available - gas, .create2 frame.self code gas value salt frame.readOnly)

def runScript (inner : World → Request → World × Result) (frame : Frame) :
    Script → World → Nat → World × Result
  | .halt ret err, world, gas => (world, { ret := ret, gas := gas, err := err })
  | .charge cost next, world, gas =>
    if gas < cost then (world, { ret := [], gas := gas, err := some .outOfGas })
    else runScript inner frame next world (gas - cost)
  | .inspect next, world, gas => runScript inner frame (next world.db gas) world gas
  | .perform op next, world, gas =>
    if op.isProtected ∧ frame.readOnly then
      (world, { ret := [], gas := gas, err := some .writeProtection })
    else runScript inner frame next { world with db := evm.applyOp frame.self world.db op } gas
  | .selfdestruct beneficiary, world, gas =>
    if frame.readOnly then (world, { ret := [], gas := gas, err := some .writeProtection })
    else
      ({ world with
          db := (world.db.addBalance beneficiary
            (world.db.getBalance frame.self)).suicide frame.self },
        { ret := [], gas := gas, err := none })
  | .invoke invocation next, world, gas =>
    match evm.prepare frame gas invocation with
    | .error err => (world, { ret := [], gas := gas, err := some err })
    | .ok (kept, request) =>
      let entered := inner world request
      runScript inner frame (next entered.2) entered.1 (kept + entered.2.gas)

/-- `Run` of the interpreter, which skips empty code. -/
def runFrame (inner : World → Request → World × Result) (world : World) (frame : Frame)
    (gas : Nat) : World × Result :=
  if frame.code = [] then (world, { ret := [], gas := gas, err := none })
  else evm.runScript inner frame (evm.interpreter frame) world gas

def handle (depth : Nat) (world : World) : Request → World × Result
  | .call caller addr input gas value recharge readOnly =>
    evm.call run depth world caller addr input gas value recharge readOnly
  | .callCode caller addr input gas value readOnly =>
    evm.callCode run world caller addr input gas value readOnly
  | .delegateCall parent addr input gas => evm.delegateCall run world parent addr input gas
  | .staticCall caller addr input gas => evm.staticCall run world caller addr input gas
  | .create caller code gas value readOnly =>
    evm.create run world caller code gas value
      (evm.createAddress caller (world.db.getNonce caller)) readOnly
  | .create2 caller code gas value salt readOnly =>
    evm.create run world caller code gas value (evm.createAddress2 caller salt code) readOnly

/-- The depth limit, `CallCreateDepth`. -/
def callCreateDepth : Nat := 1024

/--
Enter a frame with the given number of levels left.  With no level left the
depth is above the limit.
-/
def enter : Nat → World → Request → World × Result
  | 0, world, request => (world, { ret := [], gas := request.gas, err := some .depth })
  | levels + 1, world, request =>
    evm.handle (evm.runFrame (enter levels)) (callCreateDepth - levels) world request

def topCall (world : World) (caller addr : Address) (input : Bytes) (gas : Nat) (value : Int)
    (recharge : Option RechargeData) : World × Result :=
  evm.enter (callCreateDepth + 1) world (.call caller addr input gas value recharge false)

def topCreate (world : World) (caller : Address) (code : Bytes) (gas : Nat)
    (value : Int) : World × Result :=
  evm.enter (callCreateDepth + 1) world (.create caller code gas value false)

end Evm

end EscSideChain.Vm
