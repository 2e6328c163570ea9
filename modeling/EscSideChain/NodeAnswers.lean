import EscSideChain.EvmTopLevel

namespace EscSideChain.Vm

open Dpos State Spv WithdrawFailedTx

/-!
# What a node knows for itself

Two nodes run the same frames.  What they keep for themselves, the SPV service, the
consensus engine, the RPC client, the collected refund signatures and the list of failed
recharges, enters a run only through the answers that are listed here.  Nodes that give
the same answers run the same frames with the same results.
-/

/-! ## Precompiled contracts that read the main chain -/

/-- The address of `getMainChainLatestHeight`. -/
def mainChainLatestHeightAddr : Address :=
  fixedBytes 20 (bigBytes 1008)

/--
`getMainChainLatestHeight`: the best height of the SPV service, as a word.  A
missing service makes the method call on it fail.
-/
def getMainChainLatestHeight (service : Option RechargeService) : Precompile where
  requiredGas _ := 0
  run _ :=
    match service with
    | none => ([], some (.other "runtime error: invalid memory address"))
    | some spv =>
      match spv.bestHeaderHeight with
      | .error reason => ([], some (.other reason))
      | .ok height => ((bigToHash height.toNat).toList, none)

/-! ## Nodes -/

/--
What a node keeps for itself.  The field `precompile` holds the precompiled
contracts other than `getMainChainLatestHeight`.
-/
structure NodeData where
  spvService : Option RechargeService
  pbftEngine : Option PbftEngine
  rpc : Option Rpc
  precompile : Address → Option Precompile

/-- The precompiled contracts of a node, `EVM.precompile`. -/
def NodeData.contracts (node : NodeData) (rules : Rules) (addr : Address) : Option Precompile :=
  if (rules.isShanghai || rules.isBerlin) && addr = mainChainLatestHeightAddr then
    some (getMainChainLatestHeight node.spvService)
  else node.precompile addr

def Evm.on (evm : Evm) (node : NodeData) : Evm :=
  { evm with
    spvService := node.spvService
    pbftEngine := node.pbftEngine
    rpc := node.rpc
    precompile := node.contracts evm.rules }

variable {second first : World} {collector : Collector} {totals : Set Nat} (evm : Evm)

@[simp] theorem Evm.on_rules (node : NodeData) : (evm.on node).rules = evm.rules :=
  rfl

@[simp] theorem Evm.on_format (node : NodeData) : (evm.on node).format = evm.format :=
  rfl

def Evm.unrefunded (evm : Evm) (db : StateDB) (id : Hash) : Bool :=
  match evm.client db with
  | none => false
  | some client =>
    match client.storageAt id with
    | .error _ => false
    | .ok result => bytesToHash result = emptyHash

structure Answers where
  precompile : Address → Option Precompile
  asksRefund : StateDB → Bytes → Except String (Bool × Bytes)
  unrefunded : StateDB → Hash → Bool
  withdrawal : StateDB → Bytes → Except String (Bytes × Nat)
  arbiters : Except String (List Bytes × Nat)
  smallCrossTx : Option (Bytes → List Bytes → UInt64 → Except String Bool)
  isFailed : Bytes → Except String Bool
  mainChainTx : Option (Hash → Except String (Option ElaTx))

def Evm.answers (evm : Evm) (failed : List Bytes) : Answers where
  precompile := evm.precompile
  asksRefund := evm.isWithdawFailedTx
  unrefunded := evm.unrefunded
  withdrawal db := getWithdrawTxValue evm.withdrawEvent (evm.client db)
  arbiters := Spv.getArbiters (evm.spvService.map RechargeService.toSpvService) evm.pbftEngine
  smallCrossTx := evm.pbftEngine.map fun pbft =>
    verifySmallCrossTxBySignature evm.ela (evm.spvService.map RechargeService.toSpvService) pbft
  isFailed := isFailedElaTx evm.format evm.spvService ⟨none, failed, []⟩
  mainChainTx := evm.spvService.map RechargeService.getTransaction

theorem Evm.answers_eq {failed failed' : List Bytes}
    (sameIds : failed'.map strip0x ⊆ failed.map strip0x ∧
      failed.map strip0x ⊆ failed'.map strip0x) :
    evm.answers failed' = evm.answers failed := by
  have listed (id : Bytes) (list : List Bytes) :
      (list.any fun txid => strip0x txid = strip0x id) = true ↔ strip0x id ∈ list.map strip0x := by
    simp only [List.any_eq_true, decide_eq_true_eq, List.mem_map]
  have verdicts : isFailedElaTx evm.format evm.spvService ⟨none, failed', []⟩ =
        isFailedElaTx evm.format evm.spvService ⟨none, failed, []⟩ := by
    funext id
    unfold isFailedElaTx
    simp only [listed]
    have agree : strip0x id ∈ failed'.map strip0x ↔ strip0x id ∈ failed.map strip0x :=
      ⟨fun member => sameIds.1 member, fun member => sameIds.2 member⟩
    simp only [agree]
  unfold answers
  rw [verdicts]

/-! ## Collected signatures -/

def reached (collector : Collector) (total : Nat) (txid : Bytes) : Prop :=
  getMaxArbitersSign total ≤ (collector.verifiedArbiter txid).length

def Backed (collector : Collector) : Prop :=
  ∀ txid, collector.failedTxList txid = [] → collector.verifiedArbiter txid = []

theorem Backed.verifiedArbiter_onProcess (backed : Backed collector)
    {hash : Bytes} (long : ¬hash.length < 2) :
    (collector.onProcessFaildWithdrawTx hash).verifiedArbiter =
      Function.update collector.verifiedArbiter (strip0x hash) [] := by
  unfold Collector.onProcessFaildWithdrawTx
  rw [if_neg long]
  split
  · rfl
  next unsigned =>
    have nothing := backed (strip0x hash) (List.eq_nil_of_length_eq_zero (by omega))
    rw [← nothing, Function.update_eq_self]

theorem Backed.onProcess (backed : Backed collector) (hash : Bytes) :
    Backed (collector.onProcessFaildWithdrawTx hash) := by
  unfold Collector.onProcessFaildWithdrawTx
  dsimp only
  split
  · exact backed
  split
  · intro txid unsigned
    by_cases same : txid = strip0x hash
    · simp [Collector.delete, same]
    simp only [Collector.delete, ne_eq, same, not_false_eq_true,
      Function.update_of_ne] at unsigned ⊢
    exact backed txid unsigned
  · exact backed

/--
The collectors of two nodes agree on the ids that have enough arbiters, for the
numbers of seats that are asked about.
-/
structure AlikeCollectors (totals : Set Nat) (first second : Collector) : Prop where
  backedFirst : Backed first
  backedSecond : Backed second
  reached_iff : ∀ total ∈ totals, ∀ txid, reached second total txid ↔ reached first total txid

theorem AlikeCollectors.onProcess {first second : Collector}
    (alike : AlikeCollectors totals first second) (hash : Bytes) :
    AlikeCollectors totals (first.onProcessFaildWithdrawTx hash)
      (second.onProcessFaildWithdrawTx hash) := by
  refine ⟨alike.backedFirst.onProcess hash, alike.backedSecond.onProcess hash, ?_⟩
  intro total asked txid
  by_cases short : hash.length < 2
  · have kept (collector : Collector) : collector.onProcessFaildWithdrawTx hash = collector :=
      if_pos short
    rw [kept, kept]
    exact alike.reached_iff total asked txid
  · unfold reached
    rw [alike.backedFirst.verifiedArbiter_onProcess short,
      alike.backedSecond.verifiedArbiter_onProcess short]
    by_cases same : txid = strip0x hash
    · rw [same, Function.update_self, Function.update_self]
    rw [Function.update_of_ne same, Function.update_of_ne same]
    exact alike.reached_iff total asked txid

/-! ## The refund that an input asks for -/

/-- The part of `VerifySignatures` that looks at the signatures. -/
def signaturesSuffice (ela : ElaLibrary) (collector : Collector) (input : Bytes)
    (arbiters : List Bytes) (total : Nat) : Bool :=
  let data := input.drop 32
  if data.length % 64 ≠ 0 then false
  else
    let signatures := (entries data).map bytes2Hex
    let txid := (hashString (bytesToHash (input.take 32))).drop 2
    if signatures.length ≤ 0 then false
    else if (collector.verifiedArbiter txid).length ≥ getMaxArbitersSign total then true
    else countVerified ela (getMaxArbitersSign total) arbiters txid 0 signatures

/-- `VerifySignatures`, from what the node answers. -/
def Answers.verifies (answers : Answers) (ela : ElaLibrary) (db : StateDB) (collector : Collector)
    (input : Bytes) : Bool :=
  if input.length ≤ 32 then false
  else if answers.unrefunded db (bytesToHash (input.take 32)) then
    match answers.arbiters with
    | .error _ => false
    | .ok (arbiters, total) => signaturesSuffice ela collector input arbiters total
  else false

theorem Evm.unrefunded_eq_true {evm : Evm} {db : StateDB} {id : Hash} :
    evm.unrefunded db id = true ↔ ∃ client result, evm.client db = some client ∧
          client.storageAt id = .ok result ∧ bytesToHash result = emptyHash := by
  unfold unrefunded
  cases evm.client db with
  | none => simp
  | some client =>
    dsimp only
    cases answer : client.storageAt id with
    | error reason => simp [answer]
    | ok result => simp [answer]

theorem verifySignatures_eq (failed : List Bytes) (db : StateDB) (collector : Collector)
    (input : Bytes) :
    verifySignatures evm.ela (evm.surroundings db) collector input =
      (evm.answers failed).verifies evm.ela db collector input := by
  have asked : (evm.surroundings db).client = evm.client db := rfl
  unfold verifySignatures Answers.verifies
  rw [asked]
  by_cases short : input.length ≤ 32
  · rw [if_pos short]
    split
    · rfl
    · rw [if_pos short]
  · rw [if_neg short]
    by_cases vacant : (evm.answers failed).unrefunded db (bytesToHash (input.take 32)) = true
    · obtain ⟨client, result, isClient, answer, empty⟩ := Evm.unrefunded_eq_true.mp vacant
      rw [if_pos vacant, isClient]
      dsimp only
      rw [if_neg short, answer]
      dsimp only
      rw [if_neg (not_not.mpr empty)]
      rfl
    · rw [if_neg vacant]
      split
      · rfl
      next client isClient =>
        rw [if_neg short]
        dsimp only
        split
        · rfl
        next result answer =>
          refine if_pos fun empty => vacant ?_
          exact Evm.unrefunded_eq_true.mpr ⟨client, result, isClient, answer, empty⟩

theorem signaturesSuffice_congr {first second : Collector}
    (alike : AlikeCollectors totals first second) (ela : ElaLibrary) (input : Bytes)
    (arbiters : List Bytes) {total : Nat} (asked : total ∈ totals) :
    signaturesSuffice ela second input arbiters total =
      signaturesSuffice ela first input arbiters total := by
  have agree := alike.reached_iff total asked ((hashString (bytesToHash (input.take 32))).drop 2)
  unfold reached at agree
  unfold signaturesSuffice
  dsimp only
  simp only [ge_iff_le, agree]

structure SameAnswers (evm : Evm) (other : NodeData) (totals : Set Nat)
    (failed failed' : List Bytes) : Prop where
  answers : (evm.on other).answers failed' = evm.answers failed
  seats : ∀ arbiters total, (evm.answers failed).arbiters = .ok (arbiters, total) → total ∈ totals

theorem SameAnswers.verifySignatures_eq {evm : Evm} {other : NodeData}
    {failed failed' : List Bytes} (same : SameAnswers evm other totals failed failed')
    {first second : Collector} (alike : AlikeCollectors totals first second) (db : StateDB)
    (input : Bytes) :
    verifySignatures (evm.on other).ela ((evm.on other).surroundings db) second input =
      verifySignatures evm.ela (evm.surroundings db) first input := by
  rw [Vm.verifySignatures_eq _ failed', Vm.verifySignatures_eq _ failed, same.answers]
  unfold Answers.verifies
  split
  · rfl
  split
  · split
    · rfl
    next arbiters total isArbiters =>
      exact signaturesSuffice_congr alike evm.ela input arbiters
        (same.seats arbiters total isArbiters)
  · rfl

structure Paired {σ α : Type} (related : σ → σ → Prop) (first second : σ × α) : Prop where
  state : related first.1 second.1
  answer_eq : second.2 = first.2

theorem Paired.exists_eq {σ α : Type} {related : σ → σ → Prop} {first second : σ × α}
    (paired : Paired related first second) :
    ∃ state state' answer, related state state' ∧
        first = (state, answer) ∧ second = (state', answer) :=
  ⟨first.1, second.1, first.2, paired.state, rfl, Prod.ext rfl paired.answer_eq⟩

inductive Agreeing {ε α : Type} (related : α → α → Prop) : Except ε α → Except ε α → Prop where
  | error (err : ε) : Agreeing related (.error err) (.error err)
  | ok {first second : α} (alike : related first second) : Agreeing related (.ok first) (.ok second)

/-! ## Worlds -/

structure AlikeWorlds (totals : Set Nat) (first second : World) : Prop where
  db_eq : second.db = first.db
  calls_eq : second.calls = first.calls
  collector : AlikeCollectors totals first.collector second.collector

def AlikeRuns (totals : Set Nat) (run run' : World → Frame → Nat → World × Result) : Prop :=
  ∀ {first second : World}, AlikeWorlds totals first second →
    ∀ frame gas, Paired (AlikeWorlds totals) (run first frame gas) (run' second frame gas)

def AlikeEntries (totals : Set Nat) (inner inner' : World → Request → World × Result) : Prop :=
  ∀ {first second : World}, AlikeWorlds totals first second →
    ∀ request, Paired (AlikeWorlds totals) (inner first request) (inner' second request)

namespace AlikeWorlds

variable {totals : Set Nat} {first second : World}

theorem withDb (alike : AlikeWorlds totals first second) (db : StateDB) :
    AlikeWorlds totals { first with db := db } { second with db := db } :=
  ⟨rfl, alike.calls_eq, alike.collector⟩

theorem note (alike : AlikeWorlds totals first second) (movement : Movement) :
    AlikeWorlds totals (first.note movement) (second.note movement) := by
  unfold World.note
  rw [alike.db_eq]
  exact alike.withDb _

theorem record (alike : AlikeWorlds totals first second) (site : CallSite) :
    AlikeWorlds totals (first.record site) (second.record site) :=
  ⟨alike.db_eq, congrArg (· ++ [site]) alike.calls_eq, alike.collector⟩

end AlikeWorlds

theorem Paired.andThen {first second : World × Result}
    (alike : Paired (AlikeWorlds totals) first second)
    (next next' : World → Result → World × Result)
    (after : ∀ {world world' : World}, AlikeWorlds totals world world' → ∀ result,
        Paired (AlikeWorlds totals) (next world result) (next' world' result)) :
    Paired (AlikeWorlds totals) (next first.1 first.2) (next' second.1 second.2) := by
  rw [alike.answer_eq]
  exact after alike.state first.2

namespace Evm

variable {evm : Evm} {other : NodeData} {totals : Set Nat}
variable {failed failed' : List Bytes}

/-! ## The parts of a frame -/

theorem settle_alike (snapshot : StateDB)
    (alike : AlikeWorlds totals first second) (result : Result) :
    Paired (AlikeWorlds totals) (settle snapshot first result) (settle snapshot second result) := by
  unfold settle
  split
  · exact ⟨alike, rfl⟩
  · exact ⟨alike.withDb snapshot, rfl⟩

theorem burn_alike (recipient : Address) (value : Int)
    (alike : AlikeWorlds totals first second) (result : Result) :
    AlikeWorlds totals (evm.burn recipient value first result)
      ((evm.on other).burn recipient value second result) := by
  change AlikeWorlds totals _ (evm.burn recipient value second result)
  unfold burn
  rw [alike.db_eq]
  split
  · exact alike.withDb _
  · exact alike

variable {run run' : World → Frame → Nat → World × Result}

theorem execute_alike (same : SameAnswers evm other totals failed failed')
    (runs : AlikeRuns totals run run')
    (alike : AlikeWorlds totals first second) (addr : Address) (frame : Frame) (gas : Nat) :
    Paired (AlikeWorlds totals) (evm.execute run first addr frame gas)
      ((evm.on other).execute run' second addr frame gas) := by
  have contracts : (evm.on other).precompile = evm.precompile :=
    congrArg Answers.precompile same.answers
  unfold execute
  rw [contracts]
  split
  · exact ⟨alike, rfl⟩
  · exact runs alike frame gas

/-! ## `Call` -/

structure AlikeOpened (totals : Set Nat) (first second : Opened) : Prop where
  world : AlikeWorlds totals first.world second.world
  rest : second = { first with world := second.world }

section

variable (same : SameAnswers evm other totals failed failed')

include same

theorem openRefund_alike
    (alike : AlikeWorlds totals first second) (depth : Nat) (caller addr : Address)
    (input txid : Bytes) :
    Agreeing (AlikeOpened totals)
      ((evm.openRefund first caller addr input txid).map (Opened.noteRefund txid depth))
      (((evm.on other).openRefund second caller addr input txid).map
        (Opened.noteRefund txid depth)) := by
  have verified : verifySignatures (evm.on other).ela
      ((evm.on other).surroundings second.db) second.collector input =
        verifySignatures evm.ela (evm.surroundings first.db)
          first.collector input := by
    rw [alike.db_eq]
    exact same.verifySignatures_eq alike.collector first.db input
  have value : getWithdrawTxValue (evm.on other).withdrawEvent
      ((evm.on other).client second.db) txid =
        getWithdrawTxValue evm.withdrawEvent (evm.client first.db)
          txid := by
    rw [alike.db_eq]
    exact congrFun (congrFun (congrArg Answers.withdrawal same.answers) first.db) txid
  unfold openRefund
  rw [verified, value, alike.db_eq]
  split
  · split
    · exact .error _
    refine .ok ⟨⟨rfl, alike.calls_eq, ?_⟩, rfl⟩
    exact alike.collector.onProcess txid
  · exact .error _

theorem isSmallCrossTxByData_eq (data : Bytes) :
    isSmallCrossTxByData (evm.on other).format (evm.on other).pbftEngine data =
      isSmallCrossTxByData evm.format evm.pbftEngine data := by
  have answered (machine : Evm) (failed : List Bytes) :
      machine.pbftEngine.isNone = (machine.answers failed).smallCrossTx.isNone :=
    (Option.isNone_map ..).symm
  have missing : (evm.on other).pbftEngine.isNone = evm.pbftEngine.isNone := by
    rw [answered _ failed', same.answers, ← answered]
  unfold isSmallCrossTxByData
  rw [missing]
  rfl

theorem rechargeHash_eq (input : Bytes) :
    (evm.on other).rechargeHash input = evm.rechargeHash input := by
  unfold rechargeHash
  rw [isSmallCrossTxByData_eq same]

theorem openRecharge_alike (alike : AlikeWorlds totals first second) (caller addr : Address)
    (input : Bytes) (value : Int) (recharge : RechargeData) :
    Agreeing (AlikeOpened totals) (evm.openRecharge first caller addr input value recharge)
      ((evm.on other).openRecharge second caller addr input value recharge) := by
  unfold openRecharge
  rw [rechargeHash_eq same, alike.db_eq]
  split
  · exact .ok ⟨alike, rfl⟩
  split
  · exact .error _
  split
  · exact .ok ⟨alike.withDb _, rfl⟩
  · exact .ok ⟨alike, rfl⟩

theorem openCall_alike
    (alike : AlikeWorlds totals first second) (depth : Nat) (caller addr : Address) (input : Bytes)
    (value : Int) (recharge : Option RechargeData) :
    Agreeing (AlikeOpened totals) (evm.openCall depth first caller addr input value recharge)
      ((evm.on other).openCall depth second caller addr input value recharge) := by
  have asks : (evm.on other).isWithdawFailedTx second.db input =
      evm.isWithdawFailedTx first.db input := by
    rw [alike.db_eq]
    exact congrFun (congrFun (congrArg Answers.asksRefund same.answers) first.db) input
  unfold openCall
  rw [asks]
  split
  · exact .ok ⟨alike, rfl⟩
  split
  · exact .error _
  · exact openRefund_alike same alike depth caller addr input _
  · split
    · exact .ok ⟨alike, rfl⟩
    · exact openRecharge_alike same alike caller addr input value _

theorem callOpened_alike (runs : AlikeRuns totals run run') {first second : Opened}
    (alike : AlikeOpened totals first second) (snapshot : StateDB) (caller : Address) (gas : Nat)
    (readOnly : Bool) :
    Paired (AlikeWorlds totals) (evm.callOpened run snapshot caller first gas readOnly)
      ((evm.on other).callOpened run' snapshot caller second gas readOnly) := by
  have contracts : (evm.on other).precompile = evm.precompile :=
    congrArg Answers.precompile same.answers
  obtain ⟨world, rest⟩ := alike
  have moved : transferred caller second = transferred caller first := by
    rw [rest]
    unfold transferred
    dsimp only
    rw [world.db_eq]
  have frame : calledFrame caller second readOnly = calledFrame caller first readOnly := by
    unfold calledFrame
    rw [moved, rest]
  have addr : second.addr = first.addr := by rw [rest]
  have recipient : second.recipient = first.recipient := by rw [rest]
  have value : second.value = first.value := by rw [rest]
  have noted : (evm.on other).frameNote second = evm.frameNote first := by
    unfold frameNote
    rw [recipient, value]
    rfl
  unfold callOpened
  rw [contracts, on_rules, moved, frame, addr, recipient, value, noted, world.db_eq]
  split
  · exact ⟨world, rfl⟩
  split
  · exact ⟨world.note _, rfl⟩
  dsimp only
  refine (execute_alike same runs (world.withDb _) _ _ gas).andThen
    (fun world result => settle snapshot ((evm.burn first.recipient first.value world result).note
      (evm.frameNote first)) result)
    (fun world result => settle snapshot
      (((evm.on other).burn first.recipient first.value world result).note
        (evm.frameNote first)) result) ?_
  intro world world' alike result
  exact settle_alike snapshot ((burn_alike _ _ alike result).note _) result

theorem call_alike (runs : AlikeRuns totals run run')
    (alike : AlikeWorlds totals first second) (depth : Nat) (caller addr : Address) (input : Bytes)
    (gas : Nat) (value : Int) (recharge : Option RechargeData) (readOnly : Bool) :
    Paired (AlikeWorlds totals)
      (evm.call run depth first caller addr input gas value recharge readOnly)
      ((evm.on other).call run' depth second caller addr input gas value recharge readOnly) := by
  have recorded := alike.record ⟨depth, addr, input⟩
  have openings := openCall_alike same recorded depth caller addr input value recharge
  unfold call
  generalize evm.openCall depth (first.record ⟨depth, addr, input⟩)
    caller addr input value recharge = opening at openings ⊢
  generalize (evm.on other).openCall depth
    (second.record ⟨depth, addr, input⟩) caller addr input value recharge = opening' at openings ⊢
  cases openings with
  | error err => exact ⟨recorded, rfl⟩
  | ok opened =>
    rw [alike.db_eq]
    exact callOpened_alike same runs opened first.db caller gas readOnly

end

/-! ## The other frames -/

section

variable (same : SameAnswers evm other totals failed failed') (runs : AlikeRuns totals run run')
  (alike : AlikeWorlds totals first second)

include same runs alike

theorem callCode_alike (caller addr : Address) (input : Bytes) (gas : Nat)
    (value : Int) (readOnly : Bool) :
    Paired (AlikeWorlds totals) (evm.callCode run first caller addr input gas value readOnly)
      ((evm.on other).callCode run' second caller addr input gas value readOnly) := by
  unfold callCode
  rw [alike.db_eq]
  split
  · exact ⟨alike, rfl⟩
  · exact (execute_alike same runs alike addr _ gas).andThen _ _ (settle_alike first.db)

theorem delegateCall_alike (parent : Frame) (addr : Address) (input : Bytes) (gas : Nat) :
    Paired (AlikeWorlds totals) (evm.delegateCall run first parent addr input gas)
      ((evm.on other).delegateCall run' second parent addr input gas) := by
  unfold delegateCall
  rw [alike.db_eq]
  exact (execute_alike same runs alike addr _ gas).andThen _ _ (settle_alike first.db)

theorem staticCall_alike (caller addr : Address) (input : Bytes) (gas : Nat) :
    Paired (AlikeWorlds totals) (evm.staticCall run first caller addr input gas)
      ((evm.on other).staticCall run' second caller addr input gas) := by
  unfold staticCall
  rw [alike.db_eq]
  exact (execute_alike same runs (alike.withDb _) addr _ gas).andThen
    _ _ (settle_alike first.db)

end

theorem storeCode_alike (address : Address)
    (alike : AlikeWorlds totals first second) (result : Result) :
    Paired (AlikeWorlds totals) (evm.storeCode address first result)
      ((evm.on other).storeCode address second result) := by
  change Paired (AlikeWorlds totals) _ (evm.storeCode address second result)
  unfold storeCode
  rw [alike.db_eq]
  split
  · exact ⟨alike, rfl⟩
  split
  · exact ⟨alike, rfl⟩
  split
  · exact ⟨alike, rfl⟩
  dsimp only
  split
  · exact ⟨alike, rfl⟩
  · exact ⟨alike.withDb _, rfl⟩

theorem settleCreate_alike (snapshot : StateDB)
    (alike : AlikeWorlds totals first second) (result : Result) :
    Paired (AlikeWorlds totals) (evm.settleCreate snapshot first result)
      ((evm.on other).settleCreate snapshot second result) := by
  change Paired (AlikeWorlds totals) _ (evm.settleCreate snapshot second result)
  unfold settleCreate
  split
  · exact ⟨alike, rfl⟩
  · exact settle_alike snapshot alike result

theorem create_alike (runs : AlikeRuns totals run run')
    (alike : AlikeWorlds totals first second) (caller : Address) (code : Bytes) (gas : Nat)
    (value : Int) (address : Address) (readOnly : Bool) :
    Paired (AlikeWorlds totals) (evm.create run first caller code gas value address readOnly)
      ((evm.on other).create run' second caller code gas value address readOnly) := by
  have counted (db : StateDB) :
      (evm.on other).countedCreation db caller address =
        evm.countedCreation db caller address := rfl
  have created (db : StateDB) :
      (evm.on other).createdAccount db caller address value =
        evm.createdAccount db caller address value := rfl
  unfold create
  dsimp only
  rw [alike.db_eq, counted, created]
  split
  · exact ⟨alike, rfl⟩
  split
  · exact ⟨alike, rfl⟩
  split
  · exact ⟨alike.withDb _, rfl⟩
  have ran := runs (alike.withDb (evm.createdAccount
    (evm.countedCreation first.db caller address) caller address
    value)) ⟨caller, address, value, [], code, readOnly⟩ gas
  have stored := ran.andThen (evm.storeCode address)
    ((evm.on other).storeCode address) (storeCode_alike address)
  have settled := stored.andThen (evm.settleCreate (evm.countedCreation first.db caller address))
    ((evm.on other).settleCreate (evm.countedCreation first.db caller address))
    (settleCreate_alike _)
  exact ⟨settled.state, congrArg (fun result => { result with address := address })
      settled.answer_eq⟩

/-! ## Scripts and levels -/

variable {inner inner' : World → Request → World × Result}

theorem runScript_alike (entries : AlikeEntries totals inner inner') (frame : Frame)
    (script : Script) (alike : AlikeWorlds totals first second) (gas : Nat) :
    Paired (AlikeWorlds totals) (evm.runScript inner frame script first gas)
      ((evm.on other).runScript inner' frame script second gas) := by
  induction script generalizing first second gas with
  | halt ret err => exact ⟨alike, rfl⟩
  | charge cost next inductionHypothesis =>
    unfold runScript
    split
    · exact ⟨alike, rfl⟩
    · exact inductionHypothesis alike _
  | inspect next inductionHypothesis =>
    unfold runScript
    rw [alike.db_eq]
    exact inductionHypothesis first.db gas alike gas
  | perform op next inductionHypothesis =>
    have applied (db : StateDB) : (evm.on other).applyOp frame.self
        db op = evm.applyOp frame.self db op := rfl
    unfold runScript
    rw [alike.db_eq, applied]
    split
    · exact ⟨alike, rfl⟩
    · exact inductionHypothesis (alike.withDb _) gas
  | selfdestruct beneficiary =>
    unfold runScript
    rw [alike.db_eq]
    split
    · exact ⟨alike, rfl⟩
    · exact ⟨alike.withDb _, rfl⟩
  | invoke invocation next inductionHypothesis =>
    have prepared : (evm.on other).prepare frame gas invocation =
        evm.prepare frame gas invocation := rfl
    unfold runScript
    rw [prepared]
    split
    · exact ⟨alike, rfl⟩
    next kept request isPrepared =>
      have entered := entries alike request
      dsimp only
      rw [entered.answer_eq]
      exact inductionHypothesis _ entered.state _

theorem runFrame_alike (entries : AlikeEntries totals inner inner') :
    AlikeRuns totals (evm.runFrame inner) ((evm.on other).runFrame inner') := by
  intro first second alike frame gas
  unfold runFrame
  split
  · exact ⟨alike, rfl⟩
  · exact runScript_alike entries frame (evm.interpreter frame) alike gas

variable (same : SameAnswers evm other totals failed failed')

include same

theorem handle_alike (runs : AlikeRuns totals run run') (depth : Nat) :
    AlikeEntries totals (evm.handle run depth) ((evm.on other).handle run' depth) := by
  intro first second alike request
  cases request with
  | call caller addr input gas value recharge readOnly =>
    exact call_alike same runs alike depth caller addr input gas value recharge readOnly
  | callCode caller addr input gas value readOnly =>
    exact callCode_alike same runs alike caller addr input gas value readOnly
  | delegateCall parent addr input gas =>
    exact delegateCall_alike same runs alike parent addr input gas
  | staticCall caller addr input gas => exact staticCall_alike same runs alike caller addr input gas
  | create caller code gas value readOnly =>
    unfold handle
    rw [alike.db_eq]
    exact create_alike runs alike caller code gas value
      (evm.createAddress caller (first.db.getNonce caller)) readOnly
  | create2 caller code gas value salt readOnly =>
    exact create_alike runs alike caller code gas value
      (evm.createAddress2 caller salt code) readOnly

theorem enter_alike (levels : Nat) :
    AlikeEntries totals (evm.enter levels) ((evm.on other).enter levels) := by
  induction levels with
  | zero =>
    intro first second alike request
    exact ⟨alike, rfl⟩
  | succ levels inductionHypothesis =>
    exact handle_alike same (runFrame_alike inductionHypothesis) _

end Evm

end EscSideChain.Vm
