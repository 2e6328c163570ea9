import EscSideChain.RechargeFaults
import EscSideChain.SupplyConservation

namespace EscSideChain.Core

open Dpos State Spv WithdrawFailedTx Vm

/-!
# Messages that stop a node

What `TransitionDb` does with a message to the zero address before it runs the
message, followed with regard to the accesses that can fail.  The data of the
message is chosen by its sender, and the store of recharges is written from
main-chain transactions.
-/

/-- `IsWithdawFailedTx`, which calls a method on `tx.To()`. -/
def isWithdawFailedTxFault (client : Option Client) (input : Bytes) : Option Fault :=
  if input.length ≤ 32 then none
  else
    match client with
    | none => none
    | some client =>
      match client.transactionByHash (hexToHash (hexutilEncode (input.take 32))) with
      | .ok (some none) => some .nilPointer
      | _ => none

variable (evm : Evm)

def smallTransfer (data : Bytes) : Option SmallCrossTx :=
  if 32 < data.length then isSmallCrossTxByData evm.format evm.pbftEngine data
  else none

def rechargeFault (store : SpvStore) (txhash : Bytes) : Option Fault :=
  (trySetRechargeDataFault evm.format evm.spvService store txhash).or
    (match trySetRechargeDataFromSpvService evm.format evm.spvService store txhash with
    | (stored, .ok ()) => getRechargeDataFault evm.format evm.spvService stored txhash
    | (_, .error _) => none)

/-- The first failing access before a message to the zero address is run. -/
def preExecutionFault (st : Transition) (data : Bytes) : Option Fault :=
  (isWithdawFailedTxFault (evm.client st.db) data).or (match evm.isWithdawFailedTx st.db data with
    | .ok (false, _) =>
      ((smallTransfer evm data).elim none
        (verifySmallCrossTxFault evm.format evm.pbftEngine st.store)).or
        (match rechargeRequest evm st.store data with
        | (store, .ok (some txhash)) => rechargeFault evm store txhash
        | _ => none)
    | _ => none)

/-! ## Which messages they are -/

def NamesCreation (db : StateDB) (data : Bytes) : Prop :=
  32 < data.length ∧ ∃ client ∈ evm.client db, client.transactionByHash
      (hexToHash (hexutilEncode (data.take 32))) = .ok (some none)

inductive Unreadable (store : SpvStore) (txhash : Bytes) : Prop where
  | shortId (short : (strip0x (strip0x txhash)).length < 2)
  | noService (missing : evm.spvService = none)
      (isId : (evm.format.uint256FromHexString (strip0x txhash)).isOk = true)
  | noMemos {stored : SpvStore} {get : Bytes → Option Bytes} {addrs fees amounts : Bytes}
      (completed : trySetRechargeDataFromSpvService evm.format
        evm.spvService store txhash = (stored, .ok ()))
      (lacks : LacksMemos evm.format evm.spvService stored (strip0x txhash) get addrs fees amounts)

inductive Crashes (st : Transition) (data : Bytes) : Prop where
  | creation (named : NamesCreation evm st.db data)
  | shortId {txid : Bytes} {tx : SmallCrossTx}
      (ordinary : evm.isWithdawFailedTx st.db data = .ok (false, txid))
      (small : smallTransfer evm data = some tx) (short : (strip0x tx.rawTxID).length < 2)
  | recharge {txid txhash : Bytes} {store : SpvStore}
      (ordinary : evm.isWithdawFailedTx st.db data = .ok (false, txid))
      (requested : rechargeRequest evm st.store data = (store, .ok (some txhash)))
      (unreadable : Unreadable evm store txhash)

variable {evm}

variable {store : SpvStore} {data : Bytes}

theorem isWithdawFailedTxFault_eq_none {db : StateDB} :
    isWithdawFailedTxFault (evm.client db) data = none ↔ ¬NamesCreation evm db data := by
  unfold isWithdawFailedTxFault NamesCreation
  split
  · next short => exact iff_of_true rfl fun named => absurd named.1 (by omega)
  next long =>
    have longer : 32 < data.length := by omega
    cases evm.client db with
    | none => simp
    | some client =>
      simp only [longer, true_and, Option.mem_def, Option.some.injEq, exists_eq_left']
      split
      · next creation => simp [creation]
      · next other => exact iff_of_true rfl fun creation => other creation

theorem smallTransfer_engine {tx : SmallCrossTx}
    (small : smallTransfer evm data = some tx) : ∃ engine, evm.pbftEngine = some engine := by
  unfold smallTransfer isSmallCrossTxByData at small
  split at small
  · split at small
    · cases small
    next present =>
      exact Option.isSome_iff_exists.1 (by
        cases engine : evm.pbftEngine with
        | none => simp [engine] at present
        | some engine => rfl)
  · cases small

theorem verifyFault_eq_none {st : Transition} (sane : Sane st.store) :
    (smallTransfer evm data).elim none
        (verifySmallCrossTxFault evm.format evm.pbftEngine st.store) =
      none ↔
      ∀ tx, smallTransfer evm data = some tx → 2 ≤ (strip0x tx.rawTxID).length := by
  cases small : smallTransfer evm data with
  | none => simp
  | some tx =>
    obtain ⟨engine, present⟩ := smallTransfer_engine small
    rw [present]
    simp [verifySmallCrossTxFault, findOutputFault_eq_none sane]

theorem stored_notifySmallCrossTx (stored : Stored evm.format store)
    (tx : ElaTx) : Stored evm.format (notifySmallCrossTx evm.format evm.spvService store tx) := by
  unfold notifySmallCrossTx
  dsimp only
  split
  · exact stored
  · exact stored.savePayloadInfo tx

theorem stored_trySetRechargeData {store completed : SpvStore} (stored : Stored evm.format store)
    {txhash : Bytes} {verdict : Except String Unit}
    (tried : trySetRechargeDataFromSpvService evm.format
      evm.spvService store txhash = (completed, verdict)) :
    Stored evm.format completed := by
  have sameFirst : completed = (trySetRechargeDataFromSpvService
      evm.format evm.spvService store txhash).1 := by
    rw [tried]
  rw [sameFirst]
  unfold trySetRechargeDataFromSpvService
  dsimp only
  repeat' split
  all_goals first
    | exact stored
    | exact stored.savePayloadInfo _

theorem stored_dealSmallCrossTx (stored : Stored evm.format store)
    (data : Bytes) : Stored evm.format (dealSmallCrossTx evm store data).1 := by
  unfold dealSmallCrossTx
  repeat' split
  all_goals first
    | exact stored
    | exact stored_notifySmallCrossTx stored _

theorem stored_rechargeRequest (stored : Stored evm.format store)
    (data : Bytes) : Stored evm.format (rechargeRequest evm store data).1 := by
  have dealt := stored_dealSmallCrossTx stored data
  unfold rechargeRequest
  split
  · split <;> next verdict => rw [verdict] at dealt; exact dealt
  split
  · exact stored
  · exact stored

theorem rechargeFault_eq_none (texts : evm.format.ReadsAmounts)
    (stored : Stored evm.format store) {txhash : Bytes} :
    rechargeFault evm store txhash = none ↔ ¬Unreadable evm store txhash := by
  unfold rechargeFault
  rw [Option.or_eq_none_iff, trySetRechargeDataFault_eq_none (stored.sane texts)]
  constructor
  · rintro ⟨⟨long, served⟩, readable⟩ unreadable
    cases unreadable with
    | shortId short => omega
    | noService missing isId =>
      rw [served missing] at isId
      cases isId
    | noMemos completed lacks =>
      have sane := (stored_trySetRechargeData stored completed).sane texts
      rw [completed] at readable
      exact (getRechargeDataFault_eq_none sane
        (two_le_of_strip0x long)).1 readable ⟨_, _, _, _, lacks⟩
  · intro readable
    have long : 2 ≤ (strip0x (strip0x txhash)).length :=
      Nat.not_lt.1 fun short => readable (.shortId short)
    refine ⟨⟨long, ?_⟩, ?_⟩
    · intro missing
      exact Bool.eq_false_iff.2 fun isId =>
        readable (.noService missing isId)
    · split
      · next completed tried =>
          refine (getRechargeDataFault_eq_none ((stored_trySetRechargeData stored tried).sane texts)
            (two_le_of_strip0x long)).2 ?_
          rintro ⟨get, addrs, fees, amounts, lacks⟩
          exact readable (.noMemos tried lacks)
      · rfl

/--
No access fails before a message to the zero address is run exactly if the
message is none of those described: its data does not begin with the id of a
contract creation, it is no small transfer with an id of less than two digits,
and the recharge that it asks for can be read.
-/
theorem preExecution_safe_iff (evm : Evm) (texts : evm.format.ReadsAmounts) (st : Transition)
    (stored : Stored evm.format st.store) (data : Bytes) :
    preExecutionFault evm st data = none ↔ ¬Crashes evm st data := by
  unfold preExecutionFault
  rw [Option.or_eq_none_iff, isWithdawFailedTxFault_eq_none]
  constructor
  · rintro ⟨noCreation, rest⟩ crashes
    cases crashes with
    | creation named => exact noCreation named
    | shortId ordinary small short =>
      rw [ordinary] at rest
      have long := (verifyFault_eq_none (stored.sane texts)).1
        (Option.or_eq_none_iff.1 rest).1 _ small
      omega
    | recharge ordinary requested unreadable =>
      have requestStored := stored_rechargeRequest stored data
      rw [requested] at requestStored
      rw [ordinary] at rest
      have read := (Option.or_eq_none_iff.1 rest).2
      rw [requested] at read
      exact (rechargeFault_eq_none texts requestStored).1 read unreadable
  · intro safe
    refine ⟨fun named => safe (.creation named), ?_⟩
    split
    · next txid ordinary =>
        refine Option.or_eq_none_iff.2 ⟨?_, ?_⟩
        · refine (verifyFault_eq_none (stored.sane texts)).2 ?_
          intro tx small
          exact Nat.not_lt.1 fun short =>
            safe (.shortId ordinary small short)
        · split
          · next store txhash requested =>
              have requestStored := stored_rechargeRequest stored data
              rw [requested] at requestStored
              refine (rechargeFault_eq_none texts requestStored).2 ?_
              exact fun unreadable =>
                safe (.recharge ordinary requested unreadable)
          · rfl
    · rfl

namespace Sample

def creationNode : Evm :=
  { node idle with
    format := Spv.Sample.strokes
    rpc := some {
      storageAt := fun _ _ => .ok []
      transactionReceipt := fun _ => .ok ⟨1, []⟩
      transactionByHash := fun _ => .ok (some none) } }

def onStore (store : SpvStore) : Transition where
  world := ⟨emptyState, Collector.empty, []⟩
  store := store
  gasPool := 0
  gas := 0
  initialGas := 0

/-- The store after a transaction of the first version with the given amounts. -/
def firstVersion (amounts : List Int64) : SpvStore :=
  savePayloadInfo Spv.Sample.strokes Spv.Sample.emptyStore
    { hash := bytes2Hex mainTx
      isTransferCrossChainAsset := true
      payloadVersion := 0
      outputs := amounts.map fun amount => ⟨amount, none⟩
      crossChainAddresses := amounts.map fun _ => List.replicate 40 51
      crossChainAmounts := amounts.map fun amount => amount - 1 }

theorem stored_emptyStore : Stored Spv.Sample.strokes Spv.Sample.emptyStore :=
  .opened [] [] (fun _ member => (nomatch member))

theorem stored_firstVersion (amounts : List Int64) :
    Stored Spv.Sample.strokes (firstVersion amounts) :=
  stored_emptyStore.savePayloadInfo _

end Sample

open Sample

/--
A node stops at 33 bytes that begin with the id of a contract creation, and at
the recharge of a transaction of the first version with two outputs.
-/
theorem zero_address_data_stops_node :
    (Stored creationNode.format (onStore Spv.Sample.emptyStore).store ∧
      preExecutionFault creationNode (onStore Spv.Sample.emptyStore) (List.replicate 33 5) =
        some .nilPointer) ∧
    (Stored creationNode.format (onStore (firstVersion [3, 4])).store ∧
      preExecutionFault creationNode (onStore (firstVersion [3, 4])) mainTx = some .indexRange) :=
  ⟨⟨stored_emptyStore, by decide +kernel⟩, stored_firstVersion [3, 4], by decide +kernel⟩

/-- The recharge of a transaction with one output stops nothing. -/
theorem preExecution_safe_single : ¬Crashes creationNode (onStore (firstVersion [3])) mainTx :=
  (preExecution_safe_iff creationNode Spv.Sample.strokes_readsAmounts
    (onStore (firstVersion [3])) (stored_firstVersion [3]) mainTx).1 (by decide +kernel)

end EscSideChain.Core
