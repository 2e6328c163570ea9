import EscSideChain.DposBlockPool
import EscSideChain.SpvRecharge

namespace EscSideChain.Spv

open Dpos

/-!
# Recharges that failed

The part of `spv/spv_module.go` that keeps the recharges which could not be executed on
this chain.  They are listed by the height at which they failed, in a map in memory and in
the database.
-/

/-! ## The stored lists -/

/-- The functions of the main-chain library that write and read a list. -/
structure ListFormat where
  writeVarUint : Nat → Bytes
  writeVarString : Bytes → Bytes
  readVarUint : Bytes → Except String (Nat × Bytes)
  readVarString : Bytes → Except String (Bytes × Bytes)

structure ListFormat.ReadsBack (codec : ListFormat) : Prop where
  count : ∀ number rest, codec.readVarUint (codec.writeVarUint number ++ rest) = .ok (number, rest)
  text : ∀ text rest, codec.readVarString (codec.writeVarString text ++ rest) = .ok (text, rest)

variable (codec : ListFormat)

def encodeTxList (txlist : List Bytes) : Bytes :=
  codec.writeVarUint txlist.length ++ (txlist.map codec.writeVarString).flatten

/-- The loop of `decodeTxList`: what was read, and the error that ended it. -/
def readTxids : Nat → Bytes → List Bytes × Option String
  | 0, _ => ([], none)
  | count + 1, data =>
    match codec.readVarString data with
    | .error reason => ([], some reason)
    | .ok (txid, rest) =>
      let (txids, err) := readTxids count rest
      (txid :: txids, err)

def decodeTxList (data : Bytes) : List Bytes × Option String :=
  match codec.readVarUint data with
  | .error reason => ([], some reason)
  | .ok (len, rest) => readTxids codec len rest

def listedTxs (data : Bytes) : List Bytes :=
  match decodeTxList codec data with
  | (txs, none) => txs
  | (_, some _) => []

variable {codec}

section

variable (reads : codec.ReadsBack) (txlist : List Bytes)

include reads

theorem ListFormat.ReadsBack.readTxids_eq :
    readTxids codec txlist.length (txlist.map codec.writeVarString).flatten = (txlist, none) := by
  induction txlist with
  | nil => rfl
  | cons txid rest inductionHypothesis =>
    simp only [List.length_cons, List.map_cons, List.flatten_cons,
      readTxids, reads.text, inductionHypothesis]

theorem ListFormat.ReadsBack.decodeTxList_encodeTxList : decodeTxList codec (encodeTxList codec txlist) = (txlist, none) := by
  unfold decodeTxList encodeTxList
  rw [reads.count]
  exact reads.readTxids_eq txlist

theorem ListFormat.ReadsBack.listedTxs_encodeTxList : listedTxs codec (encodeTxList codec txlist) = txlist := by
  unfold listedTxs
  rw [reads.decodeTxList_encodeTxList]

end

/-! ## The functions on the lists -/

/--
The map `failedTxList`, and the entries of the database whose keys are heights,
`encodeUnTransactionNumber`.
-/
structure FailedRecharges where
  failedTxList : GoMap UInt64 (List Bytes)
  database : GoMap UInt64 Bytes

structure IpcClient where
  storageAt : Nat → Hash → Except String Bytes
  currentBlockNumber : Except String UInt64

/-- What `OnTx2Failed` finds around itself. -/
structure IpcSurroundings where
  ipcClient : Option IpcClient
  service : Option RechargeService

def slotOf (elaTx : Bytes) : Hash :=
  hexToHash (hexPrefix ++ elaTx)

/-- The answer of `IsPackagedElaTx`, which also removes a packaged recharge. -/
def isPackagedElaTx (ipcClient : Option IpcClient) (elaTx : Bytes) : Except String Bool :=
  match ipcClient with
  | none => .error "ipclient is nil"
  | some client =>
    match client.storageAt 0 (slotOf (strip0x elaTx)) with
    | .error _ => .ok false
    | .ok ethTx => .ok (bytesToHash ethTx ≠ emptyHash)

def blockDiff : UInt64 := 6

def safeUInt64Minus (a b : UInt64) : Except String UInt64 :=
  if a < b then .error "SafeUInt64Minus a < b"
  else .ok (a - b)

namespace FailedRecharges

section Functions

variable (format : ElaFormat) (codec : ListFormat)

def memoryAt (state : FailedRecharges) (height : UInt64) : List Bytes :=
  (state.failedTxList.lookup height).getD []

def databaseAt (state : FailedRecharges) (height : UInt64) : List Bytes :=
  (state.database.lookup height).elim [] (listedTxs codec)

/-- All ids that `IsFailedElaTx` goes through. -/
def listed (state : FailedRecharges) : List Bytes :=
  state.failedTxList.values.flatten ++ (state.database.values.map (listedTxs codec)).flatten

def toStore (state : FailedRecharges) (store : SpvStore) : SpvStore :=
  { store with failedTxList := state.listed codec }

/--
What the map holds after `append(txs[:i], txs[i+1:]...)` when the result is not
assigned to it: a slice of the old length over the shifted array.
-/
def shiftOut (elaTx : Bytes) (txs : List Bytes) : List Bytes :=
  txs.erase elaTx ++ txs.getLast?.toList

/-- One turn of the loop of `onElaTxPacked` over the map. -/
def packInMemory (elaTx : Bytes) (state : FailedRecharges) (height : UInt64) : FailedRecharges :=
  let txs := state.memoryAt height
  if elaTx ∈ txs then
    if txs.length = 1 then
      { failedTxList := state.failedTxList.erase height
        database := state.database.erase height }
    else
      { failedTxList :=
          state.failedTxList.insert height (shiftOut elaTx txs)
        database := state.database.insert height (encodeTxList codec (txs.erase elaTx)) }
  else state

/-- One turn of the loop of `onElaTxPacked` over the database. -/
def packInDatabase (elaTx : Bytes) (state : FailedRecharges) (height : UInt64) : FailedRecharges :=
  let txs := state.databaseAt codec height
  if elaTx ∈ txs then
    if txs.length = 1 then
      { failedTxList := state.failedTxList.erase height
        database := state.database.erase height }
    else
      { state with
        database := state.database.insert height (encodeTxList codec (txs.erase elaTx)) }
  else state

/--
`onElaTxPacked`.  Every turn of the two loops touches its own height only, so
their order does not matter.
-/
def onElaTxPacked (elaTx : Bytes) (state : FailedRecharges) : FailedRecharges :=
  let cleaned := EventRuns.run (packInMemory codec elaTx) state state.failedTxList.keys
  EventRuns.run (packInDatabase codec elaTx) cleaned cleaned.database.keys

/--
Whether `OnTx2Failed` gets as far as to list a recharge that is not packaged,
and the height it then lists it under.
-/
def recordingHeight (around : IpcSurroundings) (elaTx : Bytes)
    (state : FailedRecharges) : Option UInt64 :=
  match isFailedElaTx format around.service
      (state.toStore codec ⟨none, [], []⟩) elaTx, around.ipcClient with
  | .ok false, some client =>
    match client.storageAt 1 (slotOf elaTx) with
    | .error _ => none
    | .ok ethTx =>
      if bytesToHash ethTx ≠ emptyHash then none
      else
        match client.currentBlockNumber with
        | .error _ => none
        | .ok height => some height
  | _, _ => none

/-- The last lines of `OnTx2Failed`, which ignores the error of `Put`: the model takes it to succeed. -/
def record (height : UInt64) (elaTx : Bytes) (state : FailedRecharges) : FailedRecharges :=
  let txList := state.memoryAt height ++ [elaTx]
  { failedTxList := state.failedTxList.insert height txList
    database := state.database.insert height (encodeTxList codec txList) }

def onTx2Failed (around : IpcSurroundings) (elaTx : Bytes)
    (state : FailedRecharges) : FailedRecharges :=
  let elaTx := strip0x elaTx
  match isPackagedElaTx around.ipcClient elaTx with
  | .error _ => state
  | .ok true => state.onElaTxPacked codec (strip0x elaTx)
  | .ok false =>
    match state.recordingHeight format codec around elaTx with
    | none => state
    | some height => state.record codec height elaTx

def isReturned (service : RechargeService) (txHash : Bytes) : Bool :=
  match format.uint256FromHexString txHash with
  | .error _ => false
  | .ok hash => service.haveRetSideChainDepositCoinTx hash

/-- The inner loop of `accessFailedRechargeTx`: one returned id is removed. -/
def withoutReturned (service : RechargeService) (txs : List Bytes) : List Bytes :=
  match txs.find? (isReturned format service) with
  | none => txs
  | some txHash => txs.erase txHash

/-- The outer loop of `accessFailedRechargeTx`, which ends at an emptied list. -/
def accessHeights (service : RechargeService) : List UInt64 → FailedRecharges → FailedRecharges
  | [], state => state
  | height :: rest, state =>
    let txs := withoutReturned format service (state.memoryAt height)
    if txs = [] then
      { state with failedTxList := state.failedTxList.erase height }
    else
      accessHeights service rest { state with
          failedTxList := state.failedTxList.insert height txs }

def accessFailedRechargeTx (order : IterationOrder) (service : RechargeService)
    (state : FailedRecharges) : FailedRecharges :=
  accessHeights format service (order.arrange state.failedTxList.keys) state

def restart (state : FailedRecharges) : FailedRecharges :=
  { state with failedTxList := ∅ }

def getTxsOnDb (state : FailedRecharges) (height : UInt64) : List Bytes :=
  (state.database.lookup height).elim [] fun data =>
    (decodeTxList codec data).1

def getFailedRechargeTxs (state : FailedRecharges) (height : UInt64) : List Bytes :=
  match safeUInt64Minus height blockDiff with
  | .error _ => []
  | .ok failedAt =>
    if state.memoryAt failedAt = [] then state.getTxsOnDb codec failedAt
    else state.memoryAt failedAt

end Functions

end FailedRecharges

inductive FailedEvent where
  | tx2Failed (around : IpcSurroundings) (elaTx : Bytes)
  | elaTxPacked (elaTx : Bytes)
  | accessFailed (order : IterationOrder) (service : RechargeService)
  | restart

def FailedRecharges.step (format : ElaFormat) (codec : ListFormat) (state : FailedRecharges) :
    FailedEvent → FailedRecharges
  | .tx2Failed around elaTx => state.onTx2Failed format codec around elaTx
  | .elaTxPacked elaTx => state.onElaTxPacked codec elaTx
  | .accessFailed order service => state.accessFailedRechargeTx format order service
  | .restart => state.restart

/-! ## One height at a time -/

variable {state : FailedRecharges} {id elaTx : Bytes}

namespace FailedRecharges

structure Lists where
  memory : List Bytes
  database : List Bytes

def lists (codec : ListFormat) (state : FailedRecharges) (height : UInt64) : Lists :=
  ⟨state.memoryAt height, state.databaseAt codec height⟩

@[simp] theorem lists_memory (codec : ListFormat) (state : FailedRecharges) (height : UInt64) :
    (state.lists codec height).memory = state.memoryAt height :=
  rfl

@[simp] theorem lists_database (codec : ListFormat) (state : FailedRecharges) (height : UInt64) :
    (state.lists codec height).database = state.databaseAt codec height :=
  rfl

def Lists.Sound (id : Bytes) (lists : Lists) : Prop :=
  id ∈ lists.database → lists.memory = [] ∨ id ∈ lists.memory

structure Lists.Keeps (id : Bytes) (before after : Lists) : Prop where
  sound : before.Sound id → after.Sound id
  stored : before.Sound id → id ∈ before.database → id ∈ after.database
  noNew : id ∈ after.memory ∨ id ∈ after.database → id ∈ before.memory ∨ id ∈ before.database

namespace Lists

theorem Keeps.refl (id : Bytes) (lists : Lists) : lists.Keeps id lists :=
  ⟨fun sound => sound, fun _ stored => stored, fun listed => listed⟩

theorem Keeps.trans {first second third : Lists} (one : first.Keeps id second)
    (two : second.Keeps id third) : first.Keeps id third where
  sound sound := two.sound (one.sound sound)
  stored sound stored :=
    two.stored (one.sound sound) (one.stored sound stored)
  noNew listed := one.noNew (two.noNew listed)

def packedInMemory (elaTx : Bytes) (lists : Lists) : Lists :=
  if elaTx ∈ lists.memory then
    if lists.memory.length = 1 then ⟨[], []⟩
    else ⟨shiftOut elaTx lists.memory, lists.memory.erase elaTx⟩
  else lists

def packedInDatabase (elaTx : Bytes) (lists : Lists) : Lists :=
  if elaTx ∈ lists.database then
    if lists.database.length = 1 then ⟨[], []⟩
    else ⟨lists.memory, lists.database.erase elaTx⟩
  else lists

theorem mem_shiftOut {txs : List Bytes} (other : id ≠ elaTx) :
    id ∈ shiftOut elaTx txs ↔ id ∈ txs := by
  unfold shiftOut
  rw [List.mem_append, List.mem_erase_of_ne other, Option.mem_toList]
  exact ⟨fun listed => listed.elim (fun mem => mem) List.mem_of_getLast?, Or.inl⟩

theorem not_mem_of_single {txs : List Bytes} (other : id ≠ elaTx) (listed : elaTx ∈ txs)
    (single : txs.length = 1) : id ∉ txs := by
  obtain ⟨only, rfl⟩ := List.length_eq_one_iff.1 single
  rw [List.mem_singleton] at listed ⊢
  exact fun same => other (same.trans listed.symm)

theorem keeps_packedInMemory (other : id ≠ elaTx) (lists : Lists) :
    lists.Keeps id (lists.packedInMemory elaTx) := by
  unfold packedInMemory
  split
  · next listed =>
      split
      · next single =>
          refine ⟨fun _ stored => (nomatch stored), ?_,
            fun listed => listed.elim (nomatch ·) (nomatch ·)⟩
          intro sound stored
          rcases sound stored with empty | inMemory
          · rw [empty] at listed
            cases listed
          · exact absurd inMemory (not_mem_of_single other listed single)
      · refine ⟨?_, ?_, ?_⟩
        · intro _ stored
          exact Or.inr ((mem_shiftOut other).2 (List.mem_of_mem_erase stored))
        · intro sound stored
          rcases sound stored with empty | inMemory
          · rw [empty] at listed
            cases listed
          · exact (List.mem_erase_of_ne other).2 inMemory
        · rintro (inMemory | stored)
          · exact Or.inl ((mem_shiftOut other).1 inMemory)
          · exact Or.inl (List.mem_of_mem_erase stored)
  · exact Keeps.refl id lists

theorem keeps_packedInDatabase (other : id ≠ elaTx) (lists : Lists) :
    lists.Keeps id (lists.packedInDatabase elaTx) := by
  unfold packedInDatabase
  split
  · next listed =>
      split
      · next single =>
          have notStored := not_mem_of_single other listed single
          exact ⟨fun _ stored => (nomatch stored), fun _ stored => absurd stored notStored,
            fun listed => listed.elim (nomatch ·) (nomatch ·)⟩
      · exact ⟨fun sound stored =>
            sound (List.mem_of_mem_erase stored),
          fun _ stored => (List.mem_erase_of_ne other).2 stored,
          fun listed => listed.imp_right List.mem_of_mem_erase⟩
  · exact Keeps.refl id lists

theorem keeps_recorded (other : id ≠ elaTx) {lists : Lists}
    (complete : ∀ stored ∈ lists.database, stored ∈ lists.memory) :
    lists.Keeps id ⟨lists.memory ++ [elaTx], lists.memory ++ [elaTx]⟩ where
  sound _ stored := Or.inr stored
  stored _ stored := List.mem_append_left _ (complete id stored)
  noNew listed := by
    rw [or_self, List.mem_append, List.mem_singleton] at listed
    exact Or.inl (listed.resolve_right other)

theorem keeps_memory {lists : Lists} {memory : List Bytes}
    (fewer : memory ⊆ lists.memory) (kept : memory = [] ∨ (id ∈ lists.memory → id ∈ memory)) :
    lists.Keeps id ⟨memory, lists.database⟩ where
  sound sound stored := by
    rcases kept with emptied | kept
    · exact Or.inl emptied
    · rcases sound stored with empty | inMemory
      · rw [empty] at fewer
        exact Or.inl (List.subset_nil.1 fewer)
      · exact Or.inr (kept inMemory)
  stored _ stored := stored
  noNew listed := listed.imp_left fun inMemory => fewer inMemory

end Lists

section Steps

variable {format : ElaFormat} {codec : ListFormat}

theorem lists_congr {state other : FailedRecharges} {height : UInt64}
    (sameMemory : state.failedTxList.lookup height = other.failedTxList.lookup height)
    (sameDatabase : state.database.lookup height = other.database.lookup height) :
    state.lists codec height = other.lists codec height := by
  unfold lists memoryAt databaseAt
  rw [sameMemory, sameDatabase]

section

variable (map : GoMap UInt64 (List Bytes)) (database : GoMap UInt64 Bytes) (height : UInt64)

@[simp] theorem lists_erased :
    lists codec ⟨map.erase height, database.erase height⟩ height = ⟨[], []⟩ := by
  simp [lists, memoryAt, databaseAt]

@[simp] theorem lists_inserted (txs : List Bytes) (data : Bytes) :
    lists codec ⟨map.insert height txs, database.insert height data⟩ height =
      ⟨txs, listedTxs codec data⟩ := by
  simp [lists, memoryAt, databaseAt]

@[simp] theorem lists_stored (data : Bytes) :
    lists codec ⟨map, database.insert height data⟩ height =
      ⟨(map.lookup height).getD [], listedTxs codec data⟩ := by
  simp [lists, memoryAt, databaseAt]

end

theorem lists_packInMemory (reads : codec.ReadsBack) (elaTx : Bytes) (state : FailedRecharges)
    (height : UInt64) :
    (state.packInMemory codec elaTx height).lists codec height =
      (state.lists codec height).packedInMemory elaTx := by
  by_cases listed : elaTx ∈ state.memoryAt height
  · by_cases single : (state.memoryAt height).length = 1
    · simp only [packInMemory, Lists.packedInMemory, lists_memory,
        listed, single, ↓reduceIte, lists_erased]
    simp only [packInMemory, Lists.packedInMemory, lists_memory,
      listed, single, ↓reduceIte, lists_inserted, reads.listedTxs_encodeTxList]
  · simp only [packInMemory, Lists.packedInMemory, lists_memory, listed, ↓reduceIte]

theorem lists_packInMemory_of_ne (elaTx : Bytes) (state : FailedRecharges) (height other : UInt64)
    (different : other ≠ height) :
    (state.packInMemory codec elaTx height).lists codec other = state.lists codec other := by
  unfold packInMemory
  dsimp only
  split
  · split
    · exact lists_congr (AList.lookup_erase_ne different) (AList.lookup_erase_ne different)
    · exact lists_congr (AList.lookup_insert_ne different) (AList.lookup_insert_ne different)
  · rfl

theorem lists_packInDatabase (reads : codec.ReadsBack) (elaTx : Bytes) (state : FailedRecharges)
    (height : UInt64) :
    (state.packInDatabase codec elaTx height).lists codec height =
      (state.lists codec height).packedInDatabase elaTx := by
  by_cases listed : elaTx ∈ state.databaseAt codec height
  · by_cases single : (state.databaseAt codec height).length = 1
    · simp only [packInDatabase, Lists.packedInDatabase,
        lists_database, listed, single, ↓reduceIte, lists_erased]
    simp only [packInDatabase, Lists.packedInDatabase,
      lists_database, lists_memory, listed, single, ↓reduceIte,
      lists_stored, reads.listedTxs_encodeTxList, memoryAt]
  · simp only [packInDatabase, Lists.packedInDatabase, lists_database, listed, ↓reduceIte]

theorem lists_packInDatabase_of_ne (elaTx : Bytes) (state : FailedRecharges) (height other : UInt64)
    (different : other ≠ height) :
    (state.packInDatabase codec elaTx height).lists codec other = state.lists codec other := by
  unfold packInDatabase
  dsimp only
  split
  · split
    · exact lists_congr (AList.lookup_erase_ne different) (AList.lookup_erase_ne different)
    · exact lists_congr rfl (AList.lookup_insert_ne different)
  · rfl

theorem memoryAt_eq_nil {height : UInt64}
    (absent : height ∉ state.failedTxList.keys) : state.memoryAt height = [] := by
  unfold memoryAt
  rw [AList.lookup_eq_none.2 absent]
  rfl

theorem databaseAt_eq_nil {height : UInt64}
    (absent : height ∉ state.database.keys) : state.databaseAt codec height = [] := by
  unfold databaseAt
  rw [AList.lookup_eq_none.2 absent]
  rfl

theorem lists_onElaTxPacked (reads : codec.ReadsBack) (elaTx : Bytes) (state : FailedRecharges)
    (height : UInt64) :
    (state.onElaTxPacked codec elaTx).lists codec height =
      ((state.lists codec height).packedInMemory elaTx).packedInDatabase elaTx := by
  unfold onElaTxPacked
  have inMemory := EventRuns.run_independent (lists_packInMemory reads elaTx)
    (lists_packInMemory_of_ne elaTx) state.failedTxList.keys_nodup state
  generalize EventRuns.run (packInMemory codec elaTx) state
    state.failedTxList.keys = cleaned at inMemory ⊢
  have inDatabase := EventRuns.run_independent (lists_packInDatabase reads elaTx)
    (lists_packInDatabase_of_ne elaTx) cleaned.database.keys_nodup cleaned
  have afterMap : cleaned.lists codec height = (state.lists codec height).packedInMemory elaTx := by
    by_cases listed : height ∈ state.failedTxList.keys
    · exact inMemory.1 height listed
    rw [inMemory.2 height listed]
    simp [Lists.packedInMemory, memoryAt_eq_nil listed]
  rw [← afterMap]
  by_cases stored : height ∈ cleaned.database.keys
  · exact inDatabase.1 height stored
  rw [inDatabase.2 height stored]
  simp [Lists.packedInDatabase, databaseAt_eq_nil stored]

theorem keeps_onElaTxPacked (reads : codec.ReadsBack) (other : id ≠ elaTx)
    (state : FailedRecharges) (height : UInt64) :
    (state.lists codec height).Keeps id ((state.onElaTxPacked codec elaTx).lists codec height) := by
  rw [lists_onElaTxPacked reads]
  exact (Lists.keeps_packedInMemory other _).trans (Lists.keeps_packedInDatabase other _)

theorem lists_record (reads : codec.ReadsBack) (elaTx : Bytes) (state : FailedRecharges)
    (height : UInt64) :
    (state.record codec height elaTx).lists codec height =
      ⟨state.memoryAt height ++ [elaTx], state.memoryAt height ++ [elaTx]⟩ := by
  simp only [record, lists_inserted, reads.listedTxs_encodeTxList]

theorem lists_record_of_ne (elaTx : Bytes) (state : FailedRecharges) {height other : UInt64}
    (different : other ≠ height) :
    (state.record codec height elaTx).lists codec other = state.lists codec other :=
  lists_congr (AList.lookup_insert_ne different) (AList.lookup_insert_ne different)

theorem keeps_record (reads : codec.ReadsBack) (other : id ≠ elaTx) {height : UInt64}
    (complete : ∀ stored ∈ state.databaseAt codec height, stored ∈ state.memoryAt height)
    (seen : UInt64) :
    (state.lists codec seen).Keeps id ((state.record codec height elaTx).lists codec seen) := by
  by_cases same : seen = height
  · subst same
    rw [lists_record reads]
    exact Lists.keeps_recorded other complete
  rw [lists_record_of_ne elaTx state same]
  exact Lists.Keeps.refl id _

theorem lists_memoryInserted (state : FailedRecharges) (height seen : UInt64) (txs : List Bytes) :
    lists codec ⟨state.failedTxList.insert height txs, state.database⟩ seen =
      ⟨if seen = height then txs else state.memoryAt seen, state.databaseAt codec seen⟩ := by
  by_cases same : seen = height
  · subst same
    simp [lists, memoryAt, databaseAt]
  · simp [lists, memoryAt, databaseAt, same]

theorem lists_memoryErased (state : FailedRecharges) (height seen : UInt64) :
    lists codec ⟨state.failedTxList.erase height, state.database⟩ seen =
      ⟨if seen = height then [] else state.memoryAt seen, state.databaseAt codec seen⟩ := by
  by_cases same : seen = height
  · subst same
    simp [lists, memoryAt, databaseAt]
  · simp [lists, memoryAt, databaseAt, same]

theorem mem_withoutReturned {service : RechargeService}
    (unreturned : isReturned format service id = false) {txs : List Bytes} (listed : id ∈ txs) :
    id ∈ withoutReturned format service txs := by
  unfold withoutReturned
  split
  · exact listed
  next txHash found =>
    refine (List.mem_erase_of_ne ?_).2 listed
    intro same
    have returned := List.find?_some found
    rw [← same, unreturned] at returned
    cases returned

theorem withoutReturned_subset (service : RechargeService) (txs : List Bytes) :
    withoutReturned format service txs ⊆ txs := by
  unfold withoutReturned
  split
  · exact List.Subset.refl txs
  · exact List.erase_subset

theorem keeps_accessHeights {service : RechargeService}
    (unreturned : isReturned format service id = false) (heights : List UInt64)
    (state : FailedRecharges) (seen : UInt64) :
    (state.lists codec seen).Keeps id
      ((accessHeights format service heights state).lists codec seen) := by
  induction heights generalizing state with
  | nil => exact Lists.Keeps.refl id _
  | cons height rest inductionHypothesis =>
    have turn : (state.lists codec seen).Keeps id ⟨if seen = height then
            withoutReturned format service (state.memoryAt height)
          else
            state.memoryAt seen,
          state.databaseAt codec seen⟩ := by
      refine Lists.keeps_memory ?_ ?_
      · split
        · next same =>
            subst same
            exact withoutReturned_subset service _
        · exact List.Subset.refl _
      · refine Or.inr ?_
        intro listed
        split
        · next same =>
            subst same
            exact mem_withoutReturned unreturned listed
        · exact listed
    unfold accessHeights
    dsimp only
    split
    · next emptied =>
        rw [lists_memoryErased]
        rwa [emptied] at turn
    refine Lists.Keeps.trans ?_ (inductionHypothesis _)
    rw [lists_memoryInserted]
    exact turn

end Steps

end FailedRecharges

end EscSideChain.Spv
