import EscSideChain.FailedRecharges
import EscSideChain.RechargeRoundTrip

namespace EscSideChain.Spv

open Dpos

variable {state : FailedRecharges} {events : List FailedEvent}

namespace FailedRecharges

/-!
# A failed recharge stays failed

Runs of the functions that keep the failed recharges, with restarts in between.
A recharge is safe as long as the database lists it and the map, where it lists
anything for the same height, lists it too: the next recharge of that height
overwrites the stored list with the one in memory.
-/

def Absent (codec : ListFormat) (id : Bytes) (state : FailedRecharges) : Prop :=
  ∀ height, id ∉ state.memoryAt height ∧ id ∉ state.databaseAt codec height

structure Tracked (codec : ListFormat) (id : Bytes) (state : FailedRecharges) : Prop where
  stored : ∃ height, id ∈ state.databaseAt codec height
  sound : ∀ height, (state.lists codec height).Sound id

section Tracking

variable {format : ElaFormat} {codec : ListFormat} {id : Bytes}

theorem Tracked.of_keeps {before after : FailedRecharges} (tracked : before.Tracked codec id)
    (keeps : ∀ height, (before.lists codec height).Keeps id (after.lists codec height)) :
    after.Tracked codec id := by
  obtain ⟨height, stored⟩ := tracked.stored
  exact ⟨⟨height, (keeps height).stored (tracked.sound height) stored⟩,
    fun height => (keeps height).sound (tracked.sound height)⟩

theorem Absent.of_keeps {before after : FailedRecharges} (absent : before.Absent codec id)
    (keeps : ∀ height, (before.lists codec height).Keeps id (after.lists codec height)) :
    after.Absent codec id := by
  intro height
  have nowhere : ¬(id ∈ (after.lists codec height).memory ∨
      id ∈ (after.lists codec height).database) := by
    intro listed
    rcases (keeps height).noNew listed with inMemory | stored
    · exact (absent height).1 inMemory
    · exact (absent height).2 stored
  exact not_or.1 nowhere

theorem mem_listed :
    id ∈ state.listed codec ↔ ∃ height, id ∈ state.memoryAt height ∨
        id ∈ state.databaseAt codec height := by
  unfold listed
  rw [List.mem_append, List.mem_flatten, List.mem_flatten, exists_or]
  refine or_congr ?_ ?_
  · constructor
    · rintro ⟨txs, listed, mem⟩
      obtain ⟨height, found⟩ := GoMap.mem_values.1 listed
      refine ⟨height, ?_⟩
      unfold memoryAt
      rwa [found]
    · rintro ⟨height, mem⟩
      unfold memoryAt at mem
      cases found : state.failedTxList.lookup height with
      | none =>
        rw [found] at mem
        cases mem
      | some txs =>
        rw [found] at mem
        exact ⟨txs, GoMap.mem_values.2 ⟨height, found⟩, mem⟩
  · constructor
    · rintro ⟨txs, listed, mem⟩
      obtain ⟨data, stored, decoded⟩ := List.mem_map.1 listed
      obtain ⟨height, found⟩ := GoMap.mem_values.1 stored
      refine ⟨height, ?_⟩
      unfold databaseAt
      rw [found]
      subst decoded
      exact mem
    · rintro ⟨height, mem⟩
      unfold databaseAt at mem
      cases found : state.database.lookup height with
      | none =>
        rw [found] at mem
        cases mem
      | some data =>
        rw [found] at mem
        exact ⟨_, List.mem_map_of_mem (GoMap.mem_values.2 ⟨height, found⟩), mem⟩

theorem isFailedElaTx_of_listed (service : Option RechargeService) {store : SpvStore} {hash : Hash}
    (isId : format.uint256FromHexString (strip0x id) = .ok hash)
    (listed : id ∈ state.listed codec) :
    isFailedElaTx format service (state.toStore codec store) id = .ok true := by
  have found : ((state.listed codec).any fun txid =>
      decide (strip0x txid = strip0x id)) = true :=
    List.any_eq_true.2 ⟨id, listed, by simp⟩
  unfold isFailedElaTx
  simp only [isId, toStore, found, ↓reduceIte]

theorem Tracked.isFailedElaTx (tracked : state.Tracked codec id)
    (service : Option RechargeService) (store : SpvStore) {hash : Hash}
    (isId : format.uint256FromHexString (strip0x id) = .ok hash) :
    Spv.isFailedElaTx format service (state.toStore codec store) id = .ok true := by
  obtain ⟨height, stored⟩ := tracked.stored
  exact isFailedElaTx_of_listed service isId (mem_listed.2 ⟨height, Or.inr stored⟩)

theorem recordingHeight_eq_some {around : IpcSurroundings}
    {height : UInt64} (records : state.recordingHeight format codec around id = some height) :
    state.Absent codec id := by
  have notFailed : Spv.isFailedElaTx format around.service
      (state.toStore codec ⟨none, [], []⟩) id = .ok false := by
    unfold recordingHeight at records
    split at records
    · next verdict _ => exact verdict
    · cases records
  have isId : ∃ hash, format.uint256FromHexString (strip0x id) = .ok hash := by
    unfold Spv.isFailedElaTx at notFailed
    dsimp only at notFailed
    split at notFailed
    · cases notFailed
    · next hash isHash => exact ⟨hash, isHash⟩
  obtain ⟨hash, isHash⟩ := isId
  have unlisted : id ∉ state.listed codec := by
    intro listed
    cases notFailed.symm.trans (isFailedElaTx_of_listed around.service isHash listed)
  intro height
  exact not_or.1 fun listed => unlisted (mem_listed.2 ⟨height, listed⟩)

theorem Absent.record (reads : codec.ReadsBack) (absent : state.Absent codec id) (height : UInt64) :
    (state.record codec height id).Tracked codec id := by
  have own := lists_record reads id state height
  refine ⟨⟨height, ?_⟩, ?_⟩
  · rw [← lists_database, own]
    exact List.mem_append_right _ List.mem_cons_self
  · intro seen
    by_cases same : seen = height
    · subst same
      rw [own]
      exact fun stored => Or.inr stored
    rw [lists_record_of_ne id state same]
    exact fun stored => absurd stored (absent seen).2

def Packs (id : Bytes) : FailedEvent → Prop
  | .tx2Failed around elaTx =>
    strip0x (strip0x elaTx) = id ∧ isPackagedElaTx around.ipcClient (strip0x elaTx) = .ok true
  | .elaTxPacked elaTx => elaTx = id
  | .accessFailed _ _ => False
  | .restart => False

def Returns (format : ElaFormat) (id : Bytes) : FailedEvent → Prop
  | .accessFailed _ service => isReturned format service id = true
  | _ => False

def Untouched (format : ElaFormat) (id : Bytes) (events : List FailedEvent) : Prop :=
  ∀ event ∈ events, ¬Packs id event ∧ ¬Returns format id event

/-- `OnTx2Failed` records the id. -/
def Records (format : ElaFormat) (codec : ListFormat) (state : FailedRecharges)
    (around : IpcSurroundings) (id : Bytes) : Prop :=
  isPackagedElaTx around.ipcClient id = .ok false ∧
    (state.recordingHeight format codec around id).isSome = true

/--
When `OnTx2Failed` records a recharge under a height, the map has every id that
the database lists there.
-/
def Complete (format : ElaFormat) (codec : ListFormat) (state : FailedRecharges) :
    FailedEvent → Prop
  | .tx2Failed around elaTx =>
    isPackagedElaTx around.ipcClient (strip0x elaTx) = .ok false → ∀ height,
        state.recordingHeight format codec around (strip0x elaTx) = some height →
        ∀ stored ∈ state.databaseAt codec height, stored ∈ state.memoryAt height
  | _ => True

theorem keeps_step (reads : codec.ReadsBack) {event : FailedEvent}
    (complete : state.Complete format codec event)
    (untouched : ¬Packs id event ∧ ¬Returns format id event) :
    (∀ height, (state.lists codec height).Keeps id
      ((state.step format codec event).lists codec height)) ∨
    state.Absent codec id ∧ (state.step format codec event).Tracked codec id := by
  cases event with
  | tx2Failed around elaTx =>
    have unchanged : ∀ height, (state.lists codec height).Keeps id (state.lists codec height) :=
      fun height => Lists.Keeps.refl id _
    simp only [step, onTx2Failed]
    split
    · exact Or.inl unchanged
    · next packaged =>
        refine Or.inl (keeps_onElaTxPacked reads ?_ state)
        intro same
        exact untouched.1 ⟨same.symm, packaged⟩
    · next unpackaged =>
        split
        · exact Or.inl unchanged
        next height records =>
          by_cases same : id = strip0x elaTx
          · rw [← same] at records ⊢
            have absent := recordingHeight_eq_some records
            exact Or.inr ⟨absent, absent.record reads height⟩
          · exact Or.inl (keeps_record reads same (complete unpackaged height records))
  | elaTxPacked elaTx =>
    refine Or.inl (keeps_onElaTxPacked reads ?_ state)
    intro same
    exact untouched.1 same.symm
  | accessFailed order service =>
    exact Or.inl (keeps_accessHeights (Bool.eq_false_iff.2 untouched.2) _ state)
  | restart =>
    exact Or.inl fun height =>
      Lists.keeps_memory (List.nil_subset _) (Or.inl rfl)

variable (reads : codec.ReadsBack)
  (complete : EventRuns.Along (Complete format codec) (step format codec) state events)
  (untouched : Untouched format id events)

include reads complete untouched

theorem Tracked.run (tracked : state.Tracked codec id) :
    (EventRuns.run (step format codec) state events).Tracked
      codec id := by
  induction events generalizing state with
  | nil => exact tracked
  | cons event rest inductionHypothesis =>
    refine inductionHypothesis complete.2 (fun event member =>
        untouched event (List.mem_cons_of_mem _ member)) ?_
    rcases keeps_step reads complete.1 (untouched event List.mem_cons_self) with keeps | recorded
    · exact tracked.of_keeps keeps
    · exact recorded.2

theorem Absent.run (absent : state.Absent codec id) :
    (EventRuns.run (step format codec) state events).Absent codec id ∨
      (EventRuns.run (step format codec) state events).Tracked
        codec id := by
  induction events generalizing state with
  | nil => exact Or.inl absent
  | cons event rest inductionHypothesis =>
    have later : Untouched format id rest := fun event member =>
      untouched event (List.mem_cons_of_mem _ member)
    rcases keeps_step reads complete.1 (untouched event List.mem_cons_self) with keeps | recorded
    · exact inductionHypothesis complete.2 later (absent.of_keeps keeps)
    · have tracked := recorded.2.run reads complete.2 later
      exact Or.inr tracked

end Tracking

/-! ## What is reported -/

/-- Every stored value was written by `encodeTxList`. -/
def Written (codec : ListFormat) (state : FailedRecharges) : Prop :=
  ∀ height data, state.database.lookup height = some data → ∃ txs, data = encodeTxList codec txs

section Reports

variable {format : ElaFormat} {codec : ListFormat}

theorem Written.erase (written : state.Written codec)
    (map : GoMap UInt64 (List Bytes)) (height : UInt64) :
    Written codec ⟨map, state.database.erase height⟩ := by
  intro seen data found
  by_cases same : seen = height
  · subst same
    rw [AList.lookup_erase] at found
    cases found
  rw [AList.lookup_erase_ne same] at found
  exact written seen data found

theorem Written.insert (written : state.Written codec)
    (map : GoMap UInt64 (List Bytes)) (height : UInt64) (txs : List Bytes) :
    Written codec ⟨map, state.database.insert height (encodeTxList codec txs)⟩ := by
  intro seen data found
  rcases GoMap.lookup_insert_cases found with ⟨rfl, rfl⟩ | before
  · exact ⟨txs, rfl⟩
  · exact written seen data before

variable (elaTx : Bytes)

theorem Written.packInMemory (state : FailedRecharges) (height : UInt64)
    (written : state.Written codec) : (state.packInMemory codec elaTx height).Written codec := by
  unfold FailedRecharges.packInMemory
  dsimp only
  split
  · split
    · exact written.erase _ height
    · exact written.insert _ height _
  · exact written

theorem Written.packInDatabase (state : FailedRecharges) (height : UInt64)
    (written : state.Written codec) : (state.packInDatabase codec elaTx height).Written codec := by
  unfold FailedRecharges.packInDatabase
  dsimp only
  split
  · split
    · exact written.erase _ height
    · exact written.insert _ height _
  · exact written

theorem Written.onElaTxPacked
    (written : state.Written codec) : (state.onElaTxPacked codec elaTx).Written codec :=
  EventRuns.run_invariant_of_forall (Written.packInDatabase elaTx) _
    (EventRuns.run_invariant_of_forall (Written.packInMemory elaTx) _ written)

theorem database_accessHeights (service : RechargeService) (heights : List UInt64)
    (state : FailedRecharges) :
    (accessHeights format service heights state).database = state.database := by
  induction heights generalizing state with
  | nil => rfl
  | cons height rest inductionHypothesis =>
    unfold accessHeights
    dsimp only
    split
    · rfl
    · exact inductionHypothesis _

theorem Written.step (state : FailedRecharges) (event : FailedEvent)
    (written : state.Written codec) : (state.step format codec event).Written codec := by
  cases event with
  | tx2Failed around elaTx =>
    simp only [FailedRecharges.step, onTx2Failed]
    split
    · exact written
    · exact written.onElaTxPacked _
    · split
      · exact written
      · exact written.insert _ _ _
  | elaTxPacked elaTx => exact written.onElaTxPacked elaTx
  | accessFailed order service =>
    intro height data found
    refine written height data ?_
    rw [← found, FailedRecharges.step, accessFailedRechargeTx, database_accessHeights]
  | restart => exact written

theorem Written.not_absent (reads : codec.ReadsBack)
    (written : state.Written codec) {height : UInt64} {id : Bytes}
    (reported : id ∈ state.getFailedRechargeTxs codec height) : ¬state.Absent codec id := by
  intro absent
  unfold getFailedRechargeTxs at reported
  split at reported
  · cases reported
  next failedAt _ =>
    split at reported
    · refine (absent failedAt).2 ?_
      unfold getTxsOnDb at reported
      unfold databaseAt
      cases found : state.database.lookup failedAt with
      | none =>
        rw [found] at reported
        cases reported
      | some data =>
        obtain ⟨txs, encoded⟩ := written failedAt data found
        rw [found, Option.elim_some, encoded, reads.decodeTxList_encodeTxList] at reported
        rw [Option.elim_some, encoded, reads.listedTxs_encodeTxList]
        exact reported
    · exact (absent failedAt).1 reported

end Reports

/-! ## A failed recharge stays failed -/

def initial : FailedRecharges :=
  ⟨∅, ∅⟩

section Failed

variable (format : ElaFormat) (codec : ListFormat)

/--
The recharge was recorded as failed in the run, and it has been neither packed
nor returned since; or it is reported after the run, in which it was never
packed or returned.
-/
def OnRecord (events : List FailedEvent) (id : Bytes) : Prop :=
  (∃ earlier around elaTx later, events = earlier ++ .tx2Failed around elaTx :: later ∧
      strip0x elaTx = id ∧ Records format codec (EventRuns.run (step format codec) initial earlier)
        around id ∧
      Untouched format id later) ∨
  Untouched format id events ∧ ∃ height, id ∈ getFailedRechargeTxs codec
      (EventRuns.run (step format codec) initial events) height

structure IsMainChainId (id : Bytes) : Prop where
  unprefixed : strip0x id = id
  isHash : (format.uint256FromHexString id).isOk = true

variable {format codec} {id : Bytes}

theorem tracked_of_onRecord (reads : codec.ReadsBack)
    (complete : EventRuns.Along (Complete format codec) (step format codec) initial events)
    (onRecord : OnRecord format codec events id) :
    (EventRuns.run (step format codec) initial events).Tracked
      codec id := by
  rcases onRecord with ⟨earlier, around, elaTx, later, rfl, rfl, ⟨unpackaged, records⟩, untouched⟩ |
    ⟨untouched, height, reported⟩
  · obtain ⟨height, recorded⟩ := Option.isSome_iff_exists.1 records
    rw [EventRuns.run_append, EventRuns.run_cons]
    refine Tracked.run reads ((EventRuns.along_append _ _ _).1 complete).2.2 untouched ?_
    simp only [step, onTx2Failed, unpackaged, recorded]
    exact (recordingHeight_eq_some recorded).record reads height
  · have written : (EventRuns.run (step format codec) initial events).Written codec :=
      EventRuns.run_invariant_of_forall Written.step events fun _ _ found => (nomatch found)
    have absent : initial.Absent codec id := fun _ => ⟨List.not_mem_nil, List.not_mem_nil⟩
    exact (absent.run reads complete untouched).resolve_left (written.not_absent reads reported)

theorem getRechargeData_of_failed {service : Option RechargeService} {store : SpvStore}
    (unprefixed : strip0x id = id) (failed : isFailedElaTx format service store id = .ok true)
    (result : List RechargeData × Int) :
    getRechargeDataByTxhash format service store id ≠ .ok result := by
  unfold getRechargeDataByTxhash
  rw [unprefixed]
  dsimp only
  rw [failed]
  split <;> exact nofun

/--
While the map is complete whenever a recharge is recorded, a recharge that is on
record as failed stays failed until it is packed or returned, and nothing is
credited for it.
-/
theorem failed_recharge_stays_failed (reads : codec.ReadsBack) (id : Bytes)
    (isId : IsMainChainId format id) (before after : List FailedEvent)
    (complete : EventRuns.Along (Complete format codec)
      (step format codec) initial (before ++ after))
    (onRecord : OnRecord format codec before id)
    (untouched : Untouched format id after)
    (service : Option RechargeService)
    (store : SpvStore) :
    let reached := (EventRuns.run (step format codec) initial (before ++ after)).toStore codec store
    isFailedElaTx format service reached id = .ok true ∧
      ∀ result, getRechargeDataByTxhash format service reached id ≠ .ok result := by
  obtain ⟨complete, completeAfter⟩ := (EventRuns.along_append _ _ _).1 complete
  have tracked := (tracked_of_onRecord reads complete onRecord).run reads completeAfter untouched
  rw [EventRuns.run_append]
  obtain ⟨hash, isHash⟩ : ∃ hash, format.uint256FromHexString (strip0x id) = .ok hash := by
    rw [isId.unprefixed]
    cases parsed : format.uint256FromHexString id with
    | error reason =>
      have isHash := isId.isHash
      rw [parsed] at isHash
      cases isHash
    | ok hash => exact ⟨hash, rfl⟩
  have failed := tracked.isFailedElaTx service store isHash
  exact ⟨failed, getRechargeData_of_failed isId.unprefixed failed⟩

end Failed

end FailedRecharges

namespace Sample

def readTally : Bytes → Except String (Nat × Bytes)
  | [] => .error "EOF"
  | byte :: rest =>
    if byte = 0 then .ok (0, rest)
    else
      match readTally rest with
      | .error reason => .error reason
      | .ok (number, remaining) => .ok (number + 1, remaining)

def writeTally (number : Nat) : Bytes :=
  List.replicate number 1 ++ [0]

def tallies : ListFormat where
  writeVarUint := writeTally
  writeVarString text := writeTally text.length ++ text
  readVarUint := readTally
  readVarString data :=
    match readTally data with
    | .error reason => .error reason
    | .ok (length, rest) => .ok (rest.take length, rest.drop length)

theorem readTally_writeTally (number : Nat) (rest : Bytes) :
    readTally (writeTally number ++ rest) = .ok (number, rest) := by
  induction number with
  | zero => rfl
  | succ number inductionHypothesis =>
    simp only [writeTally, List.append_assoc, List.singleton_append] at inductionHypothesis
    simp [writeTally, List.replicate_succ, readTally, inductionHypothesis]

theorem tallies_readsBack : tallies.ReadsBack where
  count := readTally_writeTally
  text text rest := by
    simp [tallies, List.append_assoc, readTally_writeTally]

def atHeight (height : UInt64) : IpcSurroundings where
  ipcClient := some {
    storageAt := fun _ _ => .ok []
    currentBlockNumber := .ok height }
  service := some noReturns

def firstId : Bytes := [97, 97]

def secondId : Bytes := [98, 98]

def failedThenRestarted : List FailedEvent :=
  [.tx2Failed (atHeight 10) firstId, .restart]

def storeAfter (events : List FailedEvent) : SpvStore :=
  (EventRuns.run (FailedRecharges.step strokes tallies)
    FailedRecharges.initial events).toStore tallies
    (saveOutputPayload strokes emptyStore [outputWith [99]] firstId)

end Sample

open Sample

namespace FailedRecharges

/--
The first recharge is still failed when the second one has failed at another
height after a restart.
-/
theorem failed_recharge_survives_restart :
    isFailedElaTx strokes (some noReturns)
        (storeAfter (failedThenRestarted ++ [.tx2Failed (atHeight 11) secondId]))
        firstId = .ok true := by
  have complete : EventRuns.Along (Complete strokes tallies) (step strokes tallies) initial
      (failedThenRestarted ++ [.tx2Failed (atHeight 11) secondId]) := by
    refine ⟨?_, trivial, ?_, trivial⟩
    · intro _ height records stored listed
      cases listed
    · have eleven : recordingHeight strokes tallies (atHeight 11) secondId
          (EventRuns.run (step strokes tallies) initial failedThenRestarted) = some 11 := by
        decide +kernel
      have nothing : databaseAt tallies
          (EventRuns.run (step strokes tallies) initial failedThenRestarted) 11 = [] := by
        decide +kernel
      intro _ height records stored listed
      cases eleven.symm.trans records
      cases nothing ▸ listed
  have onRecord : OnRecord strokes tallies
      failedThenRestarted firstId := by
    refine Or.inl ⟨[], atHeight 10, firstId, [.restart], rfl, by decide, ⟨by decide, by decide⟩, ?_⟩
    intro event member
    rw [List.mem_singleton.1 member]
    exact ⟨fun packs => packs, fun returns => returns⟩
  have untouched : Untouched strokes firstId [.tx2Failed (atHeight 11) secondId] := by
    intro event member
    rw [List.mem_singleton.1 member]
    exact ⟨fun packs => absurd packs.1 (by decide), fun returns => returns⟩
  exact (failed_recharge_stays_failed tallies_readsBack
    firstId ⟨by decide, by decide⟩ failedThenRestarted
    [.tx2Failed (atHeight 11) secondId] complete onRecord untouched (some noReturns) _).1

/--
After a restart, the second recharge fails at the height of the first one.  The
database then lists the second one only, and the first one is credited.
-/
theorem failed_recharge_forgotten :
    isFailedElaTx strokes (some noReturns) (storeAfter failedThenRestarted) firstId = .ok true ∧
    isFailedElaTx strokes (some noReturns)
        (storeAfter (failedThenRestarted ++ [.tx2Failed (atHeight 10) secondId]))
        firstId = .ok false ∧
    getRechargeDataByTxhash strokes (some noReturns)
        (storeAfter (failedThenRestarted ++ [.tx2Failed (atHeight 10) secondId])) firstId =
      .ok ([rechargeData (outputWith [99])], 20000000000) := by
  decide +kernel

end FailedRecharges

end EscSideChain.Spv
