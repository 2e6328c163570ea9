import EscSideChain.DposTurns
import EscSideChain.EventRuns

namespace EscSideChain.Spv

/-!
# The record of the next turn

`spv/blocklistener.go`: the listener that follows the blocks of the main chain and
keeps the package variable `nextTurnDposInfo`, the arbiters of the next turn.  A
nil record is written through by the first next-turn block that is recognised, one that
is not recognised leaves the record to the answers of the service, and a change of the
consensus mode may replace what a next-turn block has just put in.
-/

/-- What the transaction types of the main chain say of the bytes of a transaction. -/
structure MainChainLibrary where
  -- the payload, if the bytes are those of a next-turn transaction
  nextTurnPayload : Bytes → Option NextTurnDPOSInfo
  -- what `IsNextTurnDPOSInfoTx` and `Payload` answer once `Deserialize` has read the bytes into an
  -- empty `BaseTransaction`
  recognised : Bytes → Option NextTurnDPOSInfo

/-- `Deserialize` takes nothing for a next-turn transaction that is none, and changes no payload. -/
def MainChainLibrary.NeverMisreads (library : MainChainLibrary) : Prop :=
  ∀ bytes read, library.recognised bytes = some read → library.nextTurnPayload bytes = some read

/-- `util.Block`, with the transactions as they are serialised. -/
structure MainChainBlock where
  height : UInt32
  transactions : List Bytes

inductive Notification where
  | nextProducers (peers : List Bytes)
  | initCurrentProducers
  | stateChanged (mode : ConsensusAlgorithm)
  | onSPVHeight (height : UInt32)

structure ListenerState where
  nextTurnDposInfo : Option NextTurnDPOSInfo
  consensusMode : ConsensusAlgorithm
  blockNumber : UInt32
  param : Option MainChainBlock
  dynamicArbiterHeight : UInt64
  notified : List Notification

/-- What the SPV service answers to one call of `InitNextTurnDposInfo`. -/
structure InitAnswers where
  service : SpvService
  nextArbiters : Except String (UInt32 × List Bytes × List Bytes)

/-- One call of `NotifyBlock`, with the answers of the service during the call. -/
structure BlockNotice where
  block : MainChainBlock
  isCurrent : Bool
  first : InitAnswers
  now : SpvService
  second : InitAnswers

/-- The record that `DumpNextDposInfo` makes. -/
def NextTurnDPOSInfo.blank : NextTurnDPOSInfo where
  workingHeight := 0
  crPublicKeys := []
  dposPublicKeys := []

namespace ListenerState

/-- `events.Notify` and `mux.Post`. -/
def notify (state : ListenerState) (notification : Notification) : ListenerState :=
  { state with notified := state.notified ++ [notification] }

/-- `DumpNextDposInfo`: the state afterwards, and the peers. -/
def dumpNextDposInfo (state : ListenerState) : ListenerState × List Bytes :=
  match state.nextTurnDposInfo with
  | none => ({ state with nextTurnDposInfo := some .blank }, [])
  | some info => (state, Spv.dumpNextDposInfo info)

def spvIsWorkingHeight (state : ListenerState) : Bool :=
  match state.nextTurnDposInfo with
  | none => false
  | some info => state.blockNumber > info.workingHeight

def isSameNexturnArbiters (state : ListenerState) (workingHeight : UInt32)
    (crcArbiters normalArbiters : List Bytes) : Bool :=
  match state.nextTurnDposInfo with
  | none => false
  | some info =>
    if info.workingHeight ≠ workingHeight then false
    else if crcArbiters.length ≠ info.crPublicKeys.length then false
    else if normalArbiters.length ≠ info.dposPublicKeys.length then false
    else
      (crcArbiters.zip info.crPublicKeys).all (fun pair => pair.1 = pair.2) &&
        (normalArbiters.zip info.dposPublicKeys).all (fun pair => pair.1 = pair.2)

end ListenerState

variable (library : MainChainLibrary)
variable (crOnly : Bool)

def electedKeys (keys : List Bytes) : List Bytes :=
  if crOnly then []
  else keys

def NextTurnDPOSInfo.taken (payload : NextTurnDPOSInfo) : NextTurnDPOSInfo :=
  { payload with
    dposPublicKeys := electedKeys crOnly payload.dposPublicKeys }

/-- The payload of the first next-turn transaction of a block. -/
def MainChainBlock.nextTurn (block : MainChainBlock) : Option NextTurnDPOSInfo :=
  block.transactions.findSome? library.nextTurnPayload

/-- The payload of the first transaction that the loop of `IsNexturnBlock` stops at. -/
def MainChainBlock.recognised (block : MainChainBlock) : Option NextTurnDPOSInfo :=
  block.transactions.findSome? library.recognised

namespace ListenerState

def initNextTurnDposInfo (answers : InitAnswers) (state : ListenerState) : ListenerState :=
  match answers.nextArbiters with
  | .error _ => state
  | .ok (workingHeight, crcArbiters, arbiters) =>
    let normalArbiters := electedKeys crOnly arbiters
    if getCurrentConsensusMode (some answers.service) = .pow ∧
        crcArbiters.length = 0 ∧ normalArbiters.length = 0 then
      if state.consensusMode = .dpos then state.dumpNextDposInfo.1
      else state
    else if state.isSameNexturnArbiters workingHeight crcArbiters normalArbiters then state
    else
      let renewed := { state with
        nextTurnDposInfo :=
          some ⟨workingHeight, crcArbiters, normalArbiters⟩ }
      renewed.dumpNextDposInfo.1.notify (.nextProducers renewed.dumpNextDposInfo.2)

/--
`IsNexturnBlock`, which writes the payload of a next-turn transaction into the
record; there is no state if the record is nil.
-/
def isNexturnBlock (block : MainChainBlock)
    (state : ListenerState) : Option (ListenerState × Bool) :=
  match block.recognised library with
  | none => some (state, false)
  | some payload =>
    match state.nextTurnDposInfo with
    | none => none
    | some _ =>
      some ({ state with
        nextTurnDposInfo := some (payload.taken crOnly) },
        true)

/-- The part of `onBlockHandled` that asks for the next arbiters. -/
def askNextArbiters (isWorkingHeight isNexturn : Bool) (answers : InitAnswers)
    (state : ListenerState) : ListenerState :=
  match state.nextTurnDposInfo with
  | none => state.initNextTurnDposInfo crOnly answers
  | some _ =>
    if isWorkingHeight = false ∧ isNexturn = false then state.initNextTurnDposInfo crOnly answers
    else state

/-- The part of `onBlockHandled` that announces the arbiters of the block. -/
def announceNextTurn (isNexturn : Bool) (state : ListenerState) : ListenerState :=
  if isNexturn then state.dumpNextDposInfo.1.notify (.nextProducers state.dumpNextDposInfo.2)
  else state

/-- A change of the consensus mode in `onBlockHandled`. -/
def changeMode (nowConsensus : ConsensusAlgorithm) (answers : InitAnswers)
    (state : ListenerState) : ListenerState :=
  if state.consensusMode ≠ nowConsensus then
    (((state.notify .initCurrentProducers).initNextTurnDposInfo
      crOnly answers).notify (.stateChanged nowConsensus))
  else state

/-- The part of `onBlockHandled` that follows the consensus mode. -/
def followMode (nowConsensus : ConsensusAlgorithm) (answers : InitAnswers)
    (state : ListenerState) : ListenerState :=
  let changed := state.changeMode crOnly nowConsensus answers
  let posted :=
    if changed.spvIsWorkingHeight ∧ nowConsensus ≠ .pow then changed.notify .initCurrentProducers
    else changed
  { posted with consensusMode := nowConsensus }

def onBlockHandled (notice : BlockNotice) (state : ListenerState) : Option ListenerState :=
  match state.isNexturnBlock library crOnly notice.block with
  | none => none
  | some (read, isNexturn) =>
    let announced := (read.askNextArbiters crOnly
      state.spvIsWorkingHeight isNexturn notice.first).announceNextTurn isNexturn
    match announced.nextTurnDposInfo with
    | none => some announced
    | some _ =>
      some (announced.followMode crOnly (getCurrentConsensusMode (some notice.now)) notice.second)

/-- `NotifyBlock`; there is no state if the call dereferences a nil record. -/
def notifyBlock (notice : BlockNotice) (state : ListenerState) : Option ListenerState :=
  if notice.isCurrent then
    if notice.block.height ≤ state.blockNumber then some state
    else
      let stored := { state with
        blockNumber := notice.block.height
        param := some notice.block }
      if notice.block.height.toUInt64 < stored.dynamicArbiterHeight then some stored
      else
        match stored.onBlockHandled library crOnly notice with
        | none => none
        | some handled => some (handled.notify (.onSPVHeight notice.block.height))
  else some state

def fresh (consensusMode : ConsensusAlgorithm) (dynamicArbiterHeight : UInt64) : ListenerState where
  nextTurnDposInfo := none
  consensusMode := consensusMode
  blockNumber := 0
  param := none
  dynamicArbiterHeight := dynamicArbiterHeight
  notified := []

end ListenerState

def notifyStep (node : Option ListenerState) (notice : BlockNotice) : Option ListenerState :=
  match node with
  | none => none
  | some state => state.notifyBlock library crOnly notice

/-! ## What a call does to the record -/

/-- What `InitNextTurnDposInfo` would put into the record, if anything. -/
def InitAnswers.offered (answers : InitAnswers) : Option NextTurnDPOSInfo :=
  match answers.nextArbiters with
  | .error _ => none
  | .ok (workingHeight, crcArbiters, arbiters) =>
    if getCurrentConsensusMode (some answers.service) = .pow ∧ crcArbiters = [] ∧
        electedKeys crOnly arbiters = [] then
      none
    else some ⟨workingHeight, crcArbiters, electedKeys crOnly arbiters⟩

variable {library}
variable {state : ListenerState}
variable {notice : BlockNotice}
variable {payload : NextTurnDPOSInfo}

namespace ListenerState

theorem all_zip_eq_iff {first second : List Bytes} (sameLength : first.length = second.length) :
    (first.zip second).all (fun pair => pair.1 = pair.2) = true ↔ first = second := by
  induction first generalizing second with
  | nil =>
    cases second with
    | nil => simp
    | cons head rest => cases sameLength
  | cons head rest inductionHypothesis =>
    cases second with
    | nil => cases sameLength
    | cons other tail =>
      have restLength : rest.length = tail.length := by simpa using sameLength
      simpa using fun _ => inductionHypothesis restLength

theorem isSameNexturnArbiters_iff {workingHeight : UInt32}
    {crcArbiters normalArbiters : List Bytes} :
    state.isSameNexturnArbiters workingHeight crcArbiters normalArbiters = true ↔
      state.nextTurnDposInfo = some ⟨workingHeight, crcArbiters, normalArbiters⟩ := by
  unfold isSameNexturnArbiters
  cases state.nextTurnDposInfo with
  | none => simp
  | some info =>
    obtain ⟨height, crKeys, dposKeys⟩ := info
    by_cases sameHeight : height = workingHeight
    · by_cases sameCrLength : crcArbiters.length = crKeys.length
      · by_cases sameDposLength : normalArbiters.length = dposKeys.length
        · simp only [sameHeight, ne_eq, not_true_eq_false, ↓reduceIte,
            sameCrLength, sameDposLength, Bool.and_eq_true, all_zip_eq_iff sameCrLength,
            all_zip_eq_iff sameDposLength, Option.some.injEq, NextTurnDPOSInfo.mk.injEq, true_and]
          exact and_congr eq_comm eq_comm
        · have differ : dposKeys ≠ normalArbiters := by
            rintro rfl
            exact sameDposLength rfl
          simp [sameHeight, sameCrLength, sameDposLength, differ]
      · have differ : crKeys ≠ crcArbiters := by
          rintro rfl
          exact sameCrLength rfl
        simp [sameHeight, sameCrLength, differ]
    · simp [sameHeight]

section Record

variable {crOnly : Bool}
variable {state : ListenerState}
variable {answers : InitAnswers}
variable {info : NextTurnDPOSInfo}

@[simp] theorem nextTurnDposInfo_notify (notification : Notification) :
    (state.notify notification).nextTurnDposInfo = state.nextTurnDposInfo :=
  rfl

theorem dumpNextDposInfo_of_some (recorded : state.nextTurnDposInfo = some info) :
    state.dumpNextDposInfo = (state, Spv.dumpNextDposInfo info) := by
  simp [dumpNextDposInfo, recorded]

theorem init_of_offered (offered : answers.offered crOnly = some info) :
    (state.initNextTurnDposInfo crOnly answers).nextTurnDposInfo = some info := by
  unfold InitAnswers.offered at offered
  unfold initNextTurnDposInfo
  cases asked : answers.nextArbiters with
  | error reason => simp [asked] at offered
  | ok found =>
    obtain ⟨workingHeight, crcArbiters, arbiters⟩ := found
    simp only [asked] at offered
    split at offered
    · cases offered
    next notIdle =>
      cases offered
      simp only [List.length_eq_zero_iff, notIdle, ↓reduceIte]
      by_cases same : state.isSameNexturnArbiters workingHeight
          crcArbiters (electedKeys crOnly arbiters) = true
      · rw [if_pos same]
        exact isSameNexturnArbiters_iff.1 same
      rw [if_neg same]
      rfl

theorem init_of_not_offered (notOffered : answers.offered crOnly = none)
    (recorded : state.nextTurnDposInfo = some info) :
    (state.initNextTurnDposInfo crOnly answers).nextTurnDposInfo = some info := by
  unfold InitAnswers.offered at notOffered
  unfold initNextTurnDposInfo
  cases asked : answers.nextArbiters with
  | error reason => exact recorded
  | ok found =>
    obtain ⟨workingHeight, crcArbiters, arbiters⟩ := found
    simp only [asked] at notOffered
    split at notOffered
    · next idle =>
        simp only [List.length_eq_zero_iff, idle, ↓reduceIte,
          and_self, dumpNextDposInfo_of_some recorded, ite_self]
        exact recorded
    · cases notOffered

section

variable (recorded : state.nextTurnDposInfo = some info)

include recorded

theorem init_of_some (answers : InitAnswers) :
    (state.initNextTurnDposInfo crOnly answers).nextTurnDposInfo =
        some ((answers.offered crOnly).getD info) := by
  cases offered : answers.offered crOnly with
  | none => exact init_of_not_offered offered recorded
  | some offer => exact init_of_offered offered

theorem record_followMode (nowConsensus : ConsensusAlgorithm) (answers : InitAnswers) :
    (state.followMode crOnly nowConsensus answers).nextTurnDposInfo =
      if state.consensusMode = nowConsensus then some info
      else
        some ((answers.offered crOnly).getD info) := by
  have changed : (state.changeMode crOnly nowConsensus answers).nextTurnDposInfo =
      if state.consensusMode = nowConsensus then some info
      else
        some ((answers.offered crOnly).getD info) := by
    unfold changeMode
    by_cases sameMode : state.consensusMode = nowConsensus
    · simpa [sameMode] using recorded
    simp only [ne_eq, sameMode, not_false_eq_true, ↓reduceIte, nextTurnDposInfo_notify]
    exact init_of_some
      (show (state.notify .initCurrentProducers).nextTurnDposInfo = some info from recorded) answers
  rw [← changed]
  unfold followMode
  dsimp only
  split
  · rfl
  · rfl

theorem askNextArbiters_of_nexturn (isWorkingHeight : Bool) (answers : InitAnswers) :
    state.askNextArbiters crOnly isWorkingHeight true answers = state := by
  simp [askNextArbiters, recorded]

theorem announceNextTurn_of_some :
    state.announceNextTurn true = state.notify (.nextProducers (Spv.dumpNextDposInfo info)) := by
  simp [announceNextTurn, dumpNextDposInfo_of_some recorded]

end

theorem consensusMode_initNextTurnDposInfo :
    (state.initNextTurnDposInfo crOnly answers).consensusMode = state.consensusMode := by
  unfold initNextTurnDposInfo dumpNextDposInfo
  split
  · rfl
  · dsimp only
    split
    · split
      · split <;> rfl
      · rfl
    · split <;> rfl

theorem consensusMode_askNextArbiters (isWorkingHeight isNexturn : Bool) :
    (state.askNextArbiters crOnly isWorkingHeight isNexturn answers).consensusMode =
      state.consensusMode := by
  unfold askNextArbiters
  split
  · exact consensusMode_initNextTurnDposInfo
  · split
    · exact consensusMode_initNextTurnDposInfo
    · rfl

variable (crOnly state)

/-- A block in which nothing is recognised ends no call, and leaves what was asked for. -/
theorem onBlockHandled_of_unrecognised (unread : notice.block.recognised library = none) :
    ∃ after, state.onBlockHandled library crOnly notice = some after ∧
      ∀ info, (state.askNextArbiters crOnly state.spvIsWorkingHeight false
          notice.first).nextTurnDposInfo = some info →
        after.nextTurnDposInfo =
          if state.consensusMode = getCurrentConsensusMode (some notice.now) then some info
          else some ((notice.second.offered crOnly).getD info) := by
  unfold onBlockHandled isNexturnBlock
  simp only [unread, announceNextTurn, Bool.false_eq_true, ↓reduceIte]
  split
  · next missing =>
      refine ⟨_, rfl, fun info asked => ?_⟩
      cases missing.symm.trans asked
  · refine ⟨_, rfl, fun info asked => ?_⟩
    rw [record_followMode asked, consensusMode_askNextArbiters]

theorem onBlockHandled_of_some (carries : notice.block.recognised library = some payload)
    (recorded : state.nextTurnDposInfo = some info) :
    ∃ after, state.onBlockHandled library crOnly notice = some after ∧ after.nextTurnDposInfo =
        if state.consensusMode = getCurrentConsensusMode (some notice.now) then
          some (payload.taken crOnly)
        else
          some ((notice.second.offered crOnly).getD (payload.taken crOnly)) := by
  let read : ListenerState := { state with
    nextTurnDposInfo := some (payload.taken crOnly) }
  have written : read.nextTurnDposInfo = some (payload.taken crOnly) := rfl
  have reads : state.isNexturnBlock library crOnly notice.block = some (read, true) := by
    simp [isNexturnBlock, carries, recorded, read]
  refine ⟨(read.notify (.nextProducers
    (Spv.dumpNextDposInfo (payload.taken crOnly)))).followMode crOnly
      (getCurrentConsensusMode (some notice.now)) notice.second, ?_, ?_⟩
  · unfold onBlockHandled
    simp only [reads, askNextArbiters_of_nexturn written,
      announceNextTurn_of_some written, nextTurnDposInfo_notify, written]
  · have announced : (read.notify (.nextProducers
        (Spv.dumpNextDposInfo (payload.taken crOnly)))).nextTurnDposInfo =
        some (payload.taken crOnly) := rfl
    exact record_followMode announced _ _

end Record

end ListenerState

/-! ## Runs of the listener -/

def ListenerState.Handles (state : ListenerState) (notice : BlockNotice) : Prop :=
  notice.isCurrent = true ∧ state.blockNumber < notice.block.height ∧
    state.dynamicArbiterHeight ≤ notice.block.height.toUInt64

/-- The service answers nothing but the arbiters of a payload. -/
def InitAnswers.OffersOnly (answers : InitAnswers) (payload : NextTurnDPOSInfo) : Prop :=
  ∀ offer, answers.offered crOnly = some offer → offer = payload.taken crOnly

/-- A block that `IsNexturnBlock` does not recognise makes the listener ask for the arbiters. -/
def ListenerState.Asks (state : ListenerState) (notice : BlockNotice) : Prop :=
  ∀ info, state.nextTurnDposInfo = some info → notice.block.height ≤ info.workingHeight

variable (library)

/--
What a call owes: it dereferences no nil record, and if its block carries a
next-turn transaction, the record is the payload afterwards.
-/
def RecordKept (node : Option ListenerState) (notice : BlockNotice) : Prop :=
  ∀ state, node = some state → ∃ after, state.notifyBlock library crOnly notice = some after ∧
      ∀ payload, notice.block.nextTurn library = some payload →
        after.nextTurnDposInfo = some (payload.taken crOnly)

/--
A block with a next-turn transaction is handled at a state with a record, if `Deserialize`
recognises the transaction.  If it does not, the record is the payload already or the service,
which is then asked, offers it, and it offers nothing else.
-/
structure ListenerState.ReadyFor (state : ListenerState) (notice : BlockNotice)
    (payload : NextTurnDPOSInfo) : Prop where
  handled : state.Handles notice
  recognised : ∀ read, notice.block.recognised library = some read →
    read = payload ∧ state.nextTurnDposInfo ≠ none
  unrecognised : notice.block.recognised library = none →
    (state.nextTurnDposInfo = some (payload.taken crOnly) ∨
      state.Asks notice ∧ notice.first.offered crOnly = some (payload.taken crOnly)) ∧
    (state.Asks notice → notice.first.OffersOnly crOnly payload)
  keptMode : state.consensusMode ≠ getCurrentConsensusMode (some notice.now) →
    notice.second.OffersOnly crOnly payload

/--
When a call with a next-turn block keeps to what it owes: the block is handled and finds the
listener ready, or it is not handled and the record is its payload already.
-/
def RecordReady (node : Option ListenerState) (notice : BlockNotice) : Prop :=
  ∀ state, node = some state → ∀ payload, notice.block.nextTurn library = some payload →
      state.ReadyFor library crOnly notice payload ∨
        ¬state.Handles notice ∧ state.nextTurnDposInfo = some (payload.taken crOnly)

variable {library crOnly}

theorem MainChainBlock.recognised_of_plain
    (reads : library.NeverMisreads)
    {block : MainChainBlock}
    (plain : block.nextTurn library = none) :
    block.recognised library = none := by
  rw [MainChainBlock.nextTurn, List.findSome?_eq_none_iff] at plain
  rw [MainChainBlock.recognised, List.findSome?_eq_none_iff]
  intro bytes member
  by_contra! read
  obtain ⟨payload, recognised⟩ := Option.ne_none_iff_exists'.mp read
  cases (plain bytes member).symm.trans (reads bytes payload recognised)

theorem InitAnswers.OffersOnly.getD
    {answers : InitAnswers}
    (only : answers.OffersOnly crOnly payload) :
    (answers.offered crOnly).getD (payload.taken crOnly) = payload.taken crOnly := by
  cases offered : answers.offered crOnly with
  | none => rfl
  | some offer => exact only offer offered

theorem ListenerState.notifyBlock_of_not_handles (ignored : ¬state.Handles notice) :
    ∃ after, state.notifyBlock library crOnly notice = some after ∧
      after.nextTurnDposInfo = state.nextTurnDposInfo := by
  unfold ListenerState.notifyBlock
  by_cases isCurrent : notice.isCurrent = true
  · by_cases old : notice.block.height ≤ state.blockNumber
    · exact ⟨state, by simp [isCurrent, old], rfl⟩
    have early : notice.block.height.toUInt64 < state.dynamicArbiterHeight := by
      by_contra late
      exact ignored ⟨isCurrent, UInt32.not_le.1 old, UInt64.not_lt.1 late⟩
    simp only [isCurrent, ↓reduceIte, old, early]
    exact ⟨_, rfl, rfl⟩
  · exact ⟨state, by simp [isCurrent], rfl⟩

/-- The state at which `NotifyBlock` calls `onBlockHandled`. -/
def ListenerState.stored (state : ListenerState) (block : MainChainBlock) : ListenerState :=
  { state with
    blockNumber := block.height
    param := some block }

theorem ListenerState.notifyBlock_of_handles (handles : state.Handles notice) :
    state.notifyBlock library crOnly notice =
      ((state.stored notice.block).onBlockHandled library crOnly notice).map
        fun handled => handled.notify (.onSPVHeight notice.block.height) := by
  obtain ⟨isCurrent, isNew, late⟩ := handles
  unfold ListenerState.notifyBlock ListenerState.stored
  simp only [isCurrent, ↓reduceIte, UInt32.not_le.2 isNew, UInt64.not_lt.2 late]
  split
  · next ended => simp [ended]
  · next handled ended => simp [ended]

/-- What an unrecognised next-turn block finds in the record once the service has been asked. -/
theorem ListenerState.ReadyFor.asked
    (ready : state.ReadyFor library crOnly notice payload)
    (unread : notice.block.recognised library = none) :
    ((state.stored notice.block).askNextArbiters crOnly
      (state.stored notice.block).spvIsWorkingHeight false notice.first).nextTurnDposInfo =
      some (payload.taken crOnly) := by
  obtain ⟨found, only⟩ := ready.unrecognised unread
  unfold askNextArbiters
  cases recorded : state.nextTurnDposInfo with
  | none =>
    have asks : state.Asks notice := fun info some_ => by cases recorded.symm.trans some_
    have offered : notice.first.offered crOnly = some (payload.taken crOnly) :=
      found.elim (fun same => by cases recorded.symm.trans same) And.right
    simp only [stored, recorded]
    exact init_of_offered offered
  | some info =>
    have recordedStored : (state.stored notice.block).nextTurnDposInfo = some info := recorded
    simp only [recordedStored]
    by_cases asks : notice.block.height ≤ info.workingHeight
    · have asksNow : state.Asks notice := fun other same => by
        cases recorded.symm.trans same
        exact asks
      have notYet : (state.stored notice.block).spvIsWorkingHeight = false := by
        simpa [spvIsWorkingHeight, stored, recorded] using asks
      simp only [notYet, and_self, ↓reduceIte]
      rw [init_of_some recordedStored]
      rcases found with same | ⟨-, offered⟩
      · cases recorded.symm.trans same
        rw [(only asksNow).getD]
      · rw [offered, Option.getD_some]
    · have working : (state.stored notice.block).spvIsWorkingHeight = true := by
        simpa [spvIsWorkingHeight, stored, recorded] using asks
      have kept : state.nextTurnDposInfo = some (payload.taken crOnly) :=
        found.elim id fun asked => absurd (asked.1 info recorded) asks
      simp only [working, Bool.true_eq_false, false_and, ↓reduceIte, recordedStored]
      exact recorded.symm.trans kept

theorem ListenerState.ReadyFor.kept (ready : state.ReadyFor library crOnly notice payload) :
    ∃ after, state.notifyBlock library crOnly notice = some after ∧
      after.nextTurnDposInfo = some (payload.taken crOnly) := by
  rw [notifyBlock_of_handles ready.handled]
  have settled : (if state.consensusMode = getCurrentConsensusMode (some notice.now) then
        some (payload.taken crOnly)
      else some ((notice.second.offered crOnly).getD (payload.taken crOnly))) =
      some (payload.taken crOnly) := by
    split
    · rfl
    · next changed => rw [(ready.keptMode changed).getD]
  cases read : notice.block.recognised library with
  | none =>
    obtain ⟨after, handled, record⟩ :=
      (state.stored notice.block).onBlockHandled_of_unrecognised crOnly read
    refine ⟨_, congrArg _ handled, ?_⟩
    exact (record _ (ready.asked read)).trans settled
  | some recognised =>
    obtain ⟨rfl, exists_⟩ := ready.recognised recognised read
    obtain ⟨info, recorded⟩ := Option.ne_none_iff_exists'.mp exists_
    obtain ⟨after, handled, record⟩ :=
      (state.stored notice.block).onBlockHandled_of_some crOnly read recorded
    exact ⟨_, congrArg _ handled, record.trans settled⟩

theorem recordKept_of_recordReady
    (reads : library.NeverMisreads)
    (node : Option ListenerState)
    (notice : BlockNotice)
    (ready : RecordReady library crOnly node notice) :
    RecordKept library crOnly node notice := by
  rintro state rfl
  cases carries : notice.block.nextTurn library with
  | none =>
    have unread := MainChainBlock.recognised_of_plain reads carries
    by_cases handles : state.Handles notice
    · obtain ⟨after, handled, -⟩ :=
        (state.stored notice.block).onBlockHandled_of_unrecognised crOnly unread
      rw [ListenerState.notifyBlock_of_handles handles, handled]
      exact ⟨_, rfl, fun payload carried => by cases carried⟩
    · obtain ⟨after, notified, -⟩ :=
        @ListenerState.notifyBlock_of_not_handles library crOnly state notice handles
      exact ⟨after, notified, fun payload carried => by cases carried⟩
  | some payload =>
    rcases ready state rfl payload carries with readyFor | ⟨ignored, recorded⟩
    · obtain ⟨after, notified, record⟩ := readyFor.kept
      refine ⟨after, notified, fun carried same => ?_⟩
      cases same
      exact record
    · obtain ⟨after, notified, same⟩ :=
        @ListenerState.notifyBlock_of_not_handles library crOnly state notice ignored
      refine ⟨after, notified, fun carried isPayload => ?_⟩
      cases isPayload
      exact same.trans recorded

/--
In a run of the listener from a fresh start at whose calls the record is ready, no call
dereferences a nil record and every block with a next-turn transaction leaves its payload in the
record, whether or not `Deserialize` recognises the transaction.
-/
theorem along_recordKept
    (library : MainChainLibrary)
    (reads : library.NeverMisreads)
    (crOnly : Bool)
    (consensusMode : ConsensusAlgorithm)
    (dynamicArbiterHeight : UInt64)
    (notices : List BlockNotice)
    (ready : EventRuns.Along (RecordReady library crOnly) (notifyStep library crOnly)
      (some (.fresh consensusMode dynamicArbiterHeight)) notices) :
    EventRuns.Along (RecordKept library crOnly) (notifyStep library crOnly)
      (some (.fresh consensusMode dynamicArbiterHeight)) notices :=
  EventRuns.along_imp (recordKept_of_recordReady reads) ready

namespace Sample

def mainChainService (mode : ConsensusAlgorithm) : SpvService where
  blockListenerHeight := some 100
  bestHeaderHeight := .ok 100
  getConsensusAlgorithm := fun _ => .ok mode
  getArbiters := fun _ => .ok ([], [])

def nextTurnAt (workingHeight : UInt32) : NextTurnDPOSInfo where
  workingHeight := workingHeight
  crPublicKeys := [[1], [2]]
  dposPublicKeys := [[3]]

/-- The bytes of a next-turn transaction start with its type; the payload is for one height. -/
def carriedTurn : Bytes → Option NextTurnDPOSInfo
  | [0x14, height] => some (nextTurnAt height.toUInt32)
  | _ => none

/-- A `Deserialize` that finds the type of a transaction in its bytes, or that does not. -/
def mainChainLibrary (readsType : Bool) : MainChainLibrary where
  nextTurnPayload := carriedTurn
  recognised bytes := if readsType then carriedTurn bytes else none

theorem mainChainLibrary_neverMisreads (readsType : Bool) :
    (mainChainLibrary readsType).NeverMisreads := by
  intro bytes read recognised
  cases readsType with
  | false => cases recognised
  | true => exact recognised

/-- A block with one next-turn transaction, and an SPV service in DPoS mode. -/
def nextTurnNotice (height : UInt32) (offered : Except String (UInt32 × List Bytes × List Bytes)) :
    BlockNotice where
  block :=
    { height := height
      transactions := [[0x02, 1], [0x14, 136]] }
  isCurrent := true
  first := ⟨mainChainService .dpos, offered⟩
  now := mainChainService .dpos
  second := ⟨mainChainService .dpos, offered⟩

def offeredTurn : Except String (UInt32 × List Bytes × List Bytes) :=
  .ok (136, [[1], [2]], [])

end Sample

open Sample

/-- The service offers the arbiters of the block, which `Deserialize` does not recognise. -/
theorem along_recordKept_unrecognised :
    EventRuns.Along (RecordKept (mainChainLibrary false) true)
      (notifyStep (mainChainLibrary false) true) (some (.fresh .dpos 0))
      [nextTurnNotice 100 offeredTurn] := by
  refine along_recordKept _ (mainChainLibrary_neverMisreads false) true .dpos 0 _ ⟨?_, trivial⟩
  intro state same payload carries
  cases same
  cases (show some (nextTurnAt 136) = some payload from carries)
  have offered : (nextTurnNotice 100 offeredTurn).first.offered true =
      some ((nextTurnAt 136).taken true) := rfl
  refine .inl ⟨⟨rfl, by decide, by decide⟩, fun read recognised => ?_, fun _ => ?_, fun changed => ?_⟩
  · cases recognised
  · refine ⟨.inr ⟨fun info recorded => (by cases recorded), offered⟩, fun _ offer same => ?_⟩
    exact Option.some.inj (same.symm.trans offered)
  · exact absurd (by decide +kernel) changed

/--
A fresh listener whose service has no answer yet does not record the turn of its first block: if
`Deserialize` does not recognise the transaction there is no record, and if it does the process
ends.
-/
theorem first_nexturn_block_not_recorded :
    ¬EventRuns.Along (RecordKept (Sample.mainChainLibrary false) true)
        (notifyStep (Sample.mainChainLibrary false) true) (some (.fresh .dpos 0))
        [Sample.nextTurnNotice 100 (.error "not found")] ∧
      ¬EventRuns.Along (RecordKept (Sample.mainChainLibrary true) true)
        (notifyStep (Sample.mainChainLibrary true) true) (some (.fresh .dpos 0))
        [Sample.nextTurnNotice 100 (.error "not found")] := by
  constructor
  · rintro ⟨kept, -⟩
    obtain ⟨after, notified, record⟩ := kept _ rfl
    cases (show _ = some after from notified)
    cases record (Sample.nextTurnAt 136) rfl
  · rintro ⟨kept, -⟩
    obtain ⟨after, notified, -⟩ := kept _ rfl
    cases (show none = some after from notified)

end EscSideChain.Spv
