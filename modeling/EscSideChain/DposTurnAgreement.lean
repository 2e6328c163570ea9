import EscSideChain.CyclicSeats
import EscSideChain.DposTurns

namespace EscSideChain.Dpos

open CyclicSeats

/-!
# Two ways to install a turn

A node that follows the main chain installs the producers of a turn through
`DumpNextDposInfo`, `UpdateNextProducers` and `ChangeCurrentProducers`; a node
that catches up installs them through `GetProducers` and `UpdateProducers`.  The
first way keeps a seat of zeros as a producer without key, and only the first way
sets the working height.
-/

structure TurnKeys where
  workingHeight : UInt32
  crcArbiters : List Bytes
  normalArbiters : List Bytes

def TurnKeys.WellFormed (keys : TurnKeys) : Prop :=
  ∀ key ∈ keys.crcArbiters, key = [] ∨ key.length = 33

/-- Install the turn at a height, as a node that follows the main chain. -/
def installNextTurn (view : ConsensusView) (keys : TurnKeys)
    (changeHeight spvHeight : UInt64) : ConsensusView :=
  let info := Spv.nextTurnDposInfo keys.workingHeight keys.crcArbiters keys.normalArbiters
  (view.updateNextProducers (Spv.dumpNextDposInfo info)
    (Spv.getTotalProducersCount info)).changeCurrentProducers changeHeight spvHeight

def installSynced (service : Option Spv.SpvService) (view : ConsensusView)
    (spvHeight : UInt64) : Except String ConsensusView :=
  match Spv.getProducers service spvHeight with
  | .error reason => .error reason
  | .ok (producers, totalCount) => .ok (view.updateProducers producers totalCount spvHeight)

def onDuty (view : ConsensusView) (height : UInt64) (offset : UInt32) : Option Bytes :=
  (view.updateDutyIndex height).producers.getNextOnDutyProducer offset

structure SameTurn (first second : ConsensusView) : Prop where
  producers : first.producers.producers = second.producers.producers
  total : first.producers.totalProducers = second.producers.totalProducers
  duty : ∀ height offset, onDuty first height offset = onDuty second height offset

structure Answers (service : Spv.SpvService) (spvHeight : UInt64) (keys : TurnKeys) : Prop where
  voting : Spv.getCurrentConsensusMode (some service) ≠ .pow
  arbiters : service.getArbiters spvHeight.toUInt32 = .ok (keys.crcArbiters, keys.normalArbiters)

def seatedKeys (keys : TurnKeys) : List Bytes :=
  sortKeys (keys.crcArbiters.filter Spv.isSeated)

/-- How far the working height of the second node is behind, modulo 2^64. -/
def lag (first second : UInt64) : Nat :=
  (first - second).toNat

/-! ## Who is on duty -/

theorem getNextOnDutyProducer_eq_pickWrapped {table : Producers} {offset : UInt32}
    (few : table.producers.length < 2 ^ 32) :
    table.getNextOnDutyProducer offset = pickWrapped table.producers (2 ^ 32) table.dutyIndex.toNat
        offset.toNat := by
  rw [Producers.getNextOnDutyProducer]
  by_cases empty : table.producers.length = 0
  · rw [if_pos empty, List.length_eq_zero_iff.1 empty]
    rfl
  have count : (UInt32.ofNat table.producers.length).toNat = table.producers.length := by
    rw [UInt32.toNat_ofNat']
    exact Nat.mod_eq_of_lt few
  rw [if_neg empty, pickWrapped, pick, UInt32.toNat_mod, UInt32.toNat_add, count]

theorem onDuty_eq_pickWrapped {view : ConsensusView} {height : UInt64} {offset : UInt32}
    (few : view.producers.producers.length < 2 ^ 32) :
    onDuty view height offset = pickWrapped view.producers.producers (2 ^ 32)
        ((height + 1 - view.producers.workingHeight).toNat %
          view.producers.producers.length) offset.toNat := by
  have table : onDuty view height offset =
      (view.producers.updateDutyIndex height).getNextOnDutyProducer
        offset :=
    rfl
  rw [table, Producers.updateDutyIndex]
  by_cases empty : view.producers.producers.length = 0
  · rw [if_pos empty, Producers.getNextOnDutyProducer, if_pos empty,
      List.length_eq_zero_iff.1 empty]
    rfl
  have seated : 0 < view.producers.producers.length := Nat.pos_of_ne_zero empty
  have count : (UInt64.ofNat view.producers.producers.length).toNat =
      view.producers.producers.length := by
    rw [UInt64.toNat_ofNat']
    exact Nat.mod_eq_of_lt (by omega)
  have fits : (height + 1 - view.producers.workingHeight).toNat %
      view.producers.producers.length < 2 ^ 32 :=
    (Nat.mod_lt _ seated).trans few
  rw [if_neg empty]
  refine (getNextOnDutyProducer_eq_pickWrapped ?_).trans ?_
  · exact few
  · dsimp only
    rw [UInt64.toNat_toUInt32, UInt64.toNat_mod, count, Nat.mod_eq_of_lt fits]

theorem onDuty_eq_iff_samePicks {first second : ConsensusView}
    (same : first.producers.producers = second.producers.producers)
    (few : 2 * second.producers.producers.length ≤ 2 ^ 32) :
    (∀ height offset, onDuty first height offset = onDuty second height offset) ↔
      SamePicks second.producers.producers (2 ^ 32) (2 ^ 64)
        (lag first.producers.workingHeight second.producers.workingHeight) := by
  have below : second.producers.producers.length < 2 ^ 32 := by omega
  have shifted : ∀ height : UInt64, (height + 1 - second.producers.workingHeight).toNat =
        ((height + 1 - first.producers.workingHeight).toNat + lag first.producers.workingHeight
            second.producers.workingHeight) % 2 ^ 64 := by
    intro height
    rw [lag, ← UInt64.toNat_add]
    congr 1
    grind
  constructor
  · intro duty counter counterBound offset offsetBound
    have here := duty (UInt64.ofNat counter + first.producers.workingHeight - 1)
      (UInt32.ofNat offset)
    rw [onDuty_eq_pickWrapped (same ▸ below), onDuty_eq_pickWrapped below,
      shifted, same, UInt64.sub_add_cancel, UInt64.add_sub_cancel,
      UInt64.toNat_ofNat', UInt32.toNat_ofNat',
      Nat.mod_eq_of_lt counterBound, Nat.mod_eq_of_lt offsetBound] at here
    exact here
  · intro picks height offset
    rw [onDuty_eq_pickWrapped (same ▸ below), onDuty_eq_pickWrapped below, shifted, same]
    exact picks _ (UInt64.toNat_lt _) _ (UInt32.toNat_lt _)

/-! ## The lists -/

/-- What `ChangeCurrentProducers` makes of a next producer. -/
def unseated (signer : Bytes) : Bytes :=
  if signer = Spv.zeroKey then [] else signer

variable {arbiters : List Bytes}

theorem dumpKeys_of_wellFormed (wellFormed : ∀ key ∈ arbiters, key = [] ∨ key.length = 33) :
    Spv.dumpKeys arbiters = arbiters.filter fun arbiter => 0 < arbiter.length := by
  unfold Spv.dumpKeys
  refine (List.map_congr_left fun key member => ?_).trans (List.map_id _)
  obtain ⟨inTurn, present⟩ := List.mem_filter.1 member
  rcases wellFormed key inTurn with rfl | full
  · simp at present
  · exact Spv.pidOf_of_length full

theorem producers_installNextTurn {view : ConsensusView} {keys : TurnKeys}
    {changeHeight spvHeight : UInt64} (wellFormed : keys.WellFormed) :
    (installNextTurn view keys changeHeight spvHeight).producers.producers =
      (sortKeys (keys.crcArbiters.filter fun arbiter =>
        0 < arbiter.length)).map unseated := by
  rw [← dumpKeys_of_wellFormed wellFormed]
  simp only [installNextTurn, Spv.dumpNextDposInfo,
    Spv.nextTurnDposInfo, Spv.isOnlyCRConsensus, ↓reduceIte]
  rw [show Spv.dumpKeys [] = [] from rfl, List.append_nil]
  rfl

theorem filter_isSeated_of_noZero (noZero : ∀ key ∈ arbiters, key ≠ Spv.zeroKey) :
    (arbiters.filter fun arbiter => 0 < arbiter.length) = arbiters.filter Spv.isSeated := by
  refine List.filter_congr fun key member => ?_
  simp [Spv.isSeated, noZero key member]

theorem unseated_sortKeys_eq_iff : (sortKeys (arbiters.filter fun arbiter =>
          0 < arbiter.length)).map unseated =
        sortKeys (arbiters.filter Spv.isSeated) ↔
      ∀ key ∈ arbiters, key ≠ Spv.zeroKey := by
  constructor
  · intro same key member isZero
    subst isZero
    -- The seat of zeros becomes an empty key, which the other node drops.
    have unseatedMember : [] ∈ (sortKeys (arbiters.filter fun arbiter =>
        0 < arbiter.length)).map unseated := by
      refine List.mem_map.2 ⟨Spv.zeroKey, ?_, if_pos rfl⟩
      rw [mem_sortKeys, List.mem_filter]
      exact ⟨member, by decide⟩
    rw [same, mem_sortKeys, List.mem_filter] at unseatedMember
    exact absurd unseatedMember.2 (by decide)
  · intro noZero
    rw [filter_isSeated_of_noZero noZero]
    refine (List.map_congr_left fun key member => ?_).trans (List.map_id _)
    rw [mem_sortKeys] at member
    exact if_neg (noZero key (List.mem_of_mem_filter member))

theorem installSynced_eq_ok {service : Spv.SpvService} {view second : ConsensusView}
    {spvHeight : UInt64} {keys : TurnKeys} (answers : Answers service spvHeight keys)
    (synced : installSynced (some service) view spvHeight = .ok second) :
    Spv.safeAdd keys.crcArbiters.length 0 = .ok second.producers.totalProducers ∧
      second.producers.producers = seatedKeys keys ∧
      second.producers.workingHeight = view.producers.workingHeight := by
  simp only [installSynced, Spv.getProducers, answers.voting,
    answers.arbiters, ↓reduceIte] at synced
  cases total : Spv.safeAdd keys.crcArbiters.length 0 with
  | error reason => simp [total] at synced
  | ok totalCount =>
    simp only [total, Except.ok.injEq] at synced
    subst synced
    exact ⟨rfl, rfl, rfl⟩

/--
Both ways of installing a turn lead to the same producers, total and duty, at all
heights and view offsets, exactly if no seat holds the key of zeros and the
working heights of the two nodes cannot be told apart by the seats.
-/
theorem installedTurn_same_iff (firstView secondView second : ConsensusView) (keys : TurnKeys)
    (service : Spv.SpvService) (changeHeight firstSpvHeight spvHeight : UInt64)
    (wellFormed : keys.WellFormed) (few : 2 * keys.crcArbiters.length ≤ 2 ^ 32)
    (answers : Answers service spvHeight keys)
    (synced : installSynced (some service) secondView spvHeight = .ok second) :
    SameTurn (installNextTurn firstView keys changeHeight firstSpvHeight) second ↔
      (∀ key ∈ keys.crcArbiters, key ≠ Spv.zeroKey) ∧ Unnoticed (seatedKeys keys) (2 ^ 32) (2 ^ 64)
          (lag changeHeight secondView.producers.workingHeight) := by
  obtain ⟨total, producers, working⟩ := installSynced_eq_ok answers synced
  have fewSeated : 2 * second.producers.producers.length ≤ 2 ^ 32 := by
    have filtered := List.length_filter_le Spv.isSeated keys.crcArbiters
    rw [producers, seatedKeys, length_sortKeys]
    omega
  have firstWorking : (installNextTurn firstView keys changeHeight
      firstSpvHeight).producers.workingHeight = changeHeight :=
    rfl
  constructor
  · intro same
    have lists := same.producers
    rw [producers_installNextTurn wellFormed, producers, seatedKeys] at lists
    refine ⟨unseated_sortKeys_eq_iff.1 lists, ?_⟩
    have picks := (onDuty_eq_iff_samePicks same.producers fewSeated).1 same.duty
    rw [firstWorking, working, producers] at picks
    rw [producers] at fewSeated
    exact unnoticed_of_samePicks fewSeated (UInt64.toNat_lt _) picks
  · rintro ⟨noZero, unnoticed⟩
    have lists : (installNextTurn firstView keys changeHeight firstSpvHeight).producers.producers =
        second.producers.producers := by
      rw [producers_installNextTurn wellFormed, producers, seatedKeys]
      exact unseated_sortKeys_eq_iff.2 noZero
    have totals : (installNextTurn firstView keys changeHeight
        firstSpvHeight).producers.totalProducers = second.producers.totalProducers := by
      show Spv.getTotalProducersCount _ = _
      simp only [Spv.getTotalProducersCount, Spv.nextTurnDposInfo,
        Spv.isOnlyCRConsensus, ↓reduceIte, List.length_nil, total]
    refine ⟨lists, totals, (onDuty_eq_iff_samePicks lists fewSeated).2 ?_⟩
    rw [firstWorking, working, producers]
    exact samePicks_of_unnoticed ⟨2 ^ 32, by norm_num⟩ unnoticed

namespace TurnSample

def key (number : UInt8) : Bytes :=
  number :: List.replicate 32 0

def service (council : List Bytes) : Spv.SpvService where
  blockListenerHeight := some 200
  bestHeaderHeight := .ok 200
  getConsensusAlgorithm _ := .ok .dpos
  getArbiters _ := .ok (council, [key 9])

def keys (council : List Bytes) : TurnKeys :=
  ⟨100, council, [key 9]⟩

def view (workingHeight : UInt64) : ConsensusView :=
  ConsensusView.new 10 (key 1) {
    totalProducers := 0
    producers := []
    dutyIndex := 0
    workingHeight := workingHeight
    spvHeight := 0
    nextTotalProducers := 0
    nextProducers := []
    defaultCRCSignerNumber := 0 }

def synced (council : List Bytes) : ConsensusView :=
  (view 7).updateProducers (council.filter Spv.isSeated) council.length 200

end TurnSample

open TurnSample

/-- With an empty seat and one working height both nodes have the same turn. -/
theorem installedTurn_same_empty_seat :
    installSynced (some (service [key 2, [], key 1])) (view 7) 200 =
      .ok (synced [key 2, [], key 1]) ∧
    SameTurn (installNextTurn (view 3) (keys [key 2, [], key 1]) 7 200)
      (synced [key 2, [], key 1]) := by
  refine ⟨rfl, (installedTurn_same_iff (view 3) (view 7) _ (keys [key 2, [], key 1])
    (service [key 2, [], key 1]) 7 200
    200 ?_ (by decide) ⟨by decide, rfl⟩ rfl).2 ⟨by decide, .inl (by decide)⟩⟩
  intro key member
  simp only [keys, List.mem_cons, List.not_mem_nil, or_false] at member
  rcases member with rfl | rfl | rfl
  · exact .inr rfl
  · exact .inl rfl
  · exact .inr rfl

/--
A seat of zeros stays in the list of the node that follows the main chain, as a
producer without key.  The node that catches up does not have it.
-/
theorem zero_seat_stays_producer :
    installSynced (some (service [key 1, Spv.zeroKey])) (view 7) 200 =
      .ok (synced [key 1, Spv.zeroKey]) ∧
    ¬SameTurn (installNextTurn (view 7) (keys [key 1, Spv.zeroKey]) 7 200)
      (synced [key 1, Spv.zeroKey]) := by
  refine ⟨rfl, fun same => ?_⟩
  exact absurd same.producers (by decide)

end EscSideChain.Dpos
