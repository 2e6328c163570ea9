import EscSideChain.DposTurnAgreement
import EscSideChain.EventRuns

namespace EscSideChain.Dpos

open CyclicSeats

/-!
# The order of the producers

The producers take turns in the order of their keys.  The order in which the main chain
lists them does not matter.  Over as many heights, or as many views of a height, as there
are producers, each of them is on duty once.
-/

/-! ## Sorting -/

theorem sortKeys_eq_of_perm {first second : List Bytes} (same : first.Perm second) :
    sortKeys first = sortKeys second := by
  have sorted : ∀ keys : List Bytes, (sortKeys keys).Pairwise (· ≤ ·) :=
    fun keys => List.pairwise_insertionSort _ keys
  have rearranged : ∀ keys : List Bytes, (sortKeys keys).Perm keys :=
    fun keys => List.perm_insertionSort _ keys
  exact List.Perm.eq_of_pairwise' (sorted first) (sorted second)
    ((rearranged first).trans (same.trans (rearranged second).symm))

/-! ## Two nodes with the same keys -/

/-- Store the next producers and make them the current ones at a height. -/
def takeTurn (view : ConsensusView) (peers : List Bytes) (totalCount : Nat)
    (changeHeight spvHeight : UInt64) : ConsensusView :=
  (view.updateNextProducers peers totalCount).changeCurrentProducers changeHeight spvHeight

inductive TurnQuery where
  | onDuty (height : UInt64) (offset : UInt32)
  | isSameProducers (keys : List Bytes)
  | isCurrentProducers (keys : List Bytes)

inductive TurnAnswer where
  | producer (key : Option Bytes)
  | verdict (same : Bool)
  deriving DecidableEq

namespace TurnQuery

def answer (view : ConsensusView) : TurnQuery → TurnAnswer
  | .onDuty height offset => .producer (Dpos.onDuty view height offset)
  | .isSameProducers keys => .verdict (view.isSameProducers keys).2
  | .isCurrentProducers keys => .verdict (view.isCurrentProducers keys).2

/--
The node after the question: the duty index is updated for the height, and a
comparison leaves the list that it sorted in place.
-/
def after (view : ConsensusView) : TurnQuery → ConsensusView
  | .onDuty height _ => view.updateDutyIndex height
  | .isSameProducers keys => (view.isSameProducers keys).1
  | .isCurrentProducers keys => (view.isCurrentProducers keys).1

inductive Alike : TurnQuery → TurnQuery → Prop where
  | onDuty (height : UInt64) (offset : UInt32) :
      Alike (.onDuty height offset) (.onDuty height offset)
  | isSameProducers {first second : List Bytes} :
      first.Perm second → Alike (.isSameProducers first) (.isSameProducers second)
  | isCurrentProducers {first second : List Bytes} :
      first.Perm second → Alike (.isCurrentProducers first) (.isCurrentProducers second)

end TurnQuery

def turnAnswers (view : ConsensusView) (queries : List TurnQuery) : List TurnAnswer :=
  EventRuns.outputs (fun view query => [TurnQuery.answer view query]) TurnQuery.after view queries

structure SameSeats (first second : ConsensusView) : Prop where
  producers : first.producers.producers = second.producers.producers
  next : first.producers.nextProducers = second.producers.nextProducers
  working : first.producers.workingHeight = second.producers.workingHeight

section Alike

variable {first second : ConsensusView}

theorem SameSeats.onDuty_eq (same : SameSeats first second) (height : UInt64) (offset : UInt32) :
    onDuty first height offset = onDuty second height offset := by
  unfold onDuty ConsensusView.updateDutyIndex ConsensusView.refreshDuty Producers.updateDutyIndex
  rw [same.producers, same.working]
  split
  · next empty =>
      unfold Producers.getNextOnDutyProducer
      rw [same.producers, if_pos empty, if_pos empty]
  · rfl

theorem SameSeats.ask {query other : TurnQuery} (same : SameSeats first second)
    (alike : TurnQuery.Alike query other) :
    query.answer first = other.answer second ∧
      SameSeats (query.after first) (other.after second) := by
  obtain ⟨producers, next, working⟩ := same
  cases alike with
  | onDuty height offset =>
    refine ⟨congrArg TurnAnswer.producer
      (SameSeats.onDuty_eq ⟨producers, next, working⟩ height offset), ?_, ?_, ?_⟩
    · simpa [TurnQuery.after, ConsensusView.updateDutyIndex,
        ConsensusView.refreshDuty] using producers
    · simpa [TurnQuery.after, ConsensusView.updateDutyIndex, ConsensusView.refreshDuty] using next
    · simpa [TurnQuery.after, ConsensusView.updateDutyIndex,
        ConsensusView.refreshDuty] using working
  | isSameProducers rearranged =>
    simp only [TurnQuery.answer, TurnQuery.after,
      ConsensusView.isSameProducers, rearranged.length_eq, next, sortKeys_eq_of_perm rearranged]
    split
    · exact ⟨rfl, producers, next, working⟩
    · exact ⟨rfl, producers, rfl, working⟩
  | isCurrentProducers rearranged =>
    simp only [TurnQuery.answer, TurnQuery.after,
      ConsensusView.isCurrentProducers, rearranged.length_eq, producers,
      sortKeys_eq_of_perm rearranged]
    split
    · exact ⟨rfl, producers, next, working⟩
    split
    · exact ⟨rfl, producers, next, working⟩
    · exact ⟨rfl, rfl, next, working⟩

theorem SameSeats.turnAnswers_eq {queries others : List TurnQuery} (same : SameSeats first second)
    (alike : List.Forall₂ TurnQuery.Alike queries others) :
    turnAnswers first queries = turnAnswers second others := by
  induction alike generalizing first second with
  | nil => rfl
  | cons headAlike _ inductionHypothesis =>
    obtain ⟨answer, after⟩ := same.ask headAlike
    exact congrArg₂ (fun head rest => [head] ++ rest) answer (inductionHypothesis after)

end Alike

/--
The order of the next producers does not matter.  Two nodes that store the same
keys in any order and change to them at the same heights have the same list of
producers, and they answer all questions about the turn alike: who is on duty at
any height and view offset, and whether a list, in any order, holds the next or
the current producers.
-/
theorem producer_order_irrelevant (first second : ConsensusView) (peers rearranged : List Bytes)
    (totalCount : Nat) (changeHeight spvHeight : UInt64) (same : peers.Perm rearranged) :
    (takeTurn first peers totalCount changeHeight spvHeight).producers.producers =
      (takeTurn second rearranged totalCount changeHeight spvHeight).producers.producers ∧
    ∀ queries others : List TurnQuery, List.Forall₂ TurnQuery.Alike queries others →
        turnAnswers (takeTurn first peers totalCount changeHeight spvHeight) queries =
          turnAnswers (takeTurn second rearranged totalCount changeHeight spvHeight) others := by
  have sorted := sortKeys_eq_of_perm same
  have seats : SameSeats (takeTurn first peers totalCount changeHeight spvHeight)
      (takeTurn second rearranged totalCount changeHeight spvHeight) := by
    refine ⟨?_, sorted, rfl⟩
    show (sortKeys peers).map _ = (sortKeys rearranged).map _
    rw [sorted]
  exact ⟨seats.producers, fun _ _ alike => seats.turnAnswers_eq alike⟩

open TurnSample

/-- Three keys in two orders, one of them the key of zeros. -/
theorem producer_order_irrelevant_zero_seat :
    turnAnswers (takeTurn (view 3) [key 2, Spv.zeroKey, key 1] 3 7 200)
        [.onDuty 7 1, .isCurrentProducers [key 1, [], key 2]] =
      turnAnswers (takeTurn (view 5) [key 1, key 2, Spv.zeroKey] 3 7 200)
        [.onDuty 7 1, .isCurrentProducers [key 2, key 1, []]] := by
  refine (producer_order_irrelevant (view 3) (view 5) [key 2, Spv.zeroKey, key 1]
    [key 1, key 2, Spv.zeroKey] 3 7 200 (by decide)).2 _ _ ?_
  exact .cons (.onDuty 7 1) (.cons (.isCurrentProducers (by decide)) .nil)

/-! ## Rounds -/

section Rounds

variable {view : ConsensusView}

theorem onDuty_eq_pick {height : UInt64} {offset : UInt32}
    (few : view.producers.producers.length < 2 ^ 32) (seated : 0 < view.producers.producers.length)
    (working : view.producers.workingHeight.toNat ≤ height.toNat + 1)
    (next : height.toNat + 1 < 2 ^ 64)
    (room : offset.toNat + view.producers.producers.length ≤ 2 ^ 32) :
    onDuty view height offset = pick view.producers.producers
        (height.toNat + 1 - view.producers.workingHeight.toNat + offset.toNat) := by
  have distance : (height + 1 - view.producers.workingHeight).toNat =
      height.toNat + 1 - view.producers.workingHeight.toNat := by
    have sum : (height + 1).toNat = height.toNat + 1 := by
      rw [UInt64.toNat_add, UInt64.toNat_one, Nat.mod_eq_of_lt next]
    rw [UInt64.toNat_sub_of_le _ _ (UInt64.le_iff_toNat_le.2 ?_), sum]
    rwa [sum]
  have index := Nat.mod_lt (height.toNat + 1 - view.producers.workingHeight.toNat) seated
  rw [onDuty_eq_pickWrapped few, distance, pickWrapped, Nat.mod_eq_of_lt (by omega), pick_mod_add]

end Rounds

/--
Round-robin fairness.  With different producers, each of them is on duty once
over as many finished heights as there are producers, in one view offset, and
once over as many view offsets, at one height, as long as no sum wraps.
-/
theorem onDuty_once_per_round (view : ConsensusView) (distinct : view.producers.producers.Nodup)
    (few : view.producers.producers.length < 2 ^ 32) :
    (∀ (height : Nat) (offset : UInt32), view.producers.workingHeight.toNat ≤ height + 1 →
      height + view.producers.producers.length < 2 ^ 64 →
      offset.toNat + view.producers.producers.length ≤ 2 ^ 32 →
        ∀ producer ∈ view.producers.producers, ∃! step, step < view.producers.producers.length ∧
            onDuty view (UInt64.ofNat (height + step)) offset = some producer) ∧
    ∀ (height : UInt64) (offset : Nat),
      (view.updateDutyIndex height).producers.dutyIndex.toNat + offset +
          view.producers.producers.length ≤ 2 ^ 32 →
        ∀ producer ∈ view.producers.producers, ∃! step, step < view.producers.producers.length ∧
            onDuty view height (UInt32.ofNat (offset + step)) = some producer := by
  constructor
  · intro height offset working last room producer member
    refine @existsUnique_inTurn _ _ _ _
      (height + 1 - view.producers.workingHeight.toNat + offset.toNat) distinct member ?_
    intro step small
    have number : (UInt64.ofNat (height + step)).toNat = height + step := by
      rw [UInt64.toNat_ofNat']
      exact Nat.mod_eq_of_lt (by omega)
    rw [onDuty_eq_pick few (by omega) (by omega) (by omega) room, number]
    congr 1
    omega
  · intro height offset room producer member
    have seats : (view.updateDutyIndex height).producers.producers = view.producers.producers :=
      Producers.producers_updateDutyIndex _ _
    refine @existsUnique_inTurn _ _ _ _
      ((view.updateDutyIndex height).producers.dutyIndex.toNat + offset) distinct member ?_
    intro step small
    have number : (UInt32.ofNat (offset + step)).toNat = offset + step := by
      rw [UInt32.toNat_ofNat']
      exact Nat.mod_eq_of_lt (by omega)
    rw [onDuty, getNextOnDutyProducer_eq_pickWrapped (seats ▸ few), pickWrapped,
      Nat.mod_eq_of_lt (by omega), number, seats, Nat.add_assoc]

/-- Over three heights the second of three producers is on duty once. -/
theorem onDuty_once_per_round_three :
    ∃! step, step < 3 ∧ onDuty (takeTurn (view 3) [key 2, key 1, key 3] 3 7 200)
        (UInt64.ofNat (6 + step)) 5 = some (key 2) :=
  (onDuty_once_per_round (takeTurn (view 3) [key 2, key 1, key 3] 3 7 200)
    (by decide) (by decide)).1 6 5 (by decide) (by decide) (by decide) (key 2) (by decide)

end EscSideChain.Dpos
