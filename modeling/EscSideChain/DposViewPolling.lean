import EscSideChain.DposConsensusView
import EscSideChain.EventRuns
import Mathlib.Tactic.Ring

namespace EscSideChain.Dpos

/-!
# Polling for a view change

`TryChangeView` is called once a second, and late if the node is busy.  The view
that it leads to depends on the last call only: a call moves the view on by the
whole views that have passed since the view started, and puts the start where
the view in progress began.
-/

def second : Int := 1000000000

namespace ConsensusView

/--
`TryChangeView` of a view without listener.  The parent time that it hands on is
read by a forced change only.
-/
def tryChangeView (view : ConsensusView) (now : Int) : ConsensusView :=
  if view.isRunning ∧ now > view.viewChangeTime then
    (view.changeView now false (unixSeconds (view.viewChangeTime - view.signTolerance))).1
  else view

def later (view : ConsensusView) (views : Nat) : ConsensusView :=
  refreshDuty { view with
    viewOffset := view.viewOffset + UInt32.ofNat views
    viewStartTime := view.viewStartTime + views * view.signTolerance
    viewChangeTime :=
      view.viewStartTime + (views + 1) * view.signTolerance }

/--
A running view whose times are whole seconds.  The start is a Unix time in
`int64`, and the change time is not a whole view before it; `SetChangViewTime`
puts it a whole view after it.
-/
structure Timed (view : ConsensusView) : Prop where
  running : view.isRunning = true
  start : ∃ seconds : Int, view.viewStartTime = seconds * second
  notBefore : -(2 ^ 63) * second ≤ view.viewStartTime
  tolerance : ∃ seconds : Int, 0 < seconds ∧ view.signTolerance = seconds * second
  change : view.viewStartTime - view.signTolerance ≤ view.viewChangeTime

/--
A time strictly inside a view that the node can count up to: the view offset
stays in `uint32`, and neither the time nor its distance from the start leaves
the range of the types `int64` and `time.Duration`.
-/
structure Inside (view : ConsensusView) (views : Nat) (time : Int) : Prop where
  started : view.viewStartTime + views * view.signTolerance < time
  unfinished : time < view.viewStartTime + (views + 1) * view.signTolerance
  counted : view.viewOffset.toNat + views < 2 ^ 32
  distance : time - view.viewStartTime < 2 ^ 63
  unix : time < 2 ^ 63 * second

/-! ## One poll -/

section Poll

variable {view : ConsensusView} {now : Int} {views : Nat}

theorem timeOfSeconds_unixSeconds {seconds : Int} (low : -(2 ^ 63) ≤ seconds)
    (high : seconds < 2 ^ 63) :
    timeOfSeconds (unixSeconds (seconds * second)) = seconds * second := by
  have whole : seconds * second / 1000000000 = seconds := Int.mul_ediv_cancel seconds (by decide)
  have wrapped : (UInt64.ofInt seconds).toInt64 = Int64.ofInt seconds := by
    apply Int64.toBitVec_inj.1
    apply BitVec.eq_of_toNat_eq
    simp only [UInt64.ofInt, UInt64.toBitVec_toInt64,
      UInt64.toBitVec_ofNat', BitVec.toNat_ofNat, Int64.toBitVec_ofInt, BitVec.toNat_ofInt]
    omega
  rw [timeOfSeconds, unixSeconds, whole, wrapped, Int64.toInt_ofInt_of_le low high, second]

theorem ofInt_natCast (count : Nat) : UInt32.ofInt count = UInt32.ofNat count := by
  apply UInt32.toNat_inj.1
  rw [UInt32.ofInt, UInt32.toNat_ofNat', UInt32.toNat_ofNat']
  omega

theorem changeView_of_near {parentTime : UInt64}
    (above : view.viewStartTime - view.signTolerance < now)
    (below : now < view.viewStartTime + view.signTolerance) :
    view.changeView now false parentTime = (view, false) := by
  have nothing : (timeSub now view.viewStartTime).tdiv view.signTolerance = 0 := by
    unfold timeSub
    rcases Int.le_total view.viewStartTime now with after | before
    · exact Int.tdiv_eq_zero_of_lt (by omega) (by omega)
    · rw [← Int.neg_neg (max _ _), Int.neg_tdiv,
        Int.tdiv_eq_zero_of_lt (by omega) (by omega), Int.neg_zero]
  have passed : (view.calculateOffsetTime view.viewStartTime now).1 = 0 := by
    rw [calculateOffsetTime, nothing]
    rfl
  simp [changeView, advance, passed]

theorem Timed.tolerance_pos (timed : Timed view) : 0 < view.signTolerance := by
  obtain ⟨tolerance, positive, toleranceEq⟩ := timed.tolerance
  rw [toleranceEq]
  exact Int.mul_pos positive (by decide)

variable (timed : Timed view) (started : view.viewStartTime + views * view.signTolerance ≤ now)

include timed started

theorem calculateOffsetTime_of_passed
    (unfinished : now < view.viewStartTime + (views + 1) * view.signTolerance)
    (distance : now - view.viewStartTime < 2 ^ 63) :
    view.calculateOffsetTime view.viewStartTime now =
      (UInt32.ofNat views, now - (view.viewStartTime + views * view.signTolerance)) := by
  have positive := timed.tolerance_pos
  have viewsNonneg : 0 ≤ views * view.signTolerance :=
    Int.mul_nonneg (Int.natCast_nonneg views) positive.le
  have duration : timeSub now view.viewStartTime = now - view.viewStartTime := by
    unfold timeSub
    omega
  have quotient : (now - view.viewStartTime).tdiv view.signTolerance = views := by
    rw [Int.add_mul, Int.one_mul] at unfinished
    rw [Int.tdiv_eq_ediv_of_nonneg (by omega), Int.ediv_eq_iff_of_pos positive]
    constructor <;> omega
  have remainder : (now - view.viewStartTime).tmod view.signTolerance =
      now - (view.viewStartTime + views * view.signTolerance) := by
    have whole := Int.tmod_add_mul_tdiv (now - view.viewStartTime) view.signTolerance
    rw [quotient, Int.mul_comm] at whole
    omega
  rw [calculateOffsetTime, duration, quotient, remainder, ofInt_natCast]

theorem timeOfSeconds_laterStart (unix : now < 2 ^ 63 * second) :
    timeOfSeconds (unixSeconds (view.viewStartTime + views * view.signTolerance)) =
      view.viewStartTime + views * view.signTolerance := by
  have viewsNonneg : 0 ≤ views * view.signTolerance :=
    Int.mul_nonneg (Int.natCast_nonneg views) timed.tolerance_pos.le
  have notBefore := timed.notBefore
  obtain ⟨start, startEq⟩ := timed.start
  obtain ⟨tolerance, -, toleranceEq⟩ := timed.tolerance
  have whole : view.viewStartTime + views * view.signTolerance =
      (start + views * tolerance) * second := by
    rw [Int.add_mul, Int.mul_assoc, ← toleranceEq, ← startEq]
  have low : -(2 ^ 63) * second ≤ (start + views * tolerance) *
      second := by
    omega
  have high : (start + views * tolerance) * second < 2 ^ 63 * second := by omega
  rw [whole]
  exact timeOfSeconds_unixSeconds (Int.le_of_mul_le_mul_right low (by decide))
    (Int.lt_of_mul_lt_mul_right high (by decide))

theorem changeView_of_passed {parentTime : UInt64}
    (unfinished : now < view.viewStartTime + (views + 1) * view.signTolerance) (some : 0 < views)
    (counted : views < 2 ^ 32) (distance : now - view.viewStartTime < 2 ^ 63)
    (unix : now < 2 ^ 63 * second) :
    view.changeView now false parentTime = (view.later views, true) := by
  have passed := calculateOffsetTime_of_passed timed started unfinished distance
  have moves : UInt32.ofNat views > 0 := by
    rw [gt_iff_lt, UInt32.lt_iff_toNat_lt, UInt32.toNat_ofNat', Nat.mod_eq_of_lt counted]
    exact some
  have restart : now - (now - (view.viewStartTime + views * view.signTolerance)) =
        view.viewStartTime + views * view.signTolerance := by
    omega
  simp only [changeView, Bool.false_eq_true, ↓reduceIte, advance, passed,
    moves, resetView, restart, timeOfSeconds_laterStart timed started unix, later]
  congr 2
  rw [Int.add_mul, Int.one_mul, Int.add_assoc]

end Poll

/-! ## An earlier poll -/

section Polls

variable {view : ConsensusView} {now last : Int} {views : Nat}

theorem later_later (earlier : Nat) :
    (view.later earlier).later views = view.later (earlier + views) := by
  have offsets : view.viewOffset + UInt32.ofNat earlier + UInt32.ofNat views =
        view.viewOffset + UInt32.ofNat (earlier + views) := by
    rw [UInt32.ofNat_add, UInt32.add_assoc]
  simp only [later, refreshDuty, producerIsOnDuty, offsets, Nat.cast_add]
  congr 1 <;> ring

theorem Timed.later (timed : Timed view) (views : Nat) : Timed (view.later views) := by
  have viewsNonneg : 0 ≤ views * view.signTolerance :=
    Int.mul_nonneg (Int.natCast_nonneg views) timed.tolerance_pos.le
  obtain ⟨start, startEq⟩ := timed.start
  obtain ⟨tolerance, positive, toleranceEq⟩ := timed.tolerance
  refine ⟨timed.running, ⟨start + views * tolerance, ?_⟩, ?_,
    ⟨tolerance, positive, toleranceEq⟩, ?_⟩
  · show view.viewStartTime + views * view.signTolerance = _
    rw [Int.add_mul, Int.mul_assoc, ← toleranceEq, ← startEq]
  · have notBefore := timed.notBefore
    show _ ≤ view.viewStartTime + views * view.signTolerance
    omega
  · have positiveTolerance := timed.tolerance_pos
    show view.viewStartTime + views * view.signTolerance - view.signTolerance ≤
      view.viewStartTime + (views + 1) * view.signTolerance
    rw [Int.add_mul, Int.one_mul]
    omega

theorem Inside.later {passed : Nat} (inside : Inside view views last) (timed : Timed view)
    (fewer : passed ≤ views) : Inside (view.later passed) (views - passed) last := by
  have passedNonneg : 0 ≤ passed * view.signTolerance :=
    Int.mul_nonneg (Int.natCast_nonneg passed) timed.tolerance_pos.le
  have split : ((views - passed : Nat) : Int) * view.signTolerance =
      views * view.signTolerance - passed * view.signTolerance := by
    rw [Nat.cast_sub fewer, Int.sub_mul]
  obtain ⟨started, unfinished, counted, distance, unix⟩ := inside
  rw [Int.add_mul, Int.one_mul] at unfinished
  refine ⟨?_, ?_, ?_, ?_, unix⟩
  · show view.viewStartTime + passed * view.signTolerance +
      (views - passed : Nat) * view.signTolerance < last
    omega
  · show last < view.viewStartTime + passed * view.signTolerance +
      ((views - passed : Nat) + 1) * view.signTolerance
    rw [Int.add_mul, Int.one_mul]
    omega
  · show (view.viewOffset + UInt32.ofNat passed).toNat + _ < _
    rw [UInt32.toNat_add, UInt32.toNat_ofNat', Nat.mod_eq_of_lt (by omega : passed < 2 ^ 32),
      Nat.mod_eq_of_lt (by omega)]
    omega
  · show last - (view.viewStartTime + passed * view.signTolerance) < _
    omega

variable (timed : Timed view) (inside : Inside view views last)

include timed inside

theorem tryChangeView_eq : view.tryChangeView last =
      if view.viewChangeTime < last ∧ 0 < views then view.later views
      else
        view := by
  obtain ⟨started, unfinished, counted, distance, unix⟩ := inside
  unfold tryChangeView
  by_cases due : view.viewChangeTime < last
  · rw [if_pos ⟨timed.running, due⟩]
    by_cases some : 0 < views
    · rw [if_pos ⟨due, some⟩, changeView_of_passed timed started.le
        unfinished some (by omega) distance unix]
    obtain rfl : views = 0 := by omega
    have change := timed.change
    rw [if_neg (fun both => some both.2), changeView_of_near]
    · omega
    · rwa [Nat.cast_zero, Int.zero_add, Int.one_mul] at unfinished
  · rw [if_neg (fun both => due both.2), if_neg (fun both => due both.1)]

theorem exists_views (after : view.viewStartTime ≤ now) (earlier : now ≤ last) :
    ∃ passed ≤ views, view.viewStartTime + passed * view.signTolerance ≤ now ∧
        now < view.viewStartTime + (passed + 1) * view.signTolerance := by
  have positive := timed.tolerance_pos
  have quotientNonneg : 0 ≤ (now - view.viewStartTime) / view.signTolerance :=
    Int.ediv_nonneg (by omega) positive.le
  have quotient : (((now - view.viewStartTime) / view.signTolerance).toNat : Int) =
        (now - view.viewStartTime) / view.signTolerance :=
    Int.toNat_of_nonneg quotientNonneg
  obtain ⟨low, high⟩ := (Int.ediv_eq_iff_of_pos positive).1
    (Eq.refl ((now - view.viewStartTime) / view.signTolerance))
  refine ⟨((now - view.viewStartTime) / view.signTolerance).toNat, ?_, ?_, ?_⟩
  · have below : (now - view.viewStartTime) / view.signTolerance < views + 1 := by
      apply Int.ediv_lt_of_lt_mul positive
      have unfinished := inside.unfinished
      omega
    omega
  · rw [quotient]
    omega
  · rw [quotient, Int.add_mul, Int.one_mul]
    omega

theorem tryChangeView_earlier (earlier : now ≤ last) :
    (view.tryChangeView now).tryChangeView last = view.tryChangeView last ∧
      Timed (view.tryChangeView now) ∧ ∃ rest, Inside (view.tryChangeView now) rest last := by
  have unchanged : view.tryChangeView now = view → (view.tryChangeView now).tryChangeView last =
          view.tryChangeView last ∧
        Timed (view.tryChangeView now) ∧
        ∃ rest, Inside (view.tryChangeView now) rest last := by
    intro same
    rw [same]
    exact ⟨rfl, timed, views, inside⟩
  by_cases due : view.viewChangeTime < now
  · by_cases near : now < view.viewStartTime + view.signTolerance
    · apply unchanged
      have change := timed.change
      unfold tryChangeView
      rw [if_pos ⟨timed.running, due⟩, changeView_of_near (by omega) near]
    · have positive := timed.tolerance_pos
      obtain ⟨passed, fewer, started, unfinished⟩ := exists_views timed inside (by omega) earlier
      have some : 0 < passed := by
        refine Nat.pos_of_ne_zero ?_
        rintro rfl
        rw [Nat.cast_zero, Int.zero_add, Int.one_mul] at unfinished
        exact near unfinished
      have counted := inside.counted
      have distance := inside.distance
      have unix := inside.unix
      have moved : view.tryChangeView now = view.later passed := by
        unfold tryChangeView
        rw [if_pos ⟨timed.running, due⟩, changeView_of_passed timed
          started unfinished some (by omega) (by omega) (by omega)]
      rw [moved]
      have remains := inside.later timed fewer
      have single : view.tryChangeView last = view.later views := by
        rw [tryChangeView_eq timed inside, if_pos ⟨by omega, by omega⟩]
      refine ⟨?_, timed.later passed, views - passed, remains⟩
      rw [single, tryChangeView_eq (timed.later passed) remains]
      -- The last poll is in the view of the earlier one, or past its end.
      by_cases further : passed < views
      · have ended : view.viewStartTime + (passed + 1) * view.signTolerance < last := by
          have multiple : ((passed : Int) + 1) * view.signTolerance ≤ views * view.signTolerance :=
            Int.mul_le_mul_of_nonneg_right (by omega) positive.le
          have lastStarted := inside.started
          omega
        rw [if_pos ⟨ended, by omega⟩, later_later, Nat.add_sub_cancel' fewer]
      · obtain rfl : passed = views := by omega
        rw [if_neg (by omega)]
  · apply unchanged
    unfold tryChangeView
    rw [if_neg (fun both => due both.2)]

end Polls

/-! ## All polls -/

/--
Polling does not depend on its schedule: any polls before the last one, which is
strictly inside a view, make no difference to where the last one leads.
-/
theorem tryChangeView_last_poll (view : ConsensusView) (views : Nat) (polls : List Int) (last : Int)
    (timed : Timed view) (ordered : (polls ++ [last]).Pairwise (· ≤ ·))
    (inside : Inside view views last) :
    EventRuns.run tryChangeView view (polls ++ [last]) = view.tryChangeView last := by
  induction polls generalizing view views with
  | nil => rfl
  | cons now rest inductionHypothesis =>
    rw [List.cons_append, List.pairwise_cons] at ordered
    obtain ⟨same, stillTimed, remaining, stillInside⟩ :=
      tryChangeView_earlier timed inside (ordered.1 last (by simp))
    rw [List.cons_append, EventRuns.run_cons,
      inductionHypothesis (view.tryChangeView now) remaining stillTimed ordered.2 stillInside, same]

end ConsensusView

namespace PollSample

def view (start : Int) : ConsensusView :=
  { ConsensusView.new (10 * second) [1] {
      totalProducers := 0
      producers := []
      dutyIndex := 0
      workingHeight := 0
      spvHeight := 0
      nextTotalProducers := 0
      nextProducers := []
      defaultCRCSignerNumber := 0 } with
    consensusStatus := consensusRunning
    viewStartTime := start * second
    viewChangeTime := (start + 10) * second }

end PollSample

/-- Polls at 115, 120 and 121.5 seconds in the views of ten from second 100. -/
theorem tryChangeView_last_poll_two_views :
    EventRuns.run ConsensusView.tryChangeView (PollSample.view 100)
        ([115 * second, 120 * second] ++ [121500000000]) =
      (PollSample.view 100).tryChangeView 121500000000 ∧
    ((PollSample.view 100).tryChangeView 121500000000).viewOffset = 2 := by
  refine ⟨ConsensusView.tryChangeView_last_poll (PollSample.view 100) 2
    [115 * second, 120 * second] 121500000000 ?_ (by decide) ?_, by decide⟩
  · exact ⟨by decide, ⟨100, by decide⟩, by decide, ⟨10, by decide⟩, by decide⟩
  · exact ⟨by decide, by decide, by decide, by decide, by decide⟩

/--
A first poll more than 2^63 nanoseconds after the start of the view: the distance
saturates, and the view that is reached is another one than with a poll between.  So it is with a
poll before the start of a view whose change time is two tolerances before its start.
-/
theorem distant_poll_saturates :
    (PollSample.view 0).Timed ∧ 10000000000 * second < 10000000005 * second ∧
      10000000005 * second < 10000000010 * second ∧
      (EventRuns.run ConsensusView.tryChangeView (PollSample.view 0)
          [5000000000 * second, 10000000005 * second]).viewOffset =
        1000000000 ∧
      ((PollSample.view 0).tryChangeView (10000000005 * second)).viewOffset = 922337203 ∧
      let early := { PollSample.view 100 with viewChangeTime := 80 * second }
      (EventRuns.run ConsensusView.tryChangeView early [85 * second, 105 * second]).viewChangeTime ≠
        (early.tryChangeView (105 * second)).viewChangeTime := by
  refine ⟨?_, by decide, by decide, by decide, by decide, by decide⟩
  exact ⟨by decide, ⟨0, by decide⟩, by decide, ⟨10, by decide⟩, by decide⟩

end EscSideChain.Dpos
