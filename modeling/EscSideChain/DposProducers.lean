import EscSideChain.ByteStrings
import EscSideChain.QuorumOverlap

namespace EscSideChain.Dpos

/-!
# The producer table and its thresholds

The record of `dpos/producers.go`: the producers of the current turn, the duty
schedule and the vote counts that the two sides of the consensus ask for.  The
dispatcher asks for strictly more than two thirds before it creates a confirm;
a header is accepted with two thirds, rounded down.
-/

/-- The producer table `dpos.Producers`, with the package's CRC seat count. -/
structure Producers where
  totalProducers : Nat
  producers : List Bytes
  dutyIndex : UInt32
  workingHeight : UInt64
  spvHeight : UInt64
  nextTotalProducers : Nat
  nextProducers : List Bytes
  defaultCRCSignerNumber : Nat
  deriving DecidableEq

def getMajorityCountByTotalSigners (totalSigner : Nat) : Nat :=
  totalSigner * 2 / 3

namespace Producers

def getMajorityCount (table : Producers) : Nat :=
  table.totalProducers * 2 / 3

def getCRMajorityCount (table : Producers) : Nat :=
  getMajorityCountByTotalSigners table.defaultCRCSignerNumber

def isMajorityAgree (table : Producers) (count : Nat) : Bool :=
  count > table.getMajorityCount

/-- `IsMajorityRejected`; the subtraction is on signed integers. -/
def isMajorityRejected (table : Producers) (count : Nat) : Bool :=
  (count : Int) ≥ table.producers.length - table.getMajorityCount

/-- `HasArbitersMinorityCount`; the subtraction is on signed integers. -/
def hasArbitersMinorityCount (table : Producers) (num : Nat) : Bool :=
  (num : Int) ≥ table.producers.length - table.getMajorityCount

def isProducers (table : Producers) (signer : Bytes) : Bool :=
  table.producers.any fun producer => producer = signer

/-- `GetNextOnDutyProducer`; the sum of the indices wraps as `uint32`. -/
def getNextOnDutyProducer (table : Producers) (offset : UInt32) : Option Bytes :=
  if table.producers.length = 0 then none
  else table.producers[((table.dutyIndex + offset) % UInt32.ofNat table.producers.length).toNat]?

/-- `UpdateDutyIndex`; the height difference wraps as `uint64`. -/
def updateDutyIndex (table : Producers) (height : UInt64) : Producers :=
  if table.producers.length = 0 then table
  else
    { table with
      dutyIndex :=
        ((height + 1 - table.workingHeight) % UInt64.ofNat table.producers.length).toUInt32 }

def setWorkingHeight (table : Producers) (changeHeight : UInt64) : Producers :=
  { table with workingHeight := changeHeight }

/-! Updating the duty index leaves the rest of the table alone. -/

section DutyIndex

variable (table : Producers) (height : UInt64)

@[simp] theorem producers_updateDutyIndex :
    (table.updateDutyIndex height).producers = table.producers := by
  unfold updateDutyIndex
  split <;> rfl

@[simp] theorem totalProducers_updateDutyIndex :
    (table.updateDutyIndex height).totalProducers = table.totalProducers := by
  unfold updateDutyIndex
  split <;> rfl

@[simp] theorem nextProducers_updateDutyIndex :
    (table.updateDutyIndex height).nextProducers = table.nextProducers := by
  unfold updateDutyIndex
  split <;> rfl

@[simp] theorem workingHeight_updateDutyIndex :
    (table.updateDutyIndex height).workingHeight = table.workingHeight := by
  unfold updateDutyIndex
  split <;> rfl

end DutyIndex

end Producers

/--
Any two sets of producers that reach the header-side threshold share more
members than may be faulty, hence an honest one.
-/
def HeaderQuorumsIntersect (population : Finset Bytes) : Prop :=
  ∀ faultyBound, 3 * faultyBound < population.card → ∀ first second : Finset Bytes,
      first ⊆ population → second ⊆ population →
      getMajorityCountByTotalSigners population.card ≤ first.card →
      getMajorityCountByTotalSigners population.card ≤ second.card →
      faultyBound + 1 ≤ (first ∩ second).card ∧ ∀ faulty : Finset Bytes, faulty.card ≤ faultyBound →
          ∃ honest, honest ∈ first ∧ honest ∈ second ∧ honest ∉ faulty

/--
The header-side threshold for `total` signers accepts exactly the vote counts
that the dispatcher accepts.
-/
def ThresholdsAgree (total : Nat) : Prop :=
  ∀ table : Producers, table.totalProducers = total → ∀ count,
      getMajorityCountByTotalSigners total ≤ count ↔ table.isMajorityAgree count = true

private def tableOfTotal (total : Nat) : Producers where
  totalProducers := total
  producers := []
  dutyIndex := 0
  workingHeight := 0
  spvHeight := 0
  nextTotalProducers := 0
  nextProducers := []
  defaultCRCSignerNumber := 0

theorem not_thresholdsAgree (total : Nat) : ¬ThresholdsAgree total := by
  intro agree
  have atThreshold :=
    (agree (tableOfTotal total) rfl (getMajorityCountByTotalSigners total)).mp le_rfl
  simp [Producers.isMajorityAgree, Producers.getMajorityCount,
    getMajorityCountByTotalSigners, tableOfTotal] at atThreshold

theorem getMajorityCountByTotalSigners_le (total : Nat) :
    getMajorityCountByTotalSigners total ≤ total := by
  unfold getMajorityCountByTotalSigners
  omega

theorem headerOverlap_iff {population : Finset Bytes} {faultyBound : Nat} :
    (∀ first second : Finset Bytes, first ⊆ population → second ⊆ population →
        getMajorityCountByTotalSigners population.card ≤ first.card →
        getMajorityCountByTotalSigners population.card ≤ second.card →
        faultyBound + 1 ≤ (first ∩ second).card) ↔
      population.card + (faultyBound + 1) ≤ 2 * getMajorityCountByTotalSigners population.card :=
  QuorumOverlap.overlap_iff (getMajorityCountByTotalSigners_le population.card)
    (Nat.succ_pos faultyBound)

theorem headerQuorumsIntersect_iff {population : Finset Bytes} (nonempty : population.Nonempty) :
    HeaderQuorumsIntersect population ↔ 3 ∣ population.card := by
  have positive : 0 < population.card := Finset.card_pos.mpr nonempty
  constructor
  · intro intersect
    have largest :
        population.card + ((population.card - 1) / 3 + 1) ≤
          2 * getMajorityCountByTotalSigners population.card := by
      refine headerOverlap_iff.mp ?_
      intro first second firstSubset secondSubset firstLarge secondLarge
      exact (intersect ((population.card - 1) / 3) (by omega) first second firstSubset secondSubset
        firstLarge secondLarge).1
    unfold getMajorityCountByTotalSigners at largest
    have remainders :
        population.card % 3 = 0 ∨ population.card % 3 = 1 ∨ population.card % 3 = 2 := by
      omega
    rcases remainders with remainder | remainder | remainder <;> omega
  · intro divides faultyBound fewFaulty first second firstSubset secondSubset firstLarge secondLarge
    have excess :
        population.card + (faultyBound + 1) ≤
          2 * getMajorityCountByTotalSigners population.card := by
      unfold getMajorityCountByTotalSigners
      omega
    have overlap : faultyBound + 1 ≤ (first ∩ second).card :=
      headerOverlap_iff.mpr excess first second firstSubset secondSubset firstLarge secondLarge
    refine ⟨overlap, ?_⟩
    intro faulty faultyCard
    exact QuorumOverlap.exists_outside (by omega)

/--
For no number of producers do header quorums intersect safely and agree with
the dispatcher: the thresholds always differ, and the intersection alone holds
exactly when three divides the number of producers.
-/
theorem headerQuorum_characterization (population : Finset Bytes) (nonempty : population.Nonempty) :
    ¬(HeaderQuorumsIntersect population ∧ ThresholdsAgree population.card) ∧
      (HeaderQuorumsIntersect population ↔ 3 ∣ population.card) ∧
      ¬ThresholdsAgree population.card :=
  ⟨fun both => not_thresholdsAgree population.card both.2, headerQuorumsIntersect_iff nonempty,
    not_thresholdsAgree population.card⟩

/-- The characterization at four producers. -/
theorem headerQuorum_characterization_four :
    ({[1], [2], [3], [4]} : Finset Bytes).Nonempty ∧
      ¬(HeaderQuorumsIntersect {[1], [2], [3], [4]} ∧
        ThresholdsAgree ({[1], [2], [3], [4]} : Finset Bytes).card) :=
  ⟨⟨[1], by decide⟩, (headerQuorum_characterization {[1], [2], [3], [4]} ⟨[1], by decide⟩).1⟩

/--
Four producers with one faulty: two disjoint pairs both reach the header-side
threshold, and the dispatcher rejects the vote count that a header may carry.
-/
theorem headerQuorum_four_disjoint :
    ¬(HeaderQuorumsIntersect {[1], [2], [3], [4]} ∧ ThresholdsAgree 4) := by
  rintro ⟨intersect, -⟩
  have overlap :=
    (intersect 1 (by decide) {[1], [2]} {[3], [4]}
      (by decide) (by decide) (by decide) (by decide)).1
  exact absurd overlap (by decide)

end EscSideChain.Dpos
