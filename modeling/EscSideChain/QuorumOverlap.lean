import Mathlib.Data.Finset.Card
import Mathlib.Data.Finset.Lattice.Fold
import Mathlib.Tactic.Linarith

namespace QuorumOverlap

/-!
# Overlap of finite quorums

Two families of members drawn from one finite population overlap in at least
the excess of their sizes over the population, and the bound is attained.
The module names no protocol: a population is any finite set and a quorum is
any subset that is large enough.
-/

variable {Member : Type} [DecidableEq Member]

theorem card_add_card_le {population first second : Finset Member}
    (firstSubset : first ⊆ population) (secondSubset : second ⊆ population) :
    first.card + second.card ≤ population.card + (first ∩ second).card := by
  have union : (first ∪ second).card ≤ population.card :=
    Finset.card_le_card (Finset.union_subset firstSubset secondSubset)
  have balance := Finset.card_union_add_card_inter first second
  omega

theorem exists_smallest_overlap {population : Finset Member} {size : Nat}
    (bounded : size ≤ population.card) :
    ∃ first second, first ⊆ population ∧ second ⊆ population ∧ first.card = size ∧
        second.card = size ∧ (first ∩ second).card = 2 * size - population.card := by
  obtain ⟨first, firstSubset, firstCard⟩ := Finset.exists_subset_card_eq bounded
  have restCard : (population \ first).card = population.card - size := by
    rw [Finset.card_sdiff_of_subset firstSubset, firstCard]
  by_cases roomy : 2 * size ≤ population.card
  · have room : size ≤ (population \ first).card := by omega
    obtain ⟨second, secondSubset, secondCard⟩ := Finset.exists_subset_card_eq room
    have disjoint : first ∩ second = ∅ := by
      ext member
      simp only [Finset.mem_inter, Finset.notMem_empty, iff_false]
      rintro ⟨inFirst, inSecond⟩
      exact (Finset.mem_sdiff.mp (secondSubset inSecond)).2 inFirst
    refine ⟨first, second, firstSubset, secondSubset.trans Finset.sdiff_subset,
      firstCard, secondCard, ?_⟩
    rw [disjoint, Finset.card_empty]
    omega
  · obtain ⟨shared, sharedSubset, sharedCard⟩ :=
      Finset.exists_subset_card_eq (s := first) (n := 2 * size - population.card) (by omega)
    have apart : Disjoint (population \ first) shared :=
      Finset.sdiff_disjoint.mono_right sharedSubset
    refine ⟨first, (population \ first) ∪ shared, firstSubset,
      Finset.union_subset Finset.sdiff_subset (sharedSubset.trans firstSubset), firstCard, ?_, ?_⟩
    · rw [Finset.card_union_of_disjoint apart, restCard, sharedCard]
      omega
    · have overlap : first ∩ ((population \ first) ∪ shared) = shared := by
        rw [Finset.inter_union_distrib_left, Finset.inter_sdiff_self, Finset.empty_union,
          Finset.inter_eq_right.mpr sharedSubset]
      rw [overlap, sharedCard]

theorem overlap_iff {population : Finset Member} {size bound : Nat}
    (bounded : size ≤ population.card) (positive : 0 < bound) :
    (∀ first second : Finset Member, first ⊆ population → second ⊆ population → size ≤ first.card →
        size ≤ second.card → bound ≤ (first ∩ second).card) ↔
      population.card + bound ≤ 2 * size := by
  constructor
  · intro overlapping
    obtain ⟨first, second, firstSubset, secondSubset, firstCard, secondCard, overlap⟩ :=
      exists_smallest_overlap bounded
    have large := overlapping first second firstSubset secondSubset firstCard.ge secondCard.ge
    omega
  · intro excess first second firstSubset secondSubset firstLarge secondLarge
    have balance := card_add_card_le firstSubset secondSubset
    omega

theorem exists_outside {first second faulty : Finset Member}
    (large : faulty.card < (first ∩ second).card) :
    ∃ member, member ∈ first ∧ member ∈ second ∧ member ∉ faulty := by
  obtain ⟨member, inOverlap, notFaulty⟩ := Finset.exists_mem_notMem_of_card_lt_card large
  exact ⟨member, (Finset.mem_inter.mp inOverlap).1, (Finset.mem_inter.mp inOverlap).2, notFaulty⟩

end QuorumOverlap
