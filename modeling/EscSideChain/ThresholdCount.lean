import Mathlib.Data.Finset.Card
import Mathlib.Data.List.Count
import Mathlib.Data.List.Dedup

namespace ThresholdCount

/-!
# Counting loops with early exit

A loop that counts the items for which a test succeeds and stops at a
threshold decides whether enough items pass.  It says how many items there
are, not how many owners stand behind them; the two agree when no owner stands
behind two items.
-/

variable {Item Owner : Type*}

/-- The count of passing items reaches the threshold. -/
def reaches (threshold : Nat) (passes : Item → Bool) : Nat → List Item → Bool
  | _, [] => false
  | count, item :: rest =>
    if passes item then
      if count + 1 ≥ threshold then true
      else reaches threshold passes (count + 1) rest
    else reaches threshold passes count rest

theorem reaches_iff {threshold : Nat} {passes : Item → Bool} {count : Nat} {items : List Item}
    (below : count < threshold) :
    reaches threshold passes count items = true ↔ threshold ≤ count + items.countP passes := by
  induction items generalizing count with
  | nil =>
    simp only [reaches, Bool.false_eq_true, List.countP_nil, Nat.add_zero, false_iff]
    omega
  | cons item rest inductionHypothesis =>
    by_cases passing : passes item = true
    · rw [List.countP_cons_of_pos passing]
      by_cases last : count + 1 ≥ threshold
      · simp only [reaches, passing, last, ↓reduceIte, true_iff]
        omega
      simp only [reaches, passing, last, ↓reduceIte]
      rw [inductionHypothesis (by omega)]
      omega
    · rw [List.countP_cons_of_neg passing]
      simp only [reaches, passing, Bool.false_eq_true, ↓reduceIte]
      exact inductionHypothesis below

section Owners

variable (owners : Finset Owner)
variable (owns : Owner → Item → Prop)
variable [∀ owner item, Decidable (owns owner item)]

/-- The owners of at least one of the items. -/
def activeOwners (items : List Item) : Finset Owner :=
  owners.filter fun owner => ∃ item ∈ items, owns owner item

@[simp]
theorem mem_activeOwners {items : List Item} {owner : Owner} :
    owner ∈ activeOwners owners owns items ↔ owner ∈ owners ∧ ∃ item ∈ items, owns owner item := by
  simp [activeOwners]

def owned (item : Item) : Bool :=
  decide (∃ owner ∈ owners, owns owner item)

/-- No owner has two of the items. -/
def OwnedOnce (items : List Item) : Prop :=
  items.Pairwise fun first second =>
    ∀ owner ∈ owners, owns owner first → ¬owns owner second

theorem activeOwners_subset_cons {item : Item} {rest : List Item} :
    activeOwners owners owns rest ⊆ activeOwners owners owns (item :: rest) := by
  intro owner active
  obtain ⟨listed, behind, member, owning⟩ := (mem_activeOwners owners owns).mp active
  exact (mem_activeOwners owners owns).mpr
    ⟨listed, behind, List.mem_cons_of_mem item member, owning⟩

theorem countP_le_card_activeOwners [DecidableEq Owner] {items : List Item}
    (once : OwnedOnce owners owns items) :
    items.countP (owned owners owns) ≤ (activeOwners owners owns items).card := by
  induction items with
  | nil => simp
  | cons item rest inductionHypothesis =>
    obtain ⟨apart, restOnce⟩ := List.pairwise_cons.mp once
    have restBound := inductionHypothesis restOnce
    by_cases passing : owned owners owns item = true
    · rw [List.countP_cons_of_pos passing]
      obtain ⟨owner, listed, owning⟩ : ∃ owner ∈ owners, owns owner item := by
        simpa [owned] using passing
      have fresh : owner ∉ activeOwners owners owns rest := by
        intro active
        obtain ⟨-, other, member, ownsOther⟩ := (mem_activeOwners owners owns).mp active
        exact apart other member owner listed owning ownsOther
      have grows :
          insert owner (activeOwners owners owns rest) ⊆
            activeOwners owners owns (item :: rest) := by
        refine Finset.insert_subset ?_ (activeOwners_subset_cons owners owns)
        exact (mem_activeOwners owners owns).mpr ⟨listed, item, List.mem_cons_self, owning⟩
      calc rest.countP (owned owners owns) + 1 ≤ (activeOwners owners owns rest).card + 1 := by
            omega
        _ = (insert owner (activeOwners owners owns rest)).card :=
            (Finset.card_insert_of_notMem fresh).symm
        _ ≤ (activeOwners owners owns (item :: rest)).card :=
            Finset.card_le_card grows
    · rw [List.countP_cons_of_neg passing]
      exact restBound.trans (Finset.card_le_card (activeOwners_subset_cons owners owns))

end Owners

end ThresholdCount
