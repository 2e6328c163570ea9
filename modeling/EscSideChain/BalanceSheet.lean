import Mathlib.Algebra.BigOperators.Group.Finset.Piecewise
import Mathlib.Algebra.BigOperators.Ring.Finset
import Mathlib.Data.Fintype.Basic
import Mathlib.Tactic.Ring

namespace BalanceSheet

/-!
# Balance sheets

A balance for each member of a finite population, and what the sum of all
balances does when one of them changes.
-/

variable {Member : Type*} [Fintype Member] [DecidableEq Member]

@[irreducible] def total (balance : Member → Int) : Int :=
  ∑ member, balance member

theorem total_update (balance : Member → Int) (member : Member) (amount : Int) :
    total (Function.update balance member amount) = total balance + (amount - balance member) := by
  have split := Finset.add_sum_erase Finset.univ balance (Finset.mem_univ member)
  unfold total
  rw [Finset.sum_update_of_mem (Finset.mem_univ member), Finset.sdiff_singleton_eq_erase, ← split]
  ring

theorem total_add (balance : Member → Int) (member : Member) (amount : Int) :
    total (Function.update balance member (balance member + amount)) = total balance + amount := by
  rw [total_update]
  ring

end BalanceSheet
