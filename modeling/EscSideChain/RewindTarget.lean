import EscSideChain.ForkCompatibility

namespace EscSideChain.Types

/-!
# The rewind target of a configuration change

`CheckCompatible` repeats its check at the target of the last conflict.  A
conflict is always about a fork that is reached in one of the two schedules, so
the target is below the head or is the genesis block; the heads decrease until
the check passes or the genesis block is reached.
-/

variable {storedBlock newBlock : Option Int}

namespace ForkConfig

/-! ## The target of one check -/

theorem newCompatError_rewindTo {head : UInt64} (what : String)
    (reached : isForked storedBlock head.toNat = true ∨ isForked newBlock head.toNat = true) :
    (newCompatError what storedBlock newBlock).rewindTo < head ∨
      (newCompatError what storedBlock newBlock).rewindTo = 0 := by
  have below : ∀ rew, conflictBlock storedBlock newBlock = some rew → rew ≤ head.toNat := by
    intro rew isConflict
    cases storedBlock with
    | none =>
      rcases reached with reached | reached
      · cases reached
      · cases isConflict
        exact isForked_some.1 reached
    | some stored =>
      cases newBlock with
      | none =>
        rcases reached with reached | reached
        · cases isConflict
          exact isForked_some.1 reached
        · cases reached
      | some new =>
        simp only [isForked_some] at reached
        by_cases less : bigCmp stored new < 0
        · simp only [conflictBlock, less, ↓reduceIte, Option.some.injEq] at isConflict
          have ordered : ¬new ≤ stored := by
            rw [← bigCmp_nonneg_iff]
            omega
          omega
        · simp only [conflictBlock, less, ↓reduceIte, Option.some.injEq] at isConflict
          have ordered : new ≤ stored := by
            rw [← bigCmp_nonneg_iff]
            omega
          omega
  unfold newCompatError
  dsimp only
  cases isConflict : conflictBlock storedBlock newBlock with
  | none => exact Or.inr rfl
  | some rew =>
    have bound := below rew isConflict
    by_cases positive : 0 < rew
    · left
      have small : rew.toNat < 2 ^ 64 := by
        have headSmall := head.toNat_lt
        omega
      have rewValue : (UInt64.ofNat rew.toNat).toNat = rew.toNat := by
        rw [UInt64.toNat_ofNat']
        exact Nat.mod_eq_of_lt small
      simp only [positive, ↓reduceIte]
      rw [UInt64.lt_iff_toNat_lt, UInt64.toNat_sub_of_le]
      · rw [rewValue, UInt64.toNat_one]
        omega
      · rw [UInt64.le_iff_toNat_le, rewValue, UInt64.toNat_one]
        omega
    · right
      simp only [positive, ↓reduceIte]

def Rewinds (head : UInt64) (check : Option ConfigCompatError) : Prop :=
  ∀ err, check = some err → err.rewindTo < head ∨ err.rewindTo = 0

theorem rewinds_conflictError {head : UInt64} {conflict : Bool} {what : String}
    (reached : conflict = true → isForked storedBlock head.toNat = true ∨
        isForked newBlock head.toNat = true) :
    Rewinds head (conflictError conflict what storedBlock newBlock) := by
  intro err isError
  cases conflict with
  | false => cases isError
  | true =>
    cases isError
    exact newCompatError_rewindTo what (reached rfl)

theorem rewinds_forkError {head : UInt64} {what : String} :
    Rewinds head (forkError what storedBlock newBlock head.toNat) := by
  apply rewinds_conflictError
  intro conflict
  simp only [isForkIncompatible, Bool.and_eq_true, Bool.or_eq_true] at conflict
  exact conflict.1

theorem Rewinds.orElse {head : UInt64} {first second : Option ConfigCompatError}
    (rewindsFirst : Rewinds head first) (rewindsSecond : Rewinds head second) :
    Rewinds head (first <|> second) := by
  intro err isError
  rcases (Option.orElse_eq_some first second err).1 isError with isFirst | ⟨-, isSecond⟩
  · exact rewindsFirst err isFirst
  · exact rewindsSecond err isSecond

theorem checkCompatibleAt_rewinds (config newcfg : ForkConfig) (head : UInt64) :
    Rewinds head (config.checkCompatibleAt newcfg head.toNat) := by
  unfold checkCompatibleAt
  apply rewinds_forkError.orElse
  apply rewinds_forkError.orElse
  refine Rewinds.orElse (rewinds_conflictError ?_) ?_
  · intro conflict
    exact Or.inl (Bool.and_eq_true_iff.1 conflict).1
  apply rewinds_forkError.orElse
  apply rewinds_forkError.orElse
  apply rewinds_forkError.orElse
  refine Rewinds.orElse (rewinds_conflictError ?_) ?_
  · intro conflict
    exact Or.inl (Bool.and_eq_true_iff.1 (Bool.and_eq_true_iff.1 conflict).1).1
  refine Rewinds.orElse (rewinds_conflictError ?_) ?_
  · intro conflict
    exact Or.inl (Bool.and_eq_true_iff.1 conflict).1
  apply rewinds_forkError.orElse
  apply rewinds_forkError.orElse
  apply rewinds_forkError.orElse
  apply rewinds_forkError.orElse
  exact rewinds_forkError

/-! ## The target of the loop -/

/-- The check at the target passes, or the target is the genesis block. -/
def Settled (config newcfg : ForkConfig) (err : ConfigCompatError) : Prop :=
  config.checkCompatibleAt newcfg err.rewindTo.toNat = none ∨ err.rewindTo = 0

section Loop

variable (config newcfg : ForkConfig)

theorem checkCompatibleLoop_of_none {bhead : UInt64}
    (passes : config.checkCompatibleAt newcfg bhead.toNat = none)
    (lasterr : Option ConfigCompatError) (fuel : Nat) :
    config.checkCompatibleLoop newcfg (fuel + 1) lasterr bhead = some lasterr := by
  simp [checkCompatibleLoop, passes]

theorem checkCompatibleLoop_of_moved {bhead : UInt64} {err : ConfigCompatError}
    (conflicts : config.checkCompatibleAt newcfg bhead.toNat = some err)
    (lasterr : Option ConfigCompatError)
    (moved : ∀ last, lasterr = some last → err.rewindTo ≠ last.rewindTo) (fuel : Nat) :
    config.checkCompatibleLoop newcfg (fuel + 1) lasterr bhead =
      config.checkCompatibleLoop newcfg fuel (some err) err.rewindTo := by
  cases lasterr with
  | none => simp [checkCompatibleLoop, conflicts]
  | some last => simp [checkCompatibleLoop, conflicts, moved last rfl]

theorem checkCompatibleLoop_settles (bhead : UInt64) (last : ConfigCompatError)
    (atTarget : last.rewindTo = bhead) :
    ∃ err, (∀ fuel, bhead.toNat + 1 ≤ fuel →
        config.checkCompatibleLoop newcfg fuel (some last) bhead = some (some err)) ∧
      err.rewindTo ≤ bhead ∧ config.Settled newcfg err := by
  induction size : bhead.toNat using Nat.strong_induction_on generalizing bhead last with
  | h height inductionHypothesis =>
    subst size
    cases check : config.checkCompatibleAt newcfg bhead.toNat with
    | none =>
      refine ⟨last, ?_, by rw [atTarget]; exact UInt64.le_refl bhead, Or.inl ?_⟩
      · intro fuel enough
        obtain ⟨rest, rfl⟩ := Nat.exists_eq_add_of_le' enough
        exact checkCompatibleLoop_of_none config newcfg check (some last) (rest + bhead.toNat)
      · rw [atTarget]
        exact check
    | some err =>
      by_cases same : err.rewindTo = last.rewindTo
      · refine ⟨last, ?_, by rw [atTarget]; exact UInt64.le_refl bhead, Or.inr ?_⟩
        · intro fuel enough
          obtain ⟨rest, rfl⟩ := Nat.exists_eq_add_of_le' enough
          simp [checkCompatibleLoop, check, same]
        · rcases checkCompatibleAt_rewinds config newcfg bhead err check with below | atGenesis
          · rw [same, atTarget] at below
            exact absurd below (UInt64.lt_irrefl bhead)
          · exact same.symm.trans atGenesis
      · have lower : err.rewindTo.toNat < bhead.toNat := by
          rcases checkCompatibleAt_rewinds config newcfg bhead err check with below | atGenesis
          · exact UInt64.lt_iff_toNat_lt.1 below
          · rw [atGenesis, UInt64.toNat_zero]
            have notGenesis : bhead.toNat ≠ 0 := by
              intro isGenesis
              apply same
              rw [atGenesis, atTarget]
              exact (UInt64.toNat_inj.1 isGenesis).symm
            omega
        obtain ⟨settled, returns, bound, isSettled⟩ :=
          inductionHypothesis err.rewindTo.toNat lower err.rewindTo err rfl rfl
        refine ⟨settled, ?_, ?_, isSettled⟩
        · intro fuel enough
          obtain ⟨rest, rfl⟩ := Nat.exists_eq_add_of_le' enough
          have goesOn := checkCompatibleLoop_of_moved config newcfg
            check (some last) (by rintro _ ⟨rfl⟩; exact same) (rest + bhead.toNat)
          exact goesOn.trans (returns _ (by omega))
        · exact UInt64.le_trans bound (UInt64.le_of_lt (UInt64.lt_iff_toNat_lt.2 lower))

/--
`CheckCompatible` returns; and if it returns an error, its target is below the
head unless the head is the genesis block, and the check at the target passes
unless the target is the genesis block.
-/
theorem checkCompatible_rewindTo (height : UInt64) :
    ∃ result,
      (∀ fuel, height.toNat + 2 ≤ fuel → config.checkCompatibleLoop newcfg fuel none height =
          some result) ∧
      config.checkCompatible newcfg height = some result ∧
      ∀ err, result = some err → (err.rewindTo < height ∨ height = 0) ∧
          (config.checkCompatibleAt newcfg err.rewindTo.toNat = none ∨ err.rewindTo = 0) := by
  cases check : config.checkCompatibleAt newcfg height.toNat with
  | none =>
    have returns : ∀ fuel, height.toNat + 2 ≤ fuel →
        config.checkCompatibleLoop newcfg fuel none height = some none := by
      intro fuel enough
      obtain ⟨rest, rfl⟩ := Nat.exists_eq_add_of_le' enough
      exact checkCompatibleLoop_of_none config newcfg check none (rest + (height.toNat + 1))
    refine ⟨none, returns, returns _ (Nat.le_refl _), ?_⟩
    rintro err ⟨⟩
  | some first =>
    obtain ⟨settled, loopReturns, bound, isSettled⟩ :=
      checkCompatibleLoop_settles config newcfg first.rewindTo first rfl
    have target := checkCompatibleAt_rewinds config newcfg height first check
    have firstBelow : first.rewindTo.toNat ≤ height.toNat := by
      rcases target with below | atGenesis
      · exact Nat.le_of_lt (UInt64.lt_iff_toNat_lt.1 below)
      · rw [atGenesis, UInt64.toNat_zero]
        exact Nat.zero_le _
    have returns : ∀ fuel, height.toNat + 2 ≤ fuel →
        config.checkCompatibleLoop newcfg fuel none height = some (some settled) := by
      intro fuel enough
      obtain ⟨rest, rfl⟩ := Nat.exists_eq_add_of_le' enough
      have goesOn := checkCompatibleLoop_of_moved config newcfg check none
        (by rintro _ ⟨⟩) (rest + (height.toNat + 1))
      exact goesOn.trans (loopReturns _ (by omega))
    refine ⟨some settled, returns, returns _ (Nat.le_refl _), ?_⟩
    rintro err ⟨rfl⟩
    refine ⟨?_, isSettled⟩
    rcases target with below | atGenesis
    · exact Or.inl (UInt64.lt_of_le_of_lt bound below)
    · by_cases isGenesis : height = 0
      · exact Or.inr isGenesis
      left
      rw [atGenesis] at bound
      exact UInt64.lt_of_le_of_lt bound (UInt64.pos_iff_ne_zero.2 isGenesis)

end Loop

end ForkConfig

end EscSideChain.Types
