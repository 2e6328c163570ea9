import EscSideChain.DposPoolSections

namespace EscSideChain.Dpos

open Pbft Interleaving

/-!
# Consistency of the block pool

The maps of the pool are related: a confirm should have its block, and the confirm of a
height should be the one that is stored for a block of that height.  `AppendConfirm`
establishes this in four sections, and other calls run between them.  The block may be
cleaned away before its confirm is stored, `RemoveConfirm` leaves the confirm of the
height behind, and a second block of a height takes the place of the first one.
-/

namespace BlockPool

/-- Every confirm has its block, and a height has a confirm of its own. -/
structure Consistent (pool : BlockPool) : Prop where
  confirmed : ∀ hash, (pool.confirms.lookup hash).isSome → (pool.blocks.lookup hash).isSome
  ofHeight : ∀ height confirm, pool.heightConfirms.lookup height = some confirm → ∃ hash block,
        pool.blocks.lookup hash = some block ∧ blockHeight block = height ∧
          pool.confirms.lookup hash = some confirm

def KeepsConfirms (before after : BlockPool) : Prop :=
  ∀ height confirm later, before.heightConfirms.lookup height = some confirm →
      after.heightConfirms.lookup height = some later →
        later.proposal.blockHash = confirm.proposal.blockHash

end BlockPool

/--
What the pool looks like when a section runs.  A confirm finds its block, a
height has no confirm of another block, a block that replaces another one has
its height, and a confirm is not removed as long as it is the one of a height.
-/
def SafeSection (sealHash : Header → Hash) (pool : BlockPool) : PoolCall → Prop
  | .putConfirm confirm => (pool.blocks.lookup confirm.proposal.blockHash).isSome
  | .confirmBlock hash =>
    ∀ block ∈ pool.blocks.lookup hash, ∀ confirm ∈ pool.heightConfirms.lookup (blockHeight block),
        confirm.proposal.blockHash = hash
  | .putBlock block =>
    ∀ other ∈ pool.blocks.lookup (sealHash block), blockHeight other = blockHeight block
  | .addToBlockMap block =>
    ∀ other ∈ pool.blocks.lookup (sealHash block), blockHeight other = blockHeight block
  | .removeConfirm hash => ∀ confirm ∈ pool.heightConfirms.values, confirm.proposal.blockHash ≠ hash
  | .addToConfirmMap confirm =>
    (pool.blocks.lookup confirm.proposal.blockHash).isSome ∧ ∀ stored ∈ pool.heightConfirms.values,
        stored.proposal.blockHash = confirm.proposal.blockHash → stored = confirm
  | _ => True

instance instDecidableSafeSection (sealHash : Header → Hash) (pool : BlockPool) :
    ∀ call, Decidable (SafeSection sealHash pool call)
  | .putConfirm confirm =>
    inferInstanceAs (Decidable ((pool.blocks.lookup confirm.proposal.blockHash).isSome = true))
  | .confirmBlock hash =>
    inferInstanceAs (Decidable
      (∀ block ∈ pool.blocks.lookup hash,
        ∀ confirm ∈ pool.heightConfirms.lookup (blockHeight block),
          confirm.proposal.blockHash = hash))
  | .putBlock block | .addToBlockMap block =>
    inferInstanceAs (Decidable
      (∀ other ∈ pool.blocks.lookup (sealHash block), blockHeight other = blockHeight block))
  | .removeConfirm hash =>
    inferInstanceAs (Decidable
      (∀ confirm ∈ pool.heightConfirms.values, confirm.proposal.blockHash ≠ hash))
  | .addToConfirmMap confirm =>
    inferInstanceAs (Decidable
      ((pool.blocks.lookup confirm.proposal.blockHash).isSome = true ∧
        ∀ stored ∈ pool.heightConfirms.values,
          stored.proposal.blockHash = confirm.proposal.blockHash → stored = confirm))
  | .appendConfirm _ _ | .getBlock _ _ | .appendDposBlock _ _
  | .cleanFinalConfirmedBlock _ | .handleParentBlock _ _ _
  | .addBadBlock _ | .appendFutureBlock _ => .isTrue trivial

namespace BlockPool

variable {sealHash : Header → Hash}

theorem addBadBlock_maps (sealHash : Header → Hash) (pool : BlockPool) (block : Header) :
    (pool.addBadBlock sealHash block).blocks = pool.blocks ∧
      (pool.addBadBlock sealHash block).confirms = pool.confirms ∧
      (pool.addBadBlock sealHash block).heightConfirms = pool.heightConfirms := by
  unfold addBadBlock
  split <;> exact ⟨rfl, rfl, rfl⟩

theorem appendFutureBlock_maps (sealHash : Header → Hash) (pool : BlockPool) (block : Header) :
    (pool.appendFutureBlock sealHash block).blocks = pool.blocks ∧
      (pool.appendFutureBlock sealHash block).confirms = pool.confirms ∧
      (pool.appendFutureBlock sealHash block).heightConfirms = pool.heightConfirms := by
  unfold appendFutureBlock
  split <;> exact ⟨rfl, rfl, rfl⟩

/--
The maps are related, up to the blocks whose `confirmBlock` is still to come.
-/
structure Settled (sealHash : Header → Hash) (pool : BlockPool)
    (confirming : Hash → Prop) : Prop where
  keyed : pool.Keyed sealHash
  confirmed : ∀ hash confirm, pool.confirms.lookup hash = some confirm →
      ∃ block, pool.blocks.lookup hash = some block
  ofHeight : ∀ height confirm, pool.heightConfirms.lookup height = some confirm → ∃ block stored,
        pool.blocks.lookup confirm.proposal.blockHash = some block ∧ blockHeight block = height ∧
          pool.confirms.lookup confirm.proposal.blockHash = some stored ∧
          (stored = confirm ∨ confirming confirm.proposal.blockHash)

namespace Settled

variable {pool : BlockPool} {confirming : Hash → Prop}

section

variable (settled : pool.Settled sealHash confirming)

include settled

theorem mono {more : Hash → Prop}
    (implied : ∀ hash, confirming hash → more hash) : pool.Settled sealHash more where
  keyed := settled.keyed
  confirmed := settled.confirmed
  ofHeight := by
    intro height confirm found
    obtain ⟨block, stored, isBlock, ofHeight, isStored, current⟩ :=
      settled.ofHeight height confirm found
    exact ⟨block, stored, isBlock, ofHeight, isStored, current.imp_right (implied _)⟩

theorem addToConfirmMap {confirm : Confirm}
    (found : (pool.blocks.lookup confirm.proposal.blockHash).isSome)
    (pending : ∀ height stored, pool.heightConfirms.lookup height = some stored →
        stored.proposal.blockHash = confirm.proposal.blockHash → stored = confirm ∨
            confirming confirm.proposal.blockHash) :
    (pool.addToConfirmMap confirm).Settled sealHash confirming where
  keyed := settled.keyed.addToConfirmMap confirm
  confirmed := by
    intro hash stored isStored
    rcases GoMap.lookup_insert_cases isStored with ⟨rfl, rfl⟩ | before
    · exact Option.isSome_iff_exists.1 found
    · exact settled.confirmed hash stored before
  ofHeight := by
    intro height ofHeight isConfirm
    obtain ⟨block, stored, isBlock, sameHeight, isStored, current⟩ :=
      settled.ofHeight height ofHeight isConfirm
    by_cases same : ofHeight.proposal.blockHash = confirm.proposal.blockHash
    · refine ⟨block, confirm, isBlock, sameHeight, ?_, ?_⟩
      · rw [same]
        exact AList.lookup_insert _
      · rw [same]
        exact (pending height ofHeight isConfirm same).imp_left Eq.symm
    · refine ⟨block, stored, isBlock, sameHeight, ?_, current⟩
      exact (AList.lookup_insert_ne same).trans isStored

theorem confirmBlock {hash : Hash} {others : Hash → Prop}
    (pending : ∀ other, confirming other → other = hash ∨ others other) :
    (pool.confirmBlock hash).1.Settled sealHash others := by
  -- An entry for another block does not wait for this section.
  have elsewhere : ∀ height confirm, pool.heightConfirms.lookup height = some confirm →
        confirm.proposal.blockHash ≠ hash → ∃ block stored,
            pool.blocks.lookup confirm.proposal.blockHash = some block ∧
              blockHeight block = height ∧ pool.confirms.lookup confirm.proposal.blockHash =
                some stored ∧
              (stored = confirm ∨ others confirm.proposal.blockHash) := by
    intro height confirm found different
    obtain ⟨block, stored, isBlock, ofHeight, isStored, current⟩ :=
      settled.ofHeight height confirm found
    refine ⟨block, stored, isBlock, ofHeight, isStored, ?_⟩
    exact current.imp_right fun waiting =>
      (pending _ waiting).resolve_left different
  unfold BlockPool.confirmBlock
  cases isBlock : pool.blocks.lookup hash with
  | none =>
    refine ⟨settled.keyed, settled.confirmed, ?_⟩
    intro height confirm found
    refine elsewhere height confirm found ?_
    rintro rfl
    obtain ⟨block, _, present, _⟩ := settled.ofHeight height confirm found
    rw [isBlock] at present
    cases present
  | some block =>
    cases isConfirm : pool.confirms.lookup hash with
    | none =>
      refine ⟨settled.keyed, settled.confirmed, ?_⟩
      intro height confirm found
      refine elsewhere height confirm found ?_
      rintro rfl
      obtain ⟨_, stored, _, _, present, _⟩ := settled.ofHeight height confirm found
      rw [isConfirm] at present
      cases present
    | some confirm =>
      refine ⟨⟨settled.keyed.blocks, settled.keyed.badBlocks,
        settled.keyed.confirms⟩, settled.confirmed, ?_⟩
      intro height entry found
      rcases GoMap.lookup_insert_cases found with ⟨rfl, rfl⟩ | before
      · have named := settled.keyed.confirms hash entry isConfirm
        rw [named]
        exact ⟨block, entry, isBlock, rfl, isConfirm, .inl rfl⟩
      · by_cases same : entry.proposal.blockHash = hash
        · -- Then the height is the one of the block, which is new.
          obtain ⟨stored, _, present, ofHeight, _⟩ := settled.ofHeight height entry before
          rw [same, isBlock] at present
          obtain rfl := Option.some.inj present
          rw [← ofHeight] at found
          have new := (AList.lookup_insert pool.heightConfirms).symm.trans found
          obtain rfl := Option.some.inj new
          rw [same]
          exact ⟨block, confirm, isBlock, ofHeight, isConfirm, .inl rfl⟩
        · exact elsewhere height entry before same

theorem insertBlock {block : Header} {after : BlockPool} (keyed : after.Keyed sealHash)
    (sameHeight : ∀ other ∈ pool.blocks.lookup (sealHash block),
      blockHeight other = blockHeight block)
    (blocks : after.blocks = pool.blocks.insert (sealHash block) block)
    (confirms : after.confirms = pool.confirms)
    (heightConfirms : after.heightConfirms = pool.heightConfirms) :
    after.Settled sealHash confirming where
  keyed := keyed
  confirmed := by
    intro hash confirm found
    rw [confirms] at found
    obtain ⟨stored, isStored⟩ := settled.confirmed hash confirm found
    rw [blocks]
    by_cases same : hash = sealHash block
    · rw [same]
      exact ⟨block, AList.lookup_insert _⟩
    · exact ⟨stored, (AList.lookup_insert_ne same).trans isStored⟩
  ofHeight := by
    intro height confirm found
    rw [heightConfirms] at found
    obtain ⟨other, stored, isBlock, ofHeight, isStored, current⟩ :=
      settled.ofHeight height confirm found
    rw [blocks, confirms]
    by_cases same : confirm.proposal.blockHash = sealHash block
    · refine ⟨block, stored, ?_, ?_, isStored, current⟩
      · rw [same]
        exact AList.lookup_insert _
      · rw [← sameHeight other (same ▸ isBlock)]
        exact ofHeight
    · exact ⟨other, stored, (AList.lookup_insert_ne same).trans isBlock, ofHeight,
        isStored, current⟩

theorem removeConfirm {hash : Hash}
    (unused : ∀ confirm ∈ pool.heightConfirms.values, confirm.proposal.blockHash ≠ hash) :
    (pool.removeConfirm hash).Settled sealHash confirming where
  keyed := settled.keyed.advance (.removeConfirm hash)
  confirmed other confirm found :=
    settled.confirmed other confirm (GoMap.lookup_erase_eq_some.1 found).2
  ofHeight := by
    intro height confirm found
    obtain ⟨block, stored, isBlock, ofHeight, isStored, current⟩ :=
      settled.ofHeight height confirm found
    have different := unused confirm (GoMap.mem_values.2 ⟨height, found⟩)
    exact ⟨block, stored, isBlock, ofHeight,
      GoMap.lookup_erase_eq_some.2 ⟨different, isStored⟩, current⟩

theorem cleanFinalConfirmedBlock (height : UInt64) :
    (pool.cleanFinalConfirmedBlock sealHash height).Settled sealHash confirming where
  keyed := settled.keyed.advance (.cleanFinalConfirmedBlock height)
  confirmed := by
    intro hash confirm found
    obtain ⟨before, recent⟩ := (lookup_confirms_clean settled.keyed).1 found
    obtain ⟨block, isBlock⟩ := settled.confirmed hash confirm before
    exact ⟨block, (lookup_blocks_clean settled.keyed).2 ⟨isBlock, recent block isBlock⟩⟩
  ofHeight := by
    intro confirmed confirm found
    obtain ⟨before, recent⟩ := lookup_heightConfirms_clean.1 found
    obtain ⟨block, stored, isBlock, ofHeight, isStored, current⟩ :=
      settled.ofHeight confirmed confirm before
    refine ⟨block, stored, ?_, ofHeight, ?_, current⟩
    · exact (lookup_blocks_clean settled.keyed).2 ⟨isBlock, ofHeight ▸ recent⟩
    · refine (lookup_confirms_clean settled.keyed).2 ⟨isStored, ?_⟩
      intro other isOther
      obtain rfl := Option.some.inj (isBlock.symm.trans isOther)
      exact ofHeight ▸ recent

theorem of_same {after : BlockPool}
    (keyed : after.Keyed sealHash) (blocks : after.blocks = pool.blocks)
    (confirms : after.confirms = pool.confirms)
    (heightConfirms : after.heightConfirms = pool.heightConfirms) :
    after.Settled sealHash confirming where
  keyed := keyed
  confirmed := by
    rw [confirms, blocks]
    exact settled.confirmed
  ofHeight := by
    rw [confirms, blocks, heightConfirms]
    exact settled.ofHeight

end

/-- A section that is not the end of a `confirmBlock` leaves the blocks that wait for one. -/
theorem finishes {call : PoolCall} {next : Option PoolCall} {others : PoolCall → Prop}
    (settled : pool.Settled sealHash fun hash =>
      others (.confirmBlock hash) ∨ .confirmBlock hash = call)
    (isOther : ∀ hash, .confirmBlock hash ≠ call) :
    pool.Settled sealHash fun hash =>
      others (.confirmBlock hash) ∨ next = some (.confirmBlock hash) :=
  settled.mono fun hash waiting => waiting.imp_right fun same => absurd same (isOther hash)

theorem advance {call : PoolCall} {others : PoolCall → Prop} (safe : SafeSection sealHash pool call)
    (settled : pool.Settled sealHash fun hash =>
      others (.confirmBlock hash) ∨ .confirmBlock hash = call) :
    (call.advance sealHash pool).1.Settled sealHash fun hash =>
      others (.confirmBlock hash) ∨ (call.advance sealHash pool).2 = some (.confirmBlock hash) := by
  have keyed := settled.keyed.advance call
  have effect := PoolCall.effect_advance sealHash call pool
  generalize call.advance sealHash pool = result at keyed effect
  cases effect with
  | looks unfinished =>
    exact settled.finishes fun hash same => unfinished hash same.symm
  | putConfirm confirm =>
    have waits : pool.Settled sealHash fun hash =>
        others (.confirmBlock hash) ∨ some (PoolCall.confirmBlock confirm.proposal.blockHash) =
            some (.confirmBlock hash) := settled.finishes nofun
    exact waits.addToConfirmMap safe fun _ _ _ _ => .inr (.inr rfl)
  | confirmBlock hash =>
    refine settled.confirmBlock fun other waiting => ?_
    rcases waiting with elsewhere | same
    · exact .inr (.inl elsewhere)
    · exact .inl (PoolCall.confirmBlock.inj same)
  | putBlock block =>
    have inserted := settled.insertBlock keyed safe rfl rfl rfl
    exact inserted.finishes nofun
  | removeConfirm hash =>
    have removed := settled.removeConfirm safe
    exact removed.finishes nofun
  | cleanFinalConfirmedBlock height =>
    have cleaned := settled.cleanFinalConfirmedBlock height
    exact cleaned.finishes nofun
  | addBadBlock block =>
    obtain ⟨blocks, confirms, heightConfirms⟩ := addBadBlock_maps sealHash pool block
    have kept := settled.of_same keyed blocks confirms heightConfirms
    exact kept.finishes nofun
  | appendFutureBlock block =>
    obtain ⟨blocks, confirms, heightConfirms⟩ := appendFutureBlock_maps sealHash pool block
    have kept := settled.of_same keyed blocks confirms heightConfirms
    exact kept.finishes nofun
  | addToBlockMap block =>
    have inserted := settled.insertBlock keyed safe rfl rfl rfl
    exact inserted.finishes nofun
  | addToConfirmMap confirm =>
    have added := settled.addToConfirmMap safe.1
      fun height stored found same =>
        .inl (safe.2 stored (GoMap.mem_values.2 ⟨height, found⟩) same)
    exact added.finishes nofun

end Settled

theorem Settled.consistent {pool : BlockPool} {confirming : Hash → Prop}
    (settled : pool.Settled sealHash confirming) (finished : ∀ hash, ¬confirming hash) :
    pool.Consistent where
  confirmed := by
    intro hash isConfirm
    obtain ⟨confirm, found⟩ := Option.isSome_iff_exists.1 isConfirm
    exact Option.isSome_iff_exists.2 (settled.confirmed hash confirm found)
  ofHeight := by
    intro height confirm found
    obtain ⟨block, stored, isBlock, ofHeight, isStored, current⟩ :=
      settled.ofHeight height confirm found
    obtain rfl := current.resolve_right (finished _)
    exact ⟨_, block, isBlock, ofHeight, isStored⟩

theorem keepsConfirms_advance {pool : BlockPool} {call : PoolCall} (keyed : pool.Keyed sealHash)
    (safe : SafeSection sealHash pool call) :
    pool.KeepsConfirms (call.advance sealHash pool).1 := by
  have same {after : BlockPool} (heightConfirms : after.heightConfirms = pool.heightConfirms) :
      pool.KeepsConfirms after := by
    intro height confirm later found isLater
    rw [heightConfirms] at isLater
    rw [Option.some.inj (isLater.symm.trans found)]
  have effect := PoolCall.effect_advance sealHash call pool
  generalize call.advance sealHash pool = result at effect
  cases effect with
  | looks _ => exact same rfl
  | putConfirm confirm => exact same rfl
  | confirmBlock hash =>
    unfold confirmBlock
    cases isBlock : pool.blocks.lookup hash with
    | none => exact same rfl
    | some block =>
      cases isConfirm : pool.confirms.lookup hash with
      | none => exact same rfl
      | some stored =>
        intro height confirm later found isLater
        rcases GoMap.lookup_insert_cases isLater with ⟨rfl, rfl⟩ | before
        · rw [keyed.confirms hash later isConfirm]
          exact (safe block isBlock confirm found).symm
        · rw [Option.some.inj (before.symm.trans found)]
  | putBlock block => exact same rfl
  | removeConfirm hash => exact same rfl
  | cleanFinalConfirmedBlock height =>
    intro confirmed confirm later found isLater
    have before := (lookup_heightConfirms_clean.1 isLater).1
    rw [Option.some.inj (before.symm.trans found)]
  | addBadBlock block => exact same (addBadBlock_maps sealHash pool block).2.2
  | appendFutureBlock block => exact same (appendFutureBlock_maps sealHash pool block).2.2
  | addToBlockMap block => exact same rfl
  | addToConfirmMap confirm => exact same rfl

/--
In an interleaving in which every section is safe, the pool is consistent
whenever no call is in progress, and no height that has a confirm gets one of
another block.
-/
theorem consistent_of_safeSections {Thread : Type*} [DecidableEq Thread] (sealHash : Header → Hash)
    (turns : List (Turn Thread PoolCall))
    (safe : EventRuns.Along (Guarded (SafeSection sealHash))
      (step (PoolCall.advance sealHash)) (World.idle empty) turns) :
    ((EventRuns.run (step (PoolCall.advance sealHash)) (World.idle empty) turns).Quiet →
      (EventRuns.run (step (PoolCall.advance sealHash))
        (World.idle empty) turns).shared.Consistent) ∧
    EventRuns.Along
      (fun world turn => world.shared.KeepsConfirms
        (step (PoolCall.advance sealHash) world turn).shared)
      (step (PoolCall.advance sealHash)) (World.idle empty) turns := by
  have initially : empty.Settled sealHash fun _ => False := by
    refine ⟨keyed_empty, ?_, ?_⟩ <;>
    · intro key entry nothing
      cases nothing
  have settled := @run_invariant Thread BlockPool PoolCall _ _ _ (fun pool begun =>
      pool.Settled sealHash fun hash => begun (.confirmBlock hash))
    (fun pool begun more implied holds =>
      holds.mono fun hash => implied _)
    (fun pool call others safeCall holds => holds.advance safeCall)
    _ _ safe (initially.mono fun _ => False.elim)
  constructor
  · intro quiet
    exact settled.consistent fun hash => quiet.not_inProgress _
  · exact along_sections (fun _ call keyed => keyed.advance call)
      (fun pool height confirm later found isLater => by
        rw [Option.some.inj (isLater.symm.trans found)])
      (fun _ _ => keepsConfirms_advance) safe keyed_empty

end BlockPool

open Sample

/-- Two confirmed blocks, of which the older one is cleaned away, one by one. -/
theorem consistent_of_safeSections_confirmed :
    (poolAfter (confirmedTurns ++ whole 1
        (.cleanFinalConfirmedBlock 8))).heightConfirms.keys = [2] ∧
    (poolAfter (confirmedTurns ++ whole 1 (.cleanFinalConfirmedBlock 8))).Consistent :=
  ⟨by decide +kernel, (BlockPool.consistent_of_safeSections heightSeal
      (confirmedTurns ++ whole 1 (.cleanFinalConfirmedBlock 8)) (by decide +kernel)).1 (by
        unfold World.Quiet
        decide +kernel)⟩

/--
The block of a confirm is cleaned away while the confirm is checked, the confirm
of a height is removed, and a second block of a height takes the place of the
first one; in each case no call is in progress at the end.
-/
theorem pool_inconsistent :
    ((EventRuns.run (step (PoolCall.advance heightSeal))
          (World.idle BlockPool.empty) orphanTurns).Quiet ∧
        ¬(poolAfter orphanTurns).Consistent) ∧
      ((EventRuns.run (step (PoolCall.advance heightSeal))
          (World.idle BlockPool.empty) removedTurns).Quiet ∧
        ¬(poolAfter removedTurns).Consistent) ∧
      ¬(poolAfter siblingTurns).KeepsConfirms
        (poolAfter (siblingTurns ++ whole 0 (confirmOf (poolBlock 1 1)))) := by
  refine ⟨⟨?_, ?_⟩, ⟨?_, ?_⟩, ?_⟩
  · unfold World.Quiet
    decide +kernel
  · intro consistent
    have blockFound := consistent.confirmed (heightSeal (poolBlock 1 0)) (by decide +kernel)
    revert blockFound
    decide +kernel
  · unfold World.Quiet
    decide +kernel
  · intro consistent
    obtain ⟨hash, block, _, _, stored⟩ := consistent.ofHeight 1
      (poolConfirm (poolBlock 1 0)) (by decide +kernel)
    have nothing : (poolAfter removedTurns).confirms.keys = [] := by decide +kernel
    have member := AList.lookup_isSome.1 (Option.isSome_of_mem stored)
    rw [AList.mem_keys, nothing] at member
    cases member
  · intro kept
    have same := kept 1 (poolConfirm (poolBlock 1 0))
      (poolConfirm (poolBlock 1 1)) (by decide +kernel) (by decide +kernel)
    revert same
    decide +kernel

end EscSideChain.Dpos
