import EscSideChain.ChainRecords
import EscSideChain.EventRuns

namespace EscSideChain.BlockChain

open EscSideChain.Types AncestorPaths

/-!
# Finality of canonical blocks

A reorganisation drops at most five blocks once the producers are known.  From the PBFT
height on all blocks weigh the same, so a head is only replaced by one that is at least as
high.
-/

variable {Hash : Type}

variable {number : Nat}

namespace ChainState

variable {pbftBlock : Option Int} {state : ChainState Hash}

/-! ## How the head moves -/

/--
A stored block becomes the head.  The blocks `added` lead from it to an ancestor
on the old chain, and the blocks `dropped` from the old head to that ancestor.
-/
structure Adopts (written next : ChainState Hash) (block common : Block Hash)
    (dropped added : List (Block Hash)) : Prop where
  isAdded : Path written.parent block added common
  isDropped : Path written.parent written.current dropped common
  sameBlocks : next.blocks = written.blocks
  sameTds : next.tds = written.tds
  isCurrent : next.current = block
  kept : ∀ number, number ≤ common.number → next.canonical number = written.canonical number
  placed : ∀ other ∈ added, next.canonical other.number = some other.hash
  cleared : ∀ number, block.number < number → next.canonical number = none

variable {next : ChainState Hash} {block common : Block Hash}
variable {dropped added : List (Block Hash)}

theorem Recorded.congr (recorded : Recorded pbftBlock state)
    (sameBlocks : next.blocks = state.blocks) (sameTds : next.tds = state.tds) :
    Recorded pbftBlock next := by
  obtain ⟨keyed, identified, weighed, summed, backed, rated⟩ := recorded
  rw [← sameBlocks] at keyed identified weighed summed backed rated
  rw [← sameTds] at weighed summed backed
  exact ⟨keyed, identified, weighed, summed, backed, rated⟩

theorem Adopts.headCanonical (wellFormed : WellFormed pbftBlock state)
    (adopts : Adopts state next block common dropped added) :
    next.canonical block.number = some block.hash := by
  have isAdded := adopts.isAdded
  have commonCanonical := (wellFormed.path_canonical adopts.isDropped).2
  cases isAdded with
  | here =>
    rw [adopts.kept _ le_rfl]
    exact commonCanonical
  | up => exact adopts.placed _ List.mem_cons_self

theorem Adopts.linked (wellFormed : WellFormed pbftBlock state) (isStored : state.IsStored block)
    (adopts : Adopts state next block common dropped added) {hash : Hash}
    (isCanonical : next.canonical (number + 1) = some hash) :
    ∃ found, next.blocks hash (number + 1) = some found ∧
      next.canonical number = some found.parentHash := by
  have recorded := wellFormed.recorded
  rw [adopts.sameBlocks]
  by_cases low : number + 1 ≤ common.number
  · rw [adopts.kept _ low] at isCanonical
    obtain ⟨found, isFound, below⟩ := wellFormed.headLinked.linked _ _ isCanonical
    exact ⟨found, isFound, (adopts.kept _ (by omega)).trans below⟩
  by_cases high : number + 1 ≤ block.number
  · obtain ⟨child, member, isNumber⟩ := adopts.isAdded.exists_height
      recorded.parent_number (not_le.1 low) high
    have childStored : state.IsStored child :=
      adopts.isAdded.descends_mem (fun above below isParent _ =>
          (recorded.parent_stored above below isParent).1)
        isStored member
    have childHash : hash = child.hash := by
      rw [← isNumber, adopts.placed child member] at isCanonical
      exact (Option.some.inj isCanonical).symm
    refine ⟨child, ?_, ?_⟩
    · rw [childHash, ← isNumber]
      exact childStored
    · obtain ⟨below, isParent, placed⟩ := adopts.isAdded.parent_mem member
      have belowNumber := recorded.parent_number _ _ isParent
      obtain ⟨-, belowHash⟩ := recorded.parent_stored _ _ isParent
      obtain rfl : below.number = number := by omega
      rw [← belowHash]
      rcases placed with rfl | inAdded
      · rw [adopts.kept _ le_rfl]
        exact (wellFormed.path_canonical adopts.isDropped).2
      · exact adopts.placed below inAdded
  · rw [adopts.cleared _ (not_le.1 high)] at isCanonical
    cases isCanonical

theorem Adopts.wellFormed (wellFormed : WellFormed pbftBlock state)
    (isStored : state.IsStored block) (adopts : Adopts state next block common dropped added) :
    WellFormed pbftBlock next := by
  refine ⟨wellFormed.recorded.congr adopts.sameBlocks adopts.sameTds, ?_, ?_, ?_, ?_⟩
  · unfold IsStored
    rw [adopts.isCurrent, adopts.sameBlocks]
    exact isStored
  · rw [adopts.isCurrent]
    exact adopts.headCanonical wellFormed
  · intro number above
    rw [adopts.isCurrent] at above
    exact adopts.cleared number above
  · intro number hash isCanonical
    exact adopts.linked wellFormed isStored isCanonical

/-! ## Inserting and deleting -/

theorem records_foldl_insert (blocks : List (Block Hash)) (state : ChainState Hash) :
    (blocks.foldl insert state).blocks = state.blocks ∧
      (blocks.foldl insert state).tds = state.tds := by
  induction blocks generalizing state with
  | nil => exact ⟨rfl, rfl⟩
  | cons first rest inductionHypothesis => exact inductionHypothesis (state.insert first)

theorem canonical_foldl_insert_of_forall_ne {blocks : List (Block Hash)}
    (elsewhere : ∀ other ∈ blocks, other.number ≠ number) (state : ChainState Hash) :
    (blocks.foldl insert state).canonical number = state.canonical number := by
  induction blocks generalizing state with
  | nil => rfl
  | cons first rest inductionHypothesis =>
    have kept := inductionHypothesis (fun other member => elsewhere other (.tail _ member))
      (state.insert first)
    exact kept.trans (Function.update_of_ne (elsewhere first List.mem_cons_self).symm _ _)

theorem canonical_foldl_insert_of_mem {blocks : List (Block Hash)} {member : Block Hash}
    (isMember : member ∈ blocks)
    (only : ∀ other ∈ blocks, other.number = member.number → other = member)
    (state : ChainState Hash) :
    (blocks.foldl insert state).canonical member.number = some member.hash := by
  induction blocks generalizing state with
  | nil => cases isMember
  | cons first rest inductionHypothesis =>
    by_cases again : member ∈ rest
    · exact inductionHypothesis again (fun other inRest => only other (.tail _ inRest))
        (state.insert first)
    have isFirst : member = first := by
      rcases List.mem_cons.1 isMember with isFirst | inRest
      · exact isFirst
      · exact absurd inRest again
    have elsewhere : ∀ other ∈ rest, other.number ≠ member.number := by
      intro other inRest sameNumber
      rw [only other (.tail _ inRest) sameNumber] at inRest
      exact again inRest
    have kept := canonical_foldl_insert_of_forall_ne elsewhere (state.insert first)
    rw [isFirst] at kept ⊢
    exact kept.trans (Function.update_self _ _ _)

theorem canonical_deleteAbove_of_le (le : number ≤ state.current.number) :
    state.deleteAbove.canonical number = state.canonical number :=
  if_neg (fun above => absurd above.1 (not_lt.2 le))

theorem canonical_deleteAbove_of_gt (above : state.current.number < number)
    (noGap : (state.canonical number).isSome = true →
      ∀ other, state.current.number < other → other ≤ number →
        (state.canonical other).isSome = true) :
    state.deleteAbove.canonical number = none := by
  cases found : state.canonical number with
  | none =>
    unfold deleteAbove
    dsimp only
    split
    · rfl
    · exact found
  | some hash =>
    refine if_pos ⟨above, List.all_eq_true.2 ?_⟩
    intro other inRange
    rw [List.mem_range] at inRange
    by_cases low : other < state.current.number
    · simp [low]
    have isSome := noGap (by rw [found]; rfl) (other + 1) (by omega) (by omega)
    rw [isSome, Bool.or_true]

/-- The state after `reorg`, without the new head. -/
def rearranged (state : ChainState Hash) (added : List (Block Hash)) : ChainState Hash :=
  (added.tail.reverse.foldl insert state).deleteAbove

/-- Nothing is deleted above the head of an orderly chain. -/
theorem HeadLinked.deleteAbove_eq (headLinked : HeadLinked state) : state.deleteAbove = state := by
  have same : state.deleteAbove.canonical = state.canonical := by
    funext number
    by_cases low : number ≤ state.current.number
    · exact canonical_deleteAbove_of_le low
    · have isNone := headLinked.above number (not_le.mp low)
      unfold deleteAbove
      dsimp only
      rw [isNone, ite_self]
  exact congrArg (fun canonical => { state with canonical := canonical }) same

/-- A child of the adopted head becomes the head. -/
theorem Adopts.insert (recorded : Recorded pbftBlock state) {head : Block Hash}
    (adopts : Adopts state next head common dropped added)
    (isParent : state.parent block = some head) :
    Adopts state (next.insert block) block common dropped (block :: added) := by
  have lower := recorded.parent_number
  have blockNumber := lower _ _ isParent
  have headAbove := adopts.isAdded.height_eq lower
  refine ⟨.up isParent adopts.isAdded, adopts.isDropped, adopts.sameBlocks, adopts.sameTds,
    rfl, ?_, ?_, ?_⟩
  · intro number low
    exact (Function.update_of_ne (by omega) _ _).trans (adopts.kept number low)
  · intro other member
    rcases List.mem_cons.1 member with isBlock | inAdded
    · rw [isBlock]
      exact Function.update_self _ _ _
    · have between := adopts.isAdded.height_mem lower inAdded
      exact (Function.update_of_ne (by omega) _ _).trans (adopts.placed other inAdded)
  · intro number high
    exact (Function.update_of_ne (by omega) _ _).trans (adopts.cleared number (by omega))

theorem Recorded.path_tail (recorded : Recorded pbftBlock state) {top second bottom : Block Hash}
    {rest : List (Block Hash)} (leads : Path state.parent top (top :: second :: rest) bottom) :
    Path state.parent second (second :: rest) bottom ∧ top.number = second.number + 1 := by
  cases leads with
  | up isParent rest =>
    have step := recorded.parent_number _ _ isParent
    cases rest with
    | up isNext rest => exact ⟨.up isNext rest, step⟩

theorem canonical_insert_path_outside (recorded : Recorded pbftBlock state)
    {top bottom : Block Hash} {path : List (Block Hash)} (leads : Path state.parent top path bottom)
    (outside : number ≤ bottom.number ∨ top.number < number) :
    (path.reverse.foldl insert state).canonical number = state.canonical number := by
  refine canonical_foldl_insert_of_forall_ne ?_ state
  intro other member
  have between := leads.height_mem recorded.parent_number (List.mem_reverse.1 member)
  omega

theorem canonical_insert_path_mem (recorded : Recorded pbftBlock state)
    {top bottom member : Block Hash} {path : List (Block Hash)}
    (leads : Path state.parent top path bottom) (isMember : member ∈ path) :
    (path.reverse.foldl insert state).canonical member.number = some member.hash := by
  refine canonical_foldl_insert_of_mem (List.mem_reverse.2 isMember) ?_ state
  intro other otherMember sameNumber
  exact leads.eq_of_height_eq recorded.parent_number
    (List.mem_reverse.1 otherMember) isMember sameNumber

/-- The blocks below the new one become canonical, and the first of them is the head. -/
theorem adopts_rearranged (wellFormed : WellFormed pbftBlock state) {second : Block Hash}
    {rest : List (Block Hash)} (isAdded : Path state.parent block (block :: second :: rest) common)
    (isDropped : Path state.parent state.current dropped common) :
    Adopts state (state.rearranged (block :: second :: rest)) second common dropped
      (second :: rest) := by
  have lower := wellFormed.recorded.parent_number
  obtain ⟨tailLeads, blockNumber⟩ := wellFormed.recorded.path_tail isAdded
  have secondAbove := (tailLeads.height_mem lower List.mem_cons_self).1
  have inserted : ((second :: rest).reverse.foldl insert state).current = second := by
    rw [List.reverse_cons, List.foldl_append]
    rfl
  obtain ⟨sameBlocks, sameTds⟩ := records_foldl_insert (second :: rest).reverse state
  refine ⟨tailLeads, isDropped, sameBlocks, sameTds, inserted, ?_, ?_, ?_⟩
  · intro number low
    refine (canonical_deleteAbove_of_le ?_).trans
      (canonical_insert_path_outside wellFormed.recorded tailLeads (Or.inl low))
    rw [List.tail_cons, inserted]
    omega
  · intro other member
    have between := tailLeads.height_mem lower member
    refine (canonical_deleteAbove_of_le ?_).trans
      (canonical_insert_path_mem wellFormed.recorded tailLeads member)
    rw [List.tail_cons, inserted]
    exact between.2
  · intro number high
    have outside {level : Nat} (above : second.number < level) :=
      canonical_insert_path_outside wellFormed.recorded tailLeads (Or.inr above)
    refine canonical_deleteAbove_of_gt ?_ ?_
    · rw [List.tail_cons, inserted]
      exact high
    · rw [List.tail_cons, inserted]
      intro isSome level aboveSecond notAbove
      rw [outside high] at isSome
      rw [outside aboveSecond]
      exact wellFormed.headLinked.canonical_of_le notAbove isSome

theorem adopts_extension (wellFormed : WellFormed pbftBlock state)
    (isParent : state.parent block = some state.current) :
    Adopts state (state.insert block) block state.current [] [block] := by
  have stays : Adopts state state state.current state.current [] [] :=
    ⟨.here _, .here _, rfl, rfl, rfl, fun _ _ => rfl, fun _ member => absurd member (by simp),
      wellFormed.headLinked.above⟩
  exact stays.insert wellFormed.recorded isParent

/-- The new block is adopted together with the blocks below it. -/
theorem adopts_reorganised_several (wellFormed : WellFormed pbftBlock state) {second : Block Hash}
    {rest : List (Block Hash)} (isAdded : Path state.parent block (block :: second :: rest) common)
    (isDropped : Path state.parent state.current dropped common) :
    Adopts state ((state.rearranged (block :: second :: rest)).insert block)
      block common dropped (block :: second :: rest) := by
  have isParent : state.parent block = some second := by
    cases isAdded with
    | up isParent rest =>
      cases rest
      exact isParent
  exact (adopts_rearranged wellFormed isAdded isDropped).insert wellFormed.recorded isParent

/-- A new block beside the head takes its place. -/
theorem adopts_reorganised_single (wellFormed : WellFormed pbftBlock state)
    (isAdded : Path state.parent block [block] common)
    (isDropped : Path state.parent state.current dropped common)
    (notHigher : state.current.number ≤ block.number) :
    Adopts state ((state.rearranged [block]).insert block) block common dropped [block] := by
  have lower := wellFormed.recorded.parent_number
  have blockAbove := (isAdded.height_mem lower List.mem_cons_self).1
  have unchanged : state.rearranged [block] = state := wellFormed.headLinked.deleteAbove_eq
  rw [unchanged]
  refine ⟨isAdded, isDropped, rfl, rfl, rfl, ?_, ?_, ?_⟩
  · intro number low
    exact Function.update_of_ne (by omega) _ _
  · intro other member
    rw [List.mem_singleton.1 member]
    exact Function.update_self _ _ _
  · intro number high
    exact (Function.update_of_ne (by omega) _ _).trans
      (wellFormed.headLinked.above number (by omega))

/-! ## The choice of the head -/

theorem prefers_le {settings : Settings} {context : WriteContext Hash} {current : Block Hash}
    {externTd localTd : Nat}
    (preferred : prefers settings context current block externTd localTd = true) :
    localTd ≤ externTd := by
  unfold prefers at preferred
  split at preferred
  · omega
  split at preferred
  · omega
  · cases preferred

theorem Recorded.length_le (recorded : Recorded pbftBlock state) (isStored : state.IsStored block)
    {current : Block Hash} (currentStored : state.IsStored current)
    (isAdded : Path state.parent block added common)
    (isDropped : Path state.parent current dropped common)
    (isPbft : isForked pbftBlock (common.number + 1) = true)
    (heavier : state.td current ≤ state.td block) : dropped.length ≤ added.length := by
  have addedTd := recorded.td_path isAdded isStored isPbft
  have droppedTd := recorded.td_path isDropped currentStored isPbft
  omega

section

variable (wellFormed : WellFormed pbftBlock state) {settings : Settings}
  (isPbftEngine : settings.isPbftEngine = true) (isPbft : isForked pbftBlock block.number = true)
  (isStored : state.IsStored block) {context : WriteContext Hash}
  (preferred : prefers settings context state.current block (state.td block) (state.td state.current) = true)
  (isAdded : Path state.parent block added common)
  (isDropped : Path state.parent state.current dropped common)

include wellFormed isPbftEngine isPbft isStored preferred isAdded isDropped

theorem added_ne_nil : added ≠ [] := by
  intro isNil
  subst isNil
  cases isAdded
  have noneDropped := wellFormed.recorded.length_le isStored
    wellFormed.headLinked.isHead (.here block) isDropped
    (isForked_mono isPbft (Nat.le_succ _)) (prefers_le preferred)
  have isNil : dropped = [] := List.length_eq_zero_iff.1 (Nat.le_zero.1 noneDropped)
  subst isNil
  generalize state.current = current at preferred isDropped
  cases isDropped
  simp [prefers, isPbftEngine] at preferred

theorem adopts_reorganised :
    Adopts state ((state.rearranged added).insert block) block common dropped added := by
  have lower := wellFormed.recorded.parent_number
  have nonempty := added_ne_nil wellFormed isPbftEngine isPbft isStored preferred isAdded isDropped
  cases added with
  | nil => exact absurd rfl nonempty
  | cons first rest =>
    obtain rfl : first = block := by
      cases isAdded
      rfl
    cases rest with
    | nil =>
      refine adopts_reorganised_single wellFormed isAdded isDropped ?_
      have addedLength : first.number = common.number + 1 := isAdded.height_eq lower
      have droppedLength := isDropped.height_eq lower
      have shorter := wellFormed.recorded.length_le isStored
        wellFormed.headLinked.isHead isAdded isDropped (addedLength ▸ isPbft) (prefers_le preferred)
      rw [List.length_singleton] at shorter
      omega
    | cons second rest => exact adopts_reorganised_several wellFormed isAdded isDropped

/--
Without its last step a reorganisation changes nothing, or its head is the parent of the new block.
-/
theorem rearranged_cases :
    state.rearranged added = state ∨ ∃ head rest,
      Adopts state (state.rearranged added) head common dropped rest ∧ state.IsStored head ∧
        block.number = head.number + 1 := by
  have nonempty := added_ne_nil wellFormed isPbftEngine isPbft isStored preferred isAdded isDropped
  cases added with
  | nil => exact absurd rfl nonempty
  | cons first rest =>
    cases rest with
    | nil => exact .inl wellFormed.headLinked.deleteAbove_eq
    | cons second rest =>
      obtain rfl : first = block := by
        cases isAdded
        rfl
      obtain ⟨-, blockNumber⟩ := wellFormed.recorded.path_tail isAdded
      have secondStored : state.IsStored second :=
        isAdded.descends_mem (fun above below isParent _ =>
            (wellFormed.recorded.parent_stored above below isParent).1)
          isStored (List.mem_cons_of_mem _ List.mem_cons_self)
      exact .inr ⟨second, second :: rest, adopts_rearranged wellFormed isAdded isDropped,
        secondStored, blockNumber⟩

end

/-! ## Final blocks -/

def HasSuccessors (state : ChainState Hash) (block : Block Hash) (count : Nat) : Prop :=
  ∀ distance, distance ≤ count → (state.canonical (block.number + distance)).isSome = true

structure Finalised (state : ChainState Hash) (block : Block Hash) : Prop where
  isCanonical : state.canonical block.number = some block.hash
  successors : HasSuccessors state block 5

theorem Finalised.head_le (headLinked : HeadLinked state) (finalised : Finalised state block) :
    block.number + 5 ≤ state.current.number := by
  by_contra low
  have isSome := finalised.successors 5 le_rfl
  rw [headLinked.above _ (not_le.1 low)] at isSome
  cases isSome

/-! ## One write -/

theorem finishWrite_cases (context : WriteContext Hash) (state : ChainState Hash)
    (block : Block Hash) :
    (state.finishWrite context block .canonStatTy).1 = state.insert block ∨
      context.batchErr ≠ none ∧ (state.finishWrite context block .canonStatTy).1 = state := by
  unfold finishWrite
  cases failed : context.batchErr with
  | none => exact .inl rfl
  | some reason => exact .inr ⟨by simp, rfl⟩

theorem finishWrite_side (context : WriteContext Hash) (state : ChainState Hash)
    (block : Block Hash) : (state.finishWrite context block .sideStatTy).1 = state := by
  unfold finishWrite
  cases context.batchErr <;> rfl

section

variable [DecidableEq Hash] {settings : Settings}
variable {context : WriteContext Hash}

/--
Where a write leaves the chain: as it was, with the block stored, with the block on top of the
head, or reorganised; a reorganisation whose batch fails has not got its new head.
-/
theorem writeBlockWithState_cases (settings : Settings) (context : WriteContext Hash)
    (state : ChainState Hash) (block : Block Hash) :
    (writeBlockWithState settings context state block).1 = state ∨
      ∃ ptd, state.parentTd block = some ptd ∧
        ((writeBlockWithState settings context state block).1 =
            state.write block (block.difficulty + ptd) ∨
          ∃ localTd, state.tds state.current.hash state.current.number = some localTd ∧
              prefers settings context state.current block (block.difficulty + ptd) localTd = true ∧
              (block.parentHash = state.current.hash ∧
                  (writeBlockWithState settings context state block).1 =
                    (state.write block (block.difficulty + ptd)).insert block ∨
                ∃ reorganised, (state.write block (block.difficulty + ptd)).reorg
                      settings state.current block = .ok reorganised ∧
                    ((writeBlockWithState settings context state
                      block).1 = reorganised.insert block ∨
                    context.batchErr ≠ none ∧
                      (writeBlockWithState settings context state block).1 = reorganised))) := by
  unfold writeBlockWithState
  cases hasPtd : state.parentTd block with
  | none => exact Or.inl rfl
  | some ptd =>
    refine Or.inr ⟨ptd, rfl, ?_⟩
    dsimp only
    split
    · exact Or.inl rfl
    split
    · exact Or.inl rfl
    split
    · exact Or.inl rfl
    next localTd hasTd =>
      split
      · next preferred =>
          split
          · split
            · exact Or.inl rfl
            next reorganised isReorganised =>
              exact Or.inr ⟨localTd, hasTd, preferred, Or.inr ⟨reorganised, isReorganised,
                finishWrite_cases context reorganised block⟩⟩
          · next sameHash =>
              rcases finishWrite_cases context
                (state.write block (block.difficulty + ptd)) block with extended | ⟨-, stored⟩
              · exact Or.inr ⟨localTd, hasTd, preferred, Or.inl ⟨not_not.1 sameHash, extended⟩⟩
              · exact Or.inl stored
      · exact Or.inl (finishWrite_side context _ block)

theorem reorg_ok {reorganisedState : ChainState Hash} {oldBlock : Block Hash}
    (isPbft : isForked settings.pbftBlock block.number = true)
    (hasSigners : 0 < settings.signersCount)
    (accepted : state.reorg settings oldBlock block = .ok reorganisedState) :
    ∃ dropped added common, state.reorgChains oldBlock block = .ok (dropped, added, common) ∧
        dropped.length < irreversibleHeight ∧ reorganisedState = state.rearranged added := by
  unfold reorg at accepted
  split at accepted
  · cases accepted
  next dropped added common found =>
    split at accepted
    · cases accepted
    next notRefused =>
      cases accepted
      refine ⟨dropped, added, common, found, ?_, rfl⟩
      by_contra tooLong
      unfold dropRefused at notRefused
      rw [if_neg (by simp [isPbft]), if_pos ⟨hasSigners, not_lt.1 tooLong⟩] at notRefused
      cases notRefused

structure ProperBlock (settings : Settings) (block : Block Hash) : Prop where
  isPbft : isForked settings.pbftBlock block.number = true
  difficulty : block.difficulty = 2

def written (state : ChainState Hash) (block : Block Hash) (ptd : Nat) : ChainState Hash :=
  state.write block (block.difficulty + ptd)

theorem WellFormed.written (wellFormed : WellFormed settings.pbftBlock state) {ptd : Nat}
    (proper : ProperBlock settings block) (identifies : state.Identifies block)
    (hasParentTd : state.parentTd block = some ptd) :
    WellFormed settings.pbftBlock (state.written block ptd) :=
  ⟨wellFormed.recorded.write identifies hasParentTd (fun _ => proper.difficulty),
    wellFormed.headLinked.write identifies _⟩

theorem td_written (state : ChainState Hash) (block : Block Hash) (ptd : Nat) :
    (state.written block ptd).td block = block.difficulty + ptd := by
  have stored : (state.written block ptd).tds block.hash block.number =
      some (block.difficulty + ptd) :=
    if_pos ⟨rfl, rfl⟩
  unfold td
  rw [stored]
  rfl

theorem td_current_written (wellFormed : WellFormed pbftBlock state) {ptd localTd : Nat}
    (identifies : state.Identifies block) (hasParentTd : state.parentTd block = some ptd)
    (hasTd : state.tds state.current.hash state.current.number = some localTd) :
    (state.written block ptd).td state.current = localTd := by
  have kept : (state.written block ptd).tds state.current.hash
      state.current.number = some localTd :=
    tds_write_of_stored wellFormed.recorded identifies hasParentTd hasTd
  unfold td
  rw [kept]
  rfl

theorem parent_written_of_onHead (wellFormed : WellFormed pbftBlock state) {ptd : Nat}
    (identifies : state.Identifies block) (hasParentTd : state.parentTd block = some ptd)
    (onHead : block.parentHash = state.current.hash) :
    (state.written block ptd).parent block = some state.current := by
  obtain ⟨number, isSucc, hasPtd⟩ := parentTd_eq_some_iff.1 hasParentTd
  rw [onHead] at hasPtd
  obtain ⟨found, isFound⟩ := wellFormed.recorded.backed _ _ _ hasPtd
  have sameNumber := wellFormed.recorded.identified _ _ _ _ _ isFound wellFormed.headLinked.isHead
  refine parent_eq_some_iff.2 ⟨number, isSucc, ?_⟩
  rw [onHead, sameNumber]
  exact blocks_write_of_stored identifies wellFormed.headLinked.isHead

/--
The head moves to the written block, which weighs at least as much as the old head, or, where the
batch fails, to its parent.
-/
def MovesTo (context : WriteContext Hash) (state : ChainState Hash) (block head : Block Hash) :
    Prop :=
  (head = block ∧ state.td state.current ≤ state.td block) ∨
    (context.batchErr ≠ none ∧ block.number = head.number + 1)

theorem writeBlockWithState_step (isPbftEngine : settings.isPbftEngine = true)
    (hasSigners : 0 < settings.signersCount) (wellFormed : WellFormed settings.pbftBlock state)
    (proper : ProperBlock settings block) (identifies : state.Identifies block)
    (context : WriteContext Hash) :
    (writeBlockWithState settings context state block).1 = state ∨ ∃ ptd,
        WellFormed settings.pbftBlock (state.written block ptd) ∧
          ((writeBlockWithState settings context state block).1 = state.written block ptd ∨
            ∃ head common dropped added, Adopts (state.written block ptd)
                  (writeBlockWithState settings context state block).1 head common dropped added ∧
                (state.written block ptd).IsStored head ∧
                dropped.length < irreversibleHeight ∧
                (state.written block ptd).MovesTo context block head) := by
  rcases writeBlockWithState_cases settings context state block with
    unchanged | ⟨ptd, hasParentTd, outcome⟩
  · exact Or.inl unchanged
  · right
    have formed := wellFormed.written proper identifies hasParentTd
    have isStored : (state.written block ptd).IsStored block := write_stored state block _
    refine ⟨ptd, formed, ?_⟩
    rcases outcome with stored | ⟨localTd, hasTd, preferred, moved⟩
    · exact Or.inl stored
    · have preferredTd : prefers settings context state.current block
          ((state.written block ptd).td block)
          ((state.written block ptd).td state.current) = true := by
        rw [td_written, td_current_written wellFormed identifies hasParentTd hasTd]
        exact preferred
      have heavier := prefers_le preferredTd
      rcases moved with ⟨onHead, extended⟩ | ⟨reorganisedState, accepted, reorganises⟩
      · right
        rw [extended]
        exact ⟨_, _, _, _, adopts_extension formed
          (parent_written_of_onHead wellFormed identifies hasParentTd onHead),
          isStored, Nat.succ_pos 5, .inl ⟨rfl, heavier⟩⟩
      · obtain ⟨dropped, added, common, found, short, isReorganised⟩ :=
          reorg_ok proper.isPbft hasSigners accepted
        obtain ⟨isDropped, isAdded⟩ := reorgChains_path formed.recorded
          formed.headLinked.isHead isStored found
        rcases reorganises with finished | ⟨failed, unfinished⟩
        · right
          rw [finished, isReorganised]
          exact ⟨_, common, dropped, added, adopts_reorganised formed isPbftEngine proper.isPbft
            isStored preferredTd isAdded isDropped, isStored, short, .inl ⟨rfl, heavier⟩⟩
        · rw [unfinished, isReorganised]
          rcases rearranged_cases formed isPbftEngine proper.isPbft isStored preferredTd
            isAdded isDropped with same | ⟨head, rest, adopts, headStored, above⟩
          · exact Or.inl same
          · exact Or.inr ⟨head, common, dropped, rest, adopts, headStored, short,
              .inr ⟨failed, above⟩⟩

/--
The batch of the write does not fail, or the block is higher than the head and a reorganisation
that stops below it does not lower the head.
-/
def BatchKeepsHead (state : ChainState Hash) (block : Block Hash)
    (context : WriteContext Hash) : Prop :=
  context.batchErr = none ∨ state.current.number < block.number

structure Buried (state : ChainState Hash) (block : Block Hash) : Prop where
  isCanonical : state.canonical block.number = some block.hash
  deep : block.number + 5 ≤ state.current.number

theorem Buried.writeBlockWithState (isPbftEngine : settings.isPbftEngine = true)
    (hasSigners : 0 < settings.signersCount) {final : Block Hash}
    (isPbft : isForked settings.pbftBlock final.number = true)
    (wellFormed : WellFormed settings.pbftBlock state) (buried : Buried state final)
    (proper : ProperBlock settings block) (identifies : state.Identifies block)
    (context : WriteContext Hash) (keepsHead : BatchKeepsHead state block context) :
    Buried (state.writeBlockWithState settings context block).1 final := by
  rcases writeBlockWithState_step isPbftEngine hasSigners wellFormed proper identifies context with
    unchanged | ⟨ptd, formed, stored | ⟨head, common, dropped, added, adopts, -, short, moves⟩⟩
  · rw [unchanged]
    exact buried
  · rw [stored]
    exact ⟨buried.isCanonical, buried.deep⟩
  · have isStored : (state.written block ptd).IsStored block := write_stored state block _
    have lower := formed.recorded.parent_number
    have deep : final.number + 5 ≤ (state.written block ptd).current.number := buried.deep
    -- Fewer than six blocks are dropped, so the ancestor is not below.
    have droppedHeight := adopts.isDropped.height_eq lower
    have notBelow : final.number ≤ common.number := by
      unfold irreversibleHeight at short
      omega
    have notSunk : (state.written block ptd).current.number ≤ head.number := by
      rcases moves with ⟨rfl, heavier⟩ | ⟨failed, above⟩
      · -- Above the ancestor all blocks weigh the same, so the head does not sink.
        have longer := formed.recorded.length_le isStored
          formed.headLinked.isHead adopts.isAdded adopts.isDropped
          (isForked_mono isPbft (by omega)) heavier
        have addedHeight := adopts.isAdded.height_eq lower
        omega
      · have higher : state.current.number < block.number := keepsHead.resolve_left failed
        rw [above] at higher
        exact Nat.lt_succ_iff.mp higher
    refine ⟨?_, ?_⟩
    · rw [adopts.kept _ notBelow]
      exact buried.isCanonical
    · rw [adopts.isCurrent]
      exact deep.trans notSunk

variable (isPbftEngine : settings.isPbftEngine = true) (hasSigners : 0 < settings.signersCount)
  (wellFormed : WellFormed settings.pbftBlock state) (proper : ProperBlock settings block)
  (identifies : state.Identifies block) (context : WriteContext Hash)

include isPbftEngine hasSigners wellFormed proper identifies

theorem WellFormed.writeBlockWithState :
    WellFormed settings.pbftBlock (state.writeBlockWithState settings context block).1 := by
  rcases writeBlockWithState_step isPbftEngine hasSigners wellFormed proper identifies context with
    unchanged | ⟨ptd, formed, stored | ⟨_, _, _, _, adopts, isStored, _, _⟩⟩
  · rw [unchanged]
    exact wellFormed
  · rw [stored]
    exact formed
  · exact adopts.wellFormed formed isStored

theorem Identifies.writeBlockWithState
    {other : Block Hash} (otherIdentified : state.Identifies other)
    (distinct : block.hash = other.hash → block = other) :
    (state.writeBlockWithState settings context block).1.Identifies
      other := by
  have afterWrite : ∀ ptd, (state.written block ptd).Identifies
      other := by
    intro ptd number found isFound
    rcases blocks_write_cases isFound with ⟨rfl, sameHash, -⟩ | wasFound
    · exact distinct sameHash.symm
    · exact otherIdentified number found wasFound
  rcases writeBlockWithState_step isPbftEngine hasSigners wellFormed proper identifies context with
    unchanged | ⟨ptd, _, stored | ⟨_, _, _, _, adopts, _, _, _⟩⟩
  · rw [unchanged]
    exact otherIdentified
  · rw [stored]
    exact afterWrite ptd
  · intro number found isFound
    rw [adopts.sameBlocks] at isFound
    exact afterWrite ptd number found isFound

end

end ChainState

/-! ## Whole runs -/

open ChainState

variable [DecidableEq Hash]

/-- A call of `writeBlockWithState`. -/
structure Write (Hash : Type) where
  block : Block Hash
  context : WriteContext Hash

def writeStep (settings : Settings) (state : ChainState Hash)
    (call : Write Hash) : ChainState Hash :=
  (state.writeBlockWithState settings call.context call.block).1

/-- A hash stands for one block among those that are stored or written. -/
structure HashesIdentify (state : ChainState Hash) (calls : List (Write Hash)) : Prop where
  stored : ∀ call ∈ calls, state.Identifies call.block
  written : ∀ first ∈ calls, ∀ second ∈ calls,
    first.block.hash = second.block.hash → first.block = second.block

structure Ready (settings : Settings) (calls : List (Write Hash))
    (state : ChainState Hash) : Prop where
  wellFormed : WellFormed settings.pbftBlock state
  identified : HashesIdentify state calls

theorem Ready.writeStep {settings : Settings} {calls : List (Write Hash)} {state : ChainState Hash}
    (isPbftEngine : settings.isPbftEngine = true) (hasSigners : 0 < settings.signersCount)
    (proper : ∀ call ∈ calls, ProperBlock settings call.block)
    (isReady : Ready settings calls state) {call : Write Hash} (member : call ∈ calls) :
    Ready settings calls (writeStep settings state call) := by
  obtain ⟨wellFormed, stored, written⟩ := isReady
  refine ⟨wellFormed.writeBlockWithState isPbftEngine hasSigners
    (proper call member) (stored call member) call.context, ?_, written⟩
  intro other otherMember
  exact Identifies.writeBlockWithState isPbftEngine hasSigners wellFormed
    (proper call member) (stored call member) call.context (stored other otherMember)
    (written call member other otherMember)

structure Kept (settings : Settings) (calls : List (Write Hash)) (final : Block Hash)
    (state : ChainState Hash) : Prop where
  ready : Ready settings calls state
  buried : Buried state final

theorem Kept.writeStep {settings : Settings} {calls : List (Write Hash)} {final : Block Hash}
    {state : ChainState Hash} (isPbftEngine : settings.isPbftEngine = true)
    (hasSigners : 0 < settings.signersCount)
    (proper : ∀ call ∈ calls, ProperBlock settings call.block)
    (isPbft : isForked settings.pbftBlock final.number = true)
    (kept : Kept settings calls final state) {call : Write Hash} (member : call ∈ calls)
    (keepsHead : BatchKeepsHead state call.block call.context) :
    Kept settings calls final (writeStep settings state call) :=
  ⟨kept.ready.writeStep isPbftEngine hasSigners proper member,
    kept.buried.writeBlockWithState isPbftEngine hasSigners isPbft
      kept.ready.wellFormed (proper call member)
      (kept.ready.identified.stored call member) call.context keepsHead⟩

namespace Sample

def lineBlock (number : Nat) : Block Nat :=
  ⟨number, number - 1, number, 2⟩

def line (top : Nat) : ChainState Nat where
  blocks hash number :=
    if hash = number ∧ number ≤ top then some (lineBlock number)
    else none
  tds hash number :=
    if hash = number ∧ number ≤ top then some (2 * number)
    else none
  canonical number := if number ≤ top then some number else none
  current := lineBlock top

theorem line_wellFormed (pbftBlock : Option Int) (top : Nat) : WellFormed pbftBlock (line top) := by
  refine ⟨⟨?_, ?_, ?_, ?_, ?_, ?_⟩, ?_, ?_, ?_, ?_⟩
  · intro hash number block found
    simp only [line, Option.ite_none_right_eq_some] at found
    obtain ⟨⟨rfl, -⟩, isBlock⟩ := found
    cases isBlock
    exact ⟨rfl, rfl⟩
  · intro hash first second firstBlock secondBlock isFirst isSecond
    simp only [line, Option.ite_none_right_eq_some] at isFirst isSecond
    exact isFirst.1.1.symm.trans isSecond.1.1
  · intro hash number block found
    simp only [line, Option.ite_none_right_eq_some] at found
    exact ⟨2 * number, if_pos found.1⟩
  · intro hash number block found
    simp only [line, Option.ite_none_right_eq_some] at found
    obtain ⟨⟨rfl, low⟩, isBlock⟩ := found
    cases isBlock
    refine ⟨2 * number, if_pos ⟨rfl, by omega⟩, ?_⟩
    refine (if_pos ⟨rfl, low⟩).trans (congrArg some ?_)
    simp only [lineBlock]
    omega
  · intro hash number weight hasTd
    simp only [line, Option.ite_none_right_eq_some] at hasTd
    exact ⟨lineBlock number, if_pos hasTd.1⟩
  · intro hash number block found _
    simp only [line, Option.ite_none_right_eq_some] at found
    rw [← Option.some.inj found.2]
    rfl
  · exact if_pos ⟨rfl, le_rfl⟩
  · exact if_pos le_rfl
  · intro number above
    exact if_neg (not_le.2 above)
  · intro number hash isCanonical
    simp only [line, Option.ite_none_right_eq_some] at isCanonical
    obtain ⟨low, isHash⟩ := isCanonical
    cases isHash
    exact ⟨lineBlock (number + 1), if_pos ⟨rfl, low⟩, if_pos (by omega)⟩

def settings : Settings where
  pbftBlock := some 0
  isPbftEngine := true
  signersCount := 12
  blockSignersCount := 0

def plainWrite (block : Block Nat) : Write Nat where
  block := block
  context := ⟨none, false, none, false, none⟩

/-- A fork of two blocks from the fifth block on, which becomes the head. -/
def fork : List (Write Nat) :=
  [plainWrite ⟨100, 5, 6, 2⟩, plainWrite ⟨101, 100, 7, 2⟩]

instance (settings : Settings) (block : Block Nat) : Decidable (ProperBlock settings block) :=
  decidable_of_iff (isForked settings.pbftBlock block.number = true ∧ block.difficulty = 2)
    ⟨fun both => ⟨both.1, both.2⟩, fun proper => ⟨proper.isPbft, proper.difficulty⟩⟩

end Sample

open Sample

end EscSideChain.BlockChain
