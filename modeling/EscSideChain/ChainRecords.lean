import EscSideChain.AncestorPaths
import EscSideChain.BlockChain

namespace EscSideChain.BlockChain

open EscSideChain.Types AncestorPaths

/-!
# The records of a chain

What the database of a chain keeps in every state: blocks and total difficulties
belong together, and the canonical numbers are the ancestry of the head.  The
chains that a reorganisation walks back are paths to one ancestor, and a written
block leaves the records in order.
-/

variable {Hash : Type}

variable {block bottom : Block Hash} {path : List (Block Hash)} {number weight : Nat} {hash : Hash}

namespace ChainState

/-- The block is stored under its own hash and number. -/
def IsStored (state : ChainState Hash) (block : Block Hash) : Prop :=
  state.blocks block.hash block.number = some block

/-- The total difficulty on record for a block. -/
def td (state : ChainState Hash) (block : Block Hash) : Nat :=
  (state.tds block.hash block.number).getD 0

theorem parent_eq_some_iff {state : ChainState Hash} {block next : Block Hash} :
    state.parent block = some next ↔ ∃ number, block.number = number + 1 ∧
        state.blocks block.parentHash number = some next := by
  unfold parent
  cases block.number with
  | zero => simp
  | succ number => simp

theorem parentTd_eq_some_iff {state : ChainState Hash} {ptd : Nat} :
    state.parentTd block = some ptd ↔ ∃ number, block.number = number + 1 ∧
        state.tds block.parentHash number = some ptd := by
  unfold parentTd
  cases block.number with
  | zero => simp
  | succ number => simp

/-- What block and difficulty records keep to: each sum is its parent's plus its own. -/
structure Recorded (pbftBlock : Option Int) (state : ChainState Hash) : Prop where
  keyed : ∀ hash number block, state.blocks hash number = some block →
      block.hash = hash ∧ block.number = number
  identified : ∀ hash first second firstBlock secondBlock,
    state.blocks hash first = some firstBlock → state.blocks hash second = some secondBlock →
      first = second
  weighed : ∀ hash number block, state.blocks hash number = some block →
      ∃ weight, state.tds hash number = some weight
  summed : ∀ hash number block, state.blocks hash (number + 1) = some block →
      ∃ ptd, state.tds block.parentHash number = some ptd ∧
        state.tds hash (number + 1) = some (block.difficulty + ptd)
  backed : ∀ hash number weight, state.tds hash number = some weight →
      ∃ block, state.blocks hash number = some block
  rated : ∀ hash number block, state.blocks hash number = some block →
      isForked pbftBlock number = true → block.difficulty = 2

/-- The canonical hashes link the head to the genesis block, with none above the head. -/
structure HeadLinked (state : ChainState Hash) : Prop where
  isHead : state.IsStored state.current
  headCanonical : state.canonical state.current.number = some state.current.hash
  above : ∀ number, state.current.number < number → state.canonical number = none
  linked : ∀ number hash, state.canonical (number + 1) = some hash →
    ∃ block, state.blocks hash (number + 1) = some block ∧
      state.canonical number = some block.parentHash

/-- What every state of the chain keeps to. -/
structure WellFormed (pbftBlock : Option Int) (state : ChainState Hash) : Prop where
  recorded : Recorded pbftBlock state
  headLinked : HeadLinked state

variable {pbftBlock : Option Int} {state : ChainState Hash}

theorem isForked_mono {fork : Option Int} {low high : Nat} (isLow : isForked fork low = true)
    (le : low ≤ high) : isForked fork high = true := by
  cases fork with
  | none => cases isLow
  | some block =>
    rw [isForked_some] at isLow ⊢
    omega

/-! ## Ancestry in the database -/

section

variable (recorded : Recorded pbftBlock state)

include recorded

theorem Recorded.parent_number (child next : Block Hash)
    (isParent : state.parent child = some next) : child.number = next.number + 1 := by
  obtain ⟨number, isSucc, found⟩ := parent_eq_some_iff.1 isParent
  rw [(recorded.keyed _ _ _ found).2, isSucc]

theorem Recorded.parent_stored (child next : Block Hash)
    (isParent : state.parent child = some next) :
    state.IsStored next ∧ next.hash = child.parentHash := by
  obtain ⟨number, isSucc, found⟩ := parent_eq_some_iff.1 isParent
  obtain ⟨sameHash, sameNumber⟩ := recorded.keyed _ _ _ found
  refine ⟨?_, sameHash⟩
  unfold IsStored
  rw [sameHash, sameNumber]
  exact found

theorem Recorded.eq_of_hash_eq {first second : Block Hash}
    (firstStored : state.IsStored first) (secondStored : state.IsStored second)
    (sameHash : first.hash = second.hash) : first = second := by
  unfold IsStored at firstStored secondStored
  rw [sameHash] at firstStored
  have sameNumber := recorded.identified _ _ _ _ _ firstStored secondStored
  rw [sameNumber] at firstStored
  exact Option.some.inj (firstStored.symm.trans secondStored)

theorem Recorded.td_parent {child next : Block Hash}
    (isParent : state.parent child = some next) (isStored : state.IsStored child)
    (isPbft : isForked pbftBlock child.number = true) : state.td child = state.td next + 2 := by
  obtain ⟨number, isSucc, found⟩ := parent_eq_some_iff.1 isParent
  obtain ⟨sameHash, sameNumber⟩ := recorded.keyed _ _ _ found
  have rated := recorded.rated _ _ _ isStored isPbft
  unfold IsStored at isStored
  rw [isSucc] at isStored
  obtain ⟨ptd, hasParent, hasOwn⟩ := recorded.summed _ _ _ isStored
  unfold td
  rw [isSucc, hasOwn, sameHash, sameNumber, hasParent, rated]
  exact Nat.add_comm 2 ptd

end

section

variable (recorded : Recorded pbftBlock state) {top bottom : Block Hash}
  (leads : Path state.parent top path bottom) (isStored : state.IsStored top)

include recorded leads isStored

theorem Recorded.td_path (isPbft : isForked pbftBlock (bottom.number + 1) = true) :
    state.td top = state.td bottom + 2 * path.length :=
  leads.weight_eq recorded.parent_number (fun child next isParent _ =>
      (recorded.parent_stored child next isParent).1)
    (fun _ _ isParent isStored above =>
      recorded.td_parent isParent isStored (isForked_mono isPbft above))
    isStored

theorem Recorded.path_stored : state.IsStored bottom :=
  leads.descends (fun child next isParent _ =>
      (recorded.parent_stored child next isParent).1)
    isStored

end

/-- The block is stored, and canonical at its height. -/
def IsCanonical (state : ChainState Hash) (block : Block Hash) : Prop :=
  state.IsStored block ∧ state.canonical block.number = some block.hash

theorem WellFormed.parent_canonical (wellFormed : WellFormed pbftBlock state)
    (child next : Block Hash) (isParent : state.parent child = some next)
    (isCanonical : state.IsCanonical child) : state.IsCanonical next := by
  obtain ⟨childStored, childCanonical⟩ := isCanonical
  obtain ⟨nextStored, nextHash⟩ := wellFormed.recorded.parent_stored child next isParent
  refine ⟨nextStored, ?_⟩
  have isSucc := wellFormed.recorded.parent_number child next isParent
  unfold IsStored at childStored
  rw [isSucc] at childCanonical childStored
  obtain ⟨block, found, parentCanonical⟩ := wellFormed.headLinked.linked _ _ childCanonical
  rw [found] at childStored
  cases childStored
  rw [parentCanonical, nextHash]

theorem WellFormed.path_canonical (wellFormed : WellFormed pbftBlock state)
    (leads : Path state.parent state.current path bottom) : state.IsCanonical bottom :=
  leads.descends wellFormed.parent_canonical
    ⟨wellFormed.headLinked.isHead, wellFormed.headLinked.headCanonical⟩

theorem HeadLinked.canonical_of_le (headLinked : HeadLinked state) {low high : Nat}
    (le : low ≤ high) (isSome : (state.canonical high).isSome = true) :
    (state.canonical low).isSome = true := by
  induction high with
  | zero =>
    rw [Nat.le_zero.1 le]
    exact isSome
  | succ high inductionHypothesis =>
    by_cases isHigh : low = high + 1
    · rw [isHigh]
      exact isSome
    obtain ⟨hash, found⟩ := Option.isSome_iff_exists.1 isSome
    obtain ⟨block, -, below⟩ := headLinked.linked _ _ found
    exact inductionHypothesis (by omega) (by rw [below]; rfl)

/-! ## The chains of a reorganisation -/

theorem walkTo_path (recorded : Recorded pbftBlock state) {target number : Nat}
    {block last : Block Hash} (isNumber : block.number = number)
    (walked : state.walkTo target number block = some (path, last)) :
    Path state.parent block path last ∧ last.number = target := by
  induction number generalizing block path with
  | zero =>
    unfold walkTo at walked
    split at walked
    · next isTarget =>
        cases walked
        exact ⟨.here _, by rw [isNumber, isTarget]⟩
    · cases walked
  | succ number inductionHypothesis =>
    unfold walkTo at walked
    split at walked
    · next isTarget =>
        cases walked
        exact ⟨.here _, by rw [isNumber, isTarget]⟩
    split at walked
    · cases walked
    next next found =>
      split at walked
      · cases walked
      next lower reached further =>
        cases walked
        obtain ⟨leads, reached⟩ := inductionHypothesis (recorded.keyed _ _ _ found).2 further
        exact ⟨.up (parent_eq_some_iff.2 ⟨number, isNumber, found⟩) leads, reached⟩

section

variable [DecidableEq Hash]

theorem meet_path (recorded : Recorded pbftBlock state)
    {oldBlock newBlock common : Block Hash} {oldChain newChain : List (Block Hash)}
    (isOldNumber : oldBlock.number = number) (isNewNumber : newBlock.number = number)
    (oldStored : state.IsStored oldBlock) (newStored : state.IsStored newBlock)
    (met : state.meet number oldBlock newBlock = .ok (oldChain, newChain, common)) :
    Path state.parent oldBlock oldChain common ∧ Path state.parent newBlock newChain common := by
  induction number generalizing oldBlock newBlock oldChain newChain with
  | zero =>
    unfold meet at met
    split at met
    · next sameHash =>
        cases met
        obtain rfl := recorded.eq_of_hash_eq oldStored newStored sameHash
        exact ⟨.here _, .here _⟩
    · cases met
  | succ number inductionHypothesis =>
    unfold meet at met
    split at met
    · next sameHash =>
        cases met
        obtain rfl := recorded.eq_of_hash_eq oldStored newStored sameHash
        exact ⟨.here _, .here _⟩
    · split at met
      · cases met
      next oldParent oldFound =>
        split at met
        · cases met
        next newParent newFound =>
          split at met
          · cases met
          next further =>
            cases met
            have isOldParent : state.parent oldBlock = some oldParent :=
              parent_eq_some_iff.2 ⟨number, isOldNumber, oldFound⟩
            have isNewParent : state.parent newBlock = some newParent :=
              parent_eq_some_iff.2 ⟨number, isNewNumber, newFound⟩
            obtain ⟨oldLeads, newLeads⟩ := inductionHypothesis
              (recorded.keyed _ _ _ oldFound).2 (recorded.keyed _ _ _ newFound).2
              (recorded.parent_stored _ _ isOldParent).1
              (recorded.parent_stored _ _ isNewParent).1 further
            exact ⟨.up isOldParent oldLeads, .up isNewParent newLeads⟩

theorem reorgChains_path (recorded : Recorded pbftBlock state)
    {oldBlock newBlock common : Block Hash} {oldChain newChain : List (Block Hash)}
    (oldStored : state.IsStored oldBlock) (newStored : state.IsStored newBlock)
    (found : state.reorgChains oldBlock newBlock = .ok (oldChain, newChain, common)) :
    Path state.parent oldBlock oldChain common ∧ Path state.parent newBlock newChain common := by
  unfold reorgChains at found
  split at found
  · split at found
    · cases found
    next walked =>
      split at found
      · cases found
      next met =>
        cases found
        obtain ⟨dropped, reached⟩ := walkTo_path recorded rfl walked
        obtain ⟨oldLeads, newLeads⟩ := meet_path recorded reached rfl
          (recorded.path_stored dropped oldStored) newStored met
        exact ⟨dropped.trans oldLeads, newLeads⟩
  · split at found
    · cases found
    next walked =>
      split at found
      · cases found
      next met =>
        cases found
        obtain ⟨added, reached⟩ := walkTo_path recorded rfl walked
        obtain ⟨oldLeads, newLeads⟩ := meet_path recorded rfl reached
          oldStored (recorded.path_stored added newStored) met
        exact ⟨oldLeads, added.trans newLeads⟩

end

/-! ## What a write stores -/

section

variable [DecidableEq Hash]

/-- No other stored block has the hash of this one. -/
def Identifies (state : ChainState Hash) (block : Block Hash) : Prop :=
  ∀ number other, state.blocks block.hash number = some other → other = block

theorem blocks_write_of_ne (other : ¬(hash = block.hash ∧ number = block.number)) :
    (state.write block weight).blocks hash number = state.blocks hash number :=
  if_neg other

theorem tds_write_of_ne (other : ¬(hash = block.hash ∧ number = block.number)) :
    (state.write block weight).tds hash number = state.tds hash number :=
  if_neg other

theorem write_stored (state : ChainState Hash) (block : Block Hash) (weight : Nat) :
    (state.write block weight).IsStored block :=
  if_pos ⟨rfl, rfl⟩

theorem blocks_write_cases {block found : Block Hash}
    (isFound : (state.write block weight).blocks hash number = some found) :
    (found = block ∧ hash = block.hash ∧ number = block.number) ∨
      state.blocks hash number = some found := by
  by_cases same : hash = block.hash ∧ number = block.number
  · left
    have written : (state.write block weight).blocks hash number = some block := if_pos same
    rw [written] at isFound
    exact ⟨(Option.some.inj isFound).symm, same⟩
  · right
    rw [blocks_write_of_ne same] at isFound
    exact isFound

theorem blocks_write_of_stored {block other : Block Hash}
    (identifies : state.Identifies block) (found : state.blocks hash number = some other) :
    (state.write block weight).blocks hash number = some other := by
  by_cases same : hash = block.hash ∧ number = block.number
  · obtain ⟨rfl, rfl⟩ := same
    rw [identifies _ _ found]
    exact write_stored state block weight
  rw [blocks_write_of_ne same]
  exact found

theorem tds_write_of_stored (recorded : Recorded pbftBlock state)
    {ptd weight number : Nat} (identifies : state.Identifies block)
    (hasParentTd : state.parentTd block = some ptd) (found : state.tds hash number = some weight) :
    (state.write block (block.difficulty + ptd)).tds hash number = some weight := by
  by_cases same : hash = block.hash ∧ number = block.number
  · obtain ⟨rfl, sameNumber⟩ := same
    obtain ⟨other, isStored⟩ := recorded.backed _ _ _ found
    obtain rfl := identifies _ _ isStored
    have written : (state.write other (other.difficulty + ptd)).tds
        other.hash number = some (other.difficulty + ptd) :=
      if_pos ⟨rfl, sameNumber⟩
    obtain ⟨below, isSucc, hasPtd⟩ := parentTd_eq_some_iff.1 hasParentTd
    rw [isSucc] at sameNumber
    subst sameNumber
    obtain ⟨storedPtd, hasStoredPtd, hasTd⟩ := recorded.summed _ _ _ isStored
    rw [found] at hasTd
    rw [hasPtd] at hasStoredPtd
    rw [written, hasTd, Option.some.inj hasStoredPtd]
  · rw [tds_write_of_ne same]
    exact found

theorem Recorded.write (recorded : Recorded pbftBlock state) {ptd : Nat}
    (identifies : state.Identifies block) (hasParentTd : state.parentTd block = some ptd)
    (rated : isForked pbftBlock block.number = true → block.difficulty = 2) :
    Recorded pbftBlock (state.write block (block.difficulty + ptd)) := by
  refine ⟨?_, ?_, ?_, ?_, ?_, ?_⟩
  · intro hash number found isFound
    rcases blocks_write_cases isFound with ⟨rfl, rfl, rfl⟩ | wasFound
    · exact ⟨rfl, rfl⟩
    · exact recorded.keyed _ _ _ wasFound
  · intro hash first second firstBlock secondBlock isFirst isSecond
    rcases blocks_write_cases isFirst with ⟨-, rfl, rfl⟩ | wasFirst
    · rcases blocks_write_cases isSecond with ⟨-, -, rfl⟩ | wasSecond
      · rfl
      · obtain rfl := identifies _ _ wasSecond
        exact (recorded.keyed _ _ _ wasSecond).2
    · rcases blocks_write_cases isSecond with ⟨-, rfl, rfl⟩ | wasSecond
      · obtain rfl := identifies _ _ wasFirst
        exact (recorded.keyed _ _ _ wasFirst).2.symm
      · exact recorded.identified _ _ _ _ _ wasFirst wasSecond
  · intro hash number found isFound
    rcases blocks_write_cases isFound with ⟨rfl, rfl, rfl⟩ | wasFound
    · exact ⟨_, if_pos ⟨rfl, rfl⟩⟩
    · obtain ⟨weight, hasTd⟩ := recorded.weighed _ _ _ wasFound
      exact ⟨weight, tds_write_of_stored recorded identifies hasParentTd hasTd⟩
  · intro hash number found isFound
    rcases blocks_write_cases isFound with ⟨rfl, rfl, isSucc⟩ | wasFound
    · obtain ⟨below, isSuccBelow, hasPtd⟩ := parentTd_eq_some_iff.1 hasParentTd
      obtain rfl : below = number := by omega
      refine ⟨ptd, ?_, if_pos ⟨rfl, isSucc⟩⟩
      rw [tds_write_of_ne (by omega)]
      exact hasPtd
    · obtain ⟨storedPtd, hasPtd, hasTd⟩ := recorded.summed _ _ _ wasFound
      exact ⟨storedPtd, tds_write_of_stored recorded identifies hasParentTd hasPtd,
        tds_write_of_stored recorded identifies hasParentTd hasTd⟩
  · intro hash number weight hasTd
    by_cases same : hash = block.hash ∧ number = block.number
    · exact ⟨block, if_pos same⟩
    rw [tds_write_of_ne same] at hasTd
    obtain ⟨found, isFound⟩ := recorded.backed _ _ _ hasTd
    exact ⟨found, blocks_write_of_stored identifies isFound⟩
  · intro hash number found isFound isPbft
    rcases blocks_write_cases isFound with ⟨rfl, rfl, rfl⟩ | wasFound
    · exact rated isPbft
    · exact recorded.rated _ _ _ wasFound isPbft

theorem HeadLinked.write (headLinked : HeadLinked state)
    (identifies : state.Identifies block) (weight : Nat) :
    HeadLinked (state.write block weight) := by
  refine ⟨?_, headLinked.headCanonical, headLinked.above, ?_⟩
  · exact blocks_write_of_stored identifies headLinked.isHead
  · intro number hash isCanonical
    obtain ⟨found, isFound, below⟩ := headLinked.linked _ _ isCanonical
    exact ⟨found, blocks_write_of_stored identifies isFound, below⟩

end

end ChainState

end EscSideChain.BlockChain
