import EscSideChain.BlockFinality
import EscSideChain.ChainInsertion

namespace EscSideChain.BlockChain

open EscSideChain.Types AncestorPaths

/-!
# Headers and finality

`WriteHeader` and `InsertHeaderChain` of `core/headerchain.go`.  A header that is heavier
than the head becomes the head, however far its branch goes back: the limit that `reorg`
sets for blocks is not there.
-/

variable {Hash : Type} [DecidableEq Hash]

namespace ChainState

/--
The loop of `WriteHeader` over the ancestors; it panics if one of them is missing.  Only the
genesis header has the number 0, so a branch that reaches another hash there has none.
-/
def overwrite (blocks : Hash → Nat → Option (Block Hash)) :
    Nat → Hash → (Nat → Option Hash) → Option (Nat → Option Hash)
  | 0, headHash, canonical => if canonical 0 = some headHash then some canonical else none
  | headNumber + 1, headHash, canonical =>
    if canonical (headNumber + 1) = some headHash then some canonical
    else
      match blocks headHash (headNumber + 1) with
      | none => none
      | some headHeader =>
        overwrite blocks headNumber headHeader.parentHash
          (Function.update canonical (headNumber + 1) (some headHash))

/-- The comparison of `WriteHeader`, which leaves equal difficulties to a random number. -/
def heavier (coin : Bool) (externTd localTd : Nat) : Bool :=
  externTd > localTd || (externTd = localTd && coin)

def writeHeader (coin : Bool) (state : ChainState Hash) (header : Block Hash) :
    Except WriteError (ChainState Hash) :=
  match state.parentTd header with
  | none => .error .unknownAncestor
  | some ptd =>
    match state.tds state.current.hash state.current.number with
    | none => .error .nilPointer
    | some localTd =>
      let written := state.written header ptd
      if heavier coin (header.difficulty + ptd) localTd then
        match overwrite written.blocks (header.number - 1) header.parentHash
            { written with current := header }.deleteAbove.canonical with
        | none => .error .nilPointer
        | some canonical => .ok ({ written with canonical }.insert header)
      else .ok written

/-- `InsertHeaderChain` skips a known header that is not heavier than the head. -/
def isIgnored (state : ChainState Hash) (header : Block Hash) : Bool :=
  (state.blocks header.hash header.number).isSome &&
    match state.tds header.hash header.number,
        state.tds state.current.hash state.current.number with
    | some externTd, some localTd => externTd ≤ localTd
    | _, _ => true

/-- The number at which the branch of a header leaves the canonical chain. -/
def forkNumber (state : ChainState Hash) : Nat → Hash → Option Nat
  | 0, hash => if state.canonical 0 = some hash then some 0 else none
  | number + 1, hash =>
    if state.canonical (number + 1) = some hash then some (number + 1)
    else
      match state.blocks hash (number + 1) with
      | none => none
      | some header => forkNumber state number header.parentHash

/-- All branches go back to one genesis header. -/
def Rooted (state : ChainState Hash) : Prop :=
  ∀ hash genesis, state.blocks hash 0 = some genesis → state.canonical 0 = some hash

variable {pbftBlock : Option Int} {state : ChainState Hash} {block header : Block Hash}

omit [DecidableEq Hash] in
theorem Recorded.exists_parent (recorded : Recorded pbftBlock state) {number : Nat}
    (isStored : state.IsStored block) (isSucc : block.number = number + 1) :
    ∃ next, state.parent block = some next ∧ state.IsStored next ∧ next.number = number ∧
      next.hash = block.parentHash := by
  unfold IsStored at isStored
  rw [isSucc] at isStored
  obtain ⟨ptd, hasPtd, -⟩ := recorded.summed _ _ _ isStored
  obtain ⟨next, found⟩ := recorded.backed _ _ _ hasPtd
  have isParent := parent_eq_some_iff.2 ⟨number, isSucc, found⟩
  obtain ⟨nextStored, sameHash⟩ := recorded.parent_stored _ _ isParent
  exact ⟨next, isParent, nextStored, (recorded.keyed _ _ _ found).2, sameHash⟩

/-- What the walk over the ancestors of a stored block finds and writes. -/
structure Walks (state : ChainState Hash) (block common : Block Hash) (path : List (Block Hash)) :
    Prop where
  leads : Path state.parent block path common
  isCanonical : state.IsCanonical common
  leaves : ∀ other ∈ path, state.canonical other.number ≠ some other.hash
  forks : state.forkNumber block.number block.hash = some common.number
  overwrites : ∀ canonical, (∀ number ≤ block.number, canonical number = state.canonical number) →
    ∃ after, overwrite state.blocks block.number block.hash canonical = some after ∧
      (∀ number, number ≤ common.number ∨ block.number < number →
        after number = canonical number) ∧
      ∀ other ∈ path, after other.number = some other.hash

theorem Walks.here (isStored : state.IsStored block)
    (isCanonical : state.canonical block.number = some block.hash) : Walks state block block [] := by
  refine ⟨.here _, ⟨isStored, isCanonical⟩, by simp, ?_, fun canonical same => ⟨canonical, ?_,
    fun _ _ => rfl, by simp⟩⟩
  · cases isNumber : block.number with
    | zero => rw [forkNumber, if_pos (isNumber ▸ isCanonical)]
    | succ number => rw [forkNumber, if_pos (isNumber ▸ isCanonical)]
  · have found := (same block.number le_rfl).trans isCanonical
    cases isNumber : block.number with
    | zero => rw [overwrite, if_pos (isNumber ▸ found)]
    | succ number => rw [overwrite, if_pos (isNumber ▸ found)]

theorem Walks.up {next common : Block Hash} {path : List (Block Hash)}
    (recorded : Recorded pbftBlock state) (isStored : state.IsStored block)
    (isParent : state.parent block = some next) (walks : Walks state next common path)
    (notCanonical : state.canonical block.number ≠ some block.hash) :
    Walks state block common (block :: path) := by
  have isSucc := recorded.parent_number _ _ isParent
  obtain ⟨-, sameHash⟩ := recorded.parent_stored _ _ isParent
  have below := walks.leads.height_eq recorded.parent_number
  have found : state.blocks block.hash (next.number + 1) = some block := isSucc ▸ isStored
  refine ⟨.up isParent walks.leads, walks.isCanonical, ?_, ?_, ?_⟩
  · intro other member
    rcases List.mem_cons.1 member with rfl | inPath
    · exact notCanonical
    · exact walks.leaves other inPath
  · rw [isSucc] at notCanonical ⊢
    rw [forkNumber, if_neg notCanonical, found]
    dsimp only
    rw [← sameHash, walks.forks]
  · intro canonical same
    obtain ⟨after, isAfter, kept, placed⟩ := walks.overwrites
      (Function.update canonical (next.number + 1) (some block.hash)) fun number low => by
        rw [Function.update_of_ne (by omega), same number (by omega)]
    refine ⟨after, ?_, ?_, ?_⟩
    · have differs : canonical (next.number + 1) ≠ some block.hash := by
        rw [same _ (by omega), ← isSucc]
        exact notCanonical
      rw [isSucc, overwrite, if_neg differs, found]
      dsimp only
      rw [← sameHash, isAfter]
    · intro number outside
      rw [kept number (by omega), Function.update_of_ne (by omega)]
    · intro other member
      rcases List.mem_cons.1 member with rfl | inPath
      · rw [kept _ (Or.inr (by omega)), isSucc, Function.update_self]
      · exact placed other inPath

theorem exists_walks (recorded : Recorded pbftBlock state) (rooted : Rooted state)
    (isStored : state.IsStored block) : ∃ common path, Walks state block common path := by
  induction isNumber : block.number generalizing block with
  | zero =>
    have isCanonical : state.canonical block.number = some block.hash := by
      unfold IsStored at isStored
      rw [isNumber] at isStored ⊢
      exact rooted _ _ isStored
    exact ⟨block, [], .here isStored isCanonical⟩
  | succ number inductionHypothesis =>
    by_cases isCanonical : state.canonical block.number = some block.hash
    · exact ⟨block, [], .here isStored isCanonical⟩
    · obtain ⟨next, isParent, nextStored, nextNumber, -⟩ := recorded.exists_parent isStored isNumber
      obtain ⟨common, path, walks⟩ := inductionHypothesis nextStored nextNumber
      exact ⟨common, block :: path, walks.up recorded isStored isParent isCanonical⟩

omit [DecidableEq Hash] in
theorem Recorded.eq_of_canonical (recorded : Recorded pbftBlock state) {other : Block Hash}
    (isBlock : state.IsCanonical block) (isOther : state.IsCanonical other)
    (sameNumber : block.number = other.number) : block = other := by
  have sameHash : block.hash = other.hash :=
    Option.some.inj (isBlock.2.symm.trans (sameNumber ▸ isOther.2))
  exact recorded.eq_of_hash_eq isBlock.1 isOther.1 sameHash

omit [DecidableEq Hash] in
theorem WellFormed.exists_path (wellFormed : WellFormed pbftBlock state) {common top : Block Hash}
    (isCommon : state.IsCanonical common) (isTop : state.IsCanonical top)
    (le : common.number ≤ top.number) : ∃ path, Path state.parent top path common := by
  induction isNumber : top.number generalizing top with
  | zero =>
    rw [wellFormed.recorded.eq_of_canonical isCommon isTop (by omega)]
    exact ⟨[], .here _⟩
  | succ number inductionHypothesis =>
    by_cases sameNumber : common.number = top.number
    · rw [wellFormed.recorded.eq_of_canonical isCommon isTop sameNumber]
      exact ⟨[], .here _⟩
    · obtain ⟨next, isParent, -, nextNumber, -⟩ :=
        wellFormed.recorded.exists_parent isTop.1 isNumber
      have isNext := wellFormed.parent_canonical _ _ isParent isTop
      obtain ⟨path, leads⟩ := inductionHypothesis isNext (by omega) nextNumber
      exact ⟨top :: path, .up isParent leads⟩

omit [DecidableEq Hash] in
/-- The canonical chain leads from its head to each of its blocks. -/
theorem WellFormed.exists_dropped (wellFormed : WellFormed pbftBlock state) {common : Block Hash}
    (isCommon : state.IsCanonical common) :
    ∃ dropped, Path state.parent state.current dropped common := by
  have isHead : state.IsCanonical state.current :=
    ⟨wellFormed.headLinked.isHead, wellFormed.headLinked.headCanonical⟩
  refine wellFormed.exists_path isCommon isHead ?_
  by_contra above
  have isNone := wellFormed.headLinked.above common.number (not_le.1 above)
  rw [isCommon.2] at isNone
  cases isNone

omit [DecidableEq Hash] in
/-- With a new head the numbers above it go and those below it stay. -/
theorem WellFormed.canonical_deleteAbove (wellFormed : WellFormed pbftBlock state)
    (header : Block Hash) (number : Nat) :
    { state with current := header }.deleteAbove.canonical number =
      if number ≤ header.number then state.canonical number else none := by
  split
  next low => exact canonical_deleteAbove_of_le low
  next high =>
    refine canonical_deleteAbove_of_gt (not_le.1 high) fun isSome other _ le => ?_
    exact wellFormed.headLinked.canonical_of_le le isSome

/-- A header that `WriteHeader` makes the head. -/
theorem adopts_header (wellFormed : WellFormed pbftBlock state) (rooted : Rooted state)
    (isStored : state.IsStored header) (notGenesis : header.number ≠ 0) :
    ∃ common dropped added canonical,
      overwrite state.blocks (header.number - 1) header.parentHash
        { state with current := header }.deleteAbove.canonical = some canonical ∧
      Adopts state ({ state with canonical }.insert header) header common dropped added ∧
      state.forkNumber header.number header.hash = some common.number ∧
      ∀ other ∈ added, state.canonical other.number ≠ some other.hash := by
  have recorded := wellFormed.recorded
  obtain ⟨number, isSucc⟩ := Nat.exists_eq_succ_of_ne_zero notGenesis
  obtain ⟨next, isParent, nextStored, rfl, nextHash⟩ := recorded.exists_parent isStored isSucc
  obtain ⟨common, path, walks⟩ := exists_walks recorded rooted nextStored
  have below := walks.leads.height_eq recorded.parent_number
  have deleted := wellFormed.canonical_deleteAbove header
  obtain ⟨canonical, isCanonical, kept, placed⟩ :=
    walks.overwrites _ fun number low => (deleted number).trans (if_pos (by omega))
  rw [isSucc, Nat.succ_sub_one, ← nextHash]
  have cleared : ∀ number, header.number < number →
      Function.update canonical header.number (some header.hash) number = none := by
    intro number high
    rw [Function.update_of_ne (by omega), kept number (Or.inr (by omega)), deleted,
      if_neg (not_le.2 high)]
  by_cases isKnown : state.canonical header.number = some header.hash
  · -- The header is canonical already, so that only what is above it goes.
    obtain ⟨dropped, isDropped⟩ := wellFormed.exists_dropped ⟨isStored, isKnown⟩
    have nextCanonical := wellFormed.parent_canonical _ _ isParent ⟨isStored, isKnown⟩
    have sameEnd : common.number = next.number := by
      cases walks.leads with
      | here => rfl
      | up => exact absurd nextCanonical.2 (walks.leaves _ List.mem_cons_self)
    refine ⟨header, dropped, [], canonical, isCanonical, ⟨.here _, isDropped, rfl, rfl, rfl, ?_, by simp,
      cleared⟩, ?_, by simp⟩
    · intro number low
      by_cases isHeader : number = header.number
      · rw [isHeader, isKnown]
        exact Function.update_self _ _ _
      · have isKept := kept number (Or.inl (by omega))
        rw [deleted, if_pos low] at isKept
        exact (Function.update_of_ne isHeader _ _).trans isKept
    · rw [← isSucc]
      exact (Walks.here isStored isKnown).forks
  · -- The ancestors that are not canonical yet take the places of the dropped blocks.
    obtain ⟨dropped, isDropped⟩ := wellFormed.exists_dropped walks.isCanonical
    have whole := walks.up recorded isStored isParent isKnown
    refine ⟨common, dropped, header :: path, canonical, isCanonical, ⟨whole.leads, isDropped, rfl, rfl,
      rfl, ?_, ?_, cleared⟩, ?_, whole.leaves⟩
    · intro number low
      have isKept := kept number (Or.inl low)
      rw [deleted, if_pos (by omega)] at isKept
      exact (Function.update_of_ne (by omega) _ _).trans isKept
    · intro other member
      rcases List.mem_cons.1 member with rfl | inPath
      · exact Function.update_self _ _ _
      · have between := walks.leads.height_mem recorded.parent_number inPath
        exact (Function.update_of_ne (by omega) _ _).trans (placed other inPath)
    · rw [← isSucc]
      exact whole.forks

/-! ## One header -/

/-- Canonical headers after the fork with five successors stay canonical. -/
def KeepsFinal (settings : Settings) (before after : ChainState Hash) : Prop :=
  ∀ final : Block Hash, isForked settings.pbftBlock final.number = true →
    Finalised before final → after.canonical final.number = some final.hash

/-- A header that becomes the head does not branch off below a final header. -/
def Shallow (settings : Settings) (coin : Bool) (state : ChainState Hash) (header : Block Hash) :
    Prop :=
  ∀ ptd localTd fork, state.parentTd header = some ptd →
    state.tds state.current.hash state.current.number = some localTd →
    heavier coin (header.difficulty + ptd) localTd = true →
    (state.written header ptd).forkNumber header.number header.hash = some fork →
    ∀ number, fork < number → isForked settings.pbftBlock number = true →
      state.current.number < number + 5

variable {settings : Settings} {next : ChainState Hash}

theorem keepsFinal_iff_of_adopts (wellFormed : WellFormed settings.pbftBlock state)
    {common : Block Hash} {dropped added : List (Block Hash)}
    (adopts : Adopts state next header common dropped added)
    (leaves : ∀ other ∈ added, state.canonical other.number ≠ some other.hash) :
    KeepsFinal settings state next ↔ ∀ number, common.number < number →
      isForked settings.pbftBlock number = true → state.current.number < number + 5 := by
  have headLinked := wellFormed.headLinked
  constructor
  · intro keeps number above isPbft
    by_contra deep
    have some : ∀ other ≤ state.current.number, (state.canonical other).isSome = true :=
      fun other le => headLinked.canonical_of_le le (by rw [headLinked.headCanonical]; rfl)
    obtain ⟨hash, isCanonical⟩ := Option.isSome_iff_exists.1 (some number (by omega))
    have kept := keeps ⟨hash, hash, number, 0⟩ isPbft
      ⟨isCanonical, fun distance le => some _ (by simp only; omega)⟩
    simp only at kept
    by_cases high : number ≤ header.number
    · obtain ⟨other, member, isNumber⟩ :=
        adopts.isAdded.exists_height wellFormed.recorded.parent_number above high
      refine leaves other member ?_
      rw [isNumber, isCanonical, ← kept, ← isNumber, adopts.placed other member]
    · rw [adopts.cleared number (not_le.1 high)] at kept
      cases kept
  · intro shallow final isPbft finalised
    have deep := finalised.head_le headLinked
    by_cases above : common.number < final.number
    · have notDeep := shallow final.number above isPbft
      omega
    · rw [adopts.kept _ (not_lt.1 above)]
      exact finalised.isCanonical

theorem Rooted.written (rooted : Rooted state) {ptd : Nat}
    (hasParentTd : state.parentTd header = some ptd) : Rooted (state.written header ptd) := by
  intro hash genesis found
  obtain ⟨number, isSucc, -⟩ := parentTd_eq_some_iff.1 hasParentTd
  rcases blocks_write_cases found with ⟨-, -, isZero⟩ | wasFound
  · omega
  · exact rooted hash genesis wasFound

theorem keepsFinal_written {ptd : Nat} :
    KeepsFinal settings (state.written header ptd) next ↔ KeepsFinal settings state next :=
  ⟨fun keeps final isPbft finalised =>
      keeps final isPbft ⟨finalised.isCanonical, finalised.successors⟩,
    fun keeps final isPbft finalised =>
      keeps final isPbft ⟨finalised.isCanonical, finalised.successors⟩⟩

/-- What a header does to a chain in order, and when it keeps the final headers. -/
theorem writeHeader_ok (wellFormed : WellFormed settings.pbftBlock state) (rooted : Rooted state)
    (proper : ProperBlock settings header) (identifies : state.Identifies header) {coin : Bool}
    (isOk : state.writeHeader coin header = .ok next) :
    ∃ ptd, next.blocks = (state.written header ptd).blocks ∧
      WellFormed settings.pbftBlock next ∧ Rooted next ∧
      (KeepsFinal settings state next ↔ Shallow settings coin state header) := by
  unfold writeHeader at isOk
  split at isOk
  · cases isOk
  next ptd hasParentTd =>
    have formed := wellFormed.written proper identifies hasParentTd
    have stillRooted := rooted.written hasParentTd
    split at isOk
    · cases isOk
    next localTd hasTd =>
      dsimp only at isOk
      split at isOk
      next isHeavier =>
        obtain ⟨number, isSucc, -⟩ := parentTd_eq_some_iff.1 hasParentTd
        obtain ⟨common, dropped, added, canonical, overwrites, adopts, forks, leaves⟩ :=
          adopts_header formed stillRooted (write_stored state header _) (by omega)
        rw [overwrites] at isOk
        cases isOk
        refine ⟨ptd, rfl, adopts.wellFormed formed (write_stored state header _), ?_, ?_⟩
        · intro hash genesis found
          rw [adopts.kept 0 (Nat.zero_le _)]
          exact stillRooted hash genesis found
        · rw [← keepsFinal_written, keepsFinal_iff_of_adopts formed adopts leaves]
          constructor
          · intro shallow otherPtd otherTd fork isPtd isTd _ isFork
            cases hasParentTd.symm.trans isPtd
            cases forks.symm.trans isFork
            exact shallow
          · intro shallow
            exact shallow ptd localTd common.number hasParentTd hasTd isHeavier forks
      next notHeavier =>
        cases isOk
        refine ⟨ptd, rfl, formed, stillRooted, iff_of_true (fun final _ finalised => ?_) ?_⟩
        · exact finalised.isCanonical
        · intro otherPtd otherTd fork isPtd isTd isHeavier
          cases hasParentTd.symm.trans isPtd
          cases hasTd.symm.trans isTd
          exact absurd isHeavier notHeavier

end ChainState

/-! ## Whole runs -/

open ChainState

/-- A header that was written, with the chain before and after it. -/
structure HeaderWrite (Hash : Type) where
  before : ChainState Hash
  header : Block Hash
  coin : Bool
  after : ChainState Hash

/-- The chain, and for the record what was written. -/
structure Traced (Hash : Type) where
  chain : ChainState Hash
  writes : List (HeaderWrite Hash)

/-- A call of `InsertHeaderChain`, with the verdicts on the headers and the numbers drawn. -/
structure ImportCall (Hash : Type) where
  batch : List (Block Hash)
  verifyErr : List (Block Hash) → Block Hash → Option BatchError
  badHashes : Hash → Bool
  procInterrupt : Bool → List (Block Hash) → Bool
  coin : Block Hash → Bool

def ImportCall.answers (settings : Settings) (call : ImportCall Hash) :
    HeaderAnswers Hash (Traced Hash) where
  settings := settings
  verifyErr := call.verifyErr
  badHashes := call.badHashes
  isIgnored traced header := traced.chain.isIgnored header
  writeHeader traced header :=
    match traced.chain.writeHeader (call.coin header) header with
    | .error err => .error (.write err)
    | .ok after => .ok
      { chain := after
        writes := traced.writes ++ [⟨traced.chain, header, call.coin header, after⟩] }
  procInterrupt := call.procInterrupt

def importStep (settings : Settings) (traced : Traced Hash) (call : ImportCall Hash) : Traced Hash :=
  (insertHeaderChain (call.answers settings) traced call.batch).state

section Invariant

variable {State : Type} {answers : HeaderAnswers Hash State} {invariant : State → Prop}
  {batch : List (Block Hash)}

/-- Writing any of the headers keeps the invariant. -/
def Preserves (answers : HeaderAnswers Hash State) (invariant : State → Prop)
    (headers : List (Block Hash)) : Prop :=
  ∀ state, ∀ header ∈ headers, ∀ next, answers.writeHeader state header = .ok next →
    invariant state → invariant next

omit [DecidableEq Hash] in
theorem Preserves.mono {headers others : List (Block Hash)}
    (preserved : Preserves answers invariant headers) (subset : others ⊆ headers) :
    Preserves answers invariant others :=
  fun state header member => preserved state header (subset member)

omit [DecidableEq Hash] in
theorem writeHeaders_invariant {rest : List (Block Hash)} {state : State}
    (preserved : Preserves answers invariant rest)
    (initially : invariant state) : invariant (writeHeaders answers batch state rest).state := by
  induction rest generalizing state with
  | nil => exact initially
  | cons header rest inductionHypothesis =>
    have later : ∀ state, invariant state →
        invariant (writeHeaders answers batch state rest).state :=
      fun _ => inductionHypothesis (preserved.mono (List.subset_cons_self header rest))
    rw [writeHeaders]
    split
    · exact initially
    split
    · exact later state initially
    split
    · exact initially
    next written isWritten =>
      exact later written (preserved state header List.mem_cons_self written isWritten initially)

omit [DecidableEq Hash] in
theorem validateHeaders_state (state : State) (rest : List (Block Hash)) :
    (validateHeaders answers batch state rest).state = state := by
  induction rest with
  | nil => rfl
  | cons header rest inductionHypothesis =>
    rw [validateHeaders]
    split
    · rfl
    split
    · rfl
    split
    · rfl
    · exact inductionHypothesis

theorem insertBlockHeaders_invariant {state : State}
    (preserved : Preserves answers invariant batch)
    (initially : invariant state) : invariant (insertBlockHeaders answers state batch).state := by
  unfold insertBlockHeaders
  split
  · exact initially
  dsimp only
  split
  · rw [validateHeaders_state]
    exact initially
  · exact writeHeaders_invariant preserved initially

theorem insertHeaderChain_invariant {state : State}
    (preserved : Preserves answers invariant batch)
    (initially : invariant state) : invariant (insertHeaderChain answers state batch).state := by
  unfold insertHeaderChain
  split
  · exact insertBlockHeaders_invariant preserved initially
  next limit _ =>
    -- The headers up to the fork go to one engine, the others to the other.
    have clique := insertBlockHeaders_invariant (preserved.mono (List.take_subset limit batch))
      initially
    have pbft := insertBlockHeaders_invariant (preserved.mono (List.drop_subset limit batch)) clique
    dsimp only
    split
    · exact clique
    split
    · exact pbft
    · exact pbft

end Invariant

/-- A hash stands for one header among those that are stored or imported. -/
structure HeadersIdentify (state : ChainState Hash) (calls : List (ImportCall Hash)) : Prop where
  stored : ∀ call ∈ calls, ∀ header ∈ call.batch, state.Identifies header
  imported : ∀ first ∈ calls, ∀ second ∈ calls, ∀ header ∈ first.batch, ∀ other ∈ second.batch,
    header.hash = other.hash → header = other

/-- The chain is in order, and every write has kept the final headers exactly if it was shallow. -/
structure Judged (settings : Settings) (calls : List (ImportCall Hash)) (traced : Traced Hash) :
    Prop where
  wellFormed : WellFormed settings.pbftBlock traced.chain
  rooted : Rooted traced.chain
  identified : HeadersIdentify traced.chain calls
  writes : ∀ write ∈ traced.writes, (KeepsFinal settings write.before write.after ↔
    Shallow settings write.coin write.before write.header)

theorem Judged.importStep {settings : Settings} {calls : List (ImportCall Hash)}
    {traced : Traced Hash} {call : ImportCall Hash} (member : call ∈ calls)
    (proper : ∀ call ∈ calls, ∀ header ∈ call.batch, ProperBlock settings header)
    (judged : Judged settings calls traced) :
    Judged settings calls (importStep settings traced call) := by
  refine insertHeaderChain_invariant (fun traced header inBatch next isOk judged => ?_) judged
  obtain ⟨wellFormed, rooted, identified, writes⟩ := judged
  simp only [ImportCall.answers] at isOk
  split at isOk
  · cases isOk
  next after written =>
    cases isOk
    obtain ⟨ptd, sameBlocks, formed, stillRooted, judgedWrite⟩ := writeHeader_ok wellFormed rooted
      (proper call member header inBatch) (identified.stored call member header inBatch) written
    refine ⟨formed, stillRooted, ⟨fun other otherMember otherHeader inOther number found isFound => ?_,
      identified.imported⟩, ?_⟩
    · simp only [sameBlocks] at isFound
      rcases blocks_write_cases isFound with ⟨rfl, sameHash, -⟩ | wasFound
      · exact identified.imported call member other otherMember _ inBatch _ inOther sameHash.symm
      · exact identified.stored other otherMember otherHeader inOther number found wasFound
    · intro write isWrite
      rcases List.mem_append.1 isWrite with isOld | isNew
      · exact writes write isOld
      · rw [List.mem_singleton.1 isNew]
        exact judgedWrite

/--
From every chain in order, in every run of header imports after the PBFT height: the final
headers are kept by every write exactly if no header that becomes the head branches off
below one of them.
-/
theorem headers_keep_final_iff (settings : Settings) (state : ChainState Hash)
    (wellFormed : WellFormed settings.pbftBlock state) (rooted : Rooted state)
    (calls : List (ImportCall Hash))
    (proper : ∀ call ∈ calls, ∀ header ∈ call.batch, ProperBlock settings header)
    (identified : HeadersIdentify state calls) :
    (∀ write ∈ (EventRuns.run (importStep settings) ⟨state, []⟩ calls).writes,
        KeepsFinal settings write.before write.after) ↔
      ∀ write ∈ (EventRuns.run (importStep settings) ⟨state, []⟩ calls).writes,
        Shallow settings write.coin write.before write.header := by
  have judged : Judged settings calls (EventRuns.run (importStep settings) ⟨state, []⟩ calls) := by
    refine EventRuns.run_invariant_of_mem ?_ ⟨wellFormed, rooted, identified, by simp⟩
    exact fun _ _ member judged => judged.importStep member proper
  exact forall₂_congr judged.writes

namespace Sample

/-- A branch of eight headers that leaves a line of ten after the third. -/
def longBranch : ImportCall Nat where
  batch := (List.range 8).map fun place =>
    ⟨104 + place, if place = 0 then 3 else 103 + place, 4 + place, 2⟩
  verifyErr _ _ := none
  badHashes _ := false
  procInterrupt _ _ := false
  coin _ := false

/-- A header on top of the line. -/
def onward : ImportCall Nat :=
  { longBranch with batch := [⟨111, 10, 11, 2⟩] }

end Sample

open Sample in
/-- The long branch is not shallow; one more header on the line is, and keeps what is final. -/
theorem headers_keep_final_iff_longBranch :
    ((∀ write ∈ (EventRuns.run (importStep Sample.settings) ⟨line 10, []⟩ [longBranch]).writes,
        KeepsFinal Sample.settings write.before write.after) ↔
      ∀ write ∈ (EventRuns.run (importStep Sample.settings) ⟨line 10, []⟩ [longBranch]).writes,
        Shallow Sample.settings write.coin write.before write.header) ∧
    ∀ write ∈ (EventRuns.run (importStep Sample.settings) ⟨line 10, []⟩ [onward]).writes,
      KeepsFinal Sample.settings write.before write.after := by
  have judged : ∀ call : ImportCall Nat, (∀ header ∈ call.batch, 104 ≤ header.hash ∧
      header.difficulty = 2 ∧ ∀ other ∈ call.batch, header.hash = other.hash → header = other) →
      ((∀ write ∈ (EventRuns.run (importStep Sample.settings) ⟨line 10, []⟩ [call]).writes,
          KeepsFinal Sample.settings write.before write.after) ↔
        ∀ write ∈ (EventRuns.run (importStep Sample.settings) ⟨line 10, []⟩ [call]).writes,
          Shallow Sample.settings write.coin write.before write.header) := by
    intro call numbers
    refine headers_keep_final_iff Sample.settings (line 10) (line_wellFormed _ 10) ?_ [call] ?_
      ⟨?_, ?_⟩
    · intro hash genesis found
      simp only [line, Option.ite_none_right_eq_some] at found ⊢
      exact ⟨Nat.zero_le _, congrArg some found.1.1.symm⟩
    · intro other isCall header member
      rw [List.mem_singleton.1 isCall] at member
      exact ⟨by simp [Sample.settings], (numbers header member).2.1⟩
    · intro other isCall header member number block found
      rw [List.mem_singleton.1 isCall] at member
      simp only [line, Option.ite_none_right_eq_some] at found
      have high := (numbers header member).1
      omega
    · intro first isFirst second isSecond header member other otherMember
      rw [List.mem_singleton.1 isFirst] at member
      rw [List.mem_singleton.1 isSecond] at otherMember
      exact (numbers header member).2.2 other otherMember
  refine ⟨judged longBranch (by decide), (judged onward (by decide)).2 ?_⟩
  intro write member
  obtain rfl := List.mem_singleton.1 member
  intro ptd localTd fork isPtd isLocal heavier isFork number above
  cases (show some 20 = some ptd from isPtd)
  cases (show some 10 = some fork from isFork)
  intro _
  exact Nat.lt_add_right 4 (Nat.lt_succ_of_lt above)

open Sample in
/-- The branch replaces the fourth header, which has six successors. -/
theorem longBranch_replaces_final :
    ∃ write ∈ (EventRuns.run (importStep Sample.settings) ⟨line 10, []⟩ [longBranch]).writes,
      Finalised write.before (lineBlock 4) ∧ write.after.canonical 4 = some 104 := by
  have replaced : ∃ write ∈
      (EventRuns.run (importStep Sample.settings) ⟨line 10, []⟩ [longBranch]).writes,
      write.before.canonical 4 = some 4 ∧
        (∀ distance ≤ 5, (write.before.canonical (4 + distance)).isSome = true) ∧
        write.after.canonical 4 = some 104 := by
    decide +kernel
  obtain ⟨write, member, isCanonical, successors, isReplaced⟩ := replaced
  exact ⟨write, member, ⟨isCanonical, successors⟩, isReplaced⟩

end EscSideChain.BlockChain
