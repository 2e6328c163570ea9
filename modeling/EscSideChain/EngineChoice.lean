import Mathlib.Data.List.Chain
import EscSideChain.ChainInsertion

namespace EscSideChain.BlockChain

open EscSideChain.Types

/-!
# The engine that checks a block

Which engine the imports of `core/blockchain.go` call for which part of a batch.  Blocks are
given to the engine of their side of the fork.  `ValidateHeaderChain` of
`core/headerchain.go` gives the headers before the fork to the current engine, which
`SetEngine` replaces.  `ValidateBody`, which `insertBlockChain` calls for every block, runs under
the current engine on both sides of the fork; only the calls of `VerifyHeaders` are compared here.
-/

/-- The two engines of a chain. -/
inductive Engine where
  | poa
  | pbft
  deriving DecidableEq

variable {Hash State : Type}

/-- A call of `VerifyHeaders`. -/
abbrev Call (Hash : Type) :=
  Engine × List (Block Hash)

/-- The calls of `insertChain`, each made if the part before it was imported. -/
def insertChainCalls (settings : Settings) (batch : List (Block Hash)) : List (Call Hash) :=
  match splitPoint settings batch with
  | none => [(if underPbft settings batch then .pbft else .poa, batch)]
  | some limit => [(.poa, batch.take limit), (.pbft, batch.drop limit)]

/-- The engine of `ValidateHeaderChain`. -/
def validateEngine (settings : Settings) (engine : Engine) (chain : List (Block Hash)) : Engine :=
  match chain with
  | [] => engine
  | first :: _ => if isForked settings.pbftBlock first.number then .pbft else engine

/-- The calls of `InsertHeaderChain`, each made if the part before it was imported. -/
def insertHeaderChainCalls (settings : Settings) (engine : Engine) (batch : List (Block Hash)) :
    List (Call Hash) :=
  match splitPoint settings batch with
  | none => [(validateEngine settings engine batch, batch)]
  | some limit =>
    [(validateEngine settings engine (batch.take limit), batch.take limit),
      (validateEngine settings engine (batch.drop limit), batch.drop limit)]

/-! ## The imports make these calls -/

/-- The parts are imported one after the other, up to the first one that fails. -/
def importParts (insertPart : Call Hash → State → Outcome Hash State) (state : State) :
    List (Call Hash) → Outcome Hash State
  | [] => ⟨state, 0, [], some (.runtime "index out of range [0] with length 0")⟩
  | [part] => insertPart part state
  | part :: parts =>
    let first := insertPart part state
    if first.err.isSome then first
    else
      let rest := importParts insertPart first.state parts
      { rest with events := first.events.dropLast ++ rest.events }

theorem insertChain_eq_importParts (settings : Settings)
    (insertBlockChain : Bool → List (Block Hash) → State → Outcome Hash State) (state : State)
    {batch : List (Block Hash)} (nonempty : batch ≠ []) :
    insertChain settings insertBlockChain state batch =
      importParts (fun call state => insertBlockChain (call.1 = .pbft) call.2 state) state
        (insertChainCalls settings batch) := by
  cases batch with
  | nil => exact absurd rfl nonempty
  | cons first rest =>
    rw [insertChain, insertChainCalls]
    cases splitPoint settings (first :: rest) with
    | none => cases under : underPbft settings (first :: rest) <;> rfl
    | some limit => rfl

section Imports

variable [DecidableEq Hash]

/-- The verdicts on headers, if the engine that is chosen gives them. -/
def HeaderAnswers.under (answers : HeaderAnswers Hash State) (engine : Engine)
    (verdict : Engine → List (Block Hash) → Block Hash → Option BatchError) :
    HeaderAnswers Hash State :=
  { answers with
    verifyErr := fun chain => verdict (validateEngine answers.settings engine chain) chain }

/-- The same for headers, where the last part gives the result only if it fails. -/
def headerParts (insertPart : List (Block Hash) → State → HeaderOutcome Hash State)
    (state : State) : List (Call Hash) → HeaderOutcome Hash State
  | [] => ⟨state, 0, none, none⟩
  | [part] => insertPart part.2 state
  | part :: parts =>
    let first := insertPart part.2 state
    if first.err.isSome then first
    else
      let rest := headerParts insertPart first.state parts
      if rest.err.isSome then rest else ⟨rest.state, 0, none, none⟩

theorem insertHeaderChain_eq_headerParts (answers : HeaderAnswers Hash State) (engine : Engine)
    (verdict : Engine → List (Block Hash) → Block Hash → Option BatchError) (state : State)
    (batch : List (Block Hash)) :
    insertHeaderChain (answers.under engine verdict) state batch =
      headerParts (fun chain state => insertBlockHeaders (answers.under engine verdict) state chain)
        state (insertHeaderChainCalls answers.settings engine batch) ∧
      ∀ call ∈ insertHeaderChainCalls answers.settings engine batch,
        (answers.under engine verdict).verifyErr call.2 = verdict call.1 call.2 := by
  have sameSettings : (answers.under engine verdict).settings = answers.settings := rfl
  rw [insertHeaderChain, insertHeaderChainCalls, sameSettings]
  cases splitPoint answers.settings batch with
  | none => exact ⟨rfl, by simp [HeaderAnswers.under]⟩
  | some limit => exact ⟨rfl, by simp [HeaderAnswers.under]⟩

end Imports

/-! ## The engine of a height -/

/-- The call is given blocks, all on the side of the fork that its engine is for. -/
def RightEngine (settings : Settings) (call : Call Hash) : Prop :=
  call.2 ≠ [] ∧ ∀ block ∈ call.2, ∀ pbftBlock, settings.pbftBlock = some pbftBlock →
    ((block.number : Int) < pbftBlock → call.1 = .poa) ∧
      (pbftBlock ≤ block.number → call.1 = .pbft)

/-- The distance to the fork fits into 64 bits, or the batch ends before what is left of it. -/
def LimitFits (pbftBlock : Int) (first : Block Hash) (length : Nat) : Prop :=
  pbftBlock - first.number < 2 ^ 64 ∨ length ≤ forkLimit pbftBlock first

/-- The same for headers, which are given to one engine also if the batch is split too early. -/
def HeaderLimitFits (pbftBlock : Int) (first : Block Hash) (length : Nat) : Prop :=
  pbftBlock - first.number < 2 ^ 64 ∨
    0 < forkLimit pbftBlock first ∧ (length : Int) ≤ pbftBlock - first.number

/-- The numbers of the blocks follow each other. -/
def Consecutive (blocks : List (Block Hash)) : Prop :=
  blocks.IsChain fun first second => second.number = first.number + 1

theorem consecutive_of_follows [DecidableEq Hash] {blocks : List (Block Hash)}
    (contiguous : follows blocks = true) : Consecutive blocks := by
  induction blocks with
  | nil => exact List.IsChain.nil
  | cons first rest inductionHypothesis =>
    cases rest with
    | nil => exact List.IsChain.singleton first
    | cons second later =>
      simp only [follows, Bool.and_eq_true, decide_eq_true_eq] at contiguous
      exact List.IsChain.cons_cons contiguous.1.1 (inductionHypothesis contiguous.2)

/-- The number of the first block. -/
def firstNumber (blocks : List (Block Hash)) : Option Nat :=
  blocks.head?.map Block.number

theorem Consecutive.number_eq {blocks : List (Block Hash)} {block : Block Hash}
    (consecutive : Consecutive blocks)
    {position : Nat} (found : blocks[position]? = some block) :
    ∃ start, firstNumber blocks = some start ∧ block.number = start + position := by
  induction position generalizing blocks with
  | zero =>
    refine ⟨block.number, ?_, rfl⟩
    rw [firstNumber, List.head?_eq_getElem?, found]
    rfl
  | succ before inductionHypothesis =>
    cases blocks with
    | nil => cases found
    | cons first rest =>
      obtain ⟨start, begins, number⟩ := inductionHypothesis consecutive.of_cons found
      refine ⟨first.number, rfl, ?_⟩
      cases rest with
      | nil => cases begins
      | cons second later =>
        cases begins
        have step := List.isChain_cons_cons.1 consecutive
        omega

variable {settings : Settings} {first : Block Hash} {rest : List (Block Hash)} {pbftBlock : Int}

/-- The blocks are consecutive, so the first and the last one decide. -/
theorem rightEngine_cons (isFork : settings.pbftBlock = some pbftBlock)
    (consecutive : Consecutive (first :: rest)) (engine : Engine) :
    RightEngine settings (engine, first :: rest) ↔
      (engine = .poa ∧ ((rest.length + 1 : Nat) : Int) ≤ pbftBlock - first.number) ∨
        (engine = .pbft ∧ pbftBlock ≤ first.number) := by
  have numbers : ∀ place, (inside : place < (first :: rest).length) →
      (first :: rest)[place].number = first.number + place := by
    intro place inside
    obtain ⟨start, isStart, number⟩ := consecutive.number_eq (List.getElem?_eq_getElem inside)
    rw [number, ← Option.some.inj isStart]
  have isLast : rest.length < (first :: rest).length := Nat.lt_succ_self _
  constructor
  · rintro ⟨-, right⟩
    have rightFirst := right first List.mem_cons_self pbftBlock isFork
    have rightLast := right _ (List.getElem_mem isLast) pbftBlock isFork
    rw [numbers rest.length isLast] at rightLast
    cases engine with
    | poa => grind
    | pbft => grind
  · intro sides
    refine ⟨List.cons_ne_nil _ _, fun block member fork isOther => ?_⟩
    obtain rfl : pbftBlock = fork := Option.some.inj (isFork.symm.trans isOther)
    obtain ⟨place, inside, rfl⟩ := List.getElem_of_mem member
    rw [numbers place inside]
    rw [List.length_cons] at inside
    grind

theorem forkLimit_eq (before : (first.number : Int) < pbftBlock) :
    (forkLimit pbftBlock first : Int) = (pbftBlock - first.number) % 2 ^ 64 := by
  obtain ⟨fork, rfl⟩ := Int.eq_ofNat_of_zero_le (show 0 ≤ pbftBlock by omega)
  simp only [forkLimit, UInt64.toNat_sub, UInt64.toNat_ofNat', Int.toNat_natCast]
  omega

/-- The part of a split batch that begins at the limit. -/
theorem drop_cases (consecutive : Consecutive (first :: rest)) {limit : Nat}
    (inside : limit < (first :: rest).length) :
    ∃ second others, (first :: rest).drop limit = second :: others ∧
      Consecutive (second :: others) ∧ second.number = first.number + limit ∧
      others.length + 1 = (first :: rest).length - limit := by
  have whole := List.drop_eq_getElem_cons inside
  obtain ⟨start, isStart, number⟩ := consecutive.number_eq (List.getElem?_eq_getElem inside)
  refine ⟨_, _, whole, ?_, ?_, ?_⟩
  · rw [← whole]
    exact List.IsChain.drop consecutive limit
  · rw [number, ← Option.some.inj isStart]
  · rw [List.length_drop]
    omega

theorem isForked_eq_false (before : (first.number : Int) < pbftBlock) :
    isForked (some pbftBlock) first.number = false := by
  rw [← Bool.not_eq_true, isForked_some]
  exact not_le.2 before

/-- A batch that begins after the fork is one part. -/
theorem calls_right_of_forked (isFork : settings.pbftBlock = some pbftBlock)
    (consecutive : Consecutive (first :: rest)) (after : pbftBlock ≤ first.number) (engine : Engine) :
    (∀ call ∈ insertChainCalls settings (first :: rest), RightEngine settings call) ∧
      ∀ call ∈ insertHeaderChainCalls settings engine (first :: rest), RightEngine settings call := by
  have notSplit : splitPoint settings (first :: rest) = none := by
    simp [splitPoint, isFork, after]
  have right : RightEngine settings (.pbft, first :: rest) :=
    (rightEngine_cons isFork consecutive _).2 (.inr ⟨rfl, after⟩)
  simp only [insertChainCalls, insertHeaderChainCalls, notSplit, underPbft, validateEngine, isFork,
    isForked_some.2 after, Bool.true_or, if_true, List.forall_mem_singleton]
  exact ⟨right, right⟩

/-- A batch that the limit does not split is one part, all of which must be before the fork. -/
theorem calls_right_of_short (isFork : settings.pbftBlock = some pbftBlock)
    (consecutive : Consecutive (first :: rest)) (before : (first.number : Int) < pbftBlock)
    (isShort : (first :: rest).length ≤ forkLimit pbftBlock first) (engine : Engine) :
    ((∀ call ∈ insertChainCalls settings (first :: rest), RightEngine settings call) ↔
        ((first :: rest).length : Int) ≤ pbftBlock - first.number) ∧
      ((∀ call ∈ insertHeaderChainCalls settings engine (first :: rest), RightEngine settings call) ↔
        engine = .poa ∧ ((first :: rest).length : Int) ≤ pbftBlock - first.number) := by
  have notForked := isForked_eq_false before
  have notSplit : splitPoint settings (first :: rest) = none := by
    simp only [splitPoint, isFork, notForked]
    rw [if_neg (by simp), if_pos isShort]
  simp only [insertChainCalls, insertHeaderChainCalls, notSplit, underPbft, validateEngine, isFork,
    notForked, Option.isNone_some, Bool.or_self, Bool.false_eq_true, if_false,
    List.forall_mem_singleton, rightEngine_cons isFork consecutive, List.length_cons, not_le.2 before,
    and_false, or_false, true_and, and_self]

/-- Of a batch that the limit splits, the first part must be before the fork and not empty. -/
theorem calls_right_of_split (isFork : settings.pbftBlock = some pbftBlock)
    (consecutive : Consecutive (first :: rest)) (before : (first.number : Int) < pbftBlock)
    (isLong : forkLimit pbftBlock first < (first :: rest).length) (engine : Engine) :
    ((∀ call ∈ insertChainCalls settings (first :: rest), RightEngine settings call) ↔
        0 < forkLimit pbftBlock first ∧
          (forkLimit pbftBlock first : Int) = pbftBlock - first.number) ∧
      ((∀ call ∈ insertHeaderChainCalls settings engine (first :: rest), RightEngine settings call) ↔
        engine = .poa ∧ 0 < forkLimit pbftBlock first ∧
          ((forkLimit pbftBlock first : Int) = pbftBlock - first.number ∨
            ((first :: rest).length : Int) ≤ pbftBlock - first.number)) := by
  have notForked := isForked_eq_false before
  have isSplit : splitPoint settings (first :: rest) = some (forkLimit pbftBlock first) := by
    simp only [splitPoint, isFork, notForked]
    rw [if_neg (by simp), if_neg (not_le.2 isLong)]
  obtain ⟨second, others, isDrop, dropConsecutive, number, lengths⟩ := drop_cases consecutive isLong
  simp only [insertChainCalls, insertHeaderChainCalls, isSplit, isDrop, List.forall_mem_cons,
    List.not_mem_nil, false_implies, implies_true, and_true]
  generalize forkLimit pbftBlock first = limit at *
  cases limit with
  | zero =>
    -- the first part is empty, and an engine is asked about nothing
    have empty : ∀ engine, ¬RightEngine settings (engine, (first :: rest).take 0) :=
      fun _ right => right.1 rfl
    exact ⟨iff_of_false (fun right => empty _ right.1) (by simp),
      iff_of_false (fun right => empty _ right.1) (by simp)⟩
  | succ limit =>
    have taken : (rest.take limit).length = limit := by
      rw [List.length_take]
      rw [List.length_cons] at isLong
      omega
    have takeConsecutive : Consecutive (first :: rest.take limit) :=
      List.IsChain.take consecutive (limit + 1)
    rw [List.length_cons] at lengths isLong
    simp only [List.take_succ_cons, rightEngine_cons isFork takeConsecutive,
      rightEngine_cons isFork dropConsecutive, validateEngine, isFork, notForked, taken, lengths,
      isForked_some, number, List.length_cons]
    constructor
    · grind
    · grind

/--
Blocks are checked by the engine of their height exactly if the distance to the fork fits,
and headers if moreover the current engine is the one before the fork or no header is before it.
-/
theorem engines_right_iff [DecidableEq Hash] (settings : Settings) (engine : Engine)
    (first : Block Hash) (rest : List (Block Hash)) (pbftBlock : Int)
    (isFork : settings.pbftBlock = some pbftBlock) (contiguous : follows (first :: rest) = true) :
    ((∀ call ∈ insertChainCalls settings (first :: rest), RightEngine settings call) ↔
        LimitFits pbftBlock first (first :: rest).length) ∧
      ((∀ call ∈ insertHeaderChainCalls settings engine (first :: rest), RightEngine settings call) ↔
        pbftBlock ≤ first.number ∨
          engine = .poa ∧ HeaderLimitFits pbftBlock first (first :: rest).length) := by
  have consecutive := consecutive_of_follows contiguous
  unfold LimitFits HeaderLimitFits
  by_cases after : pbftBlock ≤ first.number
  · obtain ⟨blocks, headers⟩ := calls_right_of_forked isFork consecutive after engine
    exact ⟨iff_of_true blocks (.inl (by omega)), iff_of_true headers (.inl after)⟩
  have before := not_le.1 after
  have limitEq := forkLimit_eq before
  have nonempty : 0 < (first :: rest).length := Nat.succ_pos _
  rw [or_iff_right after]
  by_cases isShort : (first :: rest).length ≤ forkLimit pbftBlock first
  · obtain ⟨blocks, headers⟩ := calls_right_of_short isFork consecutive before isShort engine
    rw [blocks, headers]
    exact ⟨by omega, and_congr_right fun _ => by omega⟩
  · obtain ⟨blocks, headers⟩ :=
      calls_right_of_split isFork consecutive before (not_le.1 isShort) engine
    rw [blocks, headers]
    exact ⟨by omega, and_congr_right fun _ => by omega⟩

def Sample.atTen : Settings where
  pbftBlock := some 10
  isPbftEngine := true
  signersCount := 12
  blockSignersCount := 12

def Sample.header (number : Nat) : Block Nat where
  hash := number
  parentHash := number - 1
  number := number
  difficulty := 2

theorem engines_right_iff_straddling :
    (∀ call ∈ insertChainCalls Sample.atTen [Sample.header 9, Sample.header 10],
        RightEngine Sample.atTen call) ∧
      ∀ call ∈ insertHeaderChainCalls Sample.atTen .poa [Sample.header 9, Sample.header 10],
        RightEngine Sample.atTen call := by
  obtain ⟨blocks, headers⟩ := engines_right_iff Sample.atTen .poa (Sample.header 9)
    [Sample.header 10] 10 rfl (by decide)
  exact ⟨blocks.2 (.inl (by decide)), headers.2 (.inr ⟨rfl, .inl (by decide)⟩)⟩

/-- After the switch the PBFT engine is asked about a header before the fork. -/
theorem header_before_fork_under_pbft :
    insertHeaderChainCalls Sample.atTen .pbft [Sample.header 5] = [(.pbft, [Sample.header 5])] ∧
      ¬RightEngine Sample.atTen (.pbft, [Sample.header 5]) := by
  refine ⟨by decide, fun right => ?_⟩
  have asked := (right.2 (Sample.header 5) (List.mem_singleton.2 rfl) 10 rfl).1 (by decide)
  cases asked

end EscSideChain.BlockChain
