import EscSideChain.TransactionSigning

namespace EscSideChain.Types

/-!
# Compatible chain configurations

The fork schedule of `params/config.go` and the check that a node makes when it
is started with another configuration than the stored one.  `CheckCompatible`
looks for the lowest conflict: it repeats a first-match check at lower and lower
heads, until there is no conflict or the target no longer moves.
-/

/-- The part of `params.ChainConfig` that schedules forks by block number. -/
structure ForkConfig extends ChainConfig where
  daoForkBlock : Option Int
  daoForkSupport : Bool
  eip150Block : Option Int
  eip158Block : Option Int
  byzantiumBlock : Option Int
  constantinopleBlock : Option Int
  petersburgBlock : Option Int
  istanbulBlock : Option Int
  ewasmBlock : Option Int
  berlinBlock : Option Int
  londonBlock : Option Int

inductive ForkRule where
  | homestead
  | daoFork
  | eip150
  | eip155
  | eip158
  | byzantium
  | constantinople
  | petersburg
  | istanbul
  | ewasm
  | berlin
  | london
  | chainIDFork
  | pbftFork
  deriving DecidableEq

namespace ForkConfig

def isPetersburg (config : ForkConfig) (number : Nat) : Bool :=
  isForked config.petersburgBlock number ||
    (config.petersburgBlock.isNone && isForked config.constantinopleBlock number)

/-- `IsHomestead`, `IsDAOFork`, … , `IsPBFTFork`. -/
def applies (config : ForkConfig) (rule : ForkRule) (number : Nat) : Bool :=
  match rule with
  | .homestead => config.isHomestead number
  | .daoFork => isForked config.daoForkBlock number
  | .eip150 => isForked config.eip150Block number
  | .eip155 => config.isEIP155 number
  | .eip158 => isForked config.eip158Block number
  | .byzantium => isForked config.byzantiumBlock number
  | .constantinople => isForked config.constantinopleBlock number
  | .petersburg => config.isPetersburg number
  | .istanbul => isForked config.istanbulBlock number
  | .ewasm => isForked config.ewasmBlock number
  | .berlin => isForked config.berlinBlock number
  | .london => isForked config.londonBlock number
  | .chainIDFork => config.isChainIDFork number
  | .pbftFork => config.isPBFTFork number

end ForkConfig

structure ConfigCompatError where
  what : String
  storedConfig : Option Int
  newConfig : Option Int
  rewindTo : UInt64
  deriving DecidableEq

/-- The block that `newCompatError` rewinds before. -/
def conflictBlock (storedBlock newBlock : Option Int) : Option Int :=
  match storedBlock, newBlock with
  | none, newBlock => newBlock
  | some stored, none => some stored
  | some stored, some new =>
    if bigCmp stored new < 0 then some stored
    else some new

def newCompatError (what : String) (storedBlock newBlock : Option Int) : ConfigCompatError where
  what := what
  storedConfig := storedBlock
  newConfig := newBlock
  rewindTo :=
    match conflictBlock storedBlock newBlock with
    | none => 0
    | some rew =>
      if 0 < rew then UInt64.ofNat rew.toNat - 1
      else 0

def configNumEqual (left right : Option Int) : Bool :=
  match left, right with
  | none, none => true
  | some left, some right => bigCmp left right = 0
  | _, _ => false

def isForkIncompatible (left right : Option Int) (head : Nat) : Bool :=
  (isForked left head || isForked right head) && !configNumEqual left right

def conflictError (conflict : Bool) (what : String)
    (storedBlock newBlock : Option Int) : Option ConfigCompatError :=
  if conflict then some (newCompatError what storedBlock newBlock)
  else none

def forkError (what : String) (storedBlock newBlock : Option Int)
    (head : Nat) : Option ConfigCompatError :=
  conflictError (isForkIncompatible storedBlock newBlock head) what storedBlock newBlock

namespace ForkConfig

/-- `checkCompatible`: the first conflict at a head. -/
def checkCompatibleAt (config newcfg : ForkConfig) (head : Nat) : Option ConfigCompatError :=
  forkError "Homestead fork block" config.homesteadBlock newcfg.homesteadBlock head <|>
  forkError "DAO fork block" config.daoForkBlock newcfg.daoForkBlock head <|>
  conflictError
    (isForked config.daoForkBlock head && config.daoForkSupport != newcfg.daoForkSupport)
    "DAO fork support flag" config.daoForkBlock newcfg.daoForkBlock <|>
  forkError "EIP150 fork block" config.eip150Block newcfg.eip150Block head <|>
  forkError "EIP155 fork block" config.eip155Block newcfg.eip155Block head <|>
  forkError "EIP158 fork block" config.eip158Block newcfg.eip158Block head <|>
  -- the chain may take another id if its own becomes the old one
  conflictError
    (isForked config.eip158Block head && !configNumEqual config.chainID newcfg.chainID &&
      (config.oldChainID.isNone && !configNumEqual config.chainID newcfg.oldChainID))
    "EIP158 chain ID" config.eip158Block newcfg.eip158Block <|>
  conflictError (config.isChainIDFork head && !configNumEqual config.chainID newcfg.chainID)
    "ChainID fork block" config.chainIDBlock newcfg.chainIDBlock <|>
  forkError "Byzantium fork block" config.byzantiumBlock newcfg.byzantiumBlock head <|>
  forkError "Constantinople fork block" config.constantinopleBlock
    newcfg.constantinopleBlock head <|>
  forkError "Petersburg fork block" config.petersburgBlock newcfg.petersburgBlock head <|>
  forkError "Istanbul fork block" config.istanbulBlock newcfg.istanbulBlock head <|>
  forkError "ewasm fork block" config.ewasmBlock newcfg.ewasmBlock head

/-- The loop of `CheckCompatible`; without a result if the fuel runs out. -/
def checkCompatibleLoop (config newcfg : ForkConfig) :
    Nat → Option ConfigCompatError → UInt64 → Option (Option ConfigCompatError)
  | 0, _, _ => none
  | fuel + 1, lasterr, bhead =>
    match config.checkCompatibleAt newcfg bhead.toNat with
    | none => some lasterr
    | some err =>
      if lasterr.any fun last => err.rewindTo = last.rewindTo then some lasterr
      else checkCompatibleLoop config newcfg fuel (some err) err.rewindTo

/-- `CheckCompatible`, with as much fuel as its loop can use. -/
def checkCompatible (config newcfg : ForkConfig)
    (height : UInt64) : Option (Option ConfigCompatError) :=
  config.checkCompatibleLoop newcfg (height.toNat + 2) none height

end ForkConfig

/-! ## What a check compares -/

def Later (head : Nat) (fork : Option Int) : Prop :=
  ∀ block, fork = some block → (head : Int) < block

def FromGenesis (fork : Option Int) : Prop :=
  ∃ block, fork = some block ∧ block ≤ 0

def SameFork (head : Nat) (left right : Option Int) : Prop :=
  left = right ∨ (Later head left ∧ Later head right) ∨ (FromGenesis left ∧ FromGenesis right)

variable {config : ForkConfig} {right left : Option Int} {head : Nat}

theorem isForked_eq_false_iff {fork : Option Int} :
    isForked fork head = false ↔ Later head fork := by
  cases fork with
  | none => simp [Later]
  | some block => simp [isForked, Later]

@[simp] theorem configNumEqual_iff : configNumEqual left right = true ↔ left = right := by
  cases left with
  | none =>
    cases right with
    | none => simp [configNumEqual]
    | some right => simp [configNumEqual]
  | some left =>
    cases right with
    | none => simp [configNumEqual]
    | some right => simp [configNumEqual]

theorem isForkIncompatible_eq_false_iff :
    isForkIncompatible left right head = false ↔
      left = right ∨ (Later head left ∧ Later head right) := by
  rw [← isForked_eq_false_iff, ← isForked_eq_false_iff]
  simp only [isForkIncompatible, Bool.and_eq_false_iff,
    Bool.or_eq_false_iff, Bool.not_eq_eq_eq_not, Bool.not_false, configNumEqual_iff]
  exact or_comm

theorem Later.isForked {head number : Nat} {fork : Option Int} (later : Later head fork)
    (below : number ≤ head) : isForked fork number = false := by
  apply isForked_eq_false_iff.2
  intro block isBlock
  have above := later block isBlock
  omega

theorem FromGenesis.isForked {fork : Option Int} (fromGenesis : FromGenesis fork) (number : Nat) :
    isForked fork number = true := by
  obtain ⟨block, rfl, nonpos⟩ := fromGenesis
  rw [isForked_some]
  omega

theorem sameFork_of_lt {earlier : Int} {other : Option Int}
    (first : ∀ block, other = some block → earlier < block)
    (same : ∀ number ≤ head, isForked (some earlier) number = isForked other number) :
    SameFork head (some earlier) other := by
  by_cases reached : earlier ≤ head
  · -- at the block where the earlier one starts the other one is active too
    have start := same earlier.toNat (by omega)
    rw [isForked_some.2 (by omega)] at start
    cases other with
    | none => cases start
    | some block =>
      have active := isForked_some.1 start.symm
      have above := first block rfl
      exact Or.inr (Or.inr ⟨⟨earlier, rfl, by omega⟩, ⟨block, rfl, by omega⟩⟩)
  · refine Or.inr (Or.inl ⟨?_, ?_⟩)
    · rintro _ ⟨rfl⟩
      omega
    · intro block isBlock
      have above := first block isBlock
      omega

theorem sameFork_iff :
    (∀ number ≤ head, isForked left number = isForked right number) ↔ SameFork head left right := by
  constructor
  · intro same
    have swapped : ∀ number ≤ head, isForked right number = isForked left number := by
      intro number below
      exact (same number below).symm
    have symmetric : SameFork head right left → SameFork head left right := by
      rintro (equal | ⟨laterRight, laterLeft⟩ | ⟨genesisRight, genesisLeft⟩)
      · exact Or.inl equal.symm
      · exact Or.inr (Or.inl ⟨laterLeft, laterRight⟩)
      · exact Or.inr (Or.inr ⟨genesisLeft, genesisRight⟩)
    cases left with
    | none =>
      cases right with
      | none => exact Or.inl rfl
      | some right => exact symmetric (sameFork_of_lt (by rintro _ ⟨⟩) swapped)
    | some left =>
      cases right with
      | none => exact sameFork_of_lt (by rintro _ ⟨⟩) same
      | some right =>
        rcases lt_trichotomy left right with less | equal | greater
        · exact sameFork_of_lt (by rintro _ ⟨rfl⟩; exact less) same
        · exact Or.inl (congrArg some equal)
        · exact symmetric (sameFork_of_lt (by rintro _ ⟨rfl⟩; exact greater) swapped)
  · rintro (rfl | ⟨laterLeft, laterRight⟩ | ⟨genesisLeft, genesisRight⟩) number below
    · rfl
    · rw [laterLeft.isForked below, laterRight.isForked below]
    · rw [genesisLeft.isForked, genesisRight.isForked]

/-! ## What a passed check guarantees -/

@[simp] theorem conflictError_eq_none_iff {conflict : Bool} {what : String}
    {storedBlock newBlock : Option Int} :
    conflictError conflict what storedBlock newBlock = none ↔ conflict = false := by
  cases conflict with
  | false => simp [conflictError]
  | true => simp [conflictError]

@[simp] theorem forkError_eq_none_iff {what : String} {storedBlock newBlock : Option Int} :
    forkError what storedBlock newBlock head = none ↔ storedBlock = newBlock ∨
        (Later head storedBlock ∧ Later head newBlock) :=
  conflictError_eq_none_iff.trans isForkIncompatible_eq_false_iff

def Unmoved (head : Nat) (left right : Option Int) : Prop :=
  left = right ∨ (Later head left ∧ Later head right)

theorem Unmoved.sameFork (unmoved : Unmoved head left right) : SameFork head left right := by
  rcases unmoved with equal | later
  · exact Or.inl equal
  · exact Or.inr (Or.inl later)

namespace ForkConfig

structure Compatible (config newcfg : ForkConfig) (head : Nat) : Prop where
  homestead : Unmoved head config.homesteadBlock newcfg.homesteadBlock
  daoFork : Unmoved head config.daoForkBlock newcfg.daoForkBlock
  daoSupport : isForked config.daoForkBlock head = true →
    config.daoForkSupport = newcfg.daoForkSupport
  eip150 : Unmoved head config.eip150Block newcfg.eip150Block
  eip155 : Unmoved head config.eip155Block newcfg.eip155Block
  eip158 : Unmoved head config.eip158Block newcfg.eip158Block
  eip158ChainID : isForked config.eip158Block head = true →
    config.chainID ≠ newcfg.chainID → config.oldChainID = none → config.chainID = newcfg.oldChainID
  chainID : isForked config.chainIDBlock head = true → config.chainID = newcfg.chainID
  byzantium : Unmoved head config.byzantiumBlock newcfg.byzantiumBlock
  constantinople : Unmoved head config.constantinopleBlock newcfg.constantinopleBlock
  petersburg : Unmoved head config.petersburgBlock newcfg.petersburgBlock
  istanbul : Unmoved head config.istanbulBlock newcfg.istanbulBlock
  ewasm : Unmoved head config.ewasmBlock newcfg.ewasmBlock

theorem checkCompatibleAt_eq_none_iff {config newcfg : ForkConfig} :
    config.checkCompatibleAt newcfg head = none ↔ config.Compatible newcfg head := by
  unfold checkCompatibleAt ChainConfig.isChainIDFork
  simp only [Option.orElse_eq_none, forkError_eq_none_iff, conflictError_eq_none_iff]
  constructor
  · rintro ⟨homestead, daoFork, daoSupport, eip150, eip155, eip158,
      eip158ChainID, chainID, byzantium, constantinople, petersburg, istanbul, ewasm⟩
    refine ⟨homestead, daoFork, ?_, eip150, eip155, eip158, ?_, ?_,
      byzantium, constantinople, petersburg, istanbul, ewasm⟩
    · intro forked
      simpa [forked] using daoSupport
    · intro forked otherId noOld
      have differ : configNumEqual config.chainID newcfg.chainID = false :=
        Bool.eq_false_iff.2 (mt configNumEqual_iff.1 otherId)
      simpa [forked, differ, noOld] using eip158ChainID
    · intro forked
      simpa [forked] using chainID
  · intro compatible
    refine ⟨compatible.homestead, compatible.daoFork, ?_,
      compatible.eip150, compatible.eip155, compatible.eip158, ?_, ?_,
      compatible.byzantium, compatible.constantinople,
      compatible.petersburg, compatible.istanbul, compatible.ewasm⟩
    · cases forked : isForked config.daoForkBlock head with
      | false => rfl
      | true => simp [compatible.daoSupport forked]
    · cases forked : isForked config.eip158Block head with
      | false => rfl
      | true =>
        by_cases sameId : config.chainID = newcfg.chainID
        · simp [configNumEqual_iff.2 sameId]
        cases noOld : config.oldChainID with
        | none => simp [configNumEqual_iff.2 (compatible.eip158ChainID forked sameId noOld)]
        | some oldChainID => simp
    · cases forked : isForked config.chainIDBlock head with
      | false => rfl
      | true => simp [configNumEqual_iff.2 (compatible.chainID forked)]

/-! ## The same rules -/

def SameRules (config newcfg : ForkConfig) (head : Nat) : Prop :=
  ∀ number ≤ head, (∀ rule, config.applies rule number = newcfg.applies rule number) ∧
      config.getChainIDByHeight number = newcfg.getChainIDByHeight number

def firstID (config : ForkConfig) : Option Int :=
  config.oldChainID <|> config.chainID

/--
The differences that the check does not look for: the heights of the Berlin,
London, chain id and PBFT forks; a Petersburg height that is missing in one
configuration only, once Constantinople is active; and the chain id before the
change.
-/
structure AgreesUnchecked (config newcfg : ForkConfig) (head : Nat) : Prop where
  berlin : SameFork head config.berlinBlock newcfg.berlinBlock
  london : SameFork head config.londonBlock newcfg.londonBlock
  chainIDFork : SameFork head config.chainIDBlock newcfg.chainIDBlock
  pbftFork : SameFork head config.pbftBlock newcfg.pbftBlock
  petersburg :
    (config.petersburgBlock = none ↔ newcfg.petersburgBlock = none) ∨
      Later head config.constantinopleBlock
  firstID : FromGenesis config.chainIDBlock ∨ config.firstID = newcfg.firstID

theorem getChainIDByHeight_eq (config : ForkConfig) (number : Nat) :
    config.getChainIDByHeight number =
      if isForked config.chainIDBlock number then config.chainID
      else
        config.firstID := by
  unfold ChainConfig.getChainIDByHeight ForkConfig.firstID
  cases config.oldChainID with
  | none => rfl
  | some oldChainID => rfl

theorem isPetersburg_of_none (missing : config.petersburgBlock = none)
    (number : Nat) : config.isPetersburg number = isForked config.constantinopleBlock number := by
  simp [isPetersburg, missing]

theorem isPetersburg_of_ne_none (given : config.petersburgBlock ≠ none)
    (number : Nat) : config.isPetersburg number = isForked config.petersburgBlock number := by
  simp [isPetersburg, given]

section Unchecked

variable {config newcfg : ForkConfig}
variable {head : Nat}

theorem later_constantinople_of_missing (missing : config.petersburgBlock = none)
    (given : newcfg.petersburgBlock ≠ none)
    (unmoved : Unmoved head config.petersburgBlock newcfg.petersburgBlock)
    (same : config.isPetersburg head = newcfg.isPetersburg head) :
    Later head config.constantinopleBlock := by
  rcases unmoved with equal | ⟨-, laterNew⟩
  · exact absurd (equal.symm.trans missing) given
  · rw [isPetersburg_of_none missing, isPetersburg_of_ne_none given,
      laterNew.isForked (Nat.le_refl head)] at same
    exact isForked_eq_false_iff.1 same

variable (compatible : config.Compatible newcfg head)

include compatible

theorem Compatible.later_constantinople_iff :
    Later head config.constantinopleBlock ↔ Later head newcfg.constantinopleBlock := by
  rcases compatible.constantinople with equal | ⟨later, laterNew⟩
  · rw [equal]
  · exact iff_of_true later laterNew

theorem Compatible.petersburg_iff :
    (∀ number ≤ head, config.isPetersburg number = newcfg.isPetersburg number) ↔
      (config.petersburgBlock = none ↔ newcfg.petersburgBlock = none) ∨
        Later head config.constantinopleBlock := by
  have sameFork := sameFork_iff.2 compatible.petersburg.sameFork
  have sameConstantinople := sameFork_iff.2 compatible.constantinople.sameFork
  by_cases missing : config.petersburgBlock = none
  · by_cases missingNew : newcfg.petersburgBlock = none
    · simpa [missing, missingNew, isPetersburg_of_none] using sameConstantinople
    simp only [missing, missingNew, iff_false, not_true_eq_false, false_or]
    constructor
    · intro same
      exact later_constantinople_of_missing missing missingNew
        compatible.petersburg (same head (Nat.le_refl head))
    · intro later number below
      rw [isPetersburg_of_none missing, isPetersburg_of_ne_none missingNew, later.isForked below,
        ← sameFork number below, missing]
      rfl
  · by_cases missingNew : newcfg.petersburgBlock = none
    · simp only [missing, missingNew, iff_true, false_or]
      rw [compatible.later_constantinople_iff]
      constructor
      · intro same
        have swapped : Unmoved head newcfg.petersburgBlock
            config.petersburgBlock := by
          rcases compatible.petersburg with equal | ⟨later, laterNew⟩
          · exact Or.inl equal.symm
          · exact Or.inr ⟨laterNew, later⟩
        exact later_constantinople_of_missing missingNew missing swapped
          (same head (Nat.le_refl head)).symm
      · intro later number below
        rw [isPetersburg_of_none missingNew, isPetersburg_of_ne_none missing, later.isForked below,
          sameFork number below, missingNew]
        rfl
    · simp only [missing, missingNew, iff_self, true_or, iff_true]
      intro number below
      rw [isPetersburg_of_ne_none missing, isPetersburg_of_ne_none missingNew]
      exact sameFork number below

theorem Compatible.chainID_iff
    (sameFork : ∀ number ≤ head, config.isChainIDFork number = newcfg.isChainIDFork number) :
    (∀ number ≤ head, config.getChainIDByHeight number = newcfg.getChainIDByHeight number) ↔
      FromGenesis config.chainIDBlock ∨ config.firstID = newcfg.firstID := by
  simp only [getChainIDByHeight_eq]
  constructor
  · intro same
    have atGenesis := same 0 (Nat.zero_le head)
    have forkAtGenesis := sameFork 0 (Nat.zero_le head)
    unfold ChainConfig.isChainIDFork at forkAtGenesis
    rw [← forkAtGenesis] at atGenesis
    cases forked : isForked config.chainIDBlock 0 with
    | false =>
      right
      simpa [forked] using atGenesis
    | true =>
      left
      cases hasBlock : config.chainIDBlock with
      | none => simp [hasBlock] at forked
      | some block =>
        rw [hasBlock, isForked_some] at forked
        exact ⟨block, rfl, by simpa using forked⟩
  · intro agree number below
    have forkSame := sameFork number below
    unfold ChainConfig.isChainIDFork at forkSame
    rw [← forkSame]
    cases forked : isForked config.chainIDBlock number with
    | true =>
      -- the check has compared the ids once the fork is reached
      have reached : isForked config.chainIDBlock head = true := by
        by_contra notReached
        rw [Bool.not_eq_true, isForked_eq_false_iff] at notReached
        rw [notReached.isForked below] at forked
        cases forked
      simpa using compatible.chainID reached
    | false =>
      rcases agree with fromGenesis | sameID
      · rw [fromGenesis.isForked] at forked
        cases forked
      · simpa using sameID

theorem Compatible.sameRules_iff :
    config.SameRules newcfg head ↔ config.AgreesUnchecked newcfg head := by
  constructor
  · intro same
    have rule : ∀ rule, ∀ number ≤ head,
        config.applies rule number = newcfg.applies rule number := by
      intro rule number below
      exact (same number below).1 rule
    exact
      { berlin := sameFork_iff.1 (rule .berlin)
        london := sameFork_iff.1 (rule .london)
        chainIDFork := sameFork_iff.1 (rule .chainIDFork)
        pbftFork := sameFork_iff.1 (rule .pbftFork)
        petersburg := compatible.petersburg_iff.1 (rule .petersburg)
        firstID := (compatible.chainID_iff (rule .chainIDFork)).1
          fun number below => (same number below).2 }
  · intro agree number below
    have sameChainIDFork := sameFork_iff.2 agree.chainIDFork
    refine ⟨?_, (compatible.chainID_iff sameChainIDFork).2 agree.firstID number below⟩
    intro rule
    cases rule with
    | homestead => exact sameFork_iff.2 compatible.homestead.sameFork number below
    | daoFork => exact sameFork_iff.2 compatible.daoFork.sameFork number below
    | eip150 => exact sameFork_iff.2 compatible.eip150.sameFork number below
    | eip155 => exact sameFork_iff.2 compatible.eip155.sameFork number below
    | eip158 => exact sameFork_iff.2 compatible.eip158.sameFork number below
    | byzantium => exact sameFork_iff.2 compatible.byzantium.sameFork number below
    | constantinople => exact sameFork_iff.2 compatible.constantinople.sameFork number below
    | petersburg => exact compatible.petersburg_iff.2 agree.petersburg number below
    | istanbul => exact sameFork_iff.2 compatible.istanbul.sameFork number below
    | ewasm => exact sameFork_iff.2 compatible.ewasm.sameFork number below
    | berlin => exact sameFork_iff.2 agree.berlin number below
    | london => exact sameFork_iff.2 agree.london number below
    | chainIDFork => exact sameChainIDFork number below
    | pbftFork => exact sameFork_iff.2 agree.pbftFork number below

end Unchecked

theorem checkCompatible_eq_nil_iff {config newcfg : ForkConfig} {height : UInt64} :
    config.checkCompatible newcfg height = some none ↔
      config.checkCompatibleAt newcfg height.toNat = none := by
  have later : ∀ fuel err bhead, config.checkCompatibleLoop newcfg fuel (some err) bhead ≠
        some none := by
    intro fuel
    induction fuel with
    | zero =>
      intro err bhead returned
      cases returned
    | succ fuel inductionHypothesis =>
      intro err bhead returned
      unfold checkCompatibleLoop at returned
      cases check : config.checkCompatibleAt newcfg bhead.toNat with
      | none => simp [check] at returned
      | some conflict =>
        by_cases stopped : conflict.rewindTo = err.rewindTo
        · simp [check, stopped] at returned
        simp only [check, Option.any_some, stopped, decide_false,
          Bool.false_eq_true, ↓reduceIte] at returned
        exact inductionHypothesis conflict conflict.rewindTo returned
  unfold checkCompatible checkCompatibleLoop
  cases check : config.checkCompatibleAt newcfg height.toNat with
  | none => simp
  | some err => simpa using later (height.toNat + 1) err err.rewindTo

/--
If `CheckCompatible` returns nil, the configurations mean the same for all blocks
up to the head exactly if they agree on what the check does not look at.
-/
theorem checkCompatible_sameRules_iff {config newcfg : ForkConfig} (height : UInt64)
    (returnsNil : config.checkCompatible newcfg height = some none) :
    config.SameRules newcfg height.toNat ↔ config.AgreesUnchecked newcfg height.toNat :=
  (checkCompatibleAt_eq_none_iff.1 (checkCompatible_eq_nil_iff.1 returnsNil)).sameRules_iff

end ForkConfig

namespace Sample

def mainnetForks : ForkConfig where
  toChainConfig := mainnet
  daoForkBlock := none
  daoForkSupport := true
  eip150Block := some 2
  eip158Block := some 3
  byzantiumBlock := some 4
  constantinopleBlock := some 2426880
  petersburgBlock := some 2426880
  istanbulBlock := some 2426880
  ewasmBlock := none
  berlinBlock := some 19166000
  londonBlock := some 19166000

def movedPbft : ForkConfig :=
  { mainnetForks with pbftBlock := some 2426881 }

/-- The same schedule with a London fork that is moved before it is reached. -/
def movedLondon : ForkConfig :=
  { mainnetForks with londonBlock := some 25000000 }

end Sample

open Sample

/-- A node of the main network may move the PBFT fork long after it happened. -/
theorem pbft_moved_unnoticed :
    mainnetForks.checkCompatible movedPbft 20000000 = some none ∧
      ¬mainnetForks.SameRules movedPbft 20000000 := by
  refine ⟨by decide +kernel, ?_⟩
  intro same
  have differ := (same 2426880 (by decide)).1 .pbftFork
  exact absurd differ (by decide)

/-- A fork that is moved before it is reached is not noticed and does no harm. -/
theorem london_moved_in_time : mainnetForks.SameRules movedLondon 19000000 :=
  (ForkConfig.checkCompatible_sameRules_iff 19000000 (by decide +kernel)).2
    { berlin := Or.inl rfl
      london := Or.inr (Or.inl ⟨by rintro _ ⟨rfl⟩; decide, by rintro _ ⟨rfl⟩; decide⟩)
      chainIDFork := Or.inl rfl
      pbftFork := Or.inl rfl
      petersburg := Or.inl Iff.rfl
      firstID := Or.inr rfl }

end EscSideChain.Types
