import EscSideChain.BlockChain
import EscSideChain.BlockProcessing
import EscSideChain.PbftVoteOnce
import EscSideChain.SupplyConservation

namespace EscSideChain.Core

open Dpos Pbft WithdrawFailedTx

/-!
# Importing blocks

The body of the loop of `insertBlockChain` in `core/blockchain.go`: a block is
processed, validated and written.  `Process` calls `Finalize` of the engine when
its transactions are applied, which tells the dispatcher that the block is
finished; the checks that can still refuse the block come after that.
-/

structure Importer where
  rules : ProcessRules
  validator : StateValidator
  settings : BlockChain.Settings
  setup : Setup

structure ImportState where
  node : Node
  chain : BlockChain.ChainState Hash
  progress : Progress

inductive ImportError where
  | process (err : CoreError)
  | validate (err : ValidateError)
  | write (err : BlockChain.WriteError)

namespace Importer

variable (importer : Importer)

def chainBlock (block : Block) : BlockChain.Block Hash where
  hash := importer.setup.rlpHash (encodeHeader block.header)
  parentHash := block.header.parentHash
  number := block.number
  difficulty := block.header.difficulty.getD 0

/-- Whether it is the PBFT engine whose `Finalize` is called for a block. -/
def finalizesWithPbft (block : Block) : Bool :=
  importer.rules.config.isPBFTFork block.number || importer.rules.isPbftEngine

/-- The call of `Finalize` at the end of `Process`. -/
def finalizeBlock (moment : Moment) (block : Block) (node : Node) : Node :=
  if importer.finalizesWithPbft block then node.finalize importer.setup moment block.header
  else node

/-- The body of the loop of `insertBlockChain`. -/
def importBlock (moment : Moment) (context : BlockChain.WriteContext Hash) (block : Block)
    (state : ImportState) : ImportState × Option ImportError :=
  match process importer.rules block state.progress with
  | (reached, some err) => ({ state with progress := reached }, some (.process err))
  | (reached, none) =>
    let processed := { state with
      node := importer.finalizeBlock moment block state.node
      progress := reached }
    match validateState importer.validator block reached with
    | some err => (processed, some (.validate err))
    | none =>
      match state.chain.writeBlockWithState importer.settings context
          (importer.chainBlock block) with
      | (chain, .error err) => ({ processed with chain := chain }, some (.write err))
      | (chain, .ok _) => ({ processed with chain := chain }, none)

end Importer

/-! ## Rejected blocks -/

structure Standing where
  finishedHeight : UInt64
  finishedBlockSealHash : Hash
  viewOffset : UInt32
  dutyIndex : UInt32
  acceptVotes : GoMap Hash DPOSProposalVote
  rejectedVotes : GoMap Hash DPOSProposalVote
  pendingVotes : GoMap Hash DPOSProposalVote

def standing (node : Node) : Standing where
  finishedHeight := node.dispatcher.finishedHeight
  finishedBlockSealHash := node.dispatcher.finishedBlockSealHash
  viewOffset := node.view.viewOffset
  dutyIndex := node.view.producers.dutyIndex
  acceptVotes := node.dispatcher.acceptVotes
  rejectedVotes := node.dispatcher.rejectedVotes
  pendingVotes := node.dispatcher.pendingVotes

theorem finishedHeight_finalize_of_lt {setup : Setup} {moment : Moment} {node : Node}
    {header : Header} (unfinished : node.dispatcher.finishedHeight < blockHeight header) :
    (node.finalize setup moment header).dispatcher.finishedHeight = blockHeight header := by
  unfold Node.finalize Node.finishedProposal
  rw [if_neg (UInt64.not_le.2 unfinished)]
  dsimp only
  rw [Node.changeView_forced_stopped rfl]
  rfl

namespace Importer

variable {importer : Importer} {moment : Moment}
variable {context : BlockChain.WriteContext Hash}
variable {block : Block} {state : ImportState}

theorem importBlock_of_process_failed
    (failed : (process importer.rules block state.progress).2 ≠ none) :
    (importer.importBlock moment context block state).1.node = state.node := by
  unfold importBlock
  split
  · rfl
  next processed =>
    rw [processed] at failed
    exact absurd rfl failed

theorem importBlock_of_processed
    (processed : (process importer.rules block state.progress).2 = none) :
    (importer.importBlock moment context block state).1.node =
      importer.finalizeBlock moment block state.node := by
  unfold importBlock
  split
  · next failed =>
      rw [failed] at processed
      cases processed
  split
  · rfl
  · split <;> rfl

/-- The consensus data before and after the import of a block are the same. -/
def KeepsStanding (importer : Importer) (moment : Moment) (context : BlockChain.WriteContext Hash)
    (block : Block) (state : ImportState) : Prop :=
  standing (importer.importBlock moment context block state).1.node = standing state.node

/--
The rejection of a block leaves the consensus data as they were exactly if one
of its transactions failed, or if it is not the PBFT engine that finalizes the
block, or if its height was finished before.
-/
theorem rejected_keepsStanding_iff (importer : Importer) (moment : Moment)
    (context : BlockChain.WriteContext Hash) (block : Block) (state : ImportState)
    (_rejected : (importer.importBlock moment context block state).2.isSome = true) :
    importer.KeepsStanding moment context block state ↔
      (process importer.rules block state.progress).2 ≠ none ∨
        importer.finalizesWithPbft block = false ∨ blockHeight block.header ≤
          state.node.dispatcher.finishedHeight := by
  unfold KeepsStanding
  by_cases processed : (process importer.rules block state.progress).2 = none
  · rw [importBlock_of_processed processed]
    unfold finalizeBlock
    by_cases finalizes : importer.finalizesWithPbft block = true
    · rw [if_pos finalizes]
      constructor
      · intro kept
        refine Or.inr (Or.inr (UInt64.not_lt.1 ?_))
        intro unfinished
        have moved := congrArg Standing.finishedHeight kept
        simp only [standing, finishedHeight_finalize_of_lt unfinished] at moved
        rw [moved] at unfinished
        exact absurd unfinished (UInt64.lt_irrefl _)
      · rintro (failed | other | finished)
        · exact absurd processed failed
        · rw [finalizes] at other
          cases other
        · unfold Node.finalize Node.finishedProposal
          rw [if_pos finished]
          rfl
    · rw [if_neg finalizes]
      exact iff_of_true rfl (Or.inr (Or.inl (Bool.eq_false_iff.2 finalizes)))
  · rw [importBlock_of_process_failed processed]
    exact iff_of_true rfl (Or.inl processed)

end Importer

namespace Sample

def importer : Importer where
  rules := {
    config := Types.Sample.mainnet
    isPbftEngine := true
    daoForkBlock := none
    daoForkSupport := false
    daoRefundContract := account 3
    daoDrainList := [] }
  validator := {
    createBloom := fun _ _ => List.Vector.replicate 256 0
    deriveSha := fun _ => emptyHash
    intermediateRoot := fun _ => emptyHash }
  settings := {
    pbftBlock := some 0
    isPbftEngine := true
    signersCount := 4
    blockSignersCount := 4 }
  setup := Pbft.Sample.setup [4]

def beforeImport : ImportState where
  node := Node.new [4] Pbft.Sample.fourProducers
  chain := {
    blocks := fun _ _ => none
    tds := fun _ _ => none
    canonical := fun _ => none
    current := ⟨emptyHash, emptyHash, 0, 2⟩ }
  progress := {
    db := emptyState
    collector := Collector.empty
    store := store
    gasPool := 0
    usedGas := 0
    receipts := [] }

def wrongGas : Block where
  header := { Pbft.Sample.waitingBlock 5 with gasUsed := 21000 }
  transactions := []

def quietWrite : BlockChain.WriteContext Hash :=
  ⟨none, false, none, false, none⟩

def afterImport : ImportState :=
  (importer.importBlock (Pbft.Sample.at_ 1) quietWrite wrongGas beforeImport).1

end Sample

open Sample

/--
A block with a wrong gas field is rejected, and its height is finished for the
producer all the same.
-/
theorem rejected_block_finishes_height :
    (importer.importBlock (Pbft.Sample.at_ 1) quietWrite wrongGas beforeImport).2.isSome = true ∧
      ¬importer.KeepsStanding (Pbft.Sample.at_ 1) quietWrite wrongGas beforeImport := by
  refine ⟨by decide +kernel, ?_⟩
  intro kept
  have moved := congrArg Standing.finishedHeight kept
  have finished :
      (importer.importBlock (Pbft.Sample.at_ 1) quietWrite wrongGas
        beforeImport).1.node.dispatcher.finishedHeight = 1 := by
    decide +kernel
  have unfinished : beforeImport.node.dispatcher.finishedHeight = 0 := rfl
  simp only [standing, finished, unfinished] at moved
  cases moved

/-- The second rejection of the same block changes nothing. -/
theorem second_rejection_keepsStanding :
    (importer.importBlock (Pbft.Sample.at_ 1) quietWrite wrongGas afterImport).2.isSome = true ∧
      importer.KeepsStanding (Pbft.Sample.at_ 1) quietWrite wrongGas afterImport := by
  have rejected :
      (importer.importBlock (Pbft.Sample.at_ 1) quietWrite wrongGas
        afterImport).2.isSome = true := by
    decide +kernel
  exact ⟨rejected,
    (Importer.rejected_keepsStanding_iff importer
      (Pbft.Sample.at_ 1) quietWrite wrongGas afterImport rejected).2
      (Or.inr (Or.inr (by decide +kernel)))⟩

end EscSideChain.Core
