import EscSideChain.SmallCrossCollection
import EscSideChain.TxListFilter
import EscSideChain.TxPoolValidation

namespace EscSideChain.Core

open Dpos State Spv WithdrawFailedTx Vm

/-!
# The gas of the data

Transactions pay for each byte of their data, except the small cross-chain
transactions to the zero address.  `IntrinsicGas` sees the data but not the
recipient: whatever begins with a small cross-chain transaction is free of the data
gas, in the pool and in the state transition alike.
-/

def baseGas (contractCreation isEIP155 : Bool) : Nat :=
  if contractCreation && isEIP155 then 53000 else 21000

def nonZeroGas (isEIP2028 : Bool) : Nat :=
  if isEIP2028 then 16 else 68

def nonZeroBytes (data : Bytes) : Nat :=
  data.countP fun byte => byte ≠ 0

/-- The gas of the transaction and of every byte of its data. -/
def fullGas (data : Bytes) (contractCreation isEIP155 isEIP2028 : Bool) : Nat :=
  baseGas contractCreation isEIP155 + nonZeroBytes data * nonZeroGas isEIP2028 +
    (data.length - nonZeroBytes data) * 4

/-- The full gas, if it is a `uint64`. -/
def fullCharge (data : Bytes) (contractCreation isEIP155 isEIP2028 : Bool) : Except CoreError Nat :=
  if fullGas data contractCreation isEIP155 isEIP2028 ≤ maxUint64 then
    .ok (fullGas data contractCreation isEIP155 isEIP2028)
  else .error (.vm .outOfGas)

variable (evm : Evm)

def IsSmallCross (data : Bytes) : Prop :=
  (isSmallCrossTxByData evm.format evm.pbftEngine data).isSome = true

section Charge

variable {evm} {data : Bytes} {contractCreation isEIP155 isEIP2028 : Bool}

theorem intrinsicGas_of_small (small : IsSmallCross evm data) :
    intrinsicGas evm data contractCreation isEIP155 isEIP2028 =
      .ok (baseGas contractCreation isEIP155) :=
  if_pos small

theorem intrinsicGas_of_notSmall (notSmall : ¬IsSmallCross evm data) :
    intrinsicGas evm data contractCreation isEIP155 isEIP2028 =
      if (maxUint64 - baseGas contractCreation isEIP155) /
          nonZeroGas isEIP2028 < nonZeroBytes data then
        .error (.vm .outOfGas)
      else if (maxUint64 - (baseGas contractCreation isEIP155 +
          nonZeroBytes data * nonZeroGas isEIP2028)) / 4 < data.length - nonZeroBytes data then
        .error (.vm .outOfGas)
      else
        .ok (fullGas data contractCreation isEIP155 isEIP2028) :=
  if_neg notSmall

theorem div_lt_iff_overflow {gas price : Nat} (count : Nat) (fits : gas ≤ maxUint64)
    (pos : 0 < price) : (maxUint64 - gas) / price < count ↔ maxUint64 < gas + count * price := by
  rw [Nat.div_lt_iff_lt_mul pos]
  omega

theorem intrinsicGas_eq_fullCharge (notSmall : ¬IsSmallCross evm data) :
    intrinsicGas evm data contractCreation isEIP155 isEIP2028 =
      fullCharge data contractCreation isEIP155 isEIP2028 := by
  have baseFits : baseGas contractCreation isEIP155 ≤ maxUint64 := by
    unfold baseGas
    split <;> decide
  have pricePos : 0 < nonZeroGas isEIP2028 := by
    unfold nonZeroGas
    split <;> decide
  have first := div_lt_iff_overflow (nonZeroBytes data) baseFits pricePos
  rw [intrinsicGas_of_notSmall notSmall, fullCharge]
  by_cases nonZeroFits : baseGas contractCreation isEIP155 +
      nonZeroBytes data * nonZeroGas isEIP2028 ≤ maxUint64
  · have second := div_lt_iff_overflow (data.length - nonZeroBytes data)
      nonZeroFits (show 0 < 4 by decide)
    rw [if_neg (first.not.2 (Nat.not_lt.2 nonZeroFits))]
    by_cases allFits : fullGas data contractCreation isEIP155 isEIP2028 ≤ maxUint64
    · rw [if_pos allFits, if_neg (second.not.2 (Nat.not_lt.2 allFits))]
    · rw [if_neg allFits, if_pos (second.2 (Nat.lt_of_not_le allFits))]
  · have allExceeds : ¬fullGas data contractCreation isEIP155 isEIP2028 ≤ maxUint64 :=
      fun allFits => nonZeroFits (Nat.le_of_add_right_le allFits)
    rw [if_pos (first.2 (Nat.lt_of_not_le nonZeroFits)), if_neg allExceeds]

theorem length_of_small (small : IsSmallCross evm data) : 1024 ≤ data.length := by
  by_contra short
  rw [IsSmallCross, isSmallCrossTxByData, if_pos (.inl (Nat.lt_of_not_le short))] at small
  cases small

theorem baseGas_lt_fullGas (small : IsSmallCross evm data) :
    baseGas contractCreation isEIP155 < fullGas data contractCreation isEIP155 isEIP2028 := by
  have long := length_of_small small
  have nonZeroCosts : nonZeroBytes data * 16 ≤ nonZeroBytes data * nonZeroGas isEIP2028 := by
    refine Nat.mul_le_mul_left _ ?_
    unfold nonZeroGas
    split <;> decide
  unfold fullGas
  omega

theorem intrinsicGas_eq_fullCharge_iff :
    intrinsicGas evm data contractCreation isEIP155 isEIP2028 =
        fullCharge data contractCreation isEIP155 isEIP2028 ↔
      ¬IsSmallCross evm data := by
  constructor
  · intro charged small
    rw [intrinsicGas_of_small small, fullCharge] at charged
    split at charged
    · exact (baseGas_lt_fullGas small).ne (Except.ok.inj charged)
    · cases charged
  · exact intrinsicGas_eq_fullCharge

end Charge

/-! ## The two callers -/

/-- `IntrinsicGas` as the state transition calls it. -/
def transitionIntrinsicGas (msg : Message) : Except CoreError Nat :=
  intrinsicGas evm msg.data msg.recipient.isNone evm.rules.isHomestead evm.rules.isIstanbul

def IsSmallTransfer (data : Bytes) (recipient : Option Address) : Prop :=
  IsSmallCross evm data ∧ recipient = some blackAddr

/-- The pool charges all data, except that of the small transfers. -/
def PoolChargesData (view : PoolView) (tx : Transaction) : Prop :=
  ¬IsSmallTransfer evm tx.data tx.recipient → poolIntrinsicGas evm view tx =
      fullCharge tx.data tx.recipient.isNone true view.istanbul

/-- The transition charges all data, except that of the small transfers. -/
def TransitionChargesData (msg : Message) : Prop :=
  ¬IsSmallTransfer evm msg.data msg.recipient → transitionIntrinsicGas evm msg =
      fullCharge msg.data msg.recipient.isNone evm.rules.isHomestead evm.rules.isIstanbul

/-- Data that looks like a small transfer goes to the zero address. -/
def OnlyTransfersAreSmall (data : Bytes) (recipient : Option Address) : Prop :=
  IsSmallCross evm data → recipient = some blackAddr

/--
The pool and the state transition charge everyone else for the data exactly if no
other message carries the data of a small cross-chain transaction.
-/
theorem chargesData_iff (view : PoolView) (tx : Transaction) (msg : Message) :
    (PoolChargesData evm view tx ↔ OnlyTransfersAreSmall evm tx.data tx.recipient) ∧
      (TransitionChargesData evm msg ↔ OnlyTransfersAreSmall evm msg.data msg.recipient) := by
  unfold PoolChargesData TransitionChargesData OnlyTransfersAreSmall
    poolIntrinsicGas transitionIntrinsicGas IsSmallTransfer
  simp only [intrinsicGas_eq_fullCharge_iff]
  tauto

/-! ## What the two charges are for -/

section Paid

variable {evm} {view : PoolView} {tx : Transaction} {isLocal : Bool}
variable {isLocalAccount : Address → Bool}

theorem bind_eq_ok_iff {Error First Second : Type} {check : Except Error First}
    {next : First → Except Error Second} {result : Second} :
    (check >>= next) = .ok result ↔ ∃ value, check = .ok value ∧ next value = .ok result := by
  cases check <;> simp [bind, Except.bind]

/-- A transaction that `validateTx` takes has the gas that the pool charges. -/
theorem poolIntrinsicGas_of_validateTx
    (valid : validateTx evm view isLocalAccount tx isLocal = .ok ()) :
    ∃ gas, poolIntrinsicGas evm view tx = .ok gas ∧ gas ≤ tx.gas := by
  unfold validateTx at valid
  simp only [bind_eq_ok_iff] at valid
  obtain ⟨_, _, _, _, _, _, _, _, _, _, _, charged, _⟩ := valid
  unfold checkIntrinsicGas at charged
  cases charge : poolIntrinsicGas evm view tx with
  | error err =>
    rw [charge] at charged
    cases charged
  | ok gas =>
    rw [charge] at charged
    dsimp only [PoolError.unless] at charged
    split at charged
    · next covered => exact ⟨gas, rfl, covered⟩
    · cases charged

/-- Under the condition, a transaction that is no small transfer and is taken covers all its data. -/
theorem fullGas_le_of_validateTx (only : OnlyTransfersAreSmall evm tx.data tx.recipient)
    (noTransfer : ¬IsSmallTransfer evm tx.data tx.recipient)
    (valid : validateTx evm view isLocalAccount tx isLocal = .ok ()) :
    fullGas tx.data tx.recipient.isNone true view.istanbul ≤ tx.gas := by
  obtain ⟨gas, charge, covered⟩ := poolIntrinsicGas_of_validateTx valid
  rw [poolIntrinsicGas, intrinsicGas_eq_fullCharge fun small => noTransfer ⟨small, only small⟩,
    fullCharge] at charge
  split at charge
  · cases charge
    exact covered
  · cases charge

/-- A message that `TransitionDb` accepts pays the charge of the transition. -/
theorem transitionDb_charges {st : Transition} {msg : Message}
    (accepted : (transitionDb evm st msg).err = none) :
    ∃ admitted loan gas,
      Accepted evm st msg admitted loan gas ∧ transitionIntrinsicGas evm msg = .ok gas := by
  obtain ⟨admitted, loan, gas, stages⟩ := transitionDb_ok accepted
  exact ⟨admitted, loan, gas, stages, stages.intrinsic⟩

end Paid

namespace Sample

def smallNode : Evm :=
  { node idle with format := SmallCross.Sample.oneIdFormat }

def disguisedData : Bytes :=
  SmallCross.serializeSmallCrossTx SmallCross.Sample.oneIdWriter
      ⟨[97], [97], [List.replicate 128 97], 1⟩ ++
    List.replicate 1024 1

def smallView : PoolView where
  currentState := emptyState
  currentMaxGas := 8000000
  istanbul := true
  gasPrice := 1
  minGasPrice := .error "spv service is nil"
  mainChainIsPowMode := false
  frozeAccountList := []
  isBlacklistedOnChain _ := .ok false
  size tx := tx.data.length

end Sample

open Sample

/--
A transaction to another account whose data begins with a small cross-chain
transaction pays the base gas only.
-/
theorem disguised_call_pays_base :
    ¬PoolChargesData smallNode smallView (poolTx 0 1 (account 4) disguisedData) ∧
      ¬TransitionChargesData smallNode (message (account 4) disguisedData) := by
  have small : IsSmallCross smallNode disguisedData := by
    unfold IsSmallCross
    decide +kernel
  have elsewhere : some (account 4) ≠ some blackAddr := by decide
  constructor
  · intro charges
    exact intrinsicGas_eq_fullCharge_iff.1 (charges fun transfer => elsewhere transfer.2) small
  · intro charges
    exact intrinsicGas_eq_fullCharge_iff.1 (charges fun transfer => elsewhere transfer.2) small

end EscSideChain.Core
