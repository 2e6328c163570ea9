import EscSideChain.SupplyConservation

namespace EscSideChain.Core

open Dpos State Spv WithdrawFailedTx Vm

/-!
# The gas exemption of the bridge contract

`TransitionDb` returns all gas for a message that sets the arbiters of the
bridge contract.  It looks for the bridge contract in the configuration and in
the state, and for the two methods in the data, but not at the recipient.
-/

variable {evm : Evm} {msg : Message}

def bridgeAddress (evm : Evm) : Address :=
  hexToAddress evm.config.bridgeContractAddr

def carriesArbiterMethod (evm : Evm) (msg : Message) : Bool :=
  evm.setArbiterList.isPrefixOf msg.data || evm.setManualArbiter.isPrefixOf msg.data

def afterCalls (evm : Evm) (st : Transition) (msg : Message) : Transition × List Result :=
  match admitMessage evm st msg with
  | (refused, .error _) => (refused, [])
  | (admitted, .ok loan) =>
    match intrinsicGas evm msg.data msg.recipient.isNone
        evm.rules.isHomestead evm.rules.isIstanbul with
    | .error _ => (admitted, [])
    | .ok gas => perform evm loan (ready evm gas admitted msg) msg

variable {st admitted : Transition} {gas : Nat}

/-! ## Used gas -/

theorem intrinsicGas_pos {data : Bytes} {contractCreation isEIP155 isEIP2028 : Bool}
    (ok : intrinsicGas evm data contractCreation isEIP155 isEIP2028 = .ok gas) : 0 < gas := by
  have basePos : 0 < (if (contractCreation && isEIP155) = true then 53000
        else 21000 : Nat) := by
    split <;> decide
  unfold intrinsicGas at ok
  dsimp only at ok
  generalize (if (contractCreation && isEIP155) = true then 53000
    else 21000 : Nat) = base at ok basePos
  generalize (if isEIP2028 = true then 16 else 68 : Nat) = price at ok
  split at ok
  · cases ok
    exact basePos
  split at ok
  · cases ok
  split at ok
  · cases ok
  cases ok
  exact Nat.add_pos_left (Nat.add_pos_left basePos _) _

@[simp] theorem gasUsed_payFee (loan : Loan) (st : Transition) :
    (payFee evm loan st msg).gasUsed = st.gasUsed := by
  unfold payFee
  split <;> rfl

theorem gasUsed_returnGas (refund : Nat) (st : Transition) :
    (returnGas refund st msg).gasUsed = st.gasUsed - refund :=
  Nat.sub_add_eq st.initialGas st.gas refund

theorem gasUsed_payOut_eq_zero_iff (used : 0 < st.gasUsed) (loan : Loan) (vmerr : Option VmError) :
    (payOut evm loan vmerr st msg).gasUsed = 0 ↔
      isBridgeContract evm st.db msg = true ∧ vmerr = none := by
  unfold payOut
  split
  · next isBridge =>
      rw [gasUsed_payFee, refundBridgeGas, gasUsed_returnGas, Nat.sub_self]
      exact iff_of_true rfl isBridge
  next notBridge =>
    rw [gasUsed_payFee, refundGas, gasUsed_returnGas]
    refine iff_of_false ?_ notBridge
    have half : min (st.gasUsed / 2) st.db.refund ≤ st.gasUsed / 2 := min_le_left _ _
    omega

theorem Accepted.intrinsic_le {loan : Loan}
    (unused : st.gas = 0) (stages : Accepted evm st msg admitted loan gas) : gas ≤ msg.gas := by
  have admittedGas : admitted.gas = 0 := (admitMessage_ok stages.isAdmitted).gas_eq.trans unused
  have enough := stages.enough
  simpa only [bought, admittedGas, Nat.zero_add] using enough

theorem gasUsed_perform_pos (unused : st.gas = 0) (positive : 0 < gas)
    (enough : gas ≤ msg.gas) (loan : Loan) :
    0 < (perform evm loan (ready evm gas st msg) msg).1.gasUsed := by
  have performed :
      (perform evm loan (ready evm gas st msg) msg).1.gas ≤ (ready evm gas st msg).gas ∧
        (perform evm loan (ready evm gas st msg) msg).1.initialGas =
          (ready evm gas st msg).initialGas :=
    perform_gas loan _
  have readyGas : (ready evm gas st msg).gas = msg.gas - gas ∧
      (ready evm gas st msg).initialGas = msg.gas := by
    unfold ready prepared bought
    split <;> simp [unused, Transition.withDb]
  unfold Transition.gasUsed
  omega

theorem Accepted.gasUsed_pos {loan : Loan}
    (unused : st.gas = 0) (stages : Accepted evm st msg admitted loan gas) :
    0 < (perform evm loan (ready evm gas admitted msg) msg).1.gasUsed :=
  gasUsed_perform_pos ((admitMessage_ok stages.isAdmitted).gas_eq.trans unused)
    (intrinsicGas_pos stages.intrinsic) (stages.intrinsic_le unused) loan

/-! ## Who is exempted -/

/-- A message that is accepted without using gas goes to the bridge contract. -/
def ExemptionConfined (evm : Evm) (world : World) (store : SpvStore) (gasPool : Nat)
    (msg : Message) : Prop :=
  (applyMessage evm world store gasPool msg).err = none →
    (applyMessage evm world store gasPool msg).result.usedGas = 0 → 0 < msg.gas →
    msg.recipient = some (bridgeAddress evm)

/--
What takes a message to another recipient into the branch of the bridge
contract: a bridge contract is configured and has code when the calls have been
made, the data begins with one of the two ids, and the last call succeeds.
-/
structure SlipsThrough (evm : Evm) (st : Transition) (msg : Message) : Prop where
  configured : evm.config.bridgeContractAddr ≠ []
  notZero : bridgeAddress evm ≠ blackAddr
  hasCode : (afterCalls evm st msg).1.db.getCode (bridgeAddress evm) ≠ []
  carries : carriesArbiterMethod evm msg = true
  succeeds : lastErr (afterCalls evm st msg).2 = none
  elsewhere : msg.recipient ≠ some (bridgeAddress evm)

theorem isBridgeContract_eq_true_iff {db : StateDB} :
    isBridgeContract evm db msg = true ↔ evm.config.bridgeContractAddr ≠ [] ∧
        bridgeAddress evm ≠ blackAddr ∧ db.getCode (bridgeAddress evm) ≠ [] ∧
        carriesArbiterMethod evm msg = true := by
  simp [isBridgeContract, bridgeAddress, carriesArbiterMethod, and_assoc]

theorem usedGas_eq_zero_iff (unused : st.gas = 0)
    (accepted : (transitionDb evm st msg).err = none) :
    (transitionDb evm st msg).result.usedGas = 0 ↔
      isBridgeContract evm (afterCalls evm st msg).1.db msg = true ∧
        lastErr (afterCalls evm st msg).2 = none := by
  obtain ⟨admitted, loan, gas, stages⟩ := transitionDb_ok accepted
  unfold afterCalls
  rw [stages.result, stages.isAdmitted, stages.intrinsic]
  exact gasUsed_payOut_eq_zero_iff (stages.gasUsed_pos unused) loan _

theorem gas_pos_of_accepted (unused : st.gas = 0)
    (accepted : (transitionDb evm st msg).err = none) : 0 < msg.gas := by
  obtain ⟨admitted, loan, gas, stages⟩ := transitionDb_ok accepted
  exact (intrinsicGas_pos stages.intrinsic).trans_le (stages.intrinsic_le unused)

/--
The exemption is confined to the bridge contract unless an accepted message to
another recipient carries the id of one of its methods.
-/
theorem exemptionConfined_iff (evm : Evm) (world : World) (store : SpvStore) (gasPool : Nat)
    (msg : Message) :
    ExemptionConfined evm world store gasPool msg ↔
      ((applyMessage evm world store gasPool msg).err = none →
        ¬SlipsThrough evm ⟨world, store, gasPool, 0, 0⟩ msg) := by
  unfold ExemptionConfined
  constructor
  · intro confined accepted slips
    refine slips.elsewhere (confined accepted ?_ (gas_pos_of_accepted rfl accepted))
    exact (usedGas_eq_zero_iff rfl accepted).2
      ⟨isBridgeContract_eq_true_iff.2 ⟨slips.configured, slips.notZero,
        slips.hasCode, slips.carries⟩, slips.succeeds⟩
  · intro safe accepted unused _
    by_contra elsewhere
    obtain ⟨isBridge, succeeds⟩ := (usedGas_eq_zero_iff rfl accepted).1 unused
    obtain ⟨configured, notZero, hasCode, carries⟩ := isBridgeContract_eq_true_iff.1 isBridge
    exact safe accepted ⟨configured, notZero, hasCode, carries, succeeds, elsewhere⟩

namespace Sample

def bridgeNode : Evm :=
  { node idle with
    config := { (node idle).config with
      bridgeContractAddr := hexutilEncode (account 2).toList } }

def bridgeState : StateDB :=
  (emptyState.setCode (account 2) [1]).addBalance (account 3) 200000

end Sample

open Sample

/--
A plain transfer to another account is free if its data begins with the id of a
method of the bridge contract.
-/
theorem plain_transfer_exempted :
    ¬ExemptionConfined bridgeNode ⟨bridgeState, Collector.empty, []⟩ store 200000
      (message (account 4) [1]) := by
  intro confined
  have recipient := confined (by decide +kernel) (by decide +kernel) (by decide)
  exact absurd recipient (by decide +kernel)

end EscSideChain.Core
