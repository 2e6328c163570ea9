import EscSideChain.PbftHeader

namespace EscSideChain.Pbft

open Dpos

/-!
# The seal verdicts of two nodes

`verifySeal` takes its threshold from the arbiters of the main-chain height that
the header names.  `GetProducers` first looks at the consensus mode of the main
chain, and it does so at the local SPV tip: a node whose tip is in proof-of-work
mode asks for no votes at all.
-/

/-- Two SPV stores have the same data of the main chain up to a height. -/
structure SameMainChain (first second : Spv.SpvService) (height : UInt64) : Prop where
  arbiters : ∀ known : UInt32, known.toNat ≤ height.toNat →
    first.getArbiters known = second.getArbiters known
  modes : ∀ known : UInt32, known.toNat ≤ height.toNat →
    first.getConsensusAlgorithm known = second.getConsensusAlgorithm known

def PowAtTip (service : Spv.SpvService) : Prop :=
  Spv.getCurrentConsensusMode (some service) = .pow

def ReachesThreshold (service : Spv.SpvService) (elaHeight : UInt64) (confirm : Confirm) : Prop :=
  ∃ crcArbiters normalArbiters, service.getArbiters elaHeight.toUInt32 =
        .ok (crcArbiters, normalArbiters) ∧
      crcArbiters.length < 2 ^ 63 ∧
      getMajorityCountByTotalSigners crcArbiters.length ≤ confirm.votes.length

/-- The seal passes every check of `verifySeal` but the number of votes. -/
structure Verifier.PassesUncounted (engine : Verifier) (chain : ChainReader) (header : Header)
    (confirm : Confirm) : Prop where
  numbered :
    ∃ bigNumber, header.number = some bigNumber ∧ UInt64.ofNat bigNumber ≠ 0 ∧
        ¬engine.ClashesWithStored chain (UInt64.ofNat bigNumber) header confirm
  decoded : engine.ela.deserializeConfirm header.extra = .ok confirm
  checked : checkConfirm engine.ela confirm 0 = .ok ()

def Verifier.OnlyLacksVotes (engine : Verifier) (service : Spv.SpvService) (chain : ChainReader)
    (header : Header) : Prop :=
  ∃ confirm, engine.PassesUncounted chain header confirm ∧
    ¬ReachesThreshold service header.nonce confirm

theorem SameMainChain.reachesThreshold_iff {first second : Spv.SpvService} {height : UInt64}
    {confirm : Confirm} (same : SameMainChain first second height) :
    ReachesThreshold first height confirm ↔ ReachesThreshold second height confirm := by
  have known : height.toUInt32.toNat ≤ height.toNat := by
    rw [UInt64.toNat_toUInt32]
    exact Nat.mod_le _ _
  unfold ReachesThreshold
  rw [same.arbiters _ known]

namespace Verifier

variable {engine : Verifier} {service : Spv.SpvService}
variable {chain : ChainReader} {header : Header} {confirm : Confirm}

theorem checkConfirm_iff_uncounted {ela : ElaLibrary} {minSignCount : Nat} :
    checkConfirm ela confirm minSignCount = .ok () ↔ checkConfirm ela confirm 0 = .ok () ∧
        minSignCount ≤ confirm.votes.length := by
  rw [checkConfirm_eq_ok_iff, checkConfirm_eq_ok_iff]
  constructor
  · rintro ⟨signed, enough, accepting⟩
    exact ⟨⟨signed, Nat.zero_le _, accepting⟩, enough⟩
  · rintro ⟨⟨signed, -, accepting⟩, enough⟩
    exact ⟨signed, enough, accepting⟩

theorem verifyConfirm_eq_ok_iff_votes (started : engine.spvService = some service)
    (voted : header.nonce ≠ 0) :
    engine.verifyConfirm confirm header.nonce = .ok () ↔
      checkConfirm engine.ela confirm 0 = .ok () ∧
        (PowAtTip service ∨ ReachesThreshold service header.nonce confirm) := by
  rw [engine.verifyConfirm_eq_ok_iff voted, started]
  unfold Spv.getProducers PowAtTip ReachesThreshold
  by_cases pow : Spv.getCurrentConsensusMode (some service) = .pow
  · simp [pow, getMajorityCountByTotalSigners]
  cases listed : service.getArbiters header.nonce.toUInt32 with
  | error reason => simp [pow, listed]
  | ok arbiters =>
    obtain ⟨crcArbiters, normalArbiters⟩ := arbiters
    by_cases fits : crcArbiters.length < 2 ^ 63
    · have added : Spv.safeAdd crcArbiters.length 0 = .ok crcArbiters.length := if_pos fits
      have counted := @checkConfirm_iff_uncounted confirm engine.ela
        (getMajorityCountByTotalSigners crcArbiters.length)
      simpa [pow, listed, added, fits, -Nat.reducePow] using counted
    · have overflows : Spv.safeAdd crcArbiters.length 0 = .error "safe add overflow" := if_neg fits
      simp [pow, listed, overflows, fits, -Nat.reducePow]

theorem verifySeal_eq_ok_iff_votes (started : engine.spvService = some service)
    (voted : header.nonce ≠ 0) :
    engine.verifySeal chain header = .ok () ↔
      ∃ confirm, engine.PassesUncounted chain header confirm ∧
        (PowAtTip service ∨ ReachesThreshold service header.nonce confirm) := by
  rw [verifySeal_eq_ok_iff]
  constructor
  · rintro ⟨confirm, numbered, decoded, confirmed⟩
    obtain ⟨checked, votes⟩ := (verifyConfirm_eq_ok_iff_votes started voted).mp confirmed
    exact ⟨confirm, ⟨numbered, decoded, checked⟩, votes⟩
  · rintro ⟨confirm, ⟨numbered, decoded, checked⟩, votes⟩
    exact ⟨confirm, numbered, decoded, (verifyConfirm_eq_ok_iff_votes started voted).mpr
        ⟨checked, votes⟩⟩

theorem PassesUncounted.of_same {first second : Verifier} (sameLibrary : first.ela = second.ela)
    (sameHash : first.rlpHash = second.rlpHash)
    (passes : first.PassesUncounted chain header confirm) :
    second.PassesUncounted chain header confirm := by
  obtain ⟨⟨bigNumber, numbered, notGenesis, noClash⟩, decoded, checked⟩ := passes
  rw [sameLibrary] at decoded checked
  refine ⟨⟨bigNumber, numbered, notGenesis, ?_⟩, decoded, checked⟩
  rintro ⟨oldHeader, oldConfirm, stored, oldDecoded, sameView, differ⟩
  refine noClash ⟨oldHeader, oldConfirm, stored, ?_, sameView, ?_⟩
  · rw [sameLibrary]
    exact oldDecoded
  · simpa only [headerHash, sameHash] using differ

theorem OnlyLacksVotes.verifySeal_iff (started : engine.spvService = some service)
    (voted : header.nonce ≠ 0) (lacking : engine.OnlyLacksVotes service chain header) :
    engine.verifySeal chain header = .ok () ↔ PowAtTip service := by
  obtain ⟨confirm, passes, few⟩ := lacking
  rw [verifySeal_eq_ok_iff_votes started voted]
  constructor
  · rintro ⟨other, otherPasses, pow | enough⟩
    · exact pow
    · cases passes.decoded.symm.trans otherPasses.decoded
      exact absurd enough few
  · intro pow
    exact ⟨confirm, passes, .inl pow⟩

theorem verifySeal_iff_of_not_onlyLacksVotes (started : engine.spvService = some service)
    (voted : header.nonce ≠ 0) (notLacking : ¬engine.OnlyLacksVotes service chain header) :
    engine.verifySeal chain header = .ok () ↔
      ∃ confirm, engine.PassesUncounted chain header confirm ∧
        ReachesThreshold service header.nonce confirm := by
  rw [verifySeal_eq_ok_iff_votes started voted]
  constructor
  · rintro ⟨confirm, passes, -⟩
    refine ⟨confirm, passes, ?_⟩
    by_contra few
    exact notLacking ⟨confirm, passes, few⟩
  · rintro ⟨confirm, passes, enough⟩
    exact ⟨confirm, passes, .inr enough⟩

/--
Two nodes with the same data of the main chain up to the height that a header
names judge its seal alike if and only if the main chain is in proof-of-work
mode at both their tips or at neither, or the seal does not merely lack votes.
-/
theorem sealVerdicts_agree_iff (first second : Verifier)
    (firstService secondService : Spv.SpvService) (chain : ChainReader) (header : Header)
    (firstStarted : first.spvService = some firstService)
    (secondStarted : second.spvService = some secondService) (sameLibrary : first.ela = second.ela)
    (sameHash : first.rlpHash = second.rlpHash) (voted : header.nonce ≠ 0)
    (sameData : SameMainChain firstService secondService header.nonce) :
    (first.verifySeal chain header = .ok () ↔ second.verifySeal chain header = .ok ()) ↔
      (PowAtTip firstService ↔ PowAtTip secondService) ∨
        ¬first.OnlyLacksVotes firstService chain header := by
  have samePasses : ∀ confirm, first.PassesUncounted chain header confirm ↔
        second.PassesUncounted chain header confirm :=
    fun confirm => ⟨.of_same sameLibrary sameHash, .of_same sameLibrary.symm sameHash.symm⟩
  have sameLacking :
      first.OnlyLacksVotes firstService chain header ↔
        second.OnlyLacksVotes secondService chain header := by
    simp only [OnlyLacksVotes, samePasses, sameData.reachesThreshold_iff]
  by_cases lacking : first.OnlyLacksVotes firstService chain header
  · rw [lacking.verifySeal_iff firstStarted voted,
      (sameLacking.mp lacking).verifySeal_iff secondStarted voted]
    simp [lacking]
  rw [verifySeal_iff_of_not_onlyLacksVotes firstStarted voted lacking,
    verifySeal_iff_of_not_onlyLacksVotes secondStarted voted
      (fun other => lacking (sameLacking.mpr other))]
  simp [samePasses, sameData.reachesThreshold_iff, lacking]

end Verifier

/-! ## One main chain seen from two tips -/

namespace Sample

def serviceAtTip (tip : UInt32) : Spv.SpvService where
  blockListenerHeight := some tip
  bestHeaderHeight := .ok tip
  getConsensusAlgorithm height :=
    if 250 ≤ height then .ok .pow else .ok .dpos
  getArbiters _ := .ok ([[1], [2], [3]], [])

theorem serviceAtTip_sameMainChain (first second : UInt32) (height : UInt64) :
    SameMainChain (serviceAtTip first) (serviceAtTip second) height where
  arbiters _ _ := rfl
  modes _ _ := rfl

def votedConfirm (voters : List Bytes) : Confirm :=
  let proposal := plainLibrary.proposal [1] (digest (encodeSigHeader (child 5 [9]))) 0
  ⟨proposal, voters.map (plainLibrary.acceptVote · proposal)⟩

def verifierAtTip (tip : UInt32) (voters : List Bytes) : Verifier :=
  { verifier [([9], votedConfirm voters)] with
    spvService := some (serviceAtTip tip) }

end Sample

open Sample

namespace Verifier

/-- Two votes of three council members count at either tip. -/
theorem sealVerdicts_agree_iff_two_voters :
    (((verifierAtTip 200 [[1], [2]]).verifySeal chain (child 5 [9]) = .ok () ↔
        (verifierAtTip 300 [[1], [2]]).verifySeal chain (child 5 [9]) = .ok ()) ↔
      (PowAtTip (serviceAtTip 200) ↔ PowAtTip (serviceAtTip 300)) ∨
        ¬(verifierAtTip 200 [[1], [2]]).OnlyLacksVotes (serviceAtTip 200) chain (child 5 [9])) ∧
      (verifierAtTip 200 [[1], [2]]).verifySeal chain (child 5 [9]) = .ok () ∧
      (verifierAtTip 300 [[1], [2]]).verifySeal chain (child 5 [9]) = .ok () :=
  ⟨sealVerdicts_agree_iff (verifierAtTip 200 [[1], [2]])
      (verifierAtTip 300 [[1], [2]]) (serviceAtTip 200)
      (serviceAtTip 300) chain (child 5 [9]) rfl rfl rfl rfl (by decide)
      (serviceAtTip_sameMainChain 200 300 _),
    by decide +kernel, by decide +kernel⟩

/--
A confirm without any vote is refused by the node whose tip is at height 200
and accepted by the node whose tip has reached the proof-of-work mode.
-/
theorem empty_confirm_accepted_at_pow_tip :
    let header := child 5 [9]
    SameMainChain (serviceAtTip 200) (serviceAtTip 300) header.nonce ∧
      header.nonce = 100 ∧ (verifierAtTip 200 []).verifySeal chain header ≠ .ok () ∧
      (verifierAtTip 300 []).verifySeal chain header = .ok () :=
  ⟨serviceAtTip_sameMainChain 200 300 _, rfl, by decide +kernel, by decide +kernel⟩

end Verifier

end EscSideChain.Pbft
