import EscSideChain.PbftSealMalleability
import Mathlib.Data.List.Dedup

namespace EscSideChain.Pbft.Verifier

open Dpos

/-!
# What an accepted seal says

An accepted header carries a confirm whose votes are all valid accept votes for the
confirm's own proposal, and there are as many votes as the threshold asks for.  Two
further properties a light client would want are not enforced by any check on the path:
that the confirm names this header, and that the votes come from different members of the
producer list.
-/

variable (engine : Verifier)

/-! ## Which block a confirm is about -/

def SealBound (header : Header) : Prop :=
  ∃ confirm, engine.ela.deserializeConfirm header.extra = .ok confirm ∧
      confirm.proposal.blockHash = engine.sealHash header

/-- A header with the same contents over another state root. -/
def withRoot (header : Header) (root : Hash) : Header :=
  { header with root := root }

/--
`SealHash` tells headers apart that differ in their state roots.  The root is one of the encoded
fields, so a hash without collisions does.
-/
def SeparatesRoots (header : Header) : Prop :=
  Function.Injective fun root => engine.sealHash (withRoot header root)

variable {producers : List Bytes}
variable {confirm : Confirm}

/-- An injective function misses any two values somewhere. -/
theorem exists_root_avoiding
    {digest : Hash → Hash}
    (injective : Function.Injective digest)
    (first second : Hash) :
    ∃ root, digest root ≠ first ∧ digest root ≠ second := by
  by_contra! hit
  have either (root : Hash) : digest root = first ∨ digest root = second :=
    or_iff_not_imp_left.mpr (hit root)
  have zero := either (bytesToHash [0])
  have one := either (bytesToHash [1])
  have two := either (bytesToHash [2])
  have zeroOne : digest (bytesToHash [0]) ≠ digest (bytesToHash [1]) :=
    injective.ne (by decide)
  have zeroTwo : digest (bytesToHash [0]) ≠ digest (bytesToHash [2]) :=
    injective.ne (by decide)
  have oneTwo : digest (bytesToHash [1]) ≠ digest (bytesToHash [2]) :=
    injective.ne (by decide)
  grind

theorem verifySeal_withRoot
    {chain : ChainReader}
    {header : Header}
    (fresh : Fresh chain header)
    (accepted : engine.verifySeal chain header = .ok ())
    (root : Hash) :
    engine.verifySeal chain (withRoot header root) = .ok () := by
  obtain ⟨confirm, ⟨bigNumber, numbered, notGenesis, _⟩, decoded, confirmed⟩ :=
    engine.verifySeal_eq_ok_iff.mp accepted
  exact engine.verifySeal_eq_ok_iff.mpr
    ⟨confirm, ⟨bigNumber, numbered, notGenesis, fresh.not_clashes numbered _ _⟩, decoded, confirmed⟩

/--
No accepted header at a new height binds its seal: another header with the same number, nonce and
extra data and with another seal hash is accepted as well, by `verifySeal` and wherever the first
one is by `verifyHeader`, although the confirm in the extra data does not name it.
-/
theorem accepted_seal_not_binding
    (engine : Verifier)
    (chain : ChainReader)
    (header : Header)
    (separates : engine.SeparatesRoots header)
    (fresh : Fresh chain header)
    (accepted : engine.verifySeal chain header = .ok ()) :
    ∃ other : Header,
      other.number = header.number ∧ other.nonce = header.nonce ∧ other.extra = header.extra ∧
        engine.sealHash other ≠ engine.sealHash header ∧
        engine.verifySeal chain other = .ok () ∧
        (∀ parents, engine.verifyHeader chain header parents true = .ok () →
          engine.verifyHeader chain other parents true = .ok ()) ∧
        ¬engine.SealBound other := by
  obtain ⟨confirm, -, decoded, -⟩ := engine.verifySeal_eq_ok_iff.mp accepted
  obtain ⟨root, otherHash, notNamed⟩ :=
    exists_root_avoiding separates (engine.sealHash header) confirm.proposal.blockHash
  have alsoAccepted := engine.verifySeal_withRoot fresh accepted root
  refine ⟨withRoot header root, rfl, rfl, rfl, otherHash, alsoAccepted, ?_, ?_⟩
  · intro parents whole
    rw [verifyHeader_sealed_eq_ok_iff] at whole ⊢
    -- The header's own checks do not read the state root.
    exact ⟨whole.1, alsoAccepted⟩
  · rintro ⟨sameConfirm, sameDecoded, named⟩
    -- The extra data decodes to one confirm only.
    cases decoded.symm.trans sameDecoded
    exact notNamed named.symm

open Sample

def firstChildConfirm : Confirm :=
  let proposal := plainLibrary.proposal [1] (digest (encodeSigHeader (child 5 [9]))) 0
  ⟨proposal, [plainLibrary.acceptVote [1] proposal, plainLibrary.acceptVote [2] proposal]⟩

/-- A hash that is the state root of the header it hashes. -/
def rootDigest (items : List RlpItem) : Hash :=
  match items.getD 3 (.uint 0) with
  | .bytes content => bytesToHash content
  | .uint _ => emptyHash

def rootVerifier : Verifier :=
  { verifier [([9], firstChildConfirm)] with rlpHash := rootDigest }

theorem rootVerifier_separatesRoots (header : Header) : rootVerifier.SeparatesRoots header := by
  intro first second same
  have lists : (bytesToHash first.toList).toList = (bytesToHash second.toList).toList :=
    congrArg List.Vector.toList same
  rw [toList_bytesToHash first.toList_length, toList_bytesToHash second.toList_length] at lists
  exact List.Vector.toList_injective lists

/-- The block made at time five, with the confirm of two council members. -/
theorem accepted_seal_not_binding_child :
    rootVerifier.verifySeal chain (child 5 [9]) = .ok () ∧
      ∃ other : Header,
        other.extra = [9] ∧ rootVerifier.sealHash other ≠ rootVerifier.sealHash (child 5 [9]) ∧
          rootVerifier.verifySeal chain other = .ok () ∧ ¬rootVerifier.SealBound other := by
  have accepted : rootVerifier.verifySeal chain (child 5 [9]) = .ok () := by decide +kernel
  obtain ⟨other, -, -, extra, apart, alsoAccepted, -, unbound⟩ :=
    accepted_seal_not_binding rootVerifier chain (child 5 [9])
      (rootVerifier_separatesRoots _) (child_fresh 5 [9]) accepted
  exact ⟨accepted, other, extra, apart, alsoAccepted, unbound⟩

/--
The confirm of the block made at time five is accepted on that block and on
the block made at time six, which it does not name.
-/
theorem verifyHeader_accepts_foreign_confirm :
    let engine := verifier [([9], firstChildConfirm)]
    let named := child 5 [9]
    let other := child 6 [9]
    engine.sealHash named ≠ engine.sealHash other ∧
      engine.verifyHeader chain named [] true = .ok () ∧
      engine.verifyHeader chain other [] true = .ok () ∧
      engine.verifySeal chain other = .ok () ∧ ¬engine.SealBound other := by
  refine ⟨by decide +kernel, by decide +kernel, by decide +kernel, by decide +kernel, ?_⟩
  rintro ⟨confirm, decoded, named⟩
  have answer :
      (plainLibrary [([9], firstChildConfirm)]).deserializeConfirm [9] = .ok firstChildConfirm :=
    rfl
  cases answer.symm.trans decoded
  revert named
  decide +kernel

/-! ## Who signed a confirm -/

def listedSigners (confirm : Confirm) (producers : List Bytes) : Finset Bytes :=
  (confirm.votes.map DPOSProposalVote.signer).toFinset.filter (· ∈ producers)

theorem mem_listedSigners {signer : Bytes} :
    signer ∈ listedSigners confirm producers ↔ signer ∈ producers ∧
        ∃ vote ∈ confirm.votes, vote.signer = signer := by
  simp [listedSigners, and_comm]

/--
The confirm of a header holds valid accept votes for its own proposal from
enough different members of the header's producer list, and its sponsor is in
that list.
-/
def QuorumSound (header : Header) : Prop :=
  ∃ confirm producers count, engine.ela.deserializeConfirm header.extra = .ok confirm ∧
      Spv.getProducers engine.spvService header.nonce = .ok (producers, count) ∧
      confirm.proposal.sponsor ∈ producers ∧ ∃ signers : Finset Bytes,
        getMajorityCountByTotalSigners count ≤ signers.card ∧ ∀ signer ∈ signers,
            signer ∈ producers ∧ ∃ vote ∈ confirm.votes, vote.signer = signer ∧
                  AcceptsProposal engine.ela (engine.ela.proposalHash confirm.proposal) vote

/--
If the sponsor signed the proposal and all votes are valid accept votes for it that reach the
threshold, counted with repetitions, then the sponsor is in the producer list and the different
signers in that list reach the threshold too.  The genesis height and a height whose stored block
has the view offset of the confirm are left out.
-/
def RepeatedOrListedQuorum (chain : ChainReader) (header : Header) : Prop :=
  ∀ bigNumber confirm producers count, header.number = some bigNumber →
      UInt64.ofNat bigNumber ≠ 0 →
      engine.ela.deserializeConfirm header.extra = .ok confirm →
      ¬engine.ClashesWithStored chain (UInt64.ofNat bigNumber) header confirm →
      Spv.getProducers engine.spvService header.nonce = .ok (producers, count) →
      ValidSignature engine.ela confirm.proposal.sponsor
        (engine.ela.proposalData confirm.proposal) confirm.proposal.sign →
      (∀ vote ∈ confirm.votes,
        AcceptsProposal engine.ela (engine.ela.proposalHash confirm.proposal) vote) →
      getMajorityCountByTotalSigners count ≤ confirm.votes.length →
      confirm.proposal.sponsor ∈ producers ∧
        getMajorityCountByTotalSigners count ≤ (listedSigners confirm producers).card

theorem card_le_card_listedSigners {signers : Finset Bytes}
    (voted : ∀ signer ∈ signers, signer ∈ producers ∧
        ∃ vote ∈ confirm.votes, vote.signer = signer) :
    signers.card ≤ (listedSigners confirm producers).card :=
  Finset.card_le_card fun signer member =>
    mem_listedSigners.mpr (voted signer member)

theorem quorumSound_iff
    {header : Header}
    {count : Nat}
    (decoded : engine.ela.deserializeConfirm header.extra = .ok confirm)
    (listed : Spv.getProducers engine.spvService header.nonce = .ok (producers, count))
    (accepting : ∀ vote ∈ confirm.votes,
      AcceptsProposal engine.ela (engine.ela.proposalHash confirm.proposal) vote) :
    engine.QuorumSound header ↔ confirm.proposal.sponsor ∈ producers ∧
      getMajorityCountByTotalSigners count ≤ (listedSigners confirm producers).card := by
  constructor
  · rintro ⟨sameConfirm, sameProducers, sameCount, sameDecoded, sameListed, sponsorListed,
      signers, enough, voters⟩
    cases decoded.symm.trans sameDecoded
    cases listed.symm.trans sameListed
    refine ⟨sponsorListed, enough.trans (card_le_card_listedSigners ?_)⟩
    intro signer member
    obtain ⟨inList, vote, cast, signed, -⟩ := voters signer member
    exact ⟨inList, vote, cast, signed⟩
  · rintro ⟨sponsorListed, enough⟩
    refine ⟨confirm, producers, count, decoded, listed,
      sponsorListed, listedSigners confirm producers, enough, ?_⟩
    intro signer member
    obtain ⟨inList, vote, cast, signed⟩ := mem_listedSigners.mp member
    exact ⟨inList, vote, cast, signed, accepting vote cast⟩

/--
Quorum soundness, for every header with a non-zero nonce and every chain: an accepted header holds
a quorum of different listed producers under a listed sponsor exactly when valid votes that reach
the threshold with repetitions reach it with the different listed signers.
-/
theorem quorumSoundness_characterization
    (chain : ChainReader)
    (header : Header) :
    (header.nonce ≠ 0 → engine.verifySeal chain header = .ok () → engine.QuorumSound header) ↔
      (header.nonce ≠ 0 → engine.RepeatedOrListedQuorum chain header) := by
  refine forall_congr' ?_
  intro voted
  constructor
  · intro sound bigNumber confirm producers count numbered notGenesis decoded noClash listed
      sponsored accepting enough
    have checked : checkConfirm engine.ela confirm (getMajorityCountByTotalSigners count) = .ok () :=
      (checkConfirm_eq_ok_iff engine.ela).mpr
        ⟨(checkSignature_eq_ok_iff engine.ela).mpr sponsored, enough, accepting⟩
    have confirmed := (engine.verifyConfirm_eq_ok_iff voted).mpr ⟨producers, count, listed, checked⟩
    have accepted : engine.verifySeal chain header = .ok () :=
      engine.verifySeal_eq_ok_iff.mpr
        ⟨confirm, ⟨bigNumber, numbered, notGenesis, noClash⟩, decoded, confirmed⟩
    exact (engine.quorumSound_iff decoded listed accepting).mp (sound accepted)
  · intro condition accepted
    obtain ⟨confirm, ⟨bigNumber, numbered, notGenesis, noClash⟩, decoded, confirmed⟩ :=
      engine.verifySeal_eq_ok_iff.mp accepted
    obtain ⟨producers, count, listed, checked⟩ :=
      (engine.verifyConfirm_eq_ok_iff voted).mp confirmed
    obtain ⟨sponsored, enough, accepting⟩ := (checkConfirm_eq_ok_iff engine.ela).mp checked
    exact (engine.quorumSound_iff decoded listed accepting).mpr
      (condition bigNumber confirm producers count numbered notGenesis decoded noClash listed
        ((checkSignature_eq_ok_iff engine.ela).mp sponsored) accepting enough)

/-- A council member's confirm of its own block, its vote given twice. -/
def repeatedVoteConfirm : Confirm :=
  let proposal := plainLibrary.proposal [1] (digest (encodeSigHeader (child 5 [9]))) 0
  ⟨proposal, [plainLibrary.acceptVote [1] proposal, plainLibrary.acceptVote [1] proposal]⟩

/--
Two copies of one vote pass for the two votes that three council seats ask
for.
-/
theorem verifySeal_accepts_repeated_vote :
    let engine := verifier [([9], repeatedVoteConfirm)]
    let header := child 5 [9]
    header.nonce ≠ 0 ∧ engine.verifySeal chain header = .ok () ∧ ¬engine.QuorumSound header := by
  refine ⟨by decide, by decide +kernel, ?_⟩
  rintro ⟨confirm, producers, count, decoded, listed, -, signers, enough, voters⟩
  have carried :
      (plainLibrary [([9], repeatedVoteConfirm)]).deserializeConfirm
        [9] = .ok repeatedVoteConfirm :=
    rfl
  have seated : Spv.getProducers (some service) 100 = .ok ([[1], [2], [3]], 3) := by
    decide +kernel
  cases carried.symm.trans decoded
  cases seated.symm.trans listed
  have bound : signers.card ≤ (listedSigners repeatedVoteConfirm [[1], [2], [3]]).card := by
    refine card_le_card_listedSigners ?_
    intro signer member
    obtain ⟨inList, vote, cast, signed, -⟩ := voters signer member
    exact ⟨inList, vote, cast, signed⟩
  have single : (listedSigners repeatedVoteConfirm [[1], [2], [3]]).card = 1 := by decide +kernel
  have threshold : getMajorityCountByTotalSigners 3 = 2 := by decide
  omega

end EscSideChain.Pbft.Verifier
