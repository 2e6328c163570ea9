import EscSideChain.ByteStrings

namespace EscSideChain.Dpos

/-!
# Proposals, votes and confirms

The payloads that producers exchange, and the checks of `dpos/proposal.go`,
`dpos/proposalvote.go` and `dpos/confirm.go` on them.  The payload types and
the signature scheme come from the main-chain library; its functions are the
fields of `ElaLibrary`.
-/

/-- A block proposal, `payload.DPOSProposal`. -/
structure DPOSProposal where
  sponsor : Bytes
  blockHash : Hash
  viewOffset : UInt32
  sign : Bytes
  deriving DecidableEq

/-- A vote on a proposal, `payload.DPOSProposalVote`. -/
structure DPOSProposalVote where
  proposalHash : Hash
  signer : Bytes
  accept : Bool
  sign : Bytes
  deriving DecidableEq

/-- A proposal together with votes for it, `payload.Confirm`. -/
structure Confirm where
  proposal : DPOSProposal
  votes : List DPOSProposalVote
  deriving DecidableEq

/-- The functions of the main-chain library that the consensus code calls. -/
structure ElaLibrary where
  PublicKey : Type
  decodePoint : Bytes → Except String PublicKey
  verify : PublicKey → Bytes → Bytes → Except String Unit
  proposalData : DPOSProposal → Bytes
  proposalHash : DPOSProposal → Hash
  voteData : DPOSProposalVote → Bytes
  voteHash : DPOSProposalVote → Hash
  deserializeConfirm : Bytes → Except String Confirm

variable (ela : ElaLibrary)

def checkSignature (signer data sign : Bytes) : Except String Unit :=
  match ela.decodePoint signer with
  | .error reason => .error reason
  | .ok publicKey => ela.verify publicKey data sign

/-- A signature over `data` is valid under the named key. -/
def ValidSignature (signer data sign : Bytes) : Prop :=
  ∃ publicKey, ela.decodePoint signer = .ok publicKey ∧ ela.verify publicKey data sign = .ok ()

/-- `Verify` accepts signatures of 64 bytes only. -/
def FixedSignatureLength : Prop :=
  ∀ publicKey data sign, ela.verify publicKey data sign = .ok () → sign.length = 64

theorem checkSignature_eq_ok_iff {signer data sign : Bytes} :
    checkSignature ela signer data sign = .ok () ↔ ValidSignature ela signer data sign := by
  unfold checkSignature ValidSignature
  cases decoded : ela.decodePoint signer with
  | error reason => simp
  | ok publicKey => simp

instance (signer data sign : Bytes) : Decidable (ValidSignature ela signer data sign) :=
  match checked : checkSignature ela signer data sign with
  | .ok () => .isTrue ((checkSignature_eq_ok_iff ela).mp checked)
  | .error _ =>
    .isFalse fun valid => by
      rw [← checkSignature_eq_ok_iff, checked] at valid
      cases valid

def checkProposal (proposal : DPOSProposal) : Except String Unit :=
  checkSignature ela proposal.sponsor (ela.proposalData proposal) proposal.sign

def checkVote (vote : DPOSProposalVote) : Except String Unit :=
  checkSignature ela vote.signer (ela.voteData vote) vote.sign

/-- The loop of `dpos.CheckConfirm` over the votes of a confirm. -/
def checkVotes (proposalHash : Hash) : List DPOSProposalVote → Except String Unit
  | [] => .ok ()
  | vote :: rest =>
    if vote.accept = false then .error "[CheckConfirm] confirm contains reject vote"
    else if proposalHash ≠ vote.proposalHash then
      .error "[CheckConfirm] confirm contains invalid vote"
    else
      match checkVote ela vote with
      | .error reason => .error ("[CheckConfirm] confirm contain invalid vote: " ++ reason)
      | .ok () => checkVotes proposalHash rest

def checkConfirm (confirm : Confirm) (minSignCount : Nat) : Except String Unit :=
  match checkProposal ela confirm.proposal with
  | .error reason => .error reason
  | .ok () =>
    if confirm.votes.length < minSignCount then
      .error ("[CheckConfirm] error, need " ++ toString minSignCount ++ " votes")
    else checkVotes ela (ela.proposalHash confirm.proposal) confirm.votes

structure AcceptsProposal (proposalHash : Hash) (vote : DPOSProposalVote) : Prop where
  accepting : vote.accept = true
  sameProposal : vote.proposalHash = proposalHash
  signed : checkVote ela vote = .ok ()

theorem checkVotes_cons_eq_ok_iff {proposalHash : Hash} {vote : DPOSProposalVote}
    {rest : List DPOSProposalVote} :
    checkVotes ela proposalHash (vote :: rest) = .ok () ↔ AcceptsProposal ela proposalHash vote ∧
        checkVotes ela proposalHash rest = .ok () := by
  rw [checkVotes]
  by_cases rejecting : vote.accept = false
  · have refused : ¬AcceptsProposal ela proposalHash vote := by
      intro accepts
      simp [accepts.accepting] at rejecting
    simp [rejecting, refused]
  · by_cases otherProposal : proposalHash ≠ vote.proposalHash
    · have refused : ¬AcceptsProposal ela proposalHash vote :=
        fun accepts => otherProposal accepts.sameProposal.symm
      simp [rejecting, otherProposal, refused]
    cases checked : checkVote ela vote with
    | error reason =>
      have refused : ¬AcceptsProposal ela proposalHash vote := by
        intro accepts
        cases checked.symm.trans accepts.signed
      simp [rejecting, otherProposal, refused]
    | ok accepted =>
      have accepts : AcceptsProposal ela proposalHash vote := {
        accepting := by simpa using rejecting
        sameProposal := (not_not.mp otherProposal).symm
        signed := checked
      }
      simp [rejecting, otherProposal, accepts]

theorem checkVotes_eq_ok_iff {proposalHash : Hash} {votes : List DPOSProposalVote} :
    checkVotes ela proposalHash votes = .ok () ↔
      ∀ vote ∈ votes, AcceptsProposal ela proposalHash vote := by
  induction votes with
  | nil => simp [checkVotes]
  | cons vote rest inductionHypothesis =>
    rw [checkVotes_cons_eq_ok_iff, inductionHypothesis, List.forall_mem_cons]

theorem checkConfirm_eq_ok_iff {confirm : Confirm} {minSignCount : Nat} :
    checkConfirm ela confirm minSignCount = .ok () ↔ checkProposal ela confirm.proposal = .ok () ∧
        minSignCount ≤ confirm.votes.length ∧ ∀ vote ∈ confirm.votes, AcceptsProposal ela
            (ela.proposalHash confirm.proposal) vote := by
  unfold checkConfirm
  cases checked : checkProposal ela confirm.proposal with
  | error reason => simp
  | ok accepted =>
    by_cases short : confirm.votes.length < minSignCount
    · simp [short]
    simp only [short, ↓reduceIte, checkVotes_eq_ok_iff, true_and]
    refine ⟨fun votes => ⟨by omega, votes⟩, fun both => both.2⟩

/--
A library in which a key signs by putting itself before the data, for
evaluating the model on concrete messages.  Confirms are decoded by the given
table.
-/
def plainLibrary (confirms : List (Bytes × Confirm)) : ElaLibrary where
  PublicKey := Bytes
  decodePoint key :=
    if key = [] then .error "invalid public key" else .ok key
  verify key data sign :=
    if sign = key ++ data then .ok () else .error "invalid signature"
  proposalData proposal :=
    proposal.viewOffset.toUInt8 :: proposal.sponsor ++ proposal.blockHash.toList
  proposalHash proposal :=
    bytesToHash (proposal.viewOffset.toUInt8 :: proposal.sponsor ++
      proposal.blockHash.toList.drop 16)
  voteData vote :=
    (if vote.accept then 1 else 0) :: vote.proposalHash.toList
  voteHash vote :=
    bytesToHash ((if vote.accept then 1 else 0) :: vote.signer ++ vote.proposalHash.toList.drop 16)
  deserializeConfirm extra :=
    match confirms.lookup extra with
    | none => .error "EOF"
    | some confirm => .ok confirm

namespace plainLibrary

def proposal (sponsor : Bytes) (blockHash : Hash) (viewOffset : UInt32) : DPOSProposal :=
  let unsigned : DPOSProposal := ⟨sponsor, blockHash, viewOffset, []⟩
  { unsigned with
    sign := sponsor ++ (plainLibrary []).proposalData unsigned }

def acceptVote (signer : Bytes) (proposal : DPOSProposal) : DPOSProposalVote :=
  let unsigned : DPOSProposalVote := ⟨(plainLibrary []).proposalHash proposal, signer, true, []⟩
  { unsigned with
    sign := signer ++ (plainLibrary []).voteData unsigned }

end plainLibrary

def fixedLibrary : ElaLibrary :=
  { plainLibrary [] with
    verify := fun (key : Bytes) data sign =>
      if sign = key ++ data ∧ sign.length = 64 then .ok ()
      else .error "Unknown signature length" }

theorem fixedLibrary_fixedSignatureLength : FixedSignatureLength fixedLibrary := by
  intro publicKey data sign verified
  simp only [fixedLibrary] at verified
  split_ifs at verified with accepted
  exact accepted.2

end EscSideChain.Dpos
