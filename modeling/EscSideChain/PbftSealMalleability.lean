import EscSideChain.PbftHeader

namespace EscSideChain.Pbft

open Dpos

/-!
# Other seals for one block

The confirm of a header stands in the extra data, which is part of the block hash but not
of the hash that producers vote on.  Nothing fixes how the confirm is written there: the
decoder reads from a stream and leaves what follows the confirm unread, and the votes may
be any that reach the threshold, in any order.
-/

def Header.withExtra (header : Header) (extra : Bytes) : Header :=
  { header with extra := extra }

theorem encodeSigHeader_withExtra (header : Header) (extra : Bytes) :
    encodeSigHeader (header.withExtra extra) = encodeSigHeader header :=
  rfl

theorem encodeHeader_withExtra_injective {header : Header} {extra : Bytes}
    (same : encodeHeader (header.withExtra extra) = encodeHeader header) :
    extra = header.extra := by
  have tails := List.append_cancel_left same
  have heads := (List.cons.inj tails).1
  exact RlpItem.bytes.inj heads

/--
`Confirm.Deserialize` reads fields from a stream one after the other, and what
follows the last one makes no difference.
-/
def ReadsStream (ela : ElaLibrary) : Prop :=
  ∀ bytes rest confirm, ela.deserializeConfirm bytes = .ok confirm →
      ela.deserializeConfirm (bytes ++ rest) = .ok confirm

namespace Verifier

variable {engine : Verifier}

def Fresh (chain : ChainReader) (header : Header) : Prop :=
  ∀ bigNumber, header.number = some bigNumber →
    chain.getHeaderByNumber (UInt64.ofNat bigNumber) = none

theorem Fresh.not_clashes {chain : ChainReader} {header : Header} (fresh : Fresh chain header)
    {bigNumber : Nat} (numbered : header.number = some bigNumber) (other : Header)
    (confirm : Confirm) : ¬engine.ClashesWithStored chain (UInt64.ofNat bigNumber) other
      confirm := by
  rintro ⟨oldHeader, oldConfirm, stored, -⟩
  rw [fresh bigNumber numbered] at stored
  cases stored

/-! ## Other votes -/

theorem verifySeal_withExtra {chain : ChainReader} {header : Header} {extra : Bytes}
    {confirm : Confirm} (fresh : Fresh chain header)
    (accepted : engine.verifySeal chain header = .ok ())
    (decoded : engine.ela.deserializeConfirm extra = .ok confirm)
    (confirmed : engine.verifyConfirm confirm header.nonce = .ok ()) :
    engine.verifySeal chain (header.withExtra extra) = .ok () := by
  obtain ⟨_, ⟨bigNumber, numbered, notGenesis, _⟩, _, _⟩ := engine.verifySeal_eq_ok_iff.1 accepted
  exact engine.verifySeal_eq_ok_iff.2
    ⟨confirm, ⟨bigNumber, numbered, notGenesis, fresh.not_clashes numbered _ _⟩, decoded, confirmed⟩

/-! ## Unread bytes -/

def NonMalleable (engine : Verifier) (chain : ChainReader) (header : Header) : Prop :=
  ∀ extra, extra ≠ header.extra → engine.verifySeal chain (header.withExtra extra) ≠ .ok ()

/--
No accepted header at a new height is non-malleable: with a byte after its
confirm it is accepted as well, with the same seal hash and another encoding
behind its block hash.
-/
theorem accepted_seal_malleable (engine : Verifier) (streams : ReadsStream engine.ela)
    (chain : ChainReader) (header : Header) (fresh : Fresh chain header)
    (accepted : engine.verifySeal chain header = .ok ()) :
    ¬NonMalleable engine chain header ∧ ∃ extra,
        engine.verifySeal chain (header.withExtra extra) = .ok () ∧
          engine.sealHash (header.withExtra extra) = engine.sealHash header ∧
          encodeHeader (header.withExtra extra) ≠ encodeHeader header := by
  obtain ⟨confirm, _, decoded, confirmed⟩ := engine.verifySeal_eq_ok_iff.1 accepted
  have longer : header.extra ++ [0] ≠ header.extra := by simp
  have alsoAccepted : engine.verifySeal chain (header.withExtra (header.extra ++ [0])) = .ok () :=
    verifySeal_withExtra fresh accepted (streams _ _ _ decoded) confirmed
  refine ⟨?_, header.extra ++ [0], alsoAccepted, ?_, ?_⟩
  · intro nonMalleable
    exact nonMalleable _ longer alsoAccepted
  · rw [sealHash, encodeSigHeader_withExtra, sealHash]
  · intro same
    exact longer (encodeHeader_withExtra_injective same)

end Verifier

namespace Sample

/-- A verifier whose decoder reads one confirm and leaves the rest unread. -/
def streamVerifier (confirm : Confirm) : Verifier :=
  { verifier [] with
    ela := { plainLibrary [] with
      deserializeConfirm := fun extra =>
        match extra with
        | 9 :: _ => .ok confirm
        | _ => .error "EOF" } }

def childConfirm : Confirm :=
  let proposal := plainLibrary.proposal [1] (digest (encodeSigHeader (child 5 [9]))) 0
  ⟨proposal, [plainLibrary.acceptVote [1] proposal, plainLibrary.acceptVote [2] proposal]⟩

theorem streamVerifier_readsStream (confirm : Confirm) :
    ReadsStream (streamVerifier confirm).ela := by
  intro bytes rest decoded read
  cases bytes with
  | nil => cases read
  | cons first others =>
    by_cases marked : first = 9
    · subst marked
      exact read
    · simp [streamVerifier, marked] at read

theorem child_fresh (time : UInt64) (extra : Bytes) : Verifier.Fresh chain (child time extra) := by
  intro bigNumber numbered
  cases numbered
  rfl

end Sample

open Sample

/-- One confirm, two accepted blocks with different hashes. -/
theorem trailing_byte_accepted :
    let engine := streamVerifier childConfirm
    engine.verifySeal chain (child 5 [9]) = .ok () ∧
      engine.verifySeal chain (child 5 [9, 1]) = .ok () ∧
      engine.sealHash (child 5 [9]) = engine.sealHash (child 5 [9, 1]) ∧
      engine.headerHash (child 5 [9]) ≠ engine.headerHash (child 5 [9, 1]) ∧
      chain.getHeaderByNumber 1 = none := by
  decide +kernel

theorem accepted_seal_malleable_child :
    ¬Verifier.NonMalleable (streamVerifier childConfirm) chain (child 5 [9]) :=
  (Verifier.accepted_seal_malleable _ (streamVerifier_readsStream _) _ _
    (child_fresh 5 [9]) (by decide +kernel)).1

end EscSideChain.Pbft
