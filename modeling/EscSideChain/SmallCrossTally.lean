import EscSideChain.SmallCrossSections

namespace EscSideChain.SmallCross

open Dpos Spv

/-!
# Counting the arbiters of a small cross-chain transaction

While the signatures of a transaction are collected one call after another, the arbiters
in `verifiedArbiter` are those of the stored signatures, in the same order, so no arbiter
is counted twice.  The list is deleted when the record is full.
-/

section Posting

variable (format : ElaFormat) (ela : ElaLibrary)

def Pending.posted (collector : Collector) (pending : Pending) : Option ElaTx :=
  match findSigner ela collector pending.txn.hash pending.buff
      pending.sig pending.call.arbiters with
  | .ok (some _) =>
    if pending.count + 1 ≥ getMaxArbitersSign pending.call.total then some pending.txn
    else none
  | _ => none

/-- The transaction that `OnSmallCrossTx` posts. -/
def posted (collector : Collector) (call : Call) : Option ElaTx :=
  match readSection format collector call with
  | .error _ => none
  | .ok pending => pending.posted ela collector

structure Adds (collector : Collector) (call : Call) (pending : Pending)
    (signer : Bytes) : Prop where
  isCall : pending.call = call
  enters : Enters format collector pending
  signs : findSigner ela collector pending.txn.hash pending.buff
    pending.sig pending.call.arbiters = .ok (some signer)

end Posting

def signaturesOf (collector : Collector) (txid : Bytes) : List Bytes :=
  match getSmallCrossTxMsg collector.smallCrossTxDb txid with
  | none => []
  | some record => record.signatures

variable {format : ElaFormat} {ela : ElaLibrary}
variable {collector : Collector} {call : Call} {pending : Pending}
variable {signer : Bytes}

theorem onSmallCrossTx_adds (format : ElaFormat) (ela : ElaLibrary) (collector : Collector)
    (call : Call) :
    (onSmallCrossTx format ela collector call).1 = collector ∧
        posted format ela collector call = none ∨
      ∃ pending signer, Adds format ela collector call pending signer := by
  rw [onSmallCrossTx_eq, posted]
  cases passed : readSection format collector call with
  | error reason => exact .inl ⟨rfl, rfl⟩
  | ok pending =>
    obtain ⟨isCall, enters⟩ := readSection_eq_ok_iff.1 passed
    dsimp only
    unfold writeSection Pending.posted
    rcases found : findSigner ela collector pending.txn.hash pending.buff
        pending.sig pending.call.arbiters with reason | _ | signer
    · exact .inl ⟨rfl, rfl⟩
    · exact .inl ⟨rfl, rfl⟩
    · exact .inr ⟨pending, signer, isCall, enters, found⟩

namespace Adds

variable (adds : Adds format ela collector call pending signer)

include adds

theorem result_eq :
    (onSmallCrossTx format ela collector call).1 =
      countSignature collector call pending.txn.hash signer
        pending.count := by
  rw [← adds.isCall, adds.enters.onSmallCrossTx_eq, writeSection_eq adds.signs]

theorem posted_eq : posted format ela collector call =
      if getMaxArbitersSign call.total ≤ pending.count + 1 then some pending.txn
      else
        none := by
  obtain ⟨rfl, enters, signs⟩ := adds
  rw [posted, readSection_eq_ok_iff.2 ⟨rfl, enters⟩]
  simp only [Pending.posted, signs, ge_iff_le]

theorem count_eq : pending.count = (signaturesOf collector pending.txn.hash).length := by
  rw [adds.enters.count]
  unfold signaturesOf signatureCount
  cases getSmallCrossTxMsg collector.smallCrossTxDb pending.txn.hash <;> rfl

theorem below :
    (signaturesOf collector pending.txn.hash).length < getMaxArbitersSign call.total := by
  rw [← adds.count_eq, ← adds.isCall]
  exact adds.enters.below

theorem stored (lawful : LawfulTransactions format) (fixedLength : FixedSignatureLength ela)
    (wellFormed : WellFormed collector.smallCrossTxDb)
    (small : getMaxArbitersSign call.total < 2 ^ 63) :
    let after := (onSmallCrossTx format ela collector call).1.smallCrossTxDb
    WellFormed after ∧ getSmallCrossTxMsg after pending.txn.hash =
        some (withSignature (getSmallCrossTxMsg collector.smallCrossTxDb pending.txn.hash)
          call.rawTx call.signature pending.txn.hash call.blockNumber) ∧
      ∀ other, IsLowerHash other → other ≠ pending.txn.hash → getSmallCrossTxMsg after other =
          getSmallCrossTxMsg collector.smallCrossTxDb other := by
  obtain ⟨rfl, enters, signs⟩ := adds
  rw [enters.onSmallCrossTx_eq]
  exact enters.stored signs lawful fixedLength wellFormed small

theorem signaturesOf_eq
    (lawful : LawfulTransactions format) (fixedLength : FixedSignatureLength ela)
    (wellFormed : WellFormed collector.smallCrossTxDb)
    (small : getMaxArbitersSign call.total < 2 ^ 63) :
    let after := (onSmallCrossTx format ela collector call).1
    signaturesOf after pending.txn.hash =
        signaturesOf collector pending.txn.hash ++ [call.signature] ∧
      ∀ other, IsLowerHash other → other ≠ pending.txn.hash →
        signaturesOf after other = signaturesOf collector other := by
  obtain ⟨-, own, others⟩ := adds.stored lawful fixedLength wellFormed small
  constructor
  · unfold signaturesOf
    rw [own]
    cases getSmallCrossTxMsg collector.smallCrossTxDb pending.txn.hash <;> rfl
  · intro other otherIsHash different
    unfold signaturesOf
    rw [others other otherIsHash different]

theorem verifiedArbiter_eq (txid : Bytes) :
    (onSmallCrossTx format ela collector call).1.verifiedArbiter txid =
      if txid = pending.txn.hash then
        if getMaxArbitersSign call.total ≤ pending.count + 1 then []
        else collector.verifiedArbiter txid ++ [signer]
      else
        collector.verifiedArbiter txid := by
  rw [adds.result_eq, countSignature]
  by_cases own : txid = pending.txn.hash
  · split_ifs <;> simp_all
  · split_ifs <;> simp_all

end Adds

/-! ## Posted once -/

def Fixed (arbiters : List Bytes) (total : Nat) (calls : List Call) : Prop :=
  ∀ call ∈ calls, call.arbiters = arbiters ∧ call.total = total

def postings (format : ElaFormat) (ela : ElaLibrary) (txid : Bytes) (collector : Collector)
    (call : Call) : Nat :=
  if (posted format ela collector call).any fun txn => txn.hash = txid then 1
  else 0

def collectorAfter (format : ElaFormat) (ela : ElaLibrary) (collector : Collector)
    (call : Call) : Collector :=
  (onSmallCrossTx format ela collector call).1

section Tally

variable {arbiters : List Bytes} {total : Nat} {txid : Bytes}

section

variable (lawful : LawfulTransactions format) (fixedLength : FixedSignatureLength ela)
  (small : getMaxArbitersSign call.total < 2 ^ 63)
  (wellFormed : WellFormed collector.smallCrossTxDb)

include lawful fixedLength small wellFormed

theorem wellFormed_collectorAfter :
    WellFormed (collectorAfter format ela collector call).smallCrossTxDb := by
  rcases onSmallCrossTx_adds format ela collector call with ⟨same, -⟩ | ⟨pending, signer, adds⟩
  · rwa [collectorAfter, same]
  · exact (adds.stored lawful fixedLength wellFormed small).1

theorem signaturesOf_of_posted {txn : ElaTx} (posts : posted format ela collector call = some txn) :
    IsLowerHash txn.hash ∧ (signaturesOf collector txn.hash).length <
        getMaxArbitersSign call.total ∧
      (signaturesOf (collectorAfter format ela collector call)
        txn.hash).length = getMaxArbitersSign call.total := by
  rcases onSmallCrossTx_adds format ela collector call with ⟨-, nothing⟩ | ⟨pending, signer, adds⟩
  · cases nothing.symm.trans posts
  · obtain ⟨own, -⟩ := adds.signaturesOf_eq lawful fixedLength wellFormed small
    rw [adds.posted_eq] at posts
    split_ifs at posts with full
    obtain rfl := Option.some.inj posts
    have below := adds.below
    refine ⟨lawful.isHash _ _ adds.enters.read, below, ?_⟩
    rw [collectorAfter, own, List.length_append, List.length_singleton]
    rw [adds.count_eq] at full
    exact Nat.le_antisymm below full

theorem full_collectorAfter (isHash : IsLowerHash txid)
    (full : getMaxArbitersSign call.total ≤ (signaturesOf collector txid).length) :
    getMaxArbitersSign call.total ≤
      (signaturesOf (collectorAfter format ela collector call) txid).length := by
  rcases onSmallCrossTx_adds format ela collector call with ⟨same, -⟩ | ⟨pending, signer, adds⟩
  · rwa [collectorAfter, same]
  · obtain ⟨-, others⟩ := adds.signaturesOf_eq lawful fixedLength wellFormed small
    rw [collectorAfter, others txid isHash]
    · exact full
    · rintro rfl
      exact absurd full (Nat.not_le.2 adds.below)

end

theorem postings_le_one {calls : List Call} (lawful : LawfulTransactions format)
    (fixedLength : FixedSignatureLength ela) (small : getMaxArbitersSign total < 2 ^ 63)
    (fixed : Fixed arbiters total calls) (wellFormed : WellFormed collector.smallCrossTxDb) :
    EventRuns.tally (postings format ela txid) (collectorAfter format ela) collector calls ≤ 1 := by
  -- What is spent is the room in the record.
  refine (@EventRuns.tally_le_one _ _ _ _
    (fun collector => IsLowerHash txid ∧
      getMaxArbitersSign total ≤ (signaturesOf collector txid).length)
    (fun collector calls =>
      WellFormed collector.smallCrossTxDb ∧ Fixed arbiters total calls)
    ?_ ?_ ?_ ?_ _ _ ⟨wellFormed, fixed⟩).1
  · rintro collector call rest ⟨kept, same⟩
    have sameTotal := (same call List.mem_cons_self).2
    refine ⟨wellFormed_collectorAfter lawful fixedLength (sameTotal ▸ small) kept, ?_⟩
    exact fun later member => same later (List.mem_cons_of_mem _ member)
  · intro collector call rest _
    unfold postings
    split_ifs <;> decide
  · rintro collector call rest ⟨kept, same⟩ counts
    have sameTotal := (same call List.mem_cons_self).2
    unfold postings at counts
    split_ifs at counts with posts
    · obtain ⟨txn, isPosted, isId⟩ := (Option.any_eq_true _ _).1 posts
      obtain rfl := of_decide_eq_true isId
      obtain ⟨isHash, below, full⟩ := signaturesOf_of_posted lawful
        fixedLength (sameTotal ▸ small) kept isPosted
      rw [sameTotal] at below full
      exact ⟨fun spent => Nat.not_le.2 below spent.2, isHash, full.ge⟩
    · exact absurd rfl counts
  · rintro collector call rest ⟨kept, same⟩ ⟨isHash, full⟩
    have sameTotal := (same call List.mem_cons_self).2
    rw [← sameTotal] at full ⊢
    exact ⟨isHash, full_collectorAfter lawful fixedLength (sameTotal ▸ small) kept isHash full⟩

end Tally

/-! ## One arbiter for each signature -/

section Signers

variable (format : ElaFormat) (ela : ElaLibrary)

def SignedBy (calls : List Call) (txid arbiter signature : Bytes) : Prop :=
  ∃ call ∈ calls, ∃ buff txn sig, call.signature = signature ∧
      hexDecodeString call.rawTx = some buff ∧ format.deserializeTransaction buff = .ok txn ∧
      txn.hash = txid ∧ hexDecodeString signature = some sig ∧
      ValidSignature ela (hex2Bytes arbiter) buff sig

structure Assigned (arbiters : List Bytes) (calls : List Call) (collector : Collector)
    (txid : Bytes) (signers : List Bytes) : Prop where
  distinct : signers.Nodup
  arbiters : signers ⊆ arbiters
  signed : List.Forall₂ (SignedBy format ela calls txid) signers (signaturesOf collector txid)

structure Tallied (arbiters : List Bytes) (total : Nat) (calls : List Call)
    (collector : Collector) : Prop where
  wellFormed : WellFormed collector.smallCrossTxDb
  assigned : ∀ txid, IsLowerHash txid → ∃ signers,
      Assigned format ela arbiters calls collector txid signers ∧
        ((signaturesOf collector txid).length < getMaxArbitersSign total →
          collector.verifiedArbiter txid = signers)

end Signers

section Assignment

variable {arbiters signers : List Bytes} {total : Nat}
variable {calls : List Call} {txid : Bytes}

theorem Assigned.snoc {after : Collector} {signature : Bytes}
    (assigned : Assigned format ela arbiters calls collector txid signers)
    (isArbiter : signer ∈ arbiters) (isNew : signer ∉ signers)
    (signed : SignedBy format ela calls txid signer signature)
    (stored : signaturesOf after txid = signaturesOf collector txid ++ [signature]) :
    Assigned format ela arbiters calls after txid (signers ++ [signer]) where
  distinct := by
    refine List.Nodup.append assigned.distinct (List.nodup_singleton _) ?_
    intro other member isSigner
    obtain rfl := List.mem_singleton.1 isSigner
    exact isNew member
  arbiters := by
    intro other member
    rcases List.mem_append.1 member with earlier | last
    · exact assigned.arbiters earlier
    · obtain rfl := List.mem_singleton.1 last
      exact isArbiter
  signed := by
    rw [stored]
    exact List.rel_append assigned.signed (List.Forall₂.cons signed List.Forall₂.nil)

theorem Adds.signedBy (adds : Adds format ela collector call pending signer)
    (member : call ∈ calls) : SignedBy format ela calls pending.txn.hash signer call.signature := by
  obtain ⟨rfl, enters, signs⟩ := adds
  exact ⟨pending.call, member, pending.buff, pending.txn, pending.sig, rfl,
    enters.decoded, enters.read, rfl, enters.signature, (findSigner_eq_some signs).2⟩

theorem Tallied.step (lawful : LawfulTransactions format) (fixedLength : FixedSignatureLength ela)
    (small : getMaxArbitersSign total < 2 ^ 63) (sameArbiters : call.arbiters = arbiters)
    (sameTotal : call.total = total) (member : call ∈ calls)
    (tallied : Tallied format ela arbiters total calls collector) :
    Tallied format ela arbiters total calls (collectorAfter format ela collector call) := by
  rcases onSmallCrossTx_adds format ela collector call with ⟨same, -⟩ | ⟨pending, signer, adds⟩
  · rwa [collectorAfter, same]
  · subst sameTotal sameArbiters
    obtain ⟨own, others⟩ := adds.signaturesOf_eq lawful fixedLength tallied.wellFormed small
    refine ⟨wellFormed_collectorAfter lawful fixedLength small tallied.wellFormed, ?_⟩
    intro txid isHash
    obtain ⟨signers, assigned, counted⟩ := tallied.assigned txid isHash
    by_cases isOwn : txid = pending.txn.hash
    · subst isOwn
      have verified := counted adds.below
      have isArbiter := (findSigner_eq_some adds.signs).1
      rw [adds.isCall] at isArbiter
      have isNew : signer ∉ signers := by
        have unverified := findSigner_unverified adds.signs
        simpa [Collector.isArbiterVerified, verified] using unverified
      refine ⟨signers ++ [signer], assigned.snoc isArbiter isNew (adds.signedBy member) own, ?_⟩
      intro room
      rw [collectorAfter, own, List.length_append, List.length_singleton, ← adds.count_eq] at room
      rw [collectorAfter, adds.verifiedArbiter_eq, if_pos rfl, if_neg (Nat.not_le.2 room), verified]
    · have unchanged := others txid isHash isOwn
      refine ⟨signers, ⟨assigned.distinct, assigned.arbiters, ?_⟩, ?_⟩
      · rw [collectorAfter, unchanged]
        exact assigned.signed
      · rw [collectorAfter, unchanged, adds.verifiedArbiter_eq, if_neg isOwn]
        exact counted

theorem tallied_initial : Tallied format ela arbiters total calls Collector.initial where
  wellFormed _ _ := .inl rfl
  assigned txid isHash := by
    have nothing : signaturesOf Collector.initial txid = [] := by
      unfold signaturesOf
      rw [getSmallCrossTxMsg_eq_none isHash rfl]
    refine ⟨[], ⟨List.nodup_nil, List.nil_subset _, ?_⟩, fun _ => rfl⟩
    rw [nothing]
    exact List.Forall₂.nil

end Assignment

/--
A full record: as many signatures as the threshold says, each of an arbiter of
its own.  If the keys of the list differ, so do those of the signers.
-/
def FullySigned (format : ElaFormat) (ela : ElaLibrary) (arbiters : List Bytes) (total : Nat)
    (calls : List Call) (collector : Collector) (txid : Bytes) : Prop :=
  ∃ signers, Assigned format ela arbiters calls collector txid signers ∧
      (signaturesOf collector txid).length = getMaxArbitersSign total ∧
      ((arbiters.map hex2Bytes).Nodup → (signers.map hex2Bytes).Nodup)

/--
In every run with one arbiter list and one total, a transaction is posted at most
once, and when it is posted its record is full.
-/
theorem onSmallCrossTx_posts_once (format : ElaFormat) (ela : ElaLibrary) (arbiters : List Bytes)
    (total : Nat) (calls : List Call) (lawful : LawfulTransactions format)
    (fixedLength : FixedSignatureLength ela) (small : getMaxArbitersSign total < 2 ^ 63)
    (fixed : Fixed arbiters total calls) :
    (∀ txid, EventRuns.tally (postings format ela txid)
        (collectorAfter format ela) Collector.initial calls ≤ 1) ∧
      EventRuns.Along
        (fun collector call => ∀ txn, posted format ela collector call = some txn →
            FullySigned format ela arbiters total calls
              (collectorAfter format ela collector call) txn.hash)
        (collectorAfter format ela) Collector.initial calls := by
  constructor
  · intro txid
    exact postings_le_one lawful fixedLength small fixed fun _ _ => .inl rfl
  · have preserved : ∀ collector call, call ∈ calls →
        Tallied format ela arbiters total calls collector → Tallied format ela arbiters total calls
            (collectorAfter format ela collector call) := by
      intro collector call member tallied
      obtain ⟨sameArbiters, sameTotal⟩ := fixed call member
      exact tallied.step lawful fixedLength small sameArbiters sameTotal member
    have along := EventRuns.along_and_invariant preserved
      (EventRuns.along_of_mem Collector.initial fun call member => member) tallied_initial
    refine EventRuns.along_imp ?_ along
    rintro collector call ⟨member, tallied⟩ txn posts
    have sameTotal := (fixed call member).2
    obtain ⟨isHash, -, full⟩ := signaturesOf_of_posted lawful fixedLength
      (sameTotal ▸ small) tallied.wellFormed posts
    obtain ⟨signers, assigned, -⟩ :=
      (preserved collector call member tallied).assigned txn.hash isHash
    refine ⟨signers, assigned, sameTotal ▸ full, ?_⟩
    intro keys
    refine List.Nodup.map_on ?_ assigned.distinct
    intro first isFirst second isSecond sameKey
    exact List.inj_on_of_nodup_map keys (assigned.arbiters isFirst)
      (assigned.arbiters isSecond) sameKey

namespace Sample

def firstArbiters : List Bytes :=
  (arbitersAt 1).map bytes2Hex

theorem fixed_oneHeight : Fixed firstArbiters 3 oneHeight := by
  intro call member
  simp only [oneHeight, List.mem_cons, List.not_mem_nil, or_false] at member
  rcases member with rfl | rfl | rfl
  · exact ⟨rfl, rfl⟩
  · exact ⟨rfl, rfl⟩
  · exact ⟨rfl, rfl⟩

end Sample

open Sample

/-- The third of three arbiters fills the record, and the transaction is posted. -/
theorem onSmallCrossTx_posts_once_oneHeight :
    EventRuns.tally (postings oneIdFormat fixedLibrary txid)
        (collectorAfter oneIdFormat fixedLibrary) Collector.initial oneHeight = 1 ∧
      FullySigned oneIdFormat fixedLibrary firstArbiters 3 oneHeight (after oneHeight) txid := by
  refine ⟨by decide +kernel, ?_⟩
  obtain ⟨-, -, -, third, -⟩ := onSmallCrossTx_posts_once oneIdFormat fixedLibrary firstArbiters 3
    oneHeight lawfulTransactions_oneIdFormat
    fixedLibrary_fixedSignatureLength (by decide) fixed_oneHeight
  have posts : (posted oneIdFormat fixedLibrary (after [signedAt 1 1, signedAt 1 2])
      (signedAt 1 3)).map ElaTx.hash = some txid := by
    decide +kernel
  obtain ⟨txn, isPosted, isId⟩ := Option.map_eq_some_iff.1 posts
  rw [← isId]
  exact third txn isPosted

end EscSideChain.SmallCross
