import EscSideChain.Interleaving
import EscSideChain.SmallCrossCollection

namespace EscSideChain.SmallCross

open Dpos Spv Interleaving

/-!
# The sections of `OnSmallCrossTx`

`OnSmallCrossTx` takes the lock of the package twice.  `GetSmallCrossTxMsg` reads
the signatures that are stored for the transaction under it; their number is
compared with the threshold without it; and the signature is verified and stored
under it again, at the place that the number read before says.  Two calls that
both read before either of them stores write to the same place.
-/

structure Pending where
  call : Call
  buff : Bytes
  txn : ElaTx
  sig : Bytes
  count : Nat

section Sections

variable (format : ElaFormat) (ela : ElaLibrary)

/-- `OnSmallCrossTx` up to its second `Lock`. -/
def readSection (collector : Collector) (call : Call) : Except String Pending :=
  if collector.eventMux = false then .error "smallCrossTxDb is nil"
  else if collector.smallCrossTxMsgMap call.rawTx then .error "smallCroTxConfirmed"
  else
    match hexDecodeString call.rawTx with
    | none => .error (hexDecodeError call.rawTx)
    | some buff =>
      match format.deserializeTransaction buff with
      | .error reason => .error reason
      | .ok txn =>
        let ctx := getSmallCrossTxMsg collector.smallCrossTxDb txn.hash
        let count := signatureCount ctx
        if txn.hash.length < 2 then .error "runtime error: slice bounds out of range"
        else if ctx.any fun known =>
            known.signatures.contains call.signature then
          .error "verified this signature"
        else if count ≥ getMaxArbitersSign call.total then .error "smallCroTxConfirmed"
        else
          match hexDecodeString call.signature with
          | none => .error (hexDecodeError call.signature)
          | some sig => .ok ⟨call, buff, txn, sig, count⟩

/-- `OnSmallCrossTx` from its second `Lock` on. -/
def writeSection (collector : Collector) (pending : Pending) : Collector × Except String Unit :=
  match findSigner ela collector pending.txn.hash pending.buff
      pending.sig pending.call.arbiters with
  | .error reason => (collector, .error reason)
  | .ok none => (collector, .ok ())
  | .ok (some pubkey) =>
    (countSignature collector pending.call pending.txn.hash pubkey pending.count, .ok ())

inductive Stage where
  | entered (call : Call)
  | read (pending : Pending)

def Stage.advance : Stage → Collector → Collector × Option Stage
  | .entered call, collector =>
    match readSection format collector call with
    | .error _ => (collector, none)
    | .ok pending => (collector, some (.read pending))
  | .read pending, collector => ((writeSection ela collector pending).1, none)

end Sections

variable {format : ElaFormat} {ela : ElaLibrary}
variable {collector : Collector} {call : Call} {pending : Pending}

theorem onSmallCrossTx_eq (format : ElaFormat) (ela : ElaLibrary) (collector : Collector)
    (call : Call) : onSmallCrossTx format ela collector call =
      match readSection format collector call with
      | .error reason => (collector, .error reason)
      | .ok pending => writeSection ela collector pending := by
  unfold onSmallCrossTx readSection
  by_cases ready : collector.eventMux = false
  · simp [ready]
  by_cases confirmed : collector.smallCrossTxMsgMap call.rawTx
  · simp [ready, confirmed]
  rw [if_neg ready, if_neg confirmed, if_neg ready, if_neg confirmed]
  cases decoded : hexDecodeString call.rawTx with
  | none => rfl
  | some buff =>
    cases read : format.deserializeTransaction buff with
    | error reason => simp only [read]
    | ok txn =>
      simp only [read]
      split_ifs
      · rfl
      · rfl
      · rfl
      · cases hexDecodeString call.signature with
        | none => rfl
        | some sig => rfl

theorem alone_entered (format : ElaFormat) (ela : ElaLibrary) (collector : Collector)
    (call : Call) :
    alone (Stage.advance format ela) 2 (.entered call) collector =
      ((onSmallCrossTx format ela collector call).1, none) := by
  rw [onSmallCrossTx_eq]
  simp only [alone, Stage.advance]
  rcases readSection format collector call with _ | pending
  · rfl
  · rfl

structure Enters (format : ElaFormat) (collector : Collector) (pending : Pending) : Prop where
  ready : collector.eventMux = true
  unconfirmed : collector.smallCrossTxMsgMap pending.call.rawTx = false
  decoded : hexDecodeString pending.call.rawTx = some pending.buff
  read : format.deserializeTransaction pending.buff = .ok pending.txn
  hashed : 2 ≤ pending.txn.hash.length
  fresh : ∀ record, getSmallCrossTxMsg collector.smallCrossTxDb pending.txn.hash = some record →
      pending.call.signature ∉ record.signatures
  count : pending.count = signatureCount
    (getSmallCrossTxMsg collector.smallCrossTxDb pending.txn.hash)
  below : pending.count < getMaxArbitersSign pending.call.total
  signature : hexDecodeString pending.call.signature = some pending.sig

theorem readSection_eq_ok_iff :
    readSection format collector call = .ok pending ↔
      pending.call = call ∧ Enters format collector pending := by
  constructor
  · intro passed
    unfold readSection at passed
    split_ifs at passed with notReady confirmed
    cases decoded : hexDecodeString call.rawTx with
    | none => simp [decoded] at passed
    | some buff =>
      cases read : format.deserializeTransaction buff with
      | error reason => simp [decoded, read] at passed
      | ok txn =>
        simp only [decoded, read] at passed
        split_ifs at passed with short known full
        cases signature : hexDecodeString call.signature with
        | none => simp [signature] at passed
        | some sig =>
          simp only [signature, Except.ok.injEq] at passed
          subst passed
          refine ⟨rfl, ?_⟩
          exact {
            ready := Bool.eq_true_of_not_eq_false notReady
            unconfirmed := Bool.eq_false_of_not_eq_true confirmed
            decoded := decoded
            read := read
            hashed := Nat.not_lt.1 short
            fresh := by
              intro record found member
              exact known (by simp [found, member])
            count := rfl
            below := Nat.not_le.1 full
            signature := signature }
  · rintro ⟨rfl, enters⟩
    have unknown : ¬(getSmallCrossTxMsg collector.smallCrossTxDb pending.txn.hash).any (fun known =>
          known.signatures.contains pending.call.signature) = true := by
      intro known
      obtain ⟨record, found, member⟩ := (Option.any_eq_true _ _).1 known
      exact enters.fresh record found (by simpa using member)
    unfold readSection
    simp only [enters.ready, enters.unconfirmed, enters.decoded,
      enters.read, Nat.not_lt.2 enters.hashed, unknown, ← enters.count,
      ge_iff_le, Nat.not_le.2 enters.below, enters.signature,
      Bool.true_eq_false, Bool.false_eq_true, if_false]

theorem Enters.onSmallCrossTx_eq (enters : Enters format collector pending) :
    onSmallCrossTx format ela collector pending.call = writeSection ela collector pending := by
  rw [SmallCross.onSmallCrossTx_eq, readSection_eq_ok_iff.2 ⟨rfl, enters⟩]

/-! ## Who signed -/

theorem findSigner_unverified {txid buff sig pubkey : Bytes} {arbiters : List Bytes}
    (found : findSigner ela collector txid buff sig arbiters = .ok (some pubkey)) :
    collector.isArbiterVerified pubkey txid = false := by
  induction arbiters with
  | nil => cases found
  | cons candidate rest inductionHypothesis =>
    unfold findSigner at found
    split at found
    · exact inductionHypothesis found
    next unverified =>
      split at found
      · cases found
      split at found
      · cases found
        exact Bool.eq_false_of_not_eq_true unverified
      · exact inductionHypothesis found

theorem findSigner_later {later : Collector} {txid buff sig pubkey : Bytes} {arbiters : List Bytes}
    (grows : ∀ arbiter, collector.isArbiterVerified arbiter txid = true →
        later.isArbiterVerified arbiter txid = true)
    (unverified : later.isArbiterVerified pubkey txid = false)
    (found : findSigner ela collector txid buff sig arbiters = .ok (some pubkey)) :
    findSigner ela later txid buff sig arbiters = .ok (some pubkey) := by
  induction arbiters with
  | nil => cases found
  | cons candidate rest inductionHypothesis =>
    unfold findSigner at found
    unfold findSigner
    split at found
    · next verified =>
        rw [if_pos (grows candidate verified)]
        exact inductionHypothesis found
    split at found
    · cases found
    split at found
    · cases found
      simp [unverified]
    -- Whether the candidate is skipped or tried again, it is not it.
    simp only [inductionHypothesis found, ite_self]

theorem Enters.counts {signer : Bytes} (enters : Enters format collector pending)
    (signs : findSigner ela collector pending.txn.hash pending.buff
      pending.sig pending.call.arbiters = .ok (some signer)) :
    Counts format ela collector pending.call pending.buff pending.txn signer pending.sig := by
  obtain ⟨current, valid⟩ := findSigner_eq_some signs
  have below := enters.below
  rw [enters.count] at below
  exact ⟨enters.decoded, enters.read, below, enters.signature, current, valid⟩

theorem writeSection_eq {signer : Bytes}
    (signs : findSigner ela collector pending.txn.hash pending.buff
      pending.sig pending.call.arbiters = .ok (some signer)) :
    (writeSection ela collector pending).1 =
      countSignature collector pending.call pending.txn.hash signer
        pending.count := by
  rw [writeSection, signs]

theorem Enters.stored {signer : Bytes} (enters : Enters format collector pending)
    (signs : findSigner ela collector pending.txn.hash pending.buff
      pending.sig pending.call.arbiters = .ok (some signer))
    (lawful : LawfulTransactions format)
    (fixedLength : FixedSignatureLength ela)
    (wellFormed : WellFormed collector.smallCrossTxDb)
    (small : getMaxArbitersSign pending.call.total < 2 ^ 63) :
    let after := (writeSection ela collector pending).1.smallCrossTxDb
    WellFormed after ∧ getSmallCrossTxMsg after pending.txn.hash =
        some (withSignature (getSmallCrossTxMsg collector.smallCrossTxDb pending.txn.hash)
          pending.call.rawTx pending.call.signature pending.txn.hash pending.call.blockNumber) ∧
      ∀ other, IsLowerHash other → other ≠ pending.txn.hash → getSmallCrossTxMsg after other =
          getSmallCrossTxMsg collector.smallCrossTxDb other := by
  rw [writeSection_eq signs, smallCrossTxDb_countSignature, enters.count]
  exact (enters.counts signs).stored lawful fixedLength wellFormed small

/-! ## Two calls at once -/

theorem recordSignature_recordSignature (db : Db) (rawTx signature otherTx other elaHash : Bytes)
    (count : Nat) (height otherHeight : UInt64) :
    recordSignature (recordSignature db rawTx signature elaHash count height)
        otherTx other elaHash count otherHeight =
      recordSignature db otherTx other elaHash count otherHeight := by
  funext key
  simp only [recordSignature, putSmallTxSignature, putSmallTxData, Function.update_apply]
  split_ifs <;> simp_all [Function.update_apply]

structure Contributes (format : ElaFormat) (ela : ElaLibrary) (collector : Collector)
    (pending : Pending) (signer : Bytes) : Prop where
  enters : Enters format collector pending
  signs : findSigner ela collector pending.txn.hash pending.buff
    pending.sig pending.call.arbiters = .ok (some signer)
  room : pending.count + 1 < getMaxArbitersSign pending.call.total

/-- The record of a transaction holds both signatures and grew by two. -/
def BothStored (before after : Collector) (txid : Bytes) (signature : Bool → Bytes) : Prop :=
  ∃ record, getSmallCrossTxMsg after.smallCrossTxDb txid = some record ∧
      (∀ thread, signature thread ∈ record.signatures) ∧ record.signatures.length =
        signatureCount (getSmallCrossTxMsg before.smallCrossTxDb txid) + 2

def begun (collector : Collector) (call : Bool → Call) : World Bool Collector Stage where
  shared := collector
  calls thread := some (.entered (call thread))

theorem schedule_cases {schedule : List Bool}
    (complete : schedule.Perm [false, false, true, true]) :
    (∃ thread, schedule = [thread, thread, !thread, !thread]) ∨
      ∃ reader writer, schedule = [reader, !reader, writer, !writer] := by
  have length := complete.length_eq
  match schedule, length with
  | [first, second, third, fourth], _ =>
    revert first second third fourth
    decide

theorem mem_signatures_withSignature {prior : Option SmallCrossTx}
    {rawTx signature elaHash text : Bytes} {height : UInt64} :
    text ∈ (withSignature prior rawTx signature elaHash height).signatures ↔
      (∃ record, prior = some record ∧ text ∈ record.signatures) ∨ text = signature := by
  cases prior <;> simp [withSignature]

variable {otherSigner : Bytes}

section Two

variable {signer : Bytes}

theorem Contributes.writeSection_eq
    (contributes : Contributes format ela collector pending signer) :
    (writeSection ela collector pending).1 = { collector with
        smallCrossTxDb := recordSignature collector.smallCrossTxDb
          pending.call.rawTx pending.call.signature pending.txn.hash
          pending.count pending.call.blockNumber
        verifiedArbiter := Function.update collector.verifiedArbiter pending.txn.hash
          (collector.verifiedArbiter pending.txn.hash ++ [signer]) } := by
  rw [SmallCross.writeSection_eq contributes.signs, countSignature,
    if_neg (Nat.not_le.2 contributes.room)]

theorem Contributes.signs_after {other : Pending}
    (contributes : Contributes format ela collector pending signer)
    (another : Contributes format ela collector other otherSigner)
    (same : other.txn.hash = pending.txn.hash) (distinct : otherSigner ≠ signer) :
    findSigner ela (writeSection ela collector pending).1 other.txn.hash
      other.buff other.sig other.call.arbiters = .ok (some otherSigner) := by
  refine findSigner_later ?_ ?_ another.signs
  · intro arbiter verified
    rw [contributes.writeSection_eq]
    simp only [Collector.isArbiterVerified, List.contains_iff_mem,
      same, Function.update_self, List.mem_append] at verified ⊢
    exact .inl verified
  · have unverified := findSigner_unverified another.signs
    rw [contributes.writeSection_eq]
    simp only [Collector.isArbiterVerified, same, Function.update_self,
      List.contains_eq_mem, decide_eq_false_iff_not, List.mem_append,
      List.mem_singleton, not_or] at unverified ⊢
    exact ⟨unverified, distinct⟩

variable (lawful : LawfulTransactions format) (fixedLength : FixedSignatureLength ela)
  (wellFormed : WellFormed collector.smallCrossTxDb)
  (small : getMaxArbitersSign pending.call.total < 2 ^ 63)
  (contributes : Contributes format ela collector pending signer) {other : Pending}
  (another : Contributes format ela collector other otherSigner)
  (same : other.txn.hash = pending.txn.hash)

include lawful fixedLength wellFormed small contributes another same

theorem Contributes.enters_after (different : other.call.signature ≠ pending.call.signature) :
    Enters format (writeSection ela collector pending).1
      { other with count := other.count + 1 } := by
  obtain ⟨-, read, -⟩ := contributes.enters.stored contributes.signs
    lawful fixedLength wellFormed small
  have enters := another.enters
  have kept := contributes.writeSection_eq
  constructor
  · rw [kept]
    exact enters.ready
  · rw [kept]
    exact enters.unconfirmed
  · exact enters.decoded
  · exact enters.read
  · exact enters.hashed
  · intro record stored
    dsimp only at stored ⊢
    rw [same, read] at stored
    obtain rfl := Option.some.inj stored
    rintro member
    rcases mem_signatures_withSignature.1 member with ⟨earlier, before, present⟩ | isNew
    · rw [← same] at before
      exact enters.fresh earlier before present
    · exact different isNew
  · dsimp only
    rw [same, read, signatureCount, signatures_withSignature, enters.count, same]
  · exact another.room
  · exact enters.signature

theorem Contributes.rejected_after (sameText : other.call.signature = pending.call.signature) :
    (onSmallCrossTx format ela (writeSection ela collector pending).1
      other.call).1 = (writeSection ela collector pending).1 := by
  obtain ⟨-, read, -⟩ := contributes.enters.stored contributes.signs
    lawful fixedLength wellFormed small
  rw [onSmallCrossTx_eq]
  cases passed : readSection format (writeSection ela collector pending).1 other.call with
  | error reason => rfl
  | ok again =>
    obtain ⟨isCall, enters⟩ := readSection_eq_ok_iff.1 passed
    have sameBuff := enters.decoded
    rw [isCall, another.enters.decoded] at sameBuff
    have sameTxn := enters.read
    rw [← Option.some.inj sameBuff, another.enters.read] at sameTxn
    have fresh := enters.fresh
    rw [← Except.ok.inj sameTxn, same, isCall, sameText] at fresh
    refine absurd ?_ (fresh _ read)
    exact mem_signatures_withSignature.2 (.inr rfl)

end Two

theorem run_serial (format : ElaFormat) (ela : ElaLibrary) (collector : Collector)
    (call : Bool → Call) (thread : Bool) :
    (EventRuns.run (step (Stage.advance format ela)) (begun collector call)
        ([thread, thread, !thread, !thread].map .resume)).shared =
      (onSmallCrossTx format ela (onSmallCrossTx format ela collector (call thread)).1
        (call !thread)).1 := by
  have schedule : [thread, thread, !thread, !thread].map (.resume : Bool → Turn Bool Stage) =
        List.replicate 2 (.resume thread) ++ List.replicate 2 (.resume !thread) := rfl
  have other : (!thread) ≠ thread := by cases thread <;> decide
  rw [schedule, EventRuns.run_append,
    run_resumes (show (begun collector call).calls thread = some (.entered (call thread)) from rfl),
    run_resumes (Function.update_of_ne other _ _)]
  simp only [begun, alone_entered]

theorem run_overlapping {pending : Bool → Pending}
    (enters : ∀ thread, Enters format collector (pending thread)) (reader writer : Bool) :
    (EventRuns.run (step (Stage.advance format ela))
        (begun collector fun thread => (pending thread).call)
        ([reader, !reader, writer, !writer].map .resume)).shared =
      (writeSection ela (writeSection ela collector (pending writer)).1 (pending !writer)).1 := by
  have read : ∀ thread, readSection format collector (pending thread).call =
        .ok (pending thread) := by
    intro thread
    exact readSection_eq_ok_iff.2 ⟨rfl, enters thread⟩
  cases reader <;> cases writer <;>
    simp [EventRuns.run, step, begun, Stage.advance, read]

/--
Two calls for one transaction, each of which would be counted for its own
arbiter and leaves room for the other.
-/
structure Together (format : ElaFormat) (ela : ElaLibrary) (collector : Collector) (txid : Bytes)
    (pending : Bool → Pending) (signer : Bool → Bytes) : Prop where
  wellFormed : WellFormed collector.smallCrossTxDb
  contributes : ∀ thread, Contributes format ela collector (pending thread) (signer thread)
  sameId : ∀ thread, (pending thread).txn.hash = txid
  distinct : ∀ thread, signer (!thread) ≠ signer thread
  small : ∀ thread, getMaxArbitersSign (pending thread).call.total < 2 ^ 63

namespace Together

variable {txid : Bytes} {pending : Bool → Pending}
variable {signer : Bool → Bytes}

theorem not_bothStored {before after : Collector} {signature : Bool → Bytes} {rawTx text : Bytes}
    {height : UInt64}
    (read : getSmallCrossTxMsg after.smallCrossTxDb txid =
      some (withSignature (getSmallCrossTxMsg before.smallCrossTxDb txid) rawTx text txid height)) :
    ¬BothStored before after txid signature := by
  rintro ⟨record, stored, -, length⟩
  rw [read] at stored
  rw [← Option.some.inj stored, signatures_withSignature] at length
  omega

variable (lawful : LawfulTransactions format) (fixedLength : FixedSignatureLength ela)
  (together : Together format ela collector txid pending signer)

include lawful fixedLength together

theorem bothStored_serial (thread : Bool)
    (different : (pending !thread).call.signature ≠ (pending thread).call.signature) :
    BothStored collector
      (onSmallCrossTx format ela (onSmallCrossTx format ela collector (pending thread).call).1
        (pending !thread).call).1
      txid fun thread => (pending thread).call.signature := by
  have first := together.contributes thread
  have second := together.contributes !thread
  have same : (pending !thread).txn.hash = (pending thread).txn.hash := by
    rw [together.sameId, together.sameId]
  obtain ⟨wellFormed, read, -⟩ := first.enters.stored first.signs lawful
    fixedLength together.wellFormed (together.small thread)
  have enters := first.enters_after lawful fixedLength
    together.wellFormed (together.small thread) second same different
  have signs := first.signs_after second same (together.distinct thread)
  obtain ⟨-, readAgain, -⟩ := enters.stored signs lawful fixedLength
    wellFormed (together.small !thread)
  dsimp only at readAgain
  rw [same, read, together.sameId] at readAgain
  rw [first.enters.onSmallCrossTx_eq, enters.onSmallCrossTx_eq]
  refine ⟨_, readAgain, ?_, ?_⟩
  · intro holder
    by_cases isFirst : holder = thread
    · rw [isFirst]
      refine mem_signatures_withSignature.2 (.inl ⟨_, rfl, ?_⟩)
      exact mem_signatures_withSignature.2 (.inr rfl)
    rw [Bool.eq_not_of_ne isFirst]
    exact mem_signatures_withSignature.2 (.inr rfl)
  · rw [signatures_withSignature, signatureCount, signatures_withSignature]

theorem not_bothStored_serial (thread : Bool)
    (sameText : (pending !thread).call.signature = (pending thread).call.signature) :
    ¬BothStored collector
      (onSmallCrossTx format ela (onSmallCrossTx format ela collector (pending thread).call).1
        (pending !thread).call).1
      txid fun thread => (pending thread).call.signature := by
  have first := together.contributes thread
  have same : (pending !thread).txn.hash = (pending thread).txn.hash := by
    rw [together.sameId, together.sameId]
  obtain ⟨-, read, -⟩ := first.enters.stored first.signs lawful
    fixedLength together.wellFormed (together.small thread)
  have rejected := first.rejected_after lawful fixedLength
    together.wellFormed (together.small thread) (together.contributes !thread) same sameText
  rw [first.enters.onSmallCrossTx_eq, rejected]
  rw [together.sameId] at read
  exact not_bothStored read

theorem not_bothStored_overlapping (writer : Bool) :
    ¬BothStored collector
      (writeSection ela (writeSection ela collector (pending writer)).1 (pending !writer)).1
      txid fun thread => (pending thread).call.signature := by
  have first := together.contributes writer
  have second := together.contributes !writer
  have same : (pending !writer).txn.hash = (pending writer).txn.hash := by
    rw [together.sameId, together.sameId]
  have sameCount : (pending writer).count = (pending !writer).count := by
    rw [first.enters.count, second.enters.count, same]
  obtain ⟨-, read, -⟩ := second.enters.stored second.signs lawful
    fixedLength together.wellFormed (together.small !writer)
  rw [second.writeSection_eq] at read
  -- The second store goes to the place of the first one.
  have replaced :
      (writeSection ela (writeSection ela collector (pending writer)).1
        (pending !writer)).1.smallCrossTxDb =
      recordSignature collector.smallCrossTxDb
        (pending !writer).call.rawTx (pending !writer).call.signature
        (pending !writer).txn.hash (pending !writer).count (pending !writer).call.blockNumber := by
    rw [SmallCross.writeSection_eq (first.signs_after second same (together.distinct writer)),
      smallCrossTxDb_countSignature, first.writeSection_eq, sameCount,
      same, recordSignature_recordSignature]
  rw [← replaced, together.sameId] at read
  exact not_bothStored read

end Together

/--
Two signatures of different arbiters for one transaction are both stored, in
whatever order their calls' sections run, exactly if one call ends before the
other begins and the texts differ.
-/
theorem onSmallCrossTx_bothStored_iff (format : ElaFormat) (ela : ElaLibrary)
    (collector : Collector) (txid : Bytes) (pending : Bool → Pending) (signer : Bool → Bytes)
    (schedule : List Bool) (lawful : LawfulTransactions format)
    (fixedLength : FixedSignatureLength ela)
    (together : Together format ela collector txid pending signer)
    (complete : schedule.Perm [false, false, true, true]) :
    BothStored collector
        (EventRuns.run (step (Stage.advance format ela))
          (begun collector fun thread => (pending thread).call) (schedule.map .resume)).shared
        txid (fun thread => (pending thread).call.signature) ↔
      (∃ thread, schedule = [thread, thread, !thread, !thread]) ∧ (pending false).call.signature ≠
          (pending true).call.signature := by
  rcases schedule_cases complete with ⟨thread, rfl⟩ | ⟨reader, writer, rfl⟩
  · rw [run_serial]
    have texts :
        (pending false).call.signature ≠ (pending true).call.signature ↔
          (pending !thread).call.signature ≠ (pending thread).call.signature := by
      cases thread
      · exact ne_comm
      · rfl
    rw [texts]
    constructor
    · intro both
      refine ⟨⟨thread, rfl⟩, ?_⟩
      intro sameText
      exact together.not_bothStored_serial lawful fixedLength thread sameText both
    · rintro ⟨-, different⟩
      exact together.bothStored_serial lawful fixedLength thread different
  · rw [run_overlapping fun thread => (together.contributes thread).enters]
    constructor
    · intro both
      exact absurd both (together.not_bothStored_overlapping lawful fixedLength writer)
    · rintro ⟨⟨thread, serial⟩, -⟩
      exfalso
      revert serial
      cases reader <;> cases thread <;> simp

namespace Sample

def arbiterOf (thread : Bool) : UInt8 :=
  if thread then 2 else 1

def pendingOf (thread : Bool) : Pending where
  call := signedAt 1 (arbiterOf thread)
  buff := tx
  txn := ⟨txid, true, 0, [], [], []⟩
  sig := keyOf (arbiterOf thread) ++ tx
  count := 0

theorem contributes_pendingOf (thread : Bool) :
    Contributes oneIdFormat fixedLibrary Collector.initial
      (pendingOf thread) (bytes2Hex (keyOf (arbiterOf thread))) := by
  have nothing : getSmallCrossTxMsg Collector.initial.smallCrossTxDb txid = none := by
    decide +kernel
  constructor
  · constructor
    · rfl
    · rfl
    · cases thread <;> decide +kernel
    · rfl
    · exact show 2 ≤ txid.length by decide
    · intro record stored
      cases nothing.symm.trans stored
    · exact (congrArg signatureCount nothing).symm
    · exact show 0 < getMaxArbitersSign 3 by decide
    · cases thread <;> decide +kernel
  · cases thread <;> decide +kernel
  · exact show 0 + 1 < getMaxArbitersSign 3 by decide

theorem together_pendingOf :
    Together oneIdFormat fixedLibrary Collector.initial txid pendingOf
      (fun thread => bytes2Hex (keyOf (arbiterOf thread))) where
  wellFormed _ _ := .inl rfl
  contributes := contributes_pendingOf
  sameId _ := rfl
  distinct thread := by
    cases thread <;> decide +kernel
  small thread := by
    cases thread <;> decide

end Sample

open Sample

/-- The calls of two arbiters one after the other store both signatures. -/
theorem onSmallCrossTx_bothStored_serially :
    BothStored Collector.initial (EventRuns.run (step (Stage.advance oneIdFormat fixedLibrary))
        (begun Collector.initial fun thread =>
          (pendingOf thread).call)
        ([false, false, true, true].map .resume)).shared
      txid fun thread => (pendingOf thread).call.signature :=
  (onSmallCrossTx_bothStored_iff oneIdFormat fixedLibrary
    Collector.initial txid pendingOf _ _ lawfulTransactions_oneIdFormat
    fixedLibrary_fixedSignatureLength together_pendingOf
    (by decide)).2 ⟨⟨false, rfl⟩, by decide +kernel⟩

/--
The calls of two arbiters both read that nothing is stored yet.  What the first
one stores is overwritten by the second one.
-/
theorem onSmallCrossTx_loses_signature :
    Together oneIdFormat fixedLibrary Collector.initial txid pendingOf
        (fun thread => bytes2Hex (keyOf (arbiterOf thread))) ∧
      (getSmallCrossTxMsg (EventRuns.run (step (Stage.advance oneIdFormat fixedLibrary))
          (begun Collector.initial fun thread =>
            (pendingOf thread).call)
          ([false, true, false, true].map .resume)).shared.smallCrossTxDb
        txid).map SmallCrossTx.signatures = some [(pendingOf true).call.signature] ∧
      ¬BothStored Collector.initial (EventRuns.run (step (Stage.advance oneIdFormat fixedLibrary))
          (begun Collector.initial fun thread =>
            (pendingOf thread).call)
          ([false, true, false, true].map .resume)).shared
        txid
        (fun thread => (pendingOf thread).call.signature) := by
  have one : (getSmallCrossTxMsg (EventRuns.run (step (Stage.advance oneIdFormat fixedLibrary))
        (begun Collector.initial fun thread =>
          (pendingOf thread).call)
        ([false, true, false, true].map .resume)).shared.smallCrossTxDb
      txid).map SmallCrossTx.signatures = some [(pendingOf true).call.signature] := by
    decide +kernel
  refine ⟨together_pendingOf, one, ?_⟩
  rintro ⟨record, stored, -, length⟩
  rw [stored, Option.map_some, Option.some.injEq] at one
  rw [one, List.length_singleton] at length
  omega

end EscSideChain.SmallCross
