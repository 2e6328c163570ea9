import EscSideChain.SmallCrossTally

namespace EscSideChain.SmallCross

open Dpos Spv

/-!
# Forgetting a small cross-chain transaction

When a small cross-chain transaction has gone through, `OnSmallTxSuccess` removes what the
package keeps for it.  The keys of `smallCrossTxDb` are made from the transaction id, and
so are those of the counts and of the arbiters.  The flag in `smallCrossTxMsgMap` is kept
under the text of the raw transaction as the caller spelled it.
-/

structure Package where
  collector : Collector
  smallCrossTxCountMap : Bytes → Option Nat

namespace Package

/-- The package after `SmallCrossTxInit`. -/
def initial : Package where
  collector := Collector.initial
  smallCrossTxCountMap _ := none

end Package

section Steps

variable (format : ElaFormat) (ela : ElaLibrary)

/-- The transaction and the count that `OnSmallCrossTx` enters in the counts. -/
def countedBy (collector : Collector) (call : Call) : Option (Bytes × Nat) :=
  match readSection format collector call with
  | .error _ => none
  | .ok pending =>
    match findSigner ela collector pending.txn.hash pending.buff
        pending.sig pending.call.arbiters with
    | .ok (some _) => some (pending.txn.hash, pending.count + 1)
    | _ => none

/-- `OnSmallCrossTx` on all maps of the package. -/
def packageAfter (package : Package) (call : Call) : Package where
  collector := collectorAfter format ela package.collector call
  smallCrossTxCountMap :=
    match countedBy format ela package.collector call with
    | none => package.smallCrossTxCountMap
    | some (txid, count) => Function.update package.smallCrossTxCountMap txid (some count)

end Steps

def deleteSignatures (db : Db) (id : Bytes) : Nat → Db
  | 0 => db
  | bound + 1 => Function.update (deleteSignatures db id bound) (DbKey.signature id bound).text none

/--
`OnSmallTxSuccess`.  The text is sliced, and what is left of it is sliced again
by `GetArbiterSignCount`.  The flag is looked up under the stored raw
transaction, the empty text if there is none.
-/
def onSmallTxSuccess (package : Package) (elaHash : Bytes) : Except String Package :=
  let id := strip0x elaHash
  if id.length < 2 then .error "runtime error: slice bounds out of range"
  else
    let db := package.collector.smallCrossTxDb
    match getArbiterSignCount db id with
    | none => .ok package
    | some count =>
      let unsigned := Function.update (deleteSignatures db id (count + 1).toNat)
        (DbKey.signCount id).text none
      let rawTxData := (unsigned (DbKey.tx id).text).getD []
      let forgotten := Function.update (Function.update unsigned (DbKey.tx id).text none)
        (DbKey.blockHeight id).text none
      .ok
        { collector :=
            { package.collector with
              smallCrossTxDb := forgotten
              smallCrossTxMsgMap := Function.update
                package.collector.smallCrossTxMsgMap rawTxData false
              verifiedArbiter := Function.update package.collector.verifiedArbiter id [] }
          smallCrossTxCountMap :=
            if 0 < (package.smallCrossTxCountMap id).getD 0 then
              Function.update package.smallCrossTxCountMap id none
            else package.smallCrossTxCountMap }

/-! ## What belongs to a transaction -/

def Belongs (format : ElaFormat) (rawTx txid : Bytes) : Prop :=
  ∃ buff txn, hexDecodeString rawTx = some buff ∧ format.deserializeTransaction buff = .ok txn ∧
      txn.hash = txid

/--
Every entry of a transaction is gone, every other entry is as it was, and
collecting its signatures starts again from zero.
-/
structure ClearsExactly (format : ElaFormat) (before after : Package) (txid : Bytes) : Prop where
  db : ∀ key : DbKey, key.elaHash = txid → after.collector.smallCrossTxDb key.text = none
  flags : ∀ rawTx, Belongs format rawTx txid → after.collector.smallCrossTxMsgMap rawTx = false
  count : after.smallCrossTxCountMap txid = none
  arbiters : after.collector.verifiedArbiter txid = []
  otherDb : ∀ text, (∀ key : DbKey, key.elaHash = txid → text ≠ key.text) →
      after.collector.smallCrossTxDb text = before.collector.smallCrossTxDb text
  otherFlags : ∀ rawTx, ¬Belongs format rawTx txid → after.collector.smallCrossTxMsgMap rawTx =
      before.collector.smallCrossTxMsgMap rawTx
  otherCounts : ∀ other, other ≠ txid →
    after.smallCrossTxCountMap other = before.smallCrossTxCountMap other
  otherArbiters : ∀ other, other ≠ txid → after.collector.verifiedArbiter other =
      before.collector.verifiedArbiter other
  fromZero : signaturesOf after.collector txid = []

theorem Belongs.unique {format : ElaFormat} {rawTx txid other : Bytes}
    (belongs : Belongs format rawTx txid) (alsoBelongs : Belongs format rawTx other) :
    txid = other := by
  obtain ⟨buff, txn, decoded, read, rfl⟩ := belongs
  obtain ⟨sameBuff, sameTxn, decodedAgain, readAgain, rfl⟩ := alsoBelongs
  obtain rfl := Option.some.inj (decoded.symm.trans decodedAgain)
  rw [Except.ok.inj (read.symm.trans readAgain)]

/-! ## What a run leaves in the maps -/

structure Owned (format : ElaFormat) (package : Package) : Prop where
  wellFormed : WellFormed package.collector.smallCrossTxDb
  bounded : ∀ txid index, IsLowerHash txid → (signaturesOf package.collector txid).length ≤ index →
      package.collector.smallCrossTxDb (DbKey.signature txid index).text = none
  rawTx : ∀ txid record, IsLowerHash txid →
    getSmallCrossTxMsg package.collector.smallCrossTxDb txid = some record →
      Belongs format record.rawTx txid
  unrecorded : ∀ txid, IsLowerHash txid →
    getSmallCrossTxMsg package.collector.smallCrossTxDb txid = none →
      (∀ key : DbKey, key.elaHash = txid → package.collector.smallCrossTxDb key.text = none) ∧
      package.smallCrossTxCountMap txid = none ∧ package.collector.verifiedArbiter txid = [] ∧
      ∀ rawTx, Belongs format rawTx txid → package.collector.smallCrossTxMsgMap rawTx = false
  positive : ∀ txid, package.smallCrossTxCountMap txid ≠ some 0

variable {txid : Bytes}

section Runs

variable {format : ElaFormat} {ela : ElaLibrary}
variable {package : Package} {call : Call} {pending : Pending}
variable {signer : Bytes}

theorem packageAfter_cases (format : ElaFormat) (ela : ElaLibrary) (package : Package)
    (call : Call) :
    packageAfter format ela package call = package ∨ ∃ pending signer,
        Adds format ela package.collector call pending signer ∧
          packageAfter format ela package call =
            { collector :=
                (onSmallCrossTx format ela package.collector call).1
              smallCrossTxCountMap := Function.update package.smallCrossTxCountMap pending.txn.hash
                (some (pending.count + 1)) } := by
  unfold packageAfter countedBy collectorAfter
  rw [onSmallCrossTx_eq]
  cases passed : readSection format package.collector call with
  | error reason => exact .inl rfl
  | ok pending =>
    obtain ⟨isCall, enters⟩ := readSection_eq_ok_iff.1 passed
    dsimp only
    unfold writeSection
    rcases found : findSigner ela package.collector pending.txn.hash
        pending.buff pending.sig pending.call.arbiters with
      reason | _ | signer
    · exact .inl rfl
    · exact .inl rfl
    · exact .inr ⟨pending, signer, ⟨isCall, enters, found⟩, rfl⟩

theorem Adds.belongs (adds : Adds format ela package.collector call pending signer) :
    Belongs format call.rawTx pending.txn.hash := by
  obtain ⟨rfl, enters, -⟩ := adds
  exact ⟨pending.buff, pending.txn, enters.decoded, enters.read, rfl⟩

theorem Owned.bounded_step {index : Nat} (lawful : LawfulTransactions format)
    (fixedLength : FixedSignatureLength ela) (small : getMaxArbitersSign call.total < 2 ^ 63)
    (owned : Owned format package) (adds : Adds format ela package.collector call pending signer)
    (isHash : IsLowerHash txid)
    (beyond : (signaturesOf (onSmallCrossTx format ela package.collector call).1 txid).length ≤
        index) :
    (onSmallCrossTx format ela package.collector call).1.smallCrossTxDb
      (DbKey.signature txid index).text = none := by
  have ownIsHash := lawful.isHash _ _ adds.enters.read
  obtain ⟨own, others⟩ := adds.signaturesOf_eq lawful fixedLength owned.wellFormed small
  rw [adds.result_eq, smallCrossTxDb_countSignature]
  by_cases isOwn : txid = pending.txn.hash
  · subst isOwn
    rw [own, List.length_append, List.length_singleton] at beyond
    have notNew : index ≠ pending.count := by
      rw [adds.count_eq]
      omega
    rw [recordSignature_text (.signature _ index) isHash isHash]
    simpa [notNew] using owned.bounded pending.txn.hash index isHash (by omega)
  · rw [others txid isHash isOwn] at beyond
    rw [recordSignature_frame (.signature txid index) ownIsHash isHash isOwn]
    exact owned.bounded txid index isHash beyond

theorem Owned.rawTx_step {record : SmallCrossTx} (lawful : LawfulTransactions format)
    (fixedLength : FixedSignatureLength ela) (small : getMaxArbitersSign call.total < 2 ^ 63)
    (owned : Owned format package) (adds : Adds format ela package.collector call pending signer)
    (isHash : IsLowerHash txid)
    (read : getSmallCrossTxMsg (onSmallCrossTx format ela package.collector call).1.smallCrossTxDb
      txid = some record) :
    Belongs format record.rawTx txid := by
  obtain ⟨-, own, others⟩ := adds.stored lawful fixedLength owned.wellFormed small
  by_cases isOwn : txid = pending.txn.hash
  · subst isOwn
    rw [own] at read
    obtain rfl := Option.some.inj read
    cases prior : getSmallCrossTxMsg package.collector.smallCrossTxDb pending.txn.hash with
    | none => exact adds.belongs
    | some earlier => exact owned.rawTx pending.txn.hash earlier isHash prior
  · rw [others txid isHash isOwn] at read
    exact owned.rawTx txid record isHash read

theorem Owned.flag_step {txid rawTx : Bytes}
    (adds : Adds format ela package.collector call pending signer) (other : txid ≠ pending.txn.hash)
    (belongs : Belongs format rawTx txid)
    (unflagged : package.collector.smallCrossTxMsgMap rawTx = false) :
    (onSmallCrossTx format ela package.collector call).1.smallCrossTxMsgMap rawTx = false := by
  rw [adds.result_eq]
  by_contra flagged
  rcases smallCrossTxMsgMap_countSignature
      (Bool.eq_true_of_not_eq_false flagged) with earlier | ⟨rfl, -⟩
  · rw [unflagged] at earlier
    cases earlier
  · exact other (belongs.unique adds.belongs)

theorem Owned.step (lawful : LawfulTransactions format) (fixedLength : FixedSignatureLength ela)
    (small : getMaxArbitersSign call.total < 2 ^ 63) (owned : Owned format package) :
    Owned format (packageAfter format ela package call) := by
  rcases packageAfter_cases format ela package call with same | ⟨pending, signer, adds, after⟩
  · rwa [same]
  have ownIsHash := lawful.isHash _ _ adds.enters.read
  obtain ⟨wellFormed, own, others⟩ := adds.stored lawful fixedLength owned.wellFormed small
  rw [after]
  refine ⟨wellFormed, fun txid index => ?_, fun txid record => ?_, ?_, ?_⟩
  · exact owned.bounded_step lawful fixedLength small adds
  · exact owned.rawTx_step lawful fixedLength small adds
  · intro txid isHash missing
    have other : txid ≠ pending.txn.hash := by
      rintro rfl
      cases own.symm.trans missing
    obtain ⟨keys, count, arbiters, flags⟩ := owned.unrecorded txid isHash
      ((others txid isHash other).symm.trans missing)
    refine ⟨?_, ?_, ?_, ?_⟩
    · intro key ofTxid
      dsimp only
      rw [adds.result_eq, smallCrossTxDb_countSignature,
        recordSignature_frame key ownIsHash (ofTxid ▸ isHash) (ofTxid ▸ other)]
      exact keys key ofTxid
    · exact (Function.update_of_ne other _ _).trans count
    · dsimp only
      rw [adds.verifiedArbiter_eq, if_neg other]
      exact arbiters
    · intro rawTx belongs
      exact Owned.flag_step adds other belongs (flags rawTx belongs)
  · intro txid
    dsimp only
    by_cases isOwn : txid = pending.txn.hash
    · rw [isOwn, Function.update_self]
      simp
    rw [Function.update_of_ne isOwn]
    exact owned.positive txid

theorem spelled_of_flagged {calls : List Call} {rawTx : Bytes}
    (flagged : (EventRuns.run (packageAfter format ela) Package.initial
      calls).collector.smallCrossTxMsgMap rawTx = true) :
    ∃ call ∈ calls, call.rawTx = rawTx := by
  refine @EventRuns.run_invariant_of_mem Package Call _
    (fun package => package.collector.smallCrossTxMsgMap rawTx = true →
      ∃ call ∈ calls, call.rawTx = rawTx) _ _ ?_ ?_ flagged
  · intro package call member earlier
    rcases packageAfter_cases format ela package call with same | ⟨pending, signer, adds, after⟩
    · rwa [same]
    · rw [after, adds.result_eq]
      intro now
      rcases smallCrossTxMsgMap_countSignature now with before | ⟨rfl, -⟩
      · exact earlier before
      · exact ⟨call, member, rfl⟩
  · intro nothing
    cases nothing

theorem owned_initial : Owned format Package.initial where
  wellFormed _ _ := .inl rfl
  bounded _ _ _ _ := rfl
  rawTx txid record isHash read := by
    cases (getSmallCrossTxMsg_eq_none isHash rfl).symm.trans read
  unrecorded _ _ _ := ⟨fun _ _ => rfl, rfl, rfl, fun _ _ => rfl⟩
  positive _ := by
    simp [Package.initial]

theorem owned_run {calls : List Call} (lawful : LawfulTransactions format)
    (fixedLength : FixedSignatureLength ela)
    (small : ∀ call ∈ calls, getMaxArbitersSign call.total < 2 ^ 63) :
    Owned format (EventRuns.run (packageAfter format ela) Package.initial calls) := by
  refine EventRuns.run_invariant_of_mem ?_ owned_initial
  intro package call member owned
  exact owned.step lawful fixedLength (small call member)

end Runs

/-! ## What is removed -/

section Removal

variable {db : Db} {id text : Bytes}

theorem update_none_eq_none_iff {key : Bytes} :
    Function.update db key none text = none ↔ text = key ∨ db text = none := by
  rw [Function.update_apply]
  split_ifs with same
  · simp [same]
  · simp [same]

theorem deleteSignatures_eq_none_iff {bound : Nat} :
    deleteSignatures db id bound text = none ↔
      (∃ index < bound, text = (DbKey.signature id index).text) ∨ db text = none := by
  induction bound with
  | zero => simp [deleteSignatures]
  | succ bound inductionHypothesis =>
    rw [deleteSignatures, update_none_eq_none_iff, inductionHypothesis, ← or_assoc]
    refine or_congr_left ?_
    constructor
    · rintro (last | ⟨index, below, same⟩)
      · exact ⟨bound, Nat.lt_succ_self bound, last⟩
      · exact ⟨index, Nat.lt_succ_of_lt below, same⟩
    · rintro ⟨index, below, same⟩
      rcases Nat.lt_succ_iff_lt_or_eq.1 below with earlier | rfl
      · exact .inr ⟨index, earlier, same⟩
      · exact .inl same

theorem deleteSignatures_of_ne (bound : Nat)
    (other : ∀ index, text ≠ (DbKey.signature id index).text) :
    deleteSignatures db id bound text = db text := by
  induction bound with
  | zero => rfl
  | succ bound inductionHypothesis =>
    rw [deleteSignatures, Function.update_of_ne (other bound), inductionHypothesis]

def forget (db : Db) (id : Bytes) (signatures : Nat) : Db :=
  Function.update
    (Function.update
      (Function.update (deleteSignatures db id signatures) (DbKey.signCount id).text none)
      (DbKey.tx id).text none)
    (DbKey.blockHeight id).text none

theorem forget_own {signatures : Nat}
    (bounded : ∀ index, signatures ≤ index → db (DbKey.signature id index).text = none)
    (key : DbKey) (own : key.elaHash = id) : forget db id signatures key.text = none := by
  unfold forget
  rw [update_none_eq_none_iff, update_none_eq_none_iff,
    update_none_eq_none_iff, deleteSignatures_eq_none_iff]
  cases key with
  | tx elaHash =>
    obtain rfl := own
    exact .inr (.inl rfl)
  | blockHeight elaHash =>
    obtain rfl := own
    exact .inl rfl
  | signCount elaHash =>
    obtain rfl := own
    exact .inr (.inr (.inl rfl))
  | signature elaHash index =>
    obtain rfl := own
    refine .inr (.inr (.inr ?_))
    by_cases below : index < signatures
    · exact .inl ⟨index, below, rfl⟩
    · exact .inr (bounded index (Nat.not_lt.1 below))

theorem forget_other (signatures : Nat)
    (other : ∀ key : DbKey, key.elaHash = id → text ≠ key.text) :
    forget db id signatures text = db text := by
  rw [forget, Function.update_of_ne (other (.blockHeight id) rfl),
    Function.update_of_ne (other (.tx id) rfl), Function.update_of_ne (other (.signCount id) rfl),
    deleteSignatures_of_ne signatures fun index => other (.signature id index) rfl]

end Removal

section Success

variable {format : ElaFormat} {package : Package}
variable {elaHash : Bytes} {record : SmallCrossTx}

def without (package : Package) (record : SmallCrossTx) : Package where
  collector :=
    { package.collector with
      smallCrossTxDb := forget package.collector.smallCrossTxDb
        record.rawTxID record.signatures.length
      smallCrossTxMsgMap := Function.update package.collector.smallCrossTxMsgMap record.rawTx false
      verifiedArbiter := Function.update package.collector.verifiedArbiter record.rawTxID [] }
  smallCrossTxCountMap :=
    Function.update package.smallCrossTxCountMap record.rawTxID none

theorem onSmallTxSuccess_of_missing (owned : Owned format package)
    (isHash : IsLowerHash (strip0x elaHash))
    (missing : getSmallCrossTxMsg package.collector.smallCrossTxDb (strip0x elaHash) = none) :
    onSmallTxSuccess package elaHash = .ok package := by
  have long : ¬(strip0x elaHash).length < 2 := by
    rw [isHash.length]
    decide
  have noEntry := (owned.unrecorded _ isHash missing).1 (.signCount (strip0x elaHash)) rfl
  have noCount : getArbiterSignCount package.collector.smallCrossTxDb (strip0x elaHash) = none := by
    rw [getArbiterSignCount, isHash.strip0x_eq, noEntry, Option.map_none]
  simp only [onSmallTxSuccess, long, if_false, noCount]

theorem Owned.deleteCount_eq (owned : Owned format package) (txid : Bytes) :
    (if 0 < (package.smallCrossTxCountMap txid).getD 0 then
        Function.update package.smallCrossTxCountMap txid none
      else package.smallCrossTxCountMap) =
      Function.update package.smallCrossTxCountMap txid none := by
  split_ifs with found
  · rfl
  · rw [eq_comm, Function.update_eq_self_iff]
    have notZero := owned.positive txid
    cases entry : package.smallCrossTxCountMap txid with
    | none => rfl
    | some number =>
      rw [entry, Option.getD_some, Nat.not_lt, Nat.le_zero] at found
      rw [entry, found] at notZero
      exact absurd rfl notZero

theorem Represents.rawTx_unsigned {db : Db} (represents : Represents db record) :
    Function.update (deleteSignatures db record.rawTxID record.signatures.length)
        (DbKey.signCount record.rawTxID).text none
        (DbKey.tx record.rawTxID).text = some record.rawTx := by
  have isHash := represents.isHash
  rw [@update_text _ (.signCount _) (.tx _) _ isHash isHash,
    if_neg (by simp), deleteSignatures_of_ne, represents.rawTx]
  intro index same
  cases @DbKey.text_injective (.tx _) (.signature _ index) isHash isHash same

theorem onSmallTxSuccess_of_record (owned : Owned format package)
    (isId : record.rawTxID = strip0x elaHash)
    (represents : Represents package.collector.smallCrossTxDb record) :
    onSmallTxSuccess package elaHash = .ok (without package record) := by
  have long : ¬record.rawTxID.length < 2 := by
    rw [represents.isHash.length]
    decide
  simp only [onSmallTxSuccess, ← isId, long, if_false,
    represents.getArbiterSignCount_eq, represents.toNat_count,
    represents.rawTx_unsigned, owned.deleteCount_eq, Option.getD_some, without, forget]

theorem without_clears_iff (owned : Owned format package)
    (represents : Represents package.collector.smallCrossTxDb record) :
    ClearsExactly format package (without package record) record.rawTxID ↔
      ∀ rawTx, Belongs format rawTx record.rawTxID →
        package.collector.smallCrossTxMsgMap rawTx = true → rawTx = record.rawTx := by
  have isHash := represents.isHash
  have read := represents.read
  have length : (signaturesOf package.collector
      record.rawTxID).length = record.signatures.length := by
    rw [signaturesOf, read]
  have gone : ∀ key : DbKey, key.elaHash = record.rawTxID →
      forget package.collector.smallCrossTxDb record.rawTxID
        record.signatures.length key.text = none :=
    forget_own fun index beyond =>
      owned.bounded record.rawTxID index isHash (length ▸ beyond)
  constructor
  · intro clears rawTx belongs flagged
    by_contra different
    have unflagged : Function.update package.collector.smallCrossTxMsgMap record.rawTx false rawTx =
          false :=
      clears.flags rawTx belongs
    rw [Function.update_of_ne different, flagged] at unflagged
    cases unflagged
  · intro only
    refine ⟨gone, ?_, Function.update_self _ _ _, Function.update_self _ _ _, ?_, ?_, ?_, ?_, ?_⟩
    · intro rawTx belongs
      dsimp only [without]
      rw [Function.update_apply]
      split_ifs with same
      · rfl
      · by_contra flagged
        exact same (only rawTx belongs (Bool.eq_true_of_not_eq_false flagged))
    · intro text other
      exact forget_other _ other
    · intro rawTx foreign
      refine Function.update_of_ne ?_ _ _
      rintro rfl
      exact foreign (owned.rawTx record.rawTxID record isHash read)
    · intro other different
      exact Function.update_of_ne different _ _
    · intro other different
      exact Function.update_of_ne different _ _
    · have noRecord : getSmallCrossTxMsg (without package record).collector.smallCrossTxDb
          record.rawTxID = none :=
        getSmallCrossTxMsg_eq_none isHash (gone (.tx record.rawTxID) rfl)
      rw [signaturesOf, noRecord]

theorem clears_self_of_missing (owned : Owned format package) (isHash : IsLowerHash txid)
    (missing : getSmallCrossTxMsg package.collector.smallCrossTxDb txid = none) :
    ClearsExactly format package package txid := by
  obtain ⟨keys, count, arbiters, flags⟩ := owned.unrecorded txid isHash missing
  refine ⟨keys, flags, count, arbiters, fun _ _ => rfl, fun _ _ => rfl,
    fun _ _ => rfl, fun _ _ => rfl, ?_⟩
  rw [signaturesOf, missing]

end Success

/--
After every run, the success of a transaction clears its entries and no others,
exactly if its flags are all under the text that is stored as raw transaction.
-/
theorem onSmallTxSuccess_clears_iff (format : ElaFormat) (ela : ElaLibrary) (calls : List Call)
    (elaHash : Bytes) (lawful : LawfulTransactions format) (fixedLength : FixedSignatureLength ela)
    (small : ∀ call ∈ calls, getMaxArbitersSign call.total < 2 ^ 63)
    (isHash : IsLowerHash (strip0x elaHash)) :
    let package := EventRuns.run (packageAfter format ela) Package.initial calls
    (∃ after, onSmallTxSuccess package elaHash = .ok after ∧
        ClearsExactly format package after (strip0x elaHash)) ↔
      ∀ rawTx, Belongs format rawTx (strip0x elaHash) →
        package.collector.smallCrossTxMsgMap rawTx = true → package.collector.smallCrossTxDb
            (DbKey.tx (strip0x elaHash)).text = some rawTx := by
  intro package
  have owned : Owned format package := owned_run lawful fixedLength small
  rcases owned.wellFormed.cases isHash with ⟨-, missing⟩ | ⟨record, isId, represents, -⟩
  · have unflagged := (owned.unrecorded _ isHash missing).2.2.2
    constructor
    · intro _ rawTx belongs flagged
      rw [unflagged rawTx belongs] at flagged
      cases flagged
    · intro _
      exact ⟨package, onSmallTxSuccess_of_missing owned isHash missing,
        clears_self_of_missing owned isHash missing⟩
  · have done := onSmallTxSuccess_of_record owned isId represents
    have clears := without_clears_iff owned represents
    rw [← isId, represents.rawTx]
    constructor
    · rintro ⟨after, result, isCleared⟩ rawTx belongs flagged
      obtain rfl := Except.ok.inj (done.symm.trans result)
      rw [clears.1 isCleared rawTx belongs flagged]
    · intro only
      refine ⟨without package record, done, clears.2 ?_⟩
      intro rawTx belongs flagged
      exact (Option.some.inj (only rawTx belongs flagged)).symm

namespace Sample

def letteredTx : Bytes :=
  List.replicate 32 0xab

def capitals : Bytes :=
  (List.replicate 32 (ascii "AB")).flatten

def spelledBy (rawTx : Bytes) (number : UInt8) : Call where
  arbiters := (arbitersAt 1).map bytes2Hex
  total := 3
  signature := bytes2Hex (keyOf number ++ letteredTx)
  rawTx := rawTx
  blockNumber := 1

def oneSpelling : List Call :=
  [spelledBy (bytes2Hex letteredTx) 1, spelledBy (bytes2Hex letteredTx) 2,
    spelledBy (bytes2Hex letteredTx) 3]

def twoSpellings : List Call :=
  [spelledBy (bytes2Hex letteredTx) 1, spelledBy (bytes2Hex letteredTx) 2, spelledBy capitals 3]

def packageOf (calls : List Call) : Package :=
  EventRuns.run (packageAfter oneIdFormat fixedLibrary) Package.initial calls

end Sample

open Sample

/-- A transaction that was spelled in one way is flagged and then forgotten. -/
theorem onSmallTxSuccess_clears_oneSpelling :
    (packageOf oneSpelling).collector.smallCrossTxMsgMap (bytes2Hex letteredTx) = true ∧
      ∃ after, onSmallTxSuccess (packageOf oneSpelling) Sample.txid = .ok after ∧
          ClearsExactly oneIdFormat (packageOf oneSpelling) after Sample.txid := by
  refine ⟨by decide +kernel, ?_⟩
  have stored : (packageOf oneSpelling).collector.smallCrossTxDb
        (DbKey.tx Sample.txid).text = some (bytes2Hex letteredTx) := by
    decide +kernel
  refine (onSmallTxSuccess_clears_iff oneIdFormat fixedLibrary
    oneSpelling Sample.txid lawfulTransactions_oneIdFormat
    fixedLibrary_fixedSignatureLength ?_ ?_).2 ?_
  · intro call member
    simp only [oneSpelling, List.mem_cons, List.not_mem_nil, or_false] at member
    rcases member with rfl | rfl | rfl <;>
      exact show getMaxArbitersSign 3 < 2 ^ 63 by decide
  · exact lawfulTransactions_oneIdFormat.isHash [0] _ rfl
  · intro rawTx _ flagged
    obtain ⟨call, member, rfl⟩ := spelled_of_flagged flagged
    have spelled : ∀ call ∈ oneSpelling, call.rawTx = bytes2Hex letteredTx := by
      decide +kernel
    rw [spelled call member]
    exact stored

/--
The arbiter who fills the record spells the transaction with capital letters.
The flag of that text is still set after the success, and the next collection is
refused to whoever spells it like that.
-/
theorem onSmallTxSuccess_leaves_flag :
    Belongs oneIdFormat capitals Sample.txid ∧
      (∃ after, onSmallTxSuccess (packageOf twoSpellings) Sample.txid = .ok after ∧
          after.collector.smallCrossTxMsgMap capitals = true ∧
          (onSmallCrossTx oneIdFormat fixedLibrary after.collector (spelledBy capitals 1)).2 =
            .error "smallCroTxConfirmed") ∧
      ∀ after, onSmallTxSuccess (packageOf twoSpellings) Sample.txid = .ok after →
          ¬ClearsExactly oneIdFormat (packageOf twoSpellings) after Sample.txid := by
  have belongs : Belongs oneIdFormat capitals
      Sample.txid :=
    ⟨letteredTx, _, by decide +kernel, rfl, rfl⟩
  have left : (onSmallTxSuccess (packageOf twoSpellings) Sample.txid).toOption.map (fun after =>
        (after.collector.smallCrossTxMsgMap capitals,
          (onSmallCrossTx oneIdFormat fixedLibrary after.collector (spelledBy capitals 1)).2)) =
          some (true, .error "smallCroTxConfirmed") := by
    decide +kernel
  cases result : onSmallTxSuccess (packageOf twoSpellings) Sample.txid with
  | error reason =>
    rw [result] at left
    cases left
  | ok after =>
    rw [result] at left
    obtain ⟨flagged, refused⟩ := Prod.mk.inj (Option.some.inj left)
    refine ⟨belongs, ⟨after, rfl, flagged, refused⟩, ?_⟩
    rintro same ⟨rfl⟩ clears
    rw [clears.flags capitals belongs] at flagged
    cases flagged

end EscSideChain.SmallCross
