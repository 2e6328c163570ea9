import EscSideChain.FailedRechargeRuns
import EscSideChain.SmallCrossStore

namespace EscSideChain.SmallCross

open Dpos Spv

/-!
# Collecting a small cross-chain transaction

`OnSmallCrossTx` collects the arbiters' signatures of a main-chain transaction
and posts it once there are enough.  Every call checks its signature against
the arbiters of its own block height and overwrites the stored height with it.
The verifier checks all stored signatures against the arbiters of that one
height, so what was collected under several arbiter sets may not verify.
-/

/-- The maps of the package, and whether `SmallCrossTxInit` has run. -/
structure Collector where
  eventMux : Bool
  verifiedArbiter : Bytes → List Bytes
  smallCrossTxMsgMap : Bytes → Bool
  smallCrossTxDb : Db

namespace Collector

/-- The collector after `SmallCrossTxInit`. -/
def initial : Collector where
  eventMux := true
  verifiedArbiter _ := []
  smallCrossTxMsgMap _ := false
  smallCrossTxDb _ := none

def isArbiterVerified (collector : Collector) (arbiter txid : Bytes) : Bool :=
  (collector.verifiedArbiter txid).contains arbiter

end Collector

/-- The arguments of `OnSmallCrossTx`. -/
structure Call where
  arbiters : List Bytes
  total : Nat
  signature : Bytes
  rawTx : Bytes
  blockNumber : UInt64

variable (format : ElaFormat) (ela : ElaLibrary)

/--
The loop of `OnSmallCrossTx` over the arbiters: the first one not yet counted
under whose key the signature verifies.  A key that does not decode ends it.
-/
def findSigner (collector : Collector) (txid buff sig : Bytes) :
    List Bytes → Except String (Option Bytes)
  | [] => .ok none
  | pubkey :: rest =>
    if collector.isArbiterVerified pubkey txid then findSigner collector txid buff sig rest
    else
      match ela.decodePoint (hex2Bytes pubkey) with
      | .error reason => .error reason
      | .ok pubKey =>
        match ela.verify pubKey buff sig with
        | .ok () => .ok (some pubkey)
        | .error _ => findSigner collector txid buff sig rest

def countSignature (collector : Collector) (call : Call) (txid pubkey : Bytes)
    (count : Nat) : Collector :=
  let counted := { collector with
    smallCrossTxDb := recordSignature collector.smallCrossTxDb call.rawTx
      call.signature txid count call.blockNumber
    verifiedArbiter := Function.update collector.verifiedArbiter txid
      (collector.verifiedArbiter txid ++ [pubkey]) }
  if count + 1 ≥ getMaxArbitersSign call.total then
    { counted with
      smallCrossTxMsgMap :=
        Function.update counted.smallCrossTxMsgMap call.rawTx true
      verifiedArbiter :=
        Function.update counted.verifiedArbiter txid [] }
  else counted

/-- `OnSmallCrossTx`, with the collector it leaves behind. -/
def onSmallCrossTx (collector : Collector) (call : Call) : Collector × Except String Unit :=
  if collector.eventMux = false then (collector, .error "smallCrossTxDb is nil")
  else if collector.smallCrossTxMsgMap call.rawTx then (collector, .error "smallCroTxConfirmed")
  else
    match hexDecodeString call.rawTx with
    | none => (collector, .error (hexDecodeError call.rawTx))
    | some buff =>
      match format.deserializeTransaction buff with
      | .error reason => (collector, .error reason)
      | .ok txn =>
        let ctx := getSmallCrossTxMsg collector.smallCrossTxDb txn.hash
        let count := signatureCount ctx
        if txn.hash.length < 2 then (collector, .error "runtime error: slice bounds out of range")
        else if ctx.any fun known =>
            known.signatures.contains call.signature then
          (collector, .error "verified this signature")
        else if count ≥ getMaxArbitersSign call.total then (collector, .error "smallCroTxConfirmed")
        else
          match hexDecodeString call.signature with
          | none => (collector, .error (hexDecodeError call.signature))
          | some sig =>
            match findSigner ela collector txn.hash buff sig call.arbiters with
            | .error reason => (collector, .error reason)
            | .ok none => (collector, .ok ())
            | .ok (some pubkey) => (countSignature collector call txn.hash pubkey count, .ok ())

/-! ## What one call does -/

structure Counts (collector : Collector) (call : Call) (buff : Bytes) (txn : ElaTx)
    (pubkey sig : Bytes) : Prop where
  decoded : hexDecodeString call.rawTx = some buff
  read : format.deserializeTransaction buff = .ok txn
  below :
    signatureCount (getSmallCrossTxMsg collector.smallCrossTxDb txn.hash) <
      getMaxArbitersSign call.total
  signature : hexDecodeString call.signature = some sig
  current : pubkey ∈ call.arbiters
  valid : ValidSignature ela (hex2Bytes pubkey) buff sig

def IsCounted (collector : Collector) (call : Call) (buff : Bytes) (txn : ElaTx) : Prop :=
  ∃ pubkey sig, Counts format ela collector call buff txn pubkey sig ∧
      (onSmallCrossTx format ela collector call).1 = countSignature collector call txn.hash pubkey
          (signatureCount (getSmallCrossTxMsg collector.smallCrossTxDb txn.hash))

variable {format ela}

variable {arbiters : List Bytes} {buff : Bytes}

theorem findSigner_eq_some {collector : Collector} {txid buff sig pubkey : Bytes}
    (found : findSigner ela collector txid buff sig arbiters = .ok (some pubkey)) :
    pubkey ∈ arbiters ∧ ValidSignature ela (hex2Bytes pubkey) buff sig := by
  induction arbiters with
  | nil => cases found
  | cons candidate rest inductionHypothesis =>
    have later :
        findSigner ela collector txid buff sig rest = .ok (some pubkey) →
          pubkey ∈ candidate :: rest ∧ ValidSignature ela (hex2Bytes pubkey) buff sig := by
      intro foundLater
      obtain ⟨member, valid⟩ := inductionHypothesis foundLater
      exact ⟨List.mem_cons_of_mem candidate member, valid⟩
    unfold findSigner at found
    split at found
    · exact later found
    split at found
    · cases found
    next pubKey decoded =>
      split at found
      · next verified =>
          cases found
          exact ⟨List.mem_cons_self, pubKey, decoded, verified⟩
      · exact later found

theorem onSmallCrossTx_cases {collector : Collector} {call : Call} :
    (onSmallCrossTx format ela collector call).1 = collector ∨
      ∃ buff txn, IsCounted format ela collector call buff txn := by
  unfold IsCounted
  unfold onSmallCrossTx
  split
  · exact .inl rfl
  split
  · exact .inl rfl
  split
  · exact .inl rfl
  next buff decoded =>
    split
    · exact .inl rfl
    next txn read =>
      dsimp only
      split
      · exact .inl rfl
      split
      · exact .inl rfl
      split
      · exact .inl rfl
      next below =>
        split
        · exact .inl rfl
        next sig signature =>
          split
          · exact .inl rfl
          · exact .inl rfl
          · next pubkey found =>
              obtain ⟨current, valid⟩ := findSigner_eq_some found
              exact .inr ⟨buff, txn, pubkey, sig,
                ⟨decoded, read, Nat.not_le.1 below, signature, current, valid⟩, rfl⟩

/-! ## What is stored -/

/--
A main-chain transaction is read from some bytes, and its id is a text of 64
lower-case digits.
-/
structure LawfulTransactions (format : ElaFormat) : Prop where
  isHash : ∀ buff txn, format.deserializeTransaction buff = .ok txn → IsLowerHash txn.hash
  some_ : ∀ buff txn, format.deserializeTransaction buff = .ok txn → buff ≠ []

section Verification

variable (ela : ElaLibrary)
variable (service : Option SpvService) (engine : PbftEngine)

structure Countable (record : SmallCrossTx) (buff : Bytes) (arbiters : List Bytes)
    (total : Nat) : Prop where
  decoded : hexDecodeString record.rawTx = some buff
  answered : blockArbiters service engine record.blockHeight = .ok (arbiters, total)
  counts : ∀ signature ∈ record.signatures, signatureCounts ela arbiters buff signature = true
  atMost : record.signatures.length ≤ getMaxArbitersSign total
  few : getMaxArbitersSign total < 256
  height : 0 < record.blockHeight

def Confirmed (format : ElaFormat) (collector : Collector) (rawTx : Bytes) : Prop :=
  ∃ buff txn record arbiters total, hexDecodeString rawTx = some buff ∧
      format.deserializeTransaction buff = .ok txn ∧
      getSmallCrossTxMsg collector.smallCrossTxDb txn.hash = some record ∧
      Countable ela service engine record buff arbiters total ∧
      getMaxArbitersSign total ≤ record.signatures.length

structure Sound (format : ElaFormat) (collector : Collector) : Prop where
  wellFormed : WellFormed collector.smallCrossTxDb
  records : ∀ id record, IsLowerHash id →
    getSmallCrossTxMsg collector.smallCrossTxDb id = some record → ∃ buff arbiters total,
        Countable ela service engine record buff arbiters total
  confirmed : ∀ rawTx, collector.smallCrossTxMsgMap rawTx = true →
      Confirmed ela service engine format collector rawTx

def PassesArbiters (call : Call) : Prop :=
  blockArbiters service engine call.blockNumber = .ok (call.arbiters.map hex2Bytes, call.total)

/--
A call that is counted has a height above zero and a threshold below 256.  If
the transaction has signatures already, the call is over the same bytes and
its height has the arbiters and the total of the stored height.
-/
structure Steady (format : ElaFormat) (collector : Collector) (call : Call) : Prop where
  height : ∀ buff txn, IsCounted format ela collector call buff txn → 0 < call.blockNumber
  few : ∀ buff txn, IsCounted format ela collector call buff txn →
      getMaxArbitersSign call.total < 256
  sameBytes : ∀ buff txn record, IsCounted format ela collector call buff txn →
    getSmallCrossTxMsg collector.smallCrossTxDb txn.hash = some record →
        hexDecodeString record.rawTx = some buff
  sameArbiters : ∀ buff txn record, IsCounted format ela collector call buff txn →
    getSmallCrossTxMsg collector.smallCrossTxDb txn.hash = some record →
        blockArbiters service engine record.blockHeight =
          blockArbiters service engine call.blockNumber

end Verification

variable {service : Option SpvService} {engine : PbftEngine}
variable {collector : Collector} {call : Call}

@[simp] theorem smallCrossTxDb_countSignature {txid pubkey : Bytes} {count : Nat} :
    (countSignature collector call txid pubkey count).smallCrossTxDb =
      recordSignature collector.smallCrossTxDb call.rawTx
        call.signature txid count call.blockNumber := by
  unfold countSignature
  dsimp only
  split <;> rfl

theorem smallCrossTxMsgMap_countSignature {txid pubkey rawTx : Bytes} {count : Nat}
    (confirmed : (countSignature collector call txid pubkey
      count).smallCrossTxMsgMap rawTx = true) :
    collector.smallCrossTxMsgMap rawTx = true ∨ rawTx = call.rawTx ∧
        getMaxArbitersSign call.total ≤ count + 1 := by
  unfold countSignature at confirmed
  dsimp only at confirmed
  split_ifs at confirmed with full
  · by_cases own : rawTx = call.rawTx
    · exact .inr ⟨own, full⟩
    · exact .inl (by simpa [own] using confirmed)
  · exact .inl confirmed

theorem signatures_withSignature (prior : Option SmallCrossTx) (rawTx signature elaHash : Bytes)
    (height : UInt64) :
    (withSignature prior rawTx signature elaHash
        height).signatures.length = signatureCount prior + 1 := by
  cases prior <;> simp [withSignature, signatureCount]

section Step

variable {buff pubkey sig : Bytes} {txn : ElaTx}

theorem Counts.stored (lawful : LawfulTransactions format) (fixedLength : FixedSignatureLength ela)
    (wellFormed : WellFormed collector.smallCrossTxDb)
    (small : getMaxArbitersSign call.total < 2 ^ 63)
    (counts : Counts format ela collector call buff txn pubkey sig) :
    let prior := getSmallCrossTxMsg collector.smallCrossTxDb txn.hash
    let after := recordSignature collector.smallCrossTxDb call.rawTx
      call.signature txn.hash (signatureCount prior) call.blockNumber
    WellFormed after ∧ getSmallCrossTxMsg after txn.hash =
        some (withSignature prior call.rawTx call.signature txn.hash call.blockNumber) ∧
      ∀ other, IsLowerHash other → other ≠ txn.hash → getSmallCrossTxMsg after other =
          getSmallCrossTxMsg collector.smallCrossTxDb other := by
  have rawTxSome : call.rawTx ≠ [] := by
    intro empty
    have decoded := counts.decoded
    rw [empty] at decoded
    cases decoded
    exact lawful.some_ _ _ counts.read rfl
  have signatureSome : call.signature ≠ [] := by
    intro empty
    have decoded := counts.signature
    rw [empty] at decoded
    cases decoded
    obtain ⟨publicKey, -, verified⟩ := counts.valid
    cases fixedLength publicKey buff [] verified
  have below := counts.below
  exact wellFormed.recordSignature (lawful.isHash buff txn counts.read)
    rawTxSome signatureSome (by omega)

theorem Counts.signatureCounts (same : call.arbiters.map hex2Bytes = arbiters)
    (counts : Counts format ela collector call buff txn pubkey sig) :
    signatureCounts ela arbiters buff call.signature = true := by
  rw [Spv.signatureCounts, counts.signature]
  refine signedByAny_iff.2 ⟨hex2Bytes pubkey, ?_, counts.valid⟩
  rw [← same]
  exact List.mem_map_of_mem counts.current

theorem IsCounted.countable (steady : Steady ela service engine format collector call)
    (passes : PassesArbiters service engine call)
    (sound : Sound ela service engine format collector) (lawful : LawfulTransactions format)
    (counted : IsCounted format ela collector call buff txn) :
    Countable ela service engine
      (withSignature (getSmallCrossTxMsg collector.smallCrossTxDb txn.hash)
        call.rawTx call.signature txn.hash call.blockNumber)
      buff (call.arbiters.map hex2Bytes) call.total := by
  have isCounted := counted
  obtain ⟨pubkey, sig, counts, -⟩ := counted
  have below := counts.below
  have own := counts.signatureCounts rfl
  cases read : getSmallCrossTxMsg collector.smallCrossTxDb txn.hash with
  | none =>
    refine ⟨counts.decoded, passes, ?_, ?_,
      steady.few buff txn isCounted, steady.height buff txn isCounted⟩
    · intro signature member
      obtain rfl := List.mem_singleton.1 member
      exact own
    · exact Spv.getMaxArbitersSign_pos call.total
  | some record =>
    obtain ⟨earlierBuff, arbiters, total, earlier⟩ := sound.records
      txn.hash record (lawful.isHash buff txn counts.read) read
    have sameBytes := steady.sameBytes buff txn record isCounted read
    have answered := earlier.answered
    rw [steady.sameArbiters buff txn record isCounted read,
      show blockArbiters service engine call.blockNumber = _
        from passes] at answered
    obtain ⟨rfl, rfl⟩ := Prod.mk.inj (Except.ok.inj answered)
    obtain rfl := Option.some.inj (earlier.decoded.symm.trans sameBytes)
    rw [read] at below
    refine ⟨sameBytes, passes, ?_, ?_, steady.few _ txn isCounted, steady.height _ txn isCounted⟩
    · intro signature member
      rcases List.mem_append.1 member with kept | added
      · exact earlier.counts signature kept
      · obtain rfl := List.mem_singleton.1 added
        exact own
    · rw [signatures_withSignature]
      exact below

theorem IsCounted.not_full {record : SmallCrossTx} {earlierBuff : Bytes} {arbiters : List Bytes}
    {total : Nat} (steady : Steady ela service engine format collector call)
    (passes : PassesArbiters service engine call)
    (read : getSmallCrossTxMsg collector.smallCrossTxDb txn.hash = some record)
    (countable : Countable ela service engine record earlierBuff arbiters total)
    (counted : IsCounted format ela collector call buff txn) :
    record.signatures.length < getMaxArbitersSign total := by
  have answered := countable.answered
  rw [steady.sameArbiters buff txn record counted read,
    show blockArbiters service engine call.blockNumber = _
      from passes] at answered
  obtain ⟨-, rfl⟩ := Prod.mk.inj (Except.ok.inj answered)
  obtain ⟨pubkey, sig, counts, -⟩ := counted
  have below := counts.below
  rwa [read] at below

theorem Sound.step (lawful : LawfulTransactions format) (fixedLength : FixedSignatureLength ela)
    (steady : Steady ela service engine format collector call)
    (passes : PassesArbiters service engine call)
    (sound : Sound ela service engine format collector) :
    Sound ela service engine format (onSmallCrossTx format ela collector call).1 := by
  rcases @onSmallCrossTx_cases format ela collector call with same | ⟨buff, txn, counted⟩
  · rwa [same]
  · have countable := counted.countable steady passes sound lawful
    have notFull := fun record earlierBuff arbiters total read keeps =>
      @IsCounted.not_full format ela service engine collector call buff
        txn record earlierBuff arbiters total steady passes read keeps counted
    have few := steady.few buff txn counted
    obtain ⟨pubkey, sig, counts, result⟩ := counted
    obtain ⟨wellFormed, own, others⟩ :=
      counts.stored lawful fixedLength sound.wellFormed (few.trans (by decide))
    have isHash := lawful.isHash buff txn counts.read
    rw [result]
    constructor
    · rwa [smallCrossTxDb_countSignature]
    · intro id record idIsHash
      rw [smallCrossTxDb_countSignature]
      by_cases same : id = txn.hash
      · rw [same, own]
        rintro ⟨rfl⟩
        exact ⟨buff, _, _, countable⟩
      rw [others id idIsHash same]
      exact sound.records id record idIsHash
    · intro rawTx confirmed
      rcases smallCrossTxMsgMap_countSignature confirmed with earlier | ⟨rfl, full⟩
      · obtain ⟨earlierBuff, earlierTxn, record, arbiters, total,
          decoded, read, stored, keeps, enough⟩ :=
          sound.confirmed rawTx earlier
        refine ⟨earlierBuff, earlierTxn, record, arbiters, total, decoded, read, ?_, keeps, enough⟩
        rw [smallCrossTxDb_countSignature, others _
          (lawful.isHash earlierBuff earlierTxn read), stored]
        intro same
        rw [same] at stored
        exact absurd enough (Nat.not_le.2 (notFull record earlierBuff arbiters total stored keeps))
      · refine ⟨buff, txn, _, _, _, counts.decoded, counts.read, ?_, countable, ?_⟩
        · rw [smallCrossTxDb_countSignature]
          exact own
        · rwa [signatures_withSignature]

end Step

/-! ## What was confirmed is usable -/

theorem Countable.verifies {record : SmallCrossTx}
    {total : Nat} (countable : Countable ela service engine record buff arbiters total)
    (enough : getMaxArbitersSign total ≤ record.signatures.length) :
    verifySmallCrossTxBySignature ela service engine record.rawTx
      record.signatures record.blockHeight = .ok true := by
  refine (verifySmallCrossTxBySignature_eq_true_iff ela).2
    ⟨arbiters, total, buff, countable.answered, countable.decoded, ?_⟩
  rwa [List.countP_eq_length.2 countable.counts]

theorem Countable.width {record : SmallCrossTx} {buff signature : Bytes}
    {total : Nat} (fixedLength : FixedSignatureLength ela)
    (countable : Countable ela service engine record buff arbiters total)
    (member : signature ∈ record.signatures) :
    ∃ sig, hexDecodeString signature = some sig ∧ sig.length = signatureLength := by
  have counts := countable.counts signature member
  unfold signatureCounts at counts
  split at counts
  · cases counts
  next sig decoded =>
    obtain ⟨arbiter, -, publicKey, -, verified⟩ := signedByAny_iff.1 counts
    exact ⟨sig, decoded, fixedLength publicKey buff sig verified⟩

theorem sound_initial : Sound ela service engine format Collector.initial where
  wellFormed _ _ := .inl rfl
  records id record isHash read := by
    rw [getSmallCrossTxMsg_eq_none isHash rfl] at read
    cases read
  confirmed rawTx confirmed := by
    cases confirmed

/--
In a run whose calls are steady, every transaction that was posted has bytes
with its id and its raw transaction, and verifies.  The bytes are recognised
exactly if they are 1024 or more.
-/
theorem confirmedSmallCrossTx_usable (format : ElaFormat) (writer : RecordWriter) (ela : ElaLibrary)
    (service : Option SpvService) (engine : PbftEngine) (calls : List Call)
    (lawful : LawfulTransactions format) (reads : ReadsBack format writer)
    (fixedLength : FixedSignatureLength ela)
    (passes : ∀ call ∈ calls, PassesArbiters service engine call)
    (steady : EventRuns.Along (Steady ela service engine format)
      (fun collector call => (onSmallCrossTx format ela collector call).1)
      Collector.initial calls) :
    let collector := EventRuns.run
      (fun collector call => (onSmallCrossTx format ela collector call).1) Collector.initial calls
    ∀ rawTx, collector.smallCrossTxMsgMap rawTx = true → ∃ buff txn data record,
        hexDecodeString rawTx = some buff ∧ format.deserializeTransaction buff = .ok txn ∧
          getSmallCrossTxBytes writer collector.smallCrossTxDb txn.hash = .ok (data, record) ∧
          record.rawTxID = txn.hash ∧ hexDecodeString record.rawTx = some buff ∧
          (isSmallCrossTxByData format (some engine) data = some record ↔ 1024 ≤ data.length) ∧
          verifySmallCrossTxBySignature ela service engine record.rawTx
            record.signatures record.blockHeight = .ok true := by
  intro collector rawTx confirmed
  have preserved : ∀ collector call, PassesArbiters service engine call ∧
          Steady ela service engine format collector call →
        Sound ela service engine format collector →
        Sound ela service engine format (onSmallCrossTx format ela collector call).1 := by
    rintro collector call ⟨passesNow, steadyNow⟩ sound
    exact sound.step lawful fixedLength steadyNow passesNow
  have sound : Sound ela service engine format collector :=
    EventRuns.run_invariant preserved (EventRuns.along_and_of_mem passes steady) sound_initial
  obtain ⟨buff, txn, record, arbiters, total, decoded, read, stored,
    countable, enough⟩ := sound.confirmed rawTx confirmed
  have isHash := lawful.isHash buff txn read
  rcases sound.wellFormed.cases isHash with ⟨-, missing⟩ | ⟨same, isId, represents, alsoStored⟩
  · cases missing.symm.trans stored
  obtain rfl := Option.some.inj (alsoStored.symm.trans stored)
  have long : ¬txn.hash.length < 2 := by
    rw [isHash.length]
    decide
  refine ⟨buff, txn, serializeSmallCrossTx writer same, same, decoded,
    read, ?_, isId, countable.decoded, ?_, countable.verifies enough⟩
  · rw [getSmallCrossTxBytes, if_neg long, stored]
  · refine reads.isSmallCrossTxByData_serialize_iff
      (countable.atMost.trans_lt countable.few) ?_ represents.rawTxSome
      countable.height represents.signed fun signature member => countable.width fixedLength member
    intro noId
    rw [isId] at noId
    rw [noId] at long
    exact long (by decide)

namespace Sample

def txid : Bytes :=
  List.replicate 64 97

def oneIdFormat : ElaFormat :=
  { Spv.Sample.strokes with
    readVarString := Spv.Sample.tallies.readVarString
    readUint8 := fun data =>
      match data with
      | [] => .error "EOF"
      | byte :: rest => .ok (byte, rest)
    readUint64 := fun data =>
      .ok (bytesToInt (data.take 8), data.drop 8)
    deserializeTransaction := fun data =>
      match data with
      | [] => .error "EOF"
      | _ :: _ => .ok ⟨txid, true, 0, [], [], []⟩ }

def oneIdWriter : RecordWriter where
  writeVarString := Spv.Sample.tallies.writeVarString
  writeUint8 byte := [byte]
  writeUint64 := intToBytes

theorem lawfulTransactions_oneIdFormat : LawfulTransactions oneIdFormat where
  isHash buff txn read := by
    cases buff with
    | nil => cases read
    | cons byte rest =>
      cases read
      refine ⟨List.length_replicate, ?_⟩
      intro char member
      rw [List.eq_of_mem_replicate member]
      exact .inr (by decide)
  some_ buff txn read := by
    rintro rfl
    cases read

theorem readsBack_oneIdFormat : ReadsBack oneIdFormat oneIdWriter where
  text text rest := Spv.Sample.tallies_readsBack.text text rest
  byte byte rest := rfl
  number number rest := by
    have width : (intToBytes number).length = 8 := rfl
    simp only [oneIdFormat, oneIdWriter, List.take_left' width,
      List.drop_left' width, bytesToInt_intToBytes]

def keyOf (number : UInt8) : Bytes :=
  List.replicate 32 number

def arbitersAt (height : UInt32) : List Bytes :=
  if height = 1 then [keyOf 1, keyOf 2, keyOf 3]
  else [keyOf 4, keyOf 5, keyOf 6]

/-- The arbiters of a height are those of the main chain at that height. -/
def changingService : SpvService where
  blockListenerHeight := none
  bestHeaderHeight := .error "not found"
  getConsensusAlgorithm _ := .error "not found"
  getArbiters height := .ok (arbitersAt height, [])

def heightEngine : PbftEngine where
  currentBlockNonce := 0
  blockNonceByHeight height := some height
  configProducers := []

def tx : Bytes :=
  List.replicate 32 7

def signedAt (height : UInt64) (number : UInt8) : Call where
  arbiters := (arbitersAt height.toUInt32).map bytes2Hex
  total := 3
  signature := bytes2Hex (keyOf number ++ tx)
  rawTx := bytes2Hex tx
  blockNumber := height

def after (calls : List Call) : Collector :=
  EventRuns.run (fun collector call =>
      (onSmallCrossTx oneIdFormat fixedLibrary collector call).1)
    Collector.initial calls

def oneHeight : List Call :=
  [signedAt 1 1, signedAt 1 2, signedAt 1 3]

def twoHeights : List Call :=
  [signedAt 1 1, signedAt 1 2, signedAt 2 4]

def twoHeightsRecord : SmallCrossTx where
  rawTxID := txid
  rawTx := bytes2Hex tx
  signatures := twoHeights.map Call.signature
  blockHeight := 2

theorem hash_of_read {txn : ElaTx}
    (read : oneIdFormat.deserializeTransaction buff = .ok txn) : txn.hash = txid := by
  cases buff <;> cases read
  rfl

theorem steady_signedAt {collector : Collector} {number : UInt8}
    (known : (getSmallCrossTxMsg collector.smallCrossTxDb txid).all (fun record =>
        record.rawTx = bytes2Hex tx && record.blockHeight = 1) = true) :
    Steady fixedLibrary (some changingService) heightEngine oneIdFormat
      collector (signedAt 1 number) := by
  have sameRecord : ∀ buff txn record,
      IsCounted oneIdFormat fixedLibrary collector (signedAt 1 number) buff txn →
      getSmallCrossTxMsg collector.smallCrossTxDb txn.hash = some record →
      hexDecodeString (bytes2Hex tx) = some buff ∧
        record.rawTx = bytes2Hex tx ∧ record.blockHeight = 1 := by
    rintro buff txn record ⟨pubkey, sig, counts, -⟩ read
    rw [hash_of_read counts.read] at read
    rw [read] at known
    exact ⟨counts.decoded, by simpa using known⟩
  refine ⟨fun _ _ _ => ?_, fun _ _ _ => ?_, ?_, ?_⟩
  · exact UInt64.zero_lt_one
  · exact show getMaxArbitersSign 3 < 256 by decide
  · intro buff txn record counted read
    obtain ⟨decoded, sameTx, -⟩ := sameRecord buff txn record counted read
    rwa [sameTx]
  · intro buff txn record counted read
    obtain ⟨-, -, sameHeight⟩ := sameRecord buff txn record counted read
    rw [sameHeight]
    rfl

end Sample

open Sample

/-- Three signatures at one height are confirmed, recognised and verify. -/
theorem confirmedSmallCrossTx_usable_oneHeight :
    (after oneHeight).smallCrossTxMsgMap (bytes2Hex tx) = true ∧ ∃ data record,
        getSmallCrossTxBytes oneIdWriter (after oneHeight).smallCrossTxDb txid =
          .ok (data, record) ∧
        isSmallCrossTxByData oneIdFormat (some heightEngine) data = some record ∧
        verifySmallCrossTxBySignature fixedLibrary (some changingService) heightEngine
          record.rawTx record.signatures record.blockHeight = .ok true := by
  have confirmed : (after oneHeight).smallCrossTxMsgMap (bytes2Hex tx) = true := by
    decide +kernel
  have passes : ∀ call ∈ oneHeight, PassesArbiters (some changingService) heightEngine
        call := by
    unfold PassesArbiters
    decide +kernel
  obtain ⟨buff, txn, data, record, -, read, made, -, -, recognised,
    verified⟩ := confirmedSmallCrossTx_usable oneIdFormat
      oneIdWriter fixedLibrary (some changingService) heightEngine oneHeight
      lawfulTransactions_oneIdFormat readsBack_oneIdFormat fixedLibrary_fixedSignatureLength passes
      ⟨steady_signedAt (by decide +kernel), steady_signedAt (by decide +kernel),
        steady_signedAt (by decide +kernel), trivial⟩
      (bytes2Hex tx) confirmed
  rw [hash_of_read read] at made
  have long : (getSmallCrossTxBytes oneIdWriter (after oneHeight).smallCrossTxDb txid).toOption.all
        (fun outcome => 1024 ≤ outcome.1.length) = true := by
    decide +kernel
  refine ⟨confirmed, data, record, made, recognised.2 ?_, verified⟩
  have same : getSmallCrossTxBytes oneIdWriter
      (after oneHeight).smallCrossTxDb txid = .ok (data, record) := made
  rw [same] at long
  simpa [Except.toOption] using long

/--
Three signatures that were valid for the arbiters of their own heights confirm
the transaction.  Under the last height only one of them counts.
-/
theorem confirmedSmallCrossTx_fails_verification :
    (∀ call ∈ twoHeights, PassesArbiters (some changingService) heightEngine call) ∧
      (after twoHeights).smallCrossTxMsgMap (bytes2Hex tx) = true ∧
      ∃ data record, getSmallCrossTxBytes oneIdWriter (after twoHeights).smallCrossTxDb txid =
          .ok (data, record) ∧
        isSmallCrossTxByData oneIdFormat (some heightEngine) data = some record ∧
        verifySmallCrossTxBySignature fixedLibrary (some changingService) heightEngine
          record.rawTx record.signatures record.blockHeight = .ok false := by
  refine ⟨?_, by decide +kernel, ?_⟩
  · unfold PassesArbiters
    decide +kernel
  · have stored : getSmallCrossTxMsg (after twoHeights).smallCrossTxDb txid =
          some twoHeightsRecord := by
      decide +kernel
    refine ⟨serializeSmallCrossTx oneIdWriter
      twoHeightsRecord, twoHeightsRecord, ?_, by decide +kernel, by decide +kernel⟩
    rw [getSmallCrossTxBytes, if_neg (by decide), stored]

end EscSideChain.SmallCross
