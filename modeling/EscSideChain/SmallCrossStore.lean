import EscSideChain.SpvRecharge
import Mathlib.Data.List.GetD

namespace EscSideChain.SmallCross

open Spv

/-!
# The stored signatures of a small cross-chain transaction

The map `smallCrossTxDb` of `smallcrosstx/small_cross_tx.go` keeps the raw transaction,
the signatures, their number and a block height under four kinds of keys.  The keys of
different transactions do not clash, so the map is a table of records by transaction id.
-/

/-- The map `smallCrossTxDb`. -/
abbrev Db := Bytes → Option Bytes

/-- `strconv.Itoa` of a number that is not negative. -/
def itoa (number : Nat) : Bytes :=
  (Nat.toDigits 10 number).map fun digit => UInt8.ofNat digit.toNat

inductive DbKey where
  | tx (elaHash : Bytes)
  | signature (elaHash : Bytes) (index : Nat)
  | signCount (elaHash : Bytes)
  | blockHeight (elaHash : Bytes)
  deriving DecidableEq

namespace DbKey

def elaHash : DbKey → Bytes
  | .tx elaHash => elaHash
  | .signature elaHash _ => elaHash
  | .signCount elaHash => elaHash
  | .blockHeight elaHash => elaHash

def text : DbKey → Bytes
  | .tx elaHash => ascii "small_cross_tx" ++ elaHash
  | .signature elaHash index => ascii "small_cross_sig" ++ elaHash ++ itoa index
  | .signCount elaHash => ascii "small_cross_sigcount" ++ elaHash
  | .blockHeight elaHash => ascii "small_cross_blockNumber" ++ elaHash

end DbKey

/-- `IntToBytes`, big endian. -/
def intToBytes (n : UInt64) : Bytes :=
  [56, 48, 40, 32, 24, 16, 8, 0].map fun shift =>
    UInt8.ofNat (n.toNat / 2 ^ shift)

/-- `BytesToInt`; fewer than eight bytes leave the number zero. -/
def bytesToInt (b : Bytes) : UInt64 :=
  if b.length < 8 then 0
  else UInt64.ofNat ((b.take 8).foldl (fun number byte => number * 256 + byte.toNat) 0)

def putSmallTxData (db : Db) (rawTx elaHash : Bytes) : Db :=
  Function.update db (DbKey.tx (strip0x elaHash)).text (some rawTx)

def putSmallTxSignature (db : Db) (signature elaHash : Bytes) (count : Nat)
    (blockNumber : UInt64) : Db :=
  let id := strip0x elaHash
  let counted := Function.update db (DbKey.signCount id).text
    (some (intToBytes (UInt64.ofNat count)))
  let signed := Function.update counted (DbKey.signature id count).text (some signature)
  Function.update signed (DbKey.blockHeight id).text (some (intToBytes blockNumber))

/-- `GetArbiterSignCount`; the stored number is read as an `int`. -/
def getArbiterSignCount (db : Db) (elaHash : Bytes) : Option Int :=
  (db (DbKey.signCount (strip0x elaHash)).text).map fun data =>
    (bytesToInt data).toInt64.toInt

def getReiceivedBlockHeight (db : Db) (elaHash : Bytes) : Option UInt64 :=
  (db (DbKey.blockHeight (strip0x elaHash)).text).map bytesToInt

def stored (db : Db) (key : DbKey) : Option Bytes :=
  (db key.text).filter fun data => data ≠ []

/--
`GetSmallCrossTxMsg`.  The loop reads the signatures from zero up to the stored
number.
-/
def getSmallCrossTxMsg (db : Db) (elaHash : Bytes) : Option SmallCrossTx := do
  let id := strip0x elaHash
  let rawTx ← stored db (.tx id)
  let count ← getArbiterSignCount db id
  let signatures ← (List.range (count + 1).toNat).mapM fun index =>
    stored db (.signature id index)
  let height ← getReiceivedBlockHeight db id
  return ⟨id, rawTx, signatures, height⟩

/-! ## Keys and numbers -/

theorem itoa_injective : Function.Injective itoa := by
  have decoded : ∀ number, (itoa number).map (fun byte => Char.ofNat byte.toNat) =
        Nat.toDigits 10 number := by
    intro number
    rw [itoa, List.map_map]
    conv_rhs => rw [← List.map_id (Nat.toDigits 10 number)]
    refine List.map_congr_left fun digit member => ?_
    have isDigit := Nat.isDigit_of_mem_toDigits (by decide) (by decide) member
    have small : digit.toNat < 256 := by
      simp only [Char.isDigit, Bool.and_eq_true, decide_eq_true_eq,
        UInt32.le_iff_toNat_le] at isDigit
      exact Nat.lt_of_le_of_lt isDigit.2 (by decide)
    simp [Nat.mod_eq_of_lt small]
  intro first second same
  have sameDigits : Nat.toDigits 10 first = Nat.toDigits 10 second := by
    rw [← decoded, ← decoded, same]
  have read := congrArg (Nat.ofDigitChars 10 · 0) sameDigits
  simpa [Nat.ofDigitChars_toDigits] using read

theorem not_count_of_isLowerHash {hash rest tail : Bytes} (isHash : IsLowerHash hash) :
    hash ++ rest ≠ ascii "count" ++ tail := by
  intro same
  match hash, isHash with
  | first :: second :: others, isHash =>
    have letters : ascii "count" = [99, 111, 117, 110, 116] := by decide
    rw [letters] at same
    obtain ⟨-, rfl, -⟩ : first = 99 ∧ second = 111 ∧ _ := by
      simpa using same
    exact absurd (isHash.lower 111 (by simp)) (by unfold IsLowerDigit; decide)
  | [], ⟨length, _⟩ => cases length
  | [_], ⟨length, _⟩ => cases length

namespace DbKey

def kindText : DbKey → Bytes
  | .tx elaHash => 116 :: 120 :: elaHash
  | .signature elaHash index => 115 :: 105 :: 103 :: (elaHash ++ itoa index)
  | .signCount elaHash => 115 :: 105 :: 103 :: (ascii "count" ++ elaHash)
  | .blockHeight elaHash => 98 :: (ascii "lockNumber" ++ elaHash)

theorem text_eq (key : DbKey) : key.text = ascii "small_cross_" ++ key.kindText := by
  have tx : ascii "small_cross_tx" = ascii "small_cross_" ++ [116, 120] := by decide
  have sig : ascii "small_cross_sig" = ascii "small_cross_" ++ [115, 105, 103] := by decide
  have sigcount : ascii "small_cross_sigcount" =
      ascii "small_cross_" ++ (115 :: 105 :: 103 :: ascii "count") := by
    decide
  have block : ascii "small_cross_blockNumber" =
      ascii "small_cross_" ++ (98 :: ascii "lockNumber") := by
    decide
  cases key <;>
    simp only [text, kindText, tx, sig, sigcount, block,
      List.append_assoc, List.cons_append, List.nil_append]

theorem text_injective {key other : DbKey} (isHash : IsLowerHash key.elaHash)
    (otherIsHash : IsLowerHash other.elaHash) (same : key.text = other.text) : key = other := by
  rw [text_eq, text_eq, List.append_cancel_left_eq] at same
  cases key with
  | tx elaHash => cases other <;> simp_all [kindText]
  | blockHeight elaHash => cases other <;> simp_all [kindText]
  | signCount elaHash =>
    cases other with
    | signature otherHash index =>
      simp only [kindText, List.cons.injEq, true_and] at same
      exact absurd same.symm (not_count_of_isLowerHash otherIsHash)
    | _ => simp_all [kindText]
  | signature elaHash index =>
    cases other with
    | signCount otherHash =>
      simp only [kindText, List.cons.injEq, true_and] at same
      exact absurd same (not_count_of_isLowerHash isHash)
    | signature otherHash otherIndex =>
      simp only [kindText, List.cons.injEq, true_and] at same
      obtain ⟨sameHash, sameIndex⟩ := List.append_inj same
        (isHash.length.trans otherIsHash.length.symm)
      rw [sameHash, itoa_injective sameIndex]
    | _ => simp_all [kindText]

end DbKey

theorem higher_mul_add_byte (number : Nat) {shift higher : Nat} (next : higher = shift + 8) :
    number / 2 ^ higher * 256 + (UInt8.ofNat (number / 2 ^ shift)).toNat = number / 2 ^ shift := by
  rw [next, pow_add, ← Nat.div_div_eq_div_mul, UInt8.toNat_ofNat']
  exact Nat.div_add_mod' _ _

@[simp] theorem bytesToInt_intToBytes (n : UInt64) : bytesToInt (intToBytes n) = n := by
  have nothing : 0 = n.toNat / 2 ^ 64 := (Nat.div_eq_of_lt n.toNat_lt).symm
  -- The loop goes from the highest byte to the lowest.
  have read : (intToBytes n).foldl (fun number byte => number * 256 + byte.toNat) 0 = n.toNat := by
    rw [nothing]
    simp only [intToBytes, List.map_cons, List.map_nil, List.foldl_cons, List.foldl_nil]
    rw [higher_mul_add_byte _ (rfl : 64 = 56 + 8), higher_mul_add_byte _ (rfl : 56 = 48 + 8),
      higher_mul_add_byte _ (rfl : 48 = 40 + 8), higher_mul_add_byte _ (rfl : 40 = 32 + 8),
      higher_mul_add_byte _ (rfl : 32 = 24 + 8), higher_mul_add_byte _ (rfl : 24 = 16 + 8),
      higher_mul_add_byte _ (rfl : 16 = 8 + 8),
      higher_mul_add_byte _ (rfl : 8 = 0 + 8), pow_zero, Nat.div_one]
  have eight : ¬(intToBytes n).length < 8 := by simp [intToBytes]
  have whole : (intToBytes n).take 8 = intToBytes n := rfl
  rw [bytesToInt, if_neg eight, whole, read, UInt64.ofNat_toNat]

/-! ## Records -/

structure Represents (db : Db) (record : SmallCrossTx) : Prop where
  isHash : IsLowerHash record.rawTxID
  rawTx : db (DbKey.tx record.rawTxID).text = some record.rawTx
  rawTxSome : record.rawTx ≠ []
  signed : record.signatures ≠ []
  small : record.signatures.length < 2 ^ 63
  count : db (DbKey.signCount record.rawTxID).text =
    some (intToBytes (UInt64.ofNat (record.signatures.length - 1)))
  signature : ∀ index signature, record.signatures[index]? = some signature →
      db (DbKey.signature record.rawTxID index).text = some signature ∧ signature ≠ []
  blockHeight : db (DbKey.blockHeight record.rawTxID).text = some (intToBytes record.blockHeight)

def recordSignature (db : Db) (rawTx signature elaHash : Bytes) (count : Nat)
    (blockNumber : UInt64) : Db :=
  putSmallTxSignature (if count = 0 then putSmallTxData db rawTx elaHash else db)
    signature elaHash count blockNumber

def withSignature (prior : Option SmallCrossTx) (rawTx signature elaHash : Bytes)
    (blockNumber : UInt64) : SmallCrossTx :=
  match prior with
  | none => ⟨elaHash, rawTx, [signature], blockNumber⟩
  | some record =>
    { record with
      signatures := record.signatures ++ [signature]
      blockHeight := blockNumber }

def signatureCount (prior : Option SmallCrossTx) : Nat :=
  match prior with
  | none => 0
  | some record => record.signatures.length

def WellFormed (db : Db) : Prop :=
  ∀ id, IsLowerHash id → db (DbKey.tx id).text = none ∨
      ∃ record, record.rawTxID = id ∧ Represents db record

section Records

variable {db : Db} {record : SmallCrossTx}
variable {id rawTx signature : Bytes} {count : Nat} {height : UInt64}

theorem getSmallCrossTxMsg_eq_none (isHash : IsLowerHash id)
    (missing : db (DbKey.tx id).text = none) : getSmallCrossTxMsg db id = none := by
  simp [getSmallCrossTxMsg, isHash.strip0x_eq, stored, missing]

theorem mapM_range_of_getElem {values : List Bytes} {read : Nat → Option Bytes}
    (reads : ∀ (index : Nat) value, values[index]? = some value → read index = some value) :
    (List.range values.length).mapM read = some values := by
  induction values using List.reverseRecOn with
  | nil => rfl
  | append_singleton before last inductionHypothesis =>
    have earlier : (List.range before.length).mapM read = some before := by
      refine inductionHypothesis fun index value found => ?_
      refine reads index value ?_
      obtain ⟨bound, -⟩ := List.getElem?_eq_some_iff.1 found
      rwa [List.getElem?_append_left bound]
    have final : read before.length = some last := reads before.length last (by simp)
    rw [List.length_append, List.length_singleton, List.range_succ, List.mapM_append, earlier]
    simp [final]

theorem toInt_toInt64_ofNat {number : Nat} (small : number < 2 ^ 63) :
    (UInt64.ofNat number).toInt64.toInt = number := by
  rw [UInt64.toInt64_ofNat', Int64.toInt_ofNat_of_lt small]

theorem Represents.getArbiterSignCount_eq (represents : Represents db record) :
    getArbiterSignCount db record.rawTxID = some ((record.signatures.length - 1 : Nat) : Int) := by
  have small := represents.small
  simp only [getArbiterSignCount, represents.isHash.strip0x_eq,
    represents.count, Option.map_some, bytesToInt_intToBytes]
  rw [toInt_toInt64_ofNat (by omega)]

theorem Represents.toNat_count (represents : Represents db record) :
    (((record.signatures.length - 1 : Nat) : Int) + 1).toNat = record.signatures.length := by
  have positive := List.length_pos_iff.2 represents.signed
  omega

theorem Represents.read (represents : Represents db record) :
    getSmallCrossTxMsg db record.rawTxID = some record := by
  have unprefixed := represents.isHash.strip0x_eq
  have rawTxRead : stored db (.tx record.rawTxID) = some record.rawTx := by
    simp [stored, represents.rawTx, represents.rawTxSome]
  have heightRead : getReiceivedBlockHeight db record.rawTxID = some record.blockHeight := by
    simp [getReiceivedBlockHeight, unprefixed, represents.blockHeight]
  have signaturesRead : (List.range record.signatures.length).mapM (fun index =>
        stored db (.signature record.rawTxID index)) =
        some record.signatures := by
    refine mapM_range_of_getElem fun index signature found => ?_
    obtain ⟨there, some_⟩ := represents.signature index signature found
    simp [stored, there, some_]
  simp [getSmallCrossTxMsg, unprefixed, rawTxRead,
    represents.getArbiterSignCount_eq, represents.toNat_count, heightRead, signaturesRead]

theorem update_text {key other : DbKey} {value : Option Bytes} (isHash : IsLowerHash key.elaHash)
    (otherIsHash : IsLowerHash other.elaHash) : Function.update db key.text value other.text =
      if other = key then value else db other.text := by
  by_cases same : other = key
  · rw [same, Function.update_self, if_pos rfl]
  rw [if_neg same, Function.update_of_ne]
  exact fun sameText =>
    same (DbKey.text_injective otherIsHash isHash sameText)

theorem recordSignature_text (key : DbKey) (isHash : IsLowerHash id)
    (keyIsHash : IsLowerHash key.elaHash) :
    recordSignature db rawTx signature id count height key.text =
      if key = .blockHeight id then some (intToBytes height)
      else if key = .signature id count then some signature
      else if key = .signCount id then some (intToBytes (UInt64.ofNat count))
      else if key = .tx id ∧ count = 0 then some rawTx
      else
        db key.text := by
  have stripped := isHash.strip0x_eq
  have base : (if count = 0 then putSmallTxData db rawTx id else db) key.text =
        if key = .tx id ∧ count = 0 then some rawTx
        else
          db key.text := by
    by_cases first : count = 0
    · simp only [first, if_true, and_true, putSmallTxData, stripped]
      exact @update_text db (.tx id) key _ isHash keyIsHash
    · simp [first]
  simp only [recordSignature, putSmallTxSignature, stripped]
  rw [@update_text _ (.blockHeight id) key _ isHash keyIsHash,
    @update_text _ (.signature id count) key _ isHash keyIsHash,
    @update_text _ (.signCount id) key _ isHash keyIsHash, base]

theorem represents_first (isHash : IsLowerHash id) (rawTxSome : rawTx ≠ [])
    (signatureSome : signature ≠ []) :
    Represents (recordSignature db rawTx signature id 0 height)
      ⟨id, rawTx, [signature], height⟩ where
  isHash := isHash
  rawTx := by
    rw [recordSignature_text (.tx id) isHash isHash]
    simp
  rawTxSome := rawTxSome
  signed := List.cons_ne_nil _ _
  small := by simp
  count := by
    rw [recordSignature_text (.signCount id) isHash isHash]
    simp
  signature index other found := by
    obtain ⟨rfl, rfl⟩ : index = 0 ∧ signature = other := by
      simpa [List.getElem?_singleton] using found
    rw [recordSignature_text (.signature id 0) isHash isHash]
    exact ⟨by simp, signatureSome⟩
  blockHeight := by
    rw [recordSignature_text (.blockHeight id) isHash isHash]
    simp

theorem Represents.next (represents : Represents db record) (signatureSome : signature ≠ [])
    (small : record.signatures.length + 1 < 2 ^ 63) :
    Represents (recordSignature db rawTx signature record.rawTxID record.signatures.length height)
      { record with
        signatures := record.signatures ++ [signature]
        blockHeight := height } where
  isHash := represents.isHash
  rawTx := by
    rw [recordSignature_text (.tx _) represents.isHash represents.isHash]
    simp [represents.signed, represents.rawTx]
  rawTxSome := represents.rawTxSome
  signed := by simp
  small := by simpa using small
  count := by
    rw [recordSignature_text (.signCount _) represents.isHash represents.isHash]
    simp
  signature index other found := by
    rw [recordSignature_text (.signature _ index) represents.isHash represents.isHash]
    by_cases last : index = record.signatures.length
    · obtain rfl : signature = other := by
        simpa [last] using found
      exact ⟨by simp [last], signatureSome⟩
    have bound : index < record.signatures.length := by
      obtain ⟨bound, -⟩ := List.getElem?_eq_some_iff.1 found
      simp only [List.length_append, List.length_singleton] at bound
      omega
    rw [List.getElem?_append_left bound] at found
    simpa [last] using represents.signature index other found
  blockHeight := by
    rw [recordSignature_text (.blockHeight _) represents.isHash represents.isHash]
    simp

theorem recordSignature_frame (key : DbKey) (isHash : IsLowerHash id)
    (keyIsHash : IsLowerHash key.elaHash) (other : key.elaHash ≠ id) :
    recordSignature db rawTx signature id count height key.text = db key.text := by
  rw [recordSignature_text key isHash keyIsHash]
  cases key <;> simp_all [DbKey.elaHash]

theorem Represents.frame (represents : Represents db record) (isHash : IsLowerHash id)
    (other : record.rawTxID ≠ id) :
    Represents (recordSignature db rawTx signature id count height) record where
  isHash := represents.isHash
  rawTx := by
    rw [recordSignature_frame (.tx _) isHash represents.isHash other]
    exact represents.rawTx
  rawTxSome := represents.rawTxSome
  signed := represents.signed
  small := represents.small
  count := by
    rw [recordSignature_frame (.signCount _) isHash represents.isHash other]
    exact represents.count
  signature index stored found := by
    rw [recordSignature_frame (.signature _ index) isHash represents.isHash other]
    exact represents.signature index stored found
  blockHeight := by
    rw [recordSignature_frame (.blockHeight _) isHash represents.isHash other]
    exact represents.blockHeight

variable (wellFormed : WellFormed db) (isHash : IsLowerHash id)

include wellFormed isHash

theorem WellFormed.cases :
    db (DbKey.tx id).text = none ∧ getSmallCrossTxMsg db id = none ∨
      ∃ record, record.rawTxID = id ∧ Represents db record ∧
        getSmallCrossTxMsg db id = some record := by
  rcases wellFormed id isHash with missing | ⟨record, rfl, represents⟩
  · exact .inl ⟨missing, getSmallCrossTxMsg_eq_none isHash missing⟩
  · exact .inr ⟨record, rfl, represents, represents.read⟩

theorem WellFormed.represents_recordSignature
    (rawTxSome : rawTx ≠ []) (signatureSome : signature ≠ [])
    (small : signatureCount (getSmallCrossTxMsg db id) + 1 < 2 ^ 63) :
    let prior := getSmallCrossTxMsg db id
    (withSignature prior rawTx signature id height).rawTxID = id ∧ Represents
        (recordSignature db rawTx signature id (signatureCount prior) height)
        (withSignature prior rawTx signature id height) := by
  intro prior
  rcases wellFormed.cases isHash with ⟨-, read⟩ | ⟨record, rfl, represents, read⟩
  · simp only [prior, read, signatureCount, withSignature, true_and]
    exact represents_first isHash rawTxSome signatureSome
  · rw [read] at small
    simp only [prior, read, signatureCount, withSignature, true_and]
    exact represents.next signatureSome small

theorem WellFormed.cases_recordSignature_of_ne {other : Bytes}
    (otherIsHash : IsLowerHash other) (different : other ≠ id) :
    let after := recordSignature db rawTx signature id count height
    after (DbKey.tx other).text = none ∧ getSmallCrossTxMsg db other = none ∨
      ∃ kept, kept.rawTxID = other ∧ Represents after kept ∧
        getSmallCrossTxMsg db other = some kept := by
  intro after
  rcases wellFormed.cases otherIsHash with ⟨missing, read⟩ | ⟨kept, rfl, keeps, read⟩
  · left
    exact ⟨(recordSignature_frame (.tx other) isHash otherIsHash different).trans missing, read⟩
  · exact .inr ⟨kept, rfl, keeps.frame isHash different, read⟩

theorem WellFormed.recordSignature (rawTxSome : rawTx ≠ []) (signatureSome : signature ≠ [])
    (small : signatureCount (getSmallCrossTxMsg db id) + 1 < 2 ^ 63) :
    let prior := getSmallCrossTxMsg db id
    let after := recordSignature db rawTx signature id (signatureCount prior) height
    WellFormed after ∧ getSmallCrossTxMsg after id =
        some (withSignature prior rawTx signature id height) ∧
      ∀ other, IsLowerHash other → other ≠ id →
        getSmallCrossTxMsg after other = getSmallCrossTxMsg db other := by
  intro prior after
  obtain ⟨isId, represents⟩ :
      (withSignature prior rawTx signature id height).rawTxID = id ∧
        Represents after (withSignature prior rawTx signature id height) :=
    wellFormed.represents_recordSignature isHash rawTxSome signatureSome small
  have read := represents.read
  rw [isId] at read
  refine ⟨?_, read, ?_⟩
  · intro other otherIsHash
    by_cases same : other = id
    · exact .inr ⟨_, isId.trans same.symm, represents⟩
    rcases wellFormed.cases_recordSignature_of_ne isHash otherIsHash same
      with ⟨missing, -⟩ | ⟨kept, isOther, keeps, -⟩
    · exact .inl missing
    · exact .inr ⟨kept, isOther, keeps⟩
  · intro other otherIsHash different
    rcases wellFormed.cases_recordSignature_of_ne isHash otherIsHash
      different with ⟨missing, before⟩ | ⟨kept, rfl, keeps, before⟩
    · rw [getSmallCrossTxMsg_eq_none otherIsHash missing, before]
    · rw [keeps.read, before]

end Records

/-! ## Serialisation -/

structure RecordWriter where
  writeVarString : Bytes → Bytes
  writeUint8 : UInt8 → Bytes
  writeUint64 : UInt64 → Bytes

structure ReadsBack (format : ElaFormat) (writer : RecordWriter) : Prop where
  text : ∀ text rest, format.readVarString (writer.writeVarString text ++ rest) = .ok (text, rest)
  byte : ∀ byte rest, format.readUint8 (writer.writeUint8 byte ++ rest) = .ok (byte, rest)
  number : ∀ number rest, format.readUint64 (writer.writeUint64 number ++ rest) = .ok (number, rest)

variable {format : ElaFormat} {writer : RecordWriter}

/-- `SmallCrossTx.Serialize`; the number of signatures is written as `uint8`. -/
def serializeSmallCrossTx (writer : RecordWriter) (ct : SmallCrossTx) : Bytes :=
  writer.writeVarString ct.rawTxID ++
    (writer.writeVarString ct.rawTx ++
      (writer.writeUint8 (UInt8.ofNat ct.signatures.length) ++
        ((ct.signatures.map writer.writeVarString).flatten ++ writer.writeUint64 ct.blockHeight)))

/-- `GetSmallCrossTxBytes`; a text of fewer than two bytes is sliced first. -/
def getSmallCrossTxBytes (writer : RecordWriter) (db : Db) (elaHash : Bytes) :
    Except String (Bytes × SmallCrossTx) :=
  if elaHash.length < 2 then .error "runtime error: slice bounds out of range"
  else
    match getSmallCrossTxMsg db elaHash with
    | none => .error ("not have this small cross tx:" ++ asciiText elaHash)
    | some tx => .ok (serializeSmallCrossTx writer tx, tx)

theorem ReadsBack.readSignatures_eq (reads : ReadsBack format writer) (signatures : List Bytes)
    (rest : Bytes) :
    readSignatures format signatures.length
        ((signatures.map writer.writeVarString).flatten ++ rest) =
      .ok (signatures, rest) := by
  induction signatures with
  | nil => rfl
  | cons signature others inductionHypothesis =>
    simp [readSignatures, List.append_assoc, reads.text,
      inductionHypothesis, bind, Except.bind, pure, Except.pure]

variable (reads : ReadsBack format writer) {ct : SmallCrossTx} (few : ct.signatures.length < 256)

include reads few

theorem ReadsBack.deserialize_serialize :
    deserializeSmallCrossTx format (serializeSmallCrossTx writer ct) = .ok ct := by
  have count : (UInt8.ofNat ct.signatures.length).toNat = ct.signatures.length := by
    simp [Nat.mod_eq_of_lt few]
  have height :
      format.readUint64 (writer.writeUint64 ct.blockHeight) = .ok (ct.blockHeight, []) := by
    have read := reads.number ct.blockHeight []
    rwa [List.append_nil] at read
  simp [deserializeSmallCrossTx, serializeSmallCrossTx, reads.text,
    reads.byte, count, reads.readSignatures_eq, height, bind, Except.bind, pure, Except.pure]

theorem ReadsBack.isSmallCrossTxByData_serialize_iff {engine : PbftEngine} (hasId : ct.rawTxID ≠ [])
    (hasRawTx : ct.rawTx ≠ []) (hasHeight : 0 < ct.blockHeight) (signed : ct.signatures ≠ [])
    (widths : ∀ signature ∈ ct.signatures, ∃ sig, hexDecodeString signature = some sig ∧
        sig.length = signatureLength) :
    isSmallCrossTxByData format (some engine) (serializeSmallCrossTx writer ct) = some ct ↔
      1024 ≤ (serializeSmallCrossTx writer ct).length := by
  have accepted : ct.signatures.all (fun signature =>
      (hexDecodeString signature).any fun sig =>
        sig.length = signatureLength) = true := by
    rw [List.all_eq_true]
    intro signature member
    obtain ⟨sig, decoded, width⟩ := widths signature member
    simp [decoded, width]
  constructor
  · intro recognised
    by_contra short
    rw [isSmallCrossTxByData, if_pos (.inl (Nat.not_le.1 short))] at recognised
    cases recognised
  · intro long
    rw [isSmallCrossTxByData, if_neg (by simpa using long), reads.deserialize_serialize few]
    dsimp only
    rw [if_pos ⟨hasId, hasRawTx, hasHeight, List.length_pos_iff.2 signed, accepted⟩]

end EscSideChain.SmallCross
