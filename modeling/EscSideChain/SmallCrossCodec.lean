import EscSideChain.SmallCrossStore
import EscSideChain.StreamCodec

namespace EscSideChain.SmallCross

open Dpos Spv StreamCodec

/-!
# The codec of a small transfer

`smallcrosstx/smallcrotxmsg.go`.  `Serialize` writes the id, the raw transaction,
the number of signatures in one byte, the signatures and the height;
`Deserialize` reads them in the same order and leaves what follows unread.  The
codecs of strings and numbers belong to the main-chain library.
-/

/-- `SmallCrossTx.Deserialize`, with the part of the stream that it leaves. -/
def readSmallCrossTx (format : ElaFormat) : Reader String UInt8 SmallCrossTx :=
  fun data => do
    let (rawTxID, afterID) ← format.readVarString data
    let (rawTx, afterTx) ← format.readVarString afterID
    let (count, afterCount) ← format.readUint8 afterTx
    let (signatures, afterSignatures) ← readSignatures format count.toNat afterCount
    let (blockHeight, rest) ← format.readUint64 afterSignatures
    return (⟨rawTxID, rawTx, signatures, blockHeight⟩, rest)

/--
The codecs of the library: what is written is read back and the rest is left,
and what is cut short is not read.
-/
structure ExactCodecs (format : ElaFormat) (writer : RecordWriter) : Prop where
  text : ∀ text, Reads format.readVarString (writer.writeVarString text) text
  byte : ∀ byte, Reads format.readUint8 (writer.writeUint8 byte) byte
  number : ∀ number, Reads format.readUint64 (writer.writeUint64 number) number

variable {format : ElaFormat} {writer : RecordWriter}

theorem ExactCodecs.readSignatures (codecs : ExactCodecs format writer) (signatures : List Bytes) :
    Reads (readSignatures format signatures.length)
      (signatures.map writer.writeVarString).flatten signatures := by
  have loop (count : Nat) :
      Spv.readSignatures format count = Reader.times format.readVarString count := by
    induction count with
    | zero => rfl
    | succ count inductionHypothesis =>
      funext data
      rw [Spv.readSignatures, inductionHypothesis]
      rfl
  rw [loop]
  exact .times codecs.text signatures

theorem ExactCodecs.reads_serialize (codecs : ExactCodecs format writer) {ct : SmallCrossTx}
    (few : ct.signatures.length ≤ 255) :
    Reads (readSmallCrossTx format) (serializeSmallCrossTx writer ct)
      ct := by
  have parts : readSmallCrossTx format = Reader.andThen format.readVarString fun rawTxID =>
        Reader.andThen format.readVarString fun rawTx =>
          Reader.andThen format.readUint8 fun count =>
            Reader.andThen (Spv.readSignatures format count.toNat)
              fun signatures =>
                Reader.andThen format.readUint64 fun blockHeight =>
                  Reader.done ⟨rawTxID, rawTx, signatures, blockHeight⟩ :=
    rfl
  have count : (UInt8.ofNat ct.signatures.length).toNat = ct.signatures.length := by
    simp [Nat.mod_eq_of_lt (Nat.lt_succ_of_le few)]
  have signatures : Reads (Spv.readSignatures format (UInt8.ofNat ct.signatures.length).toNat)
      (ct.signatures.map writer.writeVarString).flatten
      ct.signatures := by
    rw [count]
    exact codecs.readSignatures ct.signatures
  rw [parts]
  exact (codecs.text ct.rawTxID).andThen
    ((codecs.text ct.rawTx).andThen ((codecs.byte _).andThen (signatures.andThen
      ((codecs.number ct.blockHeight).andThen_done
        (SmallCrossTx.mk ct.rawTxID ct.rawTx ct.signatures)))))

/--
A record of at most 255 signatures is read back from its encoding with whatever
follows left unread, nothing is read from an encoding that is cut short, and
different records have different encodings.
-/
theorem smallCrossTx_codec (codecs : ExactCodecs format writer) :
    (∀ ct : SmallCrossTx, ct.signatures.length ≤ 255 →
      (∀ suffix, readSmallCrossTx format (serializeSmallCrossTx writer ct ++ suffix) =
          .ok (ct, suffix)) ∧
      ∀ start, start <+: serializeSmallCrossTx writer ct → start ≠ serializeSmallCrossTx writer ct →
          ∃ reason, readSmallCrossTx format start = .error reason) ∧
    ∀ first second : SmallCrossTx, first.signatures.length ≤ 255 → second.signatures.length ≤ 255 →
          serializeSmallCrossTx writer first = serializeSmallCrossTx writer second →
            first = second := by
  constructor
  · intro ct few
    exact ⟨(codecs.reads_serialize few).whole, (codecs.reads_serialize few).cut⟩
  · intro first second firstFew secondFew same
    exact (codecs.reads_serialize firstFew).unique (same ▸ codecs.reads_serialize secondFew)

namespace Sample

def readAnnounced : Reader String UInt8 Bytes
  | 0 :: rest => .ok ([], rest)
  | 1 :: byte :: rest =>
    match readAnnounced rest with
    | .error reason => .error reason
    | .ok (text, remaining) => .ok (byte :: text, remaining)
  | _ => .error "EOF"

def writeAnnounced : Bytes → Bytes
  | [] => [0]
  | byte :: rest => 1 :: byte :: writeAnnounced rest

theorem reads_writeAnnounced (text : Bytes) : Reads readAnnounced (writeAnnounced text) text := by
  induction text with
  | nil =>
    refine ⟨fun _ => rfl, ?_⟩
    intro start isPrefix different
    cases start with
    | nil => exact ⟨_, rfl⟩
    | cons first rest =>
      obtain ⟨rfl, nothing⟩ := List.cons_prefix_cons.1 isPrefix
      rw [List.prefix_nil.1 nothing] at different
      exact absurd rfl different
  | cons byte others inductionHypothesis =>
    constructor
    · intro rest
      simp [writeAnnounced, readAnnounced, inductionHypothesis.whole]
    · intro start isPrefix different
      rcases start with _ | ⟨first, _ | ⟨second, later⟩⟩
      · exact ⟨_, rfl⟩
      · obtain ⟨rfl, _⟩ := List.cons_prefix_cons.1 isPrefix
        exact ⟨_, rfl⟩
      · obtain ⟨rfl, inRest⟩ := List.cons_prefix_cons.1 isPrefix
        obtain ⟨rfl, inOthers⟩ := List.cons_prefix_cons.1 inRest
        have incomplete : later ≠ writeAnnounced others := by
          rintro rfl
          exact different rfl
        obtain ⟨reason, fails⟩ := inductionHypothesis.cut later inOthers incomplete
        exact ⟨reason, by simp [readAnnounced, fails]⟩

def announcedFormat : ElaFormat where
  stringToFixed64 _ := .error "not a number"
  fixed64String _ := []
  uint256FromHexString _ := .error "not a hash"
  readVarString := readAnnounced
  readUint8 data :=
    match data with
    | [] => .error "EOF"
    | byte :: rest => .ok (byte, rest)
  readUint64 data :=
    if data.length < 8 then .error "EOF"
    else .ok (bytesToInt (data.take 8), data.drop 8)
  deserializeTransaction _ := .error "EOF"

def announcedWriter : RecordWriter where
  writeVarString := writeAnnounced
  writeUint8 byte := [byte]
  writeUint64 := intToBytes

theorem exactCodecs_announced : ExactCodecs announcedFormat announcedWriter where
  text := reads_writeAnnounced
  byte byte := by
    refine ⟨fun _ => rfl, ?_⟩
    intro start isPrefix different
    cases start with
    | nil => exact ⟨_, rfl⟩
    | cons first rest =>
      obtain ⟨rfl, nothing⟩ := List.cons_prefix_cons.1 isPrefix
      rw [List.prefix_nil.1 nothing] at different
      exact absurd rfl different
  number number := by
    have width : (intToBytes number).length = 8 := rfl
    constructor
    · intro rest
      simp [announcedFormat, announcedWriter, width, List.take_left' width, List.drop_left' width]
    · intro start isPrefix different
      have short : start.length < 8 := by
        refine Nat.lt_of_le_of_ne (width ▸ isPrefix.length_le) ?_
        intro complete
        exact different (isPrefix.eq_of_length (complete.trans width.symm))
      exact ⟨_, if_pos short⟩

def twoSignatures : SmallCrossTx :=
  ⟨[97, 98], [1, 2, 3], [[4], [5, 6]], 7⟩

end Sample

open Sample

/-- The record with two signatures, followed by one more byte. -/
theorem smallCrossTx_codec_twoSignatures :
    serializeSmallCrossTx announcedWriter twoSignatures =
        [1, 97, 1, 98, 0, 1, 1, 1, 2, 1, 3, 0, 2, 1, 4, 0, 1, 5, 1, 6, 0, 0, 0, 0, 0, 0, 0, 0, 7] ∧
      readSmallCrossTx announcedFormat
          (serializeSmallCrossTx announcedWriter twoSignatures ++ [9]) =
        .ok (twoSignatures, [9]) :=
  ⟨by decide, ((smallCrossTx_codec exactCodecs_announced).1 twoSignatures (by decide)).1 [9]⟩

end EscSideChain.SmallCross
