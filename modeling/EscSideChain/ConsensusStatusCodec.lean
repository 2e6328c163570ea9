import EscSideChain.SmallCrossCodec

namespace EscSideChain.Dpos.Msg

open StreamCodec

/-!
# The codec of a consensus status

`dpos/msg/consensusstatus.go`.  Three numbers, four lists, each after the number of
its entries, and the height.  `Deserialize` returns without an error when it cannot
read the number of accept votes.  The codecs of the parts belong to the main-chain
library.
-/

/-- `msg.ConsensusStatus` as it is sent, with the start time in nanoseconds. -/
structure ConsensusStatus where
  consensusStatus : UInt32
  viewOffset : UInt32
  viewStartTime : Int
  acceptVotes : List DPOSProposalVote
  rejectedVotes : List DPOSProposalVote
  pendingProposals : List DPOSProposal
  pendingVotes : List DPOSProposalVote
  workingHeight : UInt64
  deriving DecidableEq

structure Codec (Value : Type) where
  write : Value → Bytes
  read : Reader String UInt8 Value

structure ElaCodecs where
  uint32 : Codec UInt32
  uint64 : Codec UInt64
  varUint : Codec UInt64
  vote : Codec DPOSProposalVote
  proposal : Codec DPOSProposal

/-- What is written is read back, and what is cut short is not read. -/
def Codec.Exact {Value : Type} (codec : Codec Value) : Prop :=
  ∀ value, Reads codec.read (codec.write value) value

structure ElaCodecs.Exact (codecs : ElaCodecs) : Prop where
  uint32 : codecs.uint32.Exact
  uint64 : codecs.uint64.Exact
  varUint : codecs.varUint.Exact
  vote : codecs.vote.Exact
  proposal : codecs.proposal.Exact

variable (codecs : ElaCodecs)

/-- The number of the entries, as `Serialize` writes it before a list. -/
def writeLength {Value : Type} (values : List Value) : Bytes :=
  codecs.varUint.write (UInt64.ofNat values.length)

def writeEntries {Value : Type} (codec : Codec Value) (values : List Value) : Bytes :=
  (values.map codec.write).flatten

def writeHead (status : ConsensusStatus) : Bytes :=
  codecs.uint32.write status.consensusStatus ++ (codecs.uint32.write status.viewOffset ++
    codecs.uint64.write (UInt64.ofBitVec (BitVec.ofInt 64 status.viewStartTime)))

def writeRest (status : ConsensusStatus) : Bytes :=
  writeEntries codecs.vote status.acceptVotes ++
    ((writeLength codecs status.rejectedVotes ++ writeEntries codecs.vote status.rejectedVotes) ++
    ((writeLength codecs status.pendingProposals ++
      writeEntries codecs.proposal status.pendingProposals) ++
    ((writeLength codecs status.pendingVotes ++ writeEntries codecs.vote status.pendingVotes) ++
      codecs.uint64.write status.workingHeight)))

def serialize (status : ConsensusStatus) : Bytes :=
  writeHead codecs status ++ (writeLength codecs status.acceptVotes ++ writeRest codecs status)

def readList {Value : Type} (codec : Codec Value) : Reader String UInt8 (List Value) :=
  codecs.varUint.read.andThen fun arrayLength => codec.read.times arrayLength.toNat

/-- The part of `Deserialize` that fills in the first three fields of the receiver. -/
def readHead (receiver : ConsensusStatus) : Reader String UInt8 ConsensusStatus :=
  codecs.uint32.read.andThen fun consensusStatus =>
    codecs.uint32.read.andThen fun viewOffset =>
      codecs.uint64.read.andThen fun startTimeUnix => .done { receiver with
        consensusStatus := consensusStatus
        viewOffset := viewOffset
        viewStartTime := startTimeUnix.toBitVec.toInt }

/-- The part of `Deserialize` after the number of accept votes. -/
def readRest (arrayLength : UInt64) (head : ConsensusStatus) :
    Reader String UInt8 ConsensusStatus :=
  (codecs.vote.read.times arrayLength.toNat).andThen fun acceptVotes =>
    (readList codecs codecs.vote).andThen fun rejectedVotes =>
      (readList codecs codecs.proposal).andThen fun pendingProposals =>
        (readList codecs codecs.vote).andThen fun pendingVotes =>
          codecs.uint64.read.andThen fun workingHeight => .done { head with
            acceptVotes := acceptVotes
            rejectedVotes := rejectedVotes
            pendingProposals := pendingProposals
            pendingVotes := pendingVotes
            workingHeight := workingHeight }

/-- `Deserialize`; what a failed read leaves of the stream is not looked at. -/
def deserialize (receiver : ConsensusStatus) : Reader String UInt8 ConsensusStatus :=
  (readHead codecs receiver).andThen fun head stream =>
    match codecs.varUint.read stream with
    | .error _ => .ok (head, [])
    | .ok (arrayLength, rest) => readRest codecs arrayLength head rest

/-- The time is representable in nanoseconds, and the lists fit into slices. -/
structure ConsensusStatus.Representable (status : ConsensusStatus) : Prop where
  lower : -2 ^ 63 ≤ status.viewStartTime
  upper : status.viewStartTime < 2 ^ 63
  acceptVotes : status.acceptVotes.length < 2 ^ 63
  rejectedVotes : status.rejectedVotes.length < 2 ^ 63
  pendingProposals : status.pendingProposals.length < 2 ^ 63
  pendingVotes : status.pendingVotes.length < 2 ^ 63

/-- The text ends inside the number of the accept votes, or just before it. -/
def EndsInLength (status : ConsensusStatus) (start : Bytes) : Prop :=
  ∃ later, start = writeHead codecs status ++ later ∧
    later <+: writeLength codecs status.acceptVotes ∧ later ≠ writeLength codecs status.acceptVotes

variable {codecs} {status receiver : ConsensusStatus}

theorem length_roundTrip {Value : Type} {values : List Value} (fits : values.length < 2 ^ 63) :
    (UInt64.ofNat values.length).toNat = values.length := by
  rw [UInt64.toNat_ofNat']
  exact Nat.mod_eq_of_lt (fits.trans (by decide))

theorem reads_list (exact : codecs.Exact) {Value : Type} {codec : Codec Value}
    (entries : codec.Exact) {values : List Value} (fits : values.length < 2 ^ 63) :
    Reads (readList codecs codec) (writeLength codecs values ++ writeEntries codec values)
      values := by
  refine (exact.varUint _).andThen ?_
  rw [length_roundTrip fits]
  exact .times entries values

variable (receiver) in
theorem reads_head (exact : codecs.Exact) (representable : status.Representable) :
    Reads (readHead codecs receiver) (writeHead codecs status) { receiver with
      consensusStatus := status.consensusStatus
      viewOffset := status.viewOffset
      viewStartTime := status.viewStartTime } := by
  have time : (UInt64.ofBitVec (BitVec.ofInt 64 status.viewStartTime)).toBitVec.toInt =
      status.viewStartTime := by
    have lower := representable.lower
    have upper := representable.upper
    rw [UInt64.toBitVec_ofBitVec, BitVec.toInt_ofInt, Int.bmod_eq_of_le] <;> omega
  have last := (exact.uint64 (.ofBitVec (BitVec.ofInt 64 status.viewStartTime))).andThen_done
    fun startTimeUnix => { receiver with
      consensusStatus := status.consensusStatus
      viewOffset := status.viewOffset
      viewStartTime := startTimeUnix.toBitVec.toInt }
  rw [time] at last
  exact (exact.uint32 _).andThen ((exact.uint32 _).andThen last)

variable (receiver) in
theorem reads_rest (exact : codecs.Exact) (representable : status.Representable) :
    Reads (readRest codecs (UInt64.ofNat status.acceptVotes.length) { receiver with
        consensusStatus := status.consensusStatus
        viewOffset := status.viewOffset
        viewStartTime := status.viewStartTime }) (writeRest codecs status) status := by
  have height := (exact.uint64 status.workingHeight).andThen_done
    fun workingHeight => { status with workingHeight := workingHeight }
  unfold readRest
  rw [length_roundTrip representable.acceptVotes]
  exact (Reads.times exact.vote _).andThen
    ((reads_list exact exact.vote representable.rejectedVotes).andThen
    ((reads_list exact exact.proposal representable.pendingProposals).andThen
    ((reads_list exact exact.vote representable.pendingVotes).andThen height)))

/--
A status is read back from its encoding with whatever follows left unread; and an
encoding that is cut short gives an error exactly if it is not cut at the number of
the accept votes.
-/
theorem consensusStatus_codec_iff (exact : codecs.Exact) (receiver : ConsensusStatus)
    (representable : status.Representable) :
    (∀ suffix, deserialize codecs receiver (serialize codecs status ++ suffix) =
        .ok (status, suffix)) ∧
      ∀ start, start <+: serialize codecs status → start ≠ serialize codecs status →
        ((∃ reason, deserialize codecs receiver start = .error reason) ↔
          ¬EndsInLength codecs status start) := by
  have head := reads_head receiver exact representable
  have length := exact.varUint (UInt64.ofNat status.acceptVotes.length)
  have rest := reads_rest receiver exact representable
  have ends_iff (later : Bytes) : EndsInLength codecs status (writeHead codecs status ++ later) ↔
      later <+: writeLength codecs status.acceptVotes ∧
        later ≠ writeLength codecs status.acceptVotes := by
    simp [EndsInLength]
  constructor
  · intro suffix
    unfold deserialize serialize
    rw [List.append_assoc, head.andThen_append, List.append_assoc]
    simp only [writeLength, length.whole]
    exact rest.whole suffix
  · intro start isPrefix different
    rcases cut_cases isPrefix different with ⟨inHead, isCut⟩ | ⟨later, rfl, inLater, isCut⟩
    · refine iff_of_true (head.andThen_cut _ inHead isCut) ?_
      rintro ⟨later, rfl, _⟩
      exact isCut (inHead.eq_of_length_le (by simp))
    rw [ends_iff]
    unfold deserialize
    rw [head.andThen_append]
    rcases cut_cases inLater isCut with inLength | ⟨last, rfl, inRest, isCut⟩
    · obtain ⟨failure, fails⟩ := length.cut later inLength.1 inLength.2
      simp [fails, inLength.1, inLength.2]
    · have notInLength : ¬(writeLength codecs status.acceptVotes ++ last <+:
            writeLength codecs status.acceptVotes ∧
          writeLength codecs status.acceptVotes ++ last ≠
            writeLength codecs status.acceptVotes) := by
        rintro ⟨inLength, longer⟩
        exact longer (inLength.eq_of_length_le (by simp))
      refine iff_of_true ?_ notInLength
      simp only [writeLength, length.whole]
      exact rest.cut last inRest isCut

namespace Sample

open SmallCross.Sample

def textCodec : Codec Bytes :=
  ⟨writeAnnounced, readAnnounced⟩

def uint64Codec : Codec UInt64 :=
  ⟨announcedWriter.writeUint64, announcedFormat.readUint64⟩

def uint32Codec : Codec UInt32 :=
  ⟨fun number => uint64Codec.write number.toUInt64,
    uint64Codec.read.andThen fun number => .done number.toUInt32⟩

def hashCodec : Codec Hash :=
  ⟨fun hash => writeAnnounced hash.toList,
    readAnnounced.andThen fun text => if width : text.length = 32 then .done ⟨text, width⟩
      else fun _ => .error "EOF"⟩

def voteCodec : Codec DPOSProposalVote :=
  ⟨fun vote => hashCodec.write vote.proposalHash ++ (textCodec.write vote.signer ++
      (uint32Codec.write (if vote.accept then 1 else 0) ++ textCodec.write vote.sign)),
    hashCodec.read.andThen fun proposalHash => textCodec.read.andThen fun signer =>
      uint32Codec.read.andThen fun accept => textCodec.read.andThen fun sign =>
        .done ⟨proposalHash, signer, accept = 1, sign⟩⟩

def proposalCodec : Codec DPOSProposal :=
  ⟨fun proposal => textCodec.write proposal.sponsor ++ (hashCodec.write proposal.blockHash ++
      (uint32Codec.write proposal.viewOffset ++ textCodec.write proposal.sign)),
    textCodec.read.andThen fun sponsor => hashCodec.read.andThen fun blockHash =>
      uint32Codec.read.andThen fun viewOffset => textCodec.read.andThen fun sign =>
        .done ⟨sponsor, blockHash, viewOffset, sign⟩⟩

def elaCodecs : ElaCodecs where
  uint32 := uint32Codec
  uint64 := uint64Codec
  varUint := uint64Codec
  vote := voteCodec
  proposal := proposalCodec

theorem exact_elaCodecs : elaCodecs.Exact := by
  have text : textCodec.Exact := reads_writeAnnounced
  have uint64 : uint64Codec.Exact := exactCodecs_announced.number
  have uint32 : uint32Codec.Exact := by
    intro number
    have read := (uint64 number.toUInt64).andThen_done UInt64.toUInt32
    rwa [UInt32.toUInt32_toUInt64] at read
  have hash : hashCodec.Exact := by
    rintro ⟨bytes, width⟩
    have read : Reads hashCodec.read (writeAnnounced bytes ++ []) ⟨bytes, width⟩ := by
      unfold hashCodec
      dsimp only
      refine (reads_writeAnnounced bytes).andThen ?_
      rw [dif_pos width]
      exact .done _
    rwa [List.append_nil] at read
  refine ⟨uint32, uint64, uint64, ?_, ?_⟩
  · rintro ⟨proposalHash, signer, accept, sign⟩
    unfold elaCodecs voteCodec
    dsimp only
    refine (hash proposalHash).andThen ((text signer).andThen ((uint32 _).andThen ?_))
    have read := (text sign).andThen_done (DPOSProposalVote.mk proposalHash signer accept)
    cases accept <;> exact read
  · rintro ⟨sponsor, blockHash, viewOffset, sign⟩
    unfold elaCodecs proposalCodec
    dsimp only
    exact (text sponsor).andThen ((hash blockHash).andThen ((uint32 viewOffset).andThen
      ((text sign).andThen_done (DPOSProposal.mk sponsor blockHash viewOffset))))

def emptyStatus : ConsensusStatus :=
  ⟨0, 0, 0, [], [], [], [], 0⟩

def oneVote : ConsensusStatus :=
  ⟨1, 2, -3, [⟨List.Vector.replicate 32 7, [8], true, [9]⟩], [], [], [], 4⟩

theorem representable_oneVote : oneVote.Representable := by
  constructor <;> decide

end Sample

open EscSideChain.Dpos.Msg.Sample

/-- The status with one vote, followed by one more byte. -/
theorem consensusStatus_codec_oneVote :
    deserialize elaCodecs emptyStatus (serialize elaCodecs oneVote ++ [5]) = .ok (oneVote, [5]) :=
  (consensusStatus_codec_iff exact_elaCodecs emptyStatus representable_oneVote).1 [5]

/-- The encoding is cut before the number of the accept votes, and there is no error. -/
theorem cut_status_accepted :
    ((serialize elaCodecs oneVote).take 24 ≠ serialize elaCodecs oneVote) ∧
      deserialize elaCodecs emptyStatus ((serialize elaCodecs oneVote).take 24) =
        .ok ({ oneVote with
          acceptVotes := []
          workingHeight := 0 }, []) := by
  decide +kernel

end EscSideChain.Dpos.Msg
