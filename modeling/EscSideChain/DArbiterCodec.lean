import EscSideChain.ByteStrings

namespace EscSideChain.DposMsg

/-!
# The codec of an arbiter message

`chainbridge-core/dpos_msg/darbiter.go`.  The reads belong to the main-chain library; each
gives a value, unless it fails, and what it leaves of the stream.  `Deserialize` returns the
error of every read but of the one of the signature, which the next read overwrites, so
what a failed read leaves matters.
-/

abbrev PeerId := List.Vector UInt8 33

/-- A `time.Time`, of which only the seconds are sent. -/
structure Timestamp where
  seconds : Int64
  nanoseconds : Fin 1000000000
  deriving DecidableEq

structure DArbiter where
  pid : PeerId
  timestamp : Timestamp
  encode : PeerId
  cipher : Bytes
  signature : Bytes
  isCurrent : Bool
  deriving DecidableEq

def maxCipherLength : Nat := 256

/-- `crypto.SignatureLength`. -/
def signatureLength : Nat := 64

namespace DArbiter

def maxLength : Nat := 388

/-- What is left of a message when its time is sent. -/
def inSeconds (m : DArbiter) : DArbiter :=
  { m with timestamp := { m.timestamp with nanoseconds := 0 } }

end DArbiter

abbrev ReadResult (Value : Type) :=
  Option Value × Bytes

/-- The value of a read, if an error of it is returned at once. -/
def checked {Value : Type} (result : ReadResult Value) : Option (Value × Bytes) :=
  result.1.map fun value => (value, result.2)

/-- The reads and writes of the library. -/
structure Wire where
  putInt64 : Int64 → List.Vector UInt8 8
  getInt64 : List.Vector UInt8 8 → Int64
  writeVarUint : UInt64 → Bytes
  readVarUint : Bytes → ReadResult UInt64
  readVector : (size : Nat) → Bytes → ReadResult (List.Vector UInt8 size)
  readUint8 : Bytes → ReadResult UInt8
  readVarBytes : Nat → Bytes → ReadResult Bytes

/-- The bytes before a variable-length field of a length below `2 ^ 16`. -/
def sizeLength (length : Nat) : Nat :=
  if length < 0xfd then 1 else 3

/--
What is written is read back.  A stream that is too short is used up; a length above the
limit ends the read right after it.
-/
structure Wire.Lawful (wire : Wire) : Prop where
  getInt64 : ∀ seconds, wire.getInt64 (wire.putInt64 seconds) = seconds
  readVarUint : ∀ count rest, wire.readVarUint (wire.writeVarUint count ++ rest) = (some count, rest)
  cutVarUint : ∀ count start, start <+: wire.writeVarUint count → start ≠ wire.writeVarUint count →
    wire.readVarUint start = (none, [])
  length : ∀ count, count.toNat < 2 ^ 16 →
    (wire.writeVarUint count).length = sizeLength count.toNat
  readVector : ∀ {size} (vector : List.Vector UInt8 size) rest,
    wire.readVector size (vector.toList ++ rest) = (some vector, rest)
  readUint8 : ∀ byte rest, wire.readUint8 (byte :: rest) = (some byte, rest)
  noUint8 : (wire.readUint8 []).1 = none
  unsized : ∀ maxAllowed stream rest, wire.readVarUint stream = (none, rest) →
    wire.readVarBytes maxAllowed stream = (none, rest)
  oversized : ∀ maxAllowed stream count rest, wire.readVarUint stream = (some count, rest) →
    maxAllowed < count.toNat → wire.readVarBytes maxAllowed stream = (none, rest)
  cut : ∀ maxAllowed stream count rest, wire.readVarUint stream = (some count, rest) →
    count.toNat ≤ maxAllowed → rest.length < count.toNat →
      wire.readVarBytes maxAllowed stream = (none, [])
  whole : ∀ maxAllowed stream count bytes rest,
    wire.readVarUint stream = (some count, bytes ++ rest) → count.toNat ≤ maxAllowed →
      bytes.length = count.toNat → wire.readVarBytes maxAllowed stream = (some bytes, rest)

namespace Wire

variable (wire : Wire)

def writeVarBytes (bytes : Bytes) : Bytes :=
  wire.writeVarUint (UInt64.ofNat bytes.length) ++ bytes

def serialize (m : DArbiter) : Bytes :=
  m.pid.toList ++ ((wire.putInt64 m.timestamp.seconds).toList ++ (m.encode.toList ++
    (wire.writeVarBytes m.cipher ++ (wire.writeVarBytes m.signature ++
      [if m.isCurrent then 1 else 0]))))

/-- The part of `Deserialize` before the signature. -/
def readHead (stream : Bytes) : Option (DArbiter × Bytes) := do
  let (pid, stream) ← checked (wire.readVector 33 stream)
  let (timestamp, stream) ← checked (wire.readVector 8 stream)
  let (encode, stream) ← checked (wire.readVector 33 stream)
  let (cipher, stream) ← checked (wire.readVarBytes maxCipherLength stream)
  let timestamp := { seconds := wire.getInt64 timestamp, nanoseconds := 0 }
  some ({ pid, timestamp, encode, cipher, signature := [], isCurrent := false }, stream)

def readTail (m : DArbiter) (stream : Bytes) : Option DArbiter := do
  -- the error of this read is lost
  let (signature, stream) := wire.readVarBytes signatureLength stream
  let (res, _) ← checked (wire.readUint8 stream)
  some { m with signature := signature.getD [], isCurrent := res = 1 }

def deserialize (stream : Bytes) : Option DArbiter := do
  let (m, stream) ← wire.readHead stream
  wire.readTail m stream

/-- The stream ends in the signature, or in the length before it. -/
def Truncated (field : Bytes) : Prop :=
  (∃ count, field <+: wire.writeVarUint count ∧ field ≠ wire.writeVarUint count) ∨
    ∃ count rest, wire.readVarUint field = (some count, rest) ∧ count.toNat ≤ signatureLength ∧
      rest.length < count.toNat

/-- The signature is longer than allowed, and `rest` follows its length. -/
def TooLong (field rest : Bytes) : Prop :=
  ∃ count, wire.readVarUint field = (some count, rest) ∧ signatureLength < count.toNat

variable {wire} {m : DArbiter} {field rest : Bytes}

theorem toNat_length {bytes : Bytes} (fits : bytes.length < 2 ^ 64) :
    bytes.length = (UInt64.ofNat bytes.length).toNat :=
  (UInt64.toNat_ofNat_of_lt' fits).symm

theorem readVarBytes_append (lawful : wire.Lawful) {maxAllowed : Nat} {bytes : Bytes}
    (short : bytes.length ≤ maxAllowed) (fits : bytes.length < 2 ^ 64) (rest : Bytes) :
    wire.readVarBytes maxAllowed (wire.writeVarBytes bytes ++ rest) = (some bytes, rest) := by
  have count := toNat_length fits
  refine lawful.whole _ _ _ _ _ ?_ (count ▸ short) count
  rw [writeVarBytes, List.append_assoc, lawful.readVarUint]

theorem length_writeVarBytes (lawful : wire.Lawful) {bytes : Bytes} (short : bytes.length < 2 ^ 16) :
    (wire.writeVarBytes bytes).length = sizeLength bytes.length + bytes.length := by
  have count := @toNat_length bytes (by omega)
  rw [writeVarBytes, List.length_append, lawful.length _ (by rwa [← count]), ← count]

theorem length_serialize (lawful : wire.Lawful) (shortCipher : m.cipher.length ≤ maxCipherLength)
    (shortSignature : m.signature.length ≤ signatureLength) :
    (wire.serialize m).length =
      76 + sizeLength m.cipher.length + m.cipher.length + m.signature.length := by
  unfold maxCipherLength at shortCipher
  unfold signatureLength at shortSignature
  have sizeSignature : sizeLength m.signature.length = 1 := if_pos (by omega)
  simp only [serialize, List.length_append, List.Vector.toList_length,
    length_writeVarBytes lawful (show m.cipher.length < 2 ^ 16 by omega),
    length_writeVarBytes lawful (show m.signature.length < 2 ^ 16 by omega), sizeSignature,
    List.length_singleton]
  omega

theorem deserialize_serialize (lawful : wire.Lawful)
    (shortCipher : m.cipher.length ≤ maxCipherLength)
    (shortSignature : m.signature.length ≤ signatureLength) :
    wire.deserialize (wire.serialize m) = some m.inSeconds := by
  have cipher := readVarBytes_append lawful shortCipher (by unfold maxCipherLength at *; omega)
  have signature := readVarBytes_append lawful shortSignature (by unfold signatureLength at *; omega)
  obtain ⟨pid, timestamp, encode, cipherBytes, signatureBytes, isCurrent⟩ := m
  simp only at cipher signature
  simp only [deserialize, readHead, serialize, lawful.readVector, checked, cipher, lawful.getInt64,
    Option.map_some, Option.bind_eq_bind, Option.bind_some, readTail, signature, lawful.readUint8,
    DArbiter.inSeconds]
  cases isCurrent <;> rfl

theorem deserialize_of_readHead (lawful : wire.Lawful) {stream : Bytes}
    (isHead : wire.readHead stream = some (m, field)) :
    wire.deserialize stream = none ↔ (wire.readVarBytes signatureLength field).2 = [] := by
  rw [deserialize, isHead]
  simp only [Option.bind_eq_bind, Option.bind_some, readTail, checked]
  cases left : (wire.readVarBytes signatureLength field).2 <;>
    simp [lawful.readUint8, lawful.noUint8]

theorem rest_of_truncated (lawful : wire.Lawful) (truncated : wire.Truncated field) :
    (wire.readVarBytes signatureLength field).2 = [] ∧ ¬∃ rest, wire.TooLong field rest := by
  rcases truncated with ⟨count, isPrefix, isCut⟩ | ⟨count, rest, isRead, short, few⟩
  · have fails := lawful.cutVarUint count field isPrefix isCut
    exact ⟨by rw [lawful.unsized _ _ _ fails],
      fun ⟨_, _, isRead, _⟩ => nomatch fails.symm.trans isRead⟩
  · refine ⟨?_, fun ⟨_, other, isOther, long⟩ => ?_⟩
    · rw [lawful.cut _ _ _ _ isRead short few]
    · cases isRead.symm.trans isOther
      exact absurd short (not_le.2 long)

theorem rest_of_tooLong (lawful : wire.Lawful) (long : wire.TooLong field rest) :
    (wire.readVarBytes signatureLength field).2 = rest := by
  obtain ⟨count, isRead, isLong⟩ := long
  rw [lawful.oversized _ _ _ _ isRead isLong]

end Wire

open Wire in
/--
The length fits exactly as long as the cipher and the signature leave room for the length
before the cipher, and a signature that is too long is refused exactly if nothing follows
its length.
-/
theorem dArbiter_codec {wire : Wire} (lawful : wire.Lawful) :
    (∀ m : DArbiter, m.cipher.length ≤ maxCipherLength → m.signature.length ≤ signatureLength →
      ((wire.serialize m).length ≤ DArbiter.maxLength ↔
        sizeLength m.cipher.length + m.cipher.length + m.signature.length ≤ 312) ∧
      wire.deserialize (wire.serialize m) = some m.inSeconds) ∧
    ∀ stream m field, wire.readHead stream = some (m, field) →
      (wire.Truncated field ∨ ∃ rest, wire.TooLong field rest) →
      (wire.deserialize stream = none ↔ ¬∃ rest, wire.TooLong field rest ∧ rest ≠ []) := by
  constructor
  · intro m shortCipher shortSignature
    rw [length_serialize lawful shortCipher shortSignature, DArbiter.maxLength]
    exact ⟨by omega, deserialize_serialize lawful shortCipher shortSignature⟩
  · intro stream m field isHead bad
    rw [deserialize_of_readHead lawful isHead]
    rcases bad with truncated | ⟨rest, long⟩
    · obtain ⟨nothing, notLong⟩ := rest_of_truncated lawful truncated
      exact iff_of_true nothing fun ⟨rest, long, _⟩ => notLong ⟨rest, long⟩
    · rw [rest_of_tooLong lawful long]
      constructor
      · rintro rfl ⟨other, isOther, nonempty⟩
        exact nonempty ((rest_of_tooLong lawful isOther).symm.trans (rest_of_tooLong lawful long))
      · intro none
        by_contra nonempty
        exact none ⟨rest, long, nonempty⟩

/-! ## Compact sizes -/

def leBytes : Nat → Nat → Bytes
  | 0, _ => []
  | width + 1, value => UInt8.ofNat value :: leBytes width (value / 256)

def ofLeBytes : Bytes → Nat
  | [] => 0
  | byte :: rest => byte.toNat + 256 * ofLeBytes rest

theorem length_leBytes (width value : Nat) : (leBytes width value).length = width := by
  induction width generalizing value with
  | zero => rfl
  | succ width inductionHypothesis => simp [leBytes, inductionHypothesis]

theorem ofLeBytes_leBytes {width value : Nat} (fits : value < 256 ^ width) :
    ofLeBytes (leBytes width value) = value := by
  induction width generalizing value with
  | zero =>
    rw [leBytes, ofLeBytes]
    omega
  | succ width inductionHypothesis =>
    have next : value / 256 < 256 ^ width := by
      rw [Nat.div_lt_iff_lt_mul (by decide), ← Nat.pow_succ]
      exact fits
    rw [leBytes, ofLeBytes, inductionHypothesis next, UInt8.toNat_ofNat']
    omega

def compactWidth (count : Nat) : Nat :=
  if count < 0xfd then 0 else if count < 2 ^ 16 then 2 else if count < 2 ^ 32 then 4 else 8

def compactMarker (count : Nat) : UInt8 :=
  if count < 0xfd then UInt8.ofNat count
  else if count < 2 ^ 16 then 0xfd else if count < 2 ^ 32 then 0xfe else 0xff

def markedWidth (marker : UInt8) : Nat :=
  if marker = 0xfd then 2 else if marker = 0xfe then 4 else if marker = 0xff then 8 else 0

def readCompact : Bytes → ReadResult UInt64
  | [] => (none, [])
  | marker :: rest =>
    let width := markedWidth marker
    if rest.length < width then (none, [])
    else
      let count := if width = 0 then marker.toNat else ofLeBytes (rest.take width)
      -- a number that fits into fewer bytes is refused
      (if compactWidth count = width then some (UInt64.ofNat count) else none, rest.drop width)

/-- Numbers as compact sizes. -/
def compact : Wire where
  putInt64 seconds := ⟨leBytes 8 seconds.toUInt64.toNat, length_leBytes 8 _⟩
  getInt64 bytes := (UInt64.ofNat (ofLeBytes bytes.toList)).toInt64
  writeVarUint count := compactMarker count.toNat :: leBytes (compactWidth count.toNat) count.toNat
  readVarUint := readCompact
  readVector size stream :=
    if fits : size ≤ stream.length then
      (some ⟨stream.take size, by simp [fits]⟩, stream.drop size)
    else (none, [])
  readUint8
    | [] => (none, [])
    | byte :: rest => (some byte, rest)
  readVarBytes maxAllowed stream :=
    match readCompact stream with
    | (none, rest) => (none, rest)
    | (some count, rest) =>
      if maxAllowed < count.toNat then (none, rest)
      else if rest.length < count.toNat then (none, [])
      else (some (rest.take count.toNat), rest.drop count.toNat)

theorem compactMarker_cases (count : UInt64) :
    markedWidth (compactMarker count.toNat) = compactWidth count.toNat ∧
      (if compactWidth count.toNat = 0 then (compactMarker count.toNat).toNat
        else ofLeBytes (leBytes (compactWidth count.toNat) count.toNat)) = count.toNat := by
  have bound := count.toNat_lt
  unfold compactMarker compactWidth
  by_cases one : count.toNat < 0xfd
  · have value : (UInt8.ofNat count.toNat).toNat = count.toNat :=
      UInt8.toNat_ofNat_of_lt' (by unfold UInt8.size; omega)
    have notMarker : ∀ marker : UInt8, 0xfd ≤ marker.toNat → UInt8.ofNat count.toNat ≠ marker := by
      rintro _ high rfl
      omega
    simp only [if_pos one, if_true, value, markedWidth, if_neg (notMarker 0xfd (by decide)),
      if_neg (notMarker 0xfe (by decide)), if_neg (notMarker 0xff (by decide)), and_self]
  by_cases two : count.toNat < 2 ^ 16
  · simp only [if_neg one, if_pos two]
    exact ⟨rfl, ofLeBytes_leBytes two⟩
  by_cases four : count.toNat < 2 ^ 32
  · simp only [if_neg one, if_neg two, if_pos four]
    exact ⟨rfl, ofLeBytes_leBytes four⟩
  · simp only [if_neg one, if_neg two, if_neg four]
    exact ⟨rfl, ofLeBytes_leBytes bound⟩

theorem compact_lawful : compact.Lawful where
  getInt64 seconds := by
    have bound := seconds.toUInt64.toNat_lt
    have value : ofLeBytes (leBytes 8 seconds.toUInt64.toNat) = seconds.toUInt64.toNat :=
      ofLeBytes_leBytes bound
    simp only [compact, List.Vector.toList_mk, value, UInt64.ofNat_toNat, Int64.toInt64_toUInt64]
  readVarUint count rest := by
    obtain ⟨width, value⟩ := compactMarker_cases count
    have lengths := length_leBytes (compactWidth count.toNat) count.toNat
    simp only [compact, readCompact, List.cons_append, width, List.length_append, lengths,
      List.take_left' lengths, List.drop_left' lengths, value, ↓reduceIte]
    rw [if_neg (by omega), UInt64.ofNat_toNat]
  cutVarUint count start isPrefix isCut := by
    obtain ⟨width, -⟩ := compactMarker_cases count
    cases start with
    | nil => rfl
    | cons marker rest =>
      obtain ⟨rfl, isRest⟩ := List.cons_prefix_cons.1 isPrefix
      have shorter : rest.length < compactWidth count.toNat := by
        rw [← length_leBytes (compactWidth count.toNat) count.toNat]
        exact isRest.length_le.lt_of_ne fun same => isCut (by rw [isRest.eq_of_length same]; rfl)
      simp only [compact, readCompact, width, if_pos shorter]
  length count short := by
    simp only [compact, List.length_cons, length_leBytes, compactWidth, sizeLength]
    split <;> simp
  readVector vector rest := by
    obtain ⟨bytes, rfl⟩ := vector
    simp [compact, List.Vector.toList]
  readUint8 _ _ := rfl
  noUint8 := rfl
  unsized _ _ _ isRead := by
    simp only [compact] at isRead ⊢
    rw [isRead]
  oversized _ _ _ _ isRead long := by
    simp only [compact] at isRead ⊢
    simp only [isRead, if_pos long]
  cut _ _ _ _ isRead short few := by
    simp only [compact] at isRead ⊢
    simp only [isRead, if_neg (not_lt.2 short), if_pos few]
  whole _ _ _ _ _ isRead short same := by
    rw [← same] at short
    simp only [compact] at isRead ⊢
    simp [isRead, ← same, short]

/-- A message with the longest cipher and the longest signature. -/
def longest : DArbiter where
  pid := List.Vector.replicate 33 1
  timestamp := { seconds := 5, nanoseconds := 7 }
  encode := List.Vector.replicate 33 2
  cipher := List.replicate 256 3
  signature := List.replicate 64 4
  isCurrent := true

theorem dArbiter_codec_longest :
    compact.Lawful ∧ ¬(compact.serialize longest).length ≤ DArbiter.maxLength ∧
      compact.deserialize (compact.serialize longest) = some longest.inSeconds := by
  obtain ⟨length, decoded⟩ :=
    (dArbiter_codec compact_lawful).1 longest (by decide +kernel) (by decide +kernel)
  exact ⟨compact_lawful, fun fits => absurd (length.1 fits) (by decide +kernel), decoded⟩

/-- The bytes of `longest` without its cipher, with a signature announced as 65 bytes long. -/
def announced : Bytes :=
  longest.pid.toList ++ ((compact.putInt64 5).toList ++ (longest.encode.toList ++ [0, 65, 1]))

theorem dArbiter_codec_fails :
    ¬(compact.serialize longest).length ≤ DArbiter.maxLength ∧
      compact.TooLong [65, 1] [1] ∧
      compact.deserialize announced =
        some { longest.inSeconds with cipher := [], signature := [] } := by
  refine ⟨by decide +kernel, ⟨65, by decide +kernel, by decide⟩, by decide +kernel⟩

end EscSideChain.DposMsg
