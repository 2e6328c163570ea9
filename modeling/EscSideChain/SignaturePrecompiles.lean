import EscSideChain.ByteStrings
import EscSideChain.GoSlice

namespace EscSideChain.Vm

open GoSlice

/-!
# The precompiled contracts that check signatures

`core/vm/contracts.go`: `pbkVerifySignature`, `p256VerifyDigest` and `pledgeBillVerify`.
The input is a slice of the memory of the caller.  `getData` returns a part of this slice,
or a padded copy if the input is too short, and so a write to the part is one to the
memory of the caller.
-/

/-- What `getData` returns; nothing else refers to a copy. -/
inductive View where
  | shared (slice : Slice)
  | copied (bytes : Bytes)

def View.bytes (arrays : Arrays UInt8) : View → Bytes
  | .shared slice => contents arrays slice
  | .copied bytes => bytes

def rightPadBytes (arrays : Arrays UInt8) (slice : Slice) (size : Nat) : View :=
  if size ≤ slice.len then .shared slice
  else .copied (contents arrays slice ++ List.replicate (size - slice.len) 0)

def getData (arrays : Arrays UInt8) (data : Slice) (start size : Nat) : View :=
  let first := min start data.len
  rightPadBytes arrays (data.sub first (min (first + size) data.len)) size

/-- An assignment to one byte, `view[place] = byte`. -/
def View.set (arrays : Arrays UInt8) (view : View) (place : Nat) (byte : UInt8) :
    Arrays UInt8 × View :=
  match view with
  | .shared slice => (arrays.modify slice.array (·.set (slice.start + place) byte), view)
  | .copied bytes => (arrays, .copied (bytes.set place byte))

/-- `append(view, new...)`: what it writes, and the bytes of its result. -/
def View.append (spare : Nat → Bytes) (arrays : Arrays UInt8) (view : View) (new : Bytes) :
    Arrays UInt8 × Bytes :=
  match view with
  | .shared slice =>
    let appended := GoSlice.append spare arrays slice new
    (appended.1, contents appended.1 appended.2)
  | .copied bytes => (arrays, bytes ++ new)

/-- The functions of other packages, which read the bytes that they are given. -/
structure Libraries (PublicKey Code : Type) where
  textHash : Bytes → Bytes
  /-- `crypto.CompressPubkey` of what `crypto.SigToPub` finds. -/
  sigToPub : Bytes → Bytes → Except String Bytes
  decodePoint : Bytes → Option PublicKey
  verifyDigest : PublicKey → Bytes → Bytes → Bool
  verify : PublicKey → Bytes → Bytes → Except String Unit
  /-- The stake address of the standard contract for a key. -/
  standardStakeAddress : PublicKey → Except String Bytes
  createMultiSigContract : Int → List PublicKey → Except String Code
  checkMultiSigSignatures : Code → Bytes → Bytes → Except String Unit
  multiSigStakeAddress : Code → Except String Bytes
  /-- The address that `pledgeBill.GetPledgeBillData` returns, with its error. -/
  getPledgeBillData : Bytes → Bytes × Option String

section Run

variable {PublicKey Code : Type} (lib : Libraries PublicKey Code) (spare : Nat → Bytes)
  (arrays : Arrays UInt8) (input : Slice)

/-- `pbkVerifySignature.Run`. -/
def pbkVerifySignature : Arrays UInt8 × Except String Bool :=
  let pubkey := getData arrays input 32 33
  let digest := lib.textHash ((getData arrays input 65 32).bytes arrays)
  let sig := getData arrays input 97 65
  let recoveryId := ((sig.bytes arrays)[64]?).getD 0
  let (written, sig) := if 27 ≤ recoveryId then sig.set arrays 64 (recoveryId - 27) else (arrays, sig)
  (written, (lib.sigToPub digest (sig.bytes written)).map fun pubkeyBytes =>
    pubkeyBytes == pubkey.bytes written)

/-- `p256VerifyDigest.Run`. -/
def p256VerifyDigest : Arrays UInt8 × Except String Bool :=
  (arrays, match lib.decodePoint ((getData arrays input 0 33).bytes arrays) with
    | none => .error "invalid public key"
    | some publicKey => .ok (lib.verifyDigest publicKey
        ((getData arrays input 33 32).bytes arrays) ((getData arrays input 65 64).bytes arrays)))

def wrongStakeAddress (sAddress stakeAddress : Bytes) : String :=
  "stakeAddress is not correct, spv sAddress" ++ asciiText sAddress ++ ", callSaddress:" ++
    asciiText stakeAddress

def checkStandardSignature (pubKey : PublicKey) (elaHash : View) (toAddress signature : Bytes) :
    Arrays UInt8 × Except String Unit :=
  let (written, data) := elaHash.append spare arrays toAddress
  (written, do
    lib.verify pubKey data signature
    let stakeAddress ← lib.standardStakeAddress pubKey
    let (sAddress, error) := lib.getPledgeBillData (elaHash.bytes written)
    match error with
    | some error => .error error
    | none =>
      if sAddress = stakeAddress then .ok () else .error (wrongStakeAddress sAddress stakeAddress))

/-- `checkMultiSignatures`, which does not look at the error of `GetPledgeBillData`. -/
def checkMultiSignatures (m : Int) (publickeys : List PublicKey) (signatures : Bytes)
    (elaHash : View) (toAddress : Bytes) : Arrays UInt8 × Except String Unit :=
  match lib.createMultiSigContract m publickeys with
  | .error error => (arrays, .error error)
  | .ok code =>
    let (written, data) := elaHash.append spare arrays toAddress
    (written, do
      lib.checkMultiSigSignatures code signatures data
      let stakeAddress ← lib.multiSigStakeAddress code
      let (sAddress, _) := lib.getPledgeBillData (elaHash.bytes written)
      if sAddress = stakeAddress then .ok () else .error (wrongStakeAddress sAddress stakeAddress))

inductive Check where
  | standard (point : Nat)
  | multi (m : Int) (points : List Nat)
  deriving DecidableEq

/-- The places of the keys that were decoded and of the signatures that were checked. -/
structure Checked where
  keyPoints : List Nat
  check : Check
  deriving DecidableEq

/-- A number of the type `uint64`; also `big.Int.Uint64`. -/
def uint64 (value : Nat) : Nat :=
  value % 2 ^ 64

/-- `big.Int.SetBytes` of 32 bytes of the input. -/
def number (start : Nat) : Nat :=
  ((getData arrays input start 32).bytes arrays).foldl
    (fun value byte => value * 256 + byte.toNat) 0

/-- The places that the loop over the keys reads, `uint64(startPoint + i*33)`. -/
def keyPoints (n : Nat) : List Nat :=
  (List.range (int64 n).toNat).map fun i => uint64 (180 + i * 33)

def pointBehind (points : List Nat) : Nat :=
  uint64 (points.getLast?.getD 0 + 33)

def signaturePoints (point sigCount : Nat) : List Nat :=
  (List.range (int64 sigCount).toNat).map fun i => uint64 (point + i * 64)

def getParameterBySignature (signature : Bytes) : Bytes :=
  UInt8.ofNat signature.length :: signature

/-- `pledgeBillVerify.Run`, given its numbers and the places of its keys. -/
def verifyBill (n m sigCount : Nat) (keyPoints : List Nat) : Arrays UInt8 × Except String Checked :=
  let read := fun start size => (getData arrays input start size).bytes arrays
  let elaHash := getData arrays input 32 32
  let toAddress := (read 64 20).take 20
  match keyPoints.mapM fun point => lib.decodePoint (read point 33) with
  | none => (arrays, .error "publicKey decode error")
  | some publickeys =>
    let point := pointBehind keyPoints
    if int64 n = 1 then
      match publickeys with
      | [] => (arrays, .error "index out of range")
      | first :: _ =>
        let checked := checkStandardSignature lib spare arrays first elaHash toAddress (read point 64)
        (checked.1, checked.2.map fun _ => ⟨keyPoints, .standard point⟩)
    else if 1 < uint64 m ∧ 1 < uint64 n then
      let points := signaturePoints point sigCount
      let signatures := points.flatMap fun c => getParameterBySignature (read c 64)
      if n < m then (arrays, .error "n is smaller than m")
      else
        let checked := checkMultiSignatures lib spare arrays (int64 m) publickeys signatures elaHash
          toAddress
        (checked.1, checked.2.map fun _ => ⟨keyPoints, .multi (int64 m) points⟩)
    else (arrays, .error "error signature params")

/-- `pledgeBillVerify.Run`; it returns true after the checks, and an error otherwise. -/
def pledgeBillVerify : Arrays UInt8 × Except String Checked :=
  verifyBill lib spare arrays input (number arrays input 84) (number arrays input 116)
    (number arrays input 148) (keyPoints (number arrays input 84))

end Run

/-! ## The memory of the caller -/

variable {PublicKey Code : Type} {lib : Libraries PublicKey Code} {spare : Nat → Bytes}
  {arrays : Arrays UInt8} {input : Slice}

theorem getData_shared {start size : Nat} (enough : start + size ≤ input.len) :
    getData arrays input start size = .shared (input.sub start (start + size)) := by
  have first : min start input.len = start := by omega
  have last : min (start + size) input.len = start + size := by omega
  have fits : size ≤ (input.sub start (start + size)).len := by
    simp only [Slice.sub]
    omega
  rw [getData, first, last, rightPadBytes, if_pos fits]

theorem getData_copied (arrays : Arrays UInt8) {start size : Nat} (short : input.len < start + size) (some : 0 < size) :
    ∃ bytes, getData arrays input start size = .copied bytes := by
  have shorter : ¬size ≤ (input.sub (min start input.len)
      (min (min start input.len + size) input.len)).len := by
    simp only [Slice.sub]
    omega
  exact ⟨_, by rw [getData, rightPadBytes, if_neg shorter]⟩

theorem getElem?_getData (valid : input.Valid arrays) {start size index : Nat}
    (inside : start + index < input.len) (inSize : index < size) :
    ((getData arrays input start size).bytes arrays)[index]? =
      (contents arrays input)[start + index]? := by
  have length := length_contents valid
  have first : min start input.len = start := by omega
  have part : contents arrays (input.sub start (min (start + size) input.len)) =
      ((contents arrays input).drop start).take (min (start + size) input.len - start) :=
    contents_sub (Nat.min_le_right _ _)
  rw [getData, first, rightPadBytes]
  split
  · rw [View.bytes, part]
    simp only [List.getElem?_take, List.getElem?_drop]
    grind
  · rw [View.bytes, part]
    simp only [List.getElem?_append, List.getElem?_take, List.getElem?_drop, List.length_take,
      List.length_drop]
    grind

theorem contents_append_elaHash (spare : Nat → Bytes) (valid : input.Valid arrays) :
    contents ((getData arrays input 32 32).append spare arrays
      (((getData arrays input 64 20).bytes arrays).take 20)).1 input = contents arrays input := by
  by_cases enough : 32 + 32 ≤ input.len
  · rw [getData_shared enough]
    refine contents_append_of_agrees spare valid (by decide) enough fun index inside bound => ?_
    have inSize : index < 20 := by
      rw [List.length_take] at bound
      omega
    rw [List.getElem?_take, if_pos inSize, getElem?_getData valid inside inSize]
  · obtain ⟨bytes, isCopy⟩ := getData_copied arrays (not_le.1 enough) (by decide)
    rw [isCopy]
    rfl

theorem contents_verifyBill (lib : Libraries PublicKey Code) (spare : Nat → Bytes)
    (valid : input.Valid arrays) (n m sigCount : Nat) (points : List Nat) :
    contents (verifyBill lib spare arrays input n m sigCount points).1 input =
      contents arrays input := by
  have kept := contents_append_elaHash spare valid
  unfold verifyBill
  dsimp only
  split
  · rfl
  split
  · split
    · rfl
    · exact kept
  split
  · split
    · rfl
    · unfold checkMultiSignatures
      split
      · rfl
      · exact kept
  · rfl

/-- The byte of the input that is the recovery id of the signature. -/
def recoveryId (arrays : Arrays UInt8) (input : Slice) : UInt8 :=
  (contents arrays input)[161]?.getD 0

theorem contents_set_ne (valid : input.Valid arrays) (enough : 97 + 65 ≤ input.len) {byte : UInt8}
    (differs : byte ≠ recoveryId arrays input) :
    contents ((View.shared (input.sub 97 (97 + 65))).set arrays 64 byte).1 input ≠
      contents arrays input := by
  intro same
  obtain ⟨items, found, room, fits⟩ := valid
  have inItems : input.start + 161 < items.length := by omega
  have written : contents ((View.shared (input.sub 97 (97 + 65))).set arrays 64 byte).1 input =
      ((items.set (input.start + 161) byte).drop input.start).take input.len := by
    simp [contents, View.set, Slice.sub, found, Nat.add_assoc]
  rw [written] at same
  have byteAfter := congrArg (fun bytes => bytes[161]?) same
  simp only [List.getElem?_take, List.getElem?_drop] at byteAfter
  rw [if_pos (by omega), List.getElem?_set_self inItems] at byteAfter
  exact differs (congrArg (·.getD 0) byteAfter)

theorem sub_ne_of_le {byte : UInt8} (high : 27 ≤ byte) : byte - 27 ≠ byte := by
  intro same
  have smaller := congrArg UInt8.toNat same
  rw [UInt8.toNat_sub_of_le _ _ high] at smaller
  have atLeast : 27 ≤ byte.toNat := high
  simp only [UInt8.reduceToNat] at smaller
  omega

theorem contents_pbkVerifySignature_iff (lib : Libraries PublicKey Code)
    (valid : input.Valid arrays) :
    contents (pbkVerifySignature lib arrays input).1 input = contents arrays input ↔
      ¬(162 ≤ input.len ∧ 27 ≤ recoveryId arrays input) := by
  by_cases enough : 97 + 65 ≤ input.len
  · have isByte : (((getData arrays input 97 65).bytes arrays)[64]?).getD 0 =
        recoveryId arrays input := by
      rw [getElem?_getData valid (by omega) (by decide), recoveryId]
    unfold pbkVerifySignature
    dsimp only
    rw [isByte, getData_shared enough]
    by_cases high : 27 ≤ recoveryId arrays input
    · rw [if_pos high]
      exact iff_of_false (contents_set_ne valid enough (sub_ne_of_le high)) (not_not.2 ⟨enough, high⟩)
    · rw [if_neg high]
      exact iff_of_true rfl fun both => high both.2
  · obtain ⟨bytes, isCopy⟩ := getData_copied arrays (not_le.1 enough) (by decide)
    refine iff_of_true ?_ fun both => enough both.1
    unfold pbkVerifySignature
    dsimp only
    rw [isCopy]
    split <;> rfl

/--
`p256VerifyDigest` and `pledgeBillVerify` leave the bytes of their input as they are, and
`pbkVerifySignature` does unless there is a signature in the input whose recovery id is 27
or more.
-/
theorem precompiles_keep_input_iff (lib : Libraries PublicKey Code) (spare : Nat → Bytes)
    (valid : input.Valid arrays) :
    (contents (pbkVerifySignature lib arrays input).1 input = contents arrays input ↔
        ¬(162 ≤ input.len ∧ 27 ≤ recoveryId arrays input)) ∧
      contents (p256VerifyDigest lib arrays input).1 input = contents arrays input ∧
      contents (pledgeBillVerify lib spare arrays input).1 input = contents arrays input :=
  ⟨contents_pbkVerifySignature_iff lib valid, rfl, contents_verifyBill lib spare valid _ _ _ _⟩

/-- A public key of the curve P-256, in compressed form. -/
def Sample.publicKey : Bytes :=
  [3, 107, 23, 209, 242, 225, 44, 66, 71, 248, 188, 230, 229, 99, 164, 64, 242, 119, 3, 125, 129, 45,
    235, 51, 160, 244, 161, 57, 69, 216, 152, 194, 150]

/-- The hash of a pledge on the main chain, and the address that its bill goes to. -/
def Sample.pledge : Bytes :=
  List.replicate 32 1 ++ List.replicate 20 2

/-- A signature with the key over these 52 bytes. -/
def Sample.signature : Bytes :=
  [124, 242, 123, 24, 141, 3, 79, 126, 138, 82, 56, 3, 4, 181, 26, 195, 192, 137, 105, 226, 119, 242,
    27, 53, 166, 11, 72, 252, 71, 102, 153, 120, 1, 100, 118, 188, 131, 0, 188, 69, 29, 17, 175, 33,
    242, 126, 42, 222, 73, 7, 241, 31, 58, 122, 222, 148, 2, 194, 166, 21, 6, 193, 153, 118]

/-- Functions that know this key, this signature and this pledge, and refuse all others. -/
def Sample.oneKey : Libraries Unit Unit where
  textHash bytes := bytes
  sigToPub _ _ := .error "invalid signature"
  decodePoint bytes := if bytes = publicKey then some () else none
  verifyDigest _ _ _ := false
  verify _ data bytes :=
    if data = pledge ∧ bytes = signature then .ok () else .error "[Validation], Verify failed."
  standardStakeAddress _ := .ok [83]
  createMultiSigContract _ _ := .error "invalid parameters"
  checkMultiSigSignatures _ _ _ := .error "invalid signatures"
  multiSigStakeAddress _ := .error "invalid code"
  getPledgeBillData hash := if hash = pledge.take 32 then ([83], none) else ([], some "not found")

/-- A memory of one array, all of which is the input. -/
def Sample.whole (bytes : Bytes) : Slice :=
  ⟨0, 0, bytes.length, bytes.length⟩

theorem Sample.valid_whole (bytes : Bytes) : (Sample.whole bytes).Valid [bytes] :=
  ⟨bytes, rfl, Nat.le_of_eq (Nat.zero_add _), Nat.le_refl _⟩

/-- The signature of a wallet, with the recovery id 27. -/
def Sample.signed : Bytes :=
  List.replicate 161 0 ++ [27]

open Sample

theorem precompiles_keep_input_signed :
    (whole signed).Valid [signed] ∧
      (contents (pbkVerifySignature oneKey [signed] (whole signed)).1 (whole signed) =
          contents [signed] (whole signed) ↔
        ¬(162 ≤ (whole signed).len ∧ 27 ≤ recoveryId [signed] (whole signed))) ∧
      contents (p256VerifyDigest oneKey [signed] (whole signed)).1 (whole signed) =
        contents [signed] (whole signed) ∧
      contents (pledgeBillVerify oneKey (fun _ => []) [signed] (whole signed)).1 (whole signed) =
        contents [signed] (whole signed) := by
  have valid := valid_whole signed
  exact ⟨valid, precompiles_keep_input_iff oneKey (fun _ => []) valid⟩

/-- The call writes the recovery id 0 into the memory of its caller. -/
theorem recovery_id_rewritten :
    (contents [signed] (whole signed))[161]? = some 27 ∧
      (contents (pbkVerifySignature oneKey [signed]
        (whole signed)).1 (whole signed))[161]? = some 0 := by
  decide +kernel

/-! ## The numbers of a pledged bill -/

/--
The numbers of the input are the ones that were used: as many keys were decoded as are
declared, all in the input, and either it is one and its signature was checked, or the
declared signatures, all in the input, were checked against the declared threshold.
-/
def VerifiesDeclared (arrays : Arrays UInt8) (input : Slice) (checked : Checked) : Prop :=
  checked.keyPoints.length = number arrays input 84 ∧
    (∀ point ∈ checked.keyPoints, point + 33 ≤ input.len) ∧
    match checked.check with
    | .standard _ => number arrays input 84 = 1
    | .multi m points =>
      1 < number arrays input 116 ∧ number arrays input 116 ≤ number arrays input 84 ∧
        m = number arrays input 116 ∧ points.length = number arrays input 148 ∧
        ∀ point ∈ points, point + 64 ≤ input.len

/-- The declared keys and signatures have room in the input. -/
def Contained (n sigCount len : Nat) : Prop :=
  n < 2 ^ 63 ∧ 180 + n * 33 ≤ len ∧ (n = 1 ∨ sigCount < 2 ^ 63 ∧ 180 + n * 33 + sigCount * 64 ≤ len)

theorem int64_of_lt {value : Nat} (small : value < 2 ^ 63) : int64 value = value := by
  rw [int64, Int.bmod_eq_of_le (by omega) (by omega)]

theorem toNat_int64_eq_iff {value : Nat} : (int64 value).toNat = value ↔ value < 2 ^ 63 := by
  constructor
  · intro same
    have bound : int64 value < 2 ^ 63 := by
      have := Int.bmod_lt (x := value) (m := 2 ^ 64) (by omega)
      rw [int64]
      omega
    omega
  · intro small
    rw [int64_of_lt small, Int.toNat_natCast]

theorem points_inside_iff {start size count len : Nat} (begins : start ≤ 2 ^ 63)
    (isLength : len < 2 ^ 63) :
    (∀ point ∈ (List.range count).map fun i => uint64 (start + i * size), point + size ≤ len) ↔
      count = 0 ∨ start + count * size ≤ len := by
  simp only [List.forall_mem_map, List.mem_range]
  constructor
  · intro inside
    induction count with
    | zero => exact .inl rfl
    | succ i inductionHypothesis =>
      -- The place before is in the input, and so this one does not wrap around.
      have before := inductionHypothesis fun earlier bound => inside earlier (Nat.lt_succ_of_lt bound)
      have near : start + i * size ≤ 2 ^ 63 := by
        rcases before with rfl | enough
        · rwa [Nat.zero_mul]
        · exact enough.trans isLength.le
      have isPoint := inside i (Nat.lt_succ_self i)
      rw [uint64, Nat.mod_eq_of_lt (by omega)] at isPoint
      rw [Nat.succ_mul, ← Nat.add_assoc]
      exact .inr isPoint
  · rintro (rfl | enough) i bound
    · exact absurd bound (Nat.not_lt_zero i)
    · have behind : (i + 1) * size ≤ count * size := Nat.mul_le_mul_right size bound
      rw [Nat.succ_mul] at behind
      rw [uint64, Nat.mod_eq_of_lt (by omega)]
      omega

theorem declaredPoints_iff {start size count len : Nat} (begins : start ≤ 2 ^ 63)
    (isLength : len < 2 ^ 63) {points : List Nat}
    (isPoints : points = (List.range (int64 count).toNat).map fun i => uint64 (start + i * size)) :
    (points.length = count ∧ ∀ point ∈ points, point + size ≤ len) ↔
      count < 2 ^ 63 ∧ (count = 0 ∨ start + count * size ≤ len) := by
  rw [isPoints, List.length_map, List.length_range, toNat_int64_eq_iff]
  refine and_congr_right fun small => ?_
  rw [toNat_int64_eq_iff.2 small]
  exact points_inside_iff begins isLength

theorem pointBehind_keyPoints {n : Nat} (positive : 0 < n) (small : 180 + n * 33 < 2 ^ 63) :
    pointBehind (keyPoints n) = 180 + n * 33 := by
  obtain ⟨last, rfl⟩ := Nat.exists_eq_add_of_lt positive
  have lastPoint : uint64 (180 + last * 33) = 180 + last * 33 := Nat.mod_eq_of_lt (by omega)
  rw [pointBehind, keyPoints, toNat_int64_eq_iff.2 (by omega), Nat.zero_add, List.range_succ,
    List.map_append, List.map_singleton, List.getLast?_concat, Option.getD_some, lastPoint, uint64,
    Nat.mod_eq_of_lt (by omega)]
  omega

theorem verifyBill_ok {n m sigCount : Nat} {points : List Nat} {checked : Checked}
    (returned : (verifyBill lib spare arrays input n m sigCount points).2 = .ok checked) :
    checked.keyPoints = points ∧
      (int64 n = 1 ∧ checked.check = .standard (pointBehind points) ∨
        int64 n ≠ 1 ∧ 1 < uint64 m ∧ 1 < uint64 n ∧ m ≤ n ∧
          checked.check = .multi (int64 m) (signaturePoints (pointBehind points) sigCount)) := by
  unfold verifyBill at returned
  dsimp only at returned
  split at returned
  · cases returned
  split at returned
  next isOne =>
    split at returned
    · cases returned
    · obtain ⟨_, -, rfl⟩ := exists_of_map_ok returned
      exact ⟨rfl, .inl ⟨isOne, rfl⟩⟩
  next notOne =>
    split at returned
    next several =>
      split at returned
      · cases returned
      next enough =>
        obtain ⟨_, -, rfl⟩ := exists_of_map_ok returned
        exact ⟨rfl, .inr ⟨notOne, several.1, several.2, not_lt.1 enough, rfl⟩⟩
    · cases returned

/--
A run that returns true has used the numbers that its input declares, exactly if the
declared keys and signatures have room in the input.
-/
theorem verifies_declared_iff (isLength : input.len < 2 ^ 63) {checked : Checked}
    (returned : (pledgeBillVerify lib spare arrays input).2 = .ok checked) :
    VerifiesDeclared arrays input checked ↔
      Contained (number arrays input 84) (number arrays input 148) input.len := by
  rw [pledgeBillVerify] at returned
  obtain ⟨isPoints, outcome⟩ := verifyBill_ok returned
  rw [VerifiesDeclared, isPoints]
  generalize number arrays input 84 = n at outcome ⊢
  generalize number arrays input 116 = m at outcome ⊢
  generalize number arrays input 148 = sigCount at outcome ⊢
  rw [← and_assoc, declaredPoints_iff (by omega) isLength (keyPoints.eq_1 n), Contained, and_assoc]
  refine and_congr_right fun small => ?_
  rcases outcome with ⟨isOne, isStandard⟩ | ⟨notOne, severalSignatures, severalKeys, ordered, isMulti⟩
  · have one : n = 1 := by
      rw [int64_of_lt small] at isOne
      exact_mod_cast isOne
    rw [isStandard, one]
    simp
  · have several : 1 < n := by
      rwa [uint64, Nat.mod_eq_of_lt (by omega)] at severalKeys
    have threshold : 1 < m := by
      rwa [uint64, Nat.mod_eq_of_lt (by omega)] at severalSignatures
    rw [isMulti, or_iff_right (by omega)]
    refine and_congr_right fun room => ?_
    dsimp only
    rw [int64_of_lt (by omega), pointBehind_keyPoints (by omega) (by omega),
      declaredPoints_iff (by omega) isLength (signaturePoints.eq_1 _ _)]
    simp only [threshold, ordered, true_and, several.ne', false_or]
    refine and_congr_right fun _ => or_iff_right_of_imp fun none => ?_
    omega

/-- The pledge with the key and its signature, for a declared number of keys. -/
def Sample.declaring (n : Bytes) : Bytes :=
  List.replicate 32 0 ++ pledge ++ List.replicate (32 - n.length) 0 ++ n ++ List.replicate 64 0 ++
    publicKey ++ signature

theorem verifies_declared_one :
    (pledgeBillVerify oneKey (fun _ => []) [declaring [1]] (whole (declaring [1]))).2 =
        .ok ⟨[180], .standard 213⟩ ∧
      (VerifiesDeclared [declaring [1]] (whole (declaring [1])) ⟨[180], .standard 213⟩ ↔
        Contained (number [declaring [1]] (whole (declaring [1])) 84)
          (number [declaring [1]] (whole (declaring [1])) 148) (whole (declaring [1])).len) := by
  have returned : (pledgeBillVerify oneKey (fun _ => []) [declaring [1]]
      (whole (declaring [1]))).2 = .ok ⟨[180], .standard 213⟩ := by
    decide +kernel
  exact ⟨returned, verifies_declared_iff (by decide +kernel) returned⟩

/-- Of the number of keys only the lower 64 bits are used: one key passes for more. -/
theorem low_bits_verified :
    let bytes := declaring [1, 0, 0, 0, 0, 0, 0, 0, 1]
    number [bytes] (whole bytes) 84 = 2 ^ 64 + 1 ∧
      (pledgeBillVerify oneKey (fun _ => []) [bytes] (whole bytes)).2 =
        .ok ⟨[180], .standard 213⟩ ∧
      ¬VerifiesDeclared [bytes] (whole bytes) ⟨[180], .standard 213⟩ := by
  refine ⟨by decide +kernel, by decide +kernel, fun verified => ?_⟩
  exact absurd verified.1 (by decide +kernel)

end EscSideChain.Vm
