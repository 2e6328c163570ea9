import Mathlib.Data.Vector.Basic
import Mathlib.Tactic.IntervalCases

namespace EscSideChain

/-!
# Byte strings, hexadecimal text and fixed-size hashes

Go strings and byte slices are both finite byte sequences, and the program
converts between them all the time: identifiers travel as hexadecimal text,
as 32-byte hashes and as raw call data.  This module fixes the conversions and
the round trips that later modules need.
-/

abbrev Bytes := List UInt8

instance : LawfulBEq Bytes :=
  inferInstance

abbrev Hash := List.Vector UInt8 32

abbrev Address := List.Vector UInt8 20

/-- `big.Int.Int64`: the lower 64 bits, with their sign. -/
def int64 (value : Int) : Int :=
  value.bmod (2 ^ 64)

/-- The hash `common.Hash{}`. -/
def emptyHash : Hash :=
  ⟨List.replicate 32 0, by simp⟩

/-- The address `common.Address{}`, which the source calls `blackaddr`. -/
def blackAddr : Address :=
  ⟨List.replicate 20 0, by simp⟩

def hexDigit (nibble : Nat) : UInt8 :=
  if nibble < 10 then UInt8.ofNat (48 + nibble)
  else UInt8.ofNat (87 + nibble)

def fromHexChar (char : UInt8) : Option Nat :=
  let code := char.toNat
  if 48 ≤ code ∧ code ≤ 57 then some (code - 48)
  else if 97 ≤ code ∧ code ≤ 102 then some (code - 87)
  else if 65 ≤ code ∧ code ≤ 70 then some (code - 55)
  else none

/-- `hex.EncodeToString`, also `common.Bytes2Hex`. -/
def bytes2Hex : Bytes → Bytes
  | [] => []
  | byte :: rest => hexDigit (byte.toNat / 16) :: hexDigit (byte.toNat % 16) :: bytes2Hex rest

/--
`hex.DecodeString`: the bytes decoded before the first fault, and whether the
whole text was well formed.
-/
def hexDecode : Bytes → Bytes × Bool
  | [] => ([], true)
  | [_] => ([], false)
  | high :: low :: rest =>
    match fromHexChar high, fromHexChar low with
    | some upper, some lower =>
      (UInt8.ofNat (16 * upper + lower) :: (hexDecode rest).1, (hexDecode rest).2)
    | _, _ => ([], false)

/-- `hex.DecodeString` as a fallible function. -/
def hexDecodeString (text : Bytes) : Option Bytes :=
  if (hexDecode text).2 then some (hexDecode text).1
  else none

def asciiText (text : Bytes) : String :=
  String.ofList (text.map fun byte => Char.ofNat byte.toNat)

/-- The error of `hex.DecodeString`, without the offending byte. -/
def hexDecodeError (text : Bytes) : String :=
  if text.length % 2 = 1 ∧ text.all fun char => (fromHexChar char).isSome then
    "encoding/hex: odd length hex string"
  else "encoding/hex: invalid byte"

/-- `common.Hex2Bytes`, which drops the decoding error. -/
def hex2Bytes (text : Bytes) : Bytes :=
  (hexDecode text).1

/-- The text `0x`. -/
def hexPrefix : Bytes := [48, 120]

/-- `hexutil.Encode`. -/
def hexutilEncode (bytes : Bytes) : Bytes :=
  hexPrefix ++ bytes2Hex bytes

/-- `common.has0xPrefix`, which accepts both spellings of the letter. -/
def has0xPrefix : Bytes → Bool
  | 48 :: 120 :: _ => true
  | 48 :: 88 :: _ => true
  | _ => false

def fromHex (text : Bytes) : Bytes :=
  let digits := if has0xPrefix text then text.drop 2 else text
  hex2Bytes (if digits.length % 2 = 1 then 48 :: digits else digits)

def fixedBytes (size : Nat) (bytes : Bytes) : List.Vector UInt8 size :=
  ⟨List.replicate (size - bytes.length) 0 ++ bytes.drop (bytes.length - size), by
    simp
    omega⟩

def bytesToHash (bytes : Bytes) : Hash :=
  fixedBytes 32 bytes

def hexToHash (text : Bytes) : Hash :=
  bytesToHash (fromHex text)

def hexToAddress (text : Bytes) : Address :=
  fixedBytes 20 (fromHex text)

def isHexAddress (text : Bytes) : Bool :=
  let digits := if has0xPrefix text then text.drop 2 else text
  digits.length = 40 && digits.all fun char => (fromHexChar char).isSome

/-- `Hash.String`. -/
def hashString (hash : Hash) : Bytes :=
  hexutilEncode hash.toList

/-- The guard `s[0:2] == "0x"` followed by `s = s[2:]`. -/
def strip0x (text : Bytes) : Bytes :=
  if text.take 2 = hexPrefix then text.drop 2
  else text

theorem fromHexChar_hexDigit {nibble : Nat} (bound : nibble < 16) :
    fromHexChar (hexDigit nibble) = some nibble := by
  interval_cases nibble <;> decide

variable (bytes : Bytes)

theorem hexDecode_bytes2Hex : hexDecode (bytes2Hex bytes) = (bytes, true) := by
  induction bytes with
  | nil => rfl
  | cons byte rest inductionHypothesis =>
    have byteBound : byte.toNat < 256 := byte.toNat_lt
    have upper : fromHexChar (hexDigit (byte.toNat / 16)) = some (byte.toNat / 16) :=
      fromHexChar_hexDigit (by omega)
    have lower : fromHexChar (hexDigit (byte.toNat % 16)) = some (byte.toNat % 16) :=
      fromHexChar_hexDigit (by omega)
    have whole : 16 * (byte.toNat / 16) + byte.toNat % 16 = byte.toNat := by omega
    simp only [bytes2Hex, hexDecode, upper, lower, inductionHypothesis, whole]
    simp

@[simp] theorem hex2Bytes_bytes2Hex : hex2Bytes (bytes2Hex bytes) = bytes := by
  simp [hex2Bytes, hexDecode_bytes2Hex]

@[simp] theorem length_bytes2Hex : (bytes2Hex bytes).length = 2 * bytes.length := by
  induction bytes with
  | nil => rfl
  | cons byte rest inductionHypothesis =>
    simp only [bytes2Hex, List.length_cons, inductionHypothesis]
    omega

theorem hexDigit_ne_x {nibble : Nat} (bound : nibble < 16) :
    hexDigit nibble ≠ 120 ∧ hexDigit nibble ≠ 88 := by
  interval_cases nibble <;> decide

theorem strip0x_bytes2Hex : strip0x (bytes2Hex bytes) = bytes2Hex bytes := by
  cases bytes with
  | nil => rfl
  | cons byte rest =>
    have notX := hexDigit_ne_x (show byte.toNat % 16 < 16 by omega)
    simp [strip0x, bytes2Hex, hexPrefix, notX.1]

theorem fromHex_hexutilEncode : fromHex (hexutilEncode bytes) = bytes := by
  simp [fromHex, hexutilEncode, hexPrefix, has0xPrefix]

theorem fromHex_bytes2Hex : fromHex (bytes2Hex bytes) = bytes := by
  have bare : has0xPrefix (bytes2Hex bytes) = false := by
    cases bytes with
    | nil => rfl
    | cons byte rest =>
      have notX := hexDigit_ne_x (show byte.toNat % 16 < 16 by omega)
      unfold has0xPrefix bytes2Hex
      split
      · next same =>
          injection same with _ same
          injection same with letter _
          exact absurd letter notX.1
      · next same =>
          injection same with _ same
          injection same with letter _
          exact absurd letter notX.2
      · rfl
  simp [fromHex, bare]

def IsLowerDigit (char : UInt8) : Prop :=
  48 ≤ char.toNat ∧ char.toNat ≤ 57 ∨ 97 ≤ char.toNat ∧ char.toNat ≤ 102

theorem IsLowerDigit.exists_hexDigit_eq {char : UInt8} (lower : IsLowerDigit char) :
    ∃ nibble < 16, hexDigit nibble = char := by
  rcases lower with ⟨atLeast, atMost⟩ | ⟨atLeast, atMost⟩
  · refine ⟨char.toNat - 48, by omega, ?_⟩
    rw [hexDigit, if_pos (by omega), Nat.add_sub_cancel' atLeast, UInt8.ofNat_toNat]
  · refine ⟨char.toNat - 87, by omega, ?_⟩
    rw [hexDigit, if_neg (by omega), Nat.add_sub_cancel' (by omega), UInt8.ofNat_toNat]

theorem exists_bytes2Hex_eq (size : Nat) :
    ∀ text : Bytes, text.length = 2 * size → (∀ char ∈ text, IsLowerDigit char) →
      ∃ bytes : Bytes, bytes.length = size ∧ bytes2Hex bytes = text := by
  induction size with
  | zero =>
    intro text empty _
    obtain rfl := List.eq_nil_of_length_eq_zero empty
    exact ⟨[], rfl, rfl⟩
  | succ size inductionHypothesis =>
    intro text length lower
    match text, length, lower with
    | high :: low :: rest, length, lower =>
      simp only [List.length_cons] at length
      obtain ⟨bytes, counted, encoded⟩ :=
        inductionHypothesis rest (by omega) fun char member =>
          lower char (by simp [member])
      obtain ⟨upper, upperBound, upperDigit⟩ := (lower high (by simp)).exists_hexDigit_eq
      obtain ⟨under, underBound, underDigit⟩ := (lower low (by simp)).exists_hexDigit_eq
      refine ⟨UInt8.ofNat (16 * upper + under) :: bytes, by simp [counted], ?_⟩
      have whole : (UInt8.ofNat (16 * upper + under)).toNat = 16 * upper + under := by
        rw [UInt8.toNat_ofNat']
        omega
      have first : (16 * upper + under) / 16 = upper := by omega
      have second : (16 * upper + under) % 16 = under := by omega
      rw [bytes2Hex, whole, first, second, upperDigit, underDigit, encoded]

structure IsLowerHash (hash : Bytes) : Prop where
  length : hash.length = 64
  lower : ∀ char ∈ hash, IsLowerDigit char

theorem isLowerDigit_hexDigit {nibble : Nat} (small : nibble < 16) :
    IsLowerDigit (hexDigit nibble) := by
  unfold IsLowerDigit
  revert nibble
  decide

theorem isLowerHash_bytes2Hex {bytes : Bytes} (size : bytes.length = 32) :
    IsLowerHash (bytes2Hex bytes) where
  length := by
    rw [length_bytes2Hex, size]
  lower := by
    clear size
    induction bytes with
    | nil => nofun
    | cons byte rest inductionHypothesis =>
      have bounded := byte.toNat_lt
      intro char member
      rcases List.mem_cons.1 member with rfl | member
      · exact isLowerDigit_hexDigit (by omega)
      · rcases List.mem_cons.1 member with rfl | later
        · exact isLowerDigit_hexDigit (by omega)
        · exact inductionHypothesis char later

theorem IsLowerHash.exists_bytes {hash : Bytes} (isHash : IsLowerHash hash) :
    ∃ id : Bytes, id.length = 32 ∧ bytes2Hex id = hash ∧ hexToHash hash = bytesToHash id := by
  obtain ⟨id, size, rfl⟩ := exists_bytes2Hex_eq 32 hash isHash.length isHash.lower
  exact ⟨id, size, rfl, by rw [hexToHash, fromHex_bytes2Hex]⟩

theorem IsLowerHash.strip0x_eq {hash : Bytes} (isHash : IsLowerHash hash) :
    strip0x hash = hash := by
  obtain ⟨id, -, rfl, -⟩ := isHash.exists_bytes
  exact strip0x_bytes2Hex id

theorem toList_bytesToHash {bytes : Bytes} (size : bytes.length = 32) :
    (bytesToHash bytes).toList = bytes := by
  simp [bytesToHash, fixedBytes, List.Vector.toList, size]

/-! ## Results of fallible calls -/

/-- What is mapped over a fallible result is mapped over its value. -/
theorem exists_of_map_ok {Error First Second : Type} {outcome : Except Error First}
    {change : First → Second} {result : Second} (isOk : outcome.map change = .ok result) :
    ∃ value, outcome = .ok value ∧ change value = result := by
  cases outcome with
  | error err => cases isOk
  | ok value => exact ⟨value, rfl, Except.ok.inj isOk⟩

end EscSideChain
