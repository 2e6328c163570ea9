import EscSideChain.EventRuns
import EscSideChain.SmallCrossStore

namespace EscSideChain.PledgeBill

open EventRuns Spv SmallCross

/-!
# Pledged bills

`pledgeBill/pledgedBill.go`.  The payload of a create-NFT transaction and its version
are two entries of the store.  A delivery that finds a payload does nothing, and so a
version that could not be written stays missing.  The reader takes version 0 for one
that it cannot read.
-/

structure CreateNftCodec (CreateNft : Type) where
  deserialize : Bytes → UInt8 → Option CreateNft
  genesisBlockHash : CreateNft → Bytes
  /-- A payload starts with the key that it refers to. -/
  deserialize_nil : ∀ version, deserialize [] version = none

structure ElaTx where
  /-- `Hash().String()`, hexadecimal digits without a prefix. -/
  hashText : Bytes
  bare : strip0x hashText = hashText
  payloadVersion : UInt8
  /-- `Payload().Data(payloadVersion)`. -/
  payLoadData : Bytes

/-- A delivery of a transaction, and what the client and the store do during it. -/
structure Delivery where
  elaTx : ElaTx
  genesis : Option Bytes
  readFails : Bool
  putFails : Bool
  versionPutFails : Bool

/-- A call of `GetCreateNFTPayload`, and whether its reads fail. -/
structure Reading where
  txHash : Bytes
  versionFails : Bool
  readFails : Bool

inductive Event where
  | process (delivery : Delivery)
  | read (reading : Reading)

/--
The store; for the text of a hash also the version under which the payload was written,
and whether the version was written too.
-/
structure Store where
  db : Db
  written : Bytes → Option (UInt8 × Bool)

def Store.empty : Store :=
  ⟨fun _ => none, fun _ => none⟩

def getTxKey (key : Bytes) : Bytes :=
  ascii "elaPledgeTx_" ++ key

def getTxVersionKey (key : Bytes) : Bytes :=
  ascii "ela_PledgeTx_Version_" ++ key

/-- `putData` of the payload and `putTxPayLoadVersion`. -/
def Store.put (store : Store) (delivery : Delivery) : Store :=
  let text := delivery.elaTx.hashText
  let version := delivery.elaTx.payloadVersion
  let saved := Function.update store.db (getTxKey text) (some delivery.elaTx.payLoadData)
  ⟨if delivery.versionPutFails then saved
    else Function.update saved (getTxVersionKey text) (some [version]),
    Function.update store.written text (some (version, !delivery.versionPutFails))⟩

variable {CreateNft : Type} (codec : CreateNftCodec CreateNft)

def processPledgedBill (store : Store) (delivery : Delivery) : Store :=
  match codec.deserialize delivery.elaTx.payLoadData delivery.elaTx.payloadVersion with
  | none => store
  | some createNft =>
    if delivery.genesis ≠ some (codec.genesisBlockHash createNft) then store
    else if delivery.readFails then store
    else
      match store.db (getTxKey delivery.elaTx.hashText) with
      | some (_ :: _) => store
      | _ => if delivery.putFails then store else store.put delivery

/-- `GetBPosNftPayloadVersion`; `none` is an error, also for a text that is too short. -/
def getBPosNftPayloadVersion (db : Db) (txHash : Bytes) (fails : Bool) : Option UInt8 :=
  if txHash.length < 2 ∨ fails then none
  else (db (getTxVersionKey (strip0x txHash))).bind List.head?

/-- `GetCreateNFTPayload`, which goes on with version 0 after an error. -/
def getCreateNFTPayload (db : Db) (reading : Reading) : Option (CreateNft × UInt8) :=
  let txHash := strip0x reading.txHash
  let payloadVersion := (getBPosNftPayloadVersion db txHash reading.versionFails).getD 0
  if reading.txHash.length < 2 ∨ txHash.length < 2 ∨ reading.readFails then none
  else (db (getTxKey txHash)).bind fun v =>
    (codec.deserialize v payloadVersion).map fun p => (p, payloadVersion)

def step (store : Store) : Event → Store
  | .process delivery => processPledgedBill codec store delivery
  | .read _ => store

/-- A payload is read with the version under which it was written. -/
def ReadsOwnVersion (store : Store) : Event → Prop
  | .process _ => True
  | .read reading => ∀ p version, getCreateNFTPayload codec store.db reading = some (p, version) →
      ∃ saved, store.written (strip0x reading.txHash) = some (version, saved)

/-- A payload that is read has version 0, or its version was written and can be read. -/
def VersionReadable (store : Store) : Event → Prop
  | .process _ => True
  | .read reading => ∀ version saved,
      store.written (strip0x reading.txHash) = some (version, saved) →
      (getCreateNFTPayload codec store.db reading).isSome →
      version = 0 ∨ saved = true ∧ reading.versionFails = false

structure Consistent (store : Store) : Prop where
  missing : ∀ text, store.written text = none → store.db (getTxKey text) = none
  present : ∀ text version saved, store.written text = some (version, saved) →
    strip0x text = text ∧ (∃ data, data ≠ [] ∧ store.db (getTxKey text) = some data) ∧
      store.db (getTxVersionKey text) = if saved then some [version] else none
  versionless : ∀ text, store.written text = none → store.db (getTxVersionKey text) = none

variable {codec} {store : Store}

theorem getTxKey_inj {first second : Bytes} : getTxKey first = getTxKey second ↔ first = second :=
  List.append_right_inj _

theorem getTxVersionKey_inj {first second : Bytes} :
    getTxVersionKey first = getTxVersionKey second ↔ first = second :=
  List.append_right_inj _

theorem getTxKey_ne_getTxVersionKey (first second : Bytes) :
    getTxKey first ≠ getTxVersionKey second := by
  intro same
  have start := congrArg (List.take 4) same
  rw [getTxKey, getTxVersionKey, List.take_append_of_le_length (by decide),
    List.take_append_of_le_length (by decide)] at start
  exact absurd start (by decide)

section Put

variable {delivery : Delivery} {text : Bytes}

theorem db_put_getTxKey : (store.put delivery).db (getTxKey text) =
    if text = delivery.elaTx.hashText then some delivery.elaTx.payLoadData
    else store.db (getTxKey text) := by
  unfold Store.put
  split <;> simp [Function.update_apply, getTxKey_inj, getTxKey_ne_getTxVersionKey]

theorem db_put_getTxVersionKey : (store.put delivery).db (getTxVersionKey text) =
    if text = delivery.elaTx.hashText ∧ delivery.versionPutFails = false then
      some [delivery.elaTx.payloadVersion]
    else store.db (getTxVersionKey text) := by
  unfold Store.put
  cases delivery.versionPutFails <;> simp [Function.update_apply, getTxVersionKey_inj,
    (getTxKey_ne_getTxVersionKey _ _).symm]

theorem written_put : (store.put delivery).written text =
    if text = delivery.elaTx.hashText then
      some (delivery.elaTx.payloadVersion, !delivery.versionPutFails)
    else store.written text :=
  Function.update_apply _ _ _ _

end Put

theorem Consistent.put (consistent : Consistent store) {delivery : Delivery}
    (isNew : store.written delivery.elaTx.hashText = none)
    (some : delivery.elaTx.payLoadData ≠ []) : Consistent (store.put delivery) := by
  refine ⟨fun text none => ?_, fun text number saved found => ?_, fun text none => ?_⟩
  · rw [written_put] at none
    split at none
    · cases none
    next other => rw [db_put_getTxKey, if_neg other, consistent.missing text none]
  · rw [written_put] at found
    split at found
    next same =>
      cases found
      subst same
      refine ⟨delivery.elaTx.bare, ⟨_, some, by rw [db_put_getTxKey, if_pos rfl]⟩, ?_⟩
      rw [db_put_getTxVersionKey, consistent.versionless _ isNew]
      cases delivery.versionPutFails <;> simp
    next other =>
      rw [db_put_getTxKey, db_put_getTxVersionKey, if_neg other, if_neg fun both => other both.1]
      exact consistent.present text number saved found
  · rw [written_put] at none
    split at none
    · cases none
    next other =>
      rw [db_put_getTxVersionKey, if_neg fun both => other both.1, consistent.versionless text none]

theorem Consistent.step (consistent : Consistent store) (event : Event) :
    Consistent (step codec store event) := by
  cases event with
  | read reading => exact consistent
  | process delivery =>
    unfold PledgeBill.step processPledgedBill
    dsimp only
    split
    · exact consistent
    next createNft decoded =>
      split
      · exact consistent
      split
      · exact consistent
      split
      · exact consistent
      next notSaved =>
        split
        · exact consistent
        · refine consistent.put ?_ fun empty => ?_
          · cases known : store.written delivery.elaTx.hashText with
            | none => rfl
            | some entry =>
              obtain ⟨_, ⟨data, some, stored⟩, _⟩ := consistent.present _ entry.1 entry.2 known
              obtain ⟨first, rest, rfl⟩ := List.exists_cons_of_ne_nil some
              exact absurd stored (notSaved first rest)
          · rw [empty, codec.deserialize_nil] at decoded
            cases decoded

theorem Consistent.getCreateNFTPayload (consistent : Consistent store) {reading : Reading}
    {p : CreateNft} {version : UInt8}
    (returned : getCreateNFTPayload codec store.db reading = some (p, version)) :
    ∃ own saved, store.written (strip0x reading.txHash) = some (own, saved) ∧
      version = if saved = true ∧ reading.versionFails = false then own else 0 := by
  unfold PledgeBill.getCreateNFTPayload at returned
  dsimp only at returned
  split at returned
  · cases returned
  next readable =>
    obtain ⟨data, stored, decoded⟩ := Option.bind_eq_some_iff.1 returned
    obtain ⟨_, _, same⟩ := Option.map_eq_some_iff.1 decoded
    obtain ⟨_, isVersion⟩ := Prod.mk.inj same
    cases known : store.written (strip0x reading.txHash) with
    | none => cases (consistent.missing _ known).symm.trans stored
    | some entry =>
      obtain ⟨bare, _, versionEntry⟩ := consistent.present _ entry.1 entry.2 known
      refine ⟨entry.1, entry.2, rfl, ?_⟩
      have long : ¬(strip0x reading.txHash).length < 2 := fun short => readable (.inr (.inl short))
      rw [← isVersion, getBPosNftPayloadVersion, bare, versionEntry]
      cases reading.versionFails <;> cases entry.2 <;> simp [long]

/--
In every history of deliveries and readings, with whatever failures of the store, every
payload is read with its own version, exactly if every payload that is read has version 0
or its version was written with it and can be read.
-/
theorem reads_own_version_iff (codec : CreateNftCodec CreateNft) (events : List Event) :
    Along (ReadsOwnVersion codec) (step codec) .empty events ↔
      Along (VersionReadable codec) (step codec) .empty events := by
  refine along_congr Consistent ?_ (fun _ event _ consistent => consistent.step event) ?_
  · intro store event consistent
    cases event with
    | process delivery => exact Iff.rfl
    | read reading =>
      constructor
      · intro own version saved written returned
        obtain ⟨⟨p, used⟩, isReturned⟩ := Option.isSome_iff_exists.1 returned
        obtain ⟨_, _, known, isUsed⟩ := consistent.getCreateNFTPayload isReturned
        obtain ⟨_, isOwn⟩ := own p used isReturned
        rw [written] at known isOwn
        cases known
        cases isOwn
        by_cases readable : saved = true ∧ reading.versionFails = false
        · exact .inr readable
        · exact .inl (isUsed.trans (if_neg readable))
      · intro readable p used isReturned
        obtain ⟨own, saved, known, isUsed⟩ := consistent.getCreateNFTPayload isReturned
        refine ⟨saved, ?_⟩
        rw [known, isUsed]
        rcases readable own saved known (Option.isSome_iff_exists.2 ⟨_, isReturned⟩) with rfl | both
        · rw [ite_self]
        · rw [if_pos both]
  · exact ⟨fun _ _ => rfl, fun _ _ _ found => absurd found (by simp [Store.empty]), fun _ _ => rfl⟩

/-- Payloads are their first byte; the second version has more bytes behind it. -/
def Sample.firstByte : CreateNftCodec UInt8 where
  deserialize data version := if version = 0 ∨ 2 ≤ data.length then data.head? else none
  genesisBlockHash _ := []
  deserialize_nil version := by simp

/-- A transaction of version 1; the store fails to write the version. -/
def Sample.delivery (versionPutFails : Bool) : Delivery :=
  ⟨⟨bytes2Hex emptyHash.toList, strip0x_bytes2Hex _, 1, [7, 8]⟩, some [], false, false, versionPutFails⟩

open Sample

/--
The version is not written, and the second delivery does not write it either: the payload
is then read as one of version 0.
-/
theorem version_zero_read :
    let events := [Event.process (delivery true), .process (delivery false)]
    let text := bytes2Hex emptyHash.toList
    (run (step firstByte) .empty events).written text = some (1, false) ∧
      getCreateNFTPayload firstByte (run (step firstByte) .empty events).db
        ⟨text, false, false⟩ = some (7, 0) := by
  decide

end EscSideChain.PledgeBill
