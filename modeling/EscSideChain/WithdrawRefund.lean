import EscSideChain.EventRuns
import EscSideChain.SmallCrossSignatures

namespace EscSideChain.WithdrawFailedTx

open Dpos

/-!
# Refunds of failed withdrawals

The collector of arbiter signatures in `withdrawfailedtx`: two in-memory maps
that gather signatures over a withdrawal id, and `VerifySignatures`, which
authorises the refund that an input asks for.  The functions that read the node
over its RPC client take the client's answers from `Client`.
-/

structure ReceiptLog where
  topics : List Hash
  data : Bytes
  deriving DecidableEq

structure Receipt where
  status : UInt64
  logs : List ReceiptLog
  deriving DecidableEq

structure Client where
  storageAt : Hash → Except String Bytes
  transactionReceipt : Hash → Except String Receipt
  transactionByHash : Hash → Except String (Option (Option Address))

structure Surroundings where
  client : Option Client
  spvService : Option Spv.SpvService
  pbftEngine : Option Spv.PbftEngine

/-- `spv.GetArbiters` on the node. -/
def Surroundings.arbiters (node : Surroundings) : Except String (List Bytes × Nat) :=
  Spv.getArbiters node.spvService node.pbftEngine

/-- The maps `failedTxList` and `verifiedArbiter`. -/
structure Collector where
  failedTxList : Bytes → List Bytes
  verifiedArbiter : Bytes → List Bytes

namespace Collector

def empty : Collector :=
  ⟨fun _ => [], fun _ => []⟩

def delete (collector : Collector) (hash : Bytes) : Collector where
  failedTxList := Function.update collector.failedTxList hash []
  verifiedArbiter := Function.update collector.verifiedArbiter hash []

def add (collector : Collector) (hash signature arbiter : Bytes) : Collector where
  failedTxList := Function.update collector.failedTxList hash
    (collector.failedTxList hash ++ [signature])
  verifiedArbiter := Function.update collector.verifiedArbiter hash
    (collector.verifiedArbiter hash ++ [arbiter])

/--
`OnProcessFaildWithdrawTx`; taking the first two bytes of a shorter text
fails before the maps are touched.
-/
def onProcessFaildWithdrawTx (collector : Collector) (hash : Bytes) : Collector :=
  let stripped := strip0x hash
  if hash.length < 2 then collector
  else if 0 < (collector.failedTxList stripped).length then collector.delete stripped
  else collector

def isSignatureVerified (collector : Collector) (txid signature : Bytes) : Bool :=
  (collector.failedTxList txid).contains signature

def isArbiterVerified (collector : Collector) (txid arbiter : Bytes) : Bool :=
  (collector.verifiedArbiter txid).contains arbiter

end Collector

variable (ela : ElaLibrary)

/--
`verifySignature`: the first arbiter not yet counted under whose key the
signature verifies.  A key that does not decode ends the search.
-/
def verifySignature (collector : Collector) (txid signature : Bytes) : List Bytes → Option Bytes
  | [] => none
  | arbiter :: rest =>
    if collector.isArbiterVerified txid arbiter then verifySignature collector txid signature rest
    else
      match ela.decodePoint (hex2Bytes arbiter) with
      | .error _ => none
      | .ok pubKey =>
        match ela.verify pubKey (hex2Bytes txid) (hex2Bytes signature) with
        | .ok () => some arbiter
        | .error _ => verifySignature collector txid signature rest

/--
`ReceivedFailedWithdrawTx`, with the collector it leaves behind.  The refund
transaction and the broadcast that a new signature sets off do not touch the
maps.
-/
def receivedFailedWithdrawTx (node : Surroundings) (collector : Collector)
    (hashText signature : Bytes) : Collector × Except String Unit :=
  let hash := strip0x hashText
  if hashText.length < 2 then (collector, .error "runtime error: slice bounds out of range")
  else if collector.isSignatureVerified hash signature then
    (collector, .error "all ready received this tx")
  else
    match node.client with
    | none => (collector, .error "ipc client is null")
    | some client =>
      match client.storageAt (hexToHash hash), client.transactionReceipt (hexToHash hash) with
      | .error reason, _ => (collector, .error reason)
      | .ok _, .error reason => (collector, .error reason)
      | .ok txhash, .ok receipt =>
        if receipt.status = 0 then (collector, .error "tx receipt status is 0")
        else if bytesToHash txhash ≠ emptyHash then
          (collector.onProcessFaildWithdrawTx hash,
            .error ("all ready refund this amount" ++ asciiText (hashString (bytesToHash txhash))))
        else
          match node.arbiters with
          | .error reason => (collector, .error reason)
          | .ok (arbiters, total) =>
            if (collector.verifiedArbiter hash).length ≥ Spv.getMaxArbitersSign total then
              (collector, .error "all ready received 2/3 signatures")
            else
              match verifySignature ela collector hash signature arbiters with
              | none => (collector, .ok ())
              | some arbiter => (collector.add hash signature arbiter, .ok ())

def entries (data : Bytes) : List Bytes :=
  (List.range (data.length / 64)).map fun index =>
    (data.drop (index * 64)).take 64

def signatureVerifies (arbiters : List Bytes) (txid signature : Bytes) : Bool :=
  Spv.signedByAny ela (hex2Bytes txid) (hex2Bytes signature) (arbiters.map hex2Bytes)

/-- The counting loop of `VerifySignatures`, which compares at every entry. -/
def countVerified (threshold : Nat) (arbiters : List Bytes) (txid : Bytes) : Nat → List Bytes → Bool
  | _, [] => false
  | count, signature :: rest =>
    let counted :=
      if signatureVerifies ela arbiters txid signature then count + 1
      else count
    if counted ≥ threshold then true
    else countVerified threshold arbiters txid counted rest

def verifySignatures (node : Surroundings) (collector : Collector) (input : Bytes) : Bool :=
  match node.client with
  | none => false
  | some client =>
    if input.length ≤ 32 then false
    else
      let failedTxHash := bytesToHash (input.take 32)
      match client.storageAt failedTxHash with
      | .error _ => false
      | .ok result =>
        if bytesToHash result ≠ emptyHash then false
        else
          match node.arbiters with
          | .error _ => false
          | .ok (arbiters, total) =>
            let data := input.drop 32
            if data.length % 64 ≠ 0 then false
            else
              let signatures := (entries data).map bytes2Hex
              let txid := (hashString failedTxHash).drop 2
              if signatures.length ≤ 0 then false
              else if (collector.verifiedArbiter txid).length ≥ Spv.getMaxArbitersSign total then
                true
              else countVerified ela (Spv.getMaxArbitersSign total) arbiters txid 0 signatures

/--
`IsWithdawFailedTx`: whether the input starts with the id of a transaction to
the withdraw address, and that id as text.  A transaction without recipient
makes the method call on its nil address fail.
-/
def isWithdawFailedTx (addressString : Address → Bytes) (client : Option Client)
    (input withdrawAddress : Bytes) : Except String (Bool × Bytes) :=
  if input.length ≤ 32 then .ok (false, [])
  else
    let txid := hexutilEncode (input.take 32)
    match client with
    | none => .ok (false, txid)
    | some client =>
      match client.transactionByHash (hexToHash txid) with
      | .error _ => .ok (false, txid)
      | .ok none => .ok (false, txid)
      | .ok (some none) => .error "runtime error: invalid memory address"
      | .ok (some (some recipient)) => .ok (addressString recipient = withdrawAddress, txid)

/-- The event of the withdraw contract that `GetWithdrawTxValue` reads. -/
structure PayloadReceived where
  eventId : Hash
  unpackAmount : Bytes → Except String Nat

/-- The log loop of `GetWithdrawTxValue`. -/
def findPayload (event : PayloadReceived) : List ReceiptLog → Except String (Bytes × Nat)
  | [] => .ok ([], 0)
  | log :: rest =>
    match log.topics with
    | [] => .error "runtime error: index out of range [0]"
    | topic :: others =>
      if topic = event.eventId then
        match others with
        | [] => .error "runtime error: index out of range [1]"
        | sender :: _ =>
          match event.unpackAmount log.data with
          | .error reason => .error reason
          | .ok amount => .ok (hashString sender, amount)
      else findPayload event rest

/-- `GetWithdrawTxValue`: the sender and the amount of a withdrawal. -/
def getWithdrawTxValue (event : PayloadReceived) (client : Option Client) (txid : Bytes) :
    Except String (Bytes × Nat) :=
  match client with
  | none => .error "ipc client is null"
  | some client =>
    match client.transactionReceipt (hexToHash txid) with
    | .error reason => .error reason
    | .ok receipt => findPayload event receipt.logs

/-! ## What the collector holds -/

def Signs (id arbiter sig : Bytes) : Prop :=
  ValidSignature ela (hex2Bytes arbiter) id sig

instance (id arbiter sig : Bytes) : Decidable (Signs ela id arbiter sig) :=
  inferInstanceAs (Decidable (ValidSignature ela _ id sig))

structure Collected (collector : Collector) : Prop where
  noDuplicates : ∀ txid, (collector.verifiedArbiter txid).Nodup
  backed : ∀ txid, ∀ arbiter ∈ collector.verifiedArbiter txid,
    ∃ signature ∈ collector.failedTxList txid,
      Signs ela (hex2Bytes txid) arbiter (hex2Bytes signature)

theorem collected_empty : Collected ela Collector.empty where
  noDuplicates _ := List.nodup_nil
  backed _ _ member := absurd member List.not_mem_nil

variable {collector : Collector} {arbiters : List Bytes}

theorem Collected.delete (collected : Collected ela collector)
    (hash : Bytes) : Collected ela (collector.delete hash) := by
  constructor
  · intro txid
    by_cases same : txid = hash
    · simp [Collector.delete, same]
    · simpa [Collector.delete, same] using collected.noDuplicates txid
  · intro txid arbiter counted
    by_cases same : txid = hash
    · simp [Collector.delete, same] at counted
    simp only [Collector.delete, same, ne_eq, not_false_eq_true, Function.update_of_ne] at counted ⊢
    exact collected.backed txid arbiter counted

theorem Collected.onProcessFaildWithdrawTx (collected : Collected ela collector) (hash : Bytes) :
    Collected ela (collector.onProcessFaildWithdrawTx hash) := by
  unfold Collector.onProcessFaildWithdrawTx
  dsimp only
  split
  · exact collected
  split
  · exact collected.delete ela _
  · exact collected

theorem verifySignature_eq_some {txid signature arbiter : Bytes}
    (found : verifySignature ela collector txid signature arbiters = some arbiter) :
    arbiter ∈ arbiters ∧ arbiter ∉ collector.verifiedArbiter txid ∧
      Signs ela (hex2Bytes txid) arbiter (hex2Bytes signature) := by
  induction arbiters with
  | nil => cases found
  | cons candidate rest inductionHypothesis =>
    have later :
        verifySignature ela collector txid signature rest = some arbiter →
          arbiter ∈ candidate :: rest ∧ arbiter ∉ collector.verifiedArbiter txid ∧
            Signs ela (hex2Bytes txid) arbiter (hex2Bytes signature) := by
      intro foundLater
      obtain ⟨member, new⟩ := inductionHypothesis foundLater
      exact ⟨List.mem_cons_of_mem candidate member, new⟩
    unfold verifySignature at found
    by_cases counted : collector.isArbiterVerified txid candidate = true
    · rw [if_pos counted] at found
      exact later found
    rw [if_neg counted] at found
    cases decoded : ela.decodePoint (hex2Bytes candidate) with
    | error reason => simp [decoded] at found
    | ok pubKey =>
      cases verified : ela.verify pubKey (hex2Bytes txid) (hex2Bytes signature) with
      | error reason =>
        simp only [decoded, verified] at found
        exact later found
      | ok accepted =>
        simp only [decoded, verified, Option.some.injEq] at found
        subst found
        refine ⟨List.mem_cons_self, ?_, pubKey, decoded, verified⟩
        simpa [Collector.isArbiterVerified] using counted

theorem Collected.add (collected : Collected ela collector)
    {hash signature arbiter : Bytes} (fresh : arbiter ∉ collector.verifiedArbiter hash)
    (signs : Signs ela (hex2Bytes hash) arbiter (hex2Bytes signature)) :
    Collected ela (collector.add hash signature arbiter) := by
  constructor
  · intro txid
    by_cases same : txid = hash
    · subst same
      simpa [Collector.add, List.nodup_append, fresh, collected.noDuplicates txid] using
        fun known member => ne_of_mem_of_not_mem member fresh
    · simpa [Collector.add, same] using collected.noDuplicates txid
  · intro txid counted member
    by_cases same : txid = hash
    · subst same
      simp only [Collector.add, Function.update_self,
        List.mem_append, List.mem_singleton] at member ⊢
      rcases member with earlier | latest
      · obtain ⟨kept, stored, valid⟩ := collected.backed txid counted earlier
        exact ⟨kept, .inl stored, valid⟩
      · subst latest
        exact ⟨signature, .inr rfl, signs⟩
    · simp only [Collector.add, same, ne_eq, not_false_eq_true, Function.update_of_ne] at member ⊢
      exact collected.backed txid counted member

inductive CollectorEvent where
  | received (node : Surroundings) (hash signature : Bytes)
  | processed (hash : Bytes)

def collectorStep (collector : Collector) : CollectorEvent → Collector
  | .received node hash signature => (receivedFailedWithdrawTx ela node collector hash signature).1
  | .processed hash => collector.onProcessFaildWithdrawTx hash

def NotRefunded (node : Surroundings) (hash : Hash) : Prop :=
  ∃ client result, node.client = some client ∧ client.storageAt hash = .ok result ∧
      bytesToHash result = emptyHash

theorem receivedFailedWithdrawTx_cases {node : Surroundings} {collector : Collector}
    {text signature : Bytes} :
    (receivedFailedWithdrawTx ela node collector text signature).1 = collector ∨
      (receivedFailedWithdrawTx ela node collector text signature).1 =
        collector.onProcessFaildWithdrawTx (strip0x text) ∨
      ∃ arbiters total arbiter, NotRefunded node (hexToHash (strip0x text)) ∧
          node.arbiters = .ok (arbiters, total) ∧
          verifySignature ela collector (strip0x text) signature arbiters = some arbiter ∧
          (receivedFailedWithdrawTx ela node collector text signature).1 =
            collector.add (strip0x text) signature arbiter := by
  unfold receivedFailedWithdrawTx
  dsimp only
  split_ifs
  · exact .inl rfl
  · exact .inl rfl
  · split
    · exact .inl rfl
    next client connected =>
      split
      · exact .inl rfl
      · exact .inl rfl
      · next result receipt stored received =>
          split_ifs with failed refunded
          · exact .inl rfl
          · exact .inr (.inl rfl)
          · split
            · exact .inl rfl
            next arbiters total listed =>
              split_ifs
              · exact .inl rfl
              · split
                · exact .inl rfl
                next arbiter found =>
                  exact .inr (.inr ⟨arbiters, total, arbiter,
                    ⟨client, result, connected, stored, not_not.1 refunded⟩, listed, found, rfl⟩)

theorem Collected.received (collected : Collected ela collector)
    (node : Surroundings) (hash signature : Bytes) :
    Collected ela (receivedFailedWithdrawTx ela node collector hash signature).1 := by
  rcases @receivedFailedWithdrawTx_cases ela node collector hash signature with same | removed |
    ⟨arbiters, total, arbiter, -, -, found, added⟩
  · rwa [same]
  · rw [removed]
    exact collected.onProcessFaildWithdrawTx ela _
  · rw [added]
    obtain ⟨-, fresh, signs⟩ := verifySignature_eq_some ela found
    exact collected.add ela fresh signs

theorem collected_step (collector : Collector) (event : CollectorEvent)
    (collected : Collected ela collector) : Collected ela (collectorStep ela collector event) := by
  cases event with
  | received node hash signature => exact collected.received ela node hash signature
  | processed hash => exact collected.onProcessFaildWithdrawTx ela hash

theorem collected_run (events : List CollectorEvent) :
    Collected ela (EventRuns.run (collectorStep ela) Collector.empty events) :=
  EventRuns.run_invariant_of_forall (collected_step ela) events (collected_empty ela)

/-! ## What authorises a refund -/

theorem countVerified_iff {threshold : Nat} {txid : Bytes} {count : Nat}
    {signatures : List Bytes} (below : count < threshold) :
    countVerified ela threshold arbiters txid count signatures = true ↔ threshold ≤ count +
        signatures.countP (signatureVerifies ela arbiters txid) := by
  rw [← ThresholdCount.reaches_iff below]
  induction signatures generalizing count with
  | nil => rfl
  | cons signature rest inductionHypothesis =>
    by_cases passing : signatureVerifies ela arbiters txid signature = true
    · by_cases last : count + 1 ≥ threshold
      · simp [countVerified, ThresholdCount.reaches, passing, last]
      simp only [countVerified, ThresholdCount.reaches, passing, last, ↓reduceIte]
      exact inductionHypothesis (by omega)
    · have open_ : ¬count ≥ threshold := by omega
      simp only [countVerified, ThresholdCount.reaches, passing,
        open_, Bool.false_eq_true, ↓reduceIte]
      exact inductionHypothesis below

theorem signatureVerifies_bytes2Hex {id entry : Bytes} :
    signatureVerifies ela arbiters (bytes2Hex id) (bytes2Hex entry) = true ↔
      ∃ arbiter ∈ arbiters, Signs ela id arbiter entry := by
  simp [signatureVerifies, Spv.signedByAny_iff, Signs]

def entrySigners (arbiters : List Bytes) (input : Bytes) : Finset Bytes :=
  ThresholdCount.activeOwners arbiters.toFinset
    (Signs ela (input.take 32)) (entries (input.drop 32))

def signedEntries (arbiters : List Bytes) (input : Bytes) : Nat :=
  (entries (input.drop 32)).countP
    (ThresholdCount.owned arbiters.toFinset (Signs ela (input.take 32)))

theorem countP_signatureVerifies (arbiters : List Bytes) (input : Bytes) :
    ((entries (input.drop 32)).map bytes2Hex).countP
        (signatureVerifies ela arbiters (bytes2Hex (input.take 32))) =
      signedEntries ela arbiters input := by
  rw [List.countP_map, signedEntries]
  congr 1
  funext entry
  rw [Bool.eq_iff_iff, Function.comp_apply, signatureVerifies_bytes2Hex]
  simp [ThresholdCount.owned]

theorem hashString_drop_two {input : Bytes} (long : 32 < input.length) :
    (hashString (bytesToHash (input.take 32))).drop 2 = bytes2Hex (input.take 32) := by
  have width : (input.take 32).length = 32 := by
    rw [List.length_take]
    omega
  simp [hashString, hexutilEncode, hexPrefix, toList_bytesToHash width]

theorem verifySignatures_eq_true {node : Surroundings} {input : Bytes}
    (authorised : verifySignatures ela node collector input = true) :
    ∃ arbiters total, node.arbiters = .ok (arbiters, total) ∧
        (Spv.getMaxArbitersSign total ≤
            (collector.verifiedArbiter (bytes2Hex (input.take 32))).length ∨
          Spv.getMaxArbitersSign total ≤ signedEntries ela arbiters input) := by
  unfold verifySignatures at authorised
  cases connected : node.client with
  | none => simp [connected] at authorised
  | some client =>
    simp only [connected] at authorised
    by_cases short : input.length ≤ 32
    · simp [short] at authorised
    rw [if_neg short, hashString_drop_two (not_le.mp short)] at authorised
    split at authorised
    · cases authorised
    split at authorised
    · cases authorised
    split at authorised
    · cases authorised
    next arbiters total listed =>
      refine ⟨arbiters, total, listed, ?_⟩
      split_ifs at authorised with _ _ cached
      · exact .inl cached
      · right
        rw [countVerified_iff ela (Spv.getMaxArbitersSign_pos total),
          countP_signatureVerifies] at authorised
        omega

/--
An input carries valid signatures over its first 32 bytes from at least the
threshold of different current arbiters.
-/
def InputAuthorised (node : Surroundings) (input : Bytes) : Prop :=
  ∃ arbiters total, node.arbiters = .ok (arbiters, total) ∧ Spv.getMaxArbitersSign total ≤
        (entrySigners ela arbiters input).card

/--
The node's collector counted at least the threshold of different arbiters for
the id of the input, each with a received signature that verifies over it.
-/
def CollectorAuthorised (collector : Collector) (total : Nat) (input : Bytes) : Prop :=
  ∃ counted : Finset Bytes, Spv.getMaxArbitersSign total ≤ counted.card ∧ ∀ arbiter ∈ counted,
        ∃ signature ∈ collector.failedTxList (bytes2Hex (input.take 32)),
          Signs ela (input.take 32) arbiter (hex2Bytes signature)

theorem Collected.authorised (collected : Collected ela collector) {total : Nat} {input : Bytes}
    (full : Spv.getMaxArbitersSign total ≤
      (collector.verifiedArbiter (bytes2Hex (input.take 32))).length) :
    CollectorAuthorised ela collector total input := by
  refine ⟨(collector.verifiedArbiter (bytes2Hex (input.take 32))).toFinset, ?_, ?_⟩
  · rwa [List.toFinset_card_of_nodup (collected.noDuplicates _)]
  · intro arbiter counted
    simpa using collected.backed _ arbiter (List.mem_toFinset.mp counted)

/--
Refund authorisation, for every input and every content of the maps that a run
can reach: a positive answer means that the node's own collector counted enough
different arbiters for the id, or that enough entries of the input are
signatures of current arbiters over the id.  Entries that no two share an
arbiter come from that many different arbiters.
-/
theorem refundAuthorisation (events : List CollectorEvent) (node : Surroundings) (input : Bytes)
    (authorised : verifySignatures ela node
      (EventRuns.run (collectorStep ela) Collector.empty events) input = true) :
    ∃ arbiters total, node.arbiters = .ok (arbiters, total) ∧
        (CollectorAuthorised ela
            (EventRuns.run (collectorStep ela) Collector.empty events) total input ∨
          Spv.getMaxArbitersSign total ≤ signedEntries ela arbiters input ∧
            (ThresholdCount.OwnedOnce arbiters.toFinset (Signs ela (input.take 32))
                (entries (input.drop 32)) →
              InputAuthorised ela node input)) := by
  obtain ⟨arbiters, total, listed, cached | counted⟩ := verifySignatures_eq_true ela authorised
  · exact ⟨arbiters, total, listed, .inl ((collected_run ela events).authorised ela cached)⟩
  · refine ⟨arbiters, total, listed, .inr ⟨counted, fun once => ?_⟩⟩
    exact ⟨arbiters, total, listed, counted.trans
      (ThresholdCount.countP_le_card_activeOwners _ _ once)⟩

namespace Sample

def node : Surroundings where
  client := some {
    storageAt := fun _ => .ok []
    transactionReceipt := fun _ => .ok ⟨1, []⟩
    transactionByHash := fun _ => .ok none
  }
  spvService := none
  pbftEngine := some {
    currentBlockNonce := 0
    blockNonceByHeight := fun _ => none
    configProducers := [bytes2Hex [1]]
  }

def id : Bytes :=
  List.replicate 32 7

def events : List CollectorEvent :=
  [.received node (bytes2Hex id) (bytes2Hex (1 :: id))]

def input : Bytes :=
  id ++ List.replicate 64 0

/-- The keys of three arbiters. -/
def threeKeys : List Bytes :=
  [1, 2, 3].map (List.replicate 32)

def threeArbiters : Surroundings :=
  { node with pbftEngine := some ⟨0, fun _ => none, threeKeys.map bytes2Hex⟩ }

/-- An input with a signature of each of them. -/
def signedInput : Bytes :=
  id ++ threeKeys.flatMap (· ++ id)

end Sample

open Sample

/-- The signatures of three arbiters are counted; the collector is empty. -/
theorem refundAuthorisation_sample :
    ∃ arbiters total, threeArbiters.arbiters = .ok (arbiters, total) ∧
        (CollectorAuthorised (plainLibrary []) Collector.empty total signedInput ∨
          Spv.getMaxArbitersSign total ≤ signedEntries (plainLibrary []) arbiters signedInput ∧
            (ThresholdCount.OwnedOnce arbiters.toFinset
                (Signs (plainLibrary []) (signedInput.take 32)) (entries (signedInput.drop 32)) →
              InputAuthorised (plainLibrary []) threeArbiters signedInput)) :=
  refundAuthorisation (plainLibrary []) [] threeArbiters signedInput (by decide +kernel)

/--
Once the collector is full, an input that carries no signature at all is
authorised.
-/
theorem verifySignatures_accepts_unsigned_input :
    verifySignatures (plainLibrary []) node
        (EventRuns.run (collectorStep (plainLibrary [])) Collector.empty events) input = true ∧
      ¬InputAuthorised (plainLibrary []) node
        input := by
  refine ⟨by decide +kernel, ?_⟩
  rintro ⟨arbiters, total, listed, enough⟩
  have seated : node.arbiters = .ok ([bytes2Hex [1]], 1) := by decide +kernel
  cases seated.symm.trans listed
  revert enough
  decide +kernel

end EscSideChain.WithdrawFailedTx
