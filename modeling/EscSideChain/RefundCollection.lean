import EscSideChain.WithdrawRefund

namespace EscSideChain.WithdrawFailedTx

open Dpos

/-!
# The refund transaction of a full collection

The input that `getTxData` makes of the signatures that `ReceivedFailedWithdrawTx`
collected for an id.  The two maps of the collector grow together, so the collected
signatures are as many as the arbiters counted and each is valid for the arbiter at its
place.
-/

variable (ela : ElaLibrary)

def getFailedTx (collector : Collector) (txid : Bytes) : Except String (List Bytes) :=
  let stripped := strip0x txid
  if txid.length < 2 then .error "runtime error: slice bounds out of range"
  else if 0 < (collector.failedTxList stripped).length then .ok (collector.failedTxList stripped)
  else .error ("not have tx:" ++ asciiText stripped)

/-- `getTxData`: the id followed by the collected signatures. -/
def getTxData (collector : Collector) (txid : Hash) : Except String Bytes :=
  match getFailedTx collector (hashString txid) with
  | .error reason => .error reason
  | .ok signatures => .ok (txid.toList ++ (signatures.map hex2Bytes).flatten)

/--
The signatures and the arbiters of an id: as many of the one as of the other,
no arbiter twice, and each signature valid for the arbiter at its place.
-/
structure Consistent (hash : Bytes) (signatures arbiters : List Bytes) : Prop where
  sameLength : signatures.length = arbiters.length
  distinctTexts : arbiters.Nodup
  distinctKeys : (arbiters.map hex2Bytes).Nodup
  valid : ∀ (index : Nat) signature arbiter, signatures[index]? = some signature →
    arbiters[index]? = some arbiter → Signs ela (hex2Bytes hash) arbiter (hex2Bytes signature)

/-! ## The two maps grow together -/

structure Counted (arbiters : List Bytes) (txid signature arbiter : Bytes) : Prop where
  current : arbiter ∈ arbiters
  signs : Signs ela (hex2Bytes txid) arbiter (hex2Bytes signature)

def Paired (arbiters : List Bytes) (collector : Collector) : Prop :=
  ∀ txid, List.Forall₂ (Counted ela arbiters txid)
    (collector.failedTxList txid) (collector.verifiedArbiter txid)

variable {ela} {arbiters : List Bytes} {collector : Collector}

theorem Paired.onProcessFaildWithdrawTx (paired : Paired ela arbiters collector) (hash : Bytes) :
    Paired ela arbiters (collector.onProcessFaildWithdrawTx hash) := by
  unfold Collector.onProcessFaildWithdrawTx
  dsimp only
  split_ifs
  · exact paired
  · intro txid
    by_cases same : txid = strip0x hash
    · simp [Collector.delete, same]
    · simpa [Collector.delete, same] using paired txid
  · exact paired

theorem Paired.add {hash signature arbiter : Bytes} (paired : Paired ela arbiters collector)
    (counted : Counted ela arbiters hash signature arbiter) :
    Paired ela arbiters (collector.add hash signature arbiter) := by
  intro txid
  by_cases same : txid = hash
  · subst same
    simp only [Collector.add, Function.update_self]
    exact List.rel_append (paired txid) (.cons counted .nil)
  · simpa [Collector.add, same] using paired txid

/-- The arbiters that a call of the collector is answered with, if any. -/
def SeesArbiters (arbiters : List Bytes) (total : Nat) : CollectorEvent → Prop
  | .received node _ _ => ∀ answer, node.arbiters = .ok answer → answer = (arbiters, total)
  | .processed _ => True

theorem Paired.step {total : Nat} {event : CollectorEvent}
    (sees : SeesArbiters arbiters total event) (paired : Paired ela arbiters collector) :
    Paired ela arbiters (collectorStep ela collector event) := by
  cases event with
  | processed hash => exact paired.onProcessFaildWithdrawTx hash
  | received node hash signature =>
    rcases @receivedFailedWithdrawTx_cases ela node collector hash signature with same | removed |
      ⟨listed, seats, arbiter, -, answered, found, added⟩
    · rwa [collectorStep, same]
    · rw [collectorStep, removed]
      exact paired.onProcessFaildWithdrawTx _
    · obtain ⟨member, -, signs⟩ := verifySignature_eq_some ela found
      cases sees _ answered
      rw [collectorStep, added]
      exact paired.add ⟨member, signs⟩

theorem paired_run {total : Nat} {events : List CollectorEvent}
    (sees : ∀ event ∈ events, SeesArbiters arbiters total event) :
    Paired ela arbiters (EventRuns.run (collectorStep ela) Collector.empty events) :=
  EventRuns.run_invariant_of_mem (fun _ event member paired => paired.step (sees event member))
    (fun _ => .nil)

theorem Paired.consistent {hash : Bytes} (distinctKeys : (arbiters.map hex2Bytes).Nodup)
    (collected : Collected ela collector) (paired : Paired ela arbiters collector) :
    Consistent ela hash (collector.failedTxList hash) (collector.verifiedArbiter hash) where
  sameLength := (paired hash).length_eq
  distinctTexts := collected.noDuplicates hash
  distinctKeys := by
    have current : ∀ arbiter ∈ collector.verifiedArbiter hash, arbiter ∈ arbiters := by
      intro arbiter member
      obtain ⟨index, bound, rfl⟩ := List.getElem_of_mem member
      exact ((paired hash).get ((paired hash).length_eq ▸ bound) bound).current
    refine List.Nodup.map_on ?_ (collected.noDuplicates hash)
    intro first firstMember second secondMember sameKey
    exact List.inj_on_of_nodup_map distinctKeys
      (current first firstMember) (current second secondMember) sameKey
  valid index signature arbiter signatureAt arbiterAt := by
    obtain ⟨signatureBound, rfl⟩ := List.getElem?_eq_some_iff.1 signatureAt
    obtain ⟨arbiterBound, rfl⟩ := List.getElem?_eq_some_iff.1 arbiterAt
    exact ((paired hash).get signatureBound arbiterBound).signs

/-! ## The entries are read back -/

theorem entries_append {first rest : Bytes} (width : first.length = 64) :
    entries (first ++ rest) = first :: entries rest := by
  have count : (first ++ rest).length / 64 = rest.length / 64 + 1 := by
    rw [List.length_append, width]
    omega
  rw [entries, count, List.range_succ_eq_map, List.map_cons, List.map_map, entries]
  congr 1
  · simp [width]
  · refine List.map_congr_left fun index _ => ?_
    have start : (index + 1) * 64 = first.length + index * 64 := by omega
    simp only [Function.comp_apply, Nat.succ_eq_add_one, start,
      List.drop_append, List.drop_eq_nil_of_le (Nat.le_add_right _ _),
      List.nil_append, Nat.add_sub_cancel_left]

theorem entries_flatten {blocks : List Bytes} (width : ∀ block ∈ blocks, block.length = 64) :
    entries blocks.flatten = blocks := by
  induction blocks with
  | nil => rfl
  | cons block rest inductionHypothesis =>
    rw [List.flatten_cons, entries_append (width block (by simp)),
      inductionHypothesis fun other member =>
        width other (by simp [member])]

theorem length_flatten_of_width {blocks : List Bytes}
    (width : ∀ block ∈ blocks, block.length = 64) : blocks.flatten.length = 64 * blocks.length := by
  induction blocks with
  | nil => rfl
  | cons block rest inductionHypothesis =>
    rw [List.flatten_cons, List.length_append, width block (by simp),
      inductionHypothesis fun other member =>
        width other (by simp [member]), List.length_cons]
    omega

theorem verifySignatures_of_signedEntries {node : Surroundings} {total : Nat} {input : Bytes}
    (long : 32 < input.length) (whole : (input.drop 32).length % 64 = 0)
    (notRefunded : NotRefunded node (bytesToHash (input.take 32)))
    (listed : node.arbiters = .ok (arbiters, total))
    (enough : Spv.getMaxArbitersSign total ≤ signedEntries ela arbiters input) :
    verifySignatures ela node collector input = true := by
  obtain ⟨client, result, connected, stored, unset⟩ := notRefunded
  have positive := Spv.getMaxArbitersSign_pos total
  have some_ : ¬(entries (input.drop 32)).length ≤ 0 := by
    have bound : signedEntries ela arbiters input ≤ (entries (input.drop 32)).length :=
      List.countP_le_length
    omega
  unfold verifySignatures
  simp only [connected, stored, listed, unset, whole, List.length_map,
    hashString_drop_two long, Nat.not_le.2 long, some_, ne_eq, not_true_eq_false, if_false]
  split_ifs
  · rfl
  · rw [countVerified_iff ela positive, countP_signatureVerifies]
    omega

/-! ## Sufficiency -/

theorem getTxData_eq_ok {id : Bytes} (size : id.length = 32)
    (some_ : 0 < (collector.failedTxList (bytes2Hex id)).length) :
    getTxData collector (bytesToHash id) =
      .ok (id ++ ((collector.failedTxList (bytes2Hex id)).map hex2Bytes).flatten) := by
  have key : strip0x (hashString (bytesToHash id)) = bytes2Hex id := by
    simp [hashString, hexutilEncode, strip0x, hexPrefix, toList_bytesToHash size]
  have long : ¬(hashString (bytesToHash id)).length < 2 := by
    simp [hashString, hexutilEncode, hexPrefix]
  simp only [getTxData, getFailedTx, key, long, some_, if_true, if_false, toList_bytesToHash size]

section

variable (fixedLength : FixedSignatureLength ela) (paired : Paired ela arbiters collector)
  {id : Bytes} (size : id.length = 32)

include fixedLength paired size

theorem Paired.signedEntries_input :
    let signatures := collector.failedTxList (bytes2Hex id)
    let input := id ++ (signatures.map hex2Bytes).flatten
    (input.drop 32).length = 64 * signatures.length ∧
      signedEntries ela arbiters input = signatures.length := by
  intro signatures input
  have taken : input.take 32 = id := List.take_left' size
  have dropped : input.drop 32 = (signatures.map hex2Bytes).flatten := List.drop_left' size
  have signed : ∀ entry ∈ signatures.map hex2Bytes,
      ∃ arbiter ∈ arbiters, Signs ela id arbiter entry := by
    intro entry member
    obtain ⟨signature, collected, rfl⟩ := List.mem_map.1 member
    obtain ⟨index, bound, rfl⟩ := List.getElem_of_mem collected
    have together := paired (bytes2Hex id)
    have counted := together.get bound (together.length_eq ▸ bound)
    refine ⟨_, counted.current, ?_⟩
    simpa using counted.signs
  have width : ∀ entry ∈ signatures.map hex2Bytes, entry.length = 64 := by
    intro entry member
    obtain ⟨-, -, publicKey, -, verified⟩ := signed entry member
    exact fixedLength publicKey id entry verified
  rw [signedEntries, taken, dropped, entries_flatten width,
    length_flatten_of_width width, List.length_map]
  refine ⟨rfl, ?_⟩
  rw [List.countP_eq_length.2, List.length_map]
  intro entry member
  obtain ⟨arbiter, current, signs⟩ := signed entry member
  simp only [ThresholdCount.owned, decide_eq_true_eq]
  exact ⟨arbiter, List.mem_toFinset.2 current, signs⟩

theorem Paired.sufficient {total : Nat}
    (full : Spv.getMaxArbitersSign total ≤ (collector.verifiedArbiter (bytes2Hex id)).length) :
    ∃ input, getTxData collector (bytesToHash id) = .ok input ∧ ∀ node : Surroundings,
        node.arbiters = .ok (arbiters, total) → NotRefunded node (bytesToHash id) →
          verifySignatures ela node Collector.empty input = true := by
  have positive := Spv.getMaxArbitersSign_pos total
  rw [← (paired (bytes2Hex id)).length_eq] at full
  refine ⟨_, getTxData_eq_ok size (by omega), ?_⟩
  intro node listed notRefunded
  obtain ⟨length, counted⟩ := paired.signedEntries_input fixedLength size
  apply verifySignatures_of_signedEntries _ _ _ listed
  · rw [counted]
    exact full
  · have dropped := length
    rw [List.length_drop] at dropped
    omega
  · rw [length]
    exact Nat.mul_mod_right 64 _
  · rwa [List.take_left' size]

end

theorem notRefunded_of_grows {node : Surroundings} {text signature hash : Bytes}
    (grows : (collector.verifiedArbiter hash).length <
      ((receivedFailedWithdrawTx ela node collector text
        signature).1.verifiedArbiter hash).length) :
    hash = strip0x text ∧ NotRefunded node (hexToHash hash) := by
  rcases @receivedFailedWithdrawTx_cases ela node collector text signature with same | removed |
    ⟨listed, seats, arbiter, notRefunded, -, -, added⟩
  · rw [same] at grows
    omega
  · rw [removed] at grows
    unfold Collector.onProcessFaildWithdrawTx at grows
    dsimp only at grows
    split_ifs at grows
    · omega
    · by_cases same : hash = strip0x (strip0x text)
      · simp [Collector.delete, same] at grows
      · simp [Collector.delete, same] at grows
    · omega
  · rw [added] at grows
    by_cases same : hash = strip0x text
    · rw [same]
      exact ⟨rfl, notRefunded⟩
    · simp [Collector.add, same] at grows

/--
Refund collection with fixed arbiters.  For every id the signatures and the
arbiters are consistent.  Once the threshold is reached, `getTxData` makes an
input that `VerifySignatures` accepts with empty caches on every node that sees
the same arbiters and no refund yet, as the node does whose call reached it.
-/
theorem refundCollection (ela : ElaLibrary) (arbiters : List Bytes) (total : Nat)
    (events : List CollectorEvent) (fixedLength : FixedSignatureLength ela)
    (distinctKeys : (arbiters.map hex2Bytes).Nodup)
    (sees : ∀ event ∈ events, SeesArbiters arbiters total event) :
    let collector := EventRuns.run (collectorStep ela) Collector.empty events
    let threshold := Spv.getMaxArbitersSign total
    ∀ hash, IsLowerHash hash → Consistent ela hash (collector.failedTxList hash)
          (collector.verifiedArbiter hash) ∧
        (threshold ≤ (collector.verifiedArbiter hash).length →
          ∃ input, getTxData collector (hexToHash hash) = .ok input ∧ ∀ node : Surroundings,
              node.arbiters = .ok (arbiters, total) → NotRefunded node (hexToHash hash) →
                verifySignatures ela node Collector.empty input = true) ∧
        ∀ node text signature,
          let after := (receivedFailedWithdrawTx ela node collector text signature).1
          node.arbiters = .ok (arbiters, total) →
          (collector.verifiedArbiter hash).length < threshold →
          threshold ≤ (after.verifiedArbiter hash).length →
            ∃ input, getTxData after (hexToHash hash) = .ok input ∧
              verifySignatures ela node Collector.empty input = true := by
  intro collector threshold hash isHash
  have paired : Paired ela arbiters collector := paired_run sees
  obtain ⟨id, size, rfl, sameHash⟩ := isHash.exists_bytes
  rw [sameHash]
  refine ⟨paired.consistent distinctKeys (collected_run ela events),
    paired.sufficient fixedLength size, ?_⟩
  intro node text signature after listed below reached
  have sameAnswer : SeesArbiters arbiters total (.received node text signature) := by
    intro answer answered
    exact Except.ok.inj (answered.symm.trans listed)
  have pairedAfter : Paired ela arbiters after := paired.step sameAnswer
  obtain ⟨input, made, accepted⟩ := pairedAfter.sufficient fixedLength size reached
  obtain ⟨-, notRefunded⟩ := notRefunded_of_grows (Nat.lt_of_lt_of_le below reached)
  rw [sameHash] at notRefunded
  exact ⟨input, made, accepted node listed notRefunded⟩

namespace Sample

def pairKeys : List Bytes :=
  [List.replicate 32 1, List.replicate 32 2]

def pairNode : Surroundings :=
  { node with
    pbftEngine := some {
      currentBlockNonce := 0
      blockNonceByHeight := fun _ => none
      configProducers := pairKeys.map bytes2Hex
    } }

/-- Both producers sign the id; one signature comes with the prefixed id. -/
def pairEvents : List CollectorEvent :=
  [.received pairNode (bytes2Hex id) (bytes2Hex (List.replicate 32 2 ++ id)),
    .received pairNode (hexutilEncode id) (bytes2Hex (List.replicate 32 1 ++ id))]

theorem sees_pairEvents : ∀ event ∈ pairEvents, SeesArbiters (pairKeys.map bytes2Hex) 2 event := by
  have listed : pairNode.arbiters = .ok (pairKeys.map bytes2Hex, 2) := by rfl
  intro event member
  simp only [pairEvents, List.mem_cons, List.not_mem_nil, or_false] at member
  rcases member with rfl | rfl <;>
    exact fun answer answered =>
      Except.ok.inj (answered.symm.trans listed)

end Sample

open Sample

/-- The two signatures make an input that a fresh node accepts. -/
theorem refundCollection_two_signatures :
    ∃ input, getTxData (EventRuns.run (collectorStep fixedLibrary) Collector.empty pairEvents)
        (hexToHash (bytes2Hex id)) = .ok input ∧
      verifySignatures fixedLibrary pairNode Collector.empty input = true := by
  have isHash : IsLowerHash (bytes2Hex id) := isLowerHash_bytes2Hex (by decide)
  obtain ⟨input, made, accepted⟩ :=
    (refundCollection fixedLibrary (pairKeys.map bytes2Hex) 2 pairEvents
      fixedLibrary_fixedSignatureLength (by decide +kernel)
      sees_pairEvents (bytes2Hex id) isHash).2.1 (by decide +kernel)
  exact ⟨input, made, accepted pairNode rfl ⟨_, [], rfl, rfl, by decide⟩⟩

end EscSideChain.WithdrawFailedTx
