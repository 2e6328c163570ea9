import EscSideChain.BridgeArbiters
import EscSideChain.DArbiterCodec
import EscSideChain.EventRuns

namespace EscSideChain.Aribiters

open Dpos DposMsg Spv

/-!
# The signatures of the bridge

The handlers of `chainbridge-core/chainbridge.go` that fill the arbiter manager.  A feedback
is accepted for the producer that it names if some key can be recovered from its signature;
which key that is and who sent it are not looked at, and the list that was signed may grow
until it is saved.
-/

/-- `FeedBackArbitersSignature`, and the peer that it came from. -/
structure Feedback where
  sender : Bytes
  producer : Bytes
  signature : Bytes
  deriving DecidableEq

/-- What the handlers read beside the manager and the message; the salt does not change. -/
structure Node (PublicKey Digest Point : Type) where
  crypto : Crypto PublicKey Digest
  wire : Wire
  producer : Bytes
  nextTurnArbiters : List Bytes
  decodePoint : Bytes → Option Point
  verify : Point → Bytes → Bytes → Bool
  decryptArbiter : Bytes → Option Bytes
  hashSalt : Nat
  ecrecover : Digest → Bytes → Option PublicKey

namespace ArbiterManager

variable (a : ArbiterManager)

def addArbiter (pid arbiter : Bytes) : Option ArbiterManager :=
  if 0 < ((a.arbiters.lookup pid).getD []).length then none
  else some { a with arbiters := a.arbiters.insert pid arbiter }

def addCurrentArbiter (arbiter : Bytes) : Option ArbiterManager :=
  if arbiter ∈ a.consensusArbiters then none
  else some { a with consensusArbiters := sortKeys (a.consensusArbiters ++ [arbiter]) }

def addSignature (pid signature : Bytes) : Option ArbiterManager :=
  if 0 < ((a.signatures.lookup pid).getD []).length then none
  else some { a with signatures := a.signatures.insert pid signature }

end ArbiterManager

/-- `DArbiter.Data`. -/
def data (wire : Wire) (m : DArbiter) : Bytes :=
  (wire.putInt64 m.timestamp.seconds).toList ++ (m.encode.toList ++ (wire.writeVarBytes m.cipher ++
    [if m.isCurrent then 1 else 0]))

namespace Node

variable {PublicKey Digest Point : Type} (node : Node PublicKey Digest Point)

/-- `SigToPub` on the text hash. -/
def sigToPub (hash : Digest) (signature : Bytes) : Option PublicKey :=
  if signature.length = 65 ∧ signature[64]?.getD 0 < 4 then node.ecrecover hash signature else none

/-- `hanleDArbiter`, if it returns true. -/
def hanleDArbiter (isProducer : Bytes → Bool) (a : ArbiterManager) (m : DArbiter) :
    Option ArbiterManager := do
  guard (node.producer = m.encode.toList)
  let pubKey ← node.decodePoint m.pid.toList
  guard (isProducer m.pid.toList ∨ m.pid.toList ∈ node.nextTurnArbiters)
  guard (node.verify pubKey (data node.wire m) m.signature)
  let signerPublicKey ← node.decryptArbiter m.cipher
  if m.isCurrent then a.addCurrentArbiter signerPublicKey
  else a.addArbiter m.pid.toList signerPublicKey

/-- `handleFeedBackArbitersSig`, if it adds the signature; `GetHashSalt` may fail. -/
def handleFeedBackArbitersSig (isProducer : Bytes → Bool) (salted : Bool) (order : IterationOrder)
    (a : ArbiterManager) (m : Feedback) : Option ArbiterManager := do
  guard (isProducer m.producer)
  guard salted
  let hash ← (a.hashArbiterList node.crypto order node.hashSalt).toOption
  -- the key that is recovered is dropped
  let _ ← node.sigToPub hash m.signature
  a.addSignature (pidOf m.producer) m.signature

/-- A signature with the key over the list of the manager. -/
def Signs (a : ArbiterManager) (key : PublicKey) (signature : Bytes) : Prop :=
  ∃ hash, a.hashArbiterList node.crypto .stored node.hashSalt = .ok hash ∧
    node.sigToPub hash signature = some key

/-- The checks of `hanleDArbiter` on a message. -/
structure Admits (isProducer : Bytes → Bool) (m : DArbiter) : Prop where
  addressed : node.producer = m.encode.toList
  verified : ∃ pubKey, node.decodePoint m.pid.toList = some pubKey ∧
    node.verify pubKey (data node.wire m) m.signature = true
  known : isProducer m.pid.toList ∨ m.pid.toList ∈ node.nextTurnArbiters
  decrypted : ∃ signer, node.decryptArbiter m.cipher = some signer

/-- A message that adds an arbiter to the list of the next turn. -/
structure GrowsList (isProducer : Bytes → Bool) (a : ArbiterManager) (m : DArbiter) : Prop
    extends node.Admits isProducer m where
  isNext : m.isCurrent = false
  isFree : ¬0 < ((a.arbiters.lookup m.pid.toList).getD []).length

end Node

/-- The manager after a save, and the feedback that was accepted until then. -/
structure Saved where
  manager : ArbiterManager
  accepted : List Feedback

/-- The manager, and for the record the feedback that it accepted, the peer that filled each
slot and the saves. -/
structure Bridge where
  manager : ArbiterManager
  accepted : List Feedback
  fillers : GoMap Bytes Bytes
  saves : List Saved

namespace Bridge

def start (manager : ArbiterManager) : Bridge where
  manager := manager
  accepted := []
  fillers := ∅
  saves := []

def save (bridge : Bridge) (order signatureOrder : IterationOrder) : Bridge :=
  { bridge with
    manager := bridge.manager.saveToCollection order signatureOrder
    saves := bridge.saves ++
      [⟨bridge.manager.saveToCollection order signatureOrder, bridge.accepted⟩] }

end Bridge

/-- The events, with what the handlers find when they arrive; `save` is one of the timers. -/
inductive Event where
  | dArbiter (isProducer : Bytes → Bool) (requireArbitersCount : Nat)
      (order signatureOrder : IterationOrder) (m : DArbiter)
  | feedBackArbiterSig (isProducer : Bytes → Bool) (salted : Bool) (order : IterationOrder)
      (m : Feedback)
  | save (order signatureOrder : IterationOrder)

variable {PublicKey Digest Point : Type}

def step (node : Node PublicKey Digest Point) (bridge : Bridge) : Event → Bridge
  | .dArbiter isProducer requireArbitersCount order signatureOrder m =>
    match node.hanleDArbiter isProducer bridge.manager m with
    | none => bridge
    | some manager =>
      if (manager.getArbiterList order).length = requireArbitersCount ∧
          manager.consensusArbiters.length ≤ 1 then
        { bridge with manager }.save order signatureOrder
      else { bridge with manager }
  | .feedBackArbiterSig isProducer salted order m =>
    match node.handleFeedBackArbitersSig isProducer salted order bridge.manager m with
    | none => bridge
    | some manager =>
      { bridge with
        manager
        accepted := bridge.accepted ++ [m]
        fillers := bridge.fillers.insert (pidOf m.producer) m.sender }
  | .save order signatureOrder => bridge.save order signatureOrder

/-! ## Slots and accepted feedback -/

section Saved

variable {order signatureOrder : IterationOrder} {a : ArbiterManager}

theorem lookup_foldl_insert {entries : List (Bytes × Bytes)} (once : (entries.map Prod.fst).Nodup)
    (saved : GoMap Bytes Bytes) (pid signature : Bytes) :
    (entries.foldl (fun saved entry => saved.insert entry.1 entry.2) saved).lookup pid =
        some signature ↔
      (pid, signature) ∈ entries ∨ pid ∉ entries.map Prod.fst ∧ saved.lookup pid = some signature := by
  induction entries generalizing saved with
  | nil => simp
  | cons entry rest inductionHypothesis =>
    obtain ⟨key, value⟩ := entry
    rw [List.map_cons, List.nodup_cons] at once
    rw [List.foldl_cons, inductionHypothesis once.2]
    by_cases isKey : pid = key
    · subst isKey
      have notRest : (pid, signature) ∉ rest := fun member =>
        once.1 (List.mem_map.2 ⟨_, member, rfl⟩)
      simp [notRest, once.1, eq_comm]
    · simp [isKey, AList.lookup_insert_ne]

theorem lookup_saved (pid signature : Bytes) :
    (a.saveToCollection order signatureOrder).collectionBox.signatures.lookup pid = some signature ↔
      a.signatures.lookup pid = some signature := by
  refine (lookup_foldl_insert GoMap.nodup_keys_iterate _ _ _).trans ?_
  simp [GoMap.mem_iterate]

end Saved

/-- The map holds exactly what the accepted feedback put into its slots. -/
def Holds (slots : GoMap Bytes Bytes) (accepted : List Feedback) (part : Feedback → Bytes) : Prop :=
  ∀ pid value, slots.lookup pid = some value ↔
    ∃ m ∈ accepted, pidOf m.producer = pid ∧ part m = value

theorem Holds.insert {slots : GoMap Bytes Bytes} {accepted : List Feedback}
    {part : Feedback → Bytes} (holds : Holds slots accepted part) {m : Feedback}
    (isNew : ∀ other ∈ accepted, pidOf other.producer ≠ pidOf m.producer) :
    Holds (slots.insert (pidOf m.producer) (part m)) (accepted ++ [m]) part := by
  intro pid value
  by_cases isSlot : pid = pidOf m.producer
  · subst isSlot
    rw [AList.lookup_insert]
    constructor
    · intro same
      exact ⟨m, by simp, rfl, Option.some.inj same⟩
    · rintro ⟨other, member, samePid, rfl⟩
      rcases List.mem_append.1 member with isOld | isLast
      · exact absurd samePid (isNew other isOld)
      · rw [List.mem_singleton.1 isLast]
  · rw [AList.lookup_insert_ne isSlot, holds pid value]
    constructor
    · rintro ⟨other, member, found⟩
      exact ⟨other, List.mem_append_left _ member, found⟩
    · rintro ⟨other, member, samePid, same⟩
      rcases List.mem_append.1 member with isOld | isLast
      · exact ⟨other, isOld, samePid, same⟩
      · rw [List.mem_singleton.1 isLast] at samePid
        exact absurd samePid.symm isSlot

/-- The slots, the record of who filled them and the saves agree with the accepted feedback. -/
structure Recorded (bridge : Bridge) : Prop where
  slots : Holds bridge.manager.signatures bridge.accepted Feedback.signature
  fillers : Holds bridge.fillers bridge.accepted Feedback.sender
  nonempty : ∀ m ∈ bridge.accepted, m.signature ≠ []
  saves : ∀ save ∈ bridge.saves,
    Holds save.manager.collectionBox.signatures save.accepted Feedback.signature

section Steps

variable {node : Node PublicKey Digest Point} {bridge : Bridge} {manager : ArbiterManager}

theorem Recorded.save (recorded : Recorded bridge) (order signatureOrder : IterationOrder) :
    Recorded (bridge.save order signatureOrder) := by
  refine ⟨recorded.slots, recorded.fillers, recorded.nonempty, fun save member => ?_⟩
  rcases List.mem_append.1 member with isOld | isLast
  · exact recorded.saves save isOld
  · rw [List.mem_singleton.1 isLast]
    exact fun pid signature => (lookup_saved pid signature).trans (recorded.slots pid signature)

/--
What an announced arbiter changes: not the signatures, and the list that is hashed only if the
message is admissible, is not about the current arbiters and fills an empty slot.
-/
theorem hanleDArbiter_some {isProducer : Bytes → Bool} {a : ArbiterManager} {m : DArbiter}
    (isAdded : node.hanleDArbiter isProducer a m = some manager) :
    manager.signatures = a.signatures ∧
      (¬node.GrowsList isProducer a m →
        manager.arbiters = a.arbiters ∧ manager.nextTotalCount = a.nextTotalCount) := by
  simp only [Node.hanleDArbiter, Option.bind_eq_bind, Option.bind_eq_some_iff,
    Option.guard_eq_some'] at isAdded
  obtain ⟨-, addressed, pubKey, decoded, -, known, -, verified, signer, decrypted, added⟩ := isAdded
  unfold ArbiterManager.addCurrentArbiter ArbiterManager.addArbiter at added
  split at added
  · split at added <;> cases added
    exact ⟨rfl, fun _ => ⟨rfl, rfl⟩⟩
  · next notCurrent =>
      split at added <;> cases added
      next isFree =>
        refine ⟨rfl, fun still => absurd ?_ still⟩
        exact ⟨⟨addressed, ⟨pubKey, decoded, verified⟩, known, ⟨signer, decrypted⟩⟩,
          by simpa using notCurrent, isFree⟩

/-- What an accepted feedback has passed, and what it changes. -/
theorem handleFeedBackArbitersSig_some {isProducer : Bytes → Bool} {salted : Bool}
    {order : IterationOrder} {a : ArbiterManager} {m : Feedback}
    (isAdded : node.handleFeedBackArbitersSig isProducer salted order a m = some manager) :
    isProducer m.producer = true ∧
      (∃ hash key, a.hashArbiterList node.crypto order node.hashSalt = .ok hash ∧
        node.sigToPub hash m.signature = some key) ∧
      ((a.signatures.lookup (pidOf m.producer)).getD []).length = 0 ∧
      manager = { a with signatures := a.signatures.insert (pidOf m.producer) m.signature } := by
  simp only [Node.handleFeedBackArbitersSig, Option.bind_eq_bind, Option.bind_eq_some_iff,
    Option.guard_eq_some'] at isAdded
  obtain ⟨-, named, -, -, hash, hashed, key, isKey, added⟩ := isAdded
  have isHash : a.hashArbiterList node.crypto order node.hashSalt = .ok hash := by
    cases computed : a.hashArbiterList node.crypto order node.hashSalt with
    | error reason =>
      rw [computed] at hashed
      cases hashed
    | ok value =>
      rw [computed] at hashed
      cases hashed
      rfl
  unfold ArbiterManager.addSignature at added
  split at added
  · cases added
  next isFree =>
    exact ⟨named, ⟨hash, key, isHash, isKey⟩, Nat.eq_zero_of_not_pos isFree,
      (Option.some.inj added).symm⟩

theorem signature_ne_nil {hash : Digest} {signature : Bytes} {key : PublicKey}
    (recovered : node.sigToPub hash signature = some key) : signature ≠ [] := by
  rintro rfl
  cases recovered

theorem Recorded.step (recorded : Recorded bridge) (event : Event) :
    Recorded (step node bridge event) := by
  cases event with
  | dArbiter isProducer requireArbitersCount order signatureOrder m =>
    simp only [Aribiters.step]
    split
    · exact recorded
    next manager isAdded =>
      have added : Recorded { bridge with manager } :=
        ⟨(hanleDArbiter_some isAdded).1 ▸ recorded.slots, recorded.fillers, recorded.nonempty,
          recorded.saves⟩
      split
      · exact added.save order signatureOrder
      · exact added
  | feedBackArbiterSig isProducer salted order m =>
    simp only [Aribiters.step]
    split
    · exact recorded
    next manager isAdded =>
      obtain ⟨-, ⟨_, _, -, recovered⟩, isFree, rfl⟩ := handleFeedBackArbitersSig_some isAdded
      have nonempty := signature_ne_nil recovered
      have isNew : ∀ other ∈ bridge.accepted, pidOf other.producer ≠ pidOf m.producer := by
        intro other member samePid
        have held := (recorded.slots _ _).2 ⟨other, member, samePid, rfl⟩
        rw [held] at isFree
        exact recorded.nonempty other member (List.length_eq_zero_iff.1 isFree)
      refine ⟨recorded.slots.insert isNew, recorded.fillers.insert isNew, ?_, recorded.saves⟩
      intro other member
      rcases List.mem_append.1 member with isOld | isLast
      · exact recorded.nonempty other isOld
      · rw [List.mem_singleton.1 isLast]
        exact nonempty
  | save order signatureOrder => exact recorded.save order signatureOrder

end Steps

/-! ## Genuine signatures -/

/--
What keeps the slots genuine at one event.  A feedback that names a producer comes from that
producer, and the key that is recovered from it over the list at its arrival is the producer's;
an announced arbiter does not add to the list while signatures are held.
-/
def KeepsGenuine (node : Node PublicKey Digest Point) (bridgeKey : Bytes → PublicKey)
    (bridge : Bridge) : Event → Prop
  | .dArbiter isProducer _ _ _ m =>
    bridge.manager.signatures = ∅ ∨ ¬node.GrowsList isProducer bridge.manager m
  | .feedBackArbiterSig isProducer _ order m =>
    isProducer m.producer = true → m.sender = pidOf m.producer ∧
      ∀ hash key, bridge.manager.hashArbiterList node.crypto order node.hashSalt = .ok hash →
        node.sigToPub hash m.signature = some key → key = bridgeKey (pidOf m.producer)
  | .save _ _ => True

/-- The signatures of a map are those of the producers' keys over the list of the manager. -/
def GenuineOver (node : Node PublicKey Digest Point) (bridgeKey : Bytes → PublicKey)
    (a : ArbiterManager) (signatures : GoMap Bytes Bytes) : Prop :=
  ∀ pid signature, signatures.lookup pid = some signature → node.Signs a (bridgeKey pid) signature

/-- Held and saved signatures are genuine, and every slot was filled by its own producer. -/
structure Genuine (node : Node PublicKey Digest Point) (bridgeKey : Bytes → PublicKey)
    (bridge : Bridge) : Prop where
  held : GenuineOver node bridgeKey bridge.manager bridge.manager.signatures
  saved : ∀ save ∈ bridge.saves,
    GenuineOver node bridgeKey save.manager save.manager.collectionBox.signatures
  own : ∀ pid sender, bridge.fillers.lookup pid = some sender → sender = pid

section Genuine

variable {node : Node PublicKey Digest Point}
variable {bridgeKey : Bytes → PublicKey}
variable {bridge : Bridge}

theorem hashArbiterList_congr {first second : ArbiterManager}
    (sameArbiters : first.arbiters = second.arbiters)
    (sameTotal : first.nextTotalCount = second.nextTotalCount)
    (firstOrder secondOrder : IterationOrder) (salt : Nat) :
    first.hashArbiterList node.crypto firstOrder salt =
      second.hashArbiterList node.crypto secondOrder salt := by
  have sameList : first.getArbiterList firstOrder = second.getArbiterList secondOrder :=
    (sameArbiters ▸ sortedValues_getArbiterList first firstOrder).eq
      (sortedValues_getArbiterList second secondOrder)
  simp only [ArbiterManager.hashArbiterList, ArbiterManager.hashInput, sameList, sameTotal]

theorem GenuineOver.congr {first second : ArbiterManager} {signatures : GoMap Bytes Bytes}
    (genuine : GenuineOver node bridgeKey first signatures)
    (sameArbiters : first.arbiters = second.arbiters)
    (sameTotal : first.nextTotalCount = second.nextTotalCount) :
    GenuineOver node bridgeKey second signatures := by
  intro pid signature found
  obtain ⟨hash, hashed, recovered⟩ := genuine pid signature found
  rw [hashArbiterList_congr sameArbiters sameTotal _ .stored] at hashed
  exact ⟨hash, hashed, recovered⟩

theorem Genuine.save (genuine : Genuine node bridgeKey bridge)
    (order signatureOrder : IterationOrder) :
    Genuine node bridgeKey (bridge.save order signatureOrder) := by
  refine ⟨genuine.held.congr rfl rfl, fun save member => ?_, genuine.own⟩
  rcases List.mem_append.1 member with isOld | isLast
  · exact genuine.saved save isOld
  · rw [List.mem_singleton.1 isLast]
    intro pid signature found
    exact genuine.held.congr rfl rfl pid signature ((lookup_saved pid signature).1 found)

theorem Genuine.step {event : Event} (keeps : KeepsGenuine node bridgeKey bridge event)
    (genuine : Genuine node bridgeKey bridge) :
    Genuine node bridgeKey (step node bridge event) := by
  cases event with
  | dArbiter isProducer requireArbitersCount order signatureOrder m =>
    simp only [Aribiters.step]
    split
    · exact genuine
    next manager isAdded =>
      obtain ⟨sameSignatures, sameList⟩ := hanleDArbiter_some isAdded
      have added : Genuine node bridgeKey { bridge with manager } := by
        refine ⟨?_, genuine.saved, genuine.own⟩
        change GenuineOver node bridgeKey manager manager.signatures
        rw [sameSignatures]
        rcases keeps with noSignatures | still
        · intro pid signature found
          rw [noSignatures] at found
          cases found
        · exact genuine.held.congr (sameList still).1.symm (sameList still).2.symm
      split
      · exact added.save order signatureOrder
      · exact added
  | feedBackArbiterSig isProducer salted order m =>
    simp only [Aribiters.step]
    split
    · exact genuine
    next manager isAdded =>
      obtain ⟨named, ⟨hash, key, hashed, recovered⟩, -, rfl⟩ :=
        handleFeedBackArbitersSig_some isAdded
      obtain ⟨own, isKey⟩ := keeps named
      cases isKey hash key hashed recovered
      refine ⟨?_, genuine.saved, ?_⟩
      · intro pid signature found
        rcases GoMap.lookup_insert_cases found with ⟨rfl, rfl⟩ | before
        · rw [hashArbiterList_congr rfl rfl order .stored] at hashed
          exact ⟨hash, hashed, recovered⟩
        · exact genuine.held pid signature before
      · intro pid sender found
        rcases GoMap.lookup_insert_cases found with ⟨rfl, rfl⟩ | before
        · exact own
        · exact genuine.own pid sender before
  | save order signatureOrder => exact genuine.save order signatureOrder

end Genuine

/--
In every run from a manager without signatures whose events keep the slots genuine: every saved
signature is one with its producer's key over the list that is saved with it, and every slot was
filled by its own producer.
-/
theorem saved_signatures_genuine
    (node : Node PublicKey Digest Point)
    (bridgeKey : Bytes → PublicKey)
    (manager : ArbiterManager)
    (fresh : manager.signatures = ∅)
    (events : List Event)
    (keeps : EventRuns.Along (KeepsGenuine node bridgeKey) (step node) (.start manager) events) :
    (∀ save ∈ (EventRuns.run (step node) (.start manager) events).saves, ∀ pid signature,
        save.manager.collectionBox.signatures.lookup pid = some signature →
        node.Signs save.manager (bridgeKey pid) signature) ∧
      ∀ pid sender, (EventRuns.run (step node) (.start manager) events).fillers.lookup pid =
        some sender → sender = pid := by
  have genuine : Genuine node bridgeKey (EventRuns.run (step node) (.start manager) events) := by
    refine EventRuns.run_invariant (fun _ _ keeps genuine => genuine.step keeps) keeps ?_
    refine ⟨fun pid signature found => ?_, by simp [Bridge.start], by simp [Bridge.start]⟩
    simp [Bridge.start, fresh] at found
  exact ⟨genuine.saved, genuine.own⟩

/--
In every run the slots hold exactly the accepted signatures, one for each slot, and each save
exactly those that were accepted until then.
-/
theorem slots_match_accepted (node : Node PublicKey Digest Point) (manager : ArbiterManager)
    (events : List Event) :
    Recorded (EventRuns.run (step node) (.start { manager with signatures := ∅ }) events) := by
  refine EventRuns.run_invariant_of_forall (fun _ event recorded => recorded.step event) events ?_
  refine ⟨fun pid value => ?_, fun pid value => ?_, by simp [Bridge.start], by simp [Bridge.start]⟩
  · simp [Bridge.start]
  · simp [Bridge.start]

namespace Sample

/-- A node that recovers the first byte of a signature as its key. -/
def node : Node Bytes Bytes Unit where
  crypto := crypto
  wire := compact
  producer := [9]
  nextTurnArbiters := []
  decodePoint _ := some ()
  verify _ _ _ := true
  decryptArbiter := some
  hashSalt := 7
  ecrecover _ signature := some (signature.take 1)

/-- A peer that names the producer 1 and signs with a key of its own. -/
def foreign : Feedback where
  sender := pidOf [2]
  producer := [1]
  signature := 5 :: List.replicate 64 0

/-- The producer 1 itself. -/
def ownFeedback : Feedback where
  sender := pidOf [1]
  producer := [1]
  signature := 5 :: List.replicate 64 0

def forged : List Event :=
  [.feedBackArbiterSig (fun _ => true) true .stored foreign, .save .stored .stored]

/-- The salt cannot be read when the feedback first arrives. -/
def honest : List Event :=
  [.feedBackArbiterSig (fun _ => true) false .stored ownFeedback,
    .feedBackArbiterSig (fun _ => true) true .stored ownFeedback, .save .stored .stored]

theorem key_of_signs {a : ArbiterManager} {key : Bytes}
    (signs : node.Signs a key foreign.signature) : key = [5] := by
  obtain ⟨hash, -, recovered⟩ := signs
  exact (Option.some.inj recovered).symm

end Sample

open Sample

/-- The signature of the producer 1 with its key 5 is saved, and is genuine. -/
theorem saved_signatures_genuine_honest :
    ∃ save ∈ (EventRuns.run (step node) (.start (manager forth)) honest).saves,
      save.manager.collectionBox.signatures.lookup (pidOf [1]) = some ownFeedback.signature ∧
        node.Signs save.manager [5] ownFeedback.signature := by
  have keeps : EventRuns.Along (KeepsGenuine node fun _ => [5]) (step node)
      (.start (manager forth)) honest := by
    have named (bridge : Bridge) (salted : Bool) : KeepsGenuine node (fun _ => [5]) bridge
        (.feedBackArbiterSig (fun _ => true) salted .stored ownFeedback) := by
      refine fun _ => ⟨rfl, fun hash key _ recovered => ?_⟩
      exact (Option.some.inj recovered).symm
    exact ⟨named _ _, named _ _, trivial, trivial⟩
  have saved : ∃ save ∈ (EventRuns.run (step node) (.start (manager forth)) honest).saves,
      save.manager.collectionBox.signatures.lookup (pidOf [1]) =
        some ownFeedback.signature := by
    decide +kernel
  obtain ⟨save, member, found⟩ := saved
  exact ⟨save, member, found, (saved_signatures_genuine node (fun _ => [5]) (manager forth) rfl
    honest keeps).1 save member _ _ found⟩

/-- The signature of another peer with another key is saved in the slot of the producer. -/
theorem forged_signature_is_saved :
    (∃ save ∈ (EventRuns.run (step node) (.start (manager forth)) forged).saves,
      save.manager.collectionBox.signatures.lookup (pidOf [1]) = some foreign.signature ∧
        ∀ key, node.Signs save.manager key foreign.signature → key = [5]) ∧
      (EventRuns.run (step node) (.start (manager forth)) forged).fillers.lookup (pidOf [1]) =
        some (pidOf [2]) := by
  have saved : ∃ save ∈ (EventRuns.run (step node) (.start (manager forth)) forged).saves,
      save.manager.collectionBox.signatures.lookup (pidOf [1]) = some foreign.signature := by
    decide +kernel
  obtain ⟨save, member, found⟩ := saved
  exact ⟨⟨save, member, found, fun _ => key_of_signs⟩, by decide +kernel⟩

end EscSideChain.Aribiters
