import EscSideChain.PbftConfirms
import EscSideChain.PbftHandlerRules

namespace EscSideChain.Pbft

open Dpos

/-!
# Requests for a reset

A producer whose view has gone too far broadcasts a `ResetView` message and asks itself;
`OnResponseResetViewReceived` records the sponsor and resets the consensus once enough
sponsors are recorded.  The signature of a message covers the sponsor only, so an old
message is as good as a new one.
-/

/-- The requests and the seats are the same. -/
structure KeepsRequests (before after : Node) : Prop where
  requests : after.dispatcher.resetViewRequests = before.dispatcher.resetViewRequests
  producers : after.view.producers.producers = before.view.producers.producers
  total : after.view.producers.totalProducers = before.view.producers.totalProducers

instance (before after : Node) : Decidable (KeepsRequests before after) :=
  decidable_of_iff
    (after.dispatcher.resetViewRequests = before.dispatcher.resetViewRequests ∧
      after.view.producers.producers = before.view.producers.producers ∧
      after.view.producers.totalProducers = before.view.producers.totalProducers)
    ⟨fun same => ⟨same.1, same.2.1, same.2.2⟩,
      fun same => ⟨same.requests, same.producers, same.total⟩⟩

/-- `OnResponseResetViewReceived` takes the request. -/
structure AcceptsRequest (setup : Setup) (node : Node) (message : ResetView) : Prop where
  producer : node.isProducer = true
  sponsored : node.view.producers.isProducers message.sponsor = true
  signed :
    checkSignature setup.ela message.sponsor
      (setup.resetViewData message.sponsor) message.sign = .ok ()

/-- The recorded sponsors once another one has been recorded. -/
def recordedWith (node : Node) (sponsor : Bytes) : List Bytes :=
  (node.dispatcher.recordViewRequest sponsor).resetViewRequests

theorem completesReset_iff {setup : Setup} {node : Node} {message : ResetView} :
    CompletesReset setup node message ↔ AcceptsRequest setup node message ∧
        node.view.producers.getMajorityCount ≤ (recordedWith node message.sponsor).length :=
  ⟨fun completes => ⟨⟨completes.producer, completes.sponsored,
      completes.signed⟩, completes.majority⟩,
    fun completes => ⟨completes.1.producer, completes.1.sponsored, completes.1.signed, completes.2⟩⟩

instance (setup : Setup) (node : Node) (message : ResetView) :
    Decidable (AcceptsRequest setup node message) :=
  decidable_of_iff
    (node.isProducer = true ∧ node.view.producers.isProducers message.sponsor = true ∧
      ValidSignature setup.ela message.sponsor (setup.resetViewData message.sponsor) message.sign)
    ⟨fun accepts => ⟨accepts.1, accepts.2.1, (checkSignature_eq_ok_iff setup.ela).2 accepts.2.2⟩,
      fun accepts => ⟨accepts.producer, accepts.sponsored,
        (checkSignature_eq_ok_iff setup.ela).1 accepts.signed⟩⟩

instance (setup : Setup) (node : Node) (message : ResetView) :
    Decidable (CompletesReset setup node message) :=
  decidable_of_iff _ completesReset_iff.symm

namespace Node

variable (setup : Setup) (moment : Moment)

def AsksItself (node : Node) : Prop :=
  node.view.viewOffset ≥ maxViewOffset ∧ node.view.publicKey ∉ node.dispatcher.resetViewRequests

instance (node : Node) : Decidable (node.AsksItself) :=
  inferInstanceAs (Decidable (_ ∧ _))

theorem askReset_eq (level : Nat) (node : Node) : node.askReset setup moment level =
      if node.AsksItself then
        (node.broadMessage (.resetView (node.ownRequest setup))).onResponseResetViewReceived setup
          moment (node.innerProposal setup moment) level (node.ownRequest setup)
      else if node.view.viewOffset ≥ maxViewOffset then
        node.broadMessage (.resetView (node.ownRequest setup))
      else
        node := by
  unfold askReset
  by_cases far : node.view.viewOffset ≥ maxViewOffset
  · rw [if_pos far, if_pos far]
    by_cases known : node.view.publicKey ∈ node.dispatcher.resetViewRequests
    · have silent : ¬node.AsksItself := fun asks => asks.2 known
      rw [if_neg silent]
      exact if_pos (List.contains_iff_mem.2 known)
    have asks : node.AsksItself := ⟨far, known⟩
    rw [if_pos asks]
    exact if_neg fun contained =>
      known (List.contains_iff_mem.1 contained)
  · have silent : ¬node.AsksItself := fun asks => far asks.1
    rw [if_neg far, if_neg silent, if_neg far]

end Node

/-! ## Histories -/

/--
The operations on the requests of a node: a producer elsewhere creates one, one arrives, the node
itself asks, a block is finished or inserted, `UpdateCurrentProducers` installs other producers, or
something happens that leaves requests and seats alone.
-/
inductive RequestOp where
  | create (sponsor : Bytes)
  | receive (message : ResetView)
  | ask (level : Nat)
  | finish (height : UInt64) (sealHash : Hash) (headerTime : UInt64)
  | insertBlock (needChange : Bool) (block : Header)
  | updateProducers (keys : List Bytes) (totalCount : Nat) (spvHeight : UInt64)
  | other (after : Node)

/-- A node with the sponsors that created a request since the last clearing. -/
structure RequestHistory where
  node : Node
  created : List Bytes

/-- A reset: the producers at that time and the sponsors of fresh requests. -/
structure ResetMade where
  table : Producers
  created : List Bytes

namespace RequestOp

variable (setup : Setup) (moment : Moment)

/--
What an operation does to the node.  A producer that creates a request changes
nothing here.
-/
def perform (node : Node) : RequestOp → Node
  | .create _ => node
  | .receive message =>
    node.onResponseResetViewReceived setup moment (node.innerProposal setup moment) 0 message
  | .ask level => node.askReset setup moment level
  | .finish height sealHash headerTime =>
    node.finishedProposal setup moment height sealHash headerTime
  | .insertBlock needChange block =>
    (TurnNode.onInsertBlock setup moment ⟨node, needChange⟩ block).1.node
  | .updateProducers keys totalCount spvHeight =>
    { node with view := node.view.updateProducers keys totalCount spvHeight }
  | .other after => if KeepsRequests node after then after else node

/-- The sponsors of fresh requests after an operation. -/
def createdAfter (history : RequestHistory) : RequestOp → List Bytes
  | .create sponsor => sponsor :: history.created
  | .receive message =>
    if CompletesReset setup history.node message then []
    else history.created
  | .ask _ =>
    if history.node.AsksItself ∧ CompletesReset setup history.node
          (history.node.ownRequest setup) then
      []
    else if history.node.view.viewOffset ≥ maxViewOffset then
      history.node.view.publicKey :: history.created
    else history.created
  | .finish height _ _ =>
    if history.node.dispatcher.finishedHeight < height then []
    else history.created
  | .insertBlock needChange _ =>
    if needChange = true ∧
        (history.node.view.isSameProducers history.node.view.producers.producers).2 = false then
      []
    else history.created
  | .updateProducers _ _ _ => history.created
  | .other _ => history.created

/-- The reset that `OnResponseResetViewReceived` makes in an operation. -/
def resets (history : RequestHistory) : RequestOp → List ResetMade
  | .receive message =>
    if CompletesReset setup history.node message then
      [⟨history.node.view.producers, history.created⟩]
    else []
  | .ask _ =>
    if history.node.AsksItself ∧ CompletesReset setup history.node
          (history.node.ownRequest setup) then
      [⟨history.node.view.producers, history.node.view.publicKey :: history.created⟩]
    else []
  | _ => []

end RequestOp

namespace RequestHistory

def step (setup : Setup) (history : RequestHistory)
    (arrival : Moment × RequestOp) : RequestHistory where
  node := arrival.2.perform setup arrival.1 history.node
  created := arrival.2.createdAfter setup history

/-- The resets that `OnResponseResetViewReceived` makes in a history. -/
def resetsOf (setup : Setup) (history : RequestHistory)
    (arrivals : List (Moment × RequestOp)) : List ResetMade :=
  EventRuns.outputs (fun current arrival => arrival.2.resets setup current)
    (step setup) history arrivals

def new (publicKey : Bytes) (producers : Producers) : RequestHistory where
  node := Node.new publicKey producers
  created := []

end RequestHistory

/-- More than two thirds of the current producers created a fresh request. -/
def FreshMajority (made : ResetMade) : Prop :=
  ∃ sponsors : Finset Bytes,
    (∀ sponsor ∈ sponsors, sponsor ∈ made.table.producers ∧ sponsor ∈ made.created) ∧
    made.table.totalProducers * 2 / 3 < sponsors.card

theorem freshMajority_iff {made : ResetMade} :
    FreshMajority made ↔ made.table.totalProducers * 2 / 3 <
        (made.created.toFinset.filter (· ∈ made.table.producers)).card := by
  constructor
  · rintro ⟨sponsors, fresh, majority⟩
    refine majority.trans_le (Finset.card_le_card ?_)
    intro sponsor member
    obtain ⟨seated, created⟩ := fresh sponsor member
    exact Finset.mem_filter.2 ⟨List.mem_toFinset.2 created, seated⟩
  · intro majority
    refine ⟨_, fun sponsor member => ?_, majority⟩
    obtain ⟨created, seated⟩ := Finset.mem_filter.1 member
    exact ⟨seated, List.mem_toFinset.1 created⟩

instance (made : ResetMade) : Decidable (FreshMajority made) :=
  decidable_of_iff _ freshMajority_iff.symm

/-! ## When a reset has a fresh majority -/

def Outnumbers (node : Node) (created : List Bytes) (sponsor : Bytes) : Prop :=
  (recordedWith node sponsor).length ≠ node.view.producers.getMajorityCount ∨
    ∃ further ∈ created, further ∈ node.view.producers.producers ∧
      further ∉ recordedWith node sponsor

instance (node : Node) (created : List Bytes) (sponsor : Bytes) :
    Decidable (Outnumbers node created sponsor) :=
  inferInstanceAs (Decidable (_ ∨ _))

/--
The condition on an operation: an accepted request is fresh and outnumbers two
thirds of the seats, and the sponsors that are still recorded after a block has
been inserted or other producers have been installed have a seat.
-/
def TakesFresh (setup : Setup) (history : RequestHistory) (arrival : Moment × RequestOp) : Prop :=
  match arrival.2 with
  | .receive message =>
    AcceptsRequest setup history.node message → message.sponsor ∈ history.created ∧
        Outnumbers history.node history.created message.sponsor
  | .ask _ =>
    history.node.AsksItself → AcceptsRequest setup history.node (history.node.ownRequest setup) →
      Outnumbers history.node (history.node.view.publicKey :: history.created)
        history.node.view.publicKey
  | .insertBlock needChange block =>
    let after := (RequestOp.insertBlock needChange block).perform setup arrival.1 history.node
    ∀ sponsor ∈ after.dispatcher.resetViewRequests, sponsor ∈ after.view.producers.producers
  | .updateProducers keys totalCount spvHeight =>
    ∀ sponsor ∈ history.node.dispatcher.resetViewRequests,
      sponsor ∈ (history.node.view.updateProducers keys totalCount spvHeight).producers.producers
  | _ => True

instance (setup : Setup) (history : RequestHistory) (arrival : Moment × RequestOp) :
    Decidable (TakesFresh setup history arrival) :=
  match arrival with
  | (_, .create _) => .isTrue trivial
  | (_, .receive _) => inferInstanceAs (Decidable (_ → _ ∧ _))
  | (_, .ask _) => inferInstanceAs (Decidable (_ → _ → _))
  | (_, .finish _ _ _) => .isTrue trivial
  | (_, .insertBlock _ _) => inferInstanceAs (Decidable (∀ _ ∈ _, _ ∈ _))
  | (_, .updateProducers _ _ _) => inferInstanceAs (Decidable (∀ _ ∈ _, _ ∈ _))
  | (_, .other _) => .isTrue trivial

structure RequestsSound (history : RequestHistory) : Prop where
  distinct : history.node.dispatcher.resetViewRequests.Nodup
  fresh : ∀ sponsor ∈ history.node.dispatcher.resetViewRequests, sponsor ∈ history.created
  seated : ∀ sponsor ∈ history.node.dispatcher.resetViewRequests,
    sponsor ∈ history.node.view.producers.producers

variable {history : RequestHistory}

section Requests

variable {setup : Setup} {moment : Moment} {node : Node}
variable {created : List Bytes} {message : ResetView}

theorem mem_recordedWith {sponsor known : Bytes} :
    known ∈ recordedWith node sponsor ↔
      known = sponsor ∨ known ∈ node.dispatcher.resetViewRequests := by
  unfold recordedWith Dispatcher.recordViewRequest
  split
  · next already =>
      have member : sponsor ∈ node.dispatcher.resetViewRequests := by simpa using already
      constructor
      · exact .inr
      · rintro (rfl | recorded)
        · exact member
        · exact recorded
  · exact List.mem_cons

theorem nodup_recordedWith {sponsor : Bytes} (distinct : node.dispatcher.resetViewRequests.Nodup) :
    (recordedWith node sponsor).Nodup := by
  unfold recordedWith Dispatcher.recordViewRequest
  split
  · exact distinct
  · next missing => exact List.nodup_cons.2 ⟨by simpa using missing, distinct⟩

theorem mem_of_isProducers {table : Producers} {signer : Bytes}
    (isProducer : table.isProducers signer = true) : signer ∈ table.producers := by
  simpa [Producers.isProducers] using isProducer

theorem requestsSound_of_cleared
    (cleared : history.node.dispatcher.resetViewRequests = []) : RequestsSound history := by
  refine ⟨?_, ?_, ?_⟩ <;> simp [cleared]

section

variable (sound : RequestsSound ⟨node, created⟩)

include sound

theorem RequestsSound.mono {more : List Bytes}
    (grown : ∀ sponsor ∈ created, sponsor ∈ more) : RequestsSound ⟨node, more⟩ :=
  ⟨sound.distinct, fun sponsor recorded => grown sponsor (sound.fresh sponsor recorded),
    sound.seated⟩

theorem RequestsSound.of_keeps {after : Node}
    (keeps : KeepsRequests node after) : RequestsSound ⟨after, created⟩ := by
  obtain ⟨distinct, fresh, seated⟩ := sound
  refine ⟨?_, ?_, ?_⟩
  · rw [keeps.requests]
    exact distinct
  · rw [keeps.requests]
    exact fresh
  · rw [keeps.requests, keeps.producers]
    exact seated

theorem RequestsSound.recordViewRequest {sponsor : Bytes}
    (fresh : sponsor ∈ created) (seated : sponsor ∈ node.view.producers.producers) :
    RequestsSound ⟨{ node with
        dispatcher := node.dispatcher.recordViewRequest sponsor },
        created⟩ := by
  refine ⟨nodup_recordedWith sound.distinct, ?_, ?_⟩
  · intro known recorded
    rcases mem_recordedWith.1 recorded with rfl | before
    · exact fresh
    · exact sound.fresh known before
  · intro known recorded
    rcases mem_recordedWith.1 recorded with rfl | before
    · exact seated
    · exact sound.seated known before

theorem RequestsSound.freshMajority
    (completes : CompletesReset setup node message) (fresh : message.sponsor ∈ created)
    (outnumbers : Outnumbers node created message.sponsor) :
    FreshMajority ⟨node.view.producers, created⟩ := by
  obtain ⟨distinct, allFresh, allSeated⟩ := sound.recordViewRequest fresh
    (mem_of_isProducers completes.sponsored)
  have count : (recordedWith node message.sponsor).toFinset.card =
      (recordedWith node message.sponsor).length :=
    List.toFinset_card_of_nodup distinct
  have enough : node.view.producers.getMajorityCount ≤
      (recordedWith node message.sponsor).length := completes.majority
  rcases outnumbers with different | ⟨further, isCreated, isSeated, missing⟩
  · refine ⟨(recordedWith node message.sponsor).toFinset, ?_, ?_⟩
    · intro sponsor member
      have recorded := List.mem_toFinset.1 member
      exact ⟨allSeated sponsor recorded, allFresh sponsor recorded⟩
    · rw [count]
      exact lt_of_le_of_ne enough different.symm
  · refine ⟨insert further (recordedWith node message.sponsor).toFinset, ?_, ?_⟩
    · intro sponsor member
      rcases Finset.mem_insert.1 member with rfl | recorded
      · exact ⟨isSeated, isCreated⟩
      · have recorded := List.mem_toFinset.1 recorded
        exact ⟨allSeated sponsor recorded, allFresh sponsor recorded⟩
    · rw [Finset.card_insert_of_notMem
        (fun recorded => missing (List.mem_toFinset.1 recorded)), count]
      exact Nat.lt_succ_of_le enough

end

/-! ## What the operations do to the record -/

theorem onResponseResetViewReceived_cases (nested : Node → DPOSProposal → Node) (level : Nat) :
    ¬AcceptsRequest setup node message ∧ node.onResponseResetViewReceived setup moment nested level
          message = node ∨
      AcceptsRequest setup node message ∧ ¬CompletesReset setup node message ∧
        node.onResponseResetViewReceived setup moment nested level message = { node with
            dispatcher :=
              node.dispatcher.recordViewRequest message.sponsor } ∨
      CompletesReset setup node message ∧
        (node.onResponseResetViewReceived setup moment nested level
          message).dispatcher.resetViewRequests = [] := by
  by_cases accepts : AcceptsRequest setup node message
  · right
    unfold Node.onResponseResetViewReceived
    simp only [accepts.producer, accepts.sponsored, accepts.signed, Bool.true_eq_false, ↓reduceIte]
    split
    · next enough => exact .inr ⟨completesReset_iff.2 ⟨accepts, enough⟩, rfl⟩
    · next few => exact .inl ⟨accepts, fun completes => few completes.majority, rfl⟩
  · refine .inl ⟨accepts, ?_⟩
    unfold Node.onResponseResetViewReceived
    split
    · rfl
    next producer =>
      split
      · rfl
      next sponsored =>
        split
        · rfl
        next signed =>
          exact absurd ⟨Bool.eq_true_of_not_eq_false producer,
            Bool.eq_true_of_not_eq_false sponsored, signed⟩ accepts

theorem RequestsSound.onResponseResetViewReceived (sound : RequestsSound ⟨node, created⟩)
    (fresh : AcceptsRequest setup node message → message.sponsor ∈ created)
    (nested : Node → DPOSProposal → Node) (level : Nat) :
    RequestsSound ⟨node.onResponseResetViewReceived setup moment nested level message,
        if CompletesReset setup node message then [] else created⟩ := by
  rcases @onResponseResetViewReceived_cases setup moment node message nested level with
    ⟨refused, same⟩ | ⟨accepts, incomplete, recorded⟩ | ⟨completes, cleared⟩
  · rw [same, if_neg fun completes =>
      refused (completesReset_iff.1 completes).1]
    exact sound
  · rw [recorded, if_neg incomplete]
    exact sound.recordViewRequest (fresh accepts) (mem_of_isProducers accepts.sponsored)
  · exact requestsSound_of_cleared cleared

theorem completesReset_broadMessage {outgoing : Outgoing} :
    CompletesReset setup (node.broadMessage outgoing) message ↔ CompletesReset setup node message :=
  ⟨fun completes => ⟨completes.producer, completes.sponsored, completes.signed, completes.majority⟩,
    fun completes => ⟨completes.producer, completes.sponsored,
      completes.signed, completes.majority⟩⟩

theorem RequestsSound.askReset (sound : RequestsSound ⟨node, created⟩) (level : Nat) :
    RequestsSound
      ⟨node.askReset setup moment level,
        (RequestOp.ask level).createdAfter setup ⟨node, created⟩⟩ := by
  have asked : RequestsSound
      ⟨node.broadMessage (.resetView (node.ownRequest setup)), node.view.publicKey :: created⟩ :=
    (sound.mono fun _ => List.mem_cons_of_mem _).of_keeps ⟨rfl, rfl, rfl⟩
  rw [Node.askReset_eq]
  unfold RequestOp.createdAfter
  by_cases asks : node.AsksItself
  · have recorded := @RequestsSound.onResponseResetViewReceived setup
      moment _ _ (node.ownRequest setup) asked
      (fun _ => List.mem_cons_self) (node.innerProposal setup moment) level
    simp only [completesReset_broadMessage] at recorded
    simpa only [asks, true_and, ↓reduceIte, asks.1] using recorded
  · simp only [asks, false_and, ↓reduceIte]
    split
    · exact asked
    · exact sound

theorem RequestsSound.finishedProposal {height headerTime : UInt64} {sealHash : Hash}
    (sound : RequestsSound ⟨node, created⟩) :
    RequestsSound ⟨node.finishedProposal setup moment height sealHash headerTime,
        if node.dispatcher.finishedHeight < height then []
        else
          created⟩ := by
  by_cases unfinished : node.dispatcher.finishedHeight < height
  · refine requestsSound_of_cleared ?_
    dsimp only
    rw [Node.finishedProposal, if_neg (UInt64.not_le.2 unfinished)]
  rw [if_neg unfinished, Node.finishedProposal, if_pos (UInt64.not_lt.1 unfinished)]
  exact sound

theorem resetViewRequests_onInsertBlock (needChange : Bool) (block : Header) :
    (TurnNode.onInsertBlock setup moment ⟨node, needChange⟩
        block).1.node.dispatcher.resetViewRequests =
      if needChange = true ∧
          (node.view.isSameProducers node.view.producers.producers).2 = false then
        []
      else
        node.dispatcher.resetViewRequests := by
  have caughtUp : (TurnNode.catchUp moment node block).1.dispatcher = node.dispatcher := by
    unfold TurnNode.catchUp
    dsimp only
    split
    · rfl
    · split <;> rfl
  unfold TurnNode.onInsertBlock
  cases needChange with
  | false =>
    simp only [Bool.false_eq_true, ↓reduceIte, false_and]
    split
    · exact congrArg Dispatcher.resetViewRequests caughtUp
    · rfl
  | true =>
    simp only [↓reduceIte, true_and]
    unfold TurnNode.changeTurn
    rcases node.view.isSameProducers node.view.producers.producers with ⟨view, isSame⟩
    cases isSame <;> rfl

theorem RequestsSound.onInsertBlock {needChange : Bool} {block : Header}
    (sound : RequestsSound ⟨node, created⟩)
    (seated : TakesFresh setup ⟨node, created⟩ (moment, .insertBlock needChange block)) :
    RequestsSound (RequestHistory.step setup ⟨node, created⟩
      (moment, .insertBlock needChange block)) := by
  have requests := @resetViewRequests_onInsertBlock setup moment node needChange block
  by_cases resets : needChange = true ∧
      (node.view.isSameProducers node.view.producers.producers).2 = false
  · rw [if_pos resets] at requests
    exact requestsSound_of_cleared requests
  rw [if_neg resets] at requests
  have remembers : (RequestOp.insertBlock needChange
      block).createdAfter setup ⟨node, created⟩ = created :=
    if_neg resets
  refine ⟨requests ▸ sound.distinct, ?_, seated⟩
  intro sponsor recorded
  show sponsor ∈ (RequestOp.insertBlock needChange block).createdAfter setup ⟨node, created⟩
  rw [remembers]
  exact sound.fresh sponsor (requests ▸ recorded)

variable {arrival : Moment × RequestOp} (takesFresh : TakesFresh setup history arrival)
  (sound : RequestsSound history)

include takesFresh sound

theorem requestsSound_step : RequestsSound (history.step setup arrival) := by
  obtain ⟨node, created⟩ := history
  obtain ⟨moment, op⟩ := arrival
  cases op with
  | create sponsor => exact sound.mono fun _ => List.mem_cons_of_mem sponsor
  | receive message =>
    exact sound.onResponseResetViewReceived (fun accepts => (takesFresh accepts).1) _ 0
  | ask level => exact sound.askReset level
  | finish height sealHash headerTime => exact sound.finishedProposal
  | insertBlock needChange block => exact sound.onInsertBlock takesFresh
  | updateProducers keys totalCount spvHeight => exact ⟨sound.distinct, sound.fresh, takesFresh⟩
  | other after =>
    refine sound.of_keeps ?_
    show KeepsRequests node (if KeepsRequests node after then after else node)
    split
    · next keeps => exact keeps
    · exact ⟨rfl, rfl, rfl⟩

theorem freshMajority_of_resets : ∀ made ∈ arrival.2.resets setup history, FreshMajority made := by
  obtain ⟨node, created⟩ := history
  obtain ⟨moment, op⟩ := arrival
  intro made isMade
  cases op with
  | receive message =>
    by_cases completes : CompletesReset setup node message
    · obtain rfl : made = ⟨node.view.producers, created⟩ := by
        simpa [RequestOp.resets, completes] using isMade
      obtain ⟨fresh, outnumbers⟩ := takesFresh (completesReset_iff.1 completes).1
      exact sound.freshMajority completes fresh outnumbers
    · simp [RequestOp.resets, completes] at isMade
  | ask level =>
    by_cases completes : node.AsksItself ∧ CompletesReset setup node (node.ownRequest setup)
    · obtain rfl : made = ⟨node.view.producers, node.view.publicKey :: created⟩ := by
        simpa [RequestOp.resets, completes] using isMade
      have outnumbers := takesFresh completes.1 (completesReset_iff.1 completes.2).1
      exact (sound.mono fun _ =>
        List.mem_cons_of_mem _).freshMajority completes.2 List.mem_cons_self outnumbers
    · rw [RequestOp.resets, if_neg completes] at isMade
      cases isMade
  | create sponsor => cases isMade
  | finish height sealHash headerTime => cases isMade
  | insertBlock needChange block => cases isMade
  | updateProducers keys totalCount spvHeight => cases isMade
  | other after => cases isMade

end Requests

/--
A reset needs a fresh majority.  In every history of a new node whose accepted
requests were created since the last finished block or reset, in which the
recorded sponsors keep their seats and no request leaves exactly two thirds of
the seats, rounded down, recorded and no further one created, every reset that
`OnResponseResetViewReceived` makes has more than two thirds of the current
producers behind it.
-/
theorem resets_have_fresh_majority (setup : Setup) (publicKey : Bytes) (producers : Producers)
    (arrivals : List (Moment × RequestOp))
    (takesFresh : EventRuns.Along (TakesFresh setup)
      (RequestHistory.step setup) (.new publicKey producers) arrivals) :
    ∀ made ∈ (RequestHistory.new publicKey producers).resetsOf setup arrivals,
      FreshMajority made := by
  have preserved : ∀ history arrival, TakesFresh setup history arrival → RequestsSound history →
      RequestsSound (history.step setup arrival) :=
    fun _ _ => requestsSound_step
  have rightful : ∀ history arrival, TakesFresh setup history arrival → RequestsSound history →
      ∀ made ∈ arrival.2.resets setup history, FreshMajority made :=
    fun _ _ => freshMajority_of_resets
  have initially : RequestsSound (.new publicKey producers) := requestsSound_of_cleared rfl
  exact EventRuns.outputs_good preserved rightful takesFresh initially

namespace Sample

def resetRequest (sponsor : Bytes) : ResetView :=
  ⟨sponsor, sponsor ++ sponsor⟩

def startedNode : Node :=
  (Node.new [4] fourProducers).start (at_ 0) 0

def threeAsk : List (Moment × RequestOp) :=
  [(at_ 0, .other startedNode), (at_ 1, .create [1]), (at_ 1, .create [2]), (at_ 1, .create [3]),
    (at_ 2, .receive (resetRequest [1])), (at_ 2, .receive (resetRequest [2]))]

def twoAsk : List (Moment × RequestOp) :=
  [(at_ 0, .other startedNode), (at_ 1, .create [1]), (at_ 1, .create [2]),
    (at_ 2, .receive (resetRequest [1])), (at_ 2, .receive (resetRequest [2]))]

/-- Three requests are created before the first block and arrive after it. -/
def replayedRequests : List (Moment × RequestOp) :=
  [(at_ 0, .other startedNode), (at_ 1, .create [1]), (at_ 1, .create [2]), (at_ 1, .create [3]),
    (at_ 2, .finish 1 emptyHash 5), (at_ 3, .receive (resetRequest [1])),
    (at_ 3, .receive (resetRequest [2]))]

def sevenProducers : Producers :=
  { fourProducers with
    totalProducers := 7
    producers := [[1], [4], [5], [6], [7], [8], [9]] }

/--
Three of seven producers ask for a reset; then the node catches up with a main
chain of three council members, one of which asks as well.
-/
def earlierTurn : List (Moment × RequestOp) :=
  [(at_ 1, .create [4]), (at_ 1, .create [5]), (at_ 1, .create [6]),
    (at_ 2, .receive (resetRequest [4])), (at_ 2, .receive (resetRequest [5])),
    (at_ 2, .receive (resetRequest [6])),
    ({ at_ 3 with spvService := some service }, .insertBlock false (child 5 [])),
    (at_ 4, .create [2]), (at_ 4, .receive (resetRequest [2]))]

end Sample

open Sample

/-- Three of four producers ask, and the reset after two requests is rightful. -/
theorem resets_have_fresh_majority_threeAsk :
    EventRuns.Along (TakesFresh (setup [4])) (RequestHistory.step (setup [4]))
        (.new [4] fourProducers) threeAsk ∧
      ((RequestHistory.new [4] fourProducers).resetsOf (setup [4]) threeAsk).length = 1 ∧
      ∀ made ∈ (RequestHistory.new [4] fourProducers).resetsOf (setup [4]) threeAsk,
        FreshMajority made := by
  have takesFresh : EventRuns.Along (TakesFresh (setup [4]))
      (RequestHistory.step (setup [4])) (.new [4] fourProducers) threeAsk := by
    decide +kernel
  exact ⟨takesFresh, by decide +kernel, resets_have_fresh_majority (setup [4]) [4]
      fourProducers threeAsk takesFresh⟩

/--
Two of four producers are enough for a reset; so are two old requests after a
block has been finished, and the requests of an earlier turn together with one of
three current producers.
-/
theorem reset_without_fresh_majority :
    (∃ made ∈ (RequestHistory.new [4] fourProducers).resetsOf
        (setup [4]) twoAsk, ¬FreshMajority made) ∧
      (∃ made ∈ (RequestHistory.new [4] fourProducers).resetsOf
        (setup [4]) replayedRequests, made.created = [] ∧ ¬FreshMajority made) ∧
      ∃ made ∈ (RequestHistory.new [1] sevenProducers).resetsOf
        (setup [1]) earlierTurn, made.table.producers = [[1], [2], [3]] ∧ ¬FreshMajority made := by
  decide +kernel

end EscSideChain.Pbft
