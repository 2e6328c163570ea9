import EscSideChain.PbftResetRequests

namespace EscSideChain.Pbft

open Dpos

/-!
# The events of a producer as histories of requests

Whatever event a producer handles, what becomes of the node is a sequence of the
operations on requests: its own requests, which may be created several times in
one event because a view change hands stored proposals on, the request or the
finished block that the event brings, and steps that leave requests and seats
alone.  So the histories of requests cover the runs of the node.
-/

variable (setup : Setup) (block : Header)

namespace KeepsRequests

variable {setup : Setup} {moment : Moment} {node : Node}
variable {order : IterationOrder} {proposal : DPOSProposal}

theorem refl (node : Node) : KeepsRequests node node :=
  ⟨rfl, rfl, rfl⟩

theorem trans
    {first second third : Node}
    (before : KeepsRequests first second)
    (after : KeepsRequests second third) :
    KeepsRequests first third :=
  ⟨after.requests.trans before.requests, after.producers.trans before.producers,
    after.total.trans before.total⟩

/-- What leaves the voting state alone leaves the requests alone. -/
theorem of_votingState
    {after : Node}
    (same : after.votingState = node.votingState) :
    KeepsRequests node after := by
  have view : after.view = node.view := congrArg VotingState.view same
  exact ⟨congrArg VotingState.requests same, by rw [view], by rw [view]⟩

theorem sendVote
    (vote : Option DPOSProposalVote)
    (handled : Bool) :
    KeepsRequests node (node.sendVote proposal vote handled) := by
  have noted : KeepsRequests node
      (if handled then { node with notHandledProposal := [] } else node) := by
    split <;> exact ⟨rfl, rfl, rfl⟩
  unfold Node.sendVote
  generalize (if handled then { node with notHandledProposal := [] } else node) = other
    at noted ⊢
  cases vote with
  | none => exact noted
  | some vote =>
    dsimp only
    split
    · exact noted
    · exact noted.trans ⟨rfl, rfl, rfl⟩

theorem onBlock : KeepsRequests node (node.onBlock setup moment block) := by
  unfold Node.onBlock
  split
  · exact refl node
  · split
    · exact ⟨rfl, rfl, rfl⟩
    · dsimp only
      split
      · exact ⟨rfl, rfl, rfl⟩
      · refine KeepsRequests.trans ?_ (of_votingState (Node.votingState_onConfirmReceived _ _ _))
        exact ⟨rfl, rfl, rfl⟩

/-! ## Recovery and sealing -/

theorem onRecoverTimeout : KeepsRequests node (node.onRecoverTimeout setup moment) := by
  have recovered : KeepsRequests node (node.doRecover setup moment) := by
    unfold Node.doRecover
    dsimp only
    split
    · exact ⟨rfl, rfl, rfl⟩
    · next status _ =>
        obtain ⟨producers, total⟩ := @Node.seats_recoverFromConsensusStatus node status
        exact ⟨rfl, producers, total⟩
  unfold Node.onRecoverTimeout
  dsimp only
  split
  · split
    · exact recovered.trans ⟨rfl, rfl, rfl⟩
    · exact ⟨rfl, rfl, rfl⟩
  · exact ⟨rfl, rfl, rfl⟩

theorem start (headerTime : UInt64) : KeepsRequests node (node.start moment headerTime) := by
  unfold Node.start
  dsimp only
  split
  · exact ⟨rfl, rfl, rfl⟩
  · exact ⟨rfl, Producers.producers_updateDutyIndex _ _,
      Producers.totalProducers_updateDutyIndex _ _⟩

theorem prepare (header : Header) : KeepsRequests node (node.prepare moment header) := by
  have started : ∀ headerTime, KeepsRequests node
      ({ node with isSealOver := false }.start moment headerTime) := by
    intro headerTime
    refine KeepsRequests.trans ?_ (start headerTime)
    exact ⟨rfl, rfl, rfl⟩
  unfold Node.prepare
  dsimp only
  repeat' split
  all_goals
    first
    | exact ⟨rfl, rfl, rfl⟩
    | exact started _
    | exact (started _).trans ⟨rfl, rfl, rfl⟩

theorem startProposal : KeepsRequests node (node.startProposal setup moment block).1 := by
  unfold Node.startProposal
  dsimp only
  split
  · exact refl node
  · next sign _ =>
      have processed := @of_votingState node _ (@Node.votingState_processProposal setup moment
        (moment.order 0) node node.view.publicKey
        ⟨node.view.publicKey, setup.sealHash block, node.view.viewOffset, sign⟩)
      split
      · next outcome =>
          rw [outcome] at processed
          exact processed
      · next outcome =>
          rw [outcome] at processed
          exact processed.trans ⟨rfl, rfl, rfl⟩

theorem sealBlock : KeepsRequests node (node.sealBlock setup moment block) := by
  unfold Node.sealBlock
  split
  · exact refl node
  split
  · exact refl node
  split
  · exact refl node
  split
  · exact refl node
  split
  · exact refl node
  dsimp only
  have proposed : KeepsRequests node (Node.startProposal setup moment
        { node.broadMessage (.block block) with
          pool := ((node.broadMessage (.block block)).pool.appendDposBlock setup.sealHash
            ((node.broadMessage (.block block)).verifyBlock setup moment) block).1 } block).1 := by
    refine KeepsRequests.trans ?_ (startProposal block)
    exact ⟨rfl, rfl, rfl⟩
  split
  · next outcome => rwa [outcome] at proposed
  · next outcome =>
      rw [outcome] at proposed
      split <;> exact proposed.trans ⟨rfl, rfl, rfl⟩

end KeepsRequests

/-! ## Events -/

/--
The operations that an event may consist of: requests of the node itself, the
request or the finished block of the event, and steps that change neither
requests nor seats.
-/
def Event.ConsistsOf : Event → RequestOp → Prop
  | _, .other _ => True
  | _, .ask _ => True
  | .resetView message, .receive received => received = message
  | .finalize header, .finish height _ _ => height = blockHeight header
  | .sealConfirmed, .finish _ _ _ => True
  | _, _ => False

/-- The node goes from one state to the other by operations of the event. -/
def Performs (setup : Setup) (moment : Moment) (event : Event) (before after : Node) : Prop :=
  ∃ ops : List RequestOp, (∀ op ∈ ops, event.ConsistsOf op) ∧
      EventRuns.run (fun node op => op.perform setup moment node) before ops = after

namespace Performs

variable {setup : Setup} {moment : Moment} {event : Event} {node : Node}

theorem trans
    {first second third : Node}
    (before : Performs setup moment event first second)
    (after : Performs setup moment event second third) :
    Performs setup moment event first third := by
  obtain ⟨earlier, earlierOps, reached⟩ := before
  obtain ⟨later, laterOps, ended⟩ := after
  refine ⟨earlier ++ later, ?_, ?_⟩
  · exact List.forall_mem_append.2 ⟨earlierOps, laterOps⟩
  · rw [EventRuns.run_append, reached, ended]

theorem single
    {op : RequestOp}
    (consists : event.ConsistsOf op) :
    Performs setup moment event node (op.perform setup moment node) :=
  ⟨[op], by simpa using consists, rfl⟩

theorem of_keeps
    {after : Node}
    (keeps : KeepsRequests node after) :
    Performs setup moment event node after := by
  refine ⟨[.other after], fun op member => ?_, ?_⟩
  · obtain rfl := List.mem_singleton.1 member
    cases event <;> trivial
  · exact if_pos keeps

/-- The nested handling of proposals is a sequence of such operations, whatever the event. -/
theorem handlerRule : HandlerRule setup moment (Performs setup moment event) where
  refl node := of_keeps (.refl node)
  trans earlier later := earlier.trans later
  taken _ _ := of_keeps ⟨rfl, rfl, rfl⟩
  moved node now force parentTime := by
    have table := producers_changeView node.view now force parentTime
    exact of_keeps ⟨rfl, congrArg Producers.producers table,
      congrArg Producers.totalProducers table⟩
  cleaned _ := of_keeps ⟨rfl, rfl, rfl⟩
  ready _ := of_keeps ⟨rfl, rfl, rfl⟩
  asked _ level := single (show event.ConsistsOf (.ask level) by
    cases event <;> trivial)
  answered _ _ _ _ _ :=
    of_keeps ((KeepsRequests.of_votingState (Node.votingState_chooseVote _ _ _ _)).trans
      (.sendVote _ _))

end Performs

/--
Every event of a node is a sequence of operations on requests: whatever the node
does to its requests and seats is one of them.
-/
theorem handle_performs
    (moment : Moment)
    (node : Node)
    (event : Event) :
    Performs setup moment event node (node.handle setup moment event) := by
  cases event with
  | proposal id proposal => exact Performs.handlerRule.onProposalReceived _ 0 id node proposal
  | vote vote => exact .of_keeps (.of_votingState (Node.votingState_onVoteAccepted node vote))
  | confirm confirm height =>
    exact .of_keeps (.of_votingState (Node.votingState_onConfirmReceived node confirm height))
  | block block => exact .of_keeps (.onBlock block)
  | parentBlock height => exact .of_keeps ⟨rfl, rfl, rfl⟩
  | changeView =>
    exact Performs.handlerRule.onChangeView
      (Performs.handlerRule.onProposalReceived _ 1 zeroPID) 0 node
  | resetView message =>
    exact @Performs.single setup moment (.resetView message) node (.receive message) rfl
  | recover =>
    rw [Node.handle, Node.onRecover]
    split
    · exact .of_keeps (.of_votingState (Node.votingState_recoverAbnormalState node))
    · exact .of_keeps (.refl node)
  | responseConsensus id status =>
    rw [Node.handle, Node.onResponseConsensus]
    split_ifs <;> exact .of_keeps ⟨rfl, rfl, rfl⟩
  | recoverTimeout => exact .of_keeps .onRecoverTimeout
  | finalize header =>
    have finished := @Performs.single setup moment (.finalize header) node
      (.finish (blockHeight header) (setup.sealHash header) header.time) rfl
    exact finished.trans (.of_keeps ⟨rfl, rfl, rfl⟩)
  | prepare header => exact .of_keeps (.prepare header)
  | sealBlock block => exact .of_keeps (.sealBlock block)
  | sealConfirmed =>
    rw [Node.handle, Node.sealConfirmed]
    split
    · next block _ _ _ =>
        have opened : KeepsRequests node { node with sealing := none, confirmCh := none } :=
          ⟨rfl, rfl, rfl⟩
        have finished := @Performs.single setup moment .sealConfirmed
          { node with sealing := none, confirmCh := none }
          (.finish (blockHeight block) (setup.sealHash block) block.time) trivial
        exact ((Performs.of_keeps opened).trans finished).trans (.of_keeps ⟨rfl, rfl, rfl⟩)
    · exact .of_keeps (.refl node)
  | sealStopped =>
    rw [Node.handle, Node.sealStopped]
    split <;> exact .of_keeps ⟨rfl, rfl, rfl⟩

theorem node_run_history
    (moment : Moment)
    (history : RequestHistory)
    (ops : List RequestOp) :
    (EventRuns.run (RequestHistory.step setup) history (ops.map (Prod.mk moment))).node =
      EventRuns.run (fun node op => op.perform setup moment node) history.node ops := by
  induction ops generalizing history with
  | nil => rfl
  | cons op rest inductionHypothesis => exact inductionHypothesis _

/--
Every run of a node is a history of requests, made of operations of its events:
no request is received that no event brings.
-/
theorem run_has_history
    (node : Node)
    (events : List (Moment × Event)) :
    ∃ arrivals : List (Moment × RequestOp),
      (∀ arrival ∈ arrivals, ∃ event, (arrival.1, event) ∈ events ∧ event.ConsistsOf arrival.2) ∧
      ∀ created, (EventRuns.run (RequestHistory.step setup) ⟨node, created⟩ arrivals).node =
          EventRuns.run (Node.step setup) node events := by
  induction events generalizing node with
  | nil => exact ⟨[], fun _ member => absurd member List.not_mem_nil, fun _ => rfl⟩
  | cons current rest inductionHypothesis =>
    obtain ⟨moment, event⟩ := current
    obtain ⟨ops, consist, performed⟩ := handle_performs setup moment node event
    obtain ⟨later, laterConsist, laterRun⟩ := inductionHypothesis (node.handle setup moment event)
    refine ⟨ops.map (Prod.mk moment) ++ later, ?_, ?_⟩
    · intro arrival member
      rcases List.mem_append.1 member with now | afterwards
      · obtain ⟨op, isOp, rfl⟩ := List.mem_map.1 now
        exact ⟨event, List.mem_cons_self, consist op isOp⟩
      · obtain ⟨other, isEvent, consists⟩ := laterConsist arrival afterwards
        exact ⟨other, List.mem_cons_of_mem _ isEvent, consists⟩
    · intro created
      have reached := node_run_history setup moment ⟨node, created⟩ ops
      rw [performed] at reached
      rw [EventRuns.run_append]
      generalize EventRuns.run (RequestHistory.step setup)
        ⟨node, created⟩ (ops.map (Prod.mk moment)) = middle at reached ⊢
      obtain ⟨middleNode, middleCreated⟩ := middle
      subst reached
      exact laterRun middleCreated

end EscSideChain.Pbft
