import EscSideChain.PbftConfirms

namespace EscSideChain.Pbft

open Dpos

/-!
# Adopting a confirm

`OnConfirmReceived` clears the accept votes and hands the votes of the confirm
to `ProcessVote` by the address of its loop variable.  The map keeps that
address under every hash, so each entry shows the vote of the current turn, and
a confirm made from the map repeats one vote.
-/

/-! ## The loop variable -/

section Variable

variable {aliased : List Hash} {vote : DPOSProposalVote}
variable {votes : GoMap Hash DPOSProposalVote} {first hash : Hash}

theorem assignLoopVariable_cons :
    Node.assignLoopVariable (first :: aliased) vote votes = Node.assignLoopVariable aliased vote
        (if (votes.lookup first).isSome then votes.insert first vote
        else
          votes) :=
  rfl

theorem lookup_assignAlias : AList.lookup hash (if (votes.lookup first).isSome then
          votes.insert first vote
        else votes) =
      if hash = first then (votes.lookup hash).map fun _ => vote
      else
        votes.lookup hash := by
  by_cases same : hash = first
  · subst same
    cases found : votes.lookup hash with
    | none => simp [found]
    | some stored => simp
  · rw [if_neg same]
    split
    · exact AList.lookup_insert_ne same
    · rfl

theorem lookup_assignLoopVariable : (Node.assignLoopVariable aliased vote votes).lookup hash =
      if hash ∈ aliased then (votes.lookup hash).map fun _ => vote
      else
        votes.lookup hash := by
  induction aliased generalizing votes with
  | nil => rfl
  | cons first rest inductionHypothesis =>
    rw [assignLoopVariable_cons, inductionHypothesis, lookup_assignAlias]
    by_cases same : hash = first
    · subst same
      cases votes.lookup hash <;> simp
    · simp [same]

theorem isSome_lookup_assignLoopVariable :
    ((Node.assignLoopVariable aliased vote votes).lookup hash).isSome =
      (votes.lookup hash).isSome := by
  rw [lookup_assignLoopVariable]
  split
  · exact Option.isSome_map
  · rfl

theorem len_assignLoopVariable : (Node.assignLoopVariable aliased vote votes).len = votes.len := by
  induction aliased generalizing votes with
  | nil => rfl
  | cons first rest inductionHypothesis =>
    rw [assignLoopVariable_cons, inductionHypothesis]
    split
    · next found => exact GoMap.len_insert_known found
    · rfl

end Variable

/-! ## The confirms of the loop -/

namespace Node

/-- The node in the turn of the loop for a vote, before `ProcessVote`. -/
def withLoopVariable (aliased : List Hash) (vote : DPOSProposalVote) (node : Node) : Node :=
  { node with
    dispatcher := { node.dispatcher with
      acceptVotes := assignLoopVariable aliased vote node.dispatcher.acceptVotes
      rejectedVotes := assignLoopVariable aliased vote node.dispatcher.rejectedVotes } }

variable (setup : Setup) (moment : Moment)

/-- The confirms that the loop of `OnConfirmReceived` hands to `onConfirm`. -/
def loopConfirms : List DPOSProposalVote → List Hash → Node → List Confirm
  | [], _, _ => []
  | vote :: rest, aliased, node =>
    let assigned := node.withLoopVariable aliased vote
    let fresh := assigned.dispatcher.alreadyExistVote setup.ela vote = false
    assigned.emittedByVote setup moment (moment.order 0) vote ++ loopConfirms rest
        (if fresh then setup.ela.voteHash vote :: aliased else aliased)
        (assigned.processVote setup moment (moment.order 0) vote).1

/-- None of the tests of `OnConfirmReceived` makes it return. -/
def Adopts (node : Node) (confirm : Confirm) (height : UInt64) : Prop :=
  node.view.isDposOnDuty = false ∧ height ≤ moment.currentHeight + 1 ∧
    node.dispatcher.finishedHeight < height ∧
    (node.pool.heightConfirms.lookup height).isSome = false ∧
    (node.pool.blocks.lookup confirm.proposal.blockHash).isSome = true ∧
    (node.pool.confirms.lookup confirm.proposal.blockHash).isSome = false

instance (node : Node) (confirm : Confirm) (height : UInt64) :
    Decidable (node.Adopts moment confirm height) :=
  inferInstanceAs (Decidable (_ ∧ _))

/-- The confirms that `OnConfirmReceived` hands to `onConfirm`. -/
def adoptedConfirms (node : Node) (confirm : Confirm) (height : UInt64) : List Confirm :=
  if node.Adopts moment confirm height then
    loopConfirms setup moment confirm.votes [] node.resetAcceptVotes
  else []

end Node

/-! ## What the loop counts -/

/-- A vote that `ProcessVote` counts unless its hash is known. -/
def Eligible (setup : Setup) (table : Producers) (proposal : DPOSProposal)
    (vote : DPOSProposalVote) : Prop :=
  vote.proposalHash = setup.ela.proposalHash proposal ∧ table.isProducers vote.signer = true ∧
    checkVote setup.ela vote = .ok ()

instance (setup : Setup) (table : Producers) (proposal : DPOSProposal) (vote : DPOSProposalVote) :
    Decidable (Eligible setup table proposal vote) :=
  inferInstanceAs (Decidable (_ ∧ _))

/-- The number of accept votes that are counted, given the known hashes. -/
def countedAccepts (setup : Setup) (table : Producers) (proposal : DPOSProposal) :
    List Hash → List DPOSProposalVote → Nat
  | _, [] => 0
  | known, vote :: rest =>
    if Eligible setup table proposal vote ∧ setup.ela.voteHash vote ∉ known then
      (if vote.accept then 1 else 0) + countedAccepts setup table proposal
          (setup.ela.voteHash vote :: known) rest
    else countedAccepts setup table proposal known rest

def repeatedConfirms (setup : Setup) (table : Producers) (proposal : DPOSProposal) :
    Nat → List Hash → List DPOSProposalVote → List Confirm
  | _, _, [] => []
  | count, known, vote :: rest =>
    if Eligible setup table proposal vote ∧ setup.ela.voteHash vote ∉ known then
      if vote.accept then
        (if table.isMajorityAgree (count + 1) then [⟨proposal, List.replicate (count + 1) vote⟩]
        else
          []) ++
          repeatedConfirms setup table proposal (count + 1) (setup.ela.voteHash vote :: known) rest
      else repeatedConfirms setup table proposal count (setup.ela.voteHash vote :: known) rest
    else repeatedConfirms setup table proposal count known rest

structure LoopState (table : Producers) (proposal : DPOSProposal) (aliased known : List Hash)
    (node : Node) : Prop where
  table : node.view.producers = table
  processing : node.dispatcher.processingProposal = some proposal
  aliased : ∀ hash, (node.dispatcher.acceptVotes.lookup hash).isSome = true → hash ∈ aliased
  known : ∀ hash, hash ∈ known ↔ (node.dispatcher.acceptVotes.lookup hash).isSome = true ∨
      (node.dispatcher.rejectedVotes.lookup hash).isSome = true

section Turn

variable {setup : Setup} {moment : Moment} {table : Producers}
variable {proposal : DPOSProposal} {aliased known : List Hash}
variable {node : Node} {vote : DPOSProposalVote} {order : IterationOrder}

section

variable (state : LoopState table proposal aliased known node)

include state

theorem LoopState.alreadyExistVote_iff :
    node.dispatcher.alreadyExistVote setup.ela vote = true ↔ setup.ela.voteHash vote ∈ known := by
  rw [state.known, Dispatcher.alreadyExistVote, Bool.or_eq_true]

theorem LoopState.withLoopVariable :
    LoopState table proposal aliased known (node.withLoopVariable aliased vote) where
  table := state.table
  processing := state.processing
  aliased hash stored := by
    rw [Node.withLoopVariable, isSome_lookup_assignLoopVariable] at stored
    exact state.aliased hash stored
  known hash := by
    rw [Node.withLoopVariable]
    dsimp only
    rw [isSome_lookup_assignLoopVariable, isSome_lookup_assignLoopVariable]
    exact state.known hash

theorem LoopState.stored_eq {hash : Hash} {stored : DPOSProposalVote}
    (found : (node.withLoopVariable aliased
      vote).dispatcher.acceptVotes.lookup hash = some stored) :
    stored = vote := by
  have isAlias : hash ∈ aliased := state.withLoopVariable.aliased hash (by rw [found]; rfl)
  rw [Node.withLoopVariable] at found
  dsimp only at found
  rw [lookup_assignLoopVariable, if_pos isAlias, Option.map_eq_some_iff] at found
  obtain ⟨earlier, -, same⟩ := found
  exact same.symm

theorem processVote_of_eligible
    (eligible : Eligible setup table proposal vote) (new : setup.ela.voteHash vote ∉ known) :
    node.processVote setup moment order vote =
      if vote.accept then node.countAccept setup moment order vote
      else
        node.countReject setup order vote := by
  obtain ⟨sameProposal, seated, signed⟩ := eligible
  have unknown : ¬node.dispatcher.alreadyExistVote setup.ela vote = true :=
    fun exists_ => new (state.alreadyExistVote_iff.mp exists_)
  unfold Node.processVote
  rw [state.processing]
  dsimp only
  rw [if_neg (not_not.mpr sameProposal), if_neg unknown, state.table,
    if_neg (by simp [seated]), signed]

end

theorem processVote_of_refused (state : LoopState table proposal aliased known node)
    (refused : ¬(Eligible setup table proposal vote ∧ setup.ela.voteHash vote ∉ known)) :
    ∃ reason, node.processVote setup moment order vote = (node, false, .error reason) := by
  unfold Node.processVote
  rw [state.processing]
  dsimp only
  split
  · exact ⟨_, rfl⟩
  next sameProposal =>
    split
    · exact ⟨_, rfl⟩
    next unknown =>
      split
      · exact ⟨_, rfl⟩
      next seated =>
        split
        · exact ⟨_, rfl⟩
        next signed =>
          refine absurd ⟨⟨not_not.mp sameProposal, ?_, signed⟩, fun isKnown => unknown
              (state.alreadyExistVote_iff.mpr isKnown)⟩ refused
          rw [← state.table]
          exact Bool.eq_true_of_not_eq_false seated

theorem turn_accepts (state : LoopState table proposal aliased known node)
    (eligible : Eligible setup table proposal vote) (new : setup.ela.voteHash vote ∉ known)
    (accepts : vote.accept = true) :
    let assigned := node.withLoopVariable aliased vote
    let processed := (assigned.processVote setup moment order vote).1
    LoopState table proposal (setup.ela.voteHash vote :: aliased)
        (setup.ela.voteHash vote :: known) processed ∧
      processed.dispatcher.acceptVotes.len = node.dispatcher.acceptVotes.len + 1 ∧
      assigned.emittedByVote setup moment order vote =
        if table.isMajorityAgree (node.dispatcher.acceptVotes.len + 1) then
          [⟨proposal, List.replicate (node.dispatcher.acceptVotes.len + 1) vote⟩]
        else
          [] := by
  intro assigned processed
  have assignedState : LoopState table proposal aliased known assigned := state.withLoopVariable
  have counted : assigned.processVote setup moment order vote =
      assigned.countAccept setup moment order vote := by
    rw [processVote_of_eligible assignedState eligible new, if_pos accepts]
  obtain ⟨sameView, dispatcher, finished⟩ :=
    @Node.countAccept_frame setup moment assigned order vote
  have processedEq : processed = (assigned.countAccept setup moment order vote).1 :=
    congrArg Prod.fst counted
  have missing : assigned.dispatcher.acceptVotes.lookup (setup.ela.voteHash vote) = none := by
    rw [← Option.not_isSome_iff_eq_none]
    exact fun stored => new ((assignedState.known _).mpr (.inl stored))
  have length : (assigned.withAccept setup vote).acceptVotes.len =
      node.dispatcher.acceptVotes.len + 1 := by
    rw [Node.withAccept, GoMap.len_insert_new missing]
    exact congrArg (· + 1) len_assignLoopVariable
  have lookups : ∀ hash, ((assigned.withAccept setup vote).acceptVotes.lookup hash).isSome = true ↔
        hash = setup.ela.voteHash vote ∨
          (assigned.dispatcher.acceptVotes.lookup hash).isSome = true :=
    fun _ => GoMap.isSome_lookup_insert
  have values : ∀ hash stored, (assigned.withAccept setup vote).acceptVotes.lookup hash =
        some stored → stored = vote := by
    intro hash stored found
    rcases GoMap.lookup_insert_cases found with ⟨-, same⟩ | before
    · exact same
    · exact state.stored_eq before
  refine ⟨?_, ?_, ?_⟩
  · rw [processedEq]
    refine ⟨?_, ?_, ?_, ?_⟩
    · rw [sameView]
      exact assignedState.table
    · rw [dispatcher]
      exact assignedState.processing
    · intro hash stored
      rw [dispatcher, lookups] at stored
      exact List.mem_cons.mpr (stored.imp_right (assignedState.aliased hash))
    · intro hash
      rw [dispatcher, lookups, List.mem_cons, assignedState.known, or_assoc]
      rfl
  · rw [processedEq, dispatcher, length]
  · unfold Node.emittedByVote Node.confirmIf
    rw [counted]
    dsimp only
    rw [finished, dispatcher, length, assignedState.table]
    split
    · have confirm : (assigned.withAccept setup vote).createConfirm order =
          some ⟨proposal, List.replicate (node.dispatcher.acceptVotes.len + 1) vote⟩ := by
        rw [Dispatcher.createConfirm,
          show (assigned.withAccept setup vote).processingProposal =
            some proposal from assignedState.processing,
          GoMap.map_snd_iterate_eq_replicate values, length]
        rfl
      rw [confirm]
      rfl
    · rfl

theorem turn_rejects (state : LoopState table proposal aliased known node)
    (eligible : Eligible setup table proposal vote) (new : setup.ela.voteHash vote ∉ known)
    (rejects : ¬vote.accept = true) :
    let assigned := node.withLoopVariable aliased vote
    let processed := (assigned.processVote setup moment order vote).1
    LoopState table proposal (setup.ela.voteHash vote :: aliased)
        (setup.ela.voteHash vote :: known) processed ∧
      processed.dispatcher.acceptVotes.len = node.dispatcher.acceptVotes.len ∧
      assigned.emittedByVote setup moment order vote = [] := by
  intro assigned processed
  have assignedState : LoopState table proposal aliased known assigned := state.withLoopVariable
  have counted : assigned.processVote setup moment order vote =
      assigned.countReject setup order vote := by
    rw [processVote_of_eligible assignedState eligible new, if_neg rejects]
  obtain ⟨sameView, dispatcher, finished⟩ := @Node.countReject_frame setup assigned order vote
  have processedEq : processed = (assigned.countReject setup order vote).1 :=
    congrArg Prod.fst counted
  have lookups : ∀ hash,
      ((assigned.withReject setup vote).rejectedVotes.lookup hash).isSome = true ↔
        hash = setup.ela.voteHash vote ∨ (assigned.dispatcher.rejectedVotes.lookup hash).isSome =
            true :=
    fun _ => GoMap.isSome_lookup_insert
  refine ⟨?_, ?_, ?_⟩
  · rw [processedEq]
    refine ⟨?_, ?_, ?_, ?_⟩
    · rw [sameView]
      exact assignedState.table
    · rw [dispatcher]
      exact assignedState.processing
    · intro hash stored
      rw [dispatcher] at stored
      exact List.mem_cons_of_mem _ (assignedState.aliased hash stored)
    · intro hash
      rw [dispatcher, lookups, List.mem_cons, assignedState.known, or_left_comm]
      rfl
  · rw [processedEq, dispatcher]
    exact len_assignLoopVariable
  · unfold Node.emittedByVote Node.confirmIf
    rw [counted]
    dsimp only
    rw [finished]
    rfl

theorem turn_refuses (state : LoopState table proposal aliased known node)
    (refused : ¬(Eligible setup table proposal vote ∧ setup.ela.voteHash vote ∉ known)) :
    let assigned := node.withLoopVariable aliased vote
    let processed := (assigned.processVote setup moment order vote).1
    LoopState table proposal aliased known processed ∧ processed.dispatcher.acceptVotes.len =
        node.dispatcher.acceptVotes.len ∧
      assigned.emittedByVote setup moment order vote = [] := by
  intro assigned processed
  have assignedState : LoopState table proposal aliased known assigned := state.withLoopVariable
  obtain ⟨reason, refusal⟩ := @processVote_of_refused setup moment table
    proposal aliased known assigned vote order assignedState refused
  have processedEq : processed = assigned := congrArg Prod.fst refusal
  refine ⟨?_, ?_, ?_⟩
  · rw [processedEq]
    exact assignedState
  · rw [processedEq]
    exact len_assignLoopVariable
  · unfold Node.emittedByVote
    rw [refusal]
    rfl

theorem loopConfirms_eq {votes : List DPOSProposalVote}
    (state : LoopState table proposal aliased known node) :
    Node.loopConfirms setup moment votes aliased node = repeatedConfirms setup table proposal
        node.dispatcher.acceptVotes.len known votes := by
  induction votes generalizing aliased known node with
  | nil => rfl
  | cons vote rest inductionHypothesis =>
    unfold Node.loopConfirms repeatedConfirms
    dsimp only
    by_cases counts : Eligible setup table proposal vote ∧ setup.ela.voteHash vote ∉ known
    · have fresh : (node.withLoopVariable aliased vote).dispatcher.alreadyExistVote setup.ela vote =
            false := by
        rw [Bool.eq_false_iff, ne_eq, state.withLoopVariable.alreadyExistVote_iff]
        exact counts.2
      rw [if_pos counts, if_pos fresh]
      by_cases accepts : vote.accept = true
      · obtain ⟨next, length, emission⟩ := @turn_accepts setup moment
          table proposal aliased known node vote (moment.order 0) state counts.1 counts.2 accepts
        rw [if_pos accepts, emission, inductionHypothesis next, length]
      obtain ⟨next, length, emission⟩ := @turn_rejects setup moment
        table proposal aliased known node vote (moment.order 0) state counts.1 counts.2 accepts
      rw [if_neg accepts, emission, inductionHypothesis next, length]
      rfl
    · obtain ⟨next, length, emission⟩ := @turn_refuses setup moment
        table proposal aliased known node vote (moment.order 0) state counts
      rw [if_neg counts, emission, List.nil_append, ← length]
      refine inductionHypothesis { next with aliased := fun hash stored => ?_ }
      have known := next.aliased hash stored
      split
      · exact List.mem_cons_of_mem _ known
      · exact known

end Turn

/-! ## Which confirms repeat a vote -/

section Repeated

variable {setup : Setup} {table : Producers} {proposal : DPOSProposal}

theorem mem_repeatedConfirms {count : Nat} {known : List Hash} {votes : List DPOSProposalVote}
    {confirm : Confirm}
    (emission : confirm ∈ repeatedConfirms setup table proposal count known votes) :
    ∃ repeats, ∃ vote ∈ votes, confirm.votes = List.replicate repeats vote ∧
        table.getMajorityCount < repeats ∧ repeats ≤ count +
          countedAccepts setup table proposal known votes := by
  induction votes generalizing count known with
  | nil => cases emission
  | cons vote rest inductionHypothesis =>
    have later : ∀ {next : Nat} {hashes : List Hash},
        confirm ∈ repeatedConfirms setup table proposal next hashes rest →
        next + countedAccepts setup table proposal hashes rest ≤
          count + countedAccepts setup table proposal known (vote :: rest) →
        ∃ repeats, ∃ other ∈ vote :: rest, confirm.votes = List.replicate repeats other ∧
            table.getMajorityCount < repeats ∧
            repeats ≤ count + countedAccepts setup table proposal known (vote :: rest) := by
      intro next hashes emittedLater bound
      obtain ⟨repeats, other, member, same, enough, atMost⟩ := inductionHypothesis emittedLater
      exact ⟨repeats, other, List.mem_cons_of_mem vote member, same, enough, atMost.trans bound⟩
    unfold repeatedConfirms at emission
    split at emission
    · next counts =>
        have step : countedAccepts setup table proposal known (vote :: rest) =
              (if vote.accept then 1 else 0) + countedAccepts setup table proposal
                  (setup.ela.voteHash vote :: known) rest :=
          if_pos counts
        split at emission
        · next accepts =>
            rw [if_pos accepts] at step
            rcases List.mem_append.mp emission with now | afterwards
            · split at now
              · next agreed =>
                  obtain rfl := List.mem_singleton.mp now
                  refine ⟨count + 1, vote, List.mem_cons_self, rfl, of_decide_eq_true agreed, ?_⟩
                  omega
              · cases now
            · exact later afterwards (by omega)
        · next rejects =>
            rw [if_neg rejects] at step
            exact later emission (by omega)
    · next refused =>
        have step : countedAccepts setup table proposal known (vote :: rest) =
              countedAccepts setup table proposal known rest :=
          if_neg refused
        exact later emission (by omega)

theorem exists_mem_repeatedConfirms {count : Nat} {known : List Hash}
    {votes : List DPOSProposalVote} (some : countedAccepts setup table proposal known votes ≠ 0)
    (agreed : table.getMajorityCount < count + countedAccepts setup table proposal known votes) :
    ∃ confirm ∈ repeatedConfirms setup table proposal count known votes, confirm.votes.length =
        count + countedAccepts setup table proposal known votes := by
  induction votes generalizing count known with
  | nil => exact absurd rfl some
  | cons vote rest inductionHypothesis =>
    unfold repeatedConfirms
    by_cases counts : Eligible setup table proposal vote ∧ setup.ela.voteHash vote ∉ known
    · have step : countedAccepts setup table proposal known (vote :: rest) =
            (if vote.accept then 1 else 0) + countedAccepts setup table proposal
                (setup.ela.voteHash vote :: known) rest :=
        if_pos counts
      rw [if_pos counts]
      by_cases accepts : vote.accept = true
      · rw [if_pos accepts] at step ⊢
        by_cases last : countedAccepts setup table proposal
            (setup.ela.voteHash vote :: known) rest = 0
        · have majority : table.isMajorityAgree (count + 1) = true := decide_eq_true (by omega)
          refine ⟨⟨proposal, List.replicate (count + 1) vote⟩, List.mem_append_left _ ?_, ?_⟩
          · rw [if_pos majority]
            exact List.mem_singleton_self _
          · rw [List.length_replicate, step, last]
        · obtain ⟨confirm, member, length⟩ := @inductionHypothesis (count + 1) _ last (by omega)
          exact ⟨confirm, List.mem_append_right _ member, by omega⟩
      · rw [if_neg accepts, Nat.zero_add] at step
        rw [if_neg accepts, step]
        rw [step] at some agreed
        exact inductionHypothesis some agreed
    · have step : countedAccepts setup table proposal known (vote :: rest) =
            countedAccepts setup table proposal known rest :=
        if_neg counts
      rw [if_neg counts, step]
      rw [step] at some agreed
      exact inductionHypothesis some agreed

end Repeated

/-- The votes of a confirm are, up to order, different votes of another one. -/
def SelectsVotes (adopted confirm : Confirm) : Prop :=
  adopted.votes.Nodup ∧ adopted.votes.Subperm confirm.votes

/--
Every confirm that `OnConfirmReceived` hands on is a selection of the received
votes if and only if one of its tests makes it return, or no more accept votes
are counted than the majority count or one.
-/
theorem adoptedConfirms_select_iff (setup : Setup) (moment : Moment) (node : Node)
    (confirm : Confirm) (height : UInt64) (proposal : DPOSProposal)
    (processing : node.dispatcher.processingProposal = some proposal) :
    (∀ adopted ∈ node.adoptedConfirms setup moment confirm height, SelectsVotes adopted confirm) ↔
      ¬node.Adopts moment confirm height ∨ countedAccepts setup node.view.producers proposal
            node.dispatcher.rejectedVotes.keys confirm.votes ≤
          max 1 node.view.producers.getMajorityCount := by
  have start : LoopState node.view.producers proposal []
      node.dispatcher.rejectedVotes.keys node.resetAcceptVotes := by
    refine ⟨rfl, processing, fun hash stored => ?_, fun hash => ?_⟩
    · cases stored
    · rw [← AList.mem_keys, ← AList.lookup_isSome]
      exact (or_iff_right Bool.false_ne_true).symm
  have confirms : node.Adopts moment confirm height →
      node.adoptedConfirms setup moment confirm height =
        repeatedConfirms setup node.view.producers proposal 0
          node.dispatcher.rejectedVotes.keys confirm.votes :=
    fun adopts => (if_pos adopts).trans (loopConfirms_eq start)
  by_cases adopts : node.Adopts moment confirm height
  · rw [confirms adopts]
    constructor
    · intro selects
      right
      by_contra many
      obtain ⟨adopted, emission, length⟩ :=
        @exists_mem_repeatedConfirms setup node.view.producers proposal 0
          node.dispatcher.rejectedVotes.keys confirm.votes (by omega) (by omega)
      obtain ⟨repeats, vote, -, same, -, -⟩ := mem_repeatedConfirms emission
      have distinct := (selects adopted emission).1
      rw [same, List.nodup_replicate] at distinct
      rw [same, List.length_replicate] at length
      omega
    · rintro (refused | few) adopted emission
      · exact absurd adopts refused
      · obtain ⟨repeats, vote, member, same, enough, atMost⟩ := mem_repeatedConfirms emission
        have single : repeats = 1 := by omega
        unfold SelectsVotes
        rw [same, single]
        exact ⟨List.nodup_singleton vote, List.singleton_subperm_iff.mpr member⟩
  · have nothing : node.adoptedConfirms setup moment confirm height = [] := if_neg adopts
    simp [nothing, adopts]

namespace Sample

def proposedNode : Node :=
  let node := Node.new [4] fourProducers
  let pooled := { node with
    pool := { node.pool with
      blocks := node.pool.blocks.insert
        (digest (encodeSigHeader (waitingBlock 5))) (waitingBlock 5) } }
  { pooled with
    dispatcher := { pooled.dispatcher with
      processingProposal := some (proposalFor [1] 5 0) } }

def receivedConfirm (voters : List Bytes) : Confirm :=
  ⟨proposalFor [1] 5 0, voters.map (voteFor · 5)⟩

end Sample

open Sample

/-- Two votes of four producers are no majority, and nothing is handed on. -/
theorem adoptedConfirms_select_iff_two_votes :
    proposedNode.Adopts (at_ 2) (receivedConfirm [[1], [2]]) 1 ∧
      ∀ adopted ∈ proposedNode.adoptedConfirms (setup [4]) (at_ 2) (receivedConfirm [[1], [2]]) 1,
        SelectsVotes adopted (receivedConfirm [[1], [2]]) :=
  ⟨by decide +kernel,
    (adoptedConfirms_select_iff (setup [4]) (at_ 2) proposedNode (receivedConfirm [[1], [2]]) 1
      (proposalFor [1] 5 0) rfl).mpr (.inr (by decide +kernel))⟩

/--
A confirm with the votes of three producers is handed on with the vote of the
third one three times.
-/
theorem adopted_confirm_repeats_vote :
    proposedNode.dispatcher.processingProposal = some (receivedConfirm [[1], [2], [3]]).proposal ∧
      (receivedConfirm [[1], [2], [3]]).votes.Nodup ∧ proposedNode.adoptedConfirms (setup [4])
          (at_ 2) (receivedConfirm [[1], [2], [3]]) 1 =
        [⟨proposalFor [1] 5 0, [voteFor [3] 5, voteFor [3] 5, voteFor [3] 5]⟩] ∧
      ¬SelectsVotes ⟨proposalFor [1] 5 0, [voteFor [3] 5, voteFor [3] 5, voteFor [3] 5]⟩
        (receivedConfirm [[1], [2], [3]]) :=
  ⟨rfl, by decide +kernel, by decide +kernel, fun selects => absurd selects.1 (by simp)⟩

end EscSideChain.Pbft
