import Mathlib.Data.List.Basic

namespace EventRuns

/-!
# Runs of an event-driven machine

A machine that handles one event at a time, the runs it makes, and the rule by which what
one event preserves holds in every state a run reaches.  A guard restricts the runs to
those in which every event meets a condition in the state it arrives in.
-/

variable {State Event : Type*}

def run (step : State → Event → State) : State → List Event → State
  | state, [] => state
  | state, event :: rest => run step (step state event) rest

/-- Every event of the run meets the guard in the state it arrives in. -/
def Along (guard : State → Event → Prop) (step : State → Event → State) : State → List Event → Prop
  | _, [] => True
  | state, event :: rest => guard state event ∧ Along guard step (step state event) rest

variable {guard : State → Event → Prop}
variable {step : State → Event → State}

instance instDecidableAlong [∀ state event, Decidable (guard state event)] :
    ∀ state events, Decidable (Along guard step state events)
  | _, [] => .isTrue trivial
  | state, event :: rest =>
    have := instDecidableAlong (step state event) rest
    inferInstanceAs (Decidable (_ ∧ _))

@[simp] theorem run_nil (state : State) : run step state [] = state :=
  rfl

@[simp] theorem run_cons (state : State) (event : Event) (rest : List Event) :
    run step state (event :: rest) = run step (step state event) rest :=
  rfl

theorem run_append (state : State) (first second : List Event) :
    run step state (first ++ second) = run step (run step state first) second := by
  induction first generalizing state with
  | nil => rfl
  | cons event rest inductionHypothesis => exact inductionHypothesis (step state event)

theorem along_append (state : State) (first second : List Event) :
    Along guard step state (first ++ second) ↔ Along guard step state first ∧
        Along guard step (run step state first) second := by
  induction first generalizing state with
  | nil => simp [Along]
  | cons event rest inductionHypothesis =>
    simp only [List.cons_append, Along, run_cons, inductionHypothesis, and_assoc]

variable {events : List Event} {state : State}

theorem along_imp {weaker : State → Event → Prop}
    (implies : ∀ state event, guard state event → weaker state event)
    (along : Along guard step state events) : Along weaker step state events := by
  induction events generalizing state with
  | nil => trivial
  | cons event rest inductionHypothesis =>
    exact ⟨implies state event along.1, inductionHypothesis along.2⟩

theorem along_of_mem {holds : Event → Prop} (state : State)
    (always : ∀ event ∈ events, holds event) :
    Along (fun _ event => holds event) step state events := by
  induction events generalizing state with
  | nil => trivial
  | cons event rest inductionHypothesis =>
    refine ⟨always event List.mem_cons_self, ?_⟩
    exact inductionHypothesis (step state event)
      fun later member => always later (List.mem_cons_of_mem _ member)

theorem along_and_of_mem {holds : Event → Prop}
    (always : ∀ event ∈ events, holds event) (along : Along guard step state events) :
    Along (fun state event => holds event ∧ guard state event) step
      state events := by
  induction events generalizing state with
  | nil => trivial
  | cons event rest inductionHypothesis =>
    refine ⟨⟨always event List.mem_cons_self, along.1⟩, ?_⟩
    exact inductionHypothesis (fun later member => always later (List.mem_cons_of_mem _ member))
      along.2

theorem run_invariant {invariant : State → Prop}
    (preserved : ∀ state event, guard state event → invariant state → invariant (step state event))
    {state : State} {events : List Event} (along : Along guard step state events)
    (initially : invariant state) : invariant (run step state events) := by
  induction events generalizing state with
  | nil => exact initially
  | cons event rest inductionHypothesis =>
    exact inductionHypothesis along.2 (preserved state event along.1 initially)

theorem run_invariant_of_mem {invariant : State → Prop} {state : State} {events : List Event}
    (preserved : ∀ state, ∀ event ∈ events, invariant state → invariant (step state event))
    (initially : invariant state) : invariant (run step state events) := by
  induction events generalizing state with
  | nil => exact initially
  | cons event rest inductionHypothesis =>
    exact inductionHypothesis (fun state event member =>
        preserved state event (List.mem_cons_of_mem _ member))
      (preserved state event List.mem_cons_self initially)

theorem run_invariant_of_forall {invariant : State → Prop}
    (preserved : ∀ state event, invariant state → invariant (step state event)) {state : State}
    (events : List Event) (initially : invariant state) : invariant (run step state events) :=
  run_invariant_of_mem (fun state event _ => preserved state event) initially

theorem along_and_invariant {invariant : State → Prop}
    (preserved : ∀ state event, guard state event → invariant state → invariant (step state event))
    {state : State} {events : List Event} (along : Along guard step state events)
    (initially : invariant state) :
    Along (fun state event => guard state event ∧ invariant state) step
      state events := by
  induction events generalizing state with
  | nil => trivial
  | cons event rest inductionHypothesis =>
    exact ⟨⟨along.1, initially⟩, inductionHypothesis along.2
        (preserved state event along.1 initially)⟩

theorem along_congr (invariant : State → Prop) {other : State → Event → Prop}
    (same : ∀ state event, invariant state → (guard state event ↔ other state event))
    (preserved : ∀ state event, guard state event → invariant state → invariant (step state event))
    (initially : invariant state) :
    Along guard step state events ↔ Along other step state events := by
  induction events generalizing state with
  | nil => exact Iff.rfl
  | cons event rest inductionHypothesis =>
    refine (and_congr_right fun meets => ?_).trans
      (and_congr_left fun _ => same state event initially)
    exact inductionHypothesis (preserved state event meets initially)

theorem run_iff_along (invariant good : State → Prop)
    (decided : ∀ state event, invariant state → good state →
      (good (step state event) ↔ guard state event))
    (lost : ∀ state event, invariant state → ¬good state → ¬good (step state event))
    (preserved : ∀ state event, invariant state → invariant (step state event))
    (initially : invariant state) (isGood : good state) :
    good (run step state events) ↔ Along guard step state events := by
  induction events generalizing state with
  | nil => exact iff_of_true isGood trivial
  | cons event rest inductionHypothesis =>
    have after := preserved state event initially
    by_cases meets : guard state event
    · refine (inductionHypothesis after ((decided state event initially isGood).2 meets)).trans ?_
      exact (and_iff_right meets).symm
    · refine iff_of_false (fun still => ?_) fun along => meets along.1
      have broken : ¬good (step state event) := fun kept =>
        meets ((decided state event initially isGood).1 kept)
      have stays : ∀ state event, invariant state ∧ ¬good state →
          invariant (step state event) ∧ ¬good (step state event) := fun state event both =>
        ⟨preserved state event both.1, lost state event both.1 both.2⟩
      exact (run_invariant_of_forall stays rest ⟨after, broken⟩).2 still

/-! ## Independent events -/

theorem run_independent {Part : Type*} {part : State → Event → Part} {change : Part → Part}
    (own : ∀ state event, part (step state event) event = change (part state event))
    (others : ∀ state event other, other ≠ event → part (step state event) other = part state other)
    (distinct : events.Nodup) (state : State) :
    (∀ event ∈ events, part (run step state events) event = change (part state event)) ∧
    ∀ event ∉ events, part (run step state events) event = part state event := by
  induction events generalizing state with
  | nil => exact ⟨fun _ member => (nomatch member), fun _ _ => rfl⟩
  | cons first rest inductionHypothesis =>
    obtain ⟨notLater, restDistinct⟩ := List.nodup_cons.1 distinct
    obtain ⟨inside, outside⟩ := inductionHypothesis restDistinct (step state first)
    constructor
    · intro event member
      by_cases isFirst : event = first
      · subst isFirst
        rw [run_cons, outside event notLater, own]
      rw [run_cons, inside event ((List.mem_cons.1 member).resolve_left isFirst),
        others state first event isFirst]
    · intro event absent
      rw [run_cons, outside event fun later =>
          absent (List.mem_cons_of_mem _ later),
        others state first event fun isFirst =>
          absent (isFirst ▸ List.mem_cons_self)]

/-! ## Counting along a run -/

/-- The sum of what the events amount to in the states they arrive in. -/
def tally (amount : State → Event → Nat) (step : State → Event → State) : State → List Event → Nat
  | _, [] => 0
  | state, event :: rest => amount state event + tally amount step (step state event) rest

theorem tally_le_one {amount : State → Event → Nat} {spent : State → Prop}
    {good : State → List Event → Prop}
    (next : ∀ state event rest, good state (event :: rest) → good (step state event) rest)
    (single : ∀ state event rest, good state (event :: rest) → amount state event ≤ 1)
    (spends : ∀ state event rest, good state (event :: rest) → amount state event ≠ 0 →
        ¬spent state ∧ spent (step state event))
    (keeps : ∀ state event rest, good state (event :: rest) → spent state →
        spent (step state event))
    {state : State}
    {events : List Event}
    (isGood : good state events) :
    tally amount step state events ≤ 1 ∧ (spent state → tally amount step state events = 0) := by
  induction events generalizing state with
  | nil => exact ⟨Nat.zero_le 1, fun _ => rfl⟩
  | cons event rest inductionHypothesis =>
    obtain ⟨atMostOne, noneLeft⟩ := inductionHypothesis (next state event rest isGood)
    unfold tally
    by_cases counts : amount state event = 0
    · rw [counts, Nat.zero_add]
      exact ⟨atMostOne, fun isSpent =>
        noneLeft (keeps state event rest isGood isSpent)⟩
    obtain ⟨unspent, isSpent⟩ := spends state event rest isGood counts
    rw [noneLeft isSpent, Nat.add_zero]
    exact ⟨single state event rest isGood, fun already => absurd already unspent⟩

/-! ## What a run puts out -/

def outputs {Output : Type*} (output : State → Event → List Output) (step : State → Event → State) :
    State → List Event → List Output
  | _, [] => []
  | state, event :: rest => output state event ++ outputs output step (step state event) rest

theorem outputs_good {Output : Type*} {output : State → Event → List Output}
    {invariant : State → Prop} {good : Output → Prop}
    (preserved : ∀ state event, guard state event → invariant state → invariant (step state event))
    (sound : ∀ state event, guard state event → invariant state →
        ∀ put ∈ output state event, good put)
    (along : Along guard step state events)
    (initially : invariant state) :
    ∀ put ∈ outputs output step state events, good put := by
  induction events generalizing state with
  | nil =>
    intro put nothing
    cases nothing
  | cons event rest inductionHypothesis =>
    intro put member
    rcases List.mem_append.1 member with now | later
    · exact sound state event along.1 initially put now
    · exact inductionHypothesis along.2 (preserved state event along.1 initially) put later

end EventRuns
