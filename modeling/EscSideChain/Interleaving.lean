import EscSideChain.EventRuns
import Mathlib.Logic.Function.Basic

namespace Interleaving

/-!
# Interleavings of calls

Threads that make calls on one shared state.  A call is a chain of sections, each of which
runs without interruption because it holds a lock; between two sections of a call any
other thread may run.
-/

/-- The shared state, and the call that each thread has begun and not finished. -/
structure World (Thread Shared Call : Type*) where
  shared : Shared
  calls : Thread → Option Call

inductive Turn (Thread Call : Type*) where
  | start (thread : Thread) (call : Call)
  | resume (thread : Thread)

variable {Thread Shared Call : Type*}

variable {world : World Thread Shared Call} {invariant : Shared → Prop} {thread : Thread}

namespace World

def idle (shared : Shared) : World Thread Shared Call where
  shared := shared
  calls _ := none

def Quiet (world : World Thread Shared Call) : Prop :=
  ∀ thread, world.calls thread = none

def InProgress (world : World Thread Shared Call) (call : Call) : Prop :=
  ∃ thread, world.calls thread = some call

theorem Quiet.not_inProgress (quiet : world.Quiet) (call : Call) : ¬world.InProgress call := by
  rintro ⟨thread, begun⟩
  rw [quiet thread] at begun
  cases begun

end World

variable [DecidableEq Thread]

/--
One turn.  A section changes the shared state and leaves the call that is still
to be made, if there is one.  A thread makes one call at a time.
-/
def step (advance : Call → Shared → Shared × Option Call) (world : World Thread Shared Call) :
    Turn Thread Call → World Thread Shared Call
  | .start thread call =>
    match world.calls thread with
    | none =>
      { world with
        calls := Function.update world.calls thread (some call) }
    | some _ => world
  | .resume thread =>
    match world.calls thread with
    | none => world
    | some call =>
      { shared := (advance call world.shared).1
        calls := Function.update world.calls thread (advance call world.shared).2 }

def Guarded (safe : Shared → Call → Prop) (world : World Thread Shared Call) :
    Turn Thread Call → Prop
  | .start _ _ => True
  | .resume thread => ∀ call ∈ world.calls thread, safe world.shared call

instance instDecidableGuarded {safe : Shared → Call → Prop}
    [∀ shared call, Decidable (safe shared call)] (world : World Thread Shared Call) :
    ∀ turn : Turn Thread Call, Decidable (Guarded safe world turn)
  | .start _ _ => .isTrue trivial
  | .resume thread =>
    inferInstanceAs (Decidable (∀ call ∈ world.calls thread, safe world.shared call))

variable {advance : Call → Shared → Shared × Option Call}
variable {safe : Shared → Call → Prop}

theorem step_cases (advance : Call → Shared → Shared × Option Call)
    (world : World Thread Shared Call) (turn : Turn Thread Call) :
    step advance world turn = world ∨ (∃ thread call, turn = .start thread call ∧
          world.calls thread = none ∧ step advance world turn = { world with
              calls := Function.update world.calls thread (some call) }) ∨
      ∃ thread call, turn = .resume thread ∧ world.calls thread = some call ∧
          step advance world turn =
            { shared := (advance call world.shared).1
              calls := Function.update world.calls thread (advance call world.shared).2 } := by
  cases turn with
  | start thread call =>
    cases begun : world.calls thread with
    | none =>
      exact .inr (.inl ⟨thread, call, rfl, begun, by
        simp [step, begun]⟩)
    | some other => exact .inl (by simp [step, begun])
  | resume thread =>
    cases begun : world.calls thread with
    | none => exact .inl (by simp [step, begun])
    | some call =>
      exact .inr (.inr ⟨thread, call, rfl, begun, by
        simp [step, begun]⟩)

theorem World.InProgress.start
    {call other : Call} (idle : world.calls thread = none) (begun : world.InProgress other) :
    World.InProgress { world with
      calls := Function.update world.calls thread (some call) } other := by
  obtain ⟨owner, owned⟩ := begun
  refine ⟨owner, ?_⟩
  have different : owner ≠ thread := by
    rintro rfl
    rw [idle] at owned
    cases owned
  exact (Function.update_of_ne different _ _).trans owned

theorem step_invariant {invariant : Shared → (Call → Prop) → Prop}
    (mono : ∀ shared begun more, (∀ call, begun call → more call) →
        invariant shared begun → invariant shared more)
    (kept : ∀ shared call (others : Call → Prop), safe shared call →
        invariant shared (fun other => others other ∨ other = call) →
          invariant (advance call shared).1 fun other =>
            others other ∨ (advance call shared).2 = some other)
    (world : World Thread Shared Call)
    (turn : Turn Thread Call)
    (guarded : Guarded safe world turn)
    (holds : invariant world.shared world.InProgress) :
    invariant (step advance world turn).shared (step advance world turn).InProgress := by
  rcases step_cases advance world turn with
    same | ⟨thread, call, -, idle, started⟩ | ⟨thread, call, rfl, begun, resumed⟩
  · rw [same]
    exact holds
  · rw [started]
    exact mono _ _ _ (fun _ => World.InProgress.start idle) holds
  · rw [resumed]
    let others : Call → Prop := fun other =>
      ∃ owner, owner ≠ thread ∧ world.calls owner = some other
    have before : invariant world.shared (fun other => others other ∨ other = call) := by
      refine mono _ _ _ ?_ holds
      rintro other ⟨owner, owned⟩
      by_cases same : owner = thread
      · rw [same, begun] at owned
        exact .inr (Option.some.inj owned).symm
      · exact .inl ⟨owner, same, owned⟩
    refine mono _ _ _ ?_ (kept world.shared call others (guarded call begun) before)
    rintro other (⟨owner, different, owned⟩ | next)
    · exact ⟨owner, (Function.update_of_ne different _ _).trans owned⟩
    · exact ⟨thread, (Function.update_self _ _ _).trans next⟩

theorem run_invariant {invariant : Shared → (Call → Prop) → Prop}
    (mono : ∀ shared begun more, (∀ call, begun call → more call) →
        invariant shared begun → invariant shared more)
    (kept : ∀ shared call (others : Call → Prop), safe shared call →
        invariant shared (fun other => others other ∨ other = call) →
          invariant (advance call shared).1 fun other =>
            others other ∨ (advance call shared).2 = some other)
    {world : World Thread Shared Call}
    {turns : List (Turn Thread Call)}
    (guarded : EventRuns.Along (Guarded safe) (step advance) world turns)
    (initially : invariant world.shared world.InProgress) :
    invariant (EventRuns.run (step advance) world turns).shared
      (EventRuns.run (step advance) world turns).InProgress :=
  @EventRuns.run_invariant (World Thread Shared Call) _ _ _
    (fun world => invariant world.shared world.InProgress)
    (step_invariant mono kept) _ _ guarded initially

section

variable (kept : ∀ shared call, invariant shared → invariant (advance call shared).1)

include kept

theorem step_shared_invariant
    (world : World Thread Shared Call) (turn : Turn Thread Call) (holds : invariant world.shared) :
    invariant (step advance world turn).shared := by
  rcases step_cases advance world turn with
    same | ⟨thread, call, -, -, started⟩ | ⟨thread, call, -, -, resumed⟩
  · rw [same]
    exact holds
  · rw [started]
    exact holds
  · rw [resumed]
    exact kept world.shared call holds

theorem run_shared_invariant
    (turns : List (Turn Thread Call)) (initially : invariant world.shared) :
    invariant (EventRuns.run (step advance) world turns).shared :=
  @EventRuns.run_invariant_of_forall (World Thread Shared Call) _ _
    (fun world => invariant world.shared) (step_shared_invariant kept) _ turns initially

theorem along_sections {change : Shared → Shared → Prop}
    (reflexive : ∀ shared, change shared shared)
    (changes : ∀ shared call, invariant shared → safe shared call →
        change shared (advance call shared).1)
    {turns : List (Turn Thread Call)}
    (guarded : EventRuns.Along (Guarded safe) (step advance) world turns)
    (initially : invariant world.shared) :
    EventRuns.Along (fun world turn =>
        change world.shared (step advance world turn).shared)
      (step advance) world turns := by
  have both := @EventRuns.along_and_invariant (World Thread Shared Call) _ _ _
    (fun world => invariant world.shared)
    (fun world turn _ => step_shared_invariant kept world turn)
    _ _ guarded initially
  refine EventRuns.along_imp ?_ both
  rintro world turn ⟨safeTurn, holds⟩
  rcases step_cases advance world turn with
    same | ⟨thread, call, -, -, started⟩ | ⟨thread, call, rfl, begun, resumed⟩
  · rw [same]
    exact reflexive world.shared
  · rw [started]
    exact reflexive world.shared
  · rw [resumed]
    exact changes world.shared call holds (safeTurn call begun)

end

/-! ## A call that is not interrupted -/

def alone (advance : Call → Shared → Shared × Option Call) :
    Nat → Call → Shared → Shared × Option Call
  | 0, call, shared => (shared, some call)
  | fuel + 1, call, shared =>
    match advance call shared with
    | (reached, none) => (reached, none)
    | (reached, some rest) => alone advance fuel rest reached

theorem run_resumes_idle (idle : world.calls thread = none) (fuel : Nat) :
    EventRuns.run (step advance) world (List.replicate fuel (.resume thread)) = world := by
  induction fuel with
  | zero => rfl
  | succ fuel inductionHypothesis =>
    have nothing : step advance world (.resume thread) = world := by simp [step, idle]
    rw [List.replicate_succ, EventRuns.run_cons, nothing, inductionHypothesis]

theorem run_resumes {call : Call} (begun : world.calls thread = some call) (fuel : Nat) :
    EventRuns.run (step advance) world (List.replicate fuel (.resume thread)) =
      { shared := (alone advance fuel call world.shared).1
        calls := Function.update world.calls thread (alone advance fuel call world.shared).2 } := by
  induction fuel generalizing call world with
  | zero =>
    rw [alone, ← begun, Function.update_eq_self]
    rfl
  | succ fuel inductionHypothesis =>
    have stepped : step advance world (.resume thread) =
        { shared := (advance call world.shared).1
          calls := Function.update world.calls thread (advance call world.shared).2 } := by
      simp [step, begun]
    rw [List.replicate_succ, EventRuns.run_cons, stepped, alone]
    rcases advance call world.shared with ⟨reached, - | rest⟩
    · exact run_resumes_idle (Function.update_self _ _ _) fuel
    · rw [inductionHypothesis (Function.update_self _ _ _)]
      simp only [Function.update_idem]

end Interleaving
