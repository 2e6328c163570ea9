import Mathlib.Logic.Basic

namespace Rollback

/-!
# Runs with roll-back

A machine that makes primitive steps and may take a finished part of its run
back: after a part has led from one state to another, it goes on from what
`restore` makes of the two.  What the steps and the restorations keep is the
same at both ends of a run.
-/

variable {State : Type*}

inductive Runs (step : State → State → Prop) (restore : State → State → State) :
    State → State → Prop where
  | refl (state : State) : Runs step restore state state
  | step {before after : State} : step before after → Runs step restore before after
  | trans {before between after : State} :
      Runs step restore before between → Runs step restore between after →
      Runs step restore before after
  | undo {before after : State} :
      Runs step restore before after → Runs step restore before (restore before after)

variable {step : State → State → Prop}
variable {restore : State → State → State}

namespace Runs

theorem view_eq {before after : State} (run : Runs step restore before after) {View : Type*}
    (view : State → View) (onStep : ∀ before after, step before after → view after = view before)
    (restores : ∀ before after, view after = view before →
      view (restore before after) = view before) :
    view after = view before := by
  induction run with
  | refl _ => rfl
  | step made => exact onStep _ _ made
  | trans _ _ first second => exact second.trans first
  | undo _ part => exact restores _ _ part

end Runs

end Rollback
