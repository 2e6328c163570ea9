import Mathlib.Data.List.Basic
import Mathlib.Tactic.Ring

namespace AncestorPaths

/-!
# Paths to an ancestor

Things that name a parent, the paths from one of them down to an ancestor, and
what a path says about heights and about weights that grow along it.  A path is
listed from the top and leaves the ancestor out.
-/

variable {α : Type*}

/-- The list leads from `top` through parents to `bottom`. -/
inductive Path (parent : α → Option α) : α → List α → α → Prop where
  | here (bottom : α) : Path parent bottom [] bottom
  | up {top next bottom : α} {path : List α} (isParent : parent top = some next)
      (rest : Path parent next path bottom) : Path parent top (top :: path) bottom

variable {parent : α → Option α} {top middle bottom : α}

theorem Path.trans {upper lower : List α} (first : Path parent top upper middle)
    (second : Path parent middle lower bottom) : Path parent top (upper ++ lower) bottom := by
  induction first with
  | here => exact second
  | up isParent _ inductionHypothesis => exact .up isParent (inductionHypothesis second)

section

variable {path : List α} (leads : Path parent top path bottom)

include leads

theorem Path.descends {good : α → Prop}
    (down : ∀ child next, parent child = some next → good child → good next) (isGood : good top) :
    good bottom := by
  induction leads with
  | here => exact isGood
  | up isParent _ inductionHypothesis => exact inductionHypothesis (down _ _ isParent isGood)

theorem Path.descends_mem {good : α → Prop}
    (down : ∀ child next, parent child = some next → good child → good next) (isGood : good top)
    {child : α} (member : child ∈ path) : good child := by
  induction leads with
  | here => cases member
  | up isParent _ inductionHypothesis =>
    rcases List.mem_cons.1 member with isTop | inRest
    · rw [isTop]
      exact isGood
    · exact inductionHypothesis (down _ _ isParent isGood) inRest

theorem Path.parent_mem {child : α}
    (member : child ∈ path) : ∃ next, parent child = some next ∧ (next = bottom ∨ next ∈ path) := by
  induction leads with
  | here => cases member
  | @up top next bottom path isParent rest inductionHypothesis =>
    rcases List.mem_cons.1 member with isTop | inRest
    · subst isTop
      refine ⟨next, isParent, ?_⟩
      cases rest with
      | here => exact Or.inl rfl
      | up => exact Or.inr (.tail _ List.mem_cons_self)
    · obtain ⟨following, isNext, placed⟩ := inductionHypothesis inRest
      refine ⟨following, isNext, ?_⟩
      rcases placed with isBottom | inPath
      · exact Or.inl isBottom
      · exact Or.inr (.tail _ inPath)

end

section Heights

variable {height : α → Nat}
variable (lower : ∀ child next, parent child = some next → height child = height next + 1)

include lower

variable {path : List α} (leads : Path parent top path bottom)

include leads

theorem Path.height_eq : height top = height bottom + path.length := by
  induction leads with
  | here => rfl
  | up isParent _ inductionHypothesis =>
    rw [lower _ _ isParent, inductionHypothesis, List.length_cons]
    rfl

theorem Path.height_mem {child : α}
    (member : child ∈ path) : height bottom < height child ∧ height child ≤ height top := by
  induction leads with
  | here => cases member
  | up isParent rest inductionHypothesis =>
    have length := (Path.up isParent rest).height_eq lower
    rw [List.length_cons] at length
    rcases List.mem_cons.1 member with isTop | inRest
    · subst isTop
      omega
    · have between := inductionHypothesis inRest
      have next := lower _ _ isParent
      omega

theorem Path.eq_of_height_eq
    {first second : α} (firstMember : first ∈ path) (secondMember : second ∈ path)
    (sameHeight : height first = height second) : first = second := by
  induction leads with
  | here => cases firstMember
  | up isParent rest inductionHypothesis =>
    have step := lower _ _ isParent
    rcases List.mem_cons.1 firstMember with firstTop | firstRest
    · rcases List.mem_cons.1 secondMember with secondTop | secondRest
      · rw [firstTop, secondTop]
      · subst firstTop
        have below := (rest.height_mem lower secondRest).2
        omega
    · rcases List.mem_cons.1 secondMember with secondTop | secondRest
      · subst secondTop
        have below := (rest.height_mem lower firstRest).2
        omega
      · exact inductionHypothesis firstRest secondRest

theorem Path.exists_height {level : Nat}
    (above : height bottom < level) (below : level ≤ height top) :
    ∃ child ∈ path, height child = level := by
  induction leads with
  | here => exact absurd above (not_lt.2 below)
  | @up top next bottom path isParent rest inductionHypothesis =>
    by_cases isTop : level = height top
    · exact ⟨top, List.mem_cons_self, isTop.symm⟩
    have step := lower _ _ isParent
    obtain ⟨child, member, sameLevel⟩ := inductionHypothesis above (by omega)
    exact ⟨child, .tail _ member, sameLevel⟩

theorem Path.weight_eq {good : α → Prop} {weight : α → Nat} {gain : Nat}
    (down : ∀ child next, parent child = some next → good child → good next)
    (gains : ∀ child next, parent child = some next → good child → height bottom < height child →
      weight child = weight next + gain)
    (isGood : good top) :
    weight top = weight bottom + gain * path.length := by
  induction leads with
  | here => rfl
  | up isParent rest inductionHypothesis =>
    have above := ((Path.up isParent rest).height_mem lower List.mem_cons_self).1
    rw [gains _ _ isParent isGood above, inductionHypothesis gains (down _ _ isParent isGood),
      List.length_cons]
    ring

end Heights

end AncestorPaths
