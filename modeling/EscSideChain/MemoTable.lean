import EscSideChain.EventRuns

namespace MemoTable

/-!
# A memo of one entry

A fallible function whose last good answer is kept, together with the key it was
computed for.  The next call takes the kept answer if its own key is *equal* to
the kept one, for an equality that the table brings along; otherwise it computes,
and keeps the answer if there is one.
-/

/-- A function with the test by which its last result is found again. -/
structure Table (Key Value Failure : Type*) where
  equal : Key → Key → Bool
  compute : Key → Except Failure Value

variable {Key Value Failure : Type*}

namespace Table

variable (table : Table Key Value Failure)

/-- A value that is computed is kept; a failure is not. -/
def fill (entry : Option (Key × Value)) (key : Key) : Option (Key × Value) × Except Failure Value :=
  match table.compute key with
  | .error failure => (entry, .error failure)
  | .ok value => (some (key, value), .ok value)

def call (entry : Option (Key × Value)) (key : Key) : Option (Key × Value) × Except Failure Value :=
  match entry with
  | none => table.fill none key
  | some (kept, value) =>
    if table.equal kept key then (some (kept, value), .ok value)
    else table.fill (some (kept, value)) key

/-- What is kept after the calls. -/
def entryAfter : Option (Key × Value) → List Key → Option (Key × Value) :=
  EventRuns.run fun entry key => (table.call entry key).1

variable {table}
variable {entry : Option (Key × Value)}

@[simp] theorem fill_snd (entry : Option (Key × Value)) (key : Key) :
    (table.fill entry key).2 = table.compute key := by
  unfold Table.fill
  cases table.compute key with
  | error failure => rfl
  | ok value => rfl

theorem call_eq_compute_iff (entry : Option (Key × Value)) (key : Key) :
    (table.call entry key).2 = table.compute key ↔ ∀ kept value, entry = some (kept, value) →
        table.equal kept key = true → table.compute key = .ok value := by
  unfold Table.call
  cases entry with
  | none => simp
  | some pair =>
    obtain ⟨kept, value⟩ := pair
    by_cases hit : table.equal kept key = true
    · simp only [hit, ↓reduceIte, Option.some.injEq, Prod.mk.injEq, and_imp]
      constructor
      · rintro same _ _ rfl rfl -
        exact same.symm
      · intro same
        exact (same kept value rfl rfl hit).symm
    · simp only [hit, Bool.false_eq_true, ↓reduceIte, fill_snd,
        Option.some.injEq, Prod.mk.injEq, and_imp, true_iff]
      rintro _ _ rfl rfl isHit
      exact absurd isHit hit

variable (table)

theorem second_eq_compute_iff (first second : Key) :
    (table.call (table.call none first).1 second).2 = table.compute second ↔
      ∀ value, table.compute first = .ok value → table.equal first second = true →
          table.compute second = .ok value := by
  rw [call_eq_compute_iff]
  unfold Table.call Table.fill
  cases table.compute first with
  | error failure => simp
  | ok value =>
    simp only [Option.some.injEq, Prod.mk.injEq, and_imp, Except.ok.injEq]
    constructor
    · rintro same _ rfl hit
      exact same first value rfl rfl hit
    · rintro same _ _ rfl rfl hit
      exact same value rfl hit

end Table

end MemoTable
