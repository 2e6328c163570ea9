import Mathlib.Data.List.Basic
import Mathlib.Data.List.Infix

namespace StreamCodec

/-!
# Codecs on streams

A reader takes a value off the front of a stream and leaves the rest, or fails.  A string
is an encoding of a value for a reader if the value comes back and exactly what follows
the string is left, and if the reader fails on everything that ends inside the string.
-/

variable {Symbol Failure Value Other : Type}

/-- A read, with what it leaves of the stream. -/
abbrev Reader (Failure Symbol Value : Type) :=
  List Symbol → Except Failure (Value × List Symbol)

def Reader.andThen (read : Reader Failure Symbol Value)
    (next : Value → Reader Failure Symbol Other) : Reader Failure Symbol Other :=
  fun stream => do
    let (found, rest) ← read stream
    next found rest

def Reader.done (value : Value) : Reader Failure Symbol Value :=
  fun stream => .ok (value, stream)

def Reader.times (read : Reader Failure Symbol Value) : Nat → Reader Failure Symbol (List Value)
  | 0 => .done []
  | count + 1 => read.andThen fun first => (read.times count).andThen fun rest =>
    .done (first :: rest)

theorem cut_cases {text more start : List Symbol} (isPrefix : start <+: text ++ more)
    (different : start ≠ text ++ more) :
    (start <+: text ∧ start ≠ text) ∨
      ∃ later, start = text ++ later ∧ later <+: more ∧ later ≠ more := by
  by_cases isCut : start <+: text ∧ start ≠ text
  · exact .inl isCut
  have longer : text <+: start := by
    rcases List.prefix_or_prefix_of_prefix isPrefix (List.prefix_append text more) with inText | longer
    · rw [not_and, not_not] at isCut
      exact (isCut inText) ▸ List.prefix_rfl
    · exact longer
  obtain ⟨later, rfl⟩ := longer
  refine .inr ⟨later, rfl, (List.prefix_append_right_inj text).1 isPrefix, ?_⟩
  rintro rfl
  exact different rfl

/-- The text is read as the value, and no proper start of it is read. -/
structure Reads (read : Reader Failure Symbol Value) (text : List Symbol)
    (value : Value) : Prop where
  whole : ∀ rest, read (text ++ rest) = .ok (value, rest)
  cut : ∀ start, start <+: text → start ≠ text → ∃ failure, read start = .error failure

namespace Reads

variable {read : Reader Failure Symbol Value}
variable {text : List Symbol} {value : Value}

theorem unique {other : Value} (reads : Reads read text value)
    (readsOther : Reads read text other) : value = other := by
  have same := (reads.whole []).symm.trans (readsOther.whole [])
  exact congrArg Prod.fst (Except.ok.inj same)

theorem done (value : Value) :
    Reads (Reader.done value : Reader Failure Symbol Value) [] value where
  whole _ := rfl
  cut _ isPrefix different :=
    absurd (List.prefix_nil.1 isPrefix) different

theorem andThen_append (reads : Reads read text value)
    (next : Value → Reader Failure Symbol Other) (rest : List Symbol) :
    read.andThen next (text ++ rest) = next value rest := by
  simp only [Reader.andThen, reads.whole, bind, Except.bind]

theorem andThen_cut (reads : Reads read text value) (next : Value → Reader Failure Symbol Other)
    {start : List Symbol} (inText : start <+: text) (isCut : start ≠ text) :
    ∃ failure, read.andThen next start = .error failure := by
  obtain ⟨failure, fails⟩ := reads.cut start inText isCut
  exact ⟨failure, by simp only [Reader.andThen, fails, bind, Except.bind]⟩

theorem andThen {next : Value → Reader Failure Symbol Other} {nextText : List Symbol}
    {other : Other} (reads : Reads read text value)
    (readsNext : Reads (next value) nextText other) :
    Reads (read.andThen next) (text ++ nextText) other where
  whole rest := by
    rw [List.append_assoc, reads.andThen_append]
    exact readsNext.whole rest
  cut := by
    intro start isPrefix different
    rcases cut_cases isPrefix different with ⟨inText, isCut⟩ | ⟨later, rfl, inNext, isCut⟩
    · exact reads.andThen_cut next inText isCut
    · rw [reads.andThen_append]
      exact readsNext.cut later inNext isCut

theorem andThen_done (reads : Reads read text value) (build : Value → Other) :
    Reads (read.andThen fun found => Reader.done (build found)) text (build value) := by
  have built : Reads (read.andThen fun found => Reader.done (build found)) (text ++ [])
      (build value) :=
    reads.andThen (.done (build value))
  rwa [List.append_nil] at built

theorem times {write : Value → List Symbol} (reads : ∀ value, Reads read (write value) value)
    (values : List Value) : Reads (read.times values.length) (values.map write).flatten values := by
  induction values with
  | nil => exact .done []
  | cons first others inductionHypothesis =>
    exact (reads first).andThen (inductionHypothesis.andThen_done fun rest => first :: rest)

end Reads

end StreamCodec
