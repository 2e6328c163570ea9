import Mathlib.Data.List.TakeDrop

namespace GoSlice

/-!
# Slices

Slices of Go are views of arrays.  Two slices of one array share its items, and so an
`append` that finds room behind a slice writes into the items of every other slice
that covers the place.
-/

variable {Item : Type}

/-- The arrays of a program; a slice names one by its number. -/
abbrev Arrays (Item : Type) := List (List Item)

structure Slice where
  array : Nat
  start : Nat
  len : Nat
  cap : Nat

/-- The array has room for the slice and what it can grow to. -/
def Slice.Valid (arrays : Arrays Item) (slice : Slice) : Prop :=
  ∃ items, arrays[slice.array]? = some items ∧ slice.start + slice.cap ≤ items.length ∧
    slice.len ≤ slice.cap

def contents (arrays : Arrays Item) (slice : Slice) : List Item :=
  (((arrays[slice.array]?).getD []).drop slice.start).take slice.len

/-- The items from one place up to another, `slice[first:last]`. -/
def Slice.sub (slice : Slice) (first last : Nat) : Slice :=
  ⟨slice.array, slice.start + first, last - first, slice.cap - first⟩

def overwrite (items : List Item) (place : Nat) (new : List Item) : List Item :=
  items.take place ++ new ++ items.drop (place + new.length)

/-- `append`; without room the items move to a new array, with some spare items. -/
def append (spare : Nat → List Item) (arrays : Arrays Item) (slice : Slice) (new : List Item) :
    Arrays Item × Slice :=
  if slice.len + new.length ≤ slice.cap then
    (arrays.modify slice.array (overwrite · (slice.start + slice.len) new),
      { slice with len := slice.len + new.length })
  else
    let moved := contents arrays slice ++ new
    (arrays ++ [moved ++ spare moved.length],
      ⟨arrays.length, 0, moved.length, moved.length + (spare moved.length).length⟩)

variable {arrays : Arrays Item} {slice : Slice} {new items : List Item} {place : Nat}

theorem length_contents (valid : slice.Valid arrays) :
    (contents arrays slice).length = slice.len := by
  obtain ⟨items, found, room, fits⟩ := valid
  simp only [contents, found, Option.getD_some, List.length_take, List.length_drop]
  omega

theorem length_contents_le (arrays : Arrays Item) (slice : Slice) :
    (contents arrays slice).length ≤ slice.len :=
  List.length_take_le _ _

theorem len_append_le (spare : Nat → List Item) (arrays : Arrays Item) (slice : Slice)
    (new : List Item) : (append spare arrays slice new).2.len ≤ slice.len + new.length := by
  unfold append
  split
  · exact Nat.le_refl _
  · dsimp only
    rw [List.length_append]
    exact Nat.add_le_add_right (length_contents_le arrays slice) _

/-- An `append` to a slice of a new array leaves the old arrays alone. -/
theorem append_keeps (spare : Nat → List Item) (new : List Item) {old : Nat}
    (known : old ≤ arrays.length) (isNew : old ≤ slice.array) :
    old ≤ (append spare arrays slice new).1.length ∧ old ≤ (append spare arrays slice new).2.array ∧
      ∀ array < old, (append spare arrays slice new).1[array]? = arrays[array]? := by
  unfold append
  split
  · refine ⟨by simpa using known, isNew, fun array isOld => ?_⟩
    exact List.getElem?_modify_ne _ _ (by omega)
  · refine ⟨by simp; omega, known, fun array isOld => ?_⟩
    exact List.getElem?_append_left (by omega)

theorem length_overwrite (fits : place + new.length ≤ items.length) :
    (overwrite items place new).length = items.length := by
  simp only [overwrite, List.length_append, List.length_take, List.length_drop]
  omega

theorem view_overwrite (fits : place + new.length ≤ items.length) {start len : Nat}
    (before : start ≤ place) (behind : place + new.length ≤ start + len) :
    ((overwrite items place new).drop start).take len =
      overwrite ((items.drop start).take len) (place - start) new := by
  apply List.ext_getElem?
  intro index
  simp only [overwrite, List.getElem?_take, List.getElem?_drop, List.getElem?_append,
    List.length_append, List.length_take, List.length_drop]
  grind

theorem append_spec (spare : Nat → List Item) (new : List Item) (valid : slice.Valid arrays) :
    contents (append spare arrays slice new).1 (append spare arrays slice new).2 =
        contents arrays slice ++ new ∧
      (append spare arrays slice new).2.Valid (append spare arrays slice new).1 := by
  obtain ⟨items, found, room, fits⟩ := valid
  unfold append
  split
  next enough =>
    have written : (arrays.modify slice.array
        (overwrite · (slice.start + slice.len) new))[slice.array]? =
          some (overwrite items (slice.start + slice.len) new) := by
      simp [found]
    have inside : slice.start + slice.len + new.length ≤ items.length := by omega
    constructor
    · simp only [contents, written, Option.getD_some, found]
      rw [view_overwrite inside (by omega) (by omega), Nat.add_sub_cancel_left]
      apply List.ext_getElem?
      intro index
      simp only [overwrite, List.getElem?_take, List.getElem?_drop, List.getElem?_append,
        List.length_append, List.length_take, List.length_drop]
      grind
    · exact ⟨_, written, by rw [length_overwrite inside]; exact room, enough⟩
  · dsimp only
    generalize contents arrays slice ++ new = moved
    constructor
    · simp [contents]
    · exact ⟨moved ++ spare moved.length, by simp, by simp, by simp⟩

theorem append_shorter (spare : Nat → List Item) (new : List Item) (valid : slice.Valid arrays)
    (inside : place + new.length ≤ slice.len) :
    (append spare arrays (slice.sub 0 place) new).2 = slice.sub 0 (place + new.length) ∧
      slice.Valid (append spare arrays (slice.sub 0 place) new).1 ∧
      contents (append spare arrays (slice.sub 0 place) new).1 slice =
        overwrite (contents arrays slice) place new := by
  obtain ⟨items, found, room, fits⟩ := valid
  have written : (arrays.modify slice.array (overwrite · (slice.start + place) new))[slice.array]? =
        some (overwrite items (slice.start + place) new) := by
    simp [found]
  have inArray : slice.start + place + new.length ≤ items.length := by omega
  have appended : append spare arrays (slice.sub 0 place) new =
      (arrays.modify slice.array (overwrite · (slice.start + place) new),
        slice.sub 0 (place + new.length)) := by
    have enough : place + new.length ≤ slice.cap := by omega
    simp [append, Slice.sub, enough]
  rw [appended]
  refine ⟨rfl, ⟨_, written, ?_, fits⟩, ?_⟩
  · rw [length_overwrite inArray]
    exact room
  · simp only [contents, written, found, Option.getD_some]
    rw [view_overwrite inArray (by omega) (by omega), Nat.add_sub_cancel_left]

theorem contents_congr {others : Arrays Item} (same : others[slice.array]? = arrays[slice.array]?) :
    contents others slice = contents arrays slice := by
  rw [contents, contents, same]

theorem contents_append_of_agrees (spare : Nat → List Item) (valid : slice.Valid arrays)
    {first last : Nat} (ordered : first ≤ last) (inside : last ≤ slice.len)
    (agrees : ∀ index, last + index < slice.len → index < new.length →
      new[index]? = (contents arrays slice)[last + index]?) :
    contents (append spare arrays (slice.sub first last) new).1 slice = contents arrays slice := by
  obtain ⟨items, found, room, fits⟩ := valid
  unfold append
  split
  next enough =>
    have atEnd : slice.start + first + (last - first) = slice.start + last := by omega
    simp only [Slice.sub, atEnd] at enough ⊢
    have written : (arrays.modify slice.array
        (overwrite · (slice.start + last) new))[slice.array]? =
          some (overwrite items (slice.start + last) new) := by
      simp [found]
    simp only [contents, found, written, Option.getD_some] at agrees ⊢
    apply List.ext_getElem?
    intro index
    simp only [overwrite, List.getElem?_take, List.getElem?_drop, List.getElem?_append,
      List.length_append, List.length_take] at agrees ⊢
    grind
  · exact contents_congr (List.getElem?_append_left (List.getElem?_eq_some_iff.1 found).1)

theorem Slice.Valid.sub (valid : slice.Valid arrays) (inside : place ≤ slice.len) :
    (slice.sub 0 place).Valid arrays := by
  obtain ⟨items, found, room, fits⟩ := valid
  refine ⟨items, found, ?_, ?_⟩ <;> simp only [Slice.sub] <;> omega

theorem contents_sub {first last : Nat} (inside : last ≤ slice.len) :
    contents arrays (slice.sub first last) =
      ((contents arrays slice).drop first).take (last - first) := by
  simp only [contents, Slice.sub, List.drop_take, List.drop_drop, List.take_take]
  congr 1
  omega

end GoSlice
