import Mathlib.Data.List.Rotate

namespace CyclicSeats

/-!
# Seats taken in turn

A list of seats that are taken in turn, the one at an index modulo the number of seats.  A
round of the list picks every seat once.  Two schedules that start a distance apart pick
the same seats exactly if the list looks the same after a rotation by the distance.
-/

variable {Seat : Type*} {seats : List Seat}

def pick (seats : List Seat) (index : Nat) : Option Seat :=
  seats[index % seats.length]?

def pickWrapped (seats : List Seat) (modulus index offset : Nat) : Option Seat :=
  pick seats ((index + offset) % modulus)

theorem pick_mod_add (seats : List Seat) (index offset : Nat) :
    pick seats (index % seats.length + offset) = pick seats (index + offset) := by
  rw [pick, pick, Nat.mod_add_mod]

theorem existsUnique_pick {seat : Seat} (distinct : seats.Nodup) (member : seat ∈ seats)
    (start : Nat) : ∃! step, step < seats.length ∧ pick seats (start + step) = some seat := by
  obtain ⟨place, inside, here⟩ := List.mem_iff_getElem.1 member
  have seated : 0 < seats.length := Nat.zero_lt_of_lt inside
  have found : seats[place]? = some seat := by rw [List.getElem?_eq_getElem inside, here]
  have startInside : start % seats.length < seats.length := Nat.mod_lt _ seated
  -- The place lies ahead of the start, or one round further.
  have wrapped : ∀ step < seats.length, (start + step) % seats.length =
        if start % seats.length + step < seats.length then start % seats.length + step
        else
          start % seats.length + step - seats.length := by
    intro step small
    rw [← Nat.mod_add_mod]
    split
    · next below => exact Nat.mod_eq_of_lt below
    · next beyond => rw [Nat.mod_eq_sub_mod (by omega), Nat.mod_eq_of_lt (by omega)]
  refine ⟨if start % seats.length ≤ place then
      place - start % seats.length
    else place + seats.length - start % seats.length, ⟨?_, ?_⟩, ?_⟩
  · split <;> omega
  · rw [pick, ← found]
    congr 1
    rw [wrapped _ (by split <;> omega)]
    split <;> split <;> omega
  · rintro step ⟨small, picked⟩
    have samePlace : (start + step) % seats.length = place :=
      (List.getElem?_inj (Nat.mod_lt _ seated) distinct).1 (picked.trans found.symm)
    rw [wrapped step small] at samePlace
    split at samePlace <;> split <;> omega

theorem existsUnique_inTurn {seat : Seat} {taken : Nat → Option Seat} {start : Nat}
    (distinct : seats.Nodup) (member : seat ∈ seats)
    (inTurn : ∀ step < seats.length, taken step = pick seats (start + step)) :
    ∃! step, step < seats.length ∧ taken step = some seat := by
  refine (existsUnique_congr fun step => and_congr_right ?_).2
    (existsUnique_pick distinct member start)
  intro small
  rw [inTurn step small]

theorem rotate_eq_self_iff {shift : Nat} :
    seats.rotate shift = seats ↔ ∀ index, pick seats (index + shift) = pick seats index := by
  constructor
  · intro same index
    by_cases empty : seats.length = 0
    · rw [List.length_eq_zero_iff.1 empty]
      rfl
    have inside : index % seats.length < seats.length := Nat.mod_lt _ (Nat.pos_of_ne_zero empty)
    have shifted := @List.getElem?_rotate _ seats shift _ inside
    rw [same, Nat.mod_add_mod] at shifted
    exact shifted.symm
  · intro shifts
    refine List.ext_getElem? fun index => ?_
    by_cases inside : index < seats.length
    · rw [List.getElem?_rotate inside]
      have shifted := shifts index
      rw [pick, pick, Nat.mod_eq_of_lt inside] at shifted
      exact shifted
    · rw [List.getElem?_eq_none (by simpa using inside),
        List.getElem?_eq_none (by simpa using inside)]

theorem pick_add_mul {shift : Nat} (same : seats.rotate shift = seats) (index times : Nat) :
    pick seats (index + shift * times) = pick seats index := by
  induction times with
  | zero => rfl
  | succ times inductionHypothesis =>
    rw [Nat.mul_succ, ← Nat.add_assoc, rotate_eq_self_iff.1 same, inductionHypothesis]

variable {modulus : Nat}

theorem pick_mod_modulus (same : seats.rotate modulus = seats) (index : Nat) :
    pick seats (index % modulus) = pick seats index := by
  have unwrapped := pick_add_mul same (index % modulus) (index / modulus)
  rw [Nat.mod_add_div] at unwrapped
  exact unwrapped.symm

theorem rotate_eq_self_of_pickWrapped {modulus shift : Nat} (room : 2 * seats.length ≤ modulus)
    (positive : 0 < shift) (small : shift < seats.length)
    (same : ∀ offset < modulus, pickWrapped seats modulus 0 offset =
        pickWrapped seats modulus shift offset) :
    seats.rotate shift = seats ∧ seats.rotate modulus = seats := by
  have shifts : seats.rotate shift = seats := by
    refine List.ext_getElem? fun index => ?_
    by_cases inside : index < seats.length
    · have compared := same index (by omega)
      rw [pickWrapped, pickWrapped, Nat.zero_add, Nat.mod_eq_of_lt (by omega : index < modulus),
        Nat.mod_eq_of_lt (by omega : shift + index < modulus),
        pick, pick, Nat.mod_eq_of_lt inside, Nat.add_comm] at compared
      rw [List.getElem?_rotate inside, compared]
    · rw [List.getElem?_eq_none (by simpa using inside),
        List.getElem?_eq_none (by simpa using inside)]
  -- Offsets just below the modulus wrap with the shift and not without it.
  have low : ∀ index < shift, pick seats (index + modulus) = pick seats index := by
    intro index below
    have compared := same (modulus - shift + index) (by omega)
    rw [pickWrapped, pickWrapped, Nat.zero_add,
      Nat.mod_eq_of_lt (by omega : modulus - shift + index < modulus),
      show shift + (modulus - shift + index) = index + modulus by omega,
      Nat.add_mod_right, Nat.mod_eq_of_lt (by omega : index < modulus),
      ← rotate_eq_self_iff.1 shifts] at compared
    rw [← compared]
    congr 1
    omega
  refine ⟨shifts, rotate_eq_self_iff.2 fun index => ?_⟩
  calc pick seats (index + modulus)
      = pick seats (index % shift + modulus + shift * (index / shift)) := by
        congr 1
        have whole := Nat.mod_add_div index shift
        omega
    _ = pick seats (index % shift + modulus) := pick_add_mul shifts _ _
    _ = pick seats (index % shift) := low _ (Nat.mod_lt _ positive)
    _ = pick seats index := pick_mod_modulus shifts index

/--
Two schedules over the same seats, the second one `distance` ahead.  Counters
wrap at `span`, sums with an offset at `modulus`.
-/
def SamePicks (seats : List Seat) (modulus span distance : Nat) : Prop :=
  ∀ counter < span, ∀ offset < modulus, pickWrapped seats modulus (counter % seats.length) offset =
      pickWrapped seats modulus ((counter + distance) % span % seats.length) offset

/--
The seats do not show the distance: there is none, or it vanishes around the
list and so does the wrapping of the counter, or the list is invariant under
rotation by the distance and by the modulus.
-/
def Unnoticed (seats : List Seat) (modulus span distance : Nat) : Prop :=
  distance = 0 ∨ seats.length ∣ distance ∧ seats.length ∣ span ∨
    seats.rotate distance = seats ∧ seats.rotate modulus = seats

theorem samePicks_of_unnoticed {modulus span distance : Nat} (whole : modulus ∣ span)
    (unnoticed : Unnoticed seats modulus span distance) :
    SamePicks seats modulus span distance := by
  intro counter counterBound offset _
  rcases unnoticed with none | ⟨around, aroundSpan⟩ | ⟨shifts, wraps⟩
  · rw [none, Nat.add_zero, Nat.mod_eq_of_lt counterBound]
  · rw [Nat.mod_mod_of_dvd _ aroundSpan, Nat.add_mod,
      Nat.mod_eq_zero_of_dvd around, Nat.add_zero, Nat.mod_mod]
  · have wrapsSpan : seats.rotate span = seats := by
      obtain ⟨times, rfl⟩ := whole
      exact rotate_eq_self_iff.2 fun index =>
        pick_add_mul wraps index times
    rw [pickWrapped, pickWrapped, pick_mod_modulus wraps,
      pick_mod_modulus wraps, pick_mod_add, pick_mod_add]
    have unwrapped := pick_add_mul wrapsSpan ((counter + distance) % span + offset)
      ((counter + distance) / span)
    rw [← unwrapped, ← rotate_eq_self_iff.1 shifts (counter + offset)]
    congr 1
    have split := Nat.mod_add_div (counter + distance) span
    omega

theorem unnoticed_of_samePicks {modulus span distance : Nat} (room : 2 * seats.length ≤ modulus)
    (distanceBound : distance < span) (same : SamePicks seats modulus span distance) :
    Unnoticed seats modulus span distance := by
  by_cases empty : seats.length = 0
  · rw [List.length_eq_zero_iff.1 empty]
    exact .inr (.inr ⟨List.rotate_nil _, List.rotate_nil _⟩)
  have seated : 0 < seats.length := Nat.pos_of_ne_zero empty
  by_cases around : seats.length ∣ distance
  · by_cases aroundSpan : seats.length ∣ span
    · exact .inr (.inl ⟨around, aroundSpan⟩)
    by_cases none : distance = 0
    · exact .inl none
    -- The counter that reaches the first seat when it wraps.
    have wrapped := same (span - distance) (by omega)
    rw [Nat.sub_add_cancel distanceBound.le, Nat.mod_self, Nat.zero_mod] at wrapped
    have notFirst : 0 < (span - distance) % seats.length := by
      refine Nat.pos_of_ne_zero fun zero => aroundSpan ?_
      have divides := Nat.dvd_of_mod_eq_zero zero
      have sum := Nat.dvd_add divides around
      rwa [Nat.sub_add_cancel distanceBound.le] at sum
    have rotations := rotate_eq_self_of_pickWrapped room notFirst
      (Nat.mod_lt _ seated) fun offset bound => (wrapped offset bound).symm
    refine .inr (.inr ⟨?_, rotations.2⟩)
    rw [← List.rotate_mod, Nat.mod_eq_zero_of_dvd around, List.rotate_zero]
  · have started := same 0 (by omega)
    rw [Nat.zero_add, Nat.mod_eq_of_lt distanceBound, Nat.zero_mod] at started
    have notFirst : 0 < distance % seats.length :=
      Nat.pos_of_ne_zero fun zero =>
        around (Nat.dvd_of_mod_eq_zero zero)
    have rotations := rotate_eq_self_of_pickWrapped room notFirst (Nat.mod_lt _ seated) started
    rw [List.rotate_mod] at rotations
    exact .inr (.inr rotations)

end CyclicSeats
