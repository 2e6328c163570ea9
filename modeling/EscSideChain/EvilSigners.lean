import EscSideChain.DposBlockPool
import EscSideChain.GoSlice

namespace EscSideChain.Core

open Dpos GoSlice EventRuns

/-!
# Evidence against signers

`core/evilSigner.go`.  For every signer of two blocks of one height there is a list of
evidence, ordered by height.  A new height that is not the highest is put in by two
appends to overlapping slices of one array: the first writes over the entry whose place is
taken, and the second copies the new entry behind itself.
-/

structure EvilEvidence where
  height : Int
  blockOnHeight : GoMap Hash UInt64

/-- `Evidences`, a slice of pointers to objects; a pointer is the number of its object. -/
structure Evidences where
  objects : List EvilEvidence
  arrays : Arrays Nat
  slice : Slice

namespace Evidences

def empty : Evidences :=
  ⟨[], [[]], ⟨0, 0, 0, 0⟩⟩

/-- The pointers in the slice. -/
def refs (ei : Evidences) : List Nat :=
  contents ei.arrays ei.slice

def heightOf (ei : Evidences) (ref : Nat) : Int :=
  (ei.objects[ref]?.map EvilEvidence.height).getD 0

def heights (ei : Evidences) : List Int :=
  ei.refs.map ei.heightOf

/-- The loop of `addEvidence` over the entries, which does not stop at the first one. -/
def searchIndex (height : Int) : List Int → Nat → Nat → Nat
  | [], _, index => index
  | entry :: rest, place, index =>
    searchIndex height rest (place + 1) (if height < entry then place else index)

def insertIndex (ei : Evidences) (height : Int) : Nat :=
  searchIndex height ei.heights 0 ei.slice.len

variable (spare : Nat → List Nat)

/-- The appends of `addEvidence`; the pointer goes to a place of the slice or to its end. -/
def insertRef (arrays : Arrays Nat) (slice : Slice) (index ref : Nat) : Arrays Nat × Slice :=
  if index < slice.len then
    let first := append spare arrays (slice.sub 0 index) [ref]
    append spare first.1 first.2 (contents first.1 (slice.sub index slice.len))
  else append spare arrays slice [ref]

/-- `addEvidence`, with the pointer that it returns. -/
def addEvidence (ei : Evidences) (height : Int) : Evidences × Nat :=
  let inserted := insertRef spare ei.arrays ei.slice (ei.insertIndex height) ei.objects.length
  (⟨ei.objects ++ [⟨height, ∅⟩], inserted.1, inserted.2⟩, ei.objects.length)

def getEvidence (ei : Evidences) (height : Int) : Evidences × Nat :=
  match ei.refs.find? fun ref => ei.heightOf ref = height with
  | some ref => (ei, ref)
  | none => ei.addEvidence spare height

/-! ## One insertion -/

structure WellFormed (ei : Evidences) : Prop where
  valid : ei.slice.Valid ei.arrays
  bounded : ∀ ref ∈ ei.refs, ref < ei.objects.length

variable {spare} {ei : Evidences} {height : Int}

theorem searchIndex_cases (height : Int) (entries : List Int) (place index : Nat) :
    (searchIndex height entries place index = index ∧ ∀ entry ∈ entries, entry ≤ height) ∨
      ∃ offset entry, searchIndex height entries place index = place + offset ∧
        entries[offset]? = some entry ∧ height < entry := by
  induction entries generalizing place index with
  | nil => exact .inl ⟨rfl, by simp⟩
  | cons first rest inductionHypothesis =>
    rcases inductionHypothesis (place + 1) (if height < first then place else index) with
      ⟨found, below⟩ | ⟨offset, entry, found, inRest, above⟩
    · rw [searchIndex, found]
      by_cases above : height < first
      · exact .inr ⟨0, first, by rw [if_pos above]; rfl, rfl, above⟩
      · refine .inl ⟨if_neg above, ?_⟩
        rintro entry (_ | ⟨_, member⟩)
        · exact not_lt.1 above
        · exact below entry member
    · refine .inr ⟨offset + 1, entry, ?_, inRest, above⟩
      rw [searchIndex, found]
      omega

theorem insertIndex_cases (wellFormed : ei.WellFormed) (height : Int) :
    (ei.insertIndex height = ei.slice.len ∧ ∀ entry ∈ ei.heights, entry ≤ height) ∨
      ∃ entry, ei.heights[ei.insertIndex height]? = some entry ∧ height < entry ∧
        ei.insertIndex height < ei.slice.len := by
  rcases searchIndex_cases height ei.heights 0 ei.slice.len with highest |
    ⟨offset, entry, found, isEntry, above⟩
  · exact .inl highest
  · have isIndex : ei.insertIndex height = offset := by
      rw [insertIndex, found, Nat.zero_add]
    have inside := (List.getElem?_eq_some_iff.1 isEntry).1
    rw [heights, List.length_map, refs, length_contents wellFormed.valid] at inside
    exact .inr ⟨entry, isIndex ▸ isEntry, above, isIndex ▸ inside⟩

theorem insertRef_spec (spare : Nat → List Nat) {arrays : Arrays Nat} {slice : Slice}
    (valid : slice.Valid arrays) (index ref : Nat) :
    (insertRef spare arrays slice index ref).2.Valid (insertRef spare arrays slice index ref).1 ∧
      contents (insertRef spare arrays slice index ref).1
          (insertRef spare arrays slice index ref).2 =
        if index < slice.len then
          (contents arrays slice).take index ++ [ref, ref] ++
            (contents arrays slice).drop (index + 1)
        else contents arrays slice ++ [ref] := by
  unfold insertRef
  split
  next inside =>
    have length := length_contents valid
    obtain ⟨isCut, stillValid, written⟩ := append_shorter spare [ref] valid inside
    dsimp only
    rw [isCut]
    generalize (append spare arrays (slice.sub 0 index) [ref]).1 = between at stillValid written
    have shorter : (slice.sub 0 (index + 1)).Valid between := stillValid.sub inside
    obtain ⟨isContents, isValid⟩ :=
      append_spec spare (contents between (slice.sub index slice.len)) shorter
    refine ⟨isValid, isContents.trans ?_⟩
    rw [contents_sub inside, contents_sub le_rfl, written]
    generalize contents arrays slice = old at length ⊢
    apply List.ext_getElem?
    intro place
    simp only [overwrite, List.getElem?_take, List.getElem?_drop, List.getElem?_append,
      List.length_append, List.length_take, List.length_drop]
    grind
  · exact (append_spec spare [ref] valid).symm

theorem mem_of_mem_spliced {Entry : Type} {entries : List Entry} {entry added : Entry}
    {index : Nat} {inside : Prop} [Decidable inside]
    (member : entry ∈ if inside then entries.take index ++ [added, added] ++ entries.drop (index + 1)
      else entries ++ [added]) : entry = added ∨ entry ∈ entries := by
  split at member
  · simp only [List.mem_append, List.mem_cons, List.not_mem_nil, or_false, or_self] at member
    rcases member with (before | isAdded) | later
    · exact .inr (List.mem_of_mem_take before)
    · exact .inl isAdded
    · exact .inr (List.mem_of_mem_drop later)
  · simpa [or_comm] using member

theorem addEvidence_spec (spare : Nat → List Nat) (wellFormed : ei.WellFormed) (height : Int) :
    (ei.addEvidence spare height).1.WellFormed ∧ (ei.addEvidence spare height).1.refs =
        if ei.insertIndex height < ei.slice.len then
          ei.refs.take (ei.insertIndex height) ++ [ei.objects.length, ei.objects.length] ++
            ei.refs.drop (ei.insertIndex height + 1)
        else ei.refs ++ [ei.objects.length] := by
  obtain ⟨valid, isContents⟩ := insertRef_spec spare wellFormed.valid (ei.insertIndex height)
    ei.objects.length
  have isRefs : (ei.addEvidence spare height).1.refs = _ := isContents
  refine ⟨⟨valid, ?_⟩, isContents⟩
  intro ref member
  have objects : (ei.addEvidence spare height).1.objects.length = ei.objects.length + 1 := by
    simp [addEvidence]
  rw [objects, Nat.lt_succ_iff]
  rw [isRefs] at member
  rcases mem_of_mem_spliced member with rfl | old
  · exact le_rfl
  · exact (wellFormed.bounded ref old).le

theorem heightOf_addEvidence {ref : Nat} (known : ref < ei.objects.length) :
    (ei.addEvidence spare height).1.heightOf ref = ei.heightOf ref := by
  simp [heightOf, addEvidence, List.getElem?_append_left known]

theorem heightOf_addEvidence_new :
    (ei.addEvidence spare height).1.heightOf ei.objects.length = height := by
  simp [heightOf, addEvidence]

theorem heights_addEvidence (spare : Nat → List Nat) (wellFormed : ei.WellFormed) (height : Int) :
    (ei.addEvidence spare height).1.heights =
      if ei.insertIndex height < ei.slice.len then
        ei.heights.take (ei.insertIndex height) ++ [height, height] ++
          ei.heights.drop (ei.insertIndex height + 1)
      else ei.heights ++ [height] := by
  have old : ei.refs.map (ei.addEvidence spare height).1.heightOf = ei.heights :=
    List.map_congr_left fun ref member => heightOf_addEvidence (wellFormed.bounded ref member)
  rw [heights, (addEvidence_spec spare wellFormed height).2]
  split
  · simp only [List.map_append, List.map_cons, List.map_nil, heightOf_addEvidence_new,
      List.map_take, List.map_drop, old]
  · simp only [List.map_append, List.map_cons, List.map_nil, heightOf_addEvidence_new, old]

/-! ## Requests -/

/-- A list of evidence, with the requests so far: the heights and the pointers returned. -/
structure Ledger where
  evidences : Evidences
  returned : List (Int × Nat)

namespace Ledger

def empty : Ledger :=
  ⟨Evidences.empty, []⟩

/-- A call of `getEvidence`. -/
def step (spare : Nat → List Nat) (ledger : Ledger) (height : Int) : Ledger :=
  ⟨(ledger.evidences.getEvidence spare height).1,
    (height, (ledger.evidences.getEvidence spare height).2) :: ledger.returned⟩

def requested (ledger : Ledger) : List Int :=
  ledger.returned.map Prod.fst

/-- The list is in order, has what was requested once, and all that was returned. -/
structure Complete (ledger : Ledger) : Prop where
  increasing : ledger.evidences.heights.Pairwise (· < ·)
  requested : ∀ height, height ∈ ledger.evidences.heights ↔ height ∈ ledger.requested
  kept : ∀ entry ∈ ledger.returned, entry.2 ∈ ledger.evidences.refs

/-- The height was requested before, or it is the highest one so far. -/
def KnownOrHighest (ledger : Ledger) (height : Int) : Prop :=
  height ∈ ledger.requested ∨ ∀ other ∈ ledger.requested, other < height

def Kept (ledger : Ledger) : Prop :=
  ∀ entry ∈ ledger.returned, entry.2 ∈ ledger.evidences.refs

structure Sound (ledger : Ledger) : Prop where
  wellFormed : ledger.evidences.WellFormed
  created : ∀ entry ∈ ledger.returned, entry.2 < ledger.evidences.objects.length ∧
    ledger.evidences.heightOf entry.2 = entry.1
  returned : ∀ ref ∈ ledger.evidences.refs, (ledger.evidences.heightOf ref, ref) ∈ ledger.returned
  increasing : ledger.Kept → ledger.evidences.heights.Pairwise (· < ·)

variable {ledger : Ledger}

theorem Sound.requested_of_mem (sound : ledger.Sound)
    (member : height ∈ ledger.evidences.heights) : height ∈ ledger.requested := by
  obtain ⟨ref, inRefs, rfl⟩ := List.mem_map.1 member
  exact List.mem_map.2 ⟨_, sound.returned ref inRefs, rfl⟩

theorem Sound.mem_of_requested (sound : ledger.Sound) (kept : ledger.Kept)
    (member : height ∈ ledger.requested) : height ∈ ledger.evidences.heights := by
  obtain ⟨entry, inReturned, rfl⟩ := List.mem_map.1 member
  exact List.mem_map.2 ⟨entry.2, kept entry inReturned, (sound.created entry inReturned).2⟩

theorem Sound.complete_iff (sound : ledger.Sound) : ledger.Complete ↔ ledger.Kept := by
  constructor
  · exact Complete.kept
  · intro kept
    refine ⟨sound.increasing kept, fun height => ?_, kept⟩
    exact ⟨sound.requested_of_mem, sound.mem_of_requested kept⟩

theorem Sound.step_found (sound : ledger.Sound) {ref : Nat} (member : ref ∈ ledger.evidences.refs)
    (isHeight : ledger.evidences.heightOf ref = height) :
    Sound ⟨ledger.evidences, (height, ref) :: ledger.returned⟩ ∧
      (Kept ⟨ledger.evidences, (height, ref) :: ledger.returned⟩ ↔
        ledger.Kept ∧ ledger.KnownOrHighest height) := by
  have known : ledger.KnownOrHighest height :=
    .inl (sound.requested_of_mem (isHeight ▸ List.mem_map_of_mem member))
  have kept_iff : Kept ⟨ledger.evidences, (height, ref) :: ledger.returned⟩ ↔ ledger.Kept := by
    constructor
    · exact fun kept entry inReturned => kept entry (.tail _ inReturned)
    · rintro kept entry (_ | ⟨_, inReturned⟩)
      · exact member
      · exact kept entry inReturned
  refine ⟨⟨sound.wellFormed, ?_, fun ref inRefs => .tail _ (sound.returned ref inRefs),
    fun kept => sound.increasing (kept_iff.1 kept)⟩, kept_iff.trans (and_iff_left known).symm⟩
  rintro entry (_ | ⟨_, inReturned⟩)
  · exact ⟨sound.wellFormed.bounded ref member, isHeight⟩
  · exact sound.created entry inReturned

/-- A call of `getEvidence` with a new height. -/
def added (spare : Nat → List Nat) (ledger : Ledger) (height : Int) : Ledger :=
  ⟨(ledger.evidences.addEvidence spare height).1,
    (height, ledger.evidences.objects.length) :: ledger.returned⟩

theorem Sound.not_kept_of_inside (sound : ledger.Sound) (kept : ledger.Kept)
    (inside : ledger.evidences.insertIndex height < ledger.evidences.slice.len) :
    ¬(ledger.added spare height).Kept := by
  intro keptAfter
  have length : ledger.evidences.refs.length = ledger.evidences.slice.len :=
    length_contents sound.wellFormed.valid
  have inRefs : ledger.evidences.insertIndex height < ledger.evidences.refs.length := by omega
  have refsAfter := (addEvidence_spec spare sound.wellFormed height).2
  rw [if_pos inside] at refsAfter
  have distinct : ledger.evidences.refs.Nodup :=
    .of_map ledger.evidences.heightOf ((sound.increasing kept).imp ne_of_lt)
  have split : ledger.evidences.refs = ledger.evidences.refs.take (ledger.evidences.insertIndex height) ++
      ledger.evidences.refs[ledger.evidences.insertIndex height] ::
        ledger.evidences.refs.drop (ledger.evidences.insertIndex height + 1) := by
    rw [List.getElem_cons_drop, List.take_append_drop]
  have member := List.getElem_mem inRefs
  generalize ledger.evidences.refs[ledger.evidences.insertIndex height] = ref at split member
  have old := sound.wellFormed.bounded ref member
  have still := keptAfter _ (.tail _ (sound.returned ref member))
  rw [added, refsAfter] at still
  rw [split, List.nodup_append, List.nodup_cons] at distinct
  obtain ⟨_, ⟨notLater, _⟩, notBefore⟩ := distinct
  simp only [List.mem_append, List.mem_cons, List.not_mem_nil, or_false, or_self] at still
  rcases still with (before | isNew) | later
  · exact notBefore ref before ref List.mem_cons_self rfl
  · omega
  · exact notLater later

theorem Sound.mem_refs_added (sound : ledger.Sound) {ref : Nat}
    (member : ref ∈ (ledger.added spare height).evidences.refs) :
    ref = ledger.evidences.objects.length ∨ ref ∈ ledger.evidences.refs := by
  rw [added, (addEvidence_spec spare sound.wellFormed height).2] at member
  exact mem_of_mem_spliced member

theorem Sound.kept_added_iff (sound : ledger.Sound) :
    (ledger.added spare height).Kept ↔
      ledger.Kept ∧ ¬ledger.evidences.insertIndex height < ledger.evidences.slice.len := by
  constructor
  · intro kept
    have keptBefore : ledger.Kept := by
      intro entry inReturned
      refine (sound.mem_refs_added (kept entry (.tail _ inReturned))).resolve_left ?_
      exact (sound.created entry inReturned).1.ne
    exact ⟨keptBefore, fun inside => sound.not_kept_of_inside keptBefore inside kept⟩
  · rintro ⟨kept, outside⟩ entry member
    rw [added, (addEvidence_spec spare sound.wellFormed height).2, if_neg outside, List.mem_append]
    rcases List.mem_cons.1 member with rfl | inReturned
    · exact .inr List.mem_cons_self
    · exact .inl (kept entry inReturned)

theorem Sound.below_of_outside (sound : ledger.Sound) (isNew : height ∉ ledger.evidences.heights)
    (outside : ¬ledger.evidences.insertIndex height < ledger.evidences.slice.len) :
    ∀ other ∈ ledger.evidences.heights, other < height := by
  intro other member
  rcases insertIndex_cases sound.wellFormed height with ⟨_, below⟩ | ⟨_, _, _, inside⟩
  · exact lt_of_le_of_ne (below other member) fun same => isNew (same ▸ member)
  · exact absurd inside outside

theorem Sound.added (sound : ledger.Sound) (isNew : height ∉ ledger.evidences.heights) :
    (ledger.added spare height).Sound := by
  refine ⟨(addEvidence_spec spare sound.wellFormed height).1, ?_, ?_, ?_⟩
  · have more : (ledger.added spare height).evidences.objects.length =
        ledger.evidences.objects.length + 1 := by
      simp [Ledger.added, addEvidence]
    rintro entry (_ | ⟨_, inReturned⟩)
    · exact ⟨more ▸ Nat.lt_succ_self _, heightOf_addEvidence_new⟩
    · obtain ⟨known, isHeight⟩ := sound.created entry inReturned
      exact ⟨more ▸ Nat.lt_succ_of_lt known, (heightOf_addEvidence known).trans isHeight⟩
  · intro ref member
    rw [Ledger.added]
    rcases sound.mem_refs_added member with rfl | inRefs
    · rw [heightOf_addEvidence_new]
      exact List.mem_cons_self
    · rw [heightOf_addEvidence (sound.wellFormed.bounded ref inRefs)]
      exact .tail _ (sound.returned ref inRefs)
  · intro kept
    obtain ⟨before, outside⟩ := sound.kept_added_iff.1 kept
    rw [Ledger.added, heights_addEvidence spare sound.wellFormed, if_neg outside,
      List.pairwise_append]
    refine ⟨sound.increasing before, List.pairwise_singleton _ _, ?_⟩
    rintro other member last (_ | ⟨_, ⟨⟩⟩)
    exact sound.below_of_outside isNew outside other member

theorem Sound.knownOrHighest_iff (sound : ledger.Sound) (kept : ledger.Kept)
    (isNew : height ∉ ledger.evidences.heights) : ledger.KnownOrHighest height ↔
      ¬ledger.evidences.insertIndex height < ledger.evidences.slice.len := by
  constructor
  · rintro (known | highest) inside
    · exact isNew (sound.mem_of_requested kept known)
    · rcases insertIndex_cases sound.wellFormed height with ⟨isLast, _⟩ | ⟨entry, isEntry, above, _⟩
      · omega
      · have requested := sound.requested_of_mem (List.mem_of_getElem? isEntry)
        exact lt_asymm above (highest entry requested)
  · intro outside
    refine .inr fun other member => ?_
    exact sound.below_of_outside isNew outside other (sound.mem_of_requested kept member)

theorem Sound.step_added (sound : ledger.Sound) (isNew : height ∉ ledger.evidences.heights) :
    (ledger.added spare height).Sound ∧
      ((ledger.added spare height).Kept ↔ ledger.Kept ∧ ledger.KnownOrHighest height) := by
  refine ⟨sound.added isNew, ?_⟩
  rw [sound.kept_added_iff]
  exact and_congr_right fun kept => (sound.knownOrHighest_iff kept isNew).symm

theorem Sound.step (sound : ledger.Sound) (spare : Nat → List Nat) (height : Int) :
    (ledger.step spare height).Sound ∧
      ((ledger.step spare height).Kept ↔ ledger.Kept ∧ ledger.KnownOrHighest height) := by
  unfold Ledger.step getEvidence
  split
  next ref found =>
    have isHeight := List.find?_some found
    exact sound.step_found (List.mem_of_find?_eq_some found) (of_decide_eq_true isHeight)
  next notFound =>
    refine sound.step_added fun member => ?_
    obtain ⟨ref, inRefs, isHeight⟩ := List.mem_map.1 member
    exact List.find?_eq_none.1 notFound ref inRefs (decide_eq_true isHeight)

theorem sound_empty : Ledger.empty.Sound := by
  refine ⟨⟨⟨[], rfl, Nat.le_refl _, Nat.le_refl _⟩, ?_⟩, ?_, ?_, fun _ => .nil⟩
  · exact fun ref member => absurd member List.not_mem_nil
  · exact fun entry member => absurd member List.not_mem_nil
  · exact fun ref member => absurd member List.not_mem_nil

/--
After a sequence of requests the list is in order, has every requested height once
and all objects that were returned, exactly if every height was known or the highest
one when it was requested.
-/
theorem evidence_complete_iff (spare : Nat → List Nat) (heights : List Int) :
    (run (step spare) empty heights).Complete ↔
      Along KnownOrHighest (step spare) empty heights := by
  have sound : (run (step spare) empty heights).Sound :=
    run_invariant_of_forall (fun _ height sound => (sound.step spare height).1) heights sound_empty
  rw [sound.complete_iff]
  refine run_iff_along Sound Kept ?_ ?_ ?_ sound_empty ?_
  · exact fun ledger height sound kept => (sound.step spare height).2.trans (and_iff_right kept)
  · exact fun ledger height sound lost kept => lost ((sound.step spare height).2.1 kept).1
  · exact fun ledger height sound => (sound.step spare height).1
  · exact fun entry member => absurd member List.not_mem_nil

/-- The request for the height 3 after that for 5: the first object is lost. -/
theorem lower_height_loses_evidence :
    (run (step fun _ => []) empty [5, 3]).evidences.heights = [3, 3] ∧
      (run (step fun _ => []) empty [5, 3]).returned = [(3, 1), (5, 0)] ∧
      (run (step fun _ => []) empty [5, 3]).evidences.refs = [1, 1] := by
  decide

end Ledger

end Evidences

end EscSideChain.Core
