import EscSideChain.EvilSignersMap

namespace EscSideChain.Core

open Dpos GoSlice

/-!
# The journal of evidence

`core/evil_journal.go`, and the two functions of `core/evilSigner.go` that turn evidence
into events and back.  The events of `GetEvilSignerEvents` point to its loop variable,
and so all of them name the signer that the loop met last.
-/

structure EvilSingerEvent where
  singer : Option Address
  height : Int
  elaHeight : UInt64
  hash : Hash

/-- The RLP format of events, and a stream of symbols that they are written to. -/
structure EventCodec (Symbol : Type) where
  encode : EvilSingerEvent → List Symbol
  decode : List Symbol → Option (EvilSingerEvent × List Symbol)
  decode_encode : ∀ event rest, decode (encode event ++ rest) = some (event, rest)
  decode_nil : decode [] = none

def Evidences.items (ei : Evidences) : List EvilEvidence :=
  ei.refs.map fun ref => ei.objects[ref]?.getD ⟨0, ∅⟩

/-- A height with its blocks, as a loop meets them. -/
abbrev Visit := Int × List (Hash × UInt64)

def EvilEvidence.Visited (evidence : EvilEvidence) (visit : Visit) : Prop :=
  visit.1 = evidence.height ∧
    visit.2.Perm (evidence.blockOnHeight.entries.map fun entry => (entry.1, entry.2))

/-- What the loops of `GetEvilSignerEvents` can meet, in this order. -/
def EvilSignersMap.Walks (signers : EvilSignersMap) (walk : List (Address × List Visit)) : Prop :=
  ∃ order, List.Forall₂ (fun entry visits => visits.1 = entry.1 ∧
    List.Forall₂ EvilEvidence.Visited entry.2.items visits.2) (signers.iterate order) walk

def blocksOf (visits : List Visit) : List (Int × Hash × UInt64) :=
  visits.flatMap fun visit => visit.2.map fun block => (visit.1, block)

def allBlocks (walk : List (Address × List Visit)) : List (Int × Hash × UInt64) :=
  walk.flatMap fun visits => blocksOf visits.2

/-- `GetEvilSignerEvents`; who reads the events finds the last value of the loop variable. -/
def getEvilSignerEvents (walk : List (Address × List Visit)) : List EvilSingerEvent :=
  (allBlocks walk).map fun block =>
    ⟨walk.getLast?.map Prod.fst, block.1, block.2.2, block.2.1⟩

section Journal

variable {Symbol : Type} (codec : EventCodec Symbol) (spare : Nat → List Nat) (signersLen : Nat)

/-- `Rotate`, which writes a new file. -/
def rotate (events : List EvilSingerEvent) : List Symbol :=
  events.flatMap codec.encode

def EvilSignersMap.addEvilSingerEvents (signers : EvilSignersMap)
    (events : List EvilSingerEvent) : Option EvilSignersMap :=
  events.foldlM (fun signers event =>
    match event.singer with
    | none => some signers
    | some singer => signers.updateEvilSigners spare signersLen singer event.height
        [(event.hash, event.elaHeight)]) signers

/-- The loop of `Load`, with the batch that was read so far. -/
def loadLoop : Nat → List Symbol → List EvilSingerEvent → EvilSignersMap → Option EvilSignersMap
  | 0, _, _, signers => some signers
  | fuel + 1, stream, batch, signers =>
    match codec.decode stream with
    | none =>
      if 0 < batch.length then signers.addEvilSingerEvents spare signersLen batch
      else some signers
    | some (event, rest) =>
      if 100 < (batch ++ [event]).length then
        (signers.addEvilSingerEvents spare signersLen (batch ++ [event])).bind fun added =>
          loadLoop fuel rest [] added
      else loadLoop fuel rest (batch ++ [event]) signers

/-- `Load`; every event takes at least one symbol of the file. -/
def load (file : List Symbol) (signers : EvilSignersMap) : Option EvilSignersMap :=
  loadLoop codec spare signersLen (file.length + 1) file [] signers

variable {codec spare signersLen}

theorem loadLoop_encoded (events : List EvilSingerEvent) :
    ∀ (fuel : Nat) (batch : List EvilSingerEvent) (signers : EvilSignersMap), events.length < fuel →
      loadLoop codec spare signersLen fuel (rotate codec events) batch signers =
        signers.addEvilSingerEvents spare signersLen (batch ++ events) := by
  induction events with
  | nil =>
    rintro (_ | fuel) batch signers enough
    · cases enough
    rw [loadLoop, rotate, List.flatMap_nil, codec.decode_nil, List.append_nil]
    cases batch <;> rfl
  | cons event rest inductionHypothesis =>
    rintro (_ | fuel) batch signers enough
    · cases enough
    have fuelLeft := Nat.lt_of_succ_lt_succ enough
    have decoded := codec.decode_encode event (rotate codec rest)
    rw [loadLoop, rotate, List.flatMap_cons]
    change (match codec.decode (codec.encode event ++ rotate codec rest) with
      | none => _
      | some (event, rest) => _) = _
    rw [decoded, List.append_cons]
    dsimp only
    split
    · simp only [inductionHypothesis fuel [] _ fuelLeft, List.nil_append,
        EvilSignersMap.addEvilSingerEvents, List.foldlM_append]
      rfl
    · exact inductionHypothesis fuel _ signers fuelLeft

theorem load_rotate {events : List EvilSingerEvent} {signers : EvilSignersMap} :
    load codec spare signersLen (rotate codec events) signers =
      signers.addEvilSingerEvents spare signersLen events := by
  refine loadLoop_encoded events _ [] signers (Nat.lt_succ_of_le ?_)
  induction events with
  | nil => exact Nat.le_refl _
  | cons event rest inductionHypothesis =>
    have consumes : codec.encode event ≠ [] := by
      intro empty
      have decoded := codec.decode_encode event []
      rw [empty, List.nil_append, codec.decode_nil] at decoded
      cases decoded
    have positive := List.length_pos_iff.2 consumes
    rw [rotate, List.flatMap_cons, List.length_append, List.length_cons]
    exact Nat.add_comm _ 1 ▸ Nat.add_le_add positive inductionHypothesis

end Journal

/-! ## Heights -/

namespace Evidences

variable {spare : Nat → List Nat} {ei : Evidences} {height : Int} {blocks : List (Hash × UInt64)}

theorem heights_eq : ei.heights = ei.items.map EvilEvidence.height := by
  rw [heights, items, List.map_map]
  refine List.map_congr_left fun ref _ => ?_
  rw [heightOf, Function.comp_apply]
  cases ei.objects[ref]? <;> rfl

theorem insertHeight_cases (heights : List Int) (height : Int) :
    height ∈ heights ∧ insertHeight heights height = heights ∨
      (∀ other ∈ heights, other < height) ∧ insertHeight heights height = heights ++ [height] ∨
      (insertHeight heights height).length = heights.length + 1 ∧
        (insertHeight heights height).sum < heights.sum + height := by
  by_cases known : height ∈ heights
  · exact .inl ⟨known, if_pos known⟩
  refine .inr ?_
  rw [insertHeight, if_neg known]
  rcases searchIndex_cases height heights 0 heights.length with ⟨isLast, below⟩ |
    ⟨offset, entry, found, isEntry, above⟩
  · refine .inl ⟨fun other member => ?_, by rw [isLast, if_neg (Nat.lt_irrefl _)]⟩
    exact lt_of_le_of_ne (below other member) fun same => known (same ▸ member)
  · obtain ⟨inside, isOffset⟩ := List.getElem?_eq_some_iff.1 isEntry
    rw [Nat.zero_add] at found
    have split : heights = heights.take offset ++ entry :: heights.drop (offset + 1) := by
      rw [← isOffset, List.getElem_cons_drop, List.take_append_drop]
    have sum := congrArg List.sum split
    rw [List.sum_append, List.sum_cons] at sum
    rw [found, if_pos inside]
    refine .inr ⟨?_, ?_⟩
    · simp only [List.length_append, List.length_take, List.length_drop, List.length_cons,
        List.length_nil]
      omega
    · simp only [List.sum_append, List.sum_cons, List.sum_nil]
      omega

theorem mem_insertHeight {heights : List Int} {other : Int}
    (member : other ∈ insertHeight heights height) : other = height ∨ other ∈ heights := by
  unfold insertHeight at member
  split at member
  · exact .inr member
  · exact mem_of_mem_spliced member

def loadHeights (heights : List Int) (visits : List Visit) : List Int :=
  visits.foldl (fun heights visit =>
    match visit.2 with
    | [] => heights
    | _ :: _ => insertHeight heights visit.1) heights

theorem loadHeights_skip {heights : List Int} {visits : List Visit} :
    loadHeights heights ((height, []) :: visits) = loadHeights heights visits := rfl

theorem loadHeights_insert {heights : List Int} {visits : List Visit} {block : Hash × UInt64} :
    loadHeights heights ((height, block :: blocks) :: visits) =
      loadHeights (insertHeight heights height) visits := rfl

theorem loadHeights_bound (visits : List Visit) (heights : List Int) :
    (loadHeights heights visits).length ≤ heights.length + visits.length ∧
      ((loadHeights heights visits).length = heights.length + visits.length →
        (loadHeights heights visits).sum ≤ heights.sum + (visits.map Prod.fst).sum) := by
  induction visits generalizing heights with
  | nil => exact ⟨Nat.le_refl _, fun _ => (Int.add_zero _).ge⟩
  | cons visit rest inductionHypothesis =>
    obtain ⟨height, blocks⟩ := visit
    rw [List.length_cons, List.map_cons, List.sum_cons]
    cases blocks with
    | nil =>
      obtain ⟨length, _⟩ := inductionHypothesis heights
      rw [loadHeights_skip]
      exact ⟨by omega, fun same => by omega⟩
    | cons block blocks =>
      obtain ⟨length, sum⟩ := inductionHypothesis (insertHeight heights height)
      rw [loadHeights_insert]
      rcases insertHeight_cases heights height with ⟨_, same⟩ | ⟨_, appended⟩ | ⟨longer, less⟩
      · rw [same] at length ⊢
        exact ⟨by omega, fun same => by omega⟩
      · rw [appended, List.length_append, List.length_singleton] at length sum
        rw [List.sum_append, List.sum_singleton] at sum
        rw [appended]
        exact ⟨by omega, fun same => by have := sum (by omega); omega⟩
      · exact ⟨by omega, fun same => by have := sum (by omega); omega⟩

theorem increasing_of_loadHeights (visits : List Visit) {heights : List Int}
    (increasing : heights.Pairwise (· < ·))
    (loaded : loadHeights heights visits = heights ++ visits.map Prod.fst) :
    (heights ++ visits.map Prod.fst).Pairwise (· < ·) ∧ ∀ visit ∈ visits, visit.2 ≠ [] := by
  induction visits generalizing heights with
  | nil => exact ⟨by simpa using increasing, fun _ member => absurd member List.not_mem_nil⟩
  | cons visit rest inductionHypothesis =>
    obtain ⟨height, blocks⟩ := visit
    have length := congrArg List.length loaded
    have sum := congrArg List.sum loaded
    rw [List.length_append, List.length_map, List.length_cons] at length
    rw [List.sum_append, List.map_cons, List.sum_cons] at sum
    cases blocks with
    | nil =>
      have bound := (loadHeights_bound rest heights).1
      rw [loadHeights_skip] at length
      omega
    | cons block blocks =>
      obtain ⟨bound, atMost⟩ := loadHeights_bound rest (insertHeight heights height)
      rw [loadHeights_insert] at length sum loaded
      rcases insertHeight_cases heights height with ⟨_, same⟩ | ⟨below, appended⟩ | ⟨longer, less⟩
      · rw [same] at bound length
        omega
      · rw [appended] at loaded
        have stillIncreasing : (heights ++ [height]).Pairwise (· < ·) := by
          refine List.pairwise_append.2 ⟨increasing, List.pairwise_singleton _ _, ?_⟩
          rintro other member last (_ | ⟨_, ⟨⟩⟩)
          exact below other member
        obtain ⟨all, blocksBehind⟩ := inductionHypothesis stillIncreasing
          (loaded.trans (List.append_cons heights height _))
        rw [List.map_cons, List.append_cons]
        exact ⟨all, List.forall_mem_cons.2 ⟨List.cons_ne_nil _ _, blocksBehind⟩⟩
      · have := atMost (by omega)
        omega

theorem insertHeight_known {heights : List Int} (known : height ∈ heights) :
    insertHeight heights height = heights :=
  if_pos known

/-- Load blocks into a list, as the events of its signer do. -/
def load (spare : Nat → List Nat) (ei : Evidences) (blocks : List (Int × Hash × UInt64)) :
    Evidences :=
  blocks.foldl (fun ei block => ei.update spare block.1 [block.2]) ei

theorem load_visit (spare : Nat → List Nat) (wellFormed : ei.WellFormed) (visit : Visit) :
    (ei.load spare (visit.2.map fun block => (visit.1, block))).WellFormed ∧
      (ei.load spare (visit.2.map fun block => (visit.1, block))).heights =
        match visit.2 with
        | [] => ei.heights
        | _ :: _ => insertHeight ei.heights visit.1 := by
  obtain ⟨height, blocks⟩ := visit
  induction blocks generalizing ei with
  | nil => exact ⟨wellFormed, rfl⟩
  | cons block rest inductionHypothesis =>
    obtain ⟨wellFormedAfter, isHeights⟩ := update_spec spare wellFormed height [block]
    obtain ⟨wellFormedBehind, heightsBehind⟩ := inductionHypothesis wellFormedAfter
    refine ⟨wellFormedBehind, heightsBehind.trans ?_⟩
    cases rest with
    | nil => exact isHeights
    | cons second rest =>
      dsimp only
      rw [isHeights, insertHeight_known mem_insertHeight_self]

theorem load_spec (spare : Nat → List Nat) (wellFormed : ei.WellFormed) (visits : List Visit) :
    (ei.load spare (blocksOf visits)).WellFormed ∧
      (ei.load spare (blocksOf visits)).heights = loadHeights ei.heights visits := by
  induction visits generalizing ei with
  | nil => exact ⟨wellFormed, rfl⟩
  | cons visit rest inductionHypothesis =>
    obtain ⟨wellFormedAfter, isHeights⟩ := load_visit spare wellFormed visit
    have split : ei.load spare (blocksOf (visit :: rest)) =
        (ei.load spare (visit.2.map fun block => (visit.1, block))).load spare (blocksOf rest) := by
      simp only [load, blocksOf, List.flatMap_cons, List.foldl_append]
    rw [split, loadHeights, List.foldl_cons, ← isHeights]
    exact inductionHypothesis wellFormedAfter

/-! ## Evidence in order -/

structure Holding (ei : Evidences) (objects : List EvilEvidence) : Prop where
  wellFormed : ei.WellFormed
  refs : ei.refs = List.range objects.length
  objects : ei.objects = objects

theorem holding_empty : Holding Evidences.empty [] :=
  ⟨⟨⟨[], rfl, Nat.le_refl _, Nat.le_refl _⟩, fun _ member => absurd member List.not_mem_nil⟩,
    rfl, rfl⟩

variable {objects front : List EvilEvidence} {last : EvilEvidence}

theorem Holding.items (holding : Holding ei objects) : ei.items = objects := by
  rw [Evidences.items, holding.refs, holding.objects]
  apply List.ext_getElem?
  intro place
  rw [List.getElem?_map]
  by_cases inside : place < objects.length
  · rw [List.getElem?_range inside, List.getElem?_eq_getElem inside]
    simp [inside]
  · rw [List.getElem?_eq_none (by simpa using inside), List.getElem?_eq_none (not_lt.1 inside)]
    rfl

theorem Holding.heightOf (holding : Holding ei objects) {ref : Nat} (inside : ref < objects.length) :
    ei.heightOf ref = objects[ref].height := by
  simp [Evidences.heightOf, holding.objects, inside]

theorem modify_last (change : EvilEvidence → EvilEvidence) :
    (front ++ [last]).modify front.length change = front ++ [change last] := by
  induction front with
  | nil => rfl
  | cons first rest inductionHypothesis =>
    rw [List.cons_append, List.length_cons, List.modify_succ_cons, inductionHypothesis,
      List.cons_append]

theorem Holding.update_new (spare : Nat → List Nat) (holding : Holding ei objects)
    (highest : ∀ evidence ∈ objects, evidence.height < height) (block : Hash × UInt64) :
    Holding (ei.update spare height [block])
      (objects ++ [EvilEvidence.record [block] ⟨height, ∅⟩]) := by
  have heights : ei.heights = objects.map EvilEvidence.height := by
    rw [heights_eq, holding.items]
  have below : ∀ other ∈ ei.heights, other < height := by
    rw [heights]
    exact List.forall_mem_map.2 highest
  have notFound : (ei.refs.find? fun ref => ei.heightOf ref = height) = none := by
    refine List.find?_eq_none.2 fun ref member same => ?_
    exact lt_irrefl _ (of_decide_eq_true same ▸ below _ (List.mem_map_of_mem member))
  have outside : ¬ei.insertIndex height < ei.slice.len := by
    rcases insertIndex_cases holding.wellFormed height with ⟨isLast, _⟩ | ⟨entry, isEntry, above, _⟩
    · omega
    · exact absurd above (lt_asymm (below entry (List.mem_of_getElem? isEntry)))
  have isAdded : ei.getEvidence spare height = ei.addEvidence spare height := by
    rw [getEvidence, notFound]
  have refs := (addEvidence_spec spare holding.wellFormed height).2
  rw [if_neg outside, holding.refs, holding.objects, ← List.range_succ] at refs
  refine ⟨(update_spec spare holding.wellFormed height [block]).1, ?_, ?_⟩
  · rw [List.length_append, List.length_singleton, ← refs, ← isAdded]
    rfl
  · rw [update, isAdded]
    simp only [addEvidence, holding.objects, modify_last]

theorem Holding.update_last (spare : Nat → List Nat) (holding : Holding ei (front ++ [last]))
    (lower : ∀ evidence ∈ front, evidence.height < last.height) (block : Hash × UInt64) :
    Holding (ei.update spare last.height [block]) (front ++ [last.record [block]]) := by
  have inside : front.length < (front ++ [last]).length := by simp
  have isHeight : ei.heightOf front.length = last.height := by
    rw [holding.heightOf inside]
    simp
  have found : (ei.refs.find? fun ref => ei.heightOf ref = last.height) = some front.length := by
    cases search : ei.refs.find? fun ref => ei.heightOf ref = last.height with
    | none =>
      have member : front.length ∈ ei.refs := by
        rw [holding.refs]
        exact List.mem_range.2 inside
      exact absurd (decide_eq_true isHeight) (List.find?_eq_none.1 search _ member)
    | some ref =>
      have same := of_decide_eq_true (List.find?_some search : _ = true)
      have bound : ref < (front ++ [last]).length := by
        rw [← List.mem_range, ← holding.refs]
        exact List.mem_of_find?_eq_some search
      rw [holding.heightOf bound] at same
      by_cases earlier : ref < front.length
      · rw [List.getElem_append_left earlier] at same
        exact absurd same (lower _ (List.getElem_mem earlier)).ne
      · rw [List.length_append, List.length_singleton] at bound
        rw [Nat.le_antisymm (Nat.lt_succ_iff.1 bound) (not_lt.1 earlier)]
  have isFound : ei.getEvidence spare last.height = (ei, front.length) := by
    rw [getEvidence, found]
  refine ⟨(update_spec spare holding.wellFormed last.height [block]).1, ?_, ?_⟩
  · rw [List.length_append, List.length_singleton]
    simpa [update, isFound, Evidences.refs] using holding.refs
  · rw [update, isFound]
    simp only [holding.objects, modify_last]

theorem Holding.load_last (spare : Nat → List Nat) (holding : Holding ei (front ++ [last]))
    (lower : ∀ evidence ∈ front, evidence.height < last.height) (blocks : List (Hash × UInt64)) :
    Holding (ei.load spare (blocks.map fun block => (last.height, block)))
      (front ++ [last.record blocks]) := by
  induction blocks generalizing ei last with
  | nil => exact holding
  | cons block rest inductionHypothesis =>
    have after := inductionHypothesis (holding.update_last spare lower block) (by simpa using lower)
    rw [height_record] at after
    exact after

theorem Holding.load (spare : Nat → List Nat) (holding : Holding ei objects) (visits : List Visit)
    (increasing : (objects.map EvilEvidence.height ++ visits.map Prod.fst).Pairwise (· < ·))
    (some : ∀ visit ∈ visits, visit.2 ≠ []) :
    Holding (ei.load spare (blocksOf visits))
      (objects ++ visits.map fun visit => EvilEvidence.record visit.2 ⟨visit.1, ∅⟩) := by
  induction visits generalizing ei objects with
  | nil => exact (List.append_nil objects).symm ▸ holding
  | cons visit rest inductionHypothesis =>
    obtain ⟨height, blocks⟩ := visit
    cases blocks with
    | nil => exact absurd rfl (some _ List.mem_cons_self)
    | cons block blocks =>
      have highest : ∀ evidence ∈ objects, evidence.height < height := by
        intro evidence member
        exact (List.pairwise_append.1 increasing).2.2 _ (List.mem_map_of_mem member) _
          List.mem_cons_self
      have last := (holding.update_new spare highest block).load_last spare
        (by simpa using highest) blocks
      rw [height_record] at last
      have behind := inductionHypothesis last (by simpa using increasing)
        fun visit member => some visit (.tail _ member)
      rw [List.append_assoc] at behind
      have split : ei.load spare (blocksOf ((height, block :: blocks) :: rest)) =
          ((ei.update spare height [block]).load spare
            (blocks.map fun block => (height, block))).load spare (blocksOf rest) := by
        simp only [Evidences.load, blocksOf, List.flatMap_cons, List.foldl_append, List.map_cons,
          List.foldl_cons]
      rw [split]
      exact behind

theorem lookup_record {evidence : EvilEvidence} {hash : Hash} :
    (evidence.record blocks).blockOnHeight.lookup hash = (evidence.blockOnHeight.lookup hash).or
        ((blocks.find? fun block => block.1 = hash).map Prod.snd) := by
  induction blocks generalizing evidence with
  | nil => exact (Option.or_none).symm
  | cons block rest inductionHypothesis =>
    refine inductionHypothesis.trans ?_
    rw [List.find?_cons]
    by_cases same : block.1 = hash
    · subst same
      cases known : evidence.blockOnHeight.lookup block.1 <;> simp [known]
    · cases known : evidence.blockOnHeight.lookup block.1 <;>
        simp [same, known, AList.lookup_insert_ne (Ne.symm same)]

end Evidences

/-- The two have the same height and the same blocks. -/
def EvilEvidence.Same (evidence other : EvilEvidence) : Prop :=
  evidence.height = other.height ∧
    ∀ hash, evidence.blockOnHeight.lookup hash = other.blockOnHeight.lookup hash

theorem EvilEvidence.Visited.same {evidence : EvilEvidence} {visit : Visit}
    (visited : evidence.Visited visit) : evidence.Same (record visit.2 ⟨visit.1, ∅⟩) := by
  refine ⟨by rw [Evidences.height_record, visited.1], fun hash => ?_⟩
  rw [Evidences.lookup_record, AList.lookup_empty, Option.none_or]
  have member_iff : ∀ value, (hash, value) ∈ visit.2 ↔
      evidence.blockOnHeight.lookup hash = some value := by
    intro value
    rw [visited.2.mem_iff, List.mem_map, ← Option.mem_def, AList.mem_lookup_iff]
    exact ⟨by rintro ⟨entry, member, same⟩; cases same; exact member, fun member => ⟨_, member, rfl⟩⟩
  cases search : visit.2.find? fun block => block.1 = hash with
  | none =>
    refine Option.eq_none_iff_forall_ne_some.2 fun value found => ?_
    exact List.find?_eq_none.1 search _ ((member_iff value).2 found) (decide_eq_true rfl)
  | some block =>
    have isHash : block.1 = hash := of_decide_eq_true (List.find?_some search : _ = true)
    subst isHash
    exact (member_iff block.2).1 (List.mem_of_find?_eq_some search)

namespace EvilSignersMap

/-! ## The list of one signer -/

def Holds (signers : EvilSignersMap) (signer : Address) (ei : Option Evidences) : Prop :=
  ∀ other, signers.lookup other = if other = signer then ei else none

structure Fits (signersLen : Nat) (currentHeight : Int) (ei : Evidences) : Prop where
  wellFormed : ei.WellFormed
  some : ei.heights ≠ []
  inWindow : ∀ height ∈ ei.heights, InWindow signersLen currentHeight height

variable {spare : Nat → List Nat} {signersLen : Nat} {currentHeight : Int}
  {signers : EvilSignersMap} {signer : Address} {state : Option Evidences} {height : Int}

theorem removeOldEvilSigners_of_fits (isInt : signersLen < 2 ^ 63)
    (holds : signers.Holds signer state) (fits : ∀ ei ∈ state, Fits signersLen currentHeight ei)
    (inWindow : InWindow signersLen currentHeight height) :
    ∃ kept, signers.removeOldEvilSigners height signersLen = some kept ∧
      kept.Holds signer state := by
  have positive : ¬((signersLen : Int) ≤ 0) := by omega
  have listed : ∀ key v, signers.lookup key = some v → Fits signersLen currentHeight v := by
    intro key v found
    rw [holds] at found
    split at found
    · exact fits v found
    · cases found
  have allSome : (signers.values.any fun v => v.refs.isEmpty) = false := by
    refine List.any_eq_false.2 fun v member empty => ?_
    obtain ⟨key, found⟩ := GoMap.mem_values.1 member
    refine (listed key v found).some ?_
    rw [Evidences.heights, List.isEmpty_iff.1 empty]
    rfl
  refine ⟨_, by rw [removeOldEvilSigners, if_neg positive, allSome]; rfl, fun other => ?_⟩
  rw [← holds]
  ext v
  rw [GoMap.lookup_deleteWhere_eq_some]
  refine and_iff_left_of_imp fun found => decide_eq_false ?_
  obtain ⟨_, isSome, kept⟩ := listed other v found
  have last : v.lastHeight ∈ v.heights := by
    rw [Evidences.lastHeight, List.getLast?_eq_getLast_of_ne_nil isSome]
    exact List.getLast_mem isSome
  have near := kept _ last
  rw [int64, Int.bmod_eq_of_le (by omega) (by omega)]
  omega

theorem updateEvilSigners_of_fits (spare : Nat → List Nat) (isInt : signersLen < 2 ^ 63)
    (holds : signers.Holds signer state) (fits : ∀ ei ∈ state, Fits signersLen currentHeight ei)
    (inWindow : InWindow signersLen currentHeight height) (blocks : List (Hash × UInt64)) :
    ∃ updated, signers.updateEvilSigners spare signersLen signer height blocks = some updated ∧
      updated.Holds signer (some ((state.getD .empty).update spare height blocks)) ∧
      Fits signersLen currentHeight ((state.getD .empty).update spare height blocks) := by
  obtain ⟨kept, isKept, keptHolds⟩ := removeOldEvilSigners_of_fits isInt holds fits inWindow
  have found : kept.lookup signer = state := by
    rw [keptHolds, if_pos rfl]
  refine ⟨_, by rw [updateEvilSigners, isKept, Option.map_some, found], fun other => ?_, ?_⟩
  · by_cases same : other = signer
    · rw [same, AList.lookup_insert, if_pos rfl]
    · rw [AList.lookup_insert_ne same, keptHolds, if_neg same, if_neg same]
  · have start : (state.getD .empty).WellFormed ∧
        ∀ other ∈ (state.getD .empty).heights, InWindow signersLen currentHeight other := by
      cases state with
      | none => exact ⟨Evidences.holding_empty.wellFormed, fun _ member => absurd member List.not_mem_nil⟩
      | some ei => exact ⟨(fits ei rfl).wellFormed, (fits ei rfl).inWindow⟩
    obtain ⟨wellFormed, heights⟩ := Evidences.update_spec spare start.1 height blocks
    refine ⟨wellFormed, ?_, ?_⟩
    · rw [heights]
      exact List.ne_nil_of_mem Evidences.mem_insertHeight_self
    · intro other member
      rw [heights] at member
      rcases Evidences.mem_insertHeight member with rfl | old
      · exact inWindow
      · exact start.2 other old

theorem addEvilSingerEvents_of_fits (spare : Nat → List Nat) (isInt : signersLen < 2 ^ 63)
    (blocks : List (Int × Hash × UInt64)) {ei : Evidences} (holds : signers.Holds signer (some ei))
    (fits : Fits signersLen currentHeight ei)
    (inWindow : ∀ block ∈ blocks, InWindow signersLen currentHeight block.1) :
    ∃ loaded, signers.addEvilSingerEvents spare signersLen
        (blocks.map fun block => ⟨some signer, block.1, block.2.2, block.2.1⟩) = some loaded ∧
      loaded.Holds signer (some (ei.load spare blocks)) := by
  induction blocks generalizing signers ei with
  | nil => exact ⟨signers, rfl, holds⟩
  | cons block rest inductionHypothesis =>
    obtain ⟨inFirst, inRest⟩ := List.forall_mem_cons.1 inWindow
    obtain ⟨updated, isUpdated, holdsAfter, fitsAfter⟩ := updateEvilSigners_of_fits spare isInt holds
      (by rintro _ ⟨⟩; exact fits) inFirst [block.2]
    obtain ⟨loaded, isLoaded, holdsBehind⟩ := inductionHypothesis holdsAfter fitsAfter inRest
    refine ⟨loaded, ?_, holdsBehind⟩
    rw [addEvilSingerEvents, List.map_cons, List.foldlM_cons]
    exact (congrArg (· >>= _) isUpdated).trans isLoaded

variable {Symbol : Type} {codec : EventCodec Symbol} {walk : List (Address × List Visit)}

theorem load_events (codec : EventCodec Symbol) (spare : Nat → List Nat)
    (isInt : signersLen < 2 ^ 63)
    (inWindow : ∀ block ∈ allBlocks walk, InWindow signersLen currentHeight block.1) :
    ∃ loaded, load codec spare signersLen (rotate codec (getEvilSignerEvents walk)) ∅ = some loaded ∧
      (allBlocks walk = [] ∧ loaded = ∅ ∨ allBlocks walk ≠ [] ∧ ∃ visits ∈ walk.getLast?,
        loaded.Holds visits.1 (some (Evidences.empty.load spare (allBlocks walk)))) := by
  simp only [load_rotate, getEvilSignerEvents]
  cases isLast : walk.getLast? with
  | none =>
    obtain rfl := List.getLast?_eq_none_iff.1 isLast
    exact ⟨∅, rfl, .inl ⟨rfl, rfl⟩⟩
  | some visits =>
    generalize allBlocks walk = blocks at inWindow ⊢
    cases blocks with
    | nil => exact ⟨∅, rfl, .inl ⟨rfl, rfl⟩⟩
    | cons block rest =>
      obtain ⟨inFirst, inRest⟩ := List.forall_mem_cons.1 inWindow
      have none : (∅ : EvilSignersMap).Holds visits.1 none := by
        intro other
        rw [AList.lookup_empty, ite_self]
      obtain ⟨updated, isUpdated, holdsAfter, fitsAfter⟩ := updateEvilSigners_of_fits spare isInt
        none (fun _ member => absurd member (Option.not_mem_none _)) inFirst [block.2]
      obtain ⟨loaded, isLoaded, holds⟩ :=
        addEvilSingerEvents_of_fits spare isInt rest holdsAfter fitsAfter inRest
      refine ⟨loaded, ?_, .inr ⟨List.cons_ne_nil _ _, visits, rfl, holds⟩⟩
      rw [addEvilSingerEvents, List.map_cons, List.foldlM_cons]
      exact (congrArg (· >>= _) isUpdated).trans isLoaded

/-! ## The round trip -/

/-- The maps have the same signers with the same entries. -/
def Same (signers loaded : EvilSignersMap) : Prop :=
  ∀ signer, Option.Rel (fun v restored => List.Forall₂ EvilEvidence.Same v.items restored.items)
    (signers.lookup signer) (loaded.lookup signer)

structure Orderly (v : Evidences) : Prop where
  some : v.items ≠ []
  increasing : v.heights.Pairwise (· < ·)
  blocks : ∀ evidence ∈ v.items, evidence.blockOnHeight.entries ≠ []

/-- There is at most one signer, and the list of evidence is in order. -/
def Restorable (signers : EvilSignersMap) : Prop :=
  (∀ signer, signers.lookup signer = none) ∨ ∃ signer v, signers.Holds signer (some v) ∧ Orderly v

theorem rel_none_iff {Left Right : Type} {related : Left → Right → Prop} {left : Option Left} :
    Option.Rel related left none ↔ left = none := by
  constructor
  · rintro ⟨⟩
    rfl
  · rintro rfl
    exact .none

theorem same_empty_iff : signers.Same ∅ ↔ ∀ signer, signers.lookup signer = none :=
  forall_congr' fun _ => rel_none_iff

theorem same_iff_of_holds {loaded : EvilSignersMap} {restored : Evidences}
    (holds : loaded.Holds signer (some restored)) :
    signers.Same loaded ↔ ∃ v, signers.Holds signer (some v) ∧
      List.Forall₂ EvilEvidence.Same v.items restored.items := by
  constructor
  · intro same
    have related := same signer
    rw [holds, if_pos rfl] at related
    generalize found : signers.lookup signer = own at related
    obtain ⟨isSame⟩ := related
    refine ⟨_, fun other => ?_, isSame⟩
    have relatedOther := same other
    rw [holds] at relatedOther
    split at relatedOther
    next isSigner => rw [isSigner, found, if_pos rfl]
    next differs => rw [if_neg differs, rel_none_iff.1 relatedOther]
  · rintro ⟨v, isOnly, isSame⟩ other
    rw [holds, isOnly]
    split
    · exact .some isSame
    · exact .none

theorem iterate_of_holds {v : Evidences} (holds : signers.Holds signer (some v))
    (order : IterationOrder) : signers.iterate order = [(signer, v)] := by
  have only : ∀ entry ∈ signers.iterate order, entry = (signer, v) := by
    rintro ⟨key, value⟩ member
    have found := GoMap.mem_iterate.1 member
    rw [holds] at found
    split at found
    next same => rw [same, Option.some.inj found]
    · cases found
  have member : (signer, v) ∈ signers.iterate order := by
    rw [GoMap.mem_iterate, holds, if_pos rfl]
  have distinct : (signers.iterate order).Nodup := .of_map _ GoMap.nodup_keys_iterate
  rw [List.eq_replicate_of_mem only] at member distinct ⊢
  have atMost := List.nodup_replicate.1 distinct
  have positive := List.length_pos_of_mem member
  rw [List.length_replicate] at positive
  rw [Nat.le_antisymm atMost positive]
  rfl

theorem walks_of_holds {v : Evidences} (walks : signers.Walks walk)
    (holds : signers.Holds signer (some v)) :
    ∃ visits, walk = [(signer, visits)] ∧ List.Forall₂ EvilEvidence.Visited v.items visits := by
  obtain ⟨order, visited⟩ := walks
  rw [iterate_of_holds holds] at visited
  cases visited with
  | cons first rest =>
    cases rest
    exact ⟨_, congrArg (fun name => [(name, _)]) first.1, first.2⟩

theorem allBlocks_of_none (walks : signers.Walks walk)
    (none : ∀ signer, signers.lookup signer = none) : allBlocks walk = [] := by
  obtain ⟨order, visited⟩ := walks
  have noEntries : signers.iterate order = [] := by
    refine List.eq_nil_iff_forall_not_mem.2 fun entry member => ?_
    cases (none entry.1).symm.trans (GoMap.mem_iterate.1 member)
  rw [noEntries] at visited
  cases visited
  rfl

theorem exists_of_forall₂ {Left Right : Type} {related : Left → Right → Prop} {lefts : List Left}
    {rights : List Right} {right : Right} (all : List.Forall₂ related lefts rights)
    (member : right ∈ rights) : ∃ left ∈ lefts, related left right := by
  induction all with
  | nil => cases member
  | cons first _ inductionHypothesis =>
    rcases List.mem_cons.1 member with rfl | inRest
    · exact ⟨_, List.mem_cons_self, first⟩
    · obtain ⟨left, inLefts, isRelated⟩ := inductionHypothesis inRest
      exact ⟨left, .tail _ inLefts, isRelated⟩

theorem inWindow_of_walks (walks : signers.Walks walk)
    (inWindow : ∀ v ∈ signers.values, ∀ height ∈ v.heights,
      InWindow signersLen currentHeight height) :
    ∀ block ∈ allBlocks walk, InWindow signersLen currentHeight block.1 := by
  obtain ⟨order, visited⟩ := walks
  intro block member
  obtain ⟨visits, inWalk, inVisits⟩ := List.mem_flatMap.1 member
  obtain ⟨visit, isVisit, inVisit⟩ := List.mem_flatMap.1 inVisits
  obtain ⟨_, _, rfl⟩ := List.mem_map.1 inVisit
  obtain ⟨entry, inSigners, _, entries⟩ := exists_of_forall₂ visited inWalk
  obtain ⟨evidence, inItems, isHeight, _⟩ := exists_of_forall₂ entries isVisit
  refine inWindow entry.2 (GoMap.mem_values.2 ⟨_, GoMap.mem_iterate.1 inSigners⟩) _ ?_
  rw [Evidences.heights_eq, isHeight]
  exact List.mem_map_of_mem inItems

theorem allBlocks_single {visits : List Visit} : allBlocks [(signer, visits)] = blocksOf visits :=
  List.append_nil _

theorem heights_eq_of_visited {v : Evidences} {visits : List Visit}
    (visited : List.Forall₂ EvilEvidence.Visited v.items visits) :
    visits.map Prod.fst = v.heights := by
  rw [Evidences.heights_eq, ← List.forall₂_eq_eq_eq, List.forall₂_map_left_iff,
    List.forall₂_map_right_iff]
  exact visited.flip.imp fun _ _ => And.left

theorem heights_eq_of_same {v restored : Evidences}
    (same : List.Forall₂ EvilEvidence.Same v.items restored.items) :
    restored.heights = v.heights := by
  rw [Evidences.heights_eq, Evidences.heights_eq, ← List.forall₂_eq_eq_eq,
    List.forall₂_map_left_iff, List.forall₂_map_right_iff]
  exact same.flip.imp fun _ _ isSame => isSame.1.symm

theorem blocks_ne_nil_iff {evidence : EvilEvidence} {visit : Visit}
    (visited : evidence.Visited visit) : evidence.blockOnHeight.entries ≠ [] ↔ visit.2 ≠ [] := by
  rw [not_iff_not, ← List.map_eq_nil_iff (f := fun entry => (entry.1, entry.2))]
  constructor
  · intro empty
    exact List.perm_nil.1 (empty ▸ visited.2)
  · intro empty
    exact List.nil_perm.1 (empty ▸ visited.2)

theorem Orderly.restored (spare : Nat → List Nat) {v : Evidences}
    (orderly : Orderly v) {visits : List Visit}
    (visited : List.Forall₂ EvilEvidence.Visited v.items visits) :
    blocksOf visits ≠ [] ∧ List.Forall₂ EvilEvidence.Same v.items
      (Evidences.empty.load spare (blocksOf visits)).items := by
  have some : ∀ visit ∈ visits, visit.2 ≠ [] := by
    intro visit member
    obtain ⟨evidence, inItems, isVisit⟩ := exists_of_forall₂ visited member
    exact (blocks_ne_nil_iff isVisit).1 (orderly.blocks evidence inItems)
  have increasing := orderly.increasing
  rw [← heights_eq_of_visited visited] at increasing
  have holding := Evidences.holding_empty.load spare visits increasing some
  constructor
  · intro empty
    obtain ⟨evidence, inItems⟩ := List.exists_mem_of_ne_nil _ orderly.some
    obtain ⟨visit, inVisits, _⟩ := exists_of_forall₂ visited.flip inItems
    have first := List.flatMap_eq_nil_iff.1 empty visit inVisits
    exact some visit inVisits (List.map_eq_nil_iff.1 first)
  · rw [holding.items, List.nil_append, List.forall₂_map_right_iff]
    exact visited.imp fun _ _ => EvilEvidence.Visited.same

theorem orderly_of_restored {spare : Nat → List Nat} {v : Evidences} {visits : List Visit}
    (visited : List.Forall₂ EvilEvidence.Visited v.items visits) (some : blocksOf visits ≠ [])
    (same : List.Forall₂ EvilEvidence.Same v.items
      (Evidences.empty.load spare (blocksOf visits)).items) : Orderly v := by
  have heights := heights_eq_of_same same
  rw [(Evidences.load_spec spare Evidences.holding_empty.wellFormed visits).2,
    ← heights_eq_of_visited visited] at heights
  obtain ⟨increasing, blocks⟩ :=
    Evidences.increasing_of_loadHeights visits List.Pairwise.nil heights
  rw [List.nil_append, heights_eq_of_visited visited] at increasing
  refine ⟨?_, increasing, ?_⟩
  · intro empty
    rw [empty] at visited
    cases visited
    exact some rfl
  · intro evidence member
    obtain ⟨visit, inVisits, isVisit⟩ := exists_of_forall₂ visited.flip member
    exact (blocks_ne_nil_iff isVisit).2 (blocks visit inVisits)

/--
Evidence in the window of the signers comes back from the journal, whatever the order
of the loops, exactly if there is at most one signer and the list of this signer is in
order, with blocks at every height.
-/
theorem journal_restores_iff (codec : EventCodec Symbol) (spare : Nat → List Nat)
    (isInt : signersLen < 2 ^ 63) (walks : signers.Walks walk)
    (inWindow : ∀ v ∈ signers.values, ∀ height ∈ v.heights,
      InWindow signersLen currentHeight height) :
    (∃ loaded, load codec spare signersLen (rotate codec (getEvilSignerEvents walk)) ∅ =
        some loaded ∧ signers.Same loaded) ↔ signers.Restorable := by
  obtain ⟨loaded, isLoaded, outcome⟩ :=
    load_events codec spare isInt (inWindow_of_walks walks inWindow)
  have restores_iff : (∃ loaded, load codec spare signersLen
      (rotate codec (getEvilSignerEvents walk)) ∅ = some loaded ∧ signers.Same loaded) ↔
        signers.Same loaded := by
    rw [isLoaded]
    exact ⟨by rintro ⟨_, ⟨⟩, same⟩; exact same, fun same => ⟨loaded, rfl, same⟩⟩
  rw [restores_iff]
  rcases outcome with ⟨noBlocks, rfl⟩ | ⟨some, last, isLast, holds⟩
  · rw [same_empty_iff]
    refine ⟨.inl, ?_⟩
    rintro (none | ⟨signer, v, isOnly, orderly⟩)
    · exact none
    · obtain ⟨visits, rfl, visited⟩ := walks_of_holds walks isOnly
      rw [allBlocks_single] at noBlocks
      exact absurd noBlocks (orderly.restored spare visited).1
  · rw [same_iff_of_holds holds]
    constructor
    · rintro ⟨v, isOnly, same⟩
      obtain ⟨visits, rfl, visited⟩ := walks_of_holds walks isOnly
      rw [allBlocks_single] at some same
      exact .inr ⟨_, v, isOnly, orderly_of_restored visited some same⟩
    · rintro (none | ⟨signer, v, isOnly, orderly⟩)
      · exact absurd (allBlocks_of_none walks none) some
      · obtain ⟨visits, rfl, visited⟩ := walks_of_holds walks isOnly
        obtain rfl : (signer, visits) = last := Option.some.inj isLast
        rw [allBlocks_single]
        exact ⟨v, isOnly, (orderly.restored spare visited).2⟩

/-- A file of events, as they are. -/
def Sample.plainCodec : EventCodec EvilSingerEvent where
  encode event := [event]
  decode
    | [] => none
    | event :: rest => some (event, rest)
  decode_encode _ _ := rfl
  decode_nil := rfl

def Sample.evidence : Evidences :=
  Evidences.empty.update (fun _ => []) 5 [(emptyHash, 7)]

/-- Evidence against one signer: two blocks at the height 4 and one at the height 5. -/
def Sample.threeBlocks : EvilSignersMap :=
  (∅ : EvilSignersMap).insert blackAddr ((Evidences.empty.update (fun _ => []) 4
    [(emptyHash, 6), (bytesToHash [1], 7)]).update (fun _ => []) 5 [(emptyHash, 7)])

def Sample.threeVisits : List Visit :=
  [(4, [(emptyHash, 6), (bytesToHash [1], 7)]), (5, [(emptyHash, 7)])]

open EscSideChain.Core.EvilSignersMap.Sample

def Sample.single : EvilSignersMap :=
  (∅ : EvilSignersMap).insert blackAddr evidence

theorem journal_restores_single :
    ((∃ loaded, load plainCodec (fun _ => []) 3 (rotate plainCodec
        (getEvilSignerEvents [(blackAddr, threeVisits)])) ∅ = some loaded ∧
      threeBlocks.Same loaded) ↔ threeBlocks.Restorable) ∧
    ∀ v ∈ threeBlocks.values, ∀ height ∈ v.heights, InWindow 3 5 height := by
  have inWindow : ∀ v ∈ threeBlocks.values, ∀ height ∈ v.heights, InWindow 3 5 height := by
    decide
  refine ⟨journal_restores_iff plainCodec (fun _ => []) (by decide) ⟨.stored, ?_⟩ inWindow,
    inWindow⟩
  exact .cons ⟨rfl, .cons ⟨rfl, by decide⟩ (.cons ⟨rfl, by decide⟩ .nil)⟩ .nil

/-- Evidence against a second signer at the height 4. -/
def Sample.pair : EvilSignersMap :=
  single.insert (.replicate 20 1) (Evidences.empty.update (fun _ => []) 4 [(emptyHash, 6)])

def Sample.pairWalk : List (Address × List Visit) :=
  [(.replicate 20 1, [(4, [(emptyHash, 6)])]), (blackAddr, [(5, [(emptyHash, 7)])])]

/-- Of two signers the one that the loop meets last gets the evidence against both. -/
theorem last_signer_takes_all :
    (∀ v ∈ pair.values, ∀ height ∈ v.heights, InWindow 3 5 height) ∧ pair.Walks pairWalk ∧
      ((load plainCodec (fun _ => []) 3 (rotate plainCodec
          (getEvilSignerEvents pairWalk)) ∅).map fun loaded =>
        ((loaded.lookup blackAddr).map Evidences.heights,
          (loaded.lookup (.replicate 20 1)).map Evidences.heights)) = some (some [4, 5], none) := by
  refine ⟨by decide, ⟨.stored, ?_⟩, by decide⟩
  exact .cons ⟨rfl, .cons ⟨rfl, .refl _⟩ .nil⟩ (.cons ⟨rfl, .cons ⟨rfl, .refl _⟩ .nil⟩ .nil)

end EvilSignersMap

end EscSideChain.Core
