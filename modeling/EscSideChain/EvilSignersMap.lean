import EscSideChain.EvilSigners

namespace EscSideChain.Core

open Dpos GoSlice

/-!
# The alarm for signers of two blocks

`core/evilSigner.go`: `UpdateEvilSigners`, `IsDanger` and `IsNeedStopChain`.  The alarm
is meant for two thirds of the signers, but `IsDanger` counts the entries of evidence,
and one signer can have an entry for every height of the window.
-/

abbrev EvilSignersMap :=
  GoMap Address Evidences

def Evidences.lastHeight (ei : Evidences) : Int :=
  ei.heights.getLast?.getD 0

/-- Put blocks that are not known yet into the evidence, as in `UpdateEvilSigners`. -/
def EvilEvidence.record (blocks : List (Hash × UInt64)) (evidence : EvilEvidence) : EvilEvidence :=
  blocks.foldl (fun evidence block =>
    match evidence.blockOnHeight.lookup block.1 with
    | some _ => evidence
    | none =>
      { evidence with blockOnHeight := evidence.blockOnHeight.insert block.1 block.2 }) evidence

/-- The part of `UpdateEvilSigners` on the list of the signer. -/
def Evidences.update (spare : Nat → List Nat) (ei : Evidences) (height : Int)
    (blocks : List (Hash × UInt64)) : Evidences :=
  let found := ei.getEvidence spare height
  { found.1 with objects := found.1.objects.modify found.2 (EvilEvidence.record blocks) }

/-! ## Heights -/

namespace Evidences

/-- The heights after a request for one: a height that is not the highest comes in twice. -/
def insertHeight (heights : List Int) (height : Int) : List Int :=
  if height ∈ heights then heights
  else if searchIndex height heights 0 heights.length < heights.length then
    heights.take (searchIndex height heights 0 heights.length) ++ [height, height] ++
      heights.drop (searchIndex height heights 0 heights.length + 1)
  else heights ++ [height]

variable {spare : Nat → List Nat} {ei : Evidences} {height : Int} {blocks : List (Hash × UInt64)}

theorem wellFormed_empty : empty.WellFormed :=
  ⟨⟨[], rfl, Nat.le_refl 0, Nat.le_refl 0⟩, fun _ member => absurd member List.not_mem_nil⟩

@[simp] theorem height_record {evidence : EvilEvidence} :
    (evidence.record blocks).height = evidence.height := by
  induction blocks generalizing evidence with
  | nil => rfl
  | cons block rest inductionHypothesis =>
    refine inductionHypothesis.trans ?_
    dsimp only
    split <;> rfl

theorem length_heights (wellFormed : ei.WellFormed) : ei.heights.length = ei.slice.len := by
  rw [heights, List.length_map, refs, length_contents wellFormed.valid]

theorem getEvidence_spec (spare : Nat → List Nat) (wellFormed : ei.WellFormed) (height : Int) :
    (ei.getEvidence spare height).1.WellFormed ∧
      (ei.getEvidence spare height).1.heights = insertHeight ei.heights height := by
  unfold getEvidence insertHeight
  split
  next ref found =>
    have isHeight := of_decide_eq_true (List.find?_some found : _ = true)
    have member := List.mem_map_of_mem (f := ei.heightOf) (List.mem_of_find?_eq_some found)
    rw [isHeight] at member
    exact ⟨wellFormed, (if_pos member).symm⟩
  next notFound =>
    have isNew : height ∉ ei.heights := by
      intro member
      obtain ⟨ref, inRefs, isHeight⟩ := List.mem_map.1 member
      exact List.find?_eq_none.1 notFound ref inRefs (decide_eq_true isHeight)
    refine ⟨(addEvidence_spec spare wellFormed height).1, ?_⟩
    rw [heights_addEvidence spare wellFormed, if_neg isNew, length_heights wellFormed]
    rfl

theorem update_spec (spare : Nat → List Nat) (wellFormed : ei.WellFormed) (height : Int)
    (blocks : List (Hash × UInt64)) :
    (ei.update spare height blocks).WellFormed ∧
      (ei.update spare height blocks).heights = insertHeight ei.heights height := by
  obtain ⟨⟨valid, bounded⟩, isHeights⟩ := getEvidence_spec spare wellFormed height
  refine ⟨⟨valid, fun ref member => ?_⟩, ?_⟩
  · rw [update, List.length_modify]
    exact bounded ref member
  · rw [← isHeights]
    refine List.map_congr_left fun ref _ => ?_
    simp only [heightOf, update, List.getElem?_modify]
    cases (ei.getEvidence spare height).1.objects[ref]? with
    | none => rfl
    | some evidence =>
      rw [Option.map_eq_map, Option.map_some, Option.map_some, Option.map_some]
      split
      · rw [height_record]
      · rfl

theorem mem_insertHeight_self {heights : List Int} : height ∈ insertHeight heights height := by
  unfold insertHeight
  split
  · assumption
  split <;> simp

end Evidences

/-! ## The alarm -/

/-- The heights of `IsDanger`: those of the last blocks, as many as there are signers. -/
abbrev InWindow (signersLen : Nat) (currentHeight height : Int) : Prop :=
  height ≤ currentHeight ∧ currentHeight - signersLen < height

/-- The inner loop of `IsDanger`, from the last entry to the first. -/
def Evidences.countWindow (signersLen : Nat) (currentHeight : Int) (count : Nat)
    (v : Evidences) : Nat :=
  v.heights.reverse.foldl (fun count height =>
    if InWindow signersLen currentHeight height then count + 1 else count) count

/-- What `IsNeedStopChain` takes from headers and from the consensus engine. -/
structure HeaderFacts (Header : Type) where
  hash : Header → Hash
  number : Header → Int
  parseElaHeightFromHead : Header → UInt64
  author : Header → Option Address

namespace EvilSignersMap

/-- `RemoveOldEvilSigners`; `none` is the access to the last entry of an empty list. -/
def removeOldEvilSigners (signers : EvilSignersMap) (currentHeight rangeValue : Int) :
    Option EvilSignersMap :=
  if rangeValue ≤ 0 then some signers
  else if signers.values.any fun v => v.refs.isEmpty then none
  else some (signers.deleteWhere fun _ v => rangeValue < int64 (currentHeight - v.lastHeight))

variable (spare : Nat → List Nat) (signersLen : Nat)

def updateEvilSigners (signers : EvilSignersMap) (signer : Address) (height : Int)
    (blocks : List (Hash × UInt64)) : Option EvilSignersMap :=
  (signers.removeOldEvilSigners height signersLen).map fun kept =>
    kept.insert signer (((kept.lookup signer).getD Evidences.empty).update spare height blocks)

def isDanger (order : IterationOrder) (signers : EvilSignersMap)
    (currentHeight threshold : Int) : Bool :=
  if threshold ≤ 0 then false
  else decide (threshold ≤ ((signers.iterate order).foldl
    (fun count entry => entry.2.countWindow signersLen currentHeight count) 0 : Nat))

/-- `IsNeedStopChain`: whether to stop, and the evidence afterwards. -/
def isNeedStopChain {Header : Type} (facts : HeaderFacts Header) (order : IterationOrder)
    (signers : EvilSignersMap) (headerNew headerOld : Header) : Option (EvilSignersMap × Bool) :=
  if facts.hash headerNew = facts.hash headerOld then some (signers, false)
  else
    match facts.author headerOld, facts.author headerNew with
    | some singerOld, some singerNew =>
      if singerNew = singerOld then
        (signers.updateEvilSigners spare signersLen singerNew (facts.number headerNew)
          [(facts.hash headerOld, facts.parseElaHeightFromHead headerOld),
            (facts.hash headerNew, facts.parseElaHeightFromHead headerNew)]).map fun updated =>
          (updated, updated.isDanger signersLen order (facts.number headerNew)
            (signersLen * 2 / 3 : Nat))
      else some (signers, false)
    | _, _ => some (signers, false)

/-! ## Signers and entries -/

def entriesInWindow (signers : EvilSignersMap) (currentHeight : Int) : Nat :=
  (signers.values.map fun v => v.heights.countP fun height =>
    InWindow signersLen currentHeight height).sum

/-- The number of signers with evidence in the window; a map has a signer once. -/
def signersInWindow (signers : EvilSignersMap) (currentHeight : Int) : Nat :=
  signers.values.countP fun v => v.heights.any fun height =>
    InWindow signersLen currentHeight height

variable {spare signersLen} {order : IterationOrder} {signers : EvilSignersMap}
  {currentHeight threshold : Int}

theorem countWindow_eq {count : Nat} {v : Evidences} :
    v.countWindow signersLen currentHeight count =
      count + v.heights.countP fun height => InWindow signersLen currentHeight height := by
  have loop : ∀ (heights : List Int) (count : Nat), heights.foldl (fun count height =>
          if InWindow signersLen currentHeight height then count + 1 else count) count =
        count + heights.countP fun height => InWindow signersLen currentHeight height := by
    intro heights
    induction heights with
    | nil => exact fun _ => rfl
    | cons height rest inductionHypothesis =>
      intro count
      rw [List.foldl_cons, inductionHypothesis, List.countP_cons]
      by_cases inside : InWindow signersLen currentHeight height
      · rw [if_pos inside, if_pos (decide_eq_true inside)]
        omega
      · rw [if_neg inside, if_neg (decide_eq_true_iff.not.2 inside)]
        omega
  rw [Evidences.countWindow, loop, List.countP_reverse]

theorem count_eq_entriesInWindow :
    (signers.iterate order).foldl
        (fun count entry => entry.2.countWindow signersLen currentHeight count) 0 =
      signers.entriesInWindow signersLen currentHeight := by
  have loop : ∀ (entries : List (Address × Evidences)) (count : Nat),
      entries.foldl (fun count entry => entry.2.countWindow signersLen currentHeight count) count =
        count + ((entries.map Prod.snd).map fun v => v.heights.countP fun height =>
          InWindow signersLen currentHeight height).sum := by
    intro entries
    induction entries with
    | nil => exact fun _ => rfl
    | cons entry rest inductionHypothesis =>
      intro count
      rw [List.foldl_cons, inductionHypothesis, countWindow_eq, Nat.add_assoc]
      rfl
  rw [loop, Nat.zero_add, entriesInWindow]
  refine List.Perm.sum_eq (List.Perm.map _ ?_)
  rw [GoMap.iterate, List.map_map]
  exact (order.perm signers.entries).map fun entry => entry.2

theorem isDanger_iff (positive : 0 < threshold) :
    signers.isDanger signersLen order currentHeight threshold = true ↔
      threshold ≤ signers.entriesInWindow signersLen currentHeight := by
  rw [isDanger, if_neg (not_le.2 positive), count_eq_entriesInWindow, decide_eq_true_iff]

theorem signersInWindow_le :
    signers.signersInWindow signersLen currentHeight ≤
      signers.entriesInWindow signersLen currentHeight := by
  unfold signersInWindow entriesInWindow
  induction signers.values with
  | nil => exact Nat.le_refl _
  | cons v rest inductionHypothesis =>
    rw [List.countP_cons, List.map_cons, List.sum_cons, Nat.add_comm]
    refine Nat.add_le_add ?_ inductionHypothesis
    split
    next some =>
      obtain ⟨height, member, inWindow⟩ := List.any_eq_true.1 some
      exact List.countP_pos_iff.2 ⟨height, member, inWindow⟩
    · exact Nat.zero_le _

/-- Enough entries for the alarm come from enough signers. -/
def Counted (signersLen : Nat) (signers : EvilSignersMap) (currentHeight threshold : Int) : Prop :=
  threshold ≤ signers.entriesInWindow signersLen currentHeight →
    threshold ≤ signers.signersInWindow signersLen currentHeight

/--
The entries that the evidence against a signer gains by a request for a height: none if there
is one of this height, and two if there is a higher one, which is lost.
-/
def addedEntries (heights : List Int) (height : Int) : Nat :=
  if height ∈ heights then 0
  else if heights.any fun entry => height < entry then 2
  else 1

theorem countP_insertHeight (positive : 0 < signersLen) (heights : List Int) (height : Int) :
    (Evidences.insertHeight heights height).countP (fun entry => InWindow signersLen height entry) =
      heights.countP (fun entry => InWindow signersLen height entry) +
        addedEntries heights height := by
  have own : InWindow signersLen height height := ⟨le_rfl, by omega⟩
  unfold Evidences.insertHeight addedEntries
  split
  · rfl
  rcases Evidences.searchIndex_cases height heights 0 heights.length with ⟨isLast, below⟩ |
    ⟨offset, entry, found, isEntry, above⟩
  · have noneAbove : (heights.any fun entry => height < entry) = false := by
      simpa using below
    rw [isLast, if_neg (Nat.lt_irrefl _), noneAbove, List.countP_append, List.countP_singleton,
      if_pos (decide_eq_true own)]
    rfl
  · obtain ⟨inside, rfl⟩ := List.getElem?_eq_some_iff.1 isEntry
    have someAbove : (heights.any fun entry => height < entry) = true :=
      List.any_eq_true.2 ⟨_, List.getElem_mem inside, decide_eq_true above⟩
    -- The entry that is written over is above the window.
    have outside : ¬InWindow signersLen height heights[offset] := fun window =>
      absurd window.1 (not_le.2 above)
    have split := congrArg (List.countP fun entry => decide (InWindow signersLen height entry))
      (List.take_append_drop offset heights)
    rw [List.drop_eq_getElem_cons inside, List.countP_append, List.countP_cons,
      if_neg (by simpa using outside)] at split
    rw [found, Nat.zero_add, if_pos inside, someAbove, List.countP_append, List.countP_append]
    simp only [List.countP_cons, List.countP_nil, decide_eq_true own, if_true]
    omega

theorem entriesInWindow_insert {signer : Address} {v : Evidences} :
    entriesInWindow signersLen (signers.insert signer v) currentHeight =
      entriesInWindow signersLen (signers.erase signer) currentHeight +
        v.heights.countP fun height => InWindow signersLen currentHeight height := by
  rw [entriesInWindow, GoMap.values, AList.entries_insert, List.map_cons, List.map_cons,
    List.sum_cons, Nat.add_comm]
  rfl

theorem signersInWindow_insert {signer : Address} {v : Evidences} {height : Int}
    (member : height ∈ v.heights) (inside : InWindow signersLen currentHeight height) :
    signersInWindow signersLen (signers.insert signer v) currentHeight =
      signersInWindow signersLen (signers.erase signer) currentHeight + 1 := by
  have some : (v.heights.any fun height => InWindow signersLen currentHeight height) = true :=
    List.any_eq_true.2 ⟨height, member, decide_eq_true inside⟩
  rw [signersInWindow, GoMap.values, AList.entries_insert, List.map_cons, List.countP_cons,
    if_pos some]
  rfl

/-- The evidence that is not too old at a height, as `RemoveOldEvilSigners` leaves it. -/
def recent (signersLen : Nat) (signers : EvilSignersMap) (height : Int) : EvilSignersMap :=
  signers.deleteWhere fun _ v => (signersLen : Int) < int64 (height - v.lastHeight)

/-- The heights of the recent evidence against a signer. -/
def ownHeights (signersLen : Nat) (signers : EvilSignersMap) (height : Int) (signer : Address) :
    List Int :=
  (((signers.recent signersLen height).lookup signer).map Evidences.heights).getD []

/--
If two headers are different ones of one author: enough entries for the alarm, those that the
headers add included, come from enough signers, the author included.
-/
def CountedWith {Header : Type} (signersLen : Nat) (facts : HeaderFacts Header)
    (signers : EvilSignersMap) (headerNew headerOld : Header) : Prop :=
  ∀ signer, facts.hash headerNew ≠ facts.hash headerOld → facts.author headerNew = some signer →
    facts.author headerOld = some signer →
    let height := facts.number headerNew
    let others : EvilSignersMap := (signers.recent signersLen height).erase signer
    let own := signers.ownHeights signersLen height signer
    signersLen * 2 / 3 ≤ others.entriesInWindow signersLen height +
        (own.countP (fun entry => InWindow signersLen height entry) + addedEntries own height) →
      signersLen * 2 / 3 ≤ others.signersInWindow signersLen height + 1

/-- What `UpdateEvilSigners` leaves, counted in the map before. -/
theorem updateEvilSigners_counts (spare : Nat → List Nat) (positive : 0 < signersLen)
    (wellFormed : ∀ v ∈ signers.values, v.WellFormed) {signer : Address} {height : Int}
    {blocks : List (Hash × UInt64)} {updated : EvilSignersMap}
    (isUpdated : signers.updateEvilSigners spare signersLen signer height blocks = some updated) :
    updated.entriesInWindow signersLen height =
        entriesInWindow signersLen ((signers.recent signersLen height).erase signer) height +
          ((signers.ownHeights signersLen height signer).countP
              (fun entry => InWindow signersLen height entry) +
            addedEntries (signers.ownHeights signersLen height signer) height) ∧
      updated.signersInWindow signersLen height =
        signersInWindow signersLen ((signers.recent signersLen height).erase signer) height + 1 := by
  obtain ⟨kept, isKept, rfl⟩ := Option.map_eq_some_iff.1 isUpdated
  unfold removeOldEvilSigners at isKept
  rw [if_neg (by omega)] at isKept
  split at isKept
  · cases isKept
  obtain rfl : signers.recent signersLen height = kept := Option.some.inj isKept
  generalize isOwn : ((signers.recent signersLen height).lookup signer).getD Evidences.empty = own
  have heights : own.heights = signers.ownHeights signersLen height signer := by
    rw [← isOwn, ownHeights]
    cases (signers.recent signersLen height).lookup signer <;> rfl
  have ownWellFormed : own.WellFormed := by
    rw [← isOwn]
    cases found : (signers.recent signersLen height).lookup signer with
    | none => exact Evidences.wellFormed_empty
    | some v =>
      exact wellFormed v (GoMap.mem_values.2 ⟨signer, GoMap.lookup_of_lookup_deleteWhere found⟩)
  have after := (Evidences.update_spec spare ownWellFormed height blocks).2
  have member : height ∈ (own.update spare height blocks).heights := by
    rw [after]
    exact Evidences.mem_insertHeight_self
  refine ⟨?_, signersInWindow_insert member ⟨le_rfl, by omega⟩⟩
  rw [entriesInWindow_insert, after, countP_insertHeight positive, heights]

/-- An alarm comes from two thirds of the signers exactly if the entries before do. -/
theorem isNeedStopChain_counted_iff {Header : Type} {facts : HeaderFacts Header}
    (wellFormed : ∀ v ∈ signers.values, v.WellFormed) {headerNew headerOld : Header}
    {updated : EvilSignersMap} {stop : Bool}
    (returned : signers.isNeedStopChain spare signersLen facts order headerNew headerOld =
      some (updated, stop)) :
    (stop = true → signersLen * 2 / 3 ≤
        updated.signersInWindow signersLen (facts.number headerNew)) ↔
      CountedWith signersLen facts signers headerNew headerOld := by
  unfold isNeedStopChain at returned
  split at returned
  next same =>
    obtain ⟨rfl, rfl⟩ := Prod.mk.inj (Option.some.inj returned)
    exact ⟨fun _ _ differ => absurd same differ, fun _ alarm => absurd alarm Bool.false_ne_true⟩
  next differ =>
  split at returned
  next singerOld singerNew isOld isNew =>
    split at returned
    next same =>
      subst same
      obtain ⟨after, isAfter, isPair⟩ := Option.map_eq_some_iff.1 returned
      obtain ⟨rfl, rfl⟩ := Prod.mk.inj isPair
      rcases Nat.eq_zero_or_pos (signersLen * 2 / 3) with zero | positive
      · rw [zero]
        refine ⟨fun _ signer _ _ _ => ?_, fun _ _ => Nat.zero_le _⟩
        dsimp only
        rw [zero]
        exact fun _ => Nat.zero_le _
      obtain ⟨entries, count⟩ := updateEvilSigners_counts spare (by omega) wellFormed isAfter
      rw [isDanger_iff (by exact_mod_cast positive), entries, count, Int.ofNat_le]
      constructor
      · intro needed signer _ isSigner _
        obtain rfl := Option.some.inj (isNew.symm.trans isSigner)
        exact needed
      · exact fun counted => counted singerNew differ isNew isOld
    next differs =>
      obtain ⟨rfl, rfl⟩ := Prod.mk.inj (Option.some.inj returned)
      refine ⟨fun _ signer _ isSigner wasSigner => ?_, fun _ alarm => absurd alarm Bool.false_ne_true⟩
      rw [isNew] at isSigner
      rw [isOld] at wasSigner
      exact absurd (Option.some.inj (isSigner.trans wasSigner.symm)) differs
  next noAuthors =>
    obtain ⟨rfl, rfl⟩ := Prod.mk.inj (Option.some.inj returned)
    refine ⟨fun _ signer _ isSigner wasSigner => ?_, fun _ alarm => absurd alarm Bool.false_ne_true⟩
    exact (noAuthors signer signer wasSigner isSigner).elim

/--
`IsDanger` tells whether the evidence is against a number of signers, and the alarm of
`IsNeedStopChain` is one about two thirds of them, exactly if enough entries for the alarm
come from enough signers: in the map, and in the map before the call with what the two headers
add to it.
-/
theorem alarm_counts_signers_iff (spare : Nat → List Nat) (signersLen : Nat)
    (order : IterationOrder) :
    (∀ (signers : EvilSignersMap) (currentHeight threshold : Int), 0 < threshold →
      ((signers.isDanger signersLen order currentHeight threshold = true ↔
          threshold ≤ signers.signersInWindow signersLen currentHeight) ↔
        Counted signersLen signers currentHeight threshold)) ∧
    ∀ (Header : Type) (facts : HeaderFacts Header) (signers updated : EvilSignersMap)
      (headerNew headerOld : Header) (stop : Bool), (∀ v ∈ signers.values, v.WellFormed) →
      signers.isNeedStopChain spare signersLen facts order headerNew headerOld =
        some (updated, stop) →
      ((stop = true → signersLen * 2 / 3 ≤
          updated.signersInWindow signersLen (facts.number headerNew)) ↔
        CountedWith signersLen facts signers headerNew headerOld) := by
  constructor
  · intro signers currentHeight threshold positive
    rw [isDanger_iff positive]
    have fewer : signers.signersInWindow signersLen currentHeight ≤ _ := signersInWindow_le
    exact ⟨Iff.mp, fun counted => ⟨counted, fun enough => by omega⟩⟩
  · intro Header facts signers updated headerNew headerOld stop wellFormed returned
    exact isNeedStopChain_counted_iff wellFormed returned

namespace Sample

/-- Evidence against one signer at the height 4. -/
def once : EvilSignersMap :=
  (∅ : EvilSignersMap).insert blackAddr (Evidences.empty.update (fun _ => []) 4 [])

/-- Evidence against one signer at the heights 4 and 5. -/
def twice : EvilSignersMap :=
  (∅ : EvilSignersMap).insert blackAddr
    ((Evidences.empty.update (fun _ => []) 4 []).update (fun _ => []) 5 [])

/-- Headers are numbers: all of one author, and two for every height. -/
def headers : HeaderFacts UInt8 where
  hash header := .replicate 32 header
  number header := header.toNat / 2
  parseElaHeightFromHead _ := 0
  author _ := some blackAddr

end Sample

open EscSideChain.Core.EvilSignersMap.Sample

theorem alarm_counts_signers_twice :
    (0 : Int) < 1 ∧ ((twice.isDanger 3 .stored 5 1 = true ↔
        1 ≤ twice.signersInWindow 3 5) ↔ Counted 3 twice 5 1) ∧
      ∃ updated, once.isNeedStopChain (fun _ => []) 3 headers .stored 11 10 = some (updated, true) ∧
        ((true = true → 3 * 2 / 3 ≤ updated.signersInWindow 3 (headers.number 11)) ↔
          CountedWith 3 headers once 11 10) := by
  have counts := alarm_counts_signers_iff (fun _ => []) 3 .stored
  have wellFormed : ∀ v ∈ GoMap.values once, v.WellFormed := by
    intro v member
    obtain rfl := List.mem_singleton.1 member
    exact (Evidences.update_spec _ Evidences.wellFormed_empty 4 []).1
  have raised : ((once.isNeedStopChain (fun _ => []) 3 headers .stored 11 10).map Prod.snd) =
      some true := by
    decide
  obtain ⟨⟨updated, _⟩, returned, rfl⟩ := Option.map_eq_some_iff.1 raised
  exact ⟨by decide, by exact_mod_cast counts.1 twice 5 1 (by decide), updated, returned,
    counts.2 UInt8 headers once updated 11 10 true wellFormed returned⟩

/-- One of three signers raises the alarm alone, by two blocks at each of two heights. -/
theorem one_signer_raises_alarm :
    twice.isDanger 3 .stored 5 2 = true ∧ twice.signersInWindow 3 5 = 1 ∧
      ((isNeedStopChain (fun _ => []) 3 headers .stored ∅ 9 8).bind fun first =>
        (first.1.isNeedStopChain (fun _ => []) 3 headers .stored 11 10).map fun second =>
          (first.2, second.2, second.1.signersInWindow 3 5)) = some (false, true, 1) := by
  decide

end EvilSignersMap

end EscSideChain.Core
