import EscSideChain.DposBlockPool
import EscSideChain.DposDutyOrder
import EscSideChain.EvmCall
import EscSideChain.GoSlice
import Mathlib.Data.Nat.Digits.Lemmas

namespace EscSideChain.Aribiters

open Dpos GoSlice Vm

/-!
# The arbiters of the bridge

`chainbridge-core/chains/evm/aribiters/arbitermanager.go`: the keys that the arbiters of the
next turn sent, and their signatures of the list of keys, by producer.
-/

structure CollectionInfo where
  nextTotalCount : Int
  list : List Bytes
  signatures : GoMap Bytes Bytes
  currentTotalCount : Int

structure ArbiterManager where
  nextTotalCount : Int
  currentTotalCount : Int
  arbiters : GoMap Bytes Bytes
  signatures : GoMap Bytes Bytes
  collectionBox : CollectionInfo
  consensusArbiters : List Bytes

/-- The functions of the package `crypto`. -/
structure Crypto (PublicKey Digest : Type) where
  decompressPubkey : Bytes → Except String PublicKey
  pubkeyToAddress : PublicKey → Address
  keccak256Hash : Bytes → Digest

/-- The addresses of keys, in their order, up to the first key that cannot be decompressed. -/
def addresses {PublicKey Digest : Type} (crypto : Crypto PublicKey Digest)
    (keys : List Bytes) : Except String (List Address) :=
  keys.mapM fun arbiter => (crypto.decompressPubkey arbiter).map crypto.pubkeyToAddress

namespace ArbiterManager

variable {PublicKey Digest : Type} (crypto : Crypto PublicKey Digest) (order : IterationOrder)
  (a : ArbiterManager)

def getArbiterList : List Bytes :=
  sortKeys ((GoMap.iterate order a.arbiters).map Prod.snd)

/-- What `HashArbiterList` hashes: the addresses, the total and the salt. -/
def hashInput (addrs : List Address) (hashSalt : Nat) : Bytes :=
  addrs.flatMap List.Vector.toList ++
    (bigBytes (a.nextTotalCount % 2 ^ 64).toNat).leftpad 32 0 ++ (bigBytes hashSalt).leftpad 32 0

def hashArbiterList (hashSalt : Nat) : Except String Digest :=
  (addresses crypto (a.getArbiterList order)).map fun addrs =>
    crypto.keccak256Hash (a.hashInput addrs hashSalt)

def saveToCollection (signatureOrder : IterationOrder) : ArbiterManager :=
  { a with
    collectionBox :=
      { nextTotalCount := a.nextTotalCount
        list := sortKeys ((GoMap.iterate order a.arbiters).map Prod.snd)
        signatures := (GoMap.iterate signatureOrder a.signatures).foldl
          (fun saved entry => saved.insert entry.1 entry.2) ∅
        currentTotalCount := a.currentTotalCount } }

end ArbiterManager

/-! ## Filtering peers -/

section Filter

variable (spare : Nat → List Bytes) (orders : Nat → IterationOrder) (keys : GoMap Bytes Bytes)

/-- Whether a loop over the keys comes to one that equals the peer. -/
def comesTo (order : IterationOrder) (peer : Bytes) : Bool :=
  (GoMap.iterate order keys).any fun entry => peer = entry.1

/-- `append(list[:i], list[i+1:]...)`. -/
def cutOut (arrays : Arrays Bytes) (list : Slice) (i : Nat) : Arrays Bytes × Slice :=
  append spare arrays (list.sub 0 i) (contents arrays (list.sub (i + 1) list.len))

/-- The loop over the list; where a peer is cut out the index stays. -/
def filterLoop (arrays : Arrays Bytes) (list : Slice) (i : Nat) : Arrays Bytes × Slice :=
  if i < list.len then
    if comesTo keys (orders (list.len - i)) ((contents arrays list)[i]?.getD []) then
      filterLoop (cutOut spare arrays list i).1 (cutOut spare arrays list i).2 i
    else filterLoop arrays list (i + 1)
  else (arrays, list)
termination_by list.len - i
decreasing_by
  · have shorter := length_contents_le arrays (list.sub (i + 1) list.len)
    have bound := len_append_le spare arrays (list.sub 0 i)
      (contents arrays (list.sub (i + 1) list.len))
    simp only [cutOut, Slice.sub] at shorter bound ⊢
    omega
  · omega

def copyPeers : Arrays Bytes × Slice → List Bytes → Arrays Bytes × Slice :=
  List.foldl fun list p => append spare list.1 list.2 [p]

/-- The peers whose key is not in the map, in a list of their own. -/
def filterKeys (arrays : Arrays Bytes) (peers : Slice) : Arrays Bytes × Slice :=
  let list := copyPeers spare (arrays ++ [[]], ⟨arrays.length, 0, 0, 0⟩) (contents arrays peers)
  if keys.len = 0 then list else filterLoop spare orders keys list.1 list.2 0

/-- The list that is left has the unknown peers, and nothing that was there has changed. -/
structure FiltersExactly (arrays : Arrays Bytes) (peers : Slice) (left : Arrays Bytes × Slice) :
    Prop where
  kept : contents left.1 left.2 =
    (contents arrays peers).filter fun peer => (keys.lookup peer).isNone
  unchanged : contents left.1 peers = contents arrays peers
  arrays : ∀ array < arrays.length, left.1[array]? = arrays[array]?

def ArbiterManager.filterArbiters (a : ArbiterManager) : Arrays Bytes → Slice → Arrays Bytes × Slice :=
  filterKeys spare orders a.arbiters

def ArbiterManager.filterSignatures (a : ArbiterManager) :
    Arrays Bytes → Slice → Arrays Bytes × Slice :=
  filterKeys spare orders a.signatures

variable {spare orders keys} {old arrays : Arrays Bytes} {list : Slice} {i : Nat}

theorem comesTo_iff {order : IterationOrder} {peer : Bytes} :
    comesTo keys order peer = true ↔ (keys.lookup peer).isSome = true := by
  simp only [comesTo, List.any_eq_true, decide_eq_true_eq, Prod.exists, GoMap.mem_iterate,
    Option.isSome_iff_exists]
  exact ⟨fun ⟨_, value, found, same⟩ => ⟨value, same ▸ found⟩, fun ⟨value, found⟩ =>
    ⟨peer, value, found, rfl⟩⟩

/-- The list is in an array of its own behind the old ones, which are unchanged. -/
structure Own (old arrays : Arrays Bytes) (list : Slice) : Prop where
  valid : list.Valid arrays
  known : old.length ≤ arrays.length
  isNew : old.length ≤ list.array
  same : ∀ array < old.length, arrays[array]? = old[array]?

theorem Own.append (own : Own old arrays list) {slice : Slice} (valid : slice.Valid arrays)
    (sameArray : slice.array = list.array) (new : List Bytes) :
    Own old (append spare arrays slice new).1 (append spare arrays slice new).2 ∧
      contents (append spare arrays slice new).1 (append spare arrays slice new).2 =
        contents arrays slice ++ new := by
  obtain ⟨isContents, stillValid⟩ := append_spec spare new valid
  obtain ⟨known, isNew, unchanged⟩ := append_keeps spare new own.known (sameArray ▸ own.isNew)
  exact ⟨⟨stillValid, known, isNew, fun array isOld =>
    (unchanged array isOld).trans (own.same array isOld)⟩, isContents⟩

theorem Own.copied (own : Own old arrays list) (peers : List Bytes) :
    Own old (copyPeers spare (arrays, list) peers).1 (copyPeers spare (arrays, list) peers).2 ∧
      contents (copyPeers spare (arrays, list) peers).1 (copyPeers spare (arrays, list) peers).2 =
        contents arrays list ++ peers := by
  induction peers generalizing arrays list with
  | nil => exact ⟨own, (List.append_nil _).symm⟩
  | cons peer rest inductionHypothesis =>
    obtain ⟨ownNext, isContents⟩ := own.append own.valid rfl [peer]
    obtain ⟨ownCopied, copied⟩ := inductionHypothesis ownNext
    refine ⟨ownCopied, copied.trans ?_⟩
    rw [isContents, List.append_assoc]
    rfl

theorem Own.cut (own : Own old arrays list) (inside : i < list.len) :
    Own old (cutOut spare arrays list i).1 (cutOut spare arrays list i).2 ∧
      contents (cutOut spare arrays list i).1 (cutOut spare arrays list i).2 =
        (contents arrays list).take i ++ (contents arrays list).drop (i + 1) := by
  have later : contents arrays (list.sub (i + 1) list.len) =
      (contents arrays list).drop (i + 1) := by
    rw [contents_sub le_rfl, List.take_of_length_le]
    rw [List.length_drop, length_contents own.valid]
  obtain ⟨ownCut, isContents⟩ := own.append (own.valid.sub inside.le) rfl
    (contents arrays (list.sub (i + 1) list.len))
  refine ⟨ownCut, isContents.trans ?_⟩
  rw [later, contents_sub inside.le, List.drop_zero, Nat.sub_zero]

theorem Own.filterLoop (own : Own old arrays list) :
    Own old (filterLoop spare orders keys arrays list i).1
        (filterLoop spare orders keys arrays list i).2 ∧
      contents (filterLoop spare orders keys arrays list i).1
          (filterLoop spare orders keys arrays list i).2 =
        (contents arrays list).take i ++
          ((contents arrays list).drop i).filter fun peer => (keys.lookup peer).isNone := by
  fun_induction Aribiters.filterLoop spare orders keys arrays list i with
  | case1 arrays list i inside found inductionHypothesis =>
    obtain ⟨ownCut, isContents⟩ := own.cut inside
    refine ⟨(inductionHypothesis ownCut).1, (inductionHypothesis ownCut).2.trans ?_⟩
    have isLength := length_contents own.valid
    have inContents : i < (contents arrays list).length := by omega
    rw [comesTo_iff, List.getElem?_eq_getElem inContents, Option.getD_some] at found
    have front : ((contents arrays list).take i).length = i := by simp; omega
    rw [isContents, List.take_left' front, List.drop_left' front,
      List.drop_eq_getElem_cons inContents, List.filter_cons_of_neg (by simpa [Option.isSome_iff_ne_none] using found)]
  | case2 arrays list i inside missing inductionHypothesis =>
    refine ⟨(inductionHypothesis own).1, (inductionHypothesis own).2.trans ?_⟩
    have isLength := length_contents own.valid
    have inContents : i < (contents arrays list).length := by omega
    rw [comesTo_iff, List.getElem?_eq_getElem inContents, Option.getD_some] at missing
    rw [List.drop_eq_getElem_cons inContents, List.filter_cons_of_pos (by simpa using missing),
      List.take_succ_eq_append_getElem inContents, List.append_assoc]
    rfl
  | case3 arrays list i atEnd =>
    have isLength := length_contents own.valid
    rw [List.take_of_length_le (by omega), List.drop_of_length_le (by omega)]
    exact ⟨own, (List.append_nil _).symm⟩

theorem filterKeys_exact (spare : Nat → List Bytes) (orders : Nat → IterationOrder)
    (keys : GoMap Bytes Bytes) {peers : Slice} (valid : peers.Valid arrays) :
    FiltersExactly keys arrays peers (filterKeys spare orders keys arrays peers) := by
  have own : Own arrays (arrays ++ [[]]) ⟨arrays.length, 0, 0, 0⟩ :=
    ⟨⟨[], by simp, by simp, le_rfl⟩, by simp, le_rfl, fun _ isOld => List.getElem?_append_left isOld⟩
  obtain ⟨ownCopied, copied⟩ := own.copied (contents arrays peers)
  have empty : contents (arrays ++ [[]]) ⟨arrays.length, 0, 0, 0⟩ = [] := rfl
  rw [empty, List.nil_append] at copied
  have result : Own arrays (filterKeys spare orders keys arrays peers).1
      (filterKeys spare orders keys arrays peers).2 ∧
      contents (filterKeys spare orders keys arrays peers).1
        (filterKeys spare orders keys arrays peers).2 =
      (contents arrays peers).filter fun peer => (keys.lookup peer).isNone := by
    unfold filterKeys
    dsimp only
    split
    next none =>
      refine ⟨ownCopied, copied.trans (List.filter_eq_self.2 fun peer _ => ?_).symm⟩
      cases found : keys.lookup peer with
      | none => rfl
      | some value =>
        have member : (peer, value) ∈ GoMap.iterate .stored keys := GoMap.mem_iterate.2 found
        have some := List.length_pos_of_mem member
        rw [GoMap.length_iterate, none] at some
        cases some
    · obtain ⟨ownLeft, left⟩ := ownCopied.filterLoop (i := 0)
      exact ⟨ownLeft, left.trans (by rw [copied]; rfl)⟩
  obtain ⟨items, isArray, _⟩ := valid
  have isOld := (List.getElem?_eq_some_iff.1 isArray).1
  exact ⟨result.2, contents_congr (result.1.same _ isOld), result.1.same⟩

/--
`FilterArbiters` and `FilterSignatures` come to an end and leave exactly the peers whose key
is not in the map, as often and in the order as they came, in a new list.
-/
theorem filters_exact (a : ArbiterManager) (spare : Nat → List Bytes)
    (orders : Nat → IterationOrder) {peers : Slice} (valid : peers.Valid arrays) :
    FiltersExactly a.arbiters arrays peers (a.filterArbiters spare orders arrays peers) ∧
      FiltersExactly a.signatures arrays peers (a.filterSignatures spare orders arrays peers) :=
  ⟨filterKeys_exact spare orders a.arbiters valid,
    filterKeys_exact spare orders a.signatures valid⟩

end Filter

/-! ## Equal lists -/

section Canonical

variable {PublicKey Digest : Type} {crypto : Crypto PublicKey Digest}
  {firstOrder secondOrder : IterationOrder} {first second : ArbiterManager}

/-- The values of a map in the order of `bytes.Compare`, each as often as it is a value. -/
structure SortedValues (keys : GoMap Bytes Bytes) (list : List Bytes) : Prop where
  sorted : list.Pairwise (· ≤ ·)
  values : list.Perm keys.values

theorem SortedValues.eq {keys : GoMap Bytes Bytes} {list other : List Bytes}
    (isList : SortedValues keys list) (isOther : SortedValues keys other) : list = other :=
  (isList.values.trans isOther.values.symm).eq_of_pairwise' isList.sorted isOther.sorted

/-- Maps with the same entries have the same values, whatever order the entries came in. -/
theorem values_perm {keys others : GoMap Bytes Bytes}
    (same : ∀ pid, keys.lookup pid = others.lookup pid) : keys.values.Perm others.values := by
  have entries : (GoMap.iterate .stored keys).Perm (GoMap.iterate .stored others) := by
    refine (List.perm_ext_iff_of_nodup (.of_map _ GoMap.nodup_keys_iterate)
      (.of_map _ GoMap.nodup_keys_iterate)).2 ?_
    rintro ⟨pid, arbiter⟩
    rw [GoMap.mem_iterate, GoMap.mem_iterate, same]
  simpa [GoMap.iterate, GoMap.values, IterationOrder.stored, Function.comp_def] using entries.map Prod.snd

/-- `GetArbiterList` returns the values of the map in order, however its loop goes. -/
theorem sortedValues_getArbiterList (a : ArbiterManager) (order : IterationOrder) :
    SortedValues a.arbiters (a.getArbiterList order) where
  sorted := List.pairwise_insertionSort _ _
  values := by
    refine (List.perm_insertionSort _ _).trans ?_
    simpa [GoMap.iterate, GoMap.values, Function.comp_def] using
      (order.perm a.arbiters.entries).map fun entry => entry.2

theorem length_leftpad_bigBytes {number : Nat} (small : number < 2 ^ 256) :
    ((bigBytes number).leftpad 32 0).length = 32 := by
  have fits : (bigBytes number).length ≤ 32 := by
    rw [bigBytes, List.length_map, List.length_reverse]
    exact (Nat.digits_length_le_iff (by decide) number).2 small
  rw [List.leftpad, List.length_append, List.length_replicate]
  exact Nat.sub_add_cancel fits

theorem flatMap_toList_inj {size : Nat} (left : List (List.Vector UInt8 size))
    {right : List (List.Vector UInt8 size)} (positive : 0 < size)
    (same : left.flatMap List.Vector.toList = right.flatMap List.Vector.toList) :
    left = right := by
  induction left generalizing right with
  | nil =>
    cases right with
    | nil => rfl
    | cons first rest =>
      have lengths := congrArg List.length same
      simp only [List.flatMap_nil, List.flatMap_cons, List.length_append, List.length_nil,
        List.Vector.toList_length] at lengths
      omega
  | cons first rest inductionHypothesis =>
    cases right with
    | nil =>
      have lengths := congrArg List.length same
      simp only [List.flatMap_nil, List.flatMap_cons, List.length_append, List.length_nil,
        List.Vector.toList_length] at lengths
      omega
    | cons other others =>
      obtain ⟨heads, tails⟩ := List.append_inj same (by simp)
      rw [List.Vector.toList_injective heads, inductionHypothesis tails]

theorem addresses_eq_of_hashInput {firstAddrs secondAddrs : List Address}
    {firstSalt secondSalt : Nat} (firstSmall : firstSalt < 2 ^ 256)
    (secondSmall : secondSalt < 2 ^ 256)
    (same : first.hashInput firstAddrs firstSalt = second.hashInput secondAddrs secondSalt) :
    firstAddrs = secondAddrs := by
  have total : ∀ a : ArbiterManager, (a.nextTotalCount % 2 ^ 64).toNat < 2 ^ 256 := by
    intro a
    omega
  have padded : ∀ {left right : Nat}, left < 2 ^ 256 → right < 2 ^ 256 →
      ((bigBytes left).leftpad 32 0).length = ((bigBytes right).leftpad 32 0).length :=
    fun left right =>
      (length_leftpad_bigBytes left).trans (length_leftpad_bigBytes right).symm
  obtain ⟨same, _⟩ := List.append_inj' same (padded firstSmall secondSmall)
  obtain ⟨same, _⟩ := List.append_inj' same (padded (total first) (total second))
  exact flatMap_toList_inj firstAddrs (by decide) same

end Canonical

/--
`GetArbiterList` and the saved list are the sorted values of the map, which are the same for
managers with the same entries, and so are the hashes.  Equal hashes come from sorted values
with the same addresses.
-/
theorem arbiter_list_canonical {PublicKey Digest : Type} (crypto : Crypto PublicKey Digest)
    (injective : Function.Injective crypto.keccak256Hash) (first second : ArbiterManager)
    (firstOrder secondOrder : IterationOrder) {firstList secondList : List Bytes}
    (isFirst : SortedValues first.arbiters firstList)
    (isSecond : SortedValues second.arbiters secondList) :
    ((∀ pid, first.arbiters.lookup pid = second.arbiters.lookup pid) →
      firstList = secondList ∧
        first.getArbiterList firstOrder = firstList ∧
        second.getArbiterList secondOrder = secondList ∧
        (∀ signatureOrder,
          (first.saveToCollection firstOrder signatureOrder).collectionBox.list = firstList ∧
            (second.saveToCollection secondOrder signatureOrder).collectionBox.list = secondList) ∧
        (first.nextTotalCount = second.nextTotalCount → ∀ hashSalt,
          first.hashArbiterList crypto firstOrder hashSalt =
            second.hashArbiterList crypto secondOrder hashSalt)) ∧
    ∀ firstSalt secondSalt, firstSalt < 2 ^ 256 → secondSalt < 2 ^ 256 →
      ∀ hash, first.hashArbiterList crypto firstOrder firstSalt = .ok hash →
        second.hashArbiterList crypto secondOrder secondSalt = .ok hash →
        addresses crypto firstList = addresses crypto secondList := by
  have firstIs : first.getArbiterList firstOrder = firstList :=
    (sortedValues_getArbiterList first firstOrder).eq isFirst
  have secondIs : second.getArbiterList secondOrder = secondList :=
    (sortedValues_getArbiterList second secondOrder).eq isSecond
  constructor
  · intro same
    have lists : firstList = secondList :=
      isFirst.eq ⟨isSecond.sorted, isSecond.values.trans (values_perm same).symm⟩
    refine ⟨lists, firstIs, secondIs, fun _ => ⟨firstIs, secondIs⟩, fun sameTotal hashSalt => ?_⟩
    simp only [ArbiterManager.hashArbiterList, ArbiterManager.hashInput, firstIs, secondIs, lists,
      sameTotal]
  · intro firstSalt secondSalt firstSmall secondSmall hash firstHash secondHash
    obtain ⟨addrs, isAddrs, isHash⟩ := exists_of_map_ok firstHash
    obtain ⟨others, isOthers, isOther⟩ := exists_of_map_ok secondHash
    have same := injective (isHash.trans isOther.symm)
    rw [← firstIs, ← secondIs, isAddrs, isOthers,
      addresses_eq_of_hashInput firstSmall secondSmall same]

namespace Sample

def crypto : Crypto Bytes Bytes where
  decompressPubkey := .ok
  pubkeyToAddress := fixedBytes 20
  keccak256Hash := id

def manager (arbiters : GoMap Bytes Bytes) : ArbiterManager :=
  ⟨2, 2, arbiters, ∅, ⟨0, [], ∅, 0⟩, []⟩

def forth : GoMap Bytes Bytes := ((∅ : GoMap Bytes Bytes).insert [1] [7]).insert [2] [5]

def back : GoMap Bytes Bytes := ((∅ : GoMap Bytes Bytes).insert [2] [5]).insert [1] [7]

end Sample

open Sample

theorem filters_exact_pair :
    contents ((manager forth).filterArbiters (fun _ => []) (fun _ => .stored) [[[1], [3], [1]]]
        ⟨0, 0, 3, 3⟩).1
      ((manager forth).filterArbiters (fun _ => []) (fun _ => .stored) [[[1], [3], [1]]]
        ⟨0, 0, 3, 3⟩).2 = [[3]] :=
  (filters_exact (manager forth) (fun _ => []) (fun _ => .stored)
    ⟨[[1], [3], [1]], rfl, by decide, by decide⟩).1.kept

theorem arbiter_list_canonical_pair :
    SortedValues forth [[5], [7]] ∧ (manager back).getArbiterList .stored = [[5], [7]] ∧
      (manager forth).hashArbiterList crypto .stored 7 =
        (manager back).hashArbiterList crypto .stored 7 ∧
      addresses crypto [[5], [7]] = .ok [fixedBytes 20 [5], fixedBytes 20 [7]] := by
  have same : ∀ pid, forth.lookup pid = back.lookup pid := by
    intro pid
    by_cases isFirst : pid = [1]
    · rw [isFirst]
      rfl
    · by_cases isSecond : pid = [2]
      · rw [isSecond]
        rfl
      · rw [forth, back, AList.lookup_insert_ne isSecond, AList.lookup_insert_ne isFirst,
          AList.lookup_insert_ne isFirst, AList.lookup_insert_ne isSecond]
  have isForth : SortedValues forth [[5], [7]] := ⟨by decide, by decide⟩
  have isBack : SortedValues back [[5], [7]] := ⟨by decide, by decide⟩
  obtain ⟨-, -, list, -, hashes⟩ := (arbiter_list_canonical crypto Function.injective_id
    (manager forth) (manager back) .stored .stored isForth isBack).1 same
  exact ⟨isForth, list, hashes rfl 7, rfl⟩

end EscSideChain.Aribiters
