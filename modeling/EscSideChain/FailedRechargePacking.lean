import EscSideChain.FailedRechargeRuns

namespace EscSideChain.Spv

open Dpos

/-!
# Packing a recharge that had failed

`onElaTxPacked` takes a recharge off the lists of failed ones when it turns out to be
executed.  A list in memory that holds more than the one id is shifted in place, but the
shorter slice is not assigned to the map: the map keeps the old length, and with it the
last entry of the old array.
-/

namespace FailedRecharges

namespace Lists

structure PackedExactly (elaTx : Bytes) (before after : Lists) : Prop where
  memoryGone : elaTx ∉ after.memory
  databaseGone : elaTx ∉ after.database
  memoryKept : ∀ id ∈ before.memory, id ≠ elaTx → after.memory.count id = 1
  databaseKept : ∀ id ∈ before.database, id ≠ elaTx → after.database.count id = 1

/--
The lists that an id can be removed from.  Either memory lists it and nothing
else, and neither does the database; or memory does not list it, and no id is
listed twice.
-/
def Removable (elaTx : Bytes) (lists : Lists) : Prop :=
  (lists.memory = [elaTx] ∨ lists.memory = [elaTx, elaTx]) ∧ (∀ id ∈ lists.database, id = elaTx) ∨
    lists.memory = [] ∧ lists.database = [elaTx] ∨ elaTx ∉ lists.memory ∧ lists.memory.Nodup ∧
      lists.database.Nodup ∧ lists.database ≠ [elaTx]

variable {elaTx : Bytes} {lists : Lists}

theorem not_kept_shiftOut {txs : List Bytes} (some_ : txs ≠ []) (gone : elaTx ∉ shiftOut elaTx txs)
    (kept : ∀ id ∈ txs, id ≠ elaTx → (shiftOut elaTx txs).count id = 1) : False := by
  have lastIn := List.getLast_mem some_
  have shifted : shiftOut elaTx txs = txs.erase elaTx ++ [txs.getLast some_] := by
    rw [shiftOut, List.getLast?_eq_some_getLast some_]
    rfl
  rw [shifted] at gone kept
  by_cases same : txs.getLast some_ = elaTx
  · exact gone (by simp [same])
  have once := kept _ lastIn same
  have earlier : 0 < (txs.erase elaTx).count (txs.getLast some_) :=
    List.count_pos_iff.2 ((List.mem_erase_of_ne same).2 lastIn)
  rw [List.count_append, List.count_singleton_self] at once
  omega

theorem packedExactly_nil_iff (onlyIt : ∀ id ∈ lists.memory, id = elaTx) :
    lists.PackedExactly elaTx ⟨[], []⟩ ↔ ∀ id ∈ lists.database, id = elaTx := by
  constructor
  · intro packed id stored
    by_contra other
    exact absurd (packed.databaseKept id stored other) (by simp)
  · intro nothingElse
    refine ⟨List.not_mem_nil, List.not_mem_nil, ?_, ?_⟩
    · intro id listed other
      exact absurd (onlyIt id listed) other
    · intro id stored other
      exact absurd (nothingElse id stored) other

theorem kept_iff_nodup {txs : List Bytes} (absent : elaTx ∉ txs) :
    (∀ id ∈ txs, id ≠ elaTx → txs.count id = 1) ↔ txs.Nodup := by
  rw [List.nodup_iff_count_eq_one]
  constructor
  · intro kept id listed
    refine kept id listed ?_
    rintro rfl
    exact absent listed
  · intro once id listed _
    exact once id listed

theorem erased_iff_nodup {txs : List Bytes} (listed : elaTx ∈ txs) :
    (elaTx ∉ txs.erase elaTx ∧ ∀ id ∈ txs, id ≠ elaTx → (txs.erase elaTx).count id = 1) ↔
      txs.Nodup := by
  rw [List.nodup_iff_count_eq_one]
  constructor
  · rintro ⟨gone, kept⟩ id present
    by_cases same : id = elaTx
    · subst same
      have nothing := List.count_eq_zero.2 gone
      have first := List.count_pos_iff.2 listed
      rw [List.count_erase_self] at nothing
      omega
    · have once := kept id present same
      rwa [List.count_erase_of_ne same] at once
  · intro once
    constructor
    · rw [← List.count_eq_zero, List.count_erase_self, once elaTx listed]
    · intro id present other
      rw [List.count_erase_of_ne other]
      exact once id present

theorem eq_singleton_of_mem {ids : List Bytes} (listed : elaTx ∈ ids) (single : ids.length = 1) :
    ids = [elaTx] := by
  obtain ⟨only, isOnly⟩ := List.length_eq_one_iff.1 single
  rw [isOnly, List.mem_singleton] at listed
  rw [isOnly, listed]

theorem packedExactly_iff_of_mem (listed : elaTx ∈ lists.memory) :
    lists.PackedExactly elaTx ((lists.packedInMemory elaTx).packedInDatabase elaTx) ↔
      (lists.memory = [elaTx] ∨ lists.memory = [elaTx, elaTx]) ∧
        ∀ id ∈ lists.database, id = elaTx := by
  by_cases single : lists.memory.length = 1
  · have isOnly := eq_singleton_of_mem listed single
    have deleted : (lists.packedInMemory elaTx).packedInDatabase elaTx = ⟨[], []⟩ := by
      simp [packedInMemory, packedInDatabase, isOnly]
    rw [deleted, packedExactly_nil_iff (by simp [isOnly])]
    simp [isOnly]
  · have shifted : lists.packedInMemory elaTx =
        ⟨shiftOut elaTx lists.memory, lists.memory.erase elaTx⟩ := by
      rw [packedInMemory, if_pos listed, if_neg single]
    have some_ : lists.memory ≠ [] := List.ne_nil_of_mem listed
    by_cases twice : elaTx ∈ lists.memory.erase elaTx ∧ (lists.memory.erase elaTx).length = 1
    · have both : lists.memory.Perm [elaTx, elaTx] := by
        have perm := List.perm_cons_erase listed
        rwa [eq_singleton_of_mem twice.1 twice.2] at perm
      have isBoth : lists.memory = [elaTx, elaTx] :=
        List.perm_replicate.1 (show lists.memory.Perm (List.replicate 2 elaTx) from both)
      have deleted : (lists.packedInMemory elaTx).packedInDatabase elaTx = ⟨[], []⟩ := by
        rw [shifted, packedInDatabase, if_pos twice.1, if_pos twice.2]
      rw [deleted, packedExactly_nil_iff (by simp [isBoth])]
      simp [isBoth]
    · have memory : ((lists.packedInMemory elaTx).packedInDatabase
          elaTx).memory = shiftOut elaTx lists.memory := by
        rw [shifted, packedInDatabase]
        by_cases again : elaTx ∈ lists.memory.erase elaTx
        · rw [if_pos again, if_neg fun alone => twice ⟨again, alone⟩]
        · rw [if_neg again]
      constructor
      · intro packed
        have gone := packed.memoryGone
        have kept := packed.memoryKept
        rw [memory] at gone kept
        exact (not_kept_shiftOut some_ gone kept).elim
      · rintro ⟨isOnly | isBoth, _⟩
        · rw [isOnly] at single
          exact absurd rfl single
        · rw [isBoth] at twice
          exact absurd ⟨by simp, by simp⟩ twice

section

variable (absent : elaTx ∉ lists.memory)

include absent

theorem packedExactly_iff_of_alone (isOnly : lists.database = [elaTx]) :
    lists.PackedExactly elaTx (lists.packedInDatabase elaTx) ↔ lists.memory = [] := by
  have deleted : lists.packedInDatabase elaTx = ⟨[], []⟩ := by simp [packedInDatabase, isOnly]
  rw [deleted]
  constructor
  · intro packed
    rw [List.eq_nil_iff_forall_not_mem]
    intro id listed
    have other : id ≠ elaTx := by
      rintro rfl
      exact absent listed
    exact absurd (packed.memoryKept id listed other) (by simp)
  · intro nothing
    exact (packedExactly_nil_iff (by simp [nothing])).2 (by simp [isOnly])

theorem packedExactly_iff_of_stored
    (stored : elaTx ∈ lists.database) (several : lists.database.length ≠ 1) :
    lists.PackedExactly elaTx (lists.packedInDatabase elaTx) ↔
      lists.memory.Nodup ∧ lists.database.Nodup := by
  have erased : lists.packedInDatabase elaTx = ⟨lists.memory, lists.database.erase elaTx⟩ := by
    rw [packedInDatabase, if_pos stored, if_neg several]
  rw [erased]
  constructor
  · intro packed
    exact ⟨(kept_iff_nodup absent).1 packed.memoryKept, (erased_iff_nodup stored).1
        ⟨packed.databaseGone, packed.databaseKept⟩⟩
  · rintro ⟨memoryOnce, databaseOnce⟩
    obtain ⟨gone, kept⟩ := (erased_iff_nodup stored).2 databaseOnce
    exact ⟨absent, gone, (kept_iff_nodup absent).2 memoryOnce, kept⟩

theorem packedExactly_iff_of_unlisted (unstored : elaTx ∉ lists.database) :
    lists.PackedExactly elaTx (lists.packedInDatabase elaTx) ↔
      lists.memory.Nodup ∧ lists.database.Nodup := by
  have unchanged : lists.packedInDatabase elaTx = lists := by rw [packedInDatabase, if_neg unstored]
  rw [unchanged]
  constructor
  · intro packed
    exact ⟨(kept_iff_nodup absent).1 packed.memoryKept,
      (kept_iff_nodup unstored).1 packed.databaseKept⟩
  · rintro ⟨memoryOnce, databaseOnce⟩
    exact ⟨absent, unstored, (kept_iff_nodup absent).2 memoryOnce,
      (kept_iff_nodup unstored).2 databaseOnce⟩

theorem packedExactly_iff_of_not_mem :
    lists.PackedExactly elaTx ((lists.packedInMemory elaTx).packedInDatabase elaTx) ↔
      lists.memory = [] ∧ lists.database = [elaTx] ∨ lists.memory.Nodup ∧ lists.database.Nodup ∧
          lists.database ≠ [elaTx] := by
  have unshifted : lists.packedInMemory elaTx = lists := by rw [packedInMemory, if_neg absent]
  rw [unshifted]
  by_cases isOnly : lists.database = [elaTx]
  · rw [packedExactly_iff_of_alone absent isOnly]
    simp [isOnly]
  by_cases stored : elaTx ∈ lists.database
  · have several : lists.database.length ≠ 1 := by
      intro single
      exact isOnly (eq_singleton_of_mem stored single)
    rw [packedExactly_iff_of_stored absent stored several]
    simp [isOnly]
  · rw [packedExactly_iff_of_unlisted absent stored]
    simp [isOnly]

end

theorem packedExactly_iff_removable :
    lists.PackedExactly elaTx ((lists.packedInMemory elaTx).packedInDatabase elaTx) ↔
      lists.Removable elaTx := by
  unfold Removable
  by_cases listed : elaTx ∈ lists.memory
  · have some_ : lists.memory ≠ [] := List.ne_nil_of_mem listed
    rw [packedExactly_iff_of_mem listed]
    simp [listed, some_]
  have notOnly : lists.memory ≠ [elaTx] := by
    intro isOnly
    exact listed (by simp [isOnly])
  have notBoth : lists.memory ≠ [elaTx, elaTx] := by
    intro isBoth
    exact listed (by simp [isBoth])
  rw [packedExactly_iff_of_not_mem listed]
  simp [listed, notOnly, notBoth]

end Lists

/--
The recharge is gone from memory and from the database, every other one is listed
once where it was, and only a returned deposit makes the recharge count as
failed.
-/
structure RemovedExactly (format : ElaFormat) (codec : ListFormat) (elaTx : Bytes)
    (before after : FailedRecharges) : Prop where
  lists : ∀ height, (before.lists codec height).PackedExactly elaTx (after.lists codec height)
  notFailed : ∀ service store, isFailedElaTx format service (after.toStore codec store) elaTx =
        .ok true →
      ∃ spv hash, service = some spv ∧ format.uint256FromHexString (strip0x elaTx) = .ok hash ∧
        spv.haveRetSideChainDepositCoinTx hash = true

variable {format : ElaFormat} {codec : ListFormat}

theorem isFailedElaTx_eq_true_iff {service : Option RechargeService} {state : FailedRecharges}
    {store : SpvStore} {elaTx : Bytes} :
    isFailedElaTx format service (state.toStore codec store) elaTx = .ok true ↔
      ∃ hash, format.uint256FromHexString (strip0x elaTx) = .ok hash ∧
        ((∃ id ∈ state.listed codec, strip0x id = strip0x elaTx) ∨ ∃ spv, service = some spv ∧
            spv.haveRetSideChainDepositCoinTx hash = true) := by
  unfold isFailedElaTx
  dsimp only [toStore]
  cases isId : format.uint256FromHexString (strip0x elaTx) with
  | error reason => simp
  | ok hash =>
    by_cases found : ((state.listed codec).any fun txid =>
        decide (strip0x txid = strip0x elaTx)) = true
    · have listed : ∃ id ∈ state.listed codec, strip0x id = strip0x elaTx := by simpa using found
      simp only [found, ↓reduceIte, Except.ok.injEq, exists_eq_left', listed, true_or]
    have unlisted : ¬∃ id ∈ state.listed codec, strip0x id = strip0x elaTx := by simpa using found
    cases service with
    | none => simp [found, unlisted]
    | some spv => simp [found, unlisted]

theorem mem_listed_of_onElaTxPacked (reads : codec.ReadsBack) {state : FailedRecharges}
    {elaTx id : Bytes} (other : id ≠ elaTx)
    (listed : id ∈ (state.onElaTxPacked codec elaTx).listed codec) : id ∈ state.listed codec := by
  obtain ⟨height, somewhere⟩ := mem_listed.1 listed
  have packed := lists_onElaTxPacked reads elaTx state height
  have keeps := (Lists.keeps_packedInMemory other (state.lists codec height)).trans
      (Lists.keeps_packedInDatabase other _)
  rw [← packed] at keeps
  exact mem_listed.2 ⟨height, keeps.noNew somewhere⟩

/--
`onElaTxPacked` removes exactly its recharge from memory and from the database,
and makes it count as not failed, if and only if the lists of every height allow
it and the recharge is not listed in another spelling.
-/
theorem onElaTxPacked_exact_iff (reads : codec.ReadsBack) (state : FailedRecharges)
    (elaTx : Bytes) :
    RemovedExactly format codec elaTx state (state.onElaTxPacked codec elaTx) ↔
      (∀ height, (state.lists codec height).Removable elaTx) ∧ ∀ hash,
          format.uint256FromHexString (strip0x elaTx) = .ok hash →
            ∀ id ∈ state.listed codec, strip0x id = strip0x elaTx → id = elaTx := by
  have exact_ : (∀ height, (state.lists codec height).PackedExactly elaTx
      ((state.onElaTxPacked codec elaTx).lists codec height)) ↔
        ∀ height, (state.lists codec height).Removable elaTx := by
    refine forall_congr' fun height => ?_
    rw [lists_onElaTxPacked reads]
    exact Lists.packedExactly_iff_removable
  constructor
  · intro removed
    refine ⟨exact_.1 removed.lists, ?_⟩
    intro hash isId id listed spelled
    by_contra other
    obtain ⟨height, somewhere⟩ := mem_listed.1 listed
    have kept := removed.lists height
    have still : id ∈ (state.onElaTxPacked codec elaTx).listed
        codec := by
      refine mem_listed.2 ⟨height, somewhere.imp ?_ ?_⟩
      · intro inMemory
        have once := kept.memoryKept id inMemory other
        exact List.count_pos_iff.1 (once ▸ Nat.one_pos)
      · intro stored
        have once := kept.databaseKept id stored other
        exact List.count_pos_iff.1 (once ▸ Nat.one_pos)
    -- Without a service, only a listed recharge counts as failed.
    obtain ⟨spv, _, none_, _⟩ := removed.notFailed none ⟨none, [], []⟩
      (isFailedElaTx_eq_true_iff.2 ⟨hash, isId, .inl ⟨id, still, spelled⟩⟩)
    cases none_
  · rintro ⟨removable, spelledOnce⟩
    refine ⟨exact_.2 removable, ?_⟩
    intro service store failed
    obtain ⟨hash, isId, listed | ⟨spv, isSpv, returned⟩⟩ := isFailedElaTx_eq_true_iff.1 failed
    · obtain ⟨id, inLists, spelled⟩ := listed
      by_cases same : id = elaTx
      · subst same
        obtain ⟨height, somewhere⟩ := mem_listed.1 inLists
        have packed := exact_.2 removable height
        exact (somewhere.elim packed.memoryGone packed.databaseGone).elim
      · exact absurd (spelledOnce hash isId id
          (mem_listed_of_onElaTxPacked reads same inLists) spelled) same
    · exact ⟨spv, hash, isSpv, isId, returned⟩

end FailedRecharges

namespace Sample

def listsAfter (events : List FailedEvent) : FailedRecharges :=
  EventRuns.run (FailedRecharges.step strokes tallies) FailedRecharges.initial events

def failedApart : List FailedEvent :=
  [.tx2Failed (atHeight 10) firstId, .tx2Failed (atHeight 11) secondId]

def failedTogether : List FailedEvent :=
  [.tx2Failed (atHeight 10) firstId, .tx2Failed (atHeight 10) secondId]

end Sample

open Sample

namespace FailedRecharges

/-- The first of two recharges that failed at different heights is packed. -/
theorem onElaTxPacked_exact_apart :
    RemovedExactly strokes tallies firstId (listsAfter failedApart)
      ((listsAfter failedApart).onElaTxPacked tallies firstId) := by
  refine (onElaTxPacked_exact_iff tallies_readsBack (listsAfter failedApart) firstId).2 ⟨?_, ?_⟩
  · intro height
    by_cases ten : height = 10
    · subst ten
      exact .inl ⟨.inl (by decide +kernel), by decide +kernel⟩
    by_cases eleven : height = 11
    · subst eleven
      exact .inr (.inr (by decide +kernel))
    have keys : (listsAfter failedApart).failedTxList.keys = [11, 10] := by
      decide +kernel
    have databaseKeys : (listsAfter failedApart).database.keys = [11, 10] := by
      decide +kernel
    have nothing : (listsAfter failedApart).memoryAt height = [] :=
      memoryAt_eq_nil (by simp [keys, ten, eleven])
    have nothingStored : (listsAfter failedApart).databaseAt tallies height = [] :=
      databaseAt_eq_nil (by simp [databaseKeys, ten, eleven])
    refine .inr (.inr ?_)
    simp [nothing, nothingStored]
  · intro hash _ id listed spelled
    have ids : (listsAfter failedApart).listed
        tallies = [secondId, firstId, secondId, firstId] := by
      decide +kernel
    rw [ids] at listed
    revert spelled
    revert id
    decide

/--
Two recharges have failed at one height.  When the last one is packed it stays in
memory and counts as failed; when the first one is packed, the last one is in
memory twice.
-/
theorem onElaTxPacked_not_exact :
    (secondId ∈ ((listsAfter failedTogether).onElaTxPacked tallies secondId).memoryAt 10 ∧
      isFailedElaTx strokes (some noReturns)
        (((listsAfter failedTogether).onElaTxPacked tallies secondId).toStore tallies
            ⟨none, [], []⟩) secondId = .ok true) ∧
      (((listsAfter failedTogether).onElaTxPacked
        tallies firstId).memoryAt 10).count secondId = 2 := by
  decide +kernel

end FailedRecharges

end EscSideChain.Spv
