import EscSideChain.DposRoutes

namespace EscSideChain.Dpos

open EventRuns

/-!
# Runs of the address routes

A hash is requested from one peer at a time, and never while the message is known;
so the list of known messages has every hash once.  A peer that is gone, or that
connects again, takes its requests along, but the routes still count them as
requested and no other peer is asked.  The index by which messages are compared with
earlier ones is never written.
-/

namespace Routes

variable {Peer : Type} [DecidableEq Peer] {codec : AddressCodec} {routes other : Routes Peer}
  {peer : Peer} {cache : Finset Hash} {hash : Hash}

def Has (routes : Routes Peer) (peer : Peer) (hash : Hash) : Prop :=
  ∃ cache, routes.peerCache.lookup peer = some cache ∧ hash ∈ cache

structure Tracked (routes : Routes Peer) : Prop where
  onePeer : ∀ first second hash, routes.Has first hash → routes.Has second hash → first = second
  covered : ∀ peer hash, routes.Has peer hash → hash ∈ routes.requested
  unknown : ∀ peer hash, routes.Has peer hash → routes.knownAddr.lookup hash = none
  unindexed : ∀ pid index, routes.addrIndex.lookup pid = some index → index = ∅
  distinct : routes.knownList.Nodup
  listed : ∀ hash, hash ∈ routes.knownList ↔ (routes.knownAddr.lookup hash).isSome = true
  bounded : routes.knownAddr.len ≤ maxKnownAddrs

def orphans (routes : Routes Peer) : Set Hash :=
  { hash | hash ∈ routes.requested ∧ ∀ peer, ¬routes.Has peer hash }

/-- The requests that an event takes away together with their peer. -/
def lost (routes : Routes Peer) : Event Peer → Set Hash
  | .newPeer peer => { hash | routes.Has peer hash }
  | .donePeer peer => { hash | routes.Has peer hash }
  | .peers _ _ => ∅
  | .inv _ _ => ∅
  | .dAddr _ _ _ => ∅

/-! ## The requests of the peers -/

theorem has_of_insert (asked : other.peerCache = routes.peerCache.insert peer cache)
    (asker : Peer) :
    other.Has asker hash ↔ if asker = peer then hash ∈ cache else routes.Has asker hash := by
  unfold Has
  rw [asked]
  by_cases same : asker = peer
  · subst same
    simp
  · rw [if_neg same, AList.lookup_insert_ne same]

theorem has_of_erase (gone : other.peerCache = routes.peerCache.erase peer) (asker : Peer) :
    other.Has asker hash ↔ asker ≠ peer ∧ routes.Has asker hash := by
  unfold Has
  simp only [gone, GoMap.lookup_erase_eq_some]
  tauto

theorem Tracked.dropPeer (tracked : routes.Tracked)
    (has : ∀ asker hash, other.Has asker hash ↔ asker ≠ peer ∧ routes.Has asker hash)
    (rest : other = { routes with peerCache := other.peerCache }) :
    other.Tracked ∧ other.orphans = routes.orphans ∪ { hash | routes.Has peer hash } := by
  have requested : other.requested = routes.requested := by rw [rest]
  constructor
  · refine ⟨?_, ?_, ?_, ?_, ?_, ?_, ?_⟩
    · intro first second hash inFirst inSecond
      exact tracked.onePeer first second hash ((has first hash).1 inFirst).2
        ((has second hash).1 inSecond).2
    · intro asker hash asked
      rw [requested]
      exact tracked.covered asker hash ((has asker hash).1 asked).2
    · intro asker hash asked
      rw [rest]
      exact tracked.unknown asker hash ((has asker hash).1 asked).2
    all_goals rw [rest]
    · exact tracked.unindexed
    · exact tracked.distinct
    · exact tracked.listed
    · exact tracked.bounded
  · ext hash
    simp only [orphans, Set.mem_ofPred_eq, Set.mem_union, requested, has, not_and]
    constructor
    · rintro ⟨asked, gone⟩
      by_cases inPeer : routes.Has peer hash
      · exact .inr inPeer
      · refine .inl ⟨asked, fun asker inAsker => gone asker ?_ inAsker⟩
        rintro rfl
        exact inPeer inAsker
    · rintro (⟨asked, gone⟩ | inPeer)
      · exact ⟨asked, fun asker _ => gone asker⟩
      · refine ⟨tracked.covered peer hash inPeer, fun asker different inAsker => ?_⟩
        exact different (tracked.onePeer asker peer hash inAsker inPeer)

theorem Tracked.ask (tracked : routes.Tracked) (connected : routes.peerCache.lookup peer = some cache)
    (unknown : routes.knownAddr.lookup hash = none) (unasked : hash ∉ routes.requested)
    (asked : other = { routes with
      requested := insert hash routes.requested
      peerCache := routes.peerCache.insert peer (insert hash cache) }) :
    other.Tracked ∧ other.orphans = routes.orphans := by
  have has (asker : Peer) (wanted : Hash) :
      other.Has asker wanted ↔ (asker = peer ∧ wanted = hash) ∨ routes.Has asker wanted := by
    rw [has_of_insert (by rw [asked]) asker]
    by_cases same : asker = peer
    · subst same
      simp [Has, connected]
    · simp [same]
  have alone (asker : Peer) : ¬routes.Has asker hash := fun inAsker =>
    unasked (tracked.covered asker hash inAsker)
  constructor
  · refine ⟨?_, ?_, ?_, ?_, ?_, ?_, ?_⟩
    · intro first second wanted inFirst inSecond
      rcases (has first wanted).1 inFirst with ⟨rfl, rfl⟩ | inFirst <;>
        rcases (has second wanted).1 inSecond with ⟨rfl, same⟩ | inSecond
      · rfl
      · exact absurd inSecond (alone second)
      · exact absurd inFirst (same ▸ alone first)
      · exact tracked.onePeer first second wanted inFirst inSecond
    · intro asker wanted inAsker
      rw [asked, Finset.mem_insert]
      exact ((has asker wanted).1 inAsker).imp And.right (tracked.covered asker wanted)
    · intro asker wanted inAsker
      rw [asked]
      rcases (has asker wanted).1 inAsker with ⟨_, rfl⟩ | inAsker
      · exact unknown
      · exact tracked.unknown asker wanted inAsker
    all_goals rw [asked]
    · exact tracked.unindexed
    · exact tracked.distinct
    · exact tracked.listed
    · exact tracked.bounded
  · ext wanted
    have requested : wanted ∈ other.requested ↔ wanted = hash ∨ wanted ∈ routes.requested := by
      rw [asked, Finset.mem_insert]
    simp only [orphans, Set.mem_ofPred_eq, requested, has, not_or, not_and]
    constructor
    · rintro ⟨rfl | inRequested, gone⟩
      · exact absurd rfl ((gone peer).1 rfl)
      · exact ⟨inRequested, fun asker => (gone asker).2⟩
    · rintro ⟨inRequested, gone⟩
      refine ⟨.inr inRequested, fun asker => ⟨fun _ same => ?_, gone asker⟩⟩
      exact unasked (same ▸ inRequested)

theorem Tracked.answered (tracked : routes.Tracked)
    (connected : routes.peerCache.lookup peer = some cache) (inCache : hash ∈ cache) :
    (routes.answered peer cache hash).Tracked ∧
      (∀ asker, ¬(routes.answered peer cache hash).Has asker hash) ∧
      (routes.answered peer cache hash).orphans = routes.orphans := by
  have inPeer : routes.Has peer hash := ⟨cache, connected, inCache⟩
  have has (asker : Peer) (wanted : Hash) : (routes.answered peer cache hash).Has asker wanted ↔
      routes.Has asker wanted ∧ wanted ≠ hash := by
    rw [has_of_insert rfl asker]
    by_cases same : asker = peer
    · subst same
      simp [Has, connected, and_comm]
    · rw [if_neg same]
      refine (and_iff_left_of_imp ?_).symm
      rintro inAsker rfl
      exact same (tracked.onePeer asker peer wanted inAsker inPeer)
  refine ⟨⟨?_, ?_, ?_, tracked.unindexed, tracked.distinct, tracked.listed, tracked.bounded⟩, ?_, ?_⟩
  · intro first second wanted inFirst inSecond
    exact tracked.onePeer first second wanted ((has first wanted).1 inFirst).1
      ((has second wanted).1 inSecond).1
  · intro asker wanted inAsker
    obtain ⟨before, different⟩ := (has asker wanted).1 inAsker
    exact Finset.mem_erase.2 ⟨different, tracked.covered asker wanted before⟩
  · intro asker wanted inAsker
    exact tracked.unknown asker wanted ((has asker wanted).1 inAsker).1
  · intro asker inAsker
    exact ((has asker hash).1 inAsker).2 rfl
  · ext wanted
    have requested : wanted ∈ (routes.answered peer cache hash).requested ↔
        wanted ≠ hash ∧ wanted ∈ routes.requested := Finset.mem_erase
    simp only [orphans, Set.mem_ofPred_eq, requested, has, not_and, not_not]
    constructor
    · rintro ⟨⟨different, inRequested⟩, gone⟩
      exact ⟨inRequested, fun asker inAsker => different (gone asker inAsker)⟩
    · rintro ⟨inRequested, gone⟩
      refine ⟨⟨?_, inRequested⟩, fun asker inAsker => absurd inAsker (gone asker)⟩
      rintro rfl
      exact gone peer inPeer

/-! ## The known messages -/

theorem Tracked.withIndex (tracked : routes.Tracked) {peers : GoMap PID Unit}
    {addrIndex : GoMap PID (GoMap PID Hash)}
    (unindexed : ∀ pid index, addrIndex.lookup pid = some index → index = ∅) : Tracked { routes with
      peers := peers
      addrIndex := addrIndex } :=
  ⟨tracked.onePeer, tracked.covered, tracked.unknown, unindexed, tracked.distinct, tracked.listed,
    tracked.bounded⟩

theorem Tracked.initIndex (tracked : routes.Tracked) (pid : PID) :
    (routes.initIndex pid).Tracked ∧ (routes.initIndex pid).orphans = routes.orphans := by
  unfold Routes.initIndex
  split
  · exact ⟨tracked, rfl⟩
  · refine ⟨tracked.withIndex fun other index found => ?_, rfl⟩
    rcases GoMap.lookup_insert_cases found with ⟨_, isNew⟩ | before
    · exact isNew
    · exact tracked.unindexed other index before

theorem Tracked.removeIndex (tracked : routes.Tracked) (pid : PID) :
    (routes.removeIndex pid).Tracked ∧ (routes.removeIndex pid).orphans = routes.orphans := by
  unfold Routes.removeIndex
  split
  · exact ⟨tracked, rfl⟩
  next pids found =>
    rw [tracked.unindexed pid pids found]
    refine ⟨tracked.withIndex fun other index left => ?_, rfl⟩
    exact tracked.unindexed other index (GoMap.lookup_erase_eq_some.1 left).2

theorem Tracked.handlePeersMsg (tracked : routes.Tracked) (order : IterationOrder)
    (pids : List PID) :
    (routes.handlePeersMsg order pids).Tracked ∧
      (routes.handlePeersMsg order pids).orphans = routes.orphans := by
  have fold {change : Routes Peer → PID → Routes Peer}
      (keeps : ∀ routes : Routes Peer, routes.Tracked → ∀ pid,
        (change routes pid).Tracked ∧ (change routes pid).orphans = routes.orphans)
      (pids : List PID) {routes : Routes Peer} (tracked : routes.Tracked) :
      (pids.foldl change routes).Tracked ∧ (pids.foldl change routes).orphans = routes.orphans := by
    induction pids generalizing routes with
    | nil => exact ⟨tracked, rfl⟩
    | cons pid rest inductionHypothesis =>
      obtain ⟨changed, same⟩ := keeps routes tracked pid
      obtain ⟨final, sameFinal⟩ := inductionHypothesis changed
      exact ⟨final, sameFinal.trans same⟩
  obtain ⟨begun, sameBegun⟩ := fold (fun _ tracked => tracked.initIndex) pids tracked
  unfold Routes.handlePeersMsg
  extract_lets newPeers delPeers
  obtain ⟨removed, sameRemoved⟩ := fold (fun _ tracked => tracked.removeIndex) delPeers begun
  exact ⟨removed.withIndex removed.unindexed, sameRemoved.trans sameBegun⟩

/-- The list has the keys of the map, each of them once. -/
structure Lists {Value : Type} (hashes : List Hash) (map : GoMap Hash Value) : Prop where
  distinct : hashes.Nodup
  listed : ∀ hash, hash ∈ hashes ↔ (map.lookup hash).isSome = true

section Lists

variable {Value : Type} {hashes : List Hash} {map : GoMap Hash Value}

theorem Lists.len_eq (lists : Lists hashes map) : map.len = hashes.length := by
  rw [GoMap.len_eq_length_keys]
  refine List.Perm.length_eq ((List.perm_ext_iff_of_nodup map.keys_nodup lists.distinct).2 ?_)
  intro hash
  rw [lists.listed, AList.lookup_isSome, AList.mem_keys]

theorem Lists.cons (lists : Lists hashes map) (isNew : map.lookup hash = none) (value : Value) :
    Lists (hash :: hashes) (map.insert hash value) := by
  refine ⟨List.nodup_cons.2 ⟨by simp [lists.listed, isNew], lists.distinct⟩, fun other => ?_⟩
  rw [List.mem_cons, lists.listed]
  exact GoMap.isSome_lookup_insert.symm

theorem Lists.dropLast {last : Hash} (lists : Lists (hashes ++ [last]) map) :
    Lists hashes (map.erase last) := by
  obtain ⟨distinct, _, apart⟩ := List.nodup_append.1 lists.distinct
  refine ⟨distinct, fun hash => ?_⟩
  have isErased : ((map.erase last).lookup hash).isSome = true ↔
      hash ≠ last ∧ (map.lookup hash).isSome = true := by
    simp only [Option.isSome_iff_exists, GoMap.lookup_erase_eq_some, exists_and_left]
  rw [isErased, ← lists.listed, List.mem_append, List.mem_singleton]
  constructor
  · exact fun member => ⟨apart hash member last List.mem_cons_self, .inl member⟩
  · exact fun both => both.2.resolve_right both.1

end Lists

theorem Tracked.appendAddr (tracked : routes.Tracked) {m : DAddr}
    (isNew : routes.knownAddr.lookup (codec.hash m) = none)
    (unrequested : ∀ asker, ¬routes.Has asker (codec.hash m)) :
    (routes.appendAddr codec m).Tracked ∧ (routes.appendAddr codec m).orphans = routes.orphans := by
  have before : Lists routes.knownList routes.knownAddr := ⟨tracked.distinct, tracked.listed⟩
  have lists := before.cons isNew m
  have unknown : ∀ asker hash, routes.Has asker hash →
      (routes.knownAddr.insert (codec.hash m) m).lookup hash = none := by
    intro asker hash inAsker
    rw [AList.lookup_insert_ne, tracked.unknown asker hash inAsker]
    rintro rfl
    exact unrequested asker inAsker
  unfold Routes.appendAddr
  dsimp only
  split
  next full =>
    rw [lists.len_eq] at full
    have filled : routes.knownList ≠ [] := by
      rintro isEmpty
      rw [isEmpty, List.length_singleton] at full
      exact absurd full (by decide)
    obtain ⟨lru, isLast⟩ := Option.isSome_iff_exists.1 (List.getLast?_isSome.2 filled)
    have split := List.dropLast_append_getLast? lru isLast
    rw [← split, ← List.cons_append] at lists
    have shorter := lists.dropLast
    rw [isLast]
    refine ⟨⟨tracked.onePeer, tracked.covered, ?_, tracked.unindexed, shorter.distinct,
      shorter.listed, ?_⟩, rfl⟩
    · intro asker hash inAsker
      by_contra found
      obtain ⟨stored, isStored⟩ := Option.ne_none_iff_exists'.1 found
      have before := (GoMap.lookup_erase_eq_some.1 isStored).2
      rw [unknown asker hash inAsker] at before
      cases before
    · have bounded := tracked.bounded
      rw [before.len_eq, ← split, List.length_append] at bounded
      rw [shorter.len_eq]
      exact bounded
  next room =>
    exact ⟨⟨tracked.onePeer, tracked.covered, unknown, tracked.unindexed, lists.distinct,
      lists.listed, not_lt.1 room⟩, rfl⟩

/-! ## Events -/

theorem Tracked.invLoop (tracked : routes.Tracked)
    (connected : routes.peerCache.lookup peer = some cache) (inv : List InvVect) :
    (Routes.invLoop peer routes cache inv).1.Tracked ∧
      (Routes.invLoop peer routes cache inv).1.orphans = routes.orphans := by
  induction inv generalizing routes cache with
  | nil => exact ⟨tracked, rfl⟩
  | cons iv rest inductionHypothesis =>
    unfold Routes.invLoop
    split
    · exact inductionHypothesis tracked connected
    next fresh =>
      obtain ⟨_, unknown, unasked⟩ := by simpa only [not_or] using fresh
      rw [Bool.not_eq_true, Option.isSome_eq_false_iff, Option.isNone_iff_eq_none] at unknown
      obtain ⟨asked, same⟩ := tracked.ask connected unknown unasked rfl
      obtain ⟨final, sameFinal⟩ := inductionHypothesis asked (AList.lookup_insert _)
      exact ⟨final, sameFinal.trans same⟩

theorem Tracked.handleDAddr (tracked : routes.Tracked) (medianTime : Int) (m : DAddr) :
    (routes.handleDAddr codec medianTime peer m).1.Tracked ∧
      (routes.handleDAddr codec medianTime peer m).1.orphans = routes.orphans := by
  unfold Routes.handleDAddr
  split
  · exact ⟨tracked, rfl⟩
  next cache connected =>
    split
    next inCache =>
      obtain ⟨after, unrequested, same⟩ := tracked.answered connected inCache
      dsimp only
      split
      · exact ⟨after, same⟩
      · split
        · have isNew := tracked.unknown peer _ ⟨cache, connected, inCache⟩
          obtain ⟨stored, sameStored⟩ := after.appendAddr isNew unrequested
          exact ⟨stored, sameStored.trans same⟩
        · exact ⟨after, same⟩
    · exact ⟨tracked, rfl⟩

theorem Tracked.step (tracked : routes.Tracked) (event : Event Peer) :
    (routes.step codec event).Tracked ∧
      (routes.step codec event).orphans = routes.orphans ∪ routes.lost event := by
  cases event with
  | newPeer peer =>
    refine tracked.dropPeer (fun asker hash => ?_) rfl
    rw [has_of_insert rfl asker]
    by_cases same : asker = peer <;> simp [same]
  | donePeer peer => exact tracked.dropPeer (fun asker hash => has_of_erase rfl asker) rfl
  | peers order pids =>
    rw [lost, Set.union_empty]
    exact tracked.handlePeersMsg order pids
  | inv peer inv =>
    rw [lost, Set.union_empty]
    unfold Routes.step Routes.handleInv
    dsimp only
    split
    · exact ⟨tracked, rfl⟩
    next cache connected => exact tracked.invLoop connected inv
  | dAddr medianTime peer m =>
    rw [lost, Set.union_empty]
    exact tracked.handleDAddr medianTime m

theorem tracked_empty : (empty : Routes Peer).Tracked := by
  have nothing (peer : Peer) (hash : Hash) : ¬(empty : Routes Peer).Has peer hash := by
    rintro ⟨cache, found, _⟩
    cases found
  refine ⟨?_, ?_, ?_, ?_, List.nodup_nil, ?_, Nat.zero_le _⟩
  · exact fun first _ hash asked => absurd asked (nothing first hash)
  · exact fun peer hash asked => absurd asked (nothing peer hash)
  · exact fun peer hash asked => absurd asked (nothing peer hash)
  · rintro pid index ⟨⟩
  · intro hash
    simp [empty]

theorem tracked_run (codec : AddressCodec) (events : List (Event Peer)) :
    (run (step codec) empty events).Tracked :=
  run_invariant_of_forall (fun _ event tracked => (tracked.step event).1) events tracked_empty

/-! ## Requests -/

/-- The routes have requested what they have requested from the connected peers. -/
def RequestsMatch (routes : Routes Peer) : Prop :=
  ∀ hash, hash ∈ routes.requested ↔ ∃ peer, routes.Has peer hash

/-- A hash that no connected peer was asked for is requested when it is announced. -/
def AsksAgain (routes : Routes Peer) : Prop :=
  ∀ peer cache hash, routes.peerCache.lookup peer = some cache →
    routes.knownAddr.lookup hash = none → (∀ other, ¬routes.Has other hash) →
      (routes.handleInv peer [⟨true, hash⟩]).2 = [hash]

theorem requestsMatch_iff (tracked : routes.Tracked) :
    routes.RequestsMatch ∧ routes.AsksAgain ↔ routes.orphans = ∅ := by
  constructor
  · rintro ⟨requestsMatch, _⟩
    refine Set.eq_empty_of_forall_notMem ?_
    rintro hash ⟨asked, gone⟩
    obtain ⟨peer, inPeer⟩ := (requestsMatch hash).1 asked
    exact gone peer inPeer
  · intro noOrphans
    have requestsMatch : routes.RequestsMatch := by
      intro hash
      constructor
      · intro asked
        by_contra gone
        have isOrphan : hash ∈ routes.orphans := ⟨asked, not_exists.1 gone⟩
        rw [noOrphans] at isOrphan
        exact isOrphan
      · rintro ⟨peer, inPeer⟩
        exact tracked.covered peer hash inPeer
    refine ⟨requestsMatch, ?_⟩
    intro peer cache hash connected unknown gone
    have unasked : hash ∉ routes.requested := fun asked =>
      not_exists.2 gone ((requestsMatch hash).1 asked)
    simp [handleInv, connected, Routes.invLoop, unknown, unasked]

/--
The requests match those of the connected peers, and what no peer can answer is
requested again, exactly if no peer disconnects or connects again while something is
requested from it.
-/
theorem requests_match_iff (codec : AddressCodec) (events : List (Event Peer)) :
    (run (step codec) empty events).RequestsMatch ∧ (run (step codec) empty events).AsksAgain ↔
      Along (fun routes event => routes.lost event = ∅) (step codec) (empty : Routes Peer)
        events := by
  rw [requestsMatch_iff (tracked_run codec events)]
  refine run_iff_along Tracked (fun routes => routes.orphans = ∅) ?_ ?_ ?_ tracked_empty ?_
  · intro routes event tracked noOrphans
    rw [(tracked.step event).2, noOrphans, Set.empty_union]
  · intro routes event tracked orphaned after
    rw [(tracked.step event).2, Set.union_empty_iff] at after
    exact orphaned after.1
  · exact fun routes event tracked => (tracked.step event).1
  · refine Set.eq_empty_of_forall_notMem ?_
    rintro hash ⟨asked, _⟩
    exact absurd asked (Finset.notMem_empty hash)

/-! ## The cache -/

/--
The list of the cache has each key of the known messages once and nothing else, and
there are never more than `maxKnownAddrs` of them.
-/
theorem known_cache_bounded (codec : AddressCodec) (events : List (Event Peer)) :
    (run (step codec) empty events).knownList.Perm (run (step codec) empty events).knownAddr.keys ∧
      (run (step codec) empty events).knownAddr.len ≤ maxKnownAddrs := by
  have tracked := tracked_run codec events
  refine ⟨(List.perm_ext_iff_of_nodup tracked.distinct (AList.keys_nodup _)).2 ?_, tracked.bounded⟩
  intro hash
  rw [tracked.listed, AList.lookup_isSome, AList.mem_keys]

/-! ## Timestamps -/

/-- The message that an event has accepted. -/
def acceptedBy (codec : AddressCodec) (routes : Routes Peer) : Event Peer → Option DAddr
  | .dAddr medianTime peer m =>
    if (routes.handleDAddr codec medianTime peer m).2 then some m else none
  | _ => none

/-- The routes with the messages that they have accepted, the latest one first. -/
structure Chronicle (Peer : Type) where
  routes : Routes Peer
  accepted : List DAddr

namespace Chronicle

variable (codec) (chronicle : Chronicle Peer)

def step (chronicle : Chronicle Peer) (event : Event Peer) : Chronicle Peer where
  routes := chronicle.routes.step codec event
  accepted := (chronicle.routes.acceptedBy codec event).toList ++ chronicle.accepted

/-- The last message that was accepted for the same two producers, if it is still known. -/
def previous (m : DAddr) : Option DAddr :=
  (chronicle.accepted.find? fun old => old.pid = m.pid ∧ old.encode = m.encode).filter fun old =>
    (chronicle.routes.knownAddr.lookup (codec.hash old)).isSome

def InTime (m : DAddr) : Prop :=
  ∀ old, chronicle.previous codec m = some old →
    old.timestamp ≤ m.timestamp ∧ old.timestamp + minAnnounceDuration ≤ m.timestamp

/-- The event accepts a message in time only. -/
def AcceptsInTime (event : Event Peer) : Prop :=
  ∀ m, chronicle.routes.acceptedBy codec event = some m → chronicle.InTime codec m

/-- A requested message with a valid signature of a producer was sent in time. -/
def SentInTime : Event Peer → Prop
  | .dAddr _ peer m =>
    chronicle.routes.Has peer (codec.hash m) → codec.decodePoint m.pid = true →
      codec.verify m = true → (chronicle.routes.peers.lookup m.pid).isSome = true →
        chronicle.InTime codec m
  | _ => True

end Chronicle

theorem Tracked.verifyDAddr_iff (codec : AddressCodec) (tracked : routes.Tracked) (medianTime : Int)
    (m : DAddr) :
    routes.verifyDAddr codec medianTime m = .ok () ↔
      codec.decodePoint m.pid = true ∧ codec.verify m = true := by
  unfold verifyDAddr
  cases codec.decodePoint m.pid with
  | false => simp
  | true =>
    cases codec.verify m with
    | false => simp
    | true =>
      simp only [Bool.true_eq_false, if_false, and_self, iff_true]
      cases indexed : routes.addrIndex.lookup m.pid with
      | none => rfl
      | some index => rw [tracked.unindexed m.pid index indexed]; rfl

theorem Tracked.acceptedBy_iff (tracked : routes.Tracked) {medianTime : Int} {m accepted : DAddr} :
    routes.acceptedBy codec (.dAddr medianTime peer m) = some accepted ↔
      accepted = m ∧ routes.Has peer (codec.hash m) ∧ codec.decodePoint m.pid = true ∧
        codec.verify m = true ∧ (routes.peers.lookup m.pid).isSome = true := by
  rw [acceptedBy, Routes.handleDAddr]
  cases connected : routes.peerCache.lookup peer with
  | none => simp [Has, connected]
  | some cache =>
    by_cases inCache : codec.hash m ∈ cache
    · have has : routes.Has peer (codec.hash m) := ⟨cache, connected, inCache⟩
      have verified := (tracked.answered connected inCache).1.verifyDAddr_iff codec medianTime m
      have samePeers : (routes.answered peer cache (codec.hash m)).peers = routes.peers := rfl
      simp only [inCache, if_true, has, true_and, ← and_assoc, ← verified, samePeers]
      generalize (routes.answered peer cache (codec.hash m)).verifyDAddr codec medianTime m =
        verdict
      cases verdict with
      | error reason => simp
      | ok _ =>
        by_cases isProducer : (routes.peers.lookup m.pid).isSome = true
        · simp only [isProducer, if_true, Option.some.injEq, and_true]
          exact eq_comm
        · simp [isProducer]
    · simp [Has, connected, inCache]

/--
The messages that are accepted for two producers keep their distance exactly if
those that come correctly signed from a producer keep it of themselves.
-/
theorem accepts_in_time_iff (codec : AddressCodec) (events : List (Event Peer)) :
    Along (Chronicle.AcceptsInTime codec) (Chronicle.step codec) ⟨(empty : Routes Peer), []⟩ events ↔
      Along (Chronicle.SentInTime codec) (Chronicle.step codec) ⟨empty, []⟩ events := by
  refine along_congr (fun chronicle => chronicle.routes.Tracked) ?_ ?_ tracked_empty
  · intro chronicle event tracked
    unfold Chronicle.AcceptsInTime Chronicle.SentInTime
    cases event with
    | dAddr medianTime peer m =>
      simp only [tracked.acceptedBy_iff]
      constructor
      · intro inTime has isKey isSigned isProducer
        exact inTime m ⟨rfl, has, isKey, isSigned, isProducer⟩
      · rintro inTime _ ⟨rfl, has, isKey, isSigned, isProducer⟩
        exact inTime has isKey isSigned isProducer
    | _ => simp [acceptedBy]
  · intro chronicle event _ tracked
    exact (tracked.step event).1

namespace Sample

def plainCodec : AddressCodec where
  hash m := (List.Vector.replicate 31 0).cons m.cipher.headI
  decodePoint _ := true
  verify _ := true

def pid (number : UInt8) : PID :=
  (List.Vector.replicate 32 0).cons number

/-- An address of the first producer for the second one. -/
def dAddr (number : UInt8) (timestamp : Int) : DAddr :=
  ⟨pid 1, timestamp, pid 2, [number], []⟩

def announced (number : UInt8) : InvVect :=
  ⟨true, plainCodec.hash (dAddr number 0)⟩

/-- The first peer is asked for a message and disconnects; the second one connects. -/
def afterDisconnect : Routes Nat :=
  run (step plainCodec) empty [.newPeer 0, .inv 0 [announced 1], .donePeer 0, .newPeer 1]

/-- Two messages of one producer are requested, and the first one has arrived. -/
def afterFirst : Chronicle Nat :=
  run (Chronicle.step plainCodec) ⟨empty, []⟩
    [.peers .stored [pid 1, pid 2], .newPeer 0, .inv 0 [announced 1, announced 2],
      .dAddr 0 0 (dAddr 1 100)]

end Sample

open EscSideChain.Dpos.Routes.Sample

/--
The message counts as requested though no connected peer was asked for it, and it is
not requested from the second peer that announces it.
-/
theorem gone_request_blocks_others :
    ((announced 1).hash ∈ afterDisconnect.requested ∧ afterDisconnect.peerCache.lookup 0 = none ∧
        afterDisconnect.peerCache.lookup 1 = some ∅) ∧
      (afterDisconnect.handleInv 1 [announced 1]).2 = [] := by
  decide +kernel

/-- A message that is older than the known one is accepted. -/
theorem older_address_accepted :
    afterFirst.previous plainCodec (dAddr 2 50) = some (dAddr 1 100) ∧
      afterFirst.routes.acceptedBy plainCodec (.dAddr 0 0 (dAddr 2 50)) = some (dAddr 2 50) := by
  decide +kernel

end Routes

end EscSideChain.Dpos
