import EscSideChain.DposBlockPool
import Mathlib.Data.Finset.Basic

namespace EscSideChain.Dpos

/-!
# The routes of the producers' addresses

`dpos/routes.go`.  A peer announces address messages by their hashes; those that
are unknown are requested from it, and a requested message that arrives is checked,
stored and relayed.  One goroutine handles the events one after the other.  Left out
are the announcements of the own address, and what is sent to other nodes but for
the requests themselves.
-/

/-- `peer.PID`, the public key of a producer. -/
abbrev PID := List.Vector UInt8 33

/-- `msg.DAddr`, with the timestamp in nanoseconds. -/
structure DAddr where
  pid : PID
  timestamp : Int
  encode : PID
  cipher : Bytes
  signature : Bytes
  deriving DecidableEq

/-- `minAnnounceDuration`, in nanoseconds. -/
def minAnnounceDuration : Int := 30 * 1000000000

/-- `maxTimeOffset`, in nanoseconds. -/
def maxTimeOffset : Int := 30 * 1000000000

def maxKnownAddrs : Nat := 108 * 110

structure AddressCodec where
  hash : DAddr → Hash
  decodePoint : PID → Bool
  verify : DAddr → Bool

/-- `Routes` and the `state` of its goroutine. -/
structure Routes (Peer : Type) where
  peers : GoMap PID Unit
  requested : Finset Hash
  peerCache : GoMap Peer (Finset Hash)
  addrIndex : GoMap PID (GoMap PID Hash)
  knownAddr : GoMap Hash DAddr
  knownList : List Hash

namespace Routes

variable {Peer : Type} [DecidableEq Peer] (codec : AddressCodec)

/-- Fresh routes. -/
def empty : Routes Peer where
  peers := ∅
  requested := ∅
  peerCache := ∅
  addrIndex := ∅
  knownAddr := ∅
  knownList := []

/-! ## The handlers -/

def initIndex (routes : Routes Peer) (pid : PID) : Routes Peer :=
  match routes.addrIndex.lookup pid with
  | some _ => routes
  | none => { routes with addrIndex := routes.addrIndex.insert pid ∅ }

def removeIndex (routes : Routes Peer) (pid : PID) : Routes Peer :=
  match routes.addrIndex.lookup pid with
  | none => routes
  | some pids =>
    { routes with
      knownAddr := pids.values.foldl (fun known hash => known.erase hash) routes.knownAddr
      addrIndex := routes.addrIndex.erase pid }

/-- `handlePeersMsg`; the order is that of the loop over the former producers. -/
def handlePeersMsg (routes : Routes Peer) (order : IterationOrder) (pids : List PID) :
    Routes Peer :=
  let newPeers : GoMap PID Unit := pids.foldl (fun peers pid => peers.insert pid ()) ∅
  let delPeers := ((routes.peers.iterate order).map Prod.fst).filter fun pid =>
    (newPeers.lookup pid).isNone
  { delPeers.foldl removeIndex (pids.foldl initIndex routes) with peers := newPeers }

def handleNewPeer (routes : Routes Peer) (peer : Peer) : Routes Peer :=
  { routes with peerCache := routes.peerCache.insert peer ∅ }

def handleDonePeer (routes : Routes Peer) (peer : Peer) : Routes Peer :=
  { routes with peerCache := routes.peerCache.erase peer }

/-- An entry of an inventory, `msg.InvVect`. -/
structure InvVect where
  isAddress : Bool
  hash : Hash

/-- The loop of `handleInv`, with the hashes that are requested from the peer. -/
def invLoop (peer : Peer) : Routes Peer → Finset Hash → List InvVect → Routes Peer × List Hash
  | routes, _, [] => (routes, [])
  | routes, cache, iv :: rest =>
    if iv.isAddress = false ∨ (routes.knownAddr.lookup iv.hash).isSome ∨
        iv.hash ∈ routes.requested then
      invLoop peer routes cache rest
    else
      let (final, others) := invLoop peer { routes with
          requested := insert iv.hash routes.requested
          peerCache := routes.peerCache.insert peer (insert iv.hash cache) }
        (insert iv.hash cache) rest
      (final, iv.hash :: others)

def handleInv (routes : Routes Peer) (peer : Peer) (inv : List InvVect) : Routes Peer × List Hash :=
  match routes.peerCache.lookup peer with
  | none => (routes, [])
  | some cache => invLoop peer routes cache inv

def verifyDAddr (routes : Routes Peer) (medianTime : Int) (m : DAddr) : Except String Unit :=
  if codec.decodePoint m.pid = false then .error "invalid public key"
  else if codec.verify m = false then .error "invalid signature"
  else
    match routes.addrIndex.lookup m.pid with
    | none => .ok ()
    | some index =>
      match index.lookup m.encode with
      | none => .ok ()
      | some hash =>
        match routes.knownAddr.lookup hash with
        | none => .ok ()
        | some ka =>
          if m.timestamp < ka.timestamp then .error "timestamp is older than known"
          else if m.timestamp < medianTime - maxTimeOffset ∨
              medianTime + maxTimeOffset < m.timestamp then
            .error "timestamp out of offset range"
          else if m.timestamp < ka.timestamp + minAnnounceDuration then
            .error "address announce too frequent"
          else .ok ()

/-- `appendAddr`; a full cache gives the node of its last entry to the new one. -/
def appendAddr (routes : Routes Peer) (m : DAddr) : Routes Peer :=
  let hash := codec.hash m
  let knownAddr := routes.knownAddr.insert hash m
  if maxKnownAddrs < GoMap.len knownAddr then
    match routes.knownList.getLast? with
    | none => { routes with knownAddr := knownAddr }
    | some lru =>
      { routes with
        knownAddr := knownAddr.erase lru
        knownList := hash :: routes.knownList.dropLast }
  else
    { routes with
      knownAddr := knownAddr
      knownList := hash :: routes.knownList }

def answered (routes : Routes Peer) (peer : Peer) (cache : Finset Hash) (hash : Hash) :
    Routes Peer :=
  { routes with
    peerCache := routes.peerCache.insert peer (cache.erase hash)
    requested := routes.requested.erase hash }

/-- `handleDAddr`, and whether the message was accepted. -/
def handleDAddr (routes : Routes Peer) (medianTime : Int) (peer : Peer) (m : DAddr) :
    Routes Peer × Bool :=
  match routes.peerCache.lookup peer with
  | none => (routes, false)
  | some cache =>
    if codec.hash m ∈ cache then
      let routes := routes.answered peer cache (codec.hash m)
      match routes.verifyDAddr codec medianTime m with
      | .error _ => (routes, false)
      | .ok () =>
        if (routes.peers.lookup m.pid).isSome then (routes.appendAddr codec m, true)
        else (routes, false)
    else (routes, false)

inductive Event (Peer : Type) where
  | peers (order : IterationOrder) (pids : List PID)
  | newPeer (peer : Peer)
  | donePeer (peer : Peer)
  | inv (peer : Peer) (inv : List InvVect)
  | dAddr (medianTime : Int) (peer : Peer) (m : DAddr)

def step (routes : Routes Peer) : Event Peer → Routes Peer
  | .peers order pids => routes.handlePeersMsg order pids
  | .newPeer peer => routes.handleNewPeer peer
  | .donePeer peer => routes.handleDonePeer peer
  | .inv peer inv => (routes.handleInv peer inv).1
  | .dAddr medianTime peer m => (routes.handleDAddr codec medianTime peer m).1

end Routes

end EscSideChain.Dpos
