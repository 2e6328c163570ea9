import EscSideChain.SmallCrossStore

namespace EscSideChain.Spv

open SmallCross

/-!
# The queue of recharges

`UpTransactionIndex` appends a main-chain transaction to a queue in the database, and a
goroutine that `IteratorUnTransaction` starts takes the transactions out again.  The queue
is a range of numbered entries between two counters, the seek and the index, and each of
the two sides makes two writes.  The writers exclude each other by the mutex `muupti`, the
goroutines by the flag `candIterator`.
-/

/-! ## The database -/

inductive QueueKey where
  | entry (number : UInt64)
  | index
  | seek
  deriving DecidableEq

/-- `encodeUnTransactionNumber`, which writes the same bytes as `IntToBytes`. -/
def encodeUnTransactionNumber (number : UInt64) : Bytes :=
  intToBytes number

/-- The text of a key: `UnTransaction`, `UnTransactionIndex`, `UnTransactionSeek`. -/
def QueueKey.text : QueueKey → Bytes
  | .entry number => ascii "UnT-" ++ encodeUnTransactionNumber number
  | .index => ascii "UnTI"
  | .seek => ascii "UnTS"

/-- What `GetUnTransactionNum` returns if nothing is stored. -/
def missingNumber : UInt64 :=
  0xffffffffffffffff

def getUnTransactionNum (db : Db) (key : QueueKey) : UInt64 :=
  match db key.text with
  | none => missingNumber
  | some data =>
    if data.length = 8 then bytesToInt data
    else missingNumber

def counterOf (db : Db) (key : QueueKey) : UInt64 :=
  let number := getUnTransactionNum db key
  if number = missingNumber then 1 else number

/-! ## The two sides -/

/--
The database, the mutex and the flag.  What has been written to the queue and what
has been removed from it is recorded in the order in which it happened.
-/
structure Queue where
  db : Db
  muupti : Bool
  candIterator : Bool
  entered : List Bytes
  left : List Bytes

namespace Queue

def initial : Queue where
  db _ := none
  muupti := false
  candIterator := false
  entered := []
  left := []

def put (queue : Queue) (key : QueueKey) (value : Option Bytes) : Queue :=
  { queue with db := Function.update queue.db key.text value }

end Queue

/-- `UpTransactionIndex`, from `Lock` to `Unlock`. -/
def Queue.upTransactionIndex (queue : Queue) (elaTx : Bytes) : Queue :=
  let index := counterOf queue.db .index
  let entered := queue.put (.entry index) (some (strip0x elaTx))
  { entered.put .index (some (encodeUnTransactionNumber (index + 1))) with
    entered := queue.entered ++ [strip0x elaTx] }

end EscSideChain.Spv
