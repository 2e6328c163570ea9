import EscSideChain.BalanceSheet
import EscSideChain.ByteStrings
import Mathlib.Data.FinEnum
import Mathlib.Data.Fintype.Vector

namespace EscSideChain.State

/-!
# The state of accounts

`StateDB` of `core/state`, as far as transactions of this chain use it: the
accounts, the logs, the refund counter, the access list and the transient
storage.  A snapshot is the value itself, and reverting to a snapshot puts the
value back.
-/

/-- One account, `stateObject`. -/
structure Account where
  nonce : UInt64
  balance : Int
  code : Bytes
  storage : Hash → Hash
  suicided : Bool

structure AccountView where
  nonce : UInt64
  code : Bytes
  storage : Hash → Hash
  suicided : Bool

namespace Account

def view (account : Account) : AccountView where
  nonce := account.nonce
  code := account.code
  storage := account.storage
  suicided := account.suicided

/-- The object that `newObject` makes for an unused address. -/
def new : Account where
  nonce := 0
  balance := 0
  code := []
  storage _ := emptyHash
  suicided := false

/-- `empty`. -/
def isEmpty (account : Account) : Bool :=
  account.nonce = 0 && account.balance = 0 && account.code = []

end Account

/-- A log entry, `types.Log`. -/
structure Log where
  address : Address
  topics : List Hash
  data : Bytes
  blockNumber : Nat

/--
What the calls of a transaction did, for the record: the money that a recharge or a refund brought
in, and every frame of `Call` that ended without an error, with its recipient, whether that is the
black contract, and its value.  The notes are part of the state, so that a frame that is rolled
back leaves none.
-/
inductive Movement where
  | recharge (txHash : Bytes) (amount : Int)
  | refund (txid : Bytes) (depth : Nat) (amount : Int)
  | frame (recipient : Address) (toBlack : Bool) (value : Int)
  deriving DecidableEq

/-- What a movement should add to the sum of all balances. -/
def Movement.net : Movement → Int
  | .recharge _ amount => amount
  | .refund _ _ amount => amount
  | .frame _ toBlack value => if toBlack then -value else 0

/-- `StateDB`, with the notes of the running transaction. -/
structure StateDB where
  account : Address → Option Account
  logs : List Log
  refund : Nat
  accessList : List (Address × Option Hash)
  transientStorage : Address → Hash → Hash
  movements : List Movement

variable {change : Account → Account} {addr : Address} {db : StateDB}

namespace StateDB

/-! ## Reading -/

def exist (db : StateDB) (addr : Address) : Bool :=
  (db.account addr).isSome

def object (db : StateDB) (addr : Address) : Account :=
  (db.account addr).getD Account.new

def getBalance (db : StateDB) (addr : Address) : Int :=
  (db.object addr).balance

def getNonce (db : StateDB) (addr : Address) : UInt64 :=
  (db.object addr).nonce

def getCode (db : StateDB) (addr : Address) : Bytes :=
  (db.object addr).code

def getState (db : StateDB) (addr : Address) (key : Hash) : Hash :=
  (db.object addr).storage key

/-! ## Writing -/

def modify (db : StateDB) (addr : Address) (change : Account → Account) : StateDB :=
  { db with
    account := Function.update db.account addr (some (change (db.object addr))) }

def addBalance (db : StateDB) (addr : Address) (amount : Int) : StateDB :=
  db.modify addr fun account =>
    { account with balance := account.balance + amount }

def subBalance (db : StateDB) (addr : Address) (amount : Int) : StateDB :=
  db.modify addr fun account =>
    { account with balance := account.balance - amount }

def setNonce (db : StateDB) (addr : Address) (nonce : UInt64) : StateDB :=
  db.modify addr fun account => { account with nonce := nonce }

def setCode (db : StateDB) (addr : Address) (code : Bytes) : StateDB :=
  db.modify addr fun account => { account with code := code }

def setState (db : StateDB) (addr : Address) (key value : Hash) : StateDB :=
  db.modify addr fun account =>
    { account with
      storage := Function.update account.storage key value }

/-- `CreateAccount`, which carries the balance over. -/
def createAccount (db : StateDB) (addr : Address) : StateDB :=
  db.modify addr fun account =>
    { Account.new with balance := account.balance }

/-- `Suicide`, which leaves a missing account alone. -/
def suicide (db : StateDB) (addr : Address) : StateDB :=
  if db.exist addr then
    db.modify addr fun account =>
      { account with balance := 0, suicided := true }
  else db

def addLog (db : StateDB) (log : Log) : StateDB :=
  { db with logs := db.logs ++ [log] }

def addRefund (db : StateDB) (gas : Nat) : StateDB :=
  { db with refund := db.refund + gas }

/-- `SubRefund`, whose caller never takes more than there is. -/
def subRefund (db : StateDB) (gas : Nat) : StateDB :=
  { db with refund := db.refund - gas }

/-- `AddAddressToAccessList` and `AddSlotToAccessList`. -/
def addToAccessList (db : StateDB) (addr : Address) (slot : Option Hash) : StateDB :=
  { db with accessList := (addr, slot) :: db.accessList }

def setTransientState (db : StateDB) (addr : Address) (key value : Hash) : StateDB :=
  { db with
    transientStorage := Function.update db.transientStorage addr
      (Function.update (db.transientStorage addr) key value) }

def canTransfer (db : StateDB) (addr : Address) (amount : Int) : Bool :=
  db.getBalance addr ≥ amount

def transfer (db : StateDB) (sender recipient : Address) (amount : Int) : StateDB :=
  (db.subBalance sender amount).addBalance recipient amount

def note (db : StateDB) (movement : Movement) : StateDB :=
  { db with movements := db.movements ++ [movement] }

/--
`Finalise`: delete the accounts that destructed themselves and, where asked
for, the empty ones, among those that the journal of the transaction holds.
-/
def finalise (dirties : Address → Bool) (deleteEmptyObjects : Bool) (db : StateDB) : StateDB :=
  { db with
    account := fun addr =>
      match db.account addr with
      | none => none
      | some account =>
        if dirties addr && (account.suicided || (deleteEmptyObjects && account.isEmpty)) then none
        else some account
    refund := 0 }

/-! ## What a write does to an account -/

@[simp] theorem object_modify_self (db : StateDB) (addr : Address) (change : Account → Account) :
    (db.modify addr change).object addr = change (db.object addr) := by
  simp [object, modify]

theorem object_modify_of_ne {addr other : Address}
    (different : other ≠ addr) : (db.modify addr change).object other = db.object other := by
  simp [object, modify, Function.update_of_ne different]

def viewOf (db : StateDB) (addr : Address) : AccountView :=
  (db.object addr).view

theorem viewOf_modify_of_ne {addr other : Address}
    (different : other ≠ addr) : (db.modify addr change).viewOf other = db.viewOf other := by
  simp [viewOf, object_modify_of_ne different]

@[simp] theorem viewOf_addBalance (db : StateDB) (addr : Address) (amount : Int) (other : Address) :
    (db.addBalance addr amount).viewOf other = db.viewOf other := by
  by_cases same : other = addr
  · subst same
    simp [viewOf, addBalance, Account.view]
  · exact viewOf_modify_of_ne same

@[simp] theorem viewOf_subBalance (db : StateDB) (addr : Address) (amount : Int) (other : Address) :
    (db.subBalance addr amount).viewOf other = db.viewOf other := by
  by_cases same : other = addr
  · subst same
    simp [viewOf, subBalance, Account.view]
  · exact viewOf_modify_of_ne same

@[simp] theorem viewOf_transfer (db : StateDB) (sender recipient : Address) (amount : Int)
    (other : Address) : (db.transfer sender recipient amount).viewOf other = db.viewOf other := by
  simp [transfer]

theorem viewOf_setNonce_self (db : StateDB) (addr : Address) (nonce : UInt64) :
    (db.setNonce addr nonce).viewOf addr = { db.viewOf addr with nonce := nonce } := by
  simp [viewOf, setNonce, Account.view]

@[simp] theorem getCode_setNonce (db : StateDB) (addr : Address) (nonce : UInt64)
    (other : Address) : (db.setNonce addr nonce).getCode other = db.getCode other := by
  by_cases same : other = addr
  · subst same
    simp [getCode, setNonce]
  · simp [getCode, setNonce, object_modify_of_ne same]

theorem viewOf_createAccount (missing : db.exist addr = false)
    (other : Address) : (db.createAccount addr).viewOf other = db.viewOf other := by
  by_cases same : other = addr
  · subst same
    have absent : db.object other = Account.new := by
      simp only [exist, Option.isSome_eq_false_iff, Option.isNone_iff_eq_none] at missing
      simp [object, missing]
    simp [viewOf, createAccount, absent, Account.view]
  · exact viewOf_modify_of_ne same

theorem viewOf_suicide_of_ne {addr other : Address} (different : other ≠ addr) :
    (db.suicide addr).viewOf other = db.viewOf other := by
  unfold suicide
  split
  · exact viewOf_modify_of_ne different
  · rfl

theorem viewOf_congr {first second : StateDB} (accounts : first.account = second.account)
    (addr : Address) : first.viewOf addr = second.viewOf addr := by
  simp [viewOf, object, accounts]

/-! ## The sum of all balances -/

def total (db : StateDB) : Int :=
  BalanceSheet.total db.getBalance

section

variable (db : StateDB) (addr : Address)

theorem getBalance_modify (change : Account → Account) :
    (db.modify addr change).getBalance = Function.update db.getBalance addr
        (change (db.object addr)).balance := by
  funext other
  by_cases same : other = addr
  · subst same
    simp [getBalance]
  · simp [getBalance, object_modify_of_ne same, Function.update_of_ne same]

theorem getBalance_addBalance (amount : Int) :
    (db.addBalance addr amount).getBalance = Function.update db.getBalance addr
        (db.getBalance addr + amount) := by
  rw [addBalance, getBalance_modify]
  rfl

theorem getBalance_subBalance (amount : Int) :
    (db.subBalance addr amount).getBalance = Function.update db.getBalance addr
        (db.getBalance addr - amount) := by
  rw [subBalance, getBalance_modify]
  rfl

theorem getBalance_le_addBalance {amount : Int} (nonnegative : 0 ≤ amount) (other : Address) :
    db.getBalance other ≤ (db.addBalance addr amount).getBalance other := by
  rw [getBalance_addBalance]
  by_cases same : other = addr
  · subst same
    rw [Function.update_self]
    omega
  · rw [Function.update_of_ne same]

end

theorem getBalance_setNonce (db : StateDB) (addr : Address) (nonce : UInt64) :
    (db.setNonce addr nonce).getBalance = db.getBalance := by
  rw [setNonce, getBalance_modify]
  exact Function.update_eq_self addr db.getBalance

theorem getBalance_createAccount (db : StateDB) (addr : Address) :
    (db.createAccount addr).getBalance = db.getBalance := by
  rw [createAccount, getBalance_modify]
  exact Function.update_eq_self addr db.getBalance

theorem total_modify (kept : (change (db.object addr)).balance = (db.object addr).balance) :
    (db.modify addr change).total = db.total := by
  unfold total
  rw [getBalance_modify, kept]
  exact congrArg BalanceSheet.total (Function.update_eq_self addr db.getBalance)

@[simp] theorem total_addBalance (db : StateDB) (addr : Address) (amount : Int) :
    (db.addBalance addr amount).total = db.total + amount := by
  unfold total addBalance
  rw [getBalance_modify]
  exact BalanceSheet.total_add db.getBalance addr amount

@[simp] theorem total_subBalance (db : StateDB) (addr : Address) (amount : Int) :
    (db.subBalance addr amount).total = db.total - amount := by
  unfold total subBalance
  rw [getBalance_modify]
  exact BalanceSheet.total_add db.getBalance addr (-amount)

theorem total_selfdestruct {addr beneficiary : Address} (other : addr ≠ beneficiary) :
    ((db.addBalance beneficiary (db.getBalance addr)).suicide addr).total = db.total := by
  unfold suicide
  split
  · unfold total
    rw [getBalance_modify, BalanceSheet.total_update]
    have credited := total_addBalance db beneficiary (db.getBalance addr)
    have kept : (db.addBalance beneficiary
        (db.getBalance addr)).getBalance addr = db.getBalance addr := by
      simp [getBalance, addBalance, object_modify_of_ne other]
    unfold total at credited
    rw [credited, kept]
    ring
  · next missing =>
      -- A missing account has nothing to move.
      have absent : db.account addr = none := by
        simpa [exist, addBalance, modify, Function.update_of_ne other] using missing
      rw [total_addBalance]
      simp [getBalance, object, absent, Account.new]

end StateDB

end EscSideChain.State
