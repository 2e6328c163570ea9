import EscSideChain.EvmCall
import EscSideChain.Rollback

namespace EscSideChain.Vm

open Dpos State Spv WithdrawFailedTx

/-!
# What frames can do

Every frame below the top level is a run of a few kinds of changes, of which
finished parts are taken back when a frame ends with an error.  The kinds are
listed once, in `Change`, and all later invariants are read off them.
-/

/-- Every self-destruct of the code names an address that meets the condition. -/
def Script.Obeys (condition : Address → Prop) : Script → Prop
  | .halt _ _ => True
  | .charge _ next => next.Obeys condition
  | .inspect next => ∀ db gas, (next db gas).Obeys condition
  | .perform _ next => next.Obeys condition
  | .selfdestruct beneficiary => condition beneficiary
  | .invoke _ next => ∀ result, (next result).Obeys condition

/-- Where code may live, and what it may destruct. -/
structure Bounds where
  home : Address → Prop
  destructs : Address → Address → Prop

/-- The contracts of the machine keep within the bounds. -/
structure Evm.Within (evm : Evm) (bounds : Bounds) : Prop where
  created : ∀ caller nonce, bounds.home (evm.createAddress caller nonce)
  created2 : ∀ caller salt code, bounds.home (evm.createAddress2 caller salt code)
  obeys : ∀ frame, (evm.interpreter frame).Obeys (bounds.destructs frame.self)

/-- There is no code away from home. -/
def Bounds.Clean (bounds : Bounds) (db : StateDB) : Prop :=
  ∀ addr, ¬bounds.home addr → db.getCode addr = []

def CallSite.refundId (site : CallSite) : Bytes :=
  hexutilEncode (site.input.take 32)

/-- One change that code within the bounds makes. -/
inductive Change (bounds : Bounds) : World → World → Prop where
  | quiet {before after : World} (accounts : after.db.account = before.db.account)
      (movements : after.db.movements = before.db.movements) (calls : before.calls ⊆ after.calls) :
      Change bounds before after
  | account (world : World) {addr : Address} {change : Account → Account}
      (isHome : bounds.home addr)
      (balance : ∀ account, (change account).balance = account.balance) :
      Change bounds world { world with db := world.db.modify addr change }
  | fresh (world : World) {addr : Address} (missing : world.db.exist addr = false) :
      Change bounds world { world with db := world.db.createAccount addr }
  | transfer (world : World) (sender recipient : Address) (amount : Int) :
      Change bounds world { world with
          db := world.db.transfer sender recipient amount }
  | touch (world : World) (addr : Address) :
      Change bounds world { world with db := world.db.addBalance addr 0 }
  | selfdestruct (world : World) {self beneficiary : Address} (isHome : bounds.home self)
      (allowed : bounds.destructs self beneficiary) : Change bounds world { world with
          db := (world.db.addBalance beneficiary (world.db.getBalance self)).suicide self }
  | refund (world : World) (caller : Address) {site : CallSite} (amount : Int)
      (recorded : site ∈ world.calls) (isZero : site.addr = blackAddr) (below : 0 < site.depth) :
      Change bounds world { world with
          db := (world.db.addBalance caller amount).note (.refund site.refundId site.depth amount) }
  | frame (world : World) (recipient : Address) (toBlack : Bool) (value : Int) :
      Change bounds world { world with
          db := (if toBlack then world.db.subBalance recipient value else world.db).note
            (.frame recipient toBlack value) }
  | idle (world : World) (recipient : Address) (toBlack : Bool) :
      Change bounds world (world.note (.frame recipient toBlack 0))

/-- The state rolled back; the record of calls stays. -/
def restore (before after : World) : World :=
  { after with db := before.db }

/-- What a frame does, with its inner frames rolled back or not. -/
abbrev FrameRun (bounds : Bounds) : World → World → Prop :=
  Rollback.Runs (Change bounds) restore

/-! ## The accounts away from home -/

variable {bounds : Bounds} {before after : World} (db : StateDB) (addr : Address)

theorem Change.viewOf_eq
    (change : Change bounds before after) {addr : Address} (away : ¬bounds.home addr) :
    after.db.viewOf addr = before.db.viewOf addr := by
  have ne_of_home {other : Address} (isHome : bounds.home other) : addr ≠ other := by
    rintro rfl
    exact away isHome
  cases change with
  | quiet accounts _ _ => exact StateDB.viewOf_congr accounts addr
  | account isHome _ => exact StateDB.viewOf_modify_of_ne (ne_of_home isHome)
  | fresh missing => exact StateDB.viewOf_createAccount missing addr
  | transfer sender recipient amount => exact StateDB.viewOf_transfer _ _ _ _ _
  | touch other => exact StateDB.viewOf_addBalance _ _ _ _
  | selfdestruct isHome _ =>
    exact (StateDB.viewOf_suicide_of_ne (ne_of_home isHome)).trans
      (StateDB.viewOf_addBalance _ _ _ _)
  | refund caller amount _ _ _ => exact StateDB.viewOf_addBalance _ _ _ _
  | frame recipient toBlack value =>
    cases toBlack with
    | false => rfl
    | true => exact StateDB.viewOf_subBalance _ _ _ _
  | idle recipient toBlack => rfl

theorem FrameRun.viewOf_eq
    (run : FrameRun bounds before after) {addr : Address} (away : ¬bounds.home addr) :
    after.db.viewOf addr = before.db.viewOf addr :=
  run.view_eq (fun world => world.db.viewOf addr)
    (fun _ _ change => change.viewOf_eq away) (fun _ _ _ => rfl)

theorem FrameRun.clean (run : FrameRun bounds before after)
    (clean : bounds.Clean before.db) : bounds.Clean after.db := by
  intro addr away
  have same : after.db.getCode addr = before.db.getCode addr :=
    congrArg AccountView.code (run.viewOf_eq away)
  rw [same]
  exact clean addr away

/-! ## The movements of money -/

/-- A movement that an inner call can note. -/
def IsDeep (calls : List CallSite) : Movement → Prop
  | .recharge _ _ => False
  | .refund txid depth _ =>
    0 < depth ∧ ∃ site ∈ calls, site.depth = depth ∧ site.addr = blackAddr ∧ site.refundId = txid
  | .frame _ _ _ => True

theorem IsDeep.mono {calls later : List CallSite} (recorded : calls ⊆ later) {movement : Movement}
    (deep : IsDeep calls movement) : IsDeep later movement := by
  cases movement with
  | recharge _ _ => exact deep
  | refund txid depth amount =>
    obtain ⟨below, site, member, origin⟩ := deep
    exact ⟨below, site, recorded member, origin⟩
  | frame _ _ _ => trivial

/-- Only movements of this kind were noted. -/
def Gains (kind : Movement → Prop) (before after : StateDB) : Prop :=
  ∃ gained : List Movement, after.movements = before.movements ++ gained ∧
      ∀ movement ∈ gained, kind movement

namespace Gains

variable {kind : Movement → Prop}

theorem of_eq {before after : StateDB} (same : after.movements = before.movements) :
    Gains kind before after :=
  ⟨[], by simp [same], by simp⟩

theorem trans {before between after : StateDB} (first : Gains kind before between)
    (second : Gains kind between after) : Gains kind before after := by
  obtain ⟨earlier, earlierEq, earlierKind⟩ := first
  obtain ⟨later, laterEq, laterKind⟩ := second
  refine ⟨earlier ++ later, ?_, ?_⟩
  · rw [laterEq, earlierEq, List.append_assoc]
  · intro movement member
    rcases List.mem_append.mp member with inEarlier | inLater
    · exact earlierKind movement inEarlier
    · exact laterKind movement inLater

theorem mono {wider : Movement → Prop} (includes : ∀ movement, kind movement → wider movement)
    {before after : StateDB} (gains : Gains kind before after) : Gains wider before after := by
  obtain ⟨gained, same, isKind⟩ := gains
  exact ⟨gained, same, fun movement member =>
    includes movement (isKind movement member)⟩

theorem single {before after : StateDB} {movement : Movement}
    (noted : after.movements = before.movements ++ [movement]) (isKind : kind movement) :
    Gains kind before after :=
  ⟨[movement], noted, by simpa using isKind⟩

end Gains

theorem Change.calls_subset (change : Change bounds before after) : before.calls ⊆ after.calls := by
  cases change with
  | quiet _ _ calls => exact calls
  | _ => exact List.Subset.refl _

theorem FrameRun.calls_subset
    (run : FrameRun bounds before after) : before.calls ⊆ after.calls := by
  induction run with
  | refl _ => exact List.Subset.refl _
  | step change => exact change.calls_subset
  | trans _ _ first second => exact List.Subset.trans first second
  | undo _ part => exact part

theorem Change.gains
    (change : Change bounds before after) : Gains (IsDeep after.calls) before.db after.db := by
  cases change with
  | quiet _ movements _ => exact .of_eq movements
  | selfdestruct _ _ =>
    refine .of_eq ?_
    unfold StateDB.suicide
    split <;> rfl
  | @refund _ site amount recorded isZero below =>
    exact .single rfl ⟨below, site, recorded, rfl, isZero, rfl⟩
  | frame recipient toBlack value =>
    cases toBlack <;> exact .single rfl trivial
  | idle recipient toBlack => exact .single rfl trivial
  | _ => exact .of_eq rfl

theorem FrameRun.gains
    (run : FrameRun bounds before after) : Gains (IsDeep after.calls) before.db after.db := by
  induction run with
  | refl _ => exact .of_eq rfl
  | step change => exact change.gains
  | trans _ later first second =>
    exact (first.mono fun _ deep =>
      deep.mono (FrameRun.calls_subset later)).trans second
  | undo _ _ => exact .of_eq rfl

def netMovements (db : StateDB) : Int :=
  (db.movements.map Movement.net).sum

/-- The sum of the balances without what the movements brought in. -/
def ownTotal (db : StateDB) : Int :=
  db.total - netMovements db

theorem ownTotal_note (movement : Movement) :
    ownTotal (db.note movement) = ownTotal db - movement.net := by
  have same : (db.note movement).total = db.total := rfl
  unfold ownTotal
  rw [same]
  simp only [netMovements, StateDB.note, List.map_append,
    List.map_cons, List.map_nil, List.sum_append, List.sum_cons, List.sum_nil, add_zero]
  ring

@[simp] theorem ownTotal_addBalance (amount : Int) :
    ownTotal (db.addBalance addr amount) = ownTotal db + amount := by
  have same : netMovements (db.addBalance addr amount) = netMovements db := rfl
  unfold ownTotal
  rw [same, StateDB.total_addBalance]
  ring

@[simp] theorem ownTotal_subBalance (amount : Int) :
    ownTotal (db.subBalance addr amount) = ownTotal db - amount := by
  have same : netMovements (db.subBalance addr amount) = netMovements db := rfl
  unfold ownTotal
  rw [same, StateDB.total_subBalance]
  ring

theorem ownTotal_congr {first second : StateDB} (accounts : first.account = second.account)
    (movements : first.movements = second.movements) : ownTotal first = ownTotal second := by
  have balances : first.getBalance = second.getBalance := by
    funext addr
    simp [StateDB.getBalance, StateDB.object, accounts]
  simp [ownTotal, netMovements, StateDB.total, balances, movements]

theorem ownTotal_modify {db : StateDB} {addr : Address} {change : Account → Account}
    (balance : (change (db.object addr)).balance = (db.object addr).balance) :
    ownTotal (db.modify addr change) = ownTotal db := by
  have same : netMovements (db.modify addr change) = netMovements db := rfl
  unfold ownTotal
  rw [same, StateDB.total_modify balance]

theorem ownTotal_createAccount : ownTotal (db.createAccount addr) = ownTotal db := by
  unfold StateDB.createAccount
  exact ownTotal_modify rfl

variable (conserving : ∀ self beneficiary, bounds.destructs self beneficiary → self ≠ beneficiary)

include conserving

theorem Change.ownTotal_eq
    (change : Change bounds before after) : ownTotal after.db = ownTotal before.db := by
  cases change with
  | quiet accounts movements _ => exact ownTotal_congr accounts movements
  | account _ balance => exact ownTotal_modify (balance _)
  | fresh missing => exact ownTotal_createAccount _ _
  | transfer sender recipient amount => simp [StateDB.transfer]
  | touch other => simp
  | @selfdestruct self beneficiary _ allowed =>
    have other := conserving self beneficiary allowed
    have same : netMovements ((before.db.addBalance beneficiary
        (before.db.getBalance self)).suicide self) = netMovements before.db := by
      unfold StateDB.suicide
      split <;> rfl
    unfold ownTotal
    rw [same, StateDB.total_selfdestruct other]
  | refund caller amount _ _ _ => simp [ownTotal_note, Movement.net]
  | frame recipient toBlack value =>
    cases toBlack <;> simp [ownTotal_note, Movement.net]
  | idle recipient toBlack => cases toBlack <;> simp [World.note, ownTotal_note, Movement.net]

theorem FrameRun.ownTotal_eq
    (run : FrameRun bounds before after) : ownTotal after.db = ownTotal before.db :=
  run.view_eq (fun world => ownTotal world.db) (fun _ _ change => change.ownTotal_eq conserving)
    (fun _ _ _ => rfl)

end EscSideChain.Vm
