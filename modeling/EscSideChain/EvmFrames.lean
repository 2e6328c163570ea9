import EscSideChain.EvmRuns

namespace EscSideChain.Vm

open Dpos State Spv WithdrawFailedTx

/-!
# Every frame is a run

The functions of `EvmCall`, one after another: each of them leaves the state at
the end of a run of changes, if the frames it runs do, and gives back no more
gas than it got.  `enter` then closes the circle, by induction on the levels
that are left.
-/

variable {inner : World → Request → World × Result} {world : World} {caller : Address}
    {input : Bytes} {depth : Nat} {opened : Opened} {frame : Frame}

namespace Evm

variable {evm : Evm} {bounds : Bounds}
variable {run : World → Frame → Nat → World × Result}

def RunsFrames (bounds : Bounds) (run : World → Frame → Nat → World × Result) : Prop :=
  ∀ world frame gas, bounds.Clean world.db → (frame.code ≠ [] → bounds.home frame.self) →
    FrameRun bounds world (run world frame gas).1

theorem home_of_code {db : StateDB} (clean : bounds.Clean db) {addr : Address}
    (code : db.getCode addr ≠ []) : bounds.home addr := by
  by_contra away
  exact code (clean addr away)

/-! ## Calls -/

theorem settle_frameRun {before after : World} (ran : FrameRun bounds before after)
    (result : Result) : FrameRun bounds before (settle before.db after result).1 := by
  unfold settle
  split
  · exact ran
  · exact ran.undo

theorem execute_frameRun (frames : RunsFrames bounds run)
    (clean : bounds.Clean world.db) (addr : Address)
    (isHome : frame.code ≠ [] → bounds.home frame.self) (gas : Nat) :
    FrameRun bounds world (evm.execute run world addr frame gas).1 := by
  unfold execute
  split
  · exact .refl world
  · exact frames world frame gas clean isHome

theorem burn_frameRun (opened : Opened) (world : World) {result : Result}
    (succeeded : result.err = none) :
    FrameRun bounds world ((evm.burn opened.recipient opened.value world result).note
      (evm.frameNote opened)) := by
  unfold burn frameNote
  by_cases toBlack : evm.addressString opened.recipient = evm.config.blackContractAddr
  · rw [if_pos ⟨toBlack, succeeded⟩, decide_eq_true toBlack]
    exact .step (.frame world opened.recipient true opened.value)
  · rw [if_neg (fun burns => toBlack burns.1), decide_eq_false toBlack]
    exact .step (.frame world opened.recipient false opened.value)

theorem burn_of_err (recipient : Address) (value : Int) (world : World) {result : Result}
    (failed : result.err ≠ none) : evm.burn recipient value world result = world :=
  if_neg fun burns => failed burns.2

theorem transferred_frameRun (caller : Address) (opened : Opened) :
    FrameRun bounds opened.world { opened.world with db := transferred caller opened } := by
  unfold transferred
  dsimp only
  by_cases present : opened.world.db.exist opened.addr = true
  · rw [if_pos present]
    exact .step (.transfer opened.world _ _ _)
  rw [if_neg present]
  exact .trans (.step (.fresh opened.world (by simpa using present))) (.step (.transfer _ _ _ _))

/-- What the branches of `Call` on the zero address do to the state. -/
inductive Opening (evm : Evm) (depth : Nat) (caller addr : Address) (input : Bytes)
    (recharge : Option RechargeData) : World → World → Prop where
  | plain (world : World)
      (unpaid : ∀ data txHash, addr = blackAddr → recharge = some data →
        evm.rechargeHash input = some txHash → data.targetAddress = blackAddr ∨
          data.targetAmount < data.fee) :
      Opening evm depth caller addr input recharge world world
  | refund {world : World} {txid : Bytes} (isZero : addr = blackAddr)
      (isRefund : evm.isWithdawFailedTx world.db input = .ok (true, txid))
      (unmarked : world.db.getState blackAddr (hexToHash txid) = emptyHash)
      (log : Log) (amount : Int) (collector : Collector) :
      Opening evm depth caller addr input recharge world { world with
          db := ((world.db.addLog log).addBalance caller amount).note (.refund txid depth amount)
          collector := collector }
  | recharge {world : World} {data : RechargeData} {txid txHash : Bytes} (isZero : addr = blackAddr)
      (noRefund : evm.isWithdawFailedTx world.db input = .ok (false, txid))
      (given : recharge = some data) (named : evm.rechargeHash input = some txHash)
      (unmarked : world.db.getState blackAddr (hexToHash txHash) = emptyHash) (log : Log) :
      Opening evm depth caller addr input recharge world { world with
          db := ((world.db.addLog log).addBalance caller (data.targetAmount - data.fee)).note
            (.recharge txHash (data.targetAmount - data.fee)) }

theorem openRefund_opening {input txid : Bytes} {recharge : Option RechargeData}
    (isRefund : evm.isWithdawFailedTx world.db input = .ok (true, txid))
    (isOpen : (evm.openRefund world caller blackAddr input txid).map
      (Opened.noteRefund txid depth) = .ok opened) :
    Opening evm depth caller blackAddr input recharge world
      opened.world := by
  unfold openRefund at isOpen
  split at isOpen
  · next unmarked =>
      split at isOpen
      · cases isOpen
      cases isOpen
      exact .refund rfl isRefund unmarked.1 _ _ _
  · cases isOpen

theorem openRecharge_opening {input txid : Bytes} {value : Int} {data : RechargeData}
    (noRefund : evm.isWithdawFailedTx world.db input = .ok (false, txid))
    (isOpen : evm.openRecharge world caller blackAddr input value data = .ok opened) :
    Opening evm depth caller blackAddr input (some data) world
      opened.world := by
  unfold openRecharge at isOpen
  split at isOpen
  · next unnamed =>
      cases isOpen
      refine .plain world ?_
      intro _ _ _ _ named
      rw [unnamed] at named
      cases named
  · next txHash named =>
      split at isOpen
      · cases isOpen
      next unmarked =>
        split at isOpen
        · cases isOpen
          exact .recharge rfl noRefund rfl named (not_not.mp unmarked) _
        next unpaid =>
          cases isOpen
          refine .plain world ?_
          intro other _ _ given _
          cases given
          by_cases isZero : data.targetAddress = blackAddr
          · exact .inl isZero
          exact .inr (not_le.mp fun covers =>
            unpaid ⟨isZero, covers⟩)

theorem openCall_opening {caller addr : Address} {value : Int} {recharge : Option RechargeData}
    (isOpen : evm.openCall depth world caller addr input value recharge = .ok opened) :
    Opening evm depth caller addr input recharge world
      opened.world := by
  unfold openCall at isOpen
  by_cases isZero : addr = blackAddr
  · subst isZero
    rw [if_neg (not_not.mpr rfl)] at isOpen
    split at isOpen
    · cases isOpen
    · next txid isRefund => exact openRefund_opening isRefund isOpen
    · next txid noRefund =>
        split at isOpen
        · cases isOpen
          exact .plain world fun _ _ _ given _ => by cases given
        · exact openRecharge_opening noRefund isOpen
  · rw [if_pos isZero] at isOpen
    cases isOpen
    exact .plain world fun _ _ same _ _ => absurd same isZero

theorem callOpened_cases (frames : RunsFrames bounds run) (snapshot : StateDB) (caller : Address)
    (clean : bounds.Clean opened.world.db) (gas : Nat) (readOnly : Bool) :
    FrameRun bounds opened.world (evm.callOpened run snapshot caller opened gas readOnly).1 ∨
      ∃ final, FrameRun bounds opened.world final ∧
          (evm.callOpened run snapshot caller opened gas
            readOnly).1 = { final with db := snapshot } ∧
          (evm.callOpened run snapshot caller opened gas readOnly).2.err ≠ none := by
  unfold callOpened
  split
  · exact .inl (.refl _)
  split
  · next idle =>
      have isZero : opened.value = 0 := idle.2.2.2
      rw [frameNote, isZero]
      exact .inl (.step (.idle opened.world _ _))
  dsimp only
  have moved : FrameRun bounds opened.world { opened.world with db := transferred caller opened } :=
    transferred_frameRun caller opened
  have movedClean : bounds.Clean (transferred caller opened) := moved.clean clean
  have executed : FrameRun bounds { opened.world with db := transferred caller opened }
      (evm.execute run { opened.world with db := transferred caller opened }
        opened.addr (calledFrame caller opened readOnly) gas).1 :=
    execute_frameRun frames movedClean opened.addr (fun code => home_of_code movedClean code) gas
  generalize evm.execute run _ opened.addr _ gas = outcome at executed ⊢
  unfold settle
  split
  · next succeeded => exact .inl ((moved.trans executed).trans (burn_frameRun opened _ succeeded))
  · next err failed =>
      refine .inr ⟨outcome.1, moved.trans executed, ?_, by simp [failed]⟩
      rw [burn_of_err _ _ _ (by simp [failed])]
      rfl

theorem isWithdawFailedTx_id {db : StateDB} {input txid : Bytes}
    (isRefund : evm.isWithdawFailedTx db input = .ok (true, txid)) :
    hexutilEncode (input.take 32) = txid := by
  unfold isWithdawFailedTx WithdrawFailedTx.isWithdawFailedTx at isRefund
  split at isRefund
  · cases isRefund
  dsimp only at isRefund
  split at isRefund
  · cases isRefund
  split at isRefund
  · cases isRefund
  · cases isRefund
  · cases isRefund
  · exact (Prod.mk.inj (Except.ok.inj isRefund)).2

theorem Opening.frameRun (below : 0 < depth) {caller addr : Address}
    {before after : World} (recorded : ⟨depth, addr, input⟩ ∈ before.calls)
    (opening : Opening evm depth caller addr input none before after) :
    FrameRun bounds before after := by
  cases opening with
  | plain _ => exact .refl _
  | refund isZero isRefund _ _ amount _ =>
    obtain rfl := isWithdawFailedTx_id isRefund
    exact .trans (.step (.refund before caller amount recorded isZero below))
      (.step (.quiet rfl rfl (List.Subset.refl _)))
  | recharge _ _ given _ _ _ => cases given

theorem record_frameRun (world : World) (site : CallSite) :
    FrameRun bounds world (world.record site) :=
  .step (.quiet rfl rfl (List.subset_append_left _ _))

theorem mem_record (world : World) (site : CallSite) : site ∈ (world.record site).calls :=
  List.mem_append_right _ (List.mem_singleton_self site)

theorem call_frameRun (frames : RunsFrames bounds run) (below : 0 < depth)
    (clean : bounds.Clean world.db) (caller addr : Address) (input : Bytes)
    (gas : Nat) (value : Int) (readOnly : Bool) :
    FrameRun bounds world
      (evm.call run depth world caller addr input gas value none readOnly).1 := by
  unfold call
  split
  · exact record_frameRun world _
  next opened isOpen =>
    have opening : FrameRun bounds world opened.world :=
      (record_frameRun world _).trans
        ((openCall_opening isOpen).frameRun below (mem_record world _))
    rcases callOpened_cases frames world.db caller (opening.clean clean) gas readOnly with
      ended | ⟨final, ended, reverted, -⟩
    · exact opening.trans ended
    · rw [reverted]
      exact (opening.trans ended).undo

/-! ## The other frames -/

section

variable (frames : RunsFrames bounds run) (clean : bounds.Clean world.db)

include frames clean

theorem callCode_frameRun (isHome : bounds.home caller)
    (addr : Address) (input : Bytes) (gas : Nat) (value : Int) (readOnly : Bool) :
    FrameRun bounds world (evm.callCode run world caller addr input gas value readOnly).1 := by
  unfold callCode
  split
  · exact .refl world
  · exact settle_frameRun (execute_frameRun frames clean addr (fun _ => isHome) gas) _

theorem delegateCall_frameRun {parent : Frame} (isHome : bounds.home parent.self)
    (addr : Address) (input : Bytes) (gas : Nat) :
    FrameRun bounds world (evm.delegateCall run world parent addr input gas).1 := by
  unfold delegateCall
  refine settle_frameRun (execute_frameRun frames clean addr ?_ gas) _
  exact fun _ => isHome

theorem staticCall_frameRun (caller addr : Address) (input : Bytes) (gas : Nat) :
    FrameRun bounds world (evm.staticCall run world caller addr input gas).1 := by
  have touched : FrameRun bounds world { world with db := world.db.addBalance addr 0 } :=
    .step (.touch world addr)
  have touchedClean : bounds.Clean (world.db.addBalance addr 0) := touched.clean clean
  exact settle_frameRun
    (touched.trans (execute_frameRun frames touchedClean addr
      (fun code => home_of_code touchedClean code) gas)) _

end

theorem countedCreation_frameRun (world : World) (isHome : bounds.home caller)
    (address : Address) : FrameRun bounds world { world with
        db := evm.countedCreation world.db caller address } := by
  have bumped : FrameRun bounds world { world with
        db := world.db.setNonce caller (world.db.getNonce caller + 1) } :=
    .step (.account world isHome fun _ => rfl)
  unfold countedCreation
  split
  · exact bumped.trans (.step (.quiet rfl rfl (List.Subset.refl _)))
  · exact bumped

theorem createdAccount_frameRun (world : World) (caller : Address) {address : Address}
    (isHome : bounds.home address) (value : Int) : FrameRun bounds world { world with
        db := evm.createdAccount world.db caller address value } := by
  have created : FrameRun bounds world { world with db := world.db.createAccount address } :=
    .step (.account world isHome fun _ => rfl)
  unfold createdAccount
  split
  · have numbered : FrameRun bounds world { world with
          db := (world.db.createAccount address).setNonce address 1 } :=
      created.trans (.step (.account _ isHome fun _ => rfl))
    exact numbered.trans (.step (.transfer _ _ _ _))
  · exact created.trans (.step (.transfer _ _ _ _))

theorem storeCode_frameRun {address : Address} (isHome : bounds.home address) (world : World)
    (result : Result) : FrameRun bounds world (evm.storeCode address world result).1 := by
  unfold storeCode
  split
  · exact .refl world
  split
  · exact .refl world
  split
  · exact .refl world
  dsimp only
  split
  · exact .refl world
  · exact .step (.account world isHome fun _ => rfl)

theorem settleCreate_frameRun {before after : World} (ran : FrameRun bounds before after)
    (result : Result) : FrameRun bounds before (evm.settleCreate before.db after result).1 := by
  unfold settleCreate
  split
  · exact ran
  · exact settle_frameRun ran result

theorem create_cases (frames : RunsFrames bounds run) (caller : Address)
    (code : Bytes) (gas : Nat) (value : Int) {address : Address} (isHome : bounds.home address)
    (clean : bounds.Clean (evm.countedCreation world.db caller address)) (readOnly : Bool) :
    (evm.create run world caller code gas value address readOnly).1 = world ∨
      (¬world.db.getNonce caller + 1 < world.db.getNonce caller ∧ FrameRun bounds { world with
            db := evm.countedCreation world.db caller address }
          (evm.create run world caller code gas value address readOnly).1) := by
  unfold create
  dsimp only
  split
  · exact .inl rfl
  split
  · exact .inl rfl
  next bounded =>
    refine .inr ⟨bounded, ?_⟩
    split
    · exact .refl _
    have created : FrameRun bounds { world with
          db := evm.countedCreation world.db caller address }
        { world with
          db := evm.createdAccount (evm.countedCreation world.db caller address)
            caller address value } :=
      createdAccount_frameRun _ caller isHome value
    have ran := created.trans
      (frames _ ⟨caller, address, value, [], code, readOnly⟩ gas
        (created.clean clean) fun _ => isHome)
    exact settleCreate_frameRun (ran.trans (storeCode_frameRun isHome _ _)) _

/-! ## Requests of frames -/

def Inner (bounds : Bounds) : Request → Prop
  | .call _ _ _ _ _ recharge _ => recharge = none
  | .callCode caller _ _ _ _ _ => bounds.home caller
  | .delegateCall parent _ _ _ => bounds.home parent.self
  | .staticCall _ _ _ _ => True
  | .create caller _ _ _ _ => bounds.home caller
  | .create2 caller _ _ _ _ _ => bounds.home caller

theorem handle_frameRun (within : evm.Within bounds) (frames : RunsFrames bounds run)
    (below : 0 < depth) (clean : bounds.Clean world.db) {request : Request}
    (inner : Inner bounds request) :
    FrameRun bounds world (evm.handle run depth world request).1 := by
  -- A creation is counted first, which its caller is home for.
  have creation {caller address : Address} (code : Bytes) (gas : Nat)
      (value : Int) (readOnly : Bool) (callerHome : bounds.home caller)
      (isHome : bounds.home address) :
      FrameRun bounds world (evm.create run world caller code gas value address readOnly).1 := by
    have counted : FrameRun bounds world { world with
          db := evm.countedCreation world.db caller address } :=
      countedCreation_frameRun world callerHome address
    rcases create_cases frames caller code gas value isHome
        (counted.clean clean) readOnly with same | ⟨-, ran⟩
    · rw [same]
      exact .refl world
    · exact counted.trans ran
  cases request with
  | call caller addr input gas value recharge readOnly =>
    cases inner
    exact call_frameRun frames below clean caller addr input gas value readOnly
  | callCode caller addr input gas value readOnly =>
    exact callCode_frameRun frames clean inner addr input gas value readOnly
  | delegateCall parent addr input gas =>
    exact delegateCall_frameRun frames clean inner addr input gas
  | staticCall caller addr input gas => exact staticCall_frameRun frames clean caller addr input gas
  | create caller code gas value readOnly =>
    exact creation code gas value readOnly inner (within.created _ _)
  | create2 caller code gas value salt readOnly =>
    exact creation code gas value readOnly inner (within.created2 _ _ _)

theorem prepareCall_ok {available gas value kept : Nat} {isProtected : Bool}
    {build : Nat → Request} {request : Request}
    (paid : prepareCall frame available gas value isProtected build = .ok (kept, request)) :
    ∃ given, request = build given ∧ kept + given ≤ available := by
  unfold prepareCall at paid
  by_cases short : available < (if value = 0 then gas else gas + callValueTransferGas)
  · rw [if_pos short] at paid
    cases paid
  rw [if_neg short] at paid
  by_cases isRefused : isProtected ∧ frame.readOnly ∧ value ≠ 0
  · rw [if_pos isRefused] at paid
    cases paid
  rw [if_neg isRefused] at paid
  cases paid
  refine ⟨_, rfl, ?_⟩
  unfold callValueTransferGas at short ⊢
  unfold callStipend
  by_cases isZero : value = 0
  · simp only [if_pos isZero] at short ⊢
    omega
  simp only [if_neg isZero] at short ⊢
  omega

theorem prepare_ok {available kept : Nat} {invocation : Invocation}
    {request : Request} (prepared : evm.prepare frame available invocation = .ok (kept, request)) :
    (∀ bounds : Bounds, bounds.home frame.self → Inner bounds request) ∧
      kept + request.gas ≤ available := by
  unfold prepare at prepared
  cases invocation with
  | call addr input gas value =>
    obtain ⟨given, rfl, shared⟩ := prepareCall_ok prepared
    exact ⟨fun _ _ => rfl, shared⟩
  | callCode addr input gas value =>
    obtain ⟨given, rfl, shared⟩ := prepareCall_ok prepared
    exact ⟨fun _ isHome => isHome, shared⟩
  | delegateCall addr input gas =>
    obtain ⟨given, rfl, shared⟩ := prepareCall_ok prepared
    exact ⟨fun _ isHome => isHome, shared⟩
  | staticCall addr input gas =>
    obtain ⟨given, rfl, shared⟩ := prepareCall_ok prepared
    exact ⟨fun _ _ => trivial, shared⟩
  | create code value =>
    dsimp only at prepared
    by_cases isReadOnly : frame.readOnly
    · rw [if_pos isReadOnly] at prepared
      cases prepared
    rw [if_neg isReadOnly] at prepared
    cases prepared
    refine ⟨fun _ isHome => isHome, ?_⟩
    simp only [Request.gas]
    split <;> omega
  | create2 code value salt =>
    dsimp only at prepared
    by_cases isReadOnly : frame.readOnly
    · rw [if_pos isReadOnly] at prepared
      cases prepared
    rw [if_neg isReadOnly] at prepared
    cases prepared
    refine ⟨fun _ isHome => isHome, ?_⟩
    simp only [Request.gas]
    omega

def RunsInner (bounds : Bounds) (inner : World → Request → World × Result) : Prop :=
  ∀ world request, bounds.Clean world.db → Inner bounds request →
    FrameRun bounds world (inner world request).1

theorem applyOp_frameRun {self : Address} (isHome : bounds.home self) (world : World) (op : Op) :
    FrameRun bounds world { world with db := evm.applyOp self world.db op } := by
  cases op with
  | sstore key value =>
    have stored : ∀ account : Account, { account with
          storage := Function.update account.storage key value }.balance = account.balance :=
      fun _ => rfl
    exact .step (.account world isHome stored)
  | _ => exact .step (.quiet rfl rfl (List.Subset.refl _))

theorem runScript_frameRun (requests : RunsInner bounds inner) (isHome : bounds.home frame.self)
    (script : Script) (obeys : script.Obeys (bounds.destructs frame.self)) (world : World)
    (clean : bounds.Clean world.db) (gas : Nat) :
    FrameRun bounds world (evm.runScript inner frame script world gas).1 := by
  induction script generalizing world gas with
  | halt ret err => exact .refl world
  | charge cost next inductionHypothesis =>
    unfold runScript
    split
    · exact .refl world
    · exact inductionHypothesis obeys world clean _
  | inspect next inductionHypothesis => exact inductionHypothesis _ _ (obeys _ _) world clean gas
  | perform op next inductionHypothesis =>
    unfold runScript
    split
    · exact .refl world
    have performed : FrameRun bounds world
        { world with db := evm.applyOp frame.self world.db op } :=
      applyOp_frameRun isHome world op
    exact performed.trans (inductionHypothesis obeys _ (performed.clean clean) gas)
  | selfdestruct beneficiary =>
    unfold runScript
    split
    · exact .refl world
    · exact .step (.selfdestruct world isHome obeys)
  | invoke invocation next inductionHypothesis =>
    unfold runScript
    split
    · exact .refl world
    next kept request prepared =>
      have entered := requests world request clean ((prepare_ok prepared).1 bounds isHome)
      exact entered.trans (inductionHypothesis _ (obeys _) _ (entered.clean clean) _)

theorem runFrame_frameRun (within : evm.Within bounds)
    (requests : RunsInner bounds inner) : RunsFrames bounds (evm.runFrame inner) := by
  intro world frame gas clean isHome
  unfold runFrame
  split
  · exact .refl world
  next code =>
    exact runScript_frameRun requests (isHome code) _ (within.obeys frame) world clean gas

theorem enter_frameRun (within : evm.Within bounds) {levels : Nat}
    (below : levels ≤ callCreateDepth) : RunsInner bounds (evm.enter levels) := by
  induction levels with
  | zero =>
    intro world request clean inner
    exact .refl world
  | succ levels inductionHypothesis =>
    intro world request clean inner
    exact handle_frameRun within (runFrame_frameRun within (inductionHypothesis (by omega)))
      (by omega) clean inner

/-! ## Gas -/

def Frugal (run : World → Frame → Nat → World × Result) : Prop :=
  ∀ world frame gas, (run world frame gas).2.gas ≤ gas

theorem settle_gas (snapshot : StateDB) (world : World) (result : Result) :
    (settle snapshot world result).2.gas ≤ result.gas := by
  unfold settle
  split
  · exact le_rfl
  dsimp only
  split <;> omega

theorem execute_gas (frugal : Frugal run) (world : World) (addr : Address) (frame : Frame)
    (gas : Nat) : (evm.execute run world addr frame gas).2.gas ≤ gas := by
  unfold execute
  split
  · unfold runPrecompiledContract
    dsimp only
    split
    · exact Nat.zero_le gas
    · exact Nat.sub_le gas _
  · exact frugal world frame gas

theorem call_gas (frugal : Frugal run) (depth : Nat) (world : World) (caller addr : Address)
    (input : Bytes) (gas : Nat) (value : Int) (recharge : Option RechargeData) (readOnly : Bool) :
    (evm.call run depth world caller addr input gas value recharge readOnly).2.gas ≤ gas := by
  unfold call
  split
  · exact le_rfl
  unfold callOpened
  split
  · exact le_rfl
  split
  · exact le_rfl
  · exact (settle_gas _ _ _).trans (execute_gas frugal _ _ _ _)

theorem storeCode_gas (address : Address) (world : World) (result : Result) :
    (evm.storeCode address world result).2.gas ≤ result.gas := by
  unfold storeCode
  dsimp only
  repeat' split
  all_goals simp

theorem create_gas (frugal : Frugal run) (world : World) (caller : Address) (code : Bytes)
    (gas : Nat) (value : Int) (address : Address) (readOnly : Bool) :
    (evm.create run world caller code gas value address readOnly).2.gas ≤ gas := by
  have settled (snapshot : StateDB) (after : World) (result : Result) :
      (evm.settleCreate snapshot after result).2.gas ≤ result.gas := by
    unfold settleCreate
    split
    · exact le_rfl
    · exact settle_gas snapshot after result
  unfold create
  dsimp only
  split
  · exact le_rfl
  split
  · exact le_rfl
  split
  · exact Nat.zero_le gas
  · exact ((settled _ _ _).trans (storeCode_gas _ _ _)).trans (frugal _ _ _)

theorem handle_gas (frugal : Frugal run) (depth : Nat) (world : World) (request : Request) :
    (evm.handle run depth world request).2.gas ≤ request.gas := by
  cases request with
  | call caller addr input gas value recharge readOnly => exact call_gas frugal _ _ _ _ _ _ _ _ _
  | callCode caller addr input gas value readOnly =>
    simp only [handle, callCode, Request.gas]
    split
    · exact le_rfl
    · exact (settle_gas _ _ _).trans (execute_gas frugal _ _ _ _)
  | delegateCall parent addr input gas =>
    exact (settle_gas _ _ _).trans (execute_gas frugal _ _ _ _)
  | staticCall caller addr input gas => exact (settle_gas _ _ _).trans (execute_gas frugal _ _ _ _)
  | create caller code gas value readOnly => exact create_gas frugal _ _ _ _ _ _ _
  | create2 caller code gas value salt readOnly => exact create_gas frugal _ _ _ _ _ _ _

theorem runScript_gas
    (bounded : ∀ world request, (inner world request).2.gas ≤ request.gas) (frame : Frame)
    (script : Script) (world : World) (gas : Nat) :
    (evm.runScript inner frame script world gas).2.gas ≤ gas := by
  induction script generalizing world gas with
  | halt ret err => exact le_rfl
  | charge cost next inductionHypothesis =>
    unfold runScript
    split
    · exact le_rfl
    · exact (inductionHypothesis world _).trans (Nat.sub_le gas cost)
  | inspect next inductionHypothesis => exact inductionHypothesis _ _ world gas
  | perform op next inductionHypothesis =>
    unfold runScript
    split
    · exact le_rfl
    · exact inductionHypothesis _ gas
  | selfdestruct beneficiary =>
    unfold runScript
    split <;> exact le_rfl
  | invoke invocation next inductionHypothesis =>
    unfold runScript
    split
    · exact le_rfl
    next kept request prepared =>
      have shared := (prepare_ok prepared).2
      have returned := bounded world request
      exact (inductionHypothesis _ _ _).trans (by omega)

theorem enter_gas (levels : Nat) (world : World) (request : Request) :
    (evm.enter levels world request).2.gas ≤ request.gas := by
  induction levels generalizing world request with
  | zero => exact le_rfl
  | succ levels inductionHypothesis =>
    refine handle_gas ?_ _ world request
    intro world frame gas
    unfold runFrame
    split
    · exact le_rfl
    · exact runScript_gas inductionHypothesis frame _ world gas

end Evm

end EscSideChain.Vm
