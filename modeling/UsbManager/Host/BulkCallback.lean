import Mathlib.Logic.Function.Basic
import UsbManager.Lib.Run
import UsbManager.Types

/-!
# Bulk callbacks

`RegBulkCallback` and `UnRegBulkCallback` of `usb_host_manager.cpp`, and the callback object of
`usbd_bulkcallback_impl.cpp`. Registrations are per pipe, but the manager keeps one callback object
for all clients and all pipes. HDI keeps the object that was last registered for a pipe until it is
unregistered.
-/

namespace UsbManager.Host

/-- `HDI::Usb::V1_0::UsbPipe`. -/
structure UsbPipe where
  intfId : UInt8
  endpointId : UInt8
  deriving DecidableEq, Repr

/-! ## The callback object -/

/-- The object that is registered at HDI, with the client that it calls. -/
structure UsbdBulkCallbackImpl (ρ : Type) where
  remote : Option ρ
  deriving DecidableEq, Repr

inductive BulkCommand
  | write
  | read
  deriving DecidableEq, Repr

structure BulkMessage (ρ : Type) where
  remote : ρ
  code : BulkCommand
  status : Int
  actLength : Int
  deriving DecidableEq, Repr

/-- What the calls of the IPC layer return during one callback. -/
structure Ipc where
  writeInterfaceToken : Bool
  writeStatus : Bool
  writeActLength : Bool
  sendRequest : Ret

variable {ρ : Type}

/-- The second component is the message that was handed to `SendRequest`. -/
def onBulkCallback (code : BulkCommand) (ipc : Ipc) (impl : UsbdBulkCallbackImpl ρ) (status actLength : Int) :
    Ret × Option (BulkMessage ρ) :=
  match impl.remote with
  | none => (.uec .serviceInvalidValue, none)
  | some remote =>
    if !ipc.writeInterfaceToken then (.uec .serviceInvalidValue, none)
    else if !ipc.writeStatus then (.uec .serviceInvalidValue, none)
    else if !ipc.writeActLength then (.uec .serviceInvalidValue, none)
    else (ipc.sendRequest, some ⟨remote, code, status, actLength⟩)

def onBulkWriteCallback (ipc : Ipc) (impl : UsbdBulkCallbackImpl ρ) (status actLength : Int) :
    Ret × Option (BulkMessage ρ) :=
  onBulkCallback .write ipc impl status actLength

def onBulkReadCallback (ipc : Ipc) (impl : UsbdBulkCallbackImpl ρ) (status actLength : Int) :
    Ret × Option (BulkMessage ρ) :=
  onBulkCallback .read ipc impl status actLength

def Ipc.writes (ipc : Ipc) : Bool := ipc.writeInterfaceToken && ipc.writeStatus && ipc.writeActLength

/-- Completions of both kinds go to `remote`, if they can be written. -/
structure UsbdBulkCallbackImpl.ForwardsTo (impl : UsbdBulkCallbackImpl ρ) (remote : ρ) : Prop where
  write : ∀ ipc status actLength, (onBulkWriteCallback ipc impl status actLength).2 =
    if ipc.writes then some ⟨remote, .write, status, actLength⟩ else none
  read : ∀ ipc status actLength, (onBulkReadCallback ipc impl status actLength).2 =
    if ipc.writes then some ⟨remote, .read, status, actLength⟩ else none

theorem onBulkCallback_snd (code : BulkCommand) (ipc : Ipc) (impl : UsbdBulkCallbackImpl ρ) (status actLength : Int) :
    (onBulkCallback code ipc impl status actLength).2 =
      if ipc.writes then impl.remote.map (⟨·, code, status, actLength⟩) else none := by
  unfold onBulkCallback Ipc.writes
  obtain ⟨token, st, len, send⟩ := ipc
  rcases impl.remote with - | remote
  · simp
  · cases token <;> cases st <;> cases len <;> simp

theorem forwardsTo_iff (impl : UsbdBulkCallbackImpl ρ) (remote : ρ) :
    impl.ForwardsTo remote ↔ impl.remote = some remote := by
  constructor
  · intro h
    have hsent := h.write ⟨true, true, true, .ok⟩ 0 0
    rw [onBulkWriteCallback, onBulkCallback_snd] at hsent
    obtain ⟨r, hr, hmsg⟩ := Option.map_eq_some_iff.mp hsent
    rw [hr, (BulkMessage.mk.inj hmsg).1]
  · intro h
    constructor
    all_goals
      intro ipc status actLength
      first
      | rw [onBulkWriteCallback, onBulkCallback_snd, h]
      | rw [onBulkReadCallback, onBulkCallback_snd, h]
      rfl

/-! ## The manager -/

/-- `hdiCb` is the member `hdiCb_`, `registered` is what HDI holds. -/
structure BulkState (ρ : Type) where
  hdiCb : Option (UsbdBulkCallbackImpl ρ)
  registered : UsbDev × UsbPipe → Option (UsbdBulkCallbackImpl ρ)

/-- `hdi` is the answer of HDI, `none` if there is no interface. The object is made before the
interface is looked at. -/
def regBulkCallback (hdi : Option Ret) (devInfo : UsbDev) (pipe : UsbPipe) (cb : Option ρ) (s : BulkState ρ) :
    Ret × BulkState ρ :=
  match cb with
  | none => (.uec .serviceInvalidValue, s)
  | some remote =>
    let impl := s.hdiCb.getD ⟨some remote⟩
    let s := { s with hdiCb := some impl }
    match hdi with
    | none => (.uec .serviceInvalidValue, s)
    | some .ok => (.ok, { s with registered := Function.update s.registered (devInfo, pipe) (some impl) })
    | some ret => (ret, s)

/-- The object of all pipes is dropped, whatever HDI answers. -/
def unRegBulkCallback (hdi : Option Ret) (devInfo : UsbDev) (pipe : UsbPipe) (s : BulkState ρ) : Ret × BulkState ρ :=
  match hdi with
  | none => (.uec .serviceInvalidValue, s)
  | some .ok => (.ok, ⟨none, Function.update s.registered (devInfo, pipe) none⟩)
  | some ret => (ret, { s with hdiCb := none })

end UsbManager.Host

namespace UsbManager.Service

open Host

variable {ρ : Type}

/-! ## The service -/

/-- The address of an endpoint is cut to eight bits. -/
def pipeOf (ep : USBEndpoint) : UsbPipe := ⟨ep.interfaceId, ep.address.toUInt8⟩

/-- `permitted` is the result of `CheckDevicePermission`. -/
def regBulkCallback (permitted : Bool) (hdi : Option Ret) (busNum devAddr : UInt8) (ep : USBEndpoint)
    (cb : Option ρ) (s : BulkState ρ) : Ret × BulkState ρ :=
  if !permitted then (.uec .servicePermissionDenied, s)
  else Host.regBulkCallback hdi ⟨busNum, devAddr⟩ (pipeOf ep) cb s

def unRegBulkCallback (permitted : Bool) (hdi : Option Ret) (busNum devAddr : UInt8) (ep : USBEndpoint)
    (s : BulkState ρ) : Ret × BulkState ρ :=
  if !permitted then (.uec .servicePermissionDenied, s)
  else Host.unRegBulkCallback hdi ⟨busNum, devAddr⟩ (pipeOf ep) s

/-! ## Runs -/

inductive BulkOp (ρ : Type)
  | reg (permitted : Bool) (hdi : Option Ret) (busNum devAddr : UInt8) (ep : USBEndpoint) (cb : Option ρ)
  | unReg (permitted : Bool) (hdi : Option Ret) (busNum devAddr : UInt8) (ep : USBEndpoint)

def BulkOp.call : BulkOp ρ → BulkState ρ → Ret × BulkState ρ
  | .reg permitted hdi busNum devAddr ep cb => regBulkCallback permitted hdi busNum devAddr ep cb
  | .unReg permitted hdi busNum devAddr ep => unRegBulkCallback permitted hdi busNum devAddr ep

/-- The state, and the calls so far with their results. -/
structure BulkRun (ρ : Type) where
  state : BulkState ρ
  log : List (BulkOp ρ × Ret)

def BulkOp.step (op : BulkOp ρ) (run : BulkRun ρ) : BulkRun ρ :=
  ⟨(op.call run.state).2, (op, (op.call run.state).1) :: run.log⟩

def BulkRun.init (run : BulkRun ρ) : Prop := run.state = ⟨none, fun _ => none⟩ ∧ run.log = []

/-- The remote object of a registration that succeeded for this pipe. -/
def BulkOp.registers (slot : UsbDev × UsbPipe) : BulkOp ρ × Ret → Option ρ
  | (.reg _ _ busNum devAddr ep cb, .ok) => if (⟨busNum, devAddr⟩, pipeOf ep) = slot then cb else none
  | _ => none

def lastRegistered (slot : UsbDev × UsbPipe) (log : List (BulkOp ρ × Ret)) : Option ρ :=
  log.findSome? (BulkOp.registers slot)

/-- The object that HDI has for a pipe calls the client that registered last for it. -/
def BulkRun.Routed (run : BulkRun ρ) : Prop :=
  ∀ slot impl, run.state.registered slot = some impl →
    ∃ remote, lastRegistered slot run.log = some remote ∧ impl.ForwardsTo remote

/-- A registration that HDI accepts finds no callback object, or one of the same client. -/
def BulkOp.sound (op : BulkOp ρ) (run : BulkRun ρ) : Prop :=
  match op with
  | .reg true (some .ok) _ _ _ (some remote) => ∀ impl, run.state.hdiCb = some impl → impl.remote = some remote
  | _ => True

theorem BulkOp.call_cases (op : BulkOp ρ) (run : BulkRun ρ) :
    (op.sound run ∧ (∀ slot, registers slot (op, (op.call run.state).1) = none) ∧
      ∀ slot impl, (op.call run.state).2.registered slot = some impl → run.state.registered slot = some impl) ∨
    ∃ key remote, (∀ slot, registers slot (op, (op.call run.state).1) = if key = slot then some remote else none) ∧
      (op.call run.state).2.registered =
        Function.update run.state.registered key (some (run.state.hdiCb.getD ⟨some remote⟩)) ∧
      (op.sound run ↔ ∀ impl, run.state.hdiCb = some impl → impl.remote = some remote) := by
  rcases op with ⟨permitted, hdi, busNum, devAddr, ep, cb⟩ | ⟨permitted, hdi, busNum, devAddr, ep⟩
  · rcases permitted with - | -
    · exact .inl ⟨trivial, fun _ => rfl, fun _ _ h => h⟩
    rcases cb with - | remote
    · exact .inl ⟨by rcases hdi with - | - | e | code <;> trivial, fun _ => rfl, fun _ _ h => h⟩
    rcases hdi with - | - | e | code
    · exact .inl ⟨trivial, fun _ => rfl, fun _ _ h => h⟩
    · exact .inr ⟨(⟨busNum, devAddr⟩, pipeOf ep), remote, fun _ => rfl, rfl, Iff.rfl⟩
    · exact .inl ⟨trivial, fun _ => rfl, fun _ _ h => h⟩
    · exact .inl ⟨trivial, fun _ => rfl, fun _ _ h => h⟩
  · refine .inl ⟨trivial, fun _ => rfl, fun slot impl h => ?_⟩
    rcases permitted with - | -
    · exact h
    rcases hdi with - | - | e | code
    · exact h
    · -- HDI dropped the object of this pipe and kept the others.
      rcases eq_or_ne slot (⟨busNum, devAddr⟩, pipeOf ep) with rfl | hne
      · simp [BulkOp.call, unRegBulkCallback, Host.unRegBulkCallback] at h
      · simpa [BulkOp.call, unRegBulkCallback, Host.unRegBulkCallback, hne] using h
    · exact h
    · exact h

theorem lastRegistered_cons (slot : UsbDev × UsbPipe) (e : BulkOp ρ × Ret) (log : List (BulkOp ρ × Ret)) :
    lastRegistered slot (e :: log) = (BulkOp.registers slot e).or (lastRegistered slot log) := by
  unfold lastRegistered
  rw [List.findSome?_cons]
  cases BulkOp.registers slot e <;> rfl

theorem BulkOp.step_routed_iff (op : BulkOp ρ) (run : BulkRun ρ) (hrun : run.Routed) :
    (op.step run).Routed ↔ op.sound run := by
  obtain ⟨hsound, hnone, hkept⟩ | ⟨key, remote, hreg, hstate, hsound⟩ := op.call_cases run
  · refine ⟨fun _ => hsound, fun _ slot impl himpl => ?_⟩
    obtain ⟨r, hlast, hforward⟩ := hrun slot impl (hkept slot impl himpl)
    refine ⟨r, ?_, hforward⟩
    simp only [BulkOp.step, lastRegistered_cons, hnone, Option.none_or]
    exact hlast
  · rw [hsound]
    constructor
    · intro h impl himpl
      have hheld : (op.step run).state.registered key = some impl := by
        simp [BulkOp.step, hstate, himpl]
      obtain ⟨r, hlast, hforward⟩ := h key impl hheld
      simp only [BulkOp.step, lastRegistered_cons, hreg, if_true, Option.some_or, Option.some.injEq] at hlast
      rw [hlast]
      exact (forwardsTo_iff impl r).mp hforward
    · intro h slot impl himpl
      simp only [BulkOp.step, hstate] at himpl
      simp only [BulkOp.step, lastRegistered_cons, hreg]
      rcases eq_or_ne slot key with rfl | hne
      · simp only [Function.update_self, Option.some.injEq] at himpl
        refine ⟨remote, by simp, (forwardsTo_iff impl remote).mpr ?_⟩
        rcases hcb : run.state.hdiCb with - | cached
        · simp [← himpl, hcb]
        · rw [← himpl, hcb]
          exact h cached hcb
      · rw [Function.update_of_ne hne] at himpl
        simp only [hne.symm, if_false, Option.none_or]
        exact hrun slot impl himpl

theorem routed_init (run : BulkRun ρ) (h : run.init) : run.Routed := by
  intro slot impl himpl
  rw [h.1] at himpl
  cases himpl

/-- In every run of sound calls completions go to the client that registered last for the pipe, and
the first call that is not sound breaks this. -/
theorem bulk_completions_routed (run : BulkRun ρ) (h : Run.Reachable BulkRun.init BulkOp.step BulkOp.sound run) :
    run.Routed ∧ ∀ op : BulkOp ρ, ¬ op.sound run → ¬ (op.step run).Routed :=
  h.exact routed_init fun op run hr => op.step_routed_iff run hr

def noCalls : BulkRun String := ⟨⟨none, fun _ => none⟩, []⟩

def registerAt (endpoint : UInt32) (client : String) : BulkOp String :=
  .reg true (some .ok) 1 2 { address := endpoint, interfaceId := 0 } (some client)

theorem bulk_completions_routed_one_client :
    ((registerAt 0x81 "A").step ((registerAt 0x01 "A").step noCalls)).Routed := by
  have hfirst : Run.Reachable BulkRun.init BulkOp.step BulkOp.sound ((registerAt 0x01 "A").step noCalls) :=
    .step _ (.init ⟨rfl, rfl⟩) fun _ h => by cases h
  refine (bulk_completions_routed _ (.step _ hfirst ?_)).1
  rintro impl ⟨⟩
  rfl

/-- The completions of the second client go to the first. -/
theorem bulk_completions_misrouted :
    let run := (registerAt 0x81 "B").step ((registerAt 0x01 "A").step noCalls)
    Run.Reachable BulkRun.init BulkOp.step (fun _ _ => True) run ∧ ¬ run.Routed := by
  intro run
  refine ⟨.step _ (.step _ (.init ⟨rfl, rfl⟩) trivial) trivial, fun h => ?_⟩
  have hheld : run.state.registered (⟨1, 2⟩, ⟨0, 0x81⟩) = some ⟨some "A"⟩ := by decide +kernel
  have hlast : lastRegistered (⟨1, 2⟩, ⟨0, 0x81⟩) run.log = some "B" := by decide +kernel
  obtain ⟨remote, hremote, hforward⟩ := h _ _ hheld
  rw [hlast, Option.some.injEq] at hremote
  subst hremote
  exact absurd ((forwardsTo_iff _ _).mp hforward) (by decide)

end UsbManager.Service
