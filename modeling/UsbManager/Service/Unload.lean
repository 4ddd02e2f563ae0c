import UsbManager.Gadget.Connection
import UsbManager.Rights.Expiry
import UsbManager.Service.Devices
import UsbManager.Service.PortTables

/-!
# Unloading

`UnLoadSelf` of `usb_service.cpp`. The service unloads itself some time after the last event that left nothing in use.
Every event of a device starts that time again or ends it, but the policies of the host manager do neither, although
they decide which devices are in use. So what the timer finds is idle as long as no policy gives a device back while it
runs. What the accessory manager makes of an event is left out.
-/

namespace UsbManager.Service

open Rights Host Gadget

/-! ## What is in use -/

/-- `UsbHostManager::GetDevices`. An ordinary caller sees no hubs and no serial numbers. -/
def getDevices (isSystemAppOrSa : Bool) (s : HostState) : List UsbDevice :=
  (s.devices.values.filter fun d => !((d.isHub && !isSystemAppOrSa) || d.authorizeStatus ≠ .enabled)).map fun d =>
    if !isSystemAppOrSa then { d with serial := "" } else d

/-- `critical` is what the memory manager was told, and `unloadedInUse` is a ghost: the unload task has run while
something was in use. -/
structure Resident where
  service : ServiceState
  gadget : UsbDeviceManager
  timers : Timers Unit
  unloadSelfTimerId : Option Nat
  critical : Bool
  unloadedInUse : Bool

/-- A device that the caller may see, or a connection of the gadget. -/
def isNotNeedUnload (isSystemAppOrSa : Bool) (s : Resident) : Bool :=
  !(getDevices isSystemAppOrSa s.service.host).isEmpty || s.gadget.gadgetConnected

/-! ## The timer -/

/-- The results of `Setup` and `Register`. -/
structure TimerEnv where
  setup : Bool
  registers : Bool

/-- `UnLoadSelf` with a delay. -/
def unLoadSelf (env : TimerEnv) (isSystemAppOrSa : Bool) (s : Resident) : Resident :=
  let s := { s with timers := s.timers.unregister? s.unloadSelfTimerId }
  if isNotNeedUnload isSystemAppOrSa s then { s with critical := true }
  else
    let s := { s with critical := false }
    if !env.setup then s
    else if !env.registers then { s with unloadSelfTimerId := none }
    else
      let (id, timers) := s.timers.register ()
      { s with unloadSelfTimerId := some id, timers := timers }

/-- What the timer finds is looked at only by the ghost. -/
def fireUnload (isSystemAppOrSa : Bool) (id : Nat) (s : Resident) : Resident :=
  match s.timers.task? id with
  | none => s
  | some _ => { s with
      timers := s.timers.unregister id
      unloadedInUse := s.unloadedInUse || isNotNeedUnload isSystemAppOrSa s }

/-! ## Events -/

structure USBDeviceInfo where
  status : UsbdDeviceAction
  busNum : UInt8
  devNum : UInt8

def actDevup : UsbdDeviceAction := .other 0

structure EventEnv where
  host : Env
  rightEnv : RightEnv
  caller : Caller
  timer : TimerEnv
  serial : SerialEnv

def isGadgetAction : UsbdDeviceAction → Bool
  | .other _ => false
  | _ => true

/-- Every event is followed by `UnLoadSelf`. -/
def deviceEvent (env : EventEnv) (isSystemAppOrSa : Bool) (info : USBDeviceInfo) (s : Resident) : Resident :=
  if isGadgetAction info.status then
    unLoadSelf env.timer isSystemAppOrSa { s with gadget := handleEvent info.status s.gadget }
  else if info.status = actDevup then
    let s := unLoadSelf env.timer isSystemAppOrSa
      { s with service := (addDevice env.host ⟨info.busNum, info.devNum⟩ s.service).2 }
    { s with service := tryStartSerial env.serial s.service }
  else
    unLoadSelf env.timer isSystemAppOrSa
      { s with service := (delDevice env.host env.rightEnv env.caller ⟨info.busNum, info.devNum⟩ s.service).2 }

/-! ## Every run -/

def isPolicy : Host.Op → Bool
  | .addDevice _ _ | .delDevice _ => false
  | _ => true

def isEvent : Gadget.Op → Bool
  | .handleEvent _ => true
  | _ => false

/-- The events, the policies, what else happens to the gadget, and the timer. The `UnLoadSelf` of `OnStart` is not a
step, so a run starts without the timer. Nor is `UsbdDeathRecipient`, which unloads the service at once, whatever is in
use, when the driver dies. -/
inductive ResidentOp
  | deviceEvent (env : EventEnv) (info : USBDeviceInfo)
  | policy (op : { op : Host.Op // isPolicy op })
  | gadget (op : { op : Gadget.Op // isEvent op = false })
  | fireUnload (id : Nat)

section

variable (isSystemAppOrSa : Bool)

def ResidentOp.step : ResidentOp → Resident → Resident
  | .deviceEvent env info, s => Service.deviceEvent env isSystemAppOrSa info s
  | .policy op, s => { s with service := { s.service with host := op.1.step s.service.host } }
  | .gadget op, s => { s with gadget := op.1.step s.gadget }
  | .fireUnload id, s => Service.fireUnload isSystemAppOrSa id s

def Resident.Counting (s : Resident) : Prop := ∃ id, s.timers.task? id = some ()

/-- No policy gives a device back while the timer runs. -/
def ResidentOp.sound : ResidentOp → Resident → Prop
  | .policy op, s => s.Counting → s.gadget.gadgetConnected = false →
    getDevices isSystemAppOrSa (op.1.step s.service.host) = []
  | _, _ => True

/-- At most the last timer runs, and only while nothing is in use. -/
structure Unloadable (s : Resident) : Prop where
  only : ∀ id, s.timers.task? id = some () → s.unloadSelfTimerId = some id
  idle : s.Counting → isNotNeedUnload isSystemAppOrSa s = false
  critical : s.Counting → s.critical = false
  unloaded : s.unloadedInUse = false

/-- Nothing is attached and no timer runs. -/
def Resident.started (s : Resident) : Prop :=
  s.service.host.devices = DeviceMap.empty ∧ s.gadget.gadgetConnected = false ∧ s.timers.Idle ∧
    s.unloadedInUse = false

variable {isSystemAppOrSa}

theorem not_counting_unregistered {s : Resident} (honly : ∀ id, s.timers.task? id = some () → s.unloadSelfTimerId = some id)
    (id : Nat) : (s.timers.unregister? s.unloadSelfTimerId).task? id = none := by
  rw [Timers.task?_unregister?]
  split
  · rfl
  · rename_i hne
    rcases htask : s.timers.task? id with - | task
    · rfl
    · exact absurd (honly id htask) hne

theorem unLoadSelf_unloadable (env : TimerEnv) {s : Resident}
    (honly : ∀ id, s.timers.task? id = some () → s.unloadSelfTimerId = some id) (hunloaded : s.unloadedInUse = false) :
    Unloadable isSystemAppOrSa (unLoadSelf env isSystemAppOrSa s) ∧
      (env.setup = true → env.registers = true →
        (isNotNeedUnload isSystemAppOrSa s = true ∨ (unLoadSelf env isSystemAppOrSa s).Counting)) := by
  have hnone := not_counting_unregistered honly
  have hsame : isNotNeedUnload isSystemAppOrSa { s with timers := s.timers.unregister? s.unloadSelfTimerId } =
      isNotNeedUnload isSystemAppOrSa s := rfl
  have hquiet : ∀ t : Resident, t.timers = s.timers.unregister? s.unloadSelfTimerId → t.unloadedInUse = false →
      Unloadable isSystemAppOrSa t := by
    intro t htimers hunloaded
    have hidle : ∀ id, t.timers.task? id = none := fun id => htimers ▸ hnone id
    refine ⟨fun id h => ?_, fun ⟨id, h⟩ => ?_, fun ⟨id, h⟩ => ?_, hunloaded⟩
    all_goals
      rw [hidle id] at h
      cases h
  unfold unLoadSelf
  dsimp only
  rw [hsame]
  by_cases huse : isNotNeedUnload isSystemAppOrSa s = true
  · rw [if_pos huse]
    exact ⟨hquiet _ rfl hunloaded, fun _ _ => .inl huse⟩
  rw [if_neg huse]
  rcases hsetup : env.setup with - | -
  · exact ⟨hquiet _ rfl hunloaded, fun h => by cases h⟩
  rcases hregisters : env.registers with - | -
  · exact ⟨hquiet _ rfl hunloaded, fun _ h => by cases h⟩
  have hnext := Timers.task?_register () (s.timers.unregister? s.unloadSelfTimerId)
  refine ⟨⟨fun id h => ?_, fun _ => ?_, fun _ => rfl, hunloaded⟩, fun _ _ => .inr ⟨s.timers.next, ?_⟩⟩
  · simp only [Bool.not_true, Bool.false_eq_true, if_false] at h ⊢
    rw [hnext] at h
    split at h
    · rename_i hid
      rw [hid]
      rfl
    · rw [hnone id] at h
      cases h
  · exact Bool.eq_false_iff.mpr huse
  · simp only [Bool.not_true, Bool.false_eq_true, if_false]
    rw [hnext, Timers.next_unregister?, if_pos rfl]

theorem isNotNeedUnload_unLoadSelf (env : TimerEnv) (s : Resident) :
    isNotNeedUnload isSystemAppOrSa (unLoadSelf env isSystemAppOrSa s) = isNotNeedUnload isSystemAppOrSa s := by
  unfold unLoadSelf
  dsimp only
  split
  · rfl
  split
  · rfl
  split <;> rfl

theorem tryStartSerial_host (env : SerialEnv) (s : ServiceState) : (tryStartSerial env s).host = s.host := by
  unfold tryStartSerial startSerial
  split
  · split <;> rfl
  · rfl

theorem deviceEvent_unloadable (env : EventEnv) (info : USBDeviceInfo) {s : Resident}
    (h : Unloadable isSystemAppOrSa s) :
    Unloadable isSystemAppOrSa (deviceEvent env isSystemAppOrSa info s) ∧
      (env.timer.setup = true → env.timer.registers = true →
        (isNotNeedUnload isSystemAppOrSa (deviceEvent env isSystemAppOrSa info s) = true ∨
          (deviceEvent env isSystemAppOrSa info s).Counting)) := by
  have hunload : ∀ t : Resident, t.timers = s.timers → t.unloadSelfTimerId = s.unloadSelfTimerId →
      t.unloadedInUse = s.unloadedInUse → Unloadable isSystemAppOrSa (unLoadSelf env.timer isSystemAppOrSa t) ∧
        (env.timer.setup = true → env.timer.registers = true →
          (isNotNeedUnload isSystemAppOrSa (unLoadSelf env.timer isSystemAppOrSa t) = true ∨
            (unLoadSelf env.timer isSystemAppOrSa t).Counting)) := by
    intro t htimers hid hunloaded
    rw [isNotNeedUnload_unLoadSelf]
    refine unLoadSelf_unloadable env.timer ?_ (hunloaded.trans h.unloaded)
    rw [htimers, hid]
    exact h.only
  unfold deviceEvent
  split
  · exact hunload _ rfl rfl rfl
  split
  · obtain ⟨hkept, hruns⟩ := hunload
      { s with service := (addDevice env.host ⟨info.busNum, info.devNum⟩ s.service).2 } rfl rfl rfl
    simp only [isNotNeedUnload] at hruns
    have hidle := hkept.idle
    simp only [isNotNeedUnload] at hidle
    refine ⟨⟨hkept.only, ?_, hkept.critical, hkept.unloaded⟩, ?_⟩
    all_goals simp only [isNotNeedUnload, tryStartSerial_host]
    · exact hidle
    · exact hruns
  · exact hunload _ rfl rfl rfl

theorem gadget_step_connected (op : Gadget.Op) (hop : isEvent op = false) (m : UsbDeviceManager) :
    (op.step m).gadgetConnected = m.gadgetConnected := by
  cases op with
  | handleEvent status => cases hop
  | fire hdi id =>
    unfold Gadget.Op.step fire
    dsimp only
    split
    · rfl
    · exact (runTask_same hdi _ _).1.gadgetConnected
  | setCurrentFunctions hdi funcs => exact (setCurrentFunctions_same hdi funcs m).1.gadgetConnected
  | setPhyConnectState phyConnect => rfl
  | setChargeFlag isReverseCharge => rfl

theorem fireUnload_unloadable (id : Nat) {s : Resident} (h : Unloadable isSystemAppOrSa s) :
    Unloadable isSystemAppOrSa (fireUnload isSystemAppOrSa id s) := by
  unfold fireUnload
  split
  · exact h
  · rename_i htask
    have hsub : ∀ id', (s.timers.unregister id).task? id' = some () → s.timers.task? id' = some () := by
      intro id' h'
      rw [Timers.task?_unregister] at h'
      split at h'
      · cases h'
      · exact h'
    refine ⟨fun id' h' => h.only id' (hsub id' h'), fun ⟨id', h'⟩ => h.idle ⟨id', hsub id' h'⟩,
      fun ⟨id', h'⟩ => h.critical ⟨id', hsub id' h'⟩, ?_⟩
    simp [h.unloaded, h.idle ⟨id, htask⟩]

theorem ResidentOp.step_unloadable_iff (op : ResidentOp) (s : Resident) (h : Unloadable isSystemAppOrSa s) :
    Unloadable isSystemAppOrSa (op.step isSystemAppOrSa s) ↔ op.sound isSystemAppOrSa s := by
  cases op with
  | deviceEvent env info => exact ⟨fun _ => trivial, fun _ => (deviceEvent_unloadable env info h).1⟩
  | fireUnload id => exact ⟨fun _ => trivial, fun _ => fireUnload_unloadable id h⟩
  | gadget op =>
    have hsame : isNotNeedUnload isSystemAppOrSa (ResidentOp.step isSystemAppOrSa (.gadget op) s) =
        isNotNeedUnload isSystemAppOrSa s := by
      simp only [ResidentOp.step, isNotNeedUnload, gadget_step_connected op.1 op.2]
    exact ⟨fun _ => trivial, fun _ => ⟨h.only, fun hc => hsame.trans (h.idle hc), h.critical, h.unloaded⟩⟩
  | policy op =>
    have hconnected : s.Counting → s.gadget.gadgetConnected = false := fun hc =>
      (Bool.or_eq_false_iff.mp (h.idle hc)).2
    constructor
    · intro h' hc _
      simpa [ResidentOp.step] using (Bool.or_eq_false_iff.mp (h'.idle hc)).1
    · intro hsound
      refine ⟨h.only, fun hc => Bool.or_eq_false_iff.mpr ⟨?_, hconnected hc⟩, h.critical, h.unloaded⟩
      simpa [ResidentOp.step] using hsound hc (hconnected hc)

end

theorem Resident.started_unloadable (isSystemAppOrSa : Bool) (s : Resident) (h : s.started) :
    Unloadable isSystemAppOrSa s := by
  obtain ⟨-, -, hidle, hunloaded⟩ := h
  refine ⟨fun id h => ?_, fun ⟨id, h⟩ => ?_, fun ⟨id, h⟩ => ?_, hunloaded⟩
  all_goals
    rw [hidle id] at h
    cases h

def atStart : Resident := ⟨justStarted, UsbDeviceManager.new true functionHdc, Timers.new, none, false, false⟩

def plugEvent : EventEnv where
  host := plugged 7
  rightEnv := expiryDay
  caller := ⟨1, true, none⟩
  timer := ⟨true, true⟩
  serial := ⟨false, false, (.ok, [])⟩

def pluggedThenUnplugged : Resident :=
  (ResidentOp.deviceEvent plugEvent ⟨.other 1, 1, 2⟩).step true
    ((ResidentOp.deviceEvent plugEvent ⟨actDevup, 1, 2⟩).step true atStart)

/-- Disabled, the device does not count when the gadget goes; enabled again, it is unloaded with the service. -/
example :
    ([.deviceEvent plugEvent ⟨actDevup, 1, 2⟩, .policy ⟨.manageDevice (plugged 7) 7 1 true, rfl⟩,
      .deviceEvent plugEvent ⟨.downdevice, 0, 0⟩, .policy ⟨.manageDevice (plugged 7) 7 1 false, rfl⟩,
      .fireUnload 0].foldl (fun s op => ResidentOp.step true op s) atStart).unloadedInUse = true := by
  decide +kernel

end UsbManager.Service
