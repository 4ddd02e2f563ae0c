import UsbManager.Gadget.Requests
import UsbManager.Host.Notification
import UsbManager.Lib.Simulation
import UsbManager.Port.Manager

/-!
# One notification for everything

The host manager, the device manager and the port manager share the one notification of `usb_connection_notifier.cpp`.
Attached devices show the text of reverse charging, and so does a connection as a gadget that charges the other side; a
cancellation goes by the text.
-/

namespace UsbManager.Port

/-! ## Roles of a port -/

def cmdIndex : Int := 1

def defaultRoleHost : Int := 1

/-- The port gives power. -/
def isReverseCharge (m : UsbPortManager) : Bool :=
  match m.portMap.find? cmdIndex with
  | none => false
  | some port => port.usbPortStatus.currentPowerRole = defaultRoleHost

def usbFuncCharge : String := "USB_func_charge_notifier"

/-- The text that is sent after HDI has set the roles. The ports are still those from before: their change comes as
an event of its own. -/
def setPortRole (usbPortInterface : Bool) (hdi : Int → Int → Int → Ret) (portId powerRole dataRole : Int)
    (m : UsbPortManager) : Ret × Option String :=
  if !usbPortInterface then (.uec .serviceInvalidValue, none)
  else
    let ret := hdi portId powerRole dataRole
    if ret ≠ .ok then (ret, none)
    else (.ok, some (if isReverseCharge m then Host.usbFuncReverseCharge else usbFuncCharge))

end UsbManager.Port

namespace UsbManager.Service

open Gadget Host

/-! ## The managers and their notifier -/

/-- The managers that call the notifier, and the notifier. -/
structure Phone (ι : Type) where
  host : Broadcasting ι
  manager : UsbDeviceManager
  ports : Port.UsbPortManager
  notifier : UsbConnectionNotifier

/-- What the managers may be told. -/
inductive PhoneStep (ι : Type)
  | broadcast (op : Broadcast ι)
  | manage (op : FunctionOp)
  | ports (op : Port.Op)
  | setPortRole (usbPortInterface : Bool) (hdi : Int → Int → Int → Ret) (portId powerRole dataRole : Int)
  | userChangeProcess (hdi : FunctionHdi)

section

variable (supportedFuncStr : String)

def call : NotifierCall → UsbConnectionNotifier → UsbConnectionNotifier
  | .send func => sendNotification supportedFuncStr func
  | .cancel isHost => cancelNotification isHost

variable {ι : Type}

/-- The notifier is called as the step asks for it. -/
def Phone.manage (op : FunctionOp) (p : Phone ι) : Phone ι :=
  { p with
    manager := op.step p.manager
    notifier := (op.calls p.manager).foldl (fun n c => call supportedFuncStr c n) p.notifier }

variable [DecidableEq ι]

/-- A change of the user takes the flag of the device manager from the ports first. -/
def PhoneStep.run : PhoneStep ι → Phone ι → Phone ι
  | .broadcast op, p =>
    { p with
      host := op.step p.host
      notifier := ((op.step p.host).host.trace.drop p.host.host.trace.length).foldl
        (UsbConnectionNotifier.react supportedFuncStr) p.notifier }
  | .manage op, p => p.manage supportedFuncStr op
  | .ports op, p => { p with ports := op.step p.ports }
  | .setPortRole usbPortInterface hdi portId powerRole dataRole, p =>
    { p with
      notifier := (Port.setPortRole usbPortInterface hdi portId powerRole dataRole p.ports).2.elim p.notifier
        fun func => sendNotification supportedFuncStr func p.notifier }
  | .userChangeProcess hdi, p =>
    (p.manage supportedFuncStr (.line (.setChargeFlag (Port.isReverseCharge p.ports)))).manage supportedFuncStr
      (.userChangeProcess hdi)

/-! ## What the notification stands for -/

variable (notified : ι → Bool)

def SomeAttached (b : Broadcasting ι) : Prop := ∃ i, notified i = true ∧ b.last i = some .attached

/-- The text on the screen is that of a connection, or that of reverse charging for an attached device. -/
def Phone.Stands (p : Phone ι) : Prop :=
  p.notifier.lastFunc ≠ "" →
    p.manager.connected = true ∨ p.notifier.lastFunc = usbFuncReverseCharge ∧ SomeAttached notified p.host

/-- The broadcasts of a device all say the same about its class. -/
def PhoneStep.consistent : PhoneStep ι → Prop
  | .broadcast op => hasNotification op.d = notified op.id
  | _ => True

/-- A cancellation of the device manager, which leaves the text of reverse charging alone, finds it for an attached
device only. -/
def Phone.cancels (op : FunctionOp) (p : Phone ι) : Prop :=
  .cancel false ∈ op.calls p.manager → p.notifier.lastFunc = usbFuncReverseCharge → SomeAttached notified p.host

/-- Roles are set while the gadget is connected, or for an attached device that is being charged, and a gadget that is
disconnected leaves no text of reverse charging without a device. -/
def PhoneStep.sound : PhoneStep ι → Phone ι → Prop
  | .manage op, p => p.cancels notified op
  | .setPortRole usbPortInterface hdi portId powerRole dataRole, p =>
    (Port.setPortRole usbPortInterface hdi portId powerRole dataRole p.ports).1 = .ok →
      0 < Host.getSupportedFunctions supportedFuncStr →
      p.manager.connected = true ∨ Port.isReverseCharge p.ports = true ∧ SomeAttached notified p.host
  | .userChangeProcess hdi, p =>
    (p.manage supportedFuncStr (.line (.setChargeFlag (Port.isReverseCharge p.ports)))).cancels notified
      (.userChangeProcess hdi)
  | _, _ => True

omit [DecidableEq ι] in
theorem Phone.Stands.manage_iff {p : Phone ι} (h : p.Stands notified) (op : FunctionOp) :
    (p.manage supportedFuncStr op).Stands notified ↔ p.cancels notified op := by
  unfold Phone.Stands at h
  unfold Phone.Stands Phone.cancels Phone.manage
  dsimp only
  rcases op.calls_cases p.manager with ⟨hnone, hconnected⟩ | ⟨func, hcall⟩
  · rw [hnone, hconnected]
    simpa using h
  · rcases hconnected : (op.step p.manager).connected with - | -
    · -- A cancellation that is not the host's leaves the text of reverse charging alone.
      rw [hcall, hconnected]
      rcases Classical.em (p.notifier.lastFunc = usbFuncReverseCharge) with hreverse | hother
      · simp [call, cancelNotification, hreverse, usbFuncReverseCharge]
      · simp [call, cancelNotification, hother]
    · simp [hcall, hconnected]

omit [DecidableEq ι] in
theorem Phone.Stands.send_iff {p : Phone ι} (h : p.Stands notified) (func : String) (hfunc : func ≠ "") :
    ({ p with notifier := sendNotification supportedFuncStr func p.notifier } : Phone ι).Stands notified ↔
      (0 < Host.getSupportedFunctions supportedFuncStr → p.manager.connected = true ∨
        func = usbFuncReverseCharge ∧ SomeAttached notified p.host) := by
  unfold Phone.Stands at h ⊢
  dsimp only
  by_cases hsupported : 0 < Host.getSupportedFunctions supportedFuncStr
  · rw [sendNotification_lastFunc _ hsupported]
    simp [hfunc, hsupported]
  · have hsame : (sendNotification supportedFuncStr func p.notifier).lastFunc = p.notifier.lastFunc := by
      unfold sendNotification
      rw [if_pos (by simpa using hsupported)]
    rw [hsame]
    exact iff_of_true h fun hpos => absurd hpos hsupported

theorem broadcast_notifier (op : Broadcast ι) (b : Broadcasting ι) (n : UsbConnectionNotifier) :
    ((op.step b).host.trace.drop b.host.trace.length).foldl (UsbConnectionNotifier.react supportedFuncStr) n =
      if hasNotification op.d then
        if op.event = .attached then sendNotification supportedFuncStr usbFuncReverseCharge n
        else cancelNotification true n
      else n := by
  unfold Broadcast.step publishCommonEvent hasNotification
  rcases op.d.isHub with - | - <;> rcases isAudioDevice op.d with - | - <;> rcases op.event with - | - <;>
    simp [HostState.emit, UsbConnectionNotifier.react]

theorem Phone.Stands.broadcast {p : Phone ι} (h : p.Stands notified) {op : Broadcast ι}
    (hop : hasNotification op.d = notified op.id) :
    ((PhoneStep.broadcast op).run supportedFuncStr p).Stands notified := by
  unfold Phone.Stands at h ⊢
  simp only [PhoneStep.run, broadcast_notifier]
  split
  · rename_i hshown
    have hid : notified op.id = true := hop ▸ hshown
    split
    · rename_i hattached
      have hsome : SomeAttached notified (op.step p.host) := by
        refine ⟨op.id, hid, ?_⟩
        simp [Broadcast.step, hattached]
      intro hne
      unfold sendNotification at hne ⊢
      dsimp only at hne ⊢
      split_ifs at hne ⊢
      · exact (h hne).imp_right fun hreverse => ⟨hreverse.1, hsome⟩
      · exact .inr ⟨rfl, hsome⟩
    · intro hne
      unfold cancelNotification at hne ⊢
      by_cases hreverse : p.notifier.lastFunc = usbFuncReverseCharge
      · simp [hreverse] at hne
      · simp only [hreverse, ne_eq, not_false_eq_true, decide_true, Bool.and_self, Bool.true_or, if_true] at hne ⊢
        exact .inl ((h hne).resolve_right fun hboth => hreverse hboth.1)
  · rename_i hhidden
    intro hne
    refine (h hne).imp_right ?_
    rintro ⟨hreverse, i, hi, hlast⟩
    refine ⟨hreverse, i, hi, ?_⟩
    have hother : i ≠ op.id := by
      rintro rfl
      exact hhidden (hop.trans hi)
    simpa [Broadcast.step, Function.update_of_ne hother] using hlast

/-! ## Runs -/

theorem PhoneStep.stands_iff {p : Phone ι} (h : p.Stands notified) {step : PhoneStep ι}
    (hstep : step.consistent notified) :
    (step.run supportedFuncStr p).Stands notified ↔ step.sound supportedFuncStr notified p := by
  cases step with
  | broadcast op => exact iff_of_true (h.broadcast supportedFuncStr notified hstep) trivial
  | manage op => exact h.manage_iff supportedFuncStr notified op
  | ports op => exact iff_of_true h trivial
  | setPortRole usbPortInterface hdi portId powerRole dataRole =>
    simp only [PhoneStep.run, PhoneStep.sound, Port.setPortRole]
    split_ifs with hnull hret hreverse
    · exact iff_of_true h (by simp)
    · exact iff_of_true h fun hok => absurd hok hret
    · simpa [hreverse] using h.send_iff supportedFuncStr notified usbFuncReverseCharge (by decide)
    · simpa [hreverse, Port.usbFuncCharge, usbFuncReverseCharge] using
        h.send_iff supportedFuncStr notified Port.usbFuncCharge (by decide)
  | userChangeProcess hdi =>
    have hflag := (h.manage_iff supportedFuncStr notified
      (.line (.setChargeFlag (Port.isReverseCharge p.ports)))).mpr (by simp [Phone.cancels, FunctionOp.calls,
        FunctionOp.step, Gadget.Op.step])
    exact hflag.manage_iff supportedFuncStr notified _

def Phone.Blank (p : Phone ι) : Prop := p.notifier.lastFunc = ""

/-- In every run of sound steps a notification stands for a connection or for an attached device. The first step that
is not sound leaves one behind without a connection, and it is not the text of reverse charging for an attached
device. -/
theorem notification_has_cause {p : Phone ι} (h : Run.Reachable Phone.Blank (PhoneStep.run supportedFuncStr)
      (fun step p => step.consistent notified ∧ step.sound supportedFuncStr notified p) p) :
    (p.notifier.lastFunc ≠ "" → p.manager.connected = true ∨ SomeAttached notified p.host) ∧
    ∀ step : PhoneStep ι, step.consistent notified → ¬ step.sound supportedFuncStr notified p →
      (step.run supportedFuncStr p).notifier.lastFunc ≠ "" ∧
      (step.run supportedFuncStr p).manager.connected = false ∧
      ¬ ((step.run supportedFuncStr p).notifier.lastFunc = usbFuncReverseCharge ∧
        SomeAttached notified (step.run supportedFuncStr p).host) := by
  have hstands : p.Stands notified := by
    apply h.invariant (I := fun p => p.Stands notified)
    · intro p hp hne
      exact absurd hp hne
    · intro step p hstep hp
      exact (PhoneStep.stands_iff supportedFuncStr notified hp hstep.1).mpr hstep.2
  refine ⟨fun hne => (hstands hne).imp_right And.right, fun step hstep hnot => ?_⟩
  have hbroken := mt (PhoneStep.stands_iff supportedFuncStr notified hstands hstep).mp hnot
  unfold Phone.Stands at hbroken
  push Not at hbroken
  obtain ⟨hne, hconnected, hnone⟩ := hbroken
  exact ⟨hne, by simpa using hconnected, fun hboth => hnone hboth.1 hboth.2⟩

end

/-- The phone charges the other side, and the line comes up. -/
def chargingRun : List (PhoneStep UsbDev) :=
  [.manage (.line (.setChargeFlag true)), .manage (.line (.handleEvent .updevice)),
    .manage (.line (.fire ⟨.ok, fun _ => .ok⟩ 0)), .manage (.line (.handleEvent .downdevice))]

def idlePhone : Phone UsbDev :=
  ⟨⟨HostState.init, fun _ => none⟩, .new true functionStorage, .new, ⟨0, ""⟩⟩

def disconnectStep : PhoneStep UsbDev := .manage (.line (.fire ⟨.ok, fun _ => .ok⟩ 1))

/-- The connection goes down again, and the text of reverse charging stays. -/
theorem notification_has_cause_charging :
    let p := chargingRun.foldl (fun p step => step.run "mtp" p) idlePhone
    p.manager.connected = true ∧ (disconnectStep.run "mtp" p).notifier.lastFunc ≠ "" ∧
      (disconnectStep.run "mtp" p).manager.connected = false := by
  intro p
  have hallowed : Simulation.Allowed (PhoneStep.run "mtp") (fun step p => step.consistent (fun _ => true) ∧
      step.sound "mtp" (fun _ => true) p) chargingRun idlePhone :=
    ⟨⟨trivial, fun h => absurd h (by decide +kernel)⟩, ⟨trivial, fun h => absurd h (by decide +kernel)⟩,
      ⟨trivial, fun h => absurd h (by decide +kernel)⟩, ⟨trivial, fun h => absurd h (by decide +kernel)⟩, trivial⟩
  have hblank : idlePhone.Blank := rfl
  have hrun := notification_has_cause "mtp" (fun _ => true) (Simulation.reachable_foldl (.init hblank) hallowed)
  have hnobody : ¬ SomeAttached (fun _ => true) p.host := by
    rintro ⟨i, -, hlast⟩
    exact absurd hlast (by simp [p, chargingRun, idlePhone, PhoneStep.run, Phone.manage])
  refine ⟨(hrun.1 (by decide +kernel)).resolve_right hnobody, ?_⟩
  obtain ⟨hne, hdown, -⟩ := hrun.2 disconnectStep trivial
    fun hsound => hnobody (hsound (by decide +kernel) (by decide +kernel))
  exact ⟨hne, hdown⟩

end UsbManager.Service
