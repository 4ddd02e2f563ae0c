import Mathlib.Data.List.Infix
import UsbManager.Host.Effects
import UsbManager.Lib.Run

/-!
# The reverse-charge notification

`usb_connection_notifier.cpp`: one notification stands for all attached devices. It is shown when one of
them is attached and cancelled when one of them is detached, whatever the others do.
-/

namespace UsbManager.Host

/-! ## The notifier -/

/-- The text that the host manager asks for. -/
def usbFuncReverseCharge : String := "USB_func_charge_connected_notifier"

/-- `lastFunc` is the text that is shown, empty if none is. -/
structure UsbConnectionNotifier where
  usbSupportedFunctions : Int
  lastFunc : String
  deriving DecidableEq

/-- `supportedFuncStr` is the parameter `const.usb_manager.supported_functions`. -/
def getSupportedFunctions (supportedFuncStr : String) : Int :=
  if "none".toList <:+: supportedFuncStr.toList then -1
  else
    let mtp := if "mtp".toList <:+: supportedFuncStr.toList then 8 else 0
    let ptp := if "ptp".toList <:+: supportedFuncStr.toList then 16 else 0
    let reverseCharge := if "reverseCharge".toList <:+: supportedFuncStr.toList then 1 <<< 30 else 0
    ((mtp ||| ptp ||| reverseCharge : Nat) : Int)

/-- Without supported functions nothing is shown. -/
def sendNotification (supportedFuncStr func : String) (n : UsbConnectionNotifier) : UsbConnectionNotifier :=
  let n := { n with usbSupportedFunctions := getSupportedFunctions supportedFuncStr }
  if n.usbSupportedFunctions ≤ 0 then n else { n with lastFunc := func }

/-- The host cancels only the text of reverse charging, and the device only the others. -/
def cancelNotification (isHost : Bool) (n : UsbConnectionNotifier) : UsbConnectionNotifier :=
  if (isHost && n.lastFunc ≠ usbFuncReverseCharge) || (!isHost && n.lastFunc = usbFuncReverseCharge) then n
  else { n with lastFunc := "" }

/-- The two calls that `PublishCommonEvent` makes. -/
def UsbConnectionNotifier.react (supportedFuncStr : String) (n : UsbConnectionNotifier) : Event → UsbConnectionNotifier
  | .sendNotification => sendNotification supportedFuncStr usbFuncReverseCharge n
  | .cancelNotification => cancelNotification true n
  | _ => n

/-- The notifier after everything that the host manager has done. -/
def notifier (supportedFuncStr : String) (s : HostState) : UsbConnectionNotifier :=
  s.trace.foldl (UsbConnectionNotifier.react supportedFuncStr) ⟨0, ""⟩

def hasNotification (d : UsbDevice) : Bool := !d.isHub && !isAudioDevice d

theorem notifier_publishCommonEvent (supportedFuncStr : String) (event : CommonEvent) (d : UsbDevice) (s : HostState) :
    notifier supportedFuncStr (publishCommonEvent event d s) =
      if hasNotification d then
        match event with
        | .attached => sendNotification supportedFuncStr usbFuncReverseCharge (notifier supportedFuncStr s)
        | .detached => cancelNotification true (notifier supportedFuncStr s)
      else notifier supportedFuncStr s := by
  unfold publishCommonEvent hasNotification notifier
  rcases d.isHub with - | - <;> rcases isAudioDevice d with - | - <;> cases event <;>
    simp [HostState.emit, UsbConnectionNotifier.react]

/-! ## Runs of broadcasts -/

/-- The devices `ι` of a run, and the last broadcast of each. -/
structure Broadcasting (ι : Type) where
  host : HostState
  last : ι → Option CommonEvent

/-- A broadcast for the device `id`, as `d` describes it at that time. -/
structure Broadcast (ι : Type) where
  event : CommonEvent
  id : ι
  d : UsbDevice

section Runs

variable {ι : Type} [DecidableEq ι] (supportedFuncStr : String) (notified : ι → Bool)

def Broadcast.step (op : Broadcast ι) (s : Broadcasting ι) : Broadcasting ι :=
  ⟨publishCommonEvent op.event op.d s.host, Function.update s.last op.id (some op.event)⟩

/-- The broadcasts of a device alternate, and it does not turn into a hub or an audio device. -/
structure Broadcast.Alternating (op : Broadcast ι) (s : Broadcasting ι) : Prop where
  event : op.event = .attached ↔ s.last op.id ≠ some .attached
  notified : hasNotification op.d = notified op.id

/-- Where the detached device had the notification, no other attached device has it. -/
def Broadcast.sound (op : Broadcast ι) (s : Broadcasting ι) : Prop :=
  op.event = .detached → notified op.id → ∀ i, i ≠ op.id → notified i → s.last i ≠ some .attached

/-- The text is there exactly if such a device is attached. -/
def ShowsAttached (s : Broadcasting ι) : Prop :=
  (notifier supportedFuncStr s.host).lastFunc = usbFuncReverseCharge ↔ ∃ i, notified i ∧ s.last i = some .attached

theorem sendNotification_lastFunc (hsupported : 0 < getSupportedFunctions supportedFuncStr) (func : String)
    (n : UsbConnectionNotifier) : (sendNotification supportedFuncStr func n).lastFunc = func := by
  unfold sendNotification
  rw [if_neg (by simpa using hsupported)]

theorem cancelNotification_lastFunc (n : UsbConnectionNotifier) :
    (cancelNotification true n).lastFunc ≠ usbFuncReverseCharge := by
  unfold cancelNotification
  by_cases h : n.lastFunc = usbFuncReverseCharge
  · simp [h, usbFuncReverseCharge]
  · simp [h]

theorem Broadcast.step_showsAttached_iff (hsupported : 0 < getSupportedFunctions supportedFuncStr)
    (op : Broadcast ι) (s : Broadcasting ι) (hop : op.Alternating notified s)
    (hs : ShowsAttached supportedFuncStr notified s) :
    ShowsAttached supportedFuncStr notified (op.step s) ↔ op.sound notified s := by
  obtain ⟨event, id, d⟩ := op
  obtain ⟨hevent, hnotified⟩ := hop
  unfold ShowsAttached Broadcast.step Broadcast.sound at *
  dsimp only at *
  rw [notifier_publishCommonEvent, hnotified]
  rcases hid : notified id with - | -
  · -- The device has no notification, and the change of its last broadcast does not count.
    have hothers : (∃ i, notified i ∧ Function.update s.last id (some event) i = some .attached) ↔
        ∃ i, notified i ∧ s.last i = some .attached := by
      refine exists_congr fun i => and_congr_right fun hi => ?_
      rw [Function.update_of_ne]
      rintro rfl
      rw [hid] at hi
      cases hi
    rw [hothers]
    simp [hs]
  · cases event with
    | attached =>
      simp only [if_true, sendNotification_lastFunc _ hsupported, true_iff, reduceCtorEq, false_implies, iff_true]
      exact ⟨id, hid, Function.update_self ..⟩
    | detached =>
      simp only [if_true, cancelNotification_lastFunc, false_iff, not_exists, forall_const, not_and]
      refine forall_congr' fun i => ?_
      by_cases hi : i = id
      · simp [hi]
      · simp [hi]

abbrev Broadcasting.Reachable (C : Broadcast ι → Broadcasting ι → Prop) : Broadcasting ι → Prop :=
  Run.Reachable (fun s => (notifier supportedFuncStr s.host).lastFunc = "" ∧ ∀ i, s.last i = none) Broadcast.step C

/-- Where functions are configured, the notification reflects the attached devices in every run of sound
broadcasts, and no longer after the first one that is not sound. -/
theorem notification_shows_attached (hsupported : 0 < getSupportedFunctions supportedFuncStr) (s : Broadcasting ι)
    (hs : Broadcasting.Reachable supportedFuncStr (fun op s => op.Alternating notified s ∧ op.sound notified s) s) :
    ShowsAttached supportedFuncStr notified s ∧ ∀ op : Broadcast ι, op.Alternating notified s →
      ¬ op.sound notified s → ¬ ShowsAttached supportedFuncStr notified (op.step s) := by
  have hrun : ShowsAttached supportedFuncStr notified s := by
    refine hs.invariant ?_ fun op s hop h =>
      (op.step_showsAttached_iff supportedFuncStr notified hsupported s hop.1 h).mpr hop.2
    rintro s ⟨hlast, hnone⟩
    simp [ShowsAttached, hlast, hnone, usbFuncReverseCharge]
  refine ⟨hrun, fun op halt hnot h => hnot ?_⟩
  exact (op.step_showsAttached_iff supportedFuncStr notified hsupported s halt hrun).mp h

end Runs

/-- One attached memory stick, by its address. -/
def oneAttached (dev : UsbDev) (s : Broadcasting UsbDev) : Broadcasting UsbDev :=
  (Broadcast.mk .attached dev { busNum := dev.busNum, devAddr := dev.devAddr }).step s

def oneDetached (dev : UsbDev) (s : Broadcasting UsbDev) : Broadcasting UsbDev :=
  (Broadcast.mk .detached dev { busNum := dev.busNum, devAddr := dev.devAddr }).step s

/-- A memory stick comes and goes, a second one comes, and the first one comes back. -/
def sticks : Broadcasting UsbDev :=
  oneAttached ⟨1, 2⟩ (oneAttached ⟨1, 3⟩ (oneDetached ⟨1, 2⟩ (oneAttached ⟨1, 2⟩ ⟨HostState.init, fun _ => none⟩)))

theorem notification_shown_once_attached :
    (notifier "mtp" sticks.host).lastFunc = usbFuncReverseCharge ∧ ShowsAttached "mtp" (fun _ => true) sticks := by
  refine ⟨by decide +kernel, (notification_shows_attached "mtp" (fun _ => true) (by decide) sticks ?_).1⟩
  refine .step _ (.step _ (.step _ (.step _ (.init ⟨rfl, fun _ => rfl⟩) ?_) ?_) ?_) ?_
  · exact ⟨⟨by decide, rfl⟩, fun h => by cases h⟩
  · refine ⟨⟨by decide, rfl⟩, fun _ _ i hi _ => ?_⟩
    simp only [oneAttached, Broadcast.step]
    rw [Function.update_of_ne hi]
    simp
  · exact ⟨⟨by decide, rfl⟩, fun h => by cases h⟩
  · exact ⟨⟨by decide, rfl⟩, fun h => by cases h⟩

/-- Two memory sticks are attached and one is detached: the notification is gone. -/
theorem notification_cancelled_while_attached :
    let attached := oneAttached ⟨1, 3⟩ (oneAttached ⟨1, 2⟩ ⟨HostState.init, fun _ => none⟩)
    let s := (Broadcast.mk .detached (⟨1, 2⟩ : UsbDev) { busNum := 1, devAddr := 2 }).step attached
    Broadcasting.Reachable "mtp" (fun op s => op.Alternating (fun _ => true) s) s ∧
      0 < getSupportedFunctions "mtp" ∧ ¬ ShowsAttached "mtp" (fun _ => true) s := by
  intro attached s
  refine ⟨?_, by decide, fun h => ?_⟩
  · refine .step _ (.step _ (.step _ (.init ⟨rfl, fun _ => rfl⟩) ?_) ?_) ?_ <;> exact ⟨by decide, rfl⟩
  · have hshown := h.mpr ⟨⟨1, 3⟩, rfl, by decide⟩
    revert hshown
    decide

end UsbManager.Host
