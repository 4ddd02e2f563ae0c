import Mathlib.Data.List.Chain
import UsbManager.Gadget.Connection

/-!
# The HDC notification

`hasHdcNotifier_` is refreshed by `ProcessFunctionNotifier` alone, while the connection and the functions change on
five paths. Each of them ends in a refresh with the values that it leaves behind.
-/

namespace UsbManager.Gadget

def hdfFailure : Int := -1

/-- The functions are taken over only if HDI has set them. -/
def takeFunctions (hdi : FunctionHdi) (funcs : UInt32) (m : UsbDeviceManager) : Ret × UsbDeviceManager :=
  let ret := hdi.setCurrentFunctions funcs
  let m := { m with hdiFunction := if ret = .ok then funcs else m.hdiFunction }
  (ret,
    if ret = .ok ∧ funcs ≠ m.currentFunctions then
      broadcastFuncChange m.connected funcs { m with currentFunctions := funcs }
    else m)

/-- The call through a null interface is `none`. -/
def userChangeProcess (hdi : FunctionHdi) (m : UsbDeviceManager) : Option (Ret × UsbDeviceManager) :=
  if hasFunction m.currentFunctions functionMtp || hasFunction m.currentFunctions functionPtp then
    if !m.usbDeviceInterface then none
    else
      let func := m.currentFunctions &&& ~~~functionMtp &&& ~~~functionPtp
      let (ret, m) := takeFunctions hdi (if func = 0 then functionStorage else func) m
      some (ret, processFunctionNotifier m.connected m.currentFunctions m)
  else some (.hdi hdfFailure, processFunctionNotifier m.connected m.currentFunctions m)

/-! ## The calls of the notifier -/

/-- `true` is a send and `false` is a cancel. -/
def Effect.hdcCall? : Effect → Option Bool
  | .sendHdcNotification => some true
  | .cancelHdcNotification => some false
  | _ => none

def hdcCalls (trace : List Effect) : List Bool := trace.filterMap Effect.hdcCall?

/-- Each call differs from the one before it, and the first one is a send. -/
structure Alternate (calls : List Bool) : Prop where
  starts : ∀ call, calls.head? = some call → call = true
  chain : calls.IsChain (· ≠ ·)

theorem Alternate.nil : Alternate [] := ⟨fun _ h => (by cases h), List.IsChain.nil⟩

theorem Alternate.concat {calls : List Bool} (h : Alternate calls) (call : Bool)
    (hcall : calls.getLastD false ≠ call) : Alternate (calls ++ [call]) := by
  rcases List.eq_nil_or_concat calls with rfl | ⟨init, last, rfl⟩
  · refine ⟨fun a ha => ?_, List.IsChain.singleton call⟩
    obtain rfl : call = a := by simpa using ha
    simpa using hcall
  · refine ⟨fun a ha => h.starts a (by simpa using ha), ?_⟩
    rw [List.isChain_append]
    refine ⟨h.chain, List.IsChain.singleton call, ?_⟩
    rintro a ha b ⟨⟩
    obtain rfl : last = a := by simpa using ha
    simpa using hcall

theorem hdcCalls_emit (m : UsbDeviceManager) (e : Effect) :
    hdcCalls (m.emit e).trace = hdcCalls m.trace ++ e.hdcCall?.toList := by
  unfold UsbDeviceManager.emit hdcCalls
  rw [List.filterMap_append]
  cases e <;> rfl

/-! ## The flag and the calls -/

/-- The flag is the last call. -/
structure Tracked (m : UsbDeviceManager) : Prop where
  alternate : Alternate (hdcCalls m.trace)
  last : (hdcCalls m.trace).getLastD false = m.hasHdcNotifier

/-- The flag is the last call, and it is what the connection and the functions ask for. -/
structure Mirrors (m : UsbDeviceManager) : Prop where
  tracked : Tracked m
  flag : m.hasHdcNotifier = (m.connected && hasFunction m.currentFunctions functionHdc)

theorem Tracked.of_eq {m m' : UsbDeviceManager} (h : Tracked m) (hflag : m'.hasHdcNotifier = m.hasHdcNotifier)
    (hcalls : hdcCalls m'.trace = hdcCalls m.trace) : Tracked m' := by
  constructor
  · rw [hcalls]
    exact h.alternate
  · rw [hcalls, hflag]
    exact h.last

theorem Mirrors.of_eq {m m' : UsbDeviceManager} (h : Mirrors m) (hflag : m'.hasHdcNotifier = m.hasHdcNotifier)
    (hcalls : hdcCalls m'.trace = hdcCalls m.trace) (hconnected : m'.connected = m.connected)
    (hfunc : m'.currentFunctions = m.currentFunctions) : Mirrors m' := by
  refine ⟨h.tracked.of_eq hflag hcalls, ?_⟩
  rw [hflag, hconnected, hfunc]
  exact h.flag

theorem Tracked.flip {m m' : UsbDeviceManager} (h : Tracked m) (hflag : m'.hasHdcNotifier = !m.hasHdcNotifier)
    (hcalls : hdcCalls m'.trace = hdcCalls m.trace ++ [!m.hasHdcNotifier]) : Tracked m' := by
  constructor
  · rw [hcalls]
    refine h.alternate.concat _ ?_
    rw [h.last]
    simp
  · rw [hcalls, hflag]
    simp

theorem processFunctionNotifier_hdc (connected : Bool) (func : UInt32) (m : UsbDeviceManager) :
    let m' := processFunctionNotifier connected func m
    let wanted := connected && hasFunction func functionHdc
    m'.hasHdcNotifier = wanted ∧
      hdcCalls m'.trace = hdcCalls m.trace ++ (if m.hasHdcNotifier = wanted then [] else [wanted]) ∧
      m'.currentFunctions = m.currentFunctions := by
  intro m' wanted
  unfold m' wanted processFunctionNotifier
  dsimp only
  generalize (if hasFunction func functionMtp then "USB_func_mtp_notifier"
      else if hasFunction func functionPtp then "USB_func_ptp_notifier"
      else if m.isReverseCharge then "USB_func_charge_connected_notifier"
      else "USB_func_charge_notifier") = text
  rcases hconnected : connected <;> rcases hfunc : hasFunction func functionHdc <;>
    rcases hflag : m.hasHdcNotifier <;>
    simp [UsbDeviceManager.emit, hdcCalls, hflag] <;> rfl

theorem Tracked.notify {m : UsbDeviceManager} (h : Tracked m) {connected : Bool} {func : UInt32}
    (hconnected : m.connected = connected) (hfunc : m.currentFunctions = func) :
    Mirrors (processFunctionNotifier connected func m) := by
  obtain ⟨hflag, hcalls, hfunc'⟩ := processFunctionNotifier_hdc connected func m
  have hconnected' := (processFunctionNotifier_same connected func m).1.connected
  refine ⟨?_, by rw [hflag, hconnected', hfunc', hconnected, hfunc]⟩
  split at hcalls
  · rename_i hsame
    exact h.of_eq (hflag.trans hsame.symm) (by simpa using hcalls)
  · rename_i hdiff
    have hnot := Bool.eq_not.mpr (Ne.symm hdiff)
    exact h.flip (hflag.trans hnot) (by rw [hcalls, ← hnot])

theorem Tracked.emit {m : UsbDeviceManager} (h : Tracked m) (e : Effect) (he : e.hdcCall? = none) :
    Tracked (m.emit e) := by
  refine h.of_eq rfl ?_
  rw [hdcCalls_emit, he]
  exact List.append_nil _

theorem Tracked.change {m : UsbDeviceManager} (h : Tracked m) :
    Mirrors (processFuncChange m.connected m.currentFunctions m) := by
  have hbroadcast : Tracked (broadcastFuncChange m.connected m.currentFunctions m) := h.emit _ rfl
  unfold processFuncChange
  dsimp only
  split
  · exact Tracked.notify (hbroadcast.emit _ rfl) rfl rfl
  · exact hbroadcast.notify rfl rfl

/-! ## The operations -/

theorem updateFunctions_mirrors (func : UInt32) (m : UsbDeviceManager) (hm : Mirrors m) :
    Mirrors (updateFunctions func m) := by
  unfold updateFunctions
  split
  · exact hm
  · have hfunc : Tracked { m with currentFunctions := func } := hm.tracked.of_eq rfl rfl
    dsimp only
    split
    · exact hfunc.notify rfl rfl
    · exact Tracked.notify (hfunc.emit _ rfl) rfl rfl

theorem setCurrentFunctions_mirrors (hdi : FunctionHdi) (funcs : UInt32) (m : UsbDeviceManager) (hm : Mirrors m) :
    Mirrors (setCurrentFunctions hdi funcs m).2 := by
  unfold setCurrentFunctions
  dsimp only
  split_ifs
  iterate 5 exact hm
  exact updateFunctions_mirrors funcs _ (hm.of_eq rfl rfl rfl rfl)

theorem Tracked.take {m : UsbDeviceManager} (h : Tracked m) (hdi : FunctionHdi) (funcs : UInt32) :
    Tracked (takeFunctions hdi funcs m).2 := by
  unfold takeFunctions
  dsimp only
  split
  · apply Tracked.emit
    · exact h.of_eq rfl rfl
    · rfl
  · exact h.of_eq rfl rfl

theorem userChangeProcess_mirrors (hdi : FunctionHdi) (m : UsbDeviceManager) (hm : Mirrors m)
    {r : Ret × UsbDeviceManager} (hr : userChangeProcess hdi m = some r) : Mirrors r.2 := by
  unfold userChangeProcess at hr
  split at hr
  · split at hr
    · cases hr
    · obtain rfl := Option.some.inj hr
      exact (hm.tracked.take hdi _).notify rfl rfl
  · obtain rfl := Option.some.inj hr
    exact hm.tracked.notify rfl rfl

theorem delayConnect_mirrors (curConnect : Bool) (m : UsbDeviceManager) (hm : Mirrors m) :
    Mirrors (delayConnect curConnect m) := by
  unfold delayConnect
  split_ifs
  iterate 3 exact hm.of_eq rfl rfl rfl rfl
  exact hm

theorem handleEvent_mirrors (status : UsbdDeviceAction) (m : UsbDeviceManager) (hm : Mirrors m) :
    Mirrors (handleEvent status m) := by
  have hstatus : Mirrors (processStatus status m).2 := by
    cases status with
    | updevice | downdevice | other => exact hm.of_eq rfl rfl rfl rfl
    | accessoryup | accessorydown | accessorysend =>
      exact hm.of_eq rfl ((hdcCalls_emit _ _).trans (List.append_nil _)) rfl rfl
  unfold handleEvent
  split
  · exact hm
  · exact delayConnect_mirrors _ _ (hstatus.of_eq rfl rfl rfl rfl)

theorem connectTask_mirrors (hdi : FunctionHdi) (m : UsbDeviceManager) (hm : Mirrors m) :
    Mirrors (connectTask hdi m) := by
  unfold connectTask
  apply Tracked.change
  dsimp only
  split_ifs <;> exact hm.tracked.of_eq rfl rfl

theorem disconnectTask_mirrors (hdi : FunctionHdi) (m : UsbDeviceManager) (hm : Mirrors m) :
    Mirrors (disconnectTask hdi m) := by
  unfold disconnectTask
  apply Tracked.change
  dsimp only
  split_ifs <;> exact hm.tracked.of_eq rfl rfl

theorem fire_mirrors (hdi : FunctionHdi) (id : Nat) (m : UsbDeviceManager) (hm : Mirrors m) :
    Mirrors (fire hdi id m) := by
  unfold fire
  split
  · exact hm
  · rename_i task _ _
    have hfired : Mirrors { m with timers := m.timers.unregister id } := hm.of_eq rfl rfl rfl rfl
    cases task with
    | connect => exact connectTask_mirrors hdi _ hfired
    | disconnect => exact disconnectTask_mirrors hdi _ hfired

/-! ## Every run -/

/-- The steps of the line, the other ways to set the functions, and what comes from outside: the interface is
looked up, and the function of the driver is set by another. -/
inductive FunctionOp
  | line (op : Op)
  | updateFunctions (func : UInt32)
  | userChangeProcess (hdi : FunctionHdi)
  | initUsbDeviceInterface (found : Bool)
  | driver (hdiFunction : UInt32)

/-- A call through a null pointer ends the run. -/
def FunctionOp.step : FunctionOp → UsbDeviceManager → UsbDeviceManager
  | .line op, m => op.step m
  | .updateFunctions func, m => Gadget.updateFunctions func m
  | .userChangeProcess hdi, m => (Gadget.userChangeProcess hdi m).elim m Prod.snd
  | .initUsbDeviceInterface found, m => { m with usbDeviceInterface := found }
  | .driver hdiFunction, m => { m with hdiFunction := hdiFunction }

abbrev FunctionReachable : UsbDeviceManager → Prop :=
  Run.Reachable (fun m => ∃ usbDeviceInterface hdiFunction, m = UsbDeviceManager.new usbDeviceInterface hdiFunction)
    FunctionOp.step fun _ _ => True

theorem Op.step_mirrors (op : Op) (m : UsbDeviceManager) (hm : Mirrors m) : Mirrors (op.step m) := by
  cases op with
  | handleEvent status => exact handleEvent_mirrors status m hm
  | fire hdi id => exact fire_mirrors hdi id m hm
  | setCurrentFunctions hdi funcs => exact setCurrentFunctions_mirrors hdi funcs m hm
  | setPhyConnectState phyConnect => exact hm.of_eq rfl rfl rfl rfl
  | setChargeFlag isReverseCharge => exact hm.of_eq rfl rfl rfl rfl

theorem FunctionOp.step_mirrors (op : FunctionOp) (m : UsbDeviceManager) (hm : Mirrors m) : Mirrors (op.step m) := by
  cases op with
  | line op => exact op.step_mirrors m hm
  | updateFunctions func => exact updateFunctions_mirrors func m hm
  | userChangeProcess hdi =>
    dsimp only [FunctionOp.step]
    rcases hr : Gadget.userChangeProcess hdi m with - | r
    · exact hm
    · exact userChangeProcess_mirrors hdi m hm hr
  | initUsbDeviceInterface found => exact hm.of_eq rfl rfl rfl rfl
  | driver hdiFunction => exact hm.of_eq rfl rfl rfl rfl

/-- In every state the flag is what the connection and the functions ask for, and the calls alternate. -/
theorem hdcNotifier_mirrors (m : UsbDeviceManager) (hm : FunctionReachable m) :
    m.hasHdcNotifier = (m.connected && hasFunction m.currentFunctions functionHdc) ∧
      Alternate (hdcCalls m.trace) := by
  have hrun : Mirrors m := by
    refine hm.invariant ?_ fun op m _ => op.step_mirrors m
    rintro - ⟨usbDeviceInterface, hdiFunction, rfl⟩
    exact ⟨⟨Alternate.nil, rfl⟩, rfl⟩
  exact ⟨hrun.flag, hrun.tracked.alternate⟩

/-- The line comes up with HDC, the functions go to MTP and the user takes them back. -/
def resetByUser : UsbDeviceManager :=
  (FunctionOp.userChangeProcess succeeding).step
    ((FunctionOp.updateFunctions functionMtp).step
      ((FunctionOp.line (.fire succeeding 0)).step
        ((FunctionOp.line (.handleEvent .updevice)).step (UsbDeviceManager.new true functionHdc))))

theorem hdcNotifier_mirrors_resetByUser :
    hdcCalls resetByUser.trace = [true, false] ∧ resetByUser.currentFunctions = functionStorage ∧
      resetByUser.hasHdcNotifier = false ∧ Alternate (hdcCalls resetByUser.trace) :=
  ⟨by decide +kernel, by decide +kernel, by decide +kernel,
    (hdcNotifier_mirrors resetByUser
      (.step _ (.step _ (.step _ (.step _ (.init ⟨true, functionHdc, rfl⟩) trivial) trivial) trivial) trivial)).2⟩

end UsbManager.Gadget
