import UsbManager.Lib.Timer
import UsbManager.Types

/-!
# The device manager

`usb_device_manager.cpp`: what the phone is as a gadget. The line goes up and down with the events of HDI, and
the connection that is broadcast follows it behind a timer.
-/

namespace UsbManager.Gadget

/-! ## Functions -/

/-- The codes of the functions that the manager itself looks at. -/
def functionHdc : UInt32 := (1 : UInt32) <<< 2

def functionMtp : UInt32 := (1 : UInt32) <<< 3

def functionPtp : UInt32 := (1 : UInt32) <<< 4

def functionStorage : UInt32 := (1 : UInt32) <<< 9

def functionDevmodeAuth : UInt32 := (1 : UInt32) <<< 12

def hasFunction (func bit : UInt32) : Bool := func &&& bit ≠ 0

/-- The answers of HDI to one call: a call that fails leaves the function of the driver alone. -/
structure FunctionHdi where
  getCurrentFunctions : Ret
  setCurrentFunctions : UInt32 → Ret

/-- The answer of the driver that has an error code of its own. -/
def hdfErrNotSupport : Int := -2

/-! ## The manager -/

/-- What a timer does when it fires. -/
inductive Task
  | connect
  | disconnect
  deriving DecidableEq, Repr

/-- What the manager shows, broadcasts and asks for. -/
inductive Effect
  | broadcast (connected : Bool) (func : UInt32)
  | switchWindow (connected : Bool)
  | sendNotification (func : String)
  | cancelNotification (isHost : Bool)
  | sendHdcNotification
  | cancelHdcNotification
  deriving DecidableEq, Repr

/-- `hdiFunction` is the function that the driver has, `timers` are the tasks with their delays in
milliseconds, and `trace` is what the manager has shown and broadcast. -/
structure UsbDeviceManager where
  usbDeviceInterface : Bool
  currentFunctions : UInt32
  connected : Bool
  gadgetConnected : Bool
  isReverseCharge : Bool
  hasHdcNotifier : Bool
  isDisableDialog : Bool
  phyConnect : Bool
  delayDisconnTimerId : Option Nat
  hdiFunction : UInt32
  timers : Timers (Task × Nat)
  trace : List Effect

/-- The manager takes hdc for set, whatever the driver has. -/
def UsbDeviceManager.new (usbDeviceInterface : Bool) (hdiFunction : UInt32) : UsbDeviceManager :=
  ⟨usbDeviceInterface, functionHdc, false, false, false, false, false, false, none, hdiFunction, Timers.new, []⟩

def UsbDeviceManager.emit (m : UsbDeviceManager) (e : Effect) : UsbDeviceManager := { m with trace := m.trace ++ [e] }

/-! ## Broadcasts and notifications -/

/-- Broadcasts are sent for every change of the connection or of the functions. -/
def broadcastFuncChange (connected : Bool) (currentFunc : UInt32) (m : UsbDeviceManager) : UsbDeviceManager :=
  m.emit (.broadcast connected currentFunc)

/-- The result of the window is only logged. -/
def processFunctionSwitchWindow (connected : Bool) (m : UsbDeviceManager) : UsbDeviceManager :=
  m.emit (.switchWindow connected)

/-- The notification of hdc comes and goes with a flag of its own. -/
def processFunctionNotifier (connected : Bool) (func : UInt32) (m : UsbDeviceManager) : UsbDeviceManager :=
  if connected then
    let m := m.emit (.sendNotification
      (if hasFunction func functionMtp then "USB_func_mtp_notifier"
      else if hasFunction func functionPtp then "USB_func_ptp_notifier"
      else if m.isReverseCharge then "USB_func_charge_connected_notifier"
      else "USB_func_charge_notifier"))
    let m :=
      if hasFunction func functionHdc && !m.hasHdcNotifier then
        { m.emit .sendHdcNotification with hasHdcNotifier := true }
      else m
    if !hasFunction func functionHdc && m.hasHdcNotifier then
      { m.emit .cancelHdcNotification with hasHdcNotifier := false }
    else m
  else
    let m := m.emit (.cancelNotification false)
    if m.hasHdcNotifier then { m.emit .cancelHdcNotification with hasHdcNotifier := false } else m

/-- An accessory that has shown up keeps the window away, but not the rest. -/
def processFuncChange (connected : Bool) (currentFunc : UInt32) (m : UsbDeviceManager) : UsbDeviceManager :=
  let m := broadcastFuncChange connected currentFunc m
  let m := if !m.isDisableDialog then processFunctionSwitchWindow connected m else m
  processFunctionNotifier connected currentFunc m

/-! ## Setting the functions -/

/-- Nothing happens if the functions are the ones that the manager has. -/
def updateFunctions (func : UInt32) (m : UsbDeviceManager) : UsbDeviceManager :=
  if func = m.currentFunctions then m
  else
    let m := { m with currentFunctions := func }
    let m :=
      if !m.connected && m.gadgetConnected then m else broadcastFuncChange m.connected m.currentFunctions m
    processFunctionNotifier m.connected func m

/-- Functions that the driver has already are a success, and the manager does not learn of them. -/
def setCurrentFunctions (hdi : FunctionHdi) (funcs : UInt32) (m : UsbDeviceManager) : Ret × UsbDeviceManager :=
  if !m.usbDeviceInterface then (.uec .serviceInvalidValue, m)
  else if hdi.getCurrentFunctions ≠ .ok then (.uec .serviceInvalidValue, m)
  else if m.hdiFunction = funcs then (.ok, m)
  else
    let ret := hdi.setCurrentFunctions funcs
    if ret ≠ .ok then (if ret = .hdi hdfErrNotSupport then .uec .serviceFunctionNotSupport else ret, m)
    else (.ok, updateFunctions funcs { m with hdiFunction := funcs })

/-! ## Events and timers -/

def delayConnectInterval : Nat := 1000

/-- In milliseconds, and doubled while there is a physical connection. -/
def delayDisconnInterval : Nat := 1400

/-- The first component is `curConnect`, which only the line events set. -/
def processStatus (status : UsbdDeviceAction) (m : UsbDeviceManager) : Bool × UsbDeviceManager :=
  match status with
  | .updevice => (true, { m with gadgetConnected := true })
  | .downdevice => (false, { m with gadgetConnected := false })
  | .accessoryup | .accessorydown | .accessorysend =>
    (false, processFunctionSwitchWindow false { m with isDisableDialog := true })
  | .other _ => (false, m)

/-- Both tasks keep their timer in the same field. -/
def UsbDeviceManager.register (m : UsbDeviceManager) (task : Task) (interval : Nat) : UsbDeviceManager :=
  let (id, timers) := m.timers.register (task, interval)
  { m with delayDisconnTimerId := some id, timers := timers }

/-- The second half of `HandleEvent`: a task is registered if it has something to change. -/
def delayConnect (curConnect : Bool) (m : UsbDeviceManager) : UsbDeviceManager :=
  if curConnect && m.connected ≠ curConnect then m.register .connect delayConnectInterval
  else if !curConnect && m.connected ≠ curConnect then
    m.register .disconnect (if m.phyConnect then delayDisconnInterval + delayDisconnInterval else delayDisconnInterval)
  else m

/-- Every event stops the timer that is pending, also one that is not about the line. -/
def handleEvent (status : UsbdDeviceAction) (m : UsbDeviceManager) : UsbDeviceManager :=
  if !m.usbDeviceInterface then m
  else
    let (curConnect, m) := processStatus status m
    delayConnect curConnect { m with timers := m.timers.unregister? m.delayDisconnTimerId }

/-- A failed query leaves the function as it was. -/
def connectTask (hdi : FunctionHdi) (m : UsbDeviceManager) : UsbDeviceManager :=
  let m := { m with connected := true }
  let m :=
    if m.usbDeviceInterface && hdi.getCurrentFunctions = .ok then { m with currentFunctions := m.hdiFunction } else m
  processFuncChange m.connected m.currentFunctions m

/-- Whatever HDI answers, the function counts as set. -/
def resetFunctions (hdi : FunctionHdi) (func : UInt32) (m : UsbDeviceManager) : UsbDeviceManager :=
  { m with
    currentFunctions := func
    hdiFunction := if hdi.setCurrentFunctions func = .ok then func else m.hdiFunction }

/-- The transfer of files ends with the connection, and so does `devmode_auth`. -/
def disconnectTask (hdi : FunctionHdi) (m : UsbDeviceManager) : UsbDeviceManager :=
  let m := { m with connected := false, isDisableDialog := false }
  let m :=
    if hasFunction m.currentFunctions functionMtp || hasFunction m.currentFunctions functionPtp then
      let func := m.currentFunctions &&& ~~~functionMtp &&& ~~~functionPtp
      resetFunctions hdi (if func = 0 then functionStorage else func) m
    else if hasFunction m.currentFunctions functionDevmodeAuth then resetFunctions hdi functionStorage m
    else m
  processFuncChange m.connected m.currentFunctions m

def runTask (hdi : FunctionHdi) : Task → UsbDeviceManager → UsbDeviceManager
  | .connect, m => connectTask hdi m
  | .disconnect, m => disconnectTask hdi m

/-- The timer `id` fires, if it is pending. -/
def fire (hdi : FunctionHdi) (id : Nat) (m : UsbDeviceManager) : UsbDeviceManager :=
  match m.timers.task? id with
  | none => m
  | some (task, _) => runTask hdi task { m with timers := m.timers.unregister id }

end UsbManager.Gadget
