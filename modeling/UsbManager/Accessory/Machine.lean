import UsbManager.Accessory.Keys
import UsbManager.Lib.Timer

/-!
# The accessory state machine

`usb_accessory_manager.cpp`: the gadget becomes an accessory in two steps. An event asks for the accessory
function, which starts a timer that reverts it, and the next up of the line finds the function set. Ups and downs
of the line are held back for a second by another timer. The results of the steps are only logged.
-/

namespace UsbManager.Accessory

def funAccessory : UInt32 := (1 : UInt32) <<< 11

def isAccessory (func : UInt32) : Bool := func &&& funAccessory ≠ 0

/-- In milliseconds, as all intervals. -/
def delayAccInterval : Nat := 10 * 1000

def antiShakeInterval : Nat := 1 * 1000

inductive AccessoryTask
  | revert
  | handleEvent
  deriving DecidableEq, Repr

/-- The broadcasts. The last one is also an attachment, with the description that the host sent. -/
inductive AccessoryEvent
  | attached (accessory : USBAccessory)
  | detached (accessory : USBAccessory)
  | sent (accessory : USBAccessory)
  deriving DecidableEq, Repr

/-- `hdiFunction` is the function that the driver has, and `timers` are the tasks with their delays. -/
structure UsbAccessoryManager extends AccessoryManager where
  usbDeviceInterface : Bool
  eventStatus : UsbdDeviceAction
  curDeviceFunc : UInt32
  lastDeviceFunc : UInt32
  accDelayTimerId : Option Nat
  antiShakeDelayTimerId : Option Nat
  hdiFunction : UInt32
  timers : Timers (AccessoryTask × Nat)
  trace : List AccessoryEvent

/-- The first status is code 0. -/
def UsbAccessoryManager.new (usbDeviceInterface : Bool) (hdiFunction : UInt32) : UsbAccessoryManager :=
  ⟨⟨{}, .none⟩, usbDeviceInterface, .other 0, 0, 0, none, none, hdiFunction, Timers.new, []⟩

/-- What HDI answers during one step, and what goes into the record: `extraJson` decodes the string that the host
sends and prints its bytes. -/
structure AccessoryEnv where
  getCurrentFunctions : Ret
  setCurrentFunctions : UInt32 → Ret
  accessorys : List String
  hashes : Hashes
  timestamp : UInt64
  extraJson : String → Option String

namespace UsbAccessoryManager

def publish (m : UsbAccessoryManager) (e : AccessoryEvent) : UsbAccessoryManager := { m with trace := m.trace ++ [e] }

/-- The driver keeps its function if it refuses the new one. -/
def setCurrentFunctions (env : AccessoryEnv) (funcs : UInt32) (m : UsbAccessoryManager) : Ret × UsbAccessoryManager :=
  if !m.usbDeviceInterface then (.uec .serviceInvalidValue, m)
  else
    let ret := env.setCurrentFunctions funcs
    (ret, if ret = .ok then { m with hdiFunction := funcs } else m)

def getCurrentFunctions (env : AccessoryEnv) (m : UsbAccessoryManager) : Ret × UInt32 :=
  if !m.usbDeviceInterface then (.uec .serviceInvalidValue, 0) else (env.getCurrentFunctions, m.hdiFunction)

/-- The timer gives the gadget its last function back. -/
def revertTask (env : AccessoryEnv) (m : UsbAccessoryManager) : UsbAccessoryManager :=
  (setCurrentFunctions env m.lastDeviceFunc { m with accStatus := .stop }).2

/-- The timer that takes the accessory function back if the line does not come up. -/
def registerRevert (m : UsbAccessoryManager) : UsbAccessoryManager :=
  let (id, timers) := m.timers.register (.revert, delayAccInterval)
  { m with accDelayTimerId := some id, timers := timers }

/-- A gadget that is an accessory starts its session, any other one is asked to become one. -/
def processAccessoryStart (env : AccessoryEnv) (curFunc : UInt32) (curAccStatus : AccessoryMode)
    (m : UsbAccessoryManager) : UsbAccessoryManager :=
  if isAccessory curFunc && m.accStatus ≠ .start then
    let m := { m with
      toAccessoryManager := Accessory.processAccessoryStart env.hashes env.timestamp env.accessorys m.toAccessoryManager }
    m.publish (.attached m.accessory)
  else if !isAccessory curFunc && curAccStatus = .configuring then
    let (ret, m) := setCurrentFunctions env funAccessory m
    if ret ≠ .ok then m
    else { registerRevert { m with lastDeviceFunc := curFunc } with accStatus := .configuring }
  else m

/-- The gadget gets its last function back, and the manager takes it for set whatever the driver answers. -/
def processAccessoryStop (env : AccessoryEnv) (curFunc : UInt32) (m : UsbAccessoryManager) : UsbAccessoryManager :=
  if isAccessory curFunc && m.accStatus = .start then
    let (_, m) := setCurrentFunctions env m.lastDeviceFunc { m with accStatus := .stop }
    let m := { m with curDeviceFunc := m.lastDeviceFunc }
    m.publish (.detached m.accessory)
  else m

/-- The sixth string is the message. One that cannot be decoded is not broadcast. -/
def processAccessorySend (env : AccessoryEnv) (m : UsbAccessoryManager) : UsbAccessoryManager :=
  let m := { m with accStatus := .send, accessory := m.accessory.setAccessory env.accessorys }
  match env.accessorys[5]? with
  | some extraEcode =>
    if extraEcode = "" then m.publish (.sent {})
    else
      match env.extraJson extraEcode with
      | none => m
      | some extraInfo => m.publish (.sent { description := extraInfo })
  | none => m.publish (.sent {})

/-- Starting and configuring both stop the revert timer first. -/
def processHandle (env : AccessoryEnv) (curAccStatus : AccessoryMode) (m : UsbAccessoryManager) : UsbAccessoryManager :=
  if curAccStatus = .configuring || curAccStatus = .start then
    let m := { m with timers := m.timers.unregister? m.accDelayTimerId }
    let (ret, curFunc) := getCurrentFunctions env m
    if ret ≠ .ok then m else processAccessoryStart env curFunc curAccStatus { m with curDeviceFunc := curFunc }
  else if curAccStatus = .stop && m.accStatus ≠ .configuring then processAccessoryStop env m.curDeviceFunc m
  else if curAccStatus = .send then processAccessorySend env m
  else m

/-- What the event asks for. An up of the line counts only while the function is being set. -/
def curAccStatus (status : UsbdDeviceAction) (m : UsbAccessoryManager) : AccessoryMode :=
  match status with
  | .updevice => if m.accStatus = .configuring then .start else .none
  | .accessoryup => .configuring
  | .downdevice | .accessorydown => .stop
  | .accessorysend => .send
  | .other _ => .none

/-- The timer that holds an up or a down of the line back. -/
def registerAntiShake (m : UsbAccessoryManager) : UsbAccessoryManager :=
  let (id, timers) := m.timers.register (.handleEvent, antiShakeInterval)
  { m with antiShakeDelayTimerId := some id, timers := timers }

/-- The status is kept also for an event that is held back. -/
def handleEvent (env : AccessoryEnv) (status : UsbdDeviceAction) (delayProcess : Bool) (m : UsbAccessoryManager) :
    UsbAccessoryManager :=
  if !m.usbDeviceInterface then m
  else
    let m := { m with eventStatus := status }
    let m := if delayProcess then { m with timers := m.timers.unregister? m.antiShakeDelayTimerId } else m
    if (status = .updevice || status = .downdevice) && delayProcess then registerAntiShake m
    else processHandle env (curAccStatus status m) m

/-- The timer `id` fires, if it is pending. -/
def fire (env : AccessoryEnv) (id : Nat) (m : UsbAccessoryManager) : UsbAccessoryManager :=
  match m.timers.task? id with
  | none => m
  | some (.revert, _) => revertTask env { m with timers := m.timers.unregister id }
  | some (.handleEvent, _) => handleEvent env m.eventStatus false { m with timers := m.timers.unregister id }

/-! ## What a step does -/

/-- The revert timer is stopped before anything else. -/
def stopTimer (m : UsbAccessoryManager) : UsbAccessoryManager :=
  { m with timers := m.timers.unregister? m.accDelayTimerId }

def readFunction (m : UsbAccessoryManager) : UsbAccessoryManager := { m with curDeviceFunc := m.hdiFunction }

/-- After a start: the record is stored and broadcast. -/
def started (env : AccessoryEnv) (m : UsbAccessoryManager) : UsbAccessoryManager :=
  { m with
    toAccessoryManager := Accessory.processAccessoryStart env.hashes env.timestamp env.accessorys m.toAccessoryManager
    trace := m.trace ++ [.attached
      (Accessory.processAccessoryStart env.hashes env.timestamp env.accessorys m.toAccessoryManager).accessory] }

/-- After the driver took the accessory function: the timer runs that takes it back. -/
def configured (m : UsbAccessoryManager) : UsbAccessoryManager :=
  { registerRevert { m with hdiFunction := funAccessory, lastDeviceFunc := m.hdiFunction } with accStatus := .configuring }

/-- The first two modes of `ProcessHandle`, with an interface. -/
inductive Asks (env : AccessoryEnv) (cur : AccessoryMode) (m : UsbAccessoryManager) : UsbAccessoryManager → Prop
  | silent (hget : env.getCurrentFunctions ≠ .ok) : Asks env cur m m.stopTimer
  | start (hget : env.getCurrentFunctions = .ok) (hfunc : isAccessory m.hdiFunction = true)
      (hstatus : m.accStatus ≠ .start) : Asks env cur m (started env m.stopTimer.readFunction)
  | again (hget : env.getCurrentFunctions = .ok) (hfunc : isAccessory m.hdiFunction = true)
      (hstatus : m.accStatus = .start) : Asks env cur m m.stopTimer.readFunction
  | configure (hget : env.getCurrentFunctions = .ok) (hfunc : isAccessory m.hdiFunction = false)
      (hcur : cur = .configuring) (hset : env.setCurrentFunctions funAccessory = .ok) :
      Asks env cur m (configured m.stopTimer.readFunction)
  | refused (hget : env.getCurrentFunctions = .ok) (hfunc : isAccessory m.hdiFunction = false)
      (hset : cur = .configuring → env.setCurrentFunctions funAccessory ≠ .ok) :
      Asks env cur m m.stopTimer.readFunction

theorem processHandle_asks (env : AccessoryEnv) (cur : AccessoryMode) (m : UsbAccessoryManager)
    (hcur : cur = .configuring ∨ cur = .start) (hface : m.usbDeviceInterface = true) :
    Asks env cur m (processHandle env cur m) := by
  have hask : processHandle env cur m =
      if env.getCurrentFunctions ≠ .ok then m.stopTimer
      else processAccessoryStart env m.hdiFunction cur m.stopTimer.readFunction := by
    unfold processHandle getCurrentFunctions
    rcases hcur with rfl | rfl <;> simp [hface, stopTimer, readFunction]
  have hset : setCurrentFunctions env funAccessory m.stopTimer.readFunction =
      (env.setCurrentFunctions funAccessory, if env.setCurrentFunctions funAccessory = .ok then
        { m.stopTimer.readFunction with hdiFunction := funAccessory } else m.stopTimer.readFunction) := by
    unfold setCurrentFunctions
    simp [stopTimer, readFunction, hface]
  rw [hask]
  by_cases hget : env.getCurrentFunctions = .ok
  · rw [if_neg (not_not.mpr hget)]
    unfold processAccessoryStart
    rcases hfunc : isAccessory m.hdiFunction with - | -
    · simp only [Bool.false_and, Bool.false_eq_true, if_false, Bool.not_false, Bool.true_and, decide_eq_true_eq, hset]
      by_cases hconf : cur = .configuring
      · rw [if_pos hconf]
        by_cases hok : env.setCurrentFunctions funAccessory = .ok
        · rw [if_neg (not_not.mpr hok), if_pos hok]
          exact .configure hget hfunc hconf hok
        · rw [if_pos hok, if_neg hok]
          exact .refused hget hfunc fun _ => hok
      · rw [if_neg hconf]
        exact .refused hget hfunc fun h => absurd h hconf
    · by_cases hstatus : m.accStatus = .start
      · have : m.stopTimer.readFunction.accStatus = .start := hstatus
        simp only [this, ne_eq, not_true_eq_false, decide_false, Bool.and_false, Bool.false_eq_true, if_false,
          Bool.not_true, Bool.false_and]
        exact .again hget hfunc hstatus
      · have : m.stopTimer.readFunction.accStatus ≠ .start := hstatus
        simp only [this, ne_eq, not_false_eq_true, decide_true, Bool.and_true, if_true]
        exact .start hget hfunc hstatus
  · rw [if_pos hget]
    exact .silent hget

/-- After a stop, whatever the driver made of the last function. -/
def stopped (env : AccessoryEnv) (m : UsbAccessoryManager) : UsbAccessoryManager :=
  { m with
    accStatus := .stop
    hdiFunction := if env.setCurrentFunctions m.lastDeviceFunc = .ok then m.lastDeviceFunc else m.hdiFunction
    curDeviceFunc := m.lastDeviceFunc
    trace := m.trace ++ [.detached m.accessory] }

theorem processHandle_stop (env : AccessoryEnv) (m : UsbAccessoryManager) (hface : m.usbDeviceInterface = true) :
    processHandle env .stop m =
      if isAccessory m.curDeviceFunc = true ∧ m.accStatus = .start then stopped env m else m := by
  unfold processHandle processAccessoryStop setCurrentFunctions
  by_cases hstatus : m.accStatus = .start
  · rcases hfunc : isAccessory m.curDeviceFunc with - | -
    · simp [hstatus]
    · by_cases hset : env.setCurrentFunctions m.lastDeviceFunc = .ok <;>
        simp [hstatus, hface, hset, stopped, publish]
  · simp [hstatus]

theorem processHandle_send (env : AccessoryEnv) (m : UsbAccessoryManager) :
    ∃ accessory es, processHandle env .send m =
        { m with accStatus := .send, accessory := accessory, trace := m.trace ++ es } ∧
      ∀ e ∈ es, ∃ accessory, e = .sent accessory := by
  unfold processHandle processAccessorySend
  simp only [reduceCtorEq, decide_false, Bool.or_self, Bool.false_eq_true, if_false, Bool.false_and, if_true]
  split
  · split
    · exact ⟨_, _, rfl, by simp⟩
    · split
      · exact ⟨_, [], by rw [List.append_nil], by simp⟩
      · exact ⟨_, _, rfl, by simp⟩
  · exact ⟨_, _, rfl, by simp⟩

theorem processHandle_none (env : AccessoryEnv) (m : UsbAccessoryManager) : processHandle env .none m = m := by
  simp [processHandle]

end UsbAccessoryManager

end UsbManager.Accessory
