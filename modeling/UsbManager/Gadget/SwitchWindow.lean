import Mathlib.Data.List.Infix
import UsbManager.Gadget.Connection

/-!
# The function switch window

`usb_function_switch_window.cpp`: the dialog in which the user chooses what the phone is for the other side. The device
manager pops it up and dismisses it. The dialog belongs to another process, which the ability manager connects: the
window is shown when that connection is reported, at a time of its own.

`opMutex_` keeps the requests of the device manager and of the boot apart, and nothing else. An installation check and
the reports of the ability manager come in between any two accesses to a member, so each access is a step.
-/

namespace UsbManager.Gadget

/-! ## Places -/

/-- What was last asked of the window. -/
inductive WindowAction
  | actionDefault
  | actionShow
  | actionDismiss
  | actionForbid
  deriving DecidableEq, Repr

/-- The two dialogs that the ability manager is asked for, the first one first. -/
inductive SystemDialog
  | sceneboard
  | systemui
  deriving DecidableEq

def SystemDialog.bundle : SystemDialog → String
  | .sceneboard => "com.ohos.sceneboard"
  | .systemui => "com.ohos.systemui"

def SystemDialog.ability : SystemDialog → String
  | .sceneboard => "com.ohos.sceneboard.systemdialog"
  | .systemui => "com.ohos.systemui.dialog"

/-- What a thread in `ShowFunctionSwitchWindow` does next. The member `usbFuncAbilityConn` is read again for every
use. -/
inductive Showing
  | testInstalled
  | testConn
  | newConn
  | callReopen
  | reopenDialog (conn : Nat)
  | callConnect (dialog : SystemDialog)
  | connectAbility (dialog : SystemDialog) (conn : Option Nat)
  | dropConn
  deriving DecidableEq

/-- What a thread in `UnShowFunctionSwitchWindow` does next, `CloseDialog` included. -/
inductive Closing
  | testConn
  | callClose
  | closeDialog (conn : Nat)
  | sendClose (conn : Nat)
  | disconnectAbility
  deriving DecidableEq

/-- What the thread that has `opMutex_` does next. -/
inductive Holder
  | showing (next : Showing)
  | closing (next : Closing)
  deriving DecidableEq

/-- Where a thread is in `CheckDialogInstallStatus`. -/
inductive Check
  | outside
  | asking (retryTimes : Nat)
  | asked (retryTimes : Nat)
  | installed
  | showing (next : Showing)
  deriving DecidableEq

/-- Where the report of a connection is in `OnAbilityConnectDone`: it has found the abort or not, and has shown the
window or not. -/
inductive Report
  | outside
  | aborting
  | sending
  | storing
  deriving DecidableEq

/-! ## State -/

/-- An object of `UsbFuncAbilityConn`. -/
structure UsbFuncAbilityConn where
  isAbortDialog : Bool
  remoteObject : Bool

def UsbFuncAbilityConn.new : UsbFuncAbilityConn := ⟨false, false⟩

/-- Commands 1 and 3 to the dialog. -/
inductive WindowEvent
  | showSent (conn : Nat) (message : List (String × String))
  | closeSent (conn : Nat)
  | watched

/-- The objects are numbers, `made` of them so far. `sessions` has those whose connection the ability manager has
accepted and has not reported as gone. `waiting` has the requests that are before `opMutex_`, `opMutex` is empty while
it is free, and `crashed` says that a null pointer was followed. Callbacks of one object come one after the other. -/
structure SwitchWindow (τ : Type) where
  windowAction : WindowAction
  usbFuncAbilityConn : Option Nat
  made : Nat
  conn : Nat → UsbFuncAbilityConn
  isDialogInstalled : Bool
  gadgetConnPrompt : Bool
  waiting : List Bool
  opMutex : Option Holder
  check : τ → Check
  report : Nat → Report
  sessions : List Nat
  trace : List WindowEvent
  crashed : Bool

/-- What the other services answer to one call. `connectAbility` is asked for a bundle and an ability. -/
structure WindowEnv where
  persistGadgetConnPrompt : Bool
  setParameter : Bool
  supportedFunctions : String
  bootCompleted : Bool
  watchParameter : Bool
  abilityManager : Bool
  connectAbility : String → String → Bool

/-! ## Supported functions -/

/-- The word is anywhere in the text. -/
def hasText (text word : String) : Bool := decide (word.toList <:+: text.toList)

/-- The answer for a list that has `none` anywhere. -/
def supportedFuncNone : Int := -1

def supportedFuncMtp : UInt32 := 8

def supportedFuncPtp : UInt32 := 16

def getSupportedFunctions (supportedFuncStr : String) : Int :=
  if hasText supportedFuncStr "none" then supportedFuncNone
  else
    let mtp := if hasText supportedFuncStr "mtp" then supportedFuncMtp else 0
    let ptp := if hasText supportedFuncStr "ptp" then supportedFuncPtp else 0
    ((mtp ||| ptp).toNat : Int)

/-- `PrepareJson`: the members in their order. -/
def prepareJson (supportedFuncStr : String) : List (String × String) :=
  [("supportedFuncs", toString (getSupportedFunctions supportedFuncStr)),
    ("ability.want.params.uiExtensionType", "sysDialog/common")]

namespace SwitchWindow

variable {τ : Type}

def new : SwitchWindow τ where
  windowAction := .actionDefault
  usbFuncAbilityConn := none
  made := 0
  conn := fun _ => .new
  isDialogInstalled := false
  gadgetConnPrompt := true
  waiting := []
  opMutex := none
  check := fun _ => .outside
  report := fun _ => .outside
  sessions := []
  trace := []
  crashed := false

def log (w : SwitchWindow τ) (e : WindowEvent) : SwitchWindow τ := { w with trace := e :: w.trace }

def setConn (w : SwitchWindow τ) (id : Nat) (c : UsbFuncAbilityConn) : SwitchWindow τ :=
  { w with conn := Function.update w.conn id c }

def setAbort (w : SwitchWindow τ) (id : Nat) (isAbortDialog : Bool) : SwitchWindow τ :=
  w.setConn id { w.conn id with isAbortDialog := isAbortDialog }

def setRemote (w : SwitchWindow τ) (id : Nat) (remoteObject : Bool) : SwitchWindow τ :=
  w.setConn id { w.conn id with remoteObject := remoteObject }

def setReport (w : SwitchWindow τ) (id : Nat) (r : Report) : SwitchWindow τ :=
  { w with report := Function.update w.report id r }

def goto [DecidableEq τ] (w : SwitchWindow τ) (t : τ) (c : Check) : SwitchWindow τ :=
  { w with check := Function.update w.check t c }

/-! ## Showing and dismissing -/

/-- One access of `ShowFunctionSwitchWindow`, and what comes next if the call goes on. An object that both dialogs
refuse is dropped, and with it the only way to close its dialog. -/
def showStep (env : WindowEnv) : Showing → SwitchWindow τ → Option Showing × SwitchWindow τ
  | .testInstalled, w => (if w.isDialogInstalled then some .testConn else none, w)
  | .testConn, w => (some (if w.usbFuncAbilityConn.isNone then .newConn else .callReopen), w)
  | .newConn, w =>
    (some .callReopen, { w.setConn w.made .new with usbFuncAbilityConn := some w.made, made := w.made + 1 })
  | .callReopen, w =>
    match w.usbFuncAbilityConn with
    | none => (none, { w with crashed := true })
    | some id => (some (.reopenDialog id), w)
  | .reopenDialog id, w =>
    (if env.abilityManager then some (.callConnect .sceneboard) else none, w.setAbort id false)
  | .callConnect dialog, w => (some (.connectAbility dialog w.usbFuncAbilityConn), w)
  | .connectAbility dialog conn, w =>
    if env.connectAbility dialog.bundle dialog.ability then (none, { w with sessions := conn.toList ++ w.sessions })
    else
      match dialog with
      | .sceneboard => (some (.callConnect .systemui), w)
      | .systemui => (some .dropConn, w)
  | .dropConn, w => (none, { w with usbFuncAbilityConn := none })

/-- One access of `UnShowFunctionSwitchWindow`. The abort is noted before the request to close is sent, and also if
there is nobody to send it to. -/
def unShowStep (env : WindowEnv) : Closing → SwitchWindow τ → Option Closing × SwitchWindow τ
  | .testConn, w =>
    match w.usbFuncAbilityConn with
    | none => (none, w)
    | some _ => (if env.abilityManager then some .callClose else none, w)
  | .callClose, w =>
    match w.usbFuncAbilityConn with
    | none => (none, { w with crashed := true })
    | some id => (some (.closeDialog id), w)
  | .closeDialog id, w => (some (.sendClose id), w.setAbort id true)
  | .sendClose id, w => (some .disconnectAbility, if (w.conn id).remoteObject then w.log (.closeSent id) else w)
  | .disconnectAbility, w => (none, w)

/-- The thread that has `opMutex_` goes on, and releases it when the call returns. -/
def heldStep (env : WindowEnv) (w : SwitchWindow τ) : SwitchWindow τ :=
  match w.opMutex with
  | none => w
  | some (.showing next) =>
    let (next, w) := w.showStep env next
    { w with opMutex := next.map .showing }
  | some (.closing next) =>
    let (next, w) := w.unShowStep env next
    { w with opMutex := next.map .closing }

/-! ## Requests -/

/-- What `PopUpFunctionSwitchWindow` looks at before it takes `opMutex_`. -/
def popUpAllowed (env : WindowEnv) (w : SwitchWindow τ) : Bool × SwitchWindow τ :=
  if !env.persistGadgetConnPrompt then (false, w)
  else if !w.gadgetConnPrompt then (false, if env.setParameter then { w with gadgetConnPrompt := true } else w)
  else (decide (0 ≤ getSupportedFunctions env.supportedFunctions), w)

/-- `PopUpFunctionSwitchWindow` with `opMutex_`. Before the system has booted the window is only noted down. -/
def popUpFunctionSwitchWindow (env : WindowEnv) (w : SwitchWindow τ) : SwitchWindow τ :=
  if w.windowAction = .actionForbid then w
  else
    let w := { w with windowAction := .actionShow }
    if !env.bootCompleted then (if env.watchParameter then w.log .watched else w)
    else { w with opMutex := some (.showing .testInstalled) }

/-- `DismissFunctionSwitchWindow` with `opMutex_`. The dismissal is noted even if the dialog cannot be reached. -/
def dismissFunctionSwitchWindow (w : SwitchWindow τ) : SwitchWindow τ :=
  if w.windowAction = .actionForbid then w
  else { w with windowAction := .actionDismiss, opMutex := some (.closing .testConn) }

/-- `ProcessFunctionSwitchWindow`, as far as `opMutex_`. -/
def processFunctionSwitchWindow (env : WindowEnv) (w : SwitchWindow τ) (connected : Bool) : SwitchWindow τ :=
  if connected then
    match w.popUpAllowed env with
    | (true, w) => { w with waiting := w.waiting ++ [true] }
    | (false, w) => w
  else { w with waiting := w.waiting ++ [false] }

/-- The request at this place takes `opMutex_`, if it is free. -/
def lock (n : Nat) (env : WindowEnv) (w : SwitchWindow τ) : SwitchWindow τ :=
  match w.opMutex, w.waiting[n]? with
  | none, some connected =>
    let w := { w with waiting := w.waiting.eraseIdx n }
    if connected then w.popUpFunctionSwitchWindow env else w.dismissFunctionSwitchWindow
  | _, _ => w

/-! ## Late showing -/

/-- `ShowWindowIfConnected` takes `opMutex_`. It shows late only what has not been dismissed meanwhile. -/
def bootCompletedEventCallback (env : WindowEnv) (w : SwitchWindow τ) : SwitchWindow τ :=
  match w.opMutex with
  | some _ => w
  | none =>
    if env.bootCompleted ∧ w.windowAction = .actionShow then { w with opMutex := some (.showing .testInstalled) }
    else w

/-- A check gives up after 30 turns. -/
def maxRetryTimes : Nat := 30

/-- One access of a thread in `CheckDialogInstallStatus`, which shows the window without `opMutex_`. -/
def checkStep [DecidableEq τ] (t : τ) (getBundleInfo : Bool) (env : WindowEnv) (w : SwitchWindow τ) : SwitchWindow τ :=
  match w.check t with
  | .outside => w.goto t (.asking 0)
  | .asking retryTimes =>
    if retryTimes < maxRetryTimes then { w.goto t (.asked retryTimes) with isDialogInstalled := getBundleInfo }
    else w.goto t .outside
  | .asked retryTimes => w.goto t (if !w.isDialogInstalled then .asking (retryTimes + 1) else .installed)
  | .installed =>
    w.goto t (if w.windowAction = .actionShow ∧ env.bootCompleted then .showing .testInstalled else .outside)
  | .showing next =>
    let (next, w) := w.showStep env next
    w.goto t (next.elim .outside .showing)

/-! ## Callbacks of the ability manager -/

/-- The ability manager reports a connection that it has accepted. -/
def onAbilityConnectDone (id : Nat) (remoteObject : Bool) (w : SwitchWindow τ) : SwitchWindow τ :=
  if id ∈ w.sessions ∧ w.report id = .outside ∧ remoteObject then
    w.setReport id (if (w.conn id).isAbortDialog then .aborting else .sending)
  else w

/-- A report goes on. `sent` says that the dialog took the request to show. The abort goes through the member, which
has the remote object of an earlier report if there was one. -/
def reportStep (id : Nat) (sent : Bool) (supportedFuncStr : String) (w : SwitchWindow τ) : SwitchWindow τ :=
  match w.report id with
  | .outside => w
  | .aborting =>
    (if (w.conn id).remoteObject then w.log (.closeSent id) else { w with crashed := true }).setReport id .outside
  | .sending => (w.log (.showSent id (prepareJson supportedFuncStr))).setReport id (if sent then .storing else .outside)
  | .storing => (w.setRemote id true).setReport id .outside

/-- The object stays for the next dialog. -/
def onAbilityDisconnectDone (id : Nat) (w : SwitchWindow τ) : SwitchWindow τ :=
  if id ∈ w.sessions ∧ w.report id = .outside then
    { w.setRemote id false with sessions := w.sessions.filter (· ≠ id) }
  else w

end SwitchWindow

end UsbManager.Gadget
