import UsbManager.Dialog.Params
import UsbManager.Service.Machine

/-!
# Requests that wait for the user

`GetUserAgreementByDiag` of `usb_right_manager.cpp`, run by any number of threads at once. A mutex lets one of them
through; it writes the parameters, resets a semaphore, asks the ability manager for a connection to the dialog and
waits. The ability manager calls back from threads of its own: when the dialog is connected the parameters are sent to
it, and when it is gone the semaphore is posted. In between, everything that the service does goes on.
-/

namespace UsbManager.Dialog

open Rights Service

/-! ## Threads -/

/-- Where the thread that has the mutex is: what it has just done. -/
inductive Stage
  | locked
  | filled
  | initialized
  | prepared
  | waiting
  | woken
  | leaving (agreed : Bool)

/-- A request without the right. The log and the clock of the first check are ghosts. -/
structure Pending where
  request : Request
  before : List Entry
  since : UInt64

/-- Where a thread is: before the first check, refused by it, or past the mutex. -/
inductive Pc
  | outside
  | refused (p : Pending)
  | holding (p : Pending) (stage : Stage)

/-- What the ability manager says to the two calls of `ConnectAbility`. -/
inductive Connected
  | noClient
  | sceneboard
  | systemui
  | failed

/-! ## The world -/

/-- What can be seen from outside. -/
inductive Event (τ : Type)
  | opened (t : τ) (r : Request)
  | shown (message : List (String × String))
  | closed
  | released (t : τ) (r : Request)
  | answered (t : τ) (p : Pending) (agreed : Bool) (after : List Entry)
  | closeSent
  | disconnectSent

/-- Objects of `UsbAbilityConn` are numbers. `sessions` has the connections that the ability manager has accepted and has
not yet reported as gone. -/
structure World (τ ρ : Type) where
  service : Mediation ρ
  thread : τ → Pc
  dialogRunning : Option τ
  usbDialogParams : DialogParams
  waitDialogDisappear : Nat
  usbAbilityConn : Option Nat
  conns : Nat
  remoteObject : Nat → Bool
  clock : UInt64
  sessions : List Nat
  trace : List (Event τ)

namespace World

variable {τ ρ : Type}

def rights (w : World τ ρ) : RightDb := w.service.clients.service.rights

def setRights (w : World τ ρ) (db : RightDb) : World τ ρ :=
  { w with service := { w.service with clients := w.service.clients.setService (w.service.clients.service.setRights db) } }

def log (w : World τ ρ) (e : Event τ) : World τ ρ := { w with trace := e :: w.trace }

def goto [DecidableEq τ] (w : World τ ρ) (t : τ) (pc : Pc) : World τ ρ :=
  { w with thread := Function.update w.thread t pc }

theorem goto_self [DecidableEq τ] (w : World τ ρ) (t : τ) (pc : Pc) : (w.goto t pc).thread t = pc := by
  simp [goto]

theorem goto_of_ne [DecidableEq τ] (w : World τ ρ) {t t' : τ} (h : t' ≠ t) (pc : Pc) :
    (w.goto t pc).thread t' = w.thread t' := by
  simp [goto, h]

end World

/-! ## Steps -/

/-- One step of a thread or one callback of the ability manager. -/
inductive Step (τ ρ : Type)
  | request (t : τ) (env : RightEnv) (r : Request)
  | lock (t : τ)
  | fill (t : τ) (labels : Labels)
  | semInit (t : τ)
  | newConn (t : τ)
  | connectAbility (t : τ) (answer : Connected)
  | semWait (t : τ)
  | hasRight (t : τ) (env : RightEnv)
  | unlock (t : τ)
  | onAbilityConnectDone (conn : Nat) (remoteObject sent : Bool)
  | onAbilityDisconnectDone (conn : Nat)
  | dropRemote (conn : Nat)
  | unShowUsbDialog (client : Bool)
  | service (a : Action ρ)

section Steps

variable {τ ρ : Type} [DecidableEq τ]

/-- The first check. -/
def request (t : τ) (env : RightEnv) (r : Request) (w : World τ ρ) : World τ ρ :=
  match w.thread t with
  | .outside =>
    match Rights.hasRight env r.key w.rights with
    | (true, db) => { w.setRights db with clock := env.now }
    | (false, db) => { w.setRights db with clock := env.now }.goto t (.refused ⟨r, w.service.log, env.now⟩)
  | _ => w

/-- The mutex is held from here to the answer. -/
def lock (t : τ) (w : World τ ρ) : World τ ρ :=
  match w.thread t, w.dialogRunning with
  | .refused p, none => { w with dialogRunning := some t }.goto t (.holding p .locked)
  | _, _ => w

/-- Parameters are shared by all requests. -/
def fillParams (t : τ) (labels : Labels) (w : World τ ρ) : World τ ρ :=
  match w.thread t with
  | .holding p .locked =>
    match p.request.params? labels with
    | none => w.goto t (.holding p (.leaving false))
    | some params => { w with usbDialogParams := params }.goto t (.holding p .filled)
  | _ => w

/-- Posts that an earlier dialog left are forgotten. -/
def semInit (t : τ) (w : World τ ρ) : World τ ρ :=
  match w.thread t with
  | .holding p .filled => { w with waitDialogDisappear := 0 }.goto t (.holding p .initialized)
  | _ => w

/-- The object is kept for the next request. -/
def newConn (t : τ) (w : World τ ρ) : World τ ρ :=
  match w.thread t with
  | .holding p .initialized =>
    match w.usbAbilityConn with
    | some _ => w.goto t (.holding p .prepared)
    | none => { w with usbAbilityConn := some w.conns, conns := w.conns + 1 }.goto t (.holding p .prepared)
  | _ => w

/-- The rest of `ConnectAbility`. A failure of both calls forgets the object, a missing client does not. -/
def connectAbility (t : τ) (answer : Connected) (w : World τ ρ) : World τ ρ :=
  match w.thread t with
  | .holding p .prepared =>
    match answer with
    | .noClient => w.goto t (.holding p (.leaving false))
    | .failed => { w with usbAbilityConn := none }.goto t (.holding p (.leaving false))
    | _ => ({ w with sessions := w.usbAbilityConn.toList ++ w.sessions }.log (.opened t p.request)).goto t
        (.holding p .waiting)
  | _ => w

/-- The thread goes on only after a post. -/
def semWait (t : τ) (w : World τ ρ) : World τ ρ :=
  match w.thread t, w.waitDialogDisappear with
  | .holding p .waiting, n + 1 =>
    ({ w with waitDialogDisappear := n }.log (.released t p.request)).goto t (.holding p .woken)
  | _, _ => w

/-- The second check. -/
def checkAgain (t : τ) (env : RightEnv) (w : World τ ρ) : World τ ρ :=
  match w.thread t with
  | .holding p .woken =>
    match Rights.hasRight env p.request.key w.rights with
    | (agreed, db) =>
      ({ w.setRights db with clock := env.now }.log (.answered t p agreed w.service.log)).goto t
        (.holding p (.leaving agreed))
  | _ => w

def unlock (t : τ) (w : World τ ρ) : World τ ρ :=
  match w.thread t with
  | .holding _ (.leaving _) => { w with dialogRunning := none }.goto t .outside
  | _ => w

/-- The parameters are sent as they are now. -/
def onAbilityConnectDone (conn : Nat) (remoteObject sent : Bool) (w : World τ ρ) : World τ ρ :=
  if !remoteObject then w
  else
    let w := w.log (.shown (dialogMessage w.usbDialogParams))
    if sent then { w with remoteObject := Function.update w.remoteObject conn true } else w

/-- The semaphore is posted before the remote object is dropped. -/
def onAbilityDisconnectDone (conn : Nat) (w : World τ ρ) : World τ ρ :=
  { w with waitDialogDisappear := w.waitDialogDisappear + 1, sessions := w.sessions.erase conn }.log .closed

/-- The second half of `OnAbilityDisconnectDone`. -/
def dropRemote (conn : Nat) (w : World τ ρ) : World τ ρ :=
  { w with remoteObject := Function.update w.remoteObject conn false }

/-- Part of `RemoveDeviceAllRight`, without the mutex. -/
def unShowUsbDialog (client : Bool) (w : World τ ρ) : World τ ρ :=
  match w.usbAbilityConn with
  | none => w
  | some conn =>
    if !client then w
    else
      let w := if w.remoteObject conn then w.log .closeSent else w
      w.log .disconnectSent

variable [DecidableEq ρ]

/-- The clock of a grant is seen. -/
def clockAfter (clock : UInt64) : Action ρ → UInt64
  | .grant env _ _ => env.now
  | _ => clock

def serviceStep (a : Action ρ) (w : World τ ρ) : World τ ρ :=
  { w with service := a.step w.service, clock := clockAfter w.clock a }

def Step.run : Step τ ρ → World τ ρ → World τ ρ
  | .request t env r => Dialog.request t env r
  | .lock t => Dialog.lock t
  | .fill t labels => fillParams t labels
  | .semInit t => Dialog.semInit t
  | .newConn t => Dialog.newConn t
  | .connectAbility t answer => Dialog.connectAbility t answer
  | .semWait t => Dialog.semWait t
  | .hasRight t env => checkAgain t env
  | .unlock t => Dialog.unlock t
  | .onAbilityConnectDone conn remoteObject sent => Dialog.onAbilityConnectDone conn remoteObject sent
  | .onAbilityDisconnectDone conn => Dialog.onAbilityDisconnectDone conn
  | .dropRemote conn => Dialog.dropRemote conn
  | .unShowUsbDialog client => Dialog.unShowUsbDialog client
  | .service a => serviceStep a

end Steps

/-- The process has just started. -/
structure World.AtRest {τ ρ : Type} (w : World τ ρ) : Prop where
  thread : ∀ t, w.thread t = .outside
  dialogRunning : w.dialogRunning = none
  sessions : w.sessions = []
  trace : w.trace = []

end UsbManager.Dialog
