import UsbManager.Gadget.Manager
import UsbManager.Lib.Run

/-!
# The line and the broadcast connection

`HandleEvent` takes any event that is not an up of the line for a disconnection. So the connection converges to
the line as long as the other events come while the line is down.
-/

namespace UsbManager.Gadget

/-! ## What the notifications leave alone -/

/-- The connection that the last broadcast named. -/
def lastBroadcast (trace : List Effect) : Bool :=
  trace.foldl (fun last e => match e with | .broadcast connected _ => connected | _ => last) false

/-- Everything but the functions, the notifications and the broadcasts. -/
structure SameLine (m m' : UsbDeviceManager) : Prop where
  usbDeviceInterface : m'.usbDeviceInterface = m.usbDeviceInterface
  connected : m'.connected = m.connected
  gadgetConnected : m'.gadgetConnected = m.gadgetConnected
  delayDisconnTimerId : m'.delayDisconnTimerId = m.delayDisconnTimerId
  timers : m'.timers = m.timers

theorem SameLine.refl (m : UsbDeviceManager) : SameLine m m := ⟨rfl, rfl, rfl, rfl, rfl⟩

theorem SameLine.trans {m m' m'' : UsbDeviceManager} (h : SameLine m m') (h' : SameLine m' m'') : SameLine m m'' :=
  ⟨h'.usbDeviceInterface.trans h.usbDeviceInterface, h'.connected.trans h.connected,
    h'.gadgetConnected.trans h.gadgetConnected, h'.delayDisconnTimerId.trans h.delayDisconnTimerId,
    h'.timers.trans h.timers⟩

theorem lastBroadcast_emit (m : UsbDeviceManager) (e : Effect) :
    lastBroadcast (m.emit e).trace =
      match e with | .broadcast connected _ => connected | _ => lastBroadcast m.trace := by
  rw [UsbDeviceManager.emit, lastBroadcast, List.foldl_append]
  rfl

theorem processFunctionNotifier_same (connected : Bool) (func : UInt32) (m : UsbDeviceManager) :
    SameLine m (processFunctionNotifier connected func m) ∧
      lastBroadcast (processFunctionNotifier connected func m).trace = lastBroadcast m.trace := by
  unfold processFunctionNotifier
  dsimp only
  generalize (if hasFunction func functionMtp then "USB_func_mtp_notifier"
      else if hasFunction func functionPtp then "USB_func_ptp_notifier"
      else if m.isReverseCharge then "USB_func_charge_connected_notifier"
      else "USB_func_charge_notifier") = text
  split_ifs <;> exact ⟨⟨rfl, rfl, rfl, rfl, rfl⟩, by simp [lastBroadcast_emit]⟩

theorem processFuncChange_same (connected : Bool) (func : UInt32) (m : UsbDeviceManager) :
    SameLine m (processFuncChange connected func m) ∧
      lastBroadcast (processFuncChange connected func m).trace = connected := by
  unfold processFuncChange
  refine ⟨SameLine.trans ?_ (processFunctionNotifier_same connected func _).1,
    (processFunctionNotifier_same connected func _).2.trans ?_⟩
  · split_ifs <;> exact ⟨rfl, rfl, rfl, rfl, rfl⟩
  · split_ifs <;> simp [processFunctionSwitchWindow, broadcastFuncChange, lastBroadcast_emit]

theorem updateFunctions_same (func : UInt32) (m : UsbDeviceManager) :
    SameLine m (updateFunctions func m) ∧
      (lastBroadcast m.trace = m.connected → lastBroadcast (updateFunctions func m).trace = m.connected) := by
  unfold updateFunctions
  split
  · exact ⟨SameLine.refl m, fun h => h⟩
  · refine ⟨SameLine.trans ?_ (processFunctionNotifier_same _ func _).1,
      fun h => (processFunctionNotifier_same _ func _).2.trans ?_⟩
    · split_ifs <;> exact ⟨rfl, rfl, rfl, rfl, rfl⟩
    · split_ifs
      · exact h
      · exact lastBroadcast_emit _ _

theorem setCurrentFunctions_same (hdi : FunctionHdi) (funcs : UInt32) (m : UsbDeviceManager) :
    SameLine m (setCurrentFunctions hdi funcs m).2 ∧
      (lastBroadcast m.trace = m.connected →
        lastBroadcast (setCurrentFunctions hdi funcs m).2.trace = m.connected) := by
  unfold setCurrentFunctions
  dsimp only
  split_ifs
  iterate 5 exact ⟨SameLine.refl m, fun h => h⟩
  have hset : SameLine m { m with hdiFunction := funcs } := ⟨rfl, rfl, rfl, rfl, rfl⟩
  obtain ⟨hsame, hlast⟩ := updateFunctions_same funcs { m with hdiFunction := funcs }
  exact ⟨hset.trans hsame, hlast⟩

/-! ## Steps -/

inductive Op
  | handleEvent (status : UsbdDeviceAction)
  | fire (hdi : FunctionHdi) (id : Nat)
  | setCurrentFunctions (hdi : FunctionHdi) (funcs : UInt32)
  | setPhyConnectState (phyConnect : Bool)
  | setChargeFlag (isReverseCharge : Bool)

def Op.step : Op → UsbDeviceManager → UsbDeviceManager
  | .handleEvent status, m => Gadget.handleEvent status m
  | .fire hdi id, m => Gadget.fire hdi id m
  | .setCurrentFunctions hdi funcs, m => (Gadget.setCurrentFunctions hdi funcs m).2
  | .setPhyConnectState phyConnect, m => { m with phyConnect := phyConnect }
  | .setChargeFlag isReverseCharge, m => { m with isReverseCharge := isReverseCharge }

/-- Events other than those of the line come while the line is down. -/
def Op.sound : Op → UsbDeviceManager → Prop
  | .handleEvent status, m => status ≠ .updevice → status ≠ .downdevice → m.gadgetConnected = false
  | _, _ => True

/-- What a pending task is going to make of the connection. -/
def Task.target : Task → Bool
  | .connect => true
  | .disconnect => false

/-- At most the last timer is pending. It moves the connection to the line, and without it they agree. -/
structure Follows (m : UsbDeviceManager) : Prop where
  usbDeviceInterface : m.gadgetConnected = true → m.usbDeviceInterface = true
  only : ∀ id e, m.timers.task? id = some e → m.delayDisconnTimerId = some id
  pending : ∀ id e, m.timers.task? id = some e → m.gadgetConnected = e.1.target ∧ m.connected = !e.1.target
  settled : m.timers.Idle → m.connected = m.gadgetConnected
  broadcast : lastBroadcast m.trace = m.connected

theorem Follows.same {m m' : UsbDeviceManager} (hm : Follows m) (h : SameLine m m')
    (hlast : lastBroadcast m'.trace = m.connected) : Follows m' := by
  refine ⟨?_, ?_, ?_, ?_, hlast.trans h.connected.symm⟩
  · rw [h.gadgetConnected, h.usbDeviceInterface]
    exact hm.usbDeviceInterface
  · rw [h.timers, h.delayDisconnTimerId]
    exact hm.only
  · rw [h.timers, h.gadgetConnected, h.connected]
    exact hm.pending
  · rw [h.timers, h.gadgetConnected, h.connected]
    exact hm.settled

theorem Follows.idle_unregister {m : UsbDeviceManager} (hm : Follows m) :
    (m.timers.unregister? m.delayDisconnTimerId).Idle := by
  intro id
  rw [Timers.task?_unregister?]
  split
  · rfl
  · rename_i hid
    rcases htask : m.timers.task? id with - | e
    · rfl
    · exact absurd (hm.only id e htask) hid

/-- Where nothing is pending, the connection is at `curConnect` afterwards, or a task takes it there. -/
structure Delayed (curConnect : Bool) (m m' : UsbDeviceManager) : Prop where
  usbDeviceInterface : m'.usbDeviceInterface = m.usbDeviceInterface
  connected : m'.connected = m.connected
  gadgetConnected : m'.gadgetConnected = m.gadgetConnected
  trace : m'.trace = m.trace
  only : ∀ id e, m'.timers.task? id = some e → m'.delayDisconnTimerId = some id
  pending : ∀ id e, m'.timers.task? id = some e → curConnect = e.1.target ∧ m.connected = !curConnect
  settled : m'.timers.Idle → m.connected = curConnect

theorem register_delayed (m : UsbDeviceManager) (hidle : m.timers.Idle) (task : Task) (interval : Nat)
    (hneeded : m.connected = !task.target) : Delayed task.target m (m.register task interval) := by
  have htask : ∀ id, (m.register task interval).timers.task? id =
      if id = m.timers.next then some (task, interval) else none := by
    intro id
    refine (Timers.task?_register _ _ _).trans ?_
    rw [hidle id]
  refine ⟨rfl, rfl, rfl, rfl, fun id e he => ?_, fun id e he => ?_, fun h => ?_⟩
  · rw [htask] at he
    split at he
    · rename_i hid
      exact congrArg some hid.symm
    · cases he
  · rw [htask] at he
    split at he
    · obtain rfl := Option.some.inj he
      exact ⟨rfl, hneeded⟩
    · cases he
  · have hnow := h m.timers.next
    rw [htask, if_pos rfl] at hnow
    cases hnow

theorem delayConnect_delayed (curConnect : Bool) (m : UsbDeviceManager) (hidle : m.timers.Idle) :
    Delayed curConnect m (delayConnect curConnect m) := by
  have hsame : m.connected = curConnect → Delayed curConnect m m := fun h =>
    ⟨rfl, rfl, rfl, rfl, fun id e he => (by rw [hidle id] at he; cases he),
      fun id e he => (by rw [hidle id] at he; cases he), fun _ => h⟩
  unfold delayConnect
  rcases hc : m.connected with - | - <;> rcases curConnect with - | -
  · exact hsame hc
  · exact register_delayed m hidle .connect _ hc
  · exact register_delayed m hidle .disconnect _ hc
  · exact hsame hc

theorem delayConnect_gadgetConnected (curConnect : Bool) (m : UsbDeviceManager) :
    (delayConnect curConnect m).gadgetConnected = m.gadgetConnected := by
  unfold delayConnect
  split_ifs <;> rfl

theorem processStatus_same (status : UsbdDeviceAction) (m : UsbDeviceManager) :
    let m' := (processStatus status m).2
    m'.usbDeviceInterface = m.usbDeviceInterface ∧ m'.connected = m.connected ∧
      m'.delayDisconnTimerId = m.delayDisconnTimerId ∧ m'.timers = m.timers ∧
      lastBroadcast m'.trace = lastBroadcast m.trace := by
  cases status <;> exact ⟨rfl, rfl, rfl, rfl, by simp [processStatus, processFunctionSwitchWindow, lastBroadcast_emit]⟩

theorem handleEvent_delayed (status : UsbdDeviceAction) (m : UsbDeviceManager) (hm : Follows m)
    (hface : m.usbDeviceInterface = true) :
    ∃ m₁ : UsbDeviceManager, m₁.usbDeviceInterface = true ∧ m₁.connected = m.connected ∧
      m₁.gadgetConnected = (processStatus status m).2.gadgetConnected ∧
      lastBroadcast m₁.trace = m.connected ∧ Delayed (processStatus status m).1 m₁ (handleEvent status m) := by
  obtain ⟨hinterface, hconnected, hid, htimers, hlast⟩ := processStatus_same status m
  have hidle := hm.idle_unregister
  rw [← htimers, ← hid] at hidle
  unfold handleEvent
  rw [hface] at hinterface ⊢
  rcases hstatus : processStatus status m with ⟨curConnect, m₁⟩
  rw [hstatus] at hinterface hconnected hlast hidle
  exact ⟨{ m₁ with timers := m₁.timers.unregister? m₁.delayDisconnTimerId }, hinterface, hconnected, rfl,
    hlast.trans hm.broadcast, delayConnect_delayed curConnect _ hidle⟩

theorem handleEvent_sound_iff (status : UsbdDeviceAction) (m : UsbDeviceManager) :
    (Op.handleEvent status).sound m ↔ (processStatus status m).2.gadgetConnected = (processStatus status m).1 := by
  cases status <;> simp [Op.sound, processStatus, processFunctionSwitchWindow, UsbDeviceManager.emit]

theorem Follows.handleEvent {m : UsbDeviceManager} (hm : Follows m) (status : UsbdDeviceAction)
    (hop : (Op.handleEvent status).sound m) : Follows (handleEvent status m) := by
  rcases hface : m.usbDeviceInterface with - | -
  · unfold Gadget.handleEvent
    simpa [hface] using hm
  · obtain ⟨m₁, hinterface, hconnected, hgadget, hlast, hdelayed⟩ := handleEvent_delayed status m hm hface
    rw [(handleEvent_sound_iff status m).mp hop] at hgadget
    refine ⟨fun _ => ?_, hdelayed.only, fun id e he => ?_, fun h => ?_, ?_⟩
    · rw [hdelayed.usbDeviceInterface, hinterface]
    · obtain ⟨htarget, hneeded⟩ := hdelayed.pending id e he
      rw [hdelayed.gadgetConnected, hdelayed.connected, hgadget, hneeded, htarget]
      exact ⟨rfl, rfl⟩
    · rw [hdelayed.gadgetConnected, hdelayed.connected, hgadget, hdelayed.settled h]
    · rw [hdelayed.trace, hdelayed.connected, hlast, hconnected]

theorem runTask_same (hdi : FunctionHdi) (task : Task) (m : UsbDeviceManager) :
    SameLine { m with connected := task.target } (runTask hdi task m) ∧
      lastBroadcast (runTask hdi task m).trace = task.target := by
  cases task with
  | connect =>
    unfold runTask connectTask
    refine ⟨SameLine.trans ?_ (processFuncChange_same _ _ _).1, (processFuncChange_same _ _ _).2.trans ?_⟩
    · split_ifs <;> exact ⟨rfl, rfl, rfl, rfl, rfl⟩
    · split_ifs <;> rfl
  | disconnect =>
    unfold runTask disconnectTask
    refine ⟨SameLine.trans ?_ (processFuncChange_same _ _ _).1, (processFuncChange_same _ _ _).2.trans ?_⟩
    · split_ifs <;> exact ⟨rfl, rfl, rfl, rfl, rfl⟩
    · split_ifs <;> rfl

theorem fire_idle (hdi : FunctionHdi) (id : Nat) (e : Task × Nat) (m : UsbDeviceManager)
    (honly : ∀ id e, m.timers.task? id = some e → m.delayDisconnTimerId = some id)
    (he : m.timers.task? id = some e) : (fire hdi id m).timers.Idle := by
  unfold fire
  rw [he]
  intro id'
  rw [(runTask_same hdi e.1 { m with timers := m.timers.unregister id }).1.timers]
  refine (Timers.task?_unregister id m.timers id').trans ?_
  split
  · rfl
  · rename_i hne
    rcases he' : m.timers.task? id' with - | e'
    · rfl
    · exact absurd (Option.some.inj ((honly id' e' he').symm.trans (honly id e he))) hne

theorem fire_line (hdi : FunctionHdi) (id : Nat) (e : Task × Nat) (m : UsbDeviceManager)
    (he : m.timers.task? id = some e) :
    (fire hdi id m).connected = e.1.target ∧ (fire hdi id m).gadgetConnected = m.gadgetConnected ∧
      (fire hdi id m).usbDeviceInterface = m.usbDeviceInterface ∧ lastBroadcast (fire hdi id m).trace = e.1.target := by
  unfold fire
  rw [he]
  obtain ⟨hsame, hlast⟩ := runTask_same hdi e.1 { m with timers := m.timers.unregister id }
  exact ⟨hsame.connected, hsame.gadgetConnected, hsame.usbDeviceInterface, hlast⟩

theorem Follows.fire {m : UsbDeviceManager} (hm : Follows m) (hdi : FunctionHdi) (id : Nat) :
    Follows (fire hdi id m) := by
  rcases he : m.timers.task? id with - | e
  · unfold Gadget.fire
    rw [he]
    exact hm
  · obtain ⟨hconnected, hgadget, hinterface, hlast⟩ := fire_line hdi id e m he
    have hidle := fire_idle hdi id e m hm.only he
    refine ⟨?_, fun id' e' he' => ?_, fun id' e' he' => ?_, fun _ => ?_, hlast.trans hconnected.symm⟩
    · rw [hgadget, hinterface]
      exact hm.usbDeviceInterface
    · rw [hidle id'] at he'
      cases he'
    · rw [hidle id'] at he'
      cases he'
    · rw [hconnected, hgadget, (hm.pending id e he).1]

theorem Op.step_follows (op : Op) (m : UsbDeviceManager) (hop : op.sound m) (hm : Follows m) : Follows (op.step m) := by
  cases op with
  | handleEvent status => exact hm.handleEvent status hop
  | fire hdi id => exact hm.fire hdi id
  | setCurrentFunctions hdi funcs =>
    obtain ⟨hsame, hlast⟩ := setCurrentFunctions_same hdi funcs m
    exact hm.same hsame (hlast hm.broadcast)
  | setPhyConnectState phyConnect => exact hm.same ⟨rfl, rfl, rfl, rfl, rfl⟩ hm.broadcast
  | setChargeFlag isReverseCharge => exact hm.same ⟨rfl, rfl, rfl, rfl, rfl⟩ hm.broadcast

/-! ## Every run -/

abbrev Reachable (C : Op → UsbDeviceManager → Prop) : UsbDeviceManager → Prop :=
  Run.Reachable (fun m => ∃ usbDeviceInterface hdiFunction, m = UsbDeviceManager.new usbDeviceInterface hdiFunction)
    Op.step C

/-- Without a timer the connection is that of the line, and it is what was broadcast last. -/
def Settled (m : UsbDeviceManager) : Prop :=
  m.timers.Idle → m.connected = m.gadgetConnected ∧ lastBroadcast m.trace = m.connected

theorem Follows.new (usbDeviceInterface : Bool) (hdiFunction : UInt32) :
    Follows (UsbDeviceManager.new usbDeviceInterface hdiFunction) := by
  refine ⟨fun h => ?_, fun _ _ h => ?_, fun _ _ h => ?_, fun _ => rfl, rfl⟩ <;> cases h

theorem Follows.unsettled {m : UsbDeviceManager} (hm : Follows m) (op : Op) (hop : ¬ op.sound m) :
    ¬ Settled (op.step m) ∨ ∀ hdi, ∃ id, ¬ Settled ((Op.fire hdi id).step (op.step m)) := by
  cases op with
  | handleEvent status =>
    simp only [Op.sound, not_forall, Bool.not_eq_false] at hop
    obtain ⟨hup, hdown, hline⟩ := hop
    obtain ⟨m₁, -, hconnected, hgadget, -, hdelayed⟩ :=
      handleEvent_delayed status m hm (hm.usbDeviceInterface hline)
    obtain ⟨hcur, hkeep⟩ : (processStatus status m).1 = false ∧ (processStatus status m).2.gadgetConnected = true := by
      cases status <;> simp_all [processStatus, processFunctionSwitchWindow, UsbDeviceManager.emit]
    rw [hcur] at hdelayed
    rw [hkeep] at hgadget
    have hgadget' := hdelayed.gadgetConnected.trans hgadget
    by_cases hidle : (Gadget.handleEvent status m).timers.Idle
    · left
      intro h
      have hagree := (h hidle).1
      change (Gadget.handleEvent status m).connected = (Gadget.handleEvent status m).gadgetConnected at hagree
      rw [hdelayed.connected, hdelayed.settled hidle, hgadget'] at hagree
      cases hagree
    · right
      intro hdi
      simp only [Timers.Idle, not_forall] at hidle
      obtain ⟨id, hid⟩ := hidle
      obtain ⟨e, he⟩ := Option.ne_none_iff_exists'.mp hid
      obtain ⟨hfired, hfiredGadget, -, -⟩ := fire_line hdi id e _ he
      refine ⟨id, fun h => ?_⟩
      have hagree := (h (fire_idle hdi id e _ hdelayed.only he)).1
      change (Gadget.fire hdi id (Gadget.handleEvent status m)).connected =
        (Gadget.fire hdi id (Gadget.handleEvent status m)).gadgetConnected at hagree
      rw [hfired, hfiredGadget, hgadget', ← (hdelayed.pending id e he).1] at hagree
      cases hagree
  | fire hdi id => exact absurd trivial hop
  | setCurrentFunctions hdi funcs => exact absurd trivial hop
  | setPhyConnectState phyConnect => exact absurd trivial hop
  | setChargeFlag isReverseCharge => exact absurd trivial hop

theorem Op.step_gadgetConnected (op : Op) (m : UsbDeviceManager) (hup : op ≠ .handleEvent .updevice)
    (hdown : op ≠ .handleEvent .downdevice) : (op.step m).gadgetConnected = m.gadgetConnected := by
  cases op with
  | handleEvent status =>
    have hkeep : (processStatus status m).2.gadgetConnected = m.gadgetConnected := by
      cases status <;> first | rfl | exact absurd rfl hup | exact absurd rfl hdown
    show (Gadget.handleEvent status m).gadgetConnected = m.gadgetConnected
    unfold Gadget.handleEvent
    split
    · rfl
    · exact (delayConnect_gadgetConnected _ _).trans hkeep
  | fire hdi id =>
    show (Gadget.fire hdi id m).gadgetConnected = m.gadgetConnected
    rcases he : m.timers.task? id with - | e
    · simp [Gadget.fire, he]
    · exact (fire_line hdi id e m he).2.1
  | setCurrentFunctions hdi funcs =>
    exact (setCurrentFunctions_same hdi funcs m).1.gadgetConnected
  | setPhyConnectState phyConnect => rfl
  | setChargeFlag isReverseCharge => rfl

/-- Only the events of the line change it. In every run of sound steps the connection settles on it, and a step
that is not sound takes it away from the line, now or when the timer that it registers fires. -/
theorem connection_settles (m : UsbDeviceManager) :
    (∀ op : Op, op ≠ .handleEvent .updevice → op ≠ .handleEvent .downdevice →
      (op.step m).gadgetConnected = m.gadgetConnected) ∧
    (Reachable Op.sound m → Settled m ∧ ∀ op : Op, ¬ op.sound m →
      ¬ Settled (op.step m) ∨ ∀ hdi, ∃ id, ¬ Settled ((Op.fire hdi id).step (op.step m))) := by
  refine ⟨fun op hup hdown => op.step_gadgetConnected m hup hdown, fun hm => ?_⟩
  have hrun : Follows m := by
    refine hm.invariant ?_ Op.step_follows
    rintro - ⟨usbDeviceInterface, hdiFunction, rfl⟩
    exact Follows.new usbDeviceInterface hdiFunction
  exact ⟨fun hidle => ⟨hrun.settled hidle, hrun.broadcast⟩, hrun.unsettled⟩

def succeeding : FunctionHdi := ⟨.ok, fun _ => .ok⟩

/-- The line is up and the connect task has run. -/
def plugged : UsbDeviceManager :=
  (Op.fire succeeding 0).step ((Op.handleEvent .updevice).step (UsbDeviceManager.new true functionHdc))

theorem plugged_reachable : Reachable Op.sound plugged :=
  .step _ (.step _ (.init ⟨true, functionHdc, rfl⟩) fun h => absurd rfl h) trivial

theorem connection_settles_plugged : plugged.connected = true ∧ Settled plugged :=
  ⟨by decide +kernel, ((connection_settles plugged).2 plugged_reachable).1⟩

/-- An accessory event on a connected line: the disconnect task runs, and the line is still up. -/
theorem connection_lost_on_accessory :
    let m := (Op.fire succeeding 1).step ((Op.handleEvent .accessoryup).step plugged)
    Reachable (fun _ _ => True) m ∧ m.gadgetConnected = true ∧ m.connected = false ∧ m.timers.Idle ∧ ¬ Settled m := by
  intro m
  have hline : m.gadgetConnected = true := by decide +kernel
  have hlost : m.connected = false := by decide +kernel
  have hidle : m.timers.Idle := by
    intro id
    have hnone : m.timers.pending.entries = [] := by decide +kernel
    rw [Timers.task?, StdMap.find?, hnone]
    rfl
  refine ⟨?_, hline, hlost, hidle, fun h => ?_⟩
  · exact .step _ (.step _ (.step _ (.step _ (.init ⟨true, functionHdc, rfl⟩) trivial) trivial) trivial) trivial
  · have := (h hidle).1
    rw [hline, hlost] at this
    cases this

end UsbManager.Gadget
