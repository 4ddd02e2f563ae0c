import UsbManager.Gadget.HdcNotification

/-!
# What the device manager asks of others

The device manager asks for the function switch window when the connection comes up, and takes it back when the
connection goes down or an accessory shows up. The notification of the connection is sent and cancelled along with it.
-/

namespace UsbManager.Gadget

/-! ## Effects of one kind -/

/-- From `m` to `m'` the effects that `f` picks are `out`. -/
def Emits {β : Type} (f : Effect → Option β) (out : List β) (m m' : UsbDeviceManager) : Prop :=
  ∃ new, m'.trace = m.trace ++ new ∧ new.filterMap f = out

section

variable {β : Type} {f : Effect → Option β} {m m' m'' : UsbDeviceManager} {out out' : List β}

theorem Emits.trans (h : Emits f out m m') (h' : Emits f out' m' m'') : Emits f (out ++ out') m m'' := by
  obtain ⟨new, htrace, hnew⟩ := h
  obtain ⟨new', htrace', hnew'⟩ := h'
  exact ⟨new ++ new', by rw [htrace', htrace, List.append_assoc], by rw [List.filterMap_append, hnew, hnew']⟩

theorem emits_of_trace (h : m'.trace = m.trace) : Emits f [] m m' := ⟨[], by simp [h], rfl⟩

variable (f) in
theorem emits_emit (m : UsbDeviceManager) (e : Effect) : Emits f (f e).toList m (m.emit e) := by
  refine ⟨[e], rfl, ?_⟩
  cases h : f e <;> simp [h]

theorem Emits.drop (h : Emits f out m m') : (m'.trace.drop m.trace.length).filterMap f = out := by
  obtain ⟨new, htrace, hnew⟩ := h
  rw [htrace, List.drop_left, hnew]

end

/-! ## The window -/

/-- Whether the window is asked for or to go. -/
def Effect.request? : Effect → Option Bool
  | .switchWindow connected => some connected
  | _ => none

/-- The window is wanted while the connection is up, unless an accessory has shown up. -/
def UsbDeviceManager.wantsWindow (m : UsbDeviceManager) : Bool := m.connected && !m.isDisableDialog

/-- A step that neither asks for anything nor changes what is wanted. -/
structure Quiet (m m' : UsbDeviceManager) : Prop where
  requests : Emits Effect.request? [] m m'
  connected : m'.connected = m.connected
  isDisableDialog : m'.isDisableDialog = m.isDisableDialog

theorem Quiet.refl (m : UsbDeviceManager) : Quiet m m := ⟨emits_of_trace rfl, rfl, rfl⟩

theorem Quiet.trans {m m' m'' : UsbDeviceManager} (h : Quiet m m') (h' : Quiet m' m'') : Quiet m m'' :=
  ⟨h.requests.trans h'.requests, h'.connected.trans h.connected, h'.isDisableDialog.trans h.isDisableDialog⟩

theorem Quiet.wantsWindow {m m' : UsbDeviceManager} (h : Quiet m m') : m'.wantsWindow = m.wantsWindow := by
  simp [UsbDeviceManager.wantsWindow, h.connected, h.isDisableDialog]

theorem quiet_emit {e : Effect} (he : e.request? = none) (m : UsbDeviceManager) : Quiet m (m.emit e) := by
  refine ⟨?_, rfl, rfl⟩
  simpa [he] using emits_emit Effect.request? m e

theorem quiet_of_trace {m m' : UsbDeviceManager} (h : m'.trace = m.trace) (hc : m'.connected = m.connected)
    (hd : m'.isDisableDialog = m.isDisableDialog) : Quiet m m' :=
  ⟨emits_of_trace h, hc, hd⟩

theorem quiet_processFunctionNotifier (connected : Bool) (func : UInt32) (m : UsbDeviceManager) :
    Quiet m (processFunctionNotifier connected func m) := by
  unfold processFunctionNotifier
  dsimp only
  generalize (if hasFunction func functionMtp then "USB_func_mtp_notifier"
      else if hasFunction func functionPtp then "USB_func_ptp_notifier"
      else if m.isReverseCharge then "USB_func_charge_connected_notifier"
      else "USB_func_charge_notifier") = text
  have hset : ∀ (m : UsbDeviceManager) (b : Bool), Quiet m { m with hasHdcNotifier := b } :=
    fun m b => quiet_of_trace rfl rfl rfl
  split_ifs
  all_goals
    first
      | exact quiet_emit rfl m
      | exact (quiet_emit rfl m).trans ((quiet_emit rfl _).trans (hset _ _))
      | exact (quiet_emit rfl m).trans
          (((quiet_emit rfl _).trans (hset _ _)).trans ((quiet_emit rfl _).trans (hset _ _)))

theorem quiet_updateFunctions (func : UInt32) (m : UsbDeviceManager) : Quiet m (updateFunctions func m) := by
  unfold updateFunctions
  split
  · exact Quiet.refl m
  · have hset : Quiet m { m with currentFunctions := func } := quiet_of_trace rfl rfl rfl
    dsimp only
    split_ifs
    · exact hset.trans (quiet_processFunctionNotifier _ func _)
    · exact (hset.trans (quiet_emit rfl _)).trans (quiet_processFunctionNotifier _ func _)

theorem quiet_setCurrentFunctions (hdi : FunctionHdi) (funcs : UInt32) (m : UsbDeviceManager) :
    Quiet m (setCurrentFunctions hdi funcs m).2 := by
  unfold setCurrentFunctions
  dsimp only
  split_ifs
  iterate 5 exact Quiet.refl m
  have hset : Quiet m { m with hdiFunction := funcs } := quiet_of_trace rfl rfl rfl
  exact hset.trans (quiet_updateFunctions funcs _)

theorem processFuncChange_requests (func : UInt32) (m : UsbDeviceManager) :
    Emits Effect.request? (if m.isDisableDialog then [] else [m.wantsWindow]) m (processFuncChange m.connected func m) ∧
      (processFuncChange m.connected func m).wantsWindow = m.wantsWindow := by
  have hcast : Quiet m (broadcastFuncChange m.connected func m) := quiet_emit rfl m
  unfold processFuncChange
  dsimp only
  rcases hd : m.isDisableDialog with - | -
  · have hwants : m.wantsWindow = m.connected := by simp [UsbDeviceManager.wantsWindow, hd]
    have hdis : (broadcastFuncChange m.connected func m).isDisableDialog = false := hd
    simp only [hdis, Bool.not_false, if_true, Bool.false_eq_true, if_false]
    have hquiet := quiet_processFunctionNotifier m.connected func
      (processFunctionSwitchWindow m.connected (broadcastFuncChange m.connected func m))
    refine ⟨?_, hquiet.wantsWindow.trans ?_⟩
    · have hask := emits_emit Effect.request? (broadcastFuncChange m.connected func m) (.switchWindow m.connected)
      rw [hwants]
      exact (hcast.requests.trans hask).trans hquiet.requests
    · rfl
  · have hdis : (broadcastFuncChange m.connected func m).isDisableDialog = true := hd
    simp only [hdis, Bool.not_true, Bool.false_eq_true, if_false, if_true]
    have hquiet := hcast.trans (quiet_processFunctionNotifier m.connected func _)
    exact ⟨hquiet.requests, hquiet.wantsWindow⟩

/-- A step asks for nothing and leaves what is wanted, or it asks for what is wanted now. -/
def Asks (m m' : UsbDeviceManager) : Prop :=
  Emits Effect.request? [] m m' ∧ m'.wantsWindow = m.wantsWindow ∨ Emits Effect.request? [m'.wantsWindow] m m'

theorem Quiet.asks {m m' : UsbDeviceManager} (h : Quiet m m') : Asks m m' := .inl ⟨h.requests, h.wantsWindow⟩

theorem Asks.trans_quiet {m m' m'' : UsbDeviceManager} (h : Asks m m') (h' : Quiet m' m'') : Asks m m'' := by
  rcases h with ⟨hnone, hwants⟩ | hask
  · exact .inl ⟨hnone.trans h'.requests, h'.wantsWindow.trans hwants⟩
  · right
    rw [h'.wantsWindow]
    exact hask.trans h'.requests

theorem asks_processStatus (status : UsbdDeviceAction) (m : UsbDeviceManager) : Asks m (processStatus status m).2 := by
  have hdisable : Asks m (processFunctionSwitchWindow false { m with isDisableDialog := true }) := by
    refine .inr ⟨[.switchWindow false], rfl, ?_⟩
    simp [Effect.request?, UsbDeviceManager.wantsWindow, processFunctionSwitchWindow, UsbDeviceManager.emit]
  cases status with
  | updevice => exact (quiet_of_trace rfl rfl rfl).asks
  | downdevice => exact (quiet_of_trace rfl rfl rfl).asks
  | accessoryup => exact hdisable
  | accessorydown => exact hdisable
  | accessorysend => exact hdisable
  | other _ => exact (Quiet.refl m).asks

theorem quiet_delayConnect (curConnect : Bool) (m : UsbDeviceManager) : Quiet m (delayConnect curConnect m) := by
  unfold delayConnect UsbDeviceManager.register
  split_ifs <;> exact quiet_of_trace rfl rfl rfl

theorem asks_handleEvent (status : UsbdDeviceAction) (m : UsbDeviceManager) : Asks m (handleEvent status m) := by
  unfold handleEvent
  split
  · exact (Quiet.refl m).asks
  · have hunregister : Quiet (processStatus status m).2 { (processStatus status m).2 with
        timers := (processStatus status m).2.timers.unregister? (processStatus status m).2.delayDisconnTimerId } :=
      quiet_of_trace rfl rfl rfl
    exact (asks_processStatus status m).trans_quiet (hunregister.trans (quiet_delayConnect _ _))

/-- A task sets the connection first and then asks, and no task disables the dialog. -/
theorem asks_processFuncChange {m m' : UsbDeviceManager} (htrace : m'.trace = m.trace)
    (hdisable : m'.isDisableDialog = true → m.isDisableDialog = true) (func : UInt32) :
    Asks m (processFuncChange m'.connected func m') := by
  obtain ⟨hrequests, hsame⟩ := processFuncChange_requests func m'
  have hstart : Emits Effect.request? [] m m' := emits_of_trace htrace
  split at hrequests
  · rename_i hdisabled
    refine .inl ⟨hstart.trans hrequests, hsame.trans ?_⟩
    simp [UsbDeviceManager.wantsWindow, hdisabled, hdisable hdisabled]
  · right
    rw [hsame]
    exact hstart.trans hrequests

theorem asks_connectTask (hdi : FunctionHdi) (m : UsbDeviceManager) : Asks m (connectTask hdi m) := by
  unfold connectTask
  apply asks_processFuncChange
  · split_ifs <;> rfl
  · intro hdisabled
    split_ifs at hdisabled <;> exact hdisabled

theorem asks_disconnectTask (hdi : FunctionHdi) (m : UsbDeviceManager) : Asks m (disconnectTask hdi m) := by
  unfold disconnectTask
  apply asks_processFuncChange
  · dsimp only
    split_ifs <;> rfl
  · intro hdisabled
    dsimp only at hdisabled
    split_ifs at hdisabled <;> simp [resetFunctions] at hdisabled

theorem asks_fire (hdi : FunctionHdi) (id : Nat) (m : UsbDeviceManager) : Asks m (fire hdi id m) := by
  have hunregister : ∀ m' : UsbDeviceManager, Asks { m with timers := m.timers.unregister id } m' → Asks m m' :=
    fun m' h => h
  unfold fire
  split
  · exact (Quiet.refl m).asks
  · rename_i task _ _
    apply hunregister
    cases task with
    | connect => exact asks_connectTask hdi _
    | disconnect => exact asks_disconnectTask hdi _

theorem Op.asks (op : Op) (m : UsbDeviceManager) : Asks m (op.step m) := by
  cases op with
  | handleEvent status => exact asks_handleEvent status m
  | fire hdi id => exact asks_fire hdi id m
  | setCurrentFunctions hdi funcs => exact (quiet_setCurrentFunctions hdi funcs m).asks
  | setPhyConnectState phyConnect => exact (quiet_of_trace rfl rfl rfl).asks
  | setChargeFlag isReverseCharge => exact (quiet_of_trace rfl rfl rfl).asks

theorem quiet_userChangeProcess (hdi : FunctionHdi) (m : UsbDeviceManager) :
    Quiet m ((userChangeProcess hdi m).elim m Prod.snd) := by
  have htake : ∀ funcs, Quiet m (takeFunctions hdi funcs m).2 := by
    intro funcs
    unfold takeFunctions
    dsimp only
    split
    · apply Quiet.trans _ (quiet_emit rfl _)
      exact quiet_of_trace rfl rfl rfl
    · exact quiet_of_trace rfl rfl rfl
  unfold userChangeProcess
  split
  · split
    · exact Quiet.refl m
    · exact (htake _).trans (quiet_processFunctionNotifier _ _ _)
  · exact quiet_processFunctionNotifier _ _ m

theorem FunctionOp.asks (op : FunctionOp) (m : UsbDeviceManager) : Asks m (op.step m) := by
  cases op with
  | line op => exact op.asks m
  | updateFunctions func => exact (quiet_updateFunctions func m).asks
  | userChangeProcess hdi => exact (quiet_userChangeProcess hdi m).asks
  | initUsbDeviceInterface found => exact (quiet_of_trace rfl rfl rfl).asks
  | driver hdiFunction => exact (quiet_of_trace rfl rfl rfl).asks

/-- What a step asks of the window. -/
def FunctionOp.requests (op : FunctionOp) (m : UsbDeviceManager) : List Bool :=
  ((op.step m).trace.drop m.trace.length).filterMap Effect.request?

theorem FunctionOp.requests_cases (op : FunctionOp) (m : UsbDeviceManager) :
    op.requests m = [] ∧ (op.step m).wantsWindow = m.wantsWindow ∨ op.requests m = [(op.step m).wantsWindow] := by
  rcases op.asks m with ⟨hnone, hwants⟩ | hask
  · exact .inl ⟨hnone.drop, hwants⟩
  · exact .inr hask.drop

/-! ## The notification -/

inductive NotifierCall
  | send (func : String)
  | cancel (isHost : Bool)
  deriving DecidableEq, Repr

def Effect.call? : Effect → Option NotifierCall
  | .sendNotification func => some (.send func)
  | .cancelNotification isHost => some (.cancel isHost)
  | _ => none

/-- A step calls nothing and leaves the connection, or it makes one call for the connection that it leaves behind. -/
def Notifies (m m' : UsbDeviceManager) : Prop :=
  Emits Effect.call? [] m m' ∧ m'.connected = m.connected ∨
    ∃ func, Emits Effect.call? [if m'.connected then .send func else .cancel false] m m'

theorem notifies_of_trace {m m' : UsbDeviceManager} (h : m'.trace = m.trace) (hc : m'.connected = m.connected) :
    Notifies m m' :=
  .inl ⟨emits_of_trace h, hc⟩

theorem processFunctionNotifier_calls (func : UInt32) (m : UsbDeviceManager) :
    ∃ text, Emits Effect.call? [if m.connected then .send text else .cancel false] m
      (processFunctionNotifier m.connected func m) := by
  unfold processFunctionNotifier
  dsimp only
  generalize (if hasFunction func functionMtp then "USB_func_mtp_notifier"
      else if hasFunction func functionPtp then "USB_func_ptp_notifier"
      else if m.isReverseCharge then "USB_func_charge_connected_notifier"
      else "USB_func_charge_notifier") = text
  refine ⟨text, ?_⟩
  unfold Emits
  rcases m.connected <;> rcases hasFunction func functionHdc <;> rcases hflag : m.hasHdcNotifier <;>
    simp [UsbDeviceManager.emit, hflag, Effect.call?]

theorem notifies_processFunctionNotifier {m m' : UsbDeviceManager} (h : Emits Effect.call? [] m m') (func : UInt32) :
    Notifies m (processFunctionNotifier m'.connected func m') := by
  obtain ⟨text, hcall⟩ := processFunctionNotifier_calls func m'
  refine .inr ⟨text, ?_⟩
  rw [(processFunctionNotifier_same m'.connected func m').1.connected]
  exact h.trans hcall

theorem notifies_processFuncChange {m m' : UsbDeviceManager} (h : m'.trace = m.trace) (func : UInt32) :
    Notifies m (processFuncChange m'.connected func m') := by
  have hstart : Emits Effect.call? [] m (broadcastFuncChange m'.connected func m') :=
    (emits_of_trace h).trans (emits_emit Effect.call? m' (.broadcast m'.connected func))
  unfold processFuncChange
  dsimp only
  split
  · have hask := hstart.trans (emits_emit Effect.call? _ (.switchWindow m'.connected))
    exact notifies_processFunctionNotifier hask func
  · exact notifies_processFunctionNotifier hstart func

theorem notifies_updateFunctions (func : UInt32) {m m' : UsbDeviceManager} (h : m'.trace = m.trace)
    (hc : m'.connected = m.connected) : Notifies m (updateFunctions func m') := by
  unfold updateFunctions
  split
  · exact notifies_of_trace h hc
  · have hset : Emits Effect.call? [] m { m' with currentFunctions := func } := emits_of_trace h
    dsimp only
    split
    · exact notifies_processFunctionNotifier hset func
    · have hcast := hset.trans (emits_emit Effect.call? _ (.broadcast m'.connected func))
      exact notifies_processFunctionNotifier hcast func

theorem notifies_setCurrentFunctions (hdi : FunctionHdi) (funcs : UInt32) (m : UsbDeviceManager) :
    Notifies m (setCurrentFunctions hdi funcs m).2 := by
  unfold setCurrentFunctions
  dsimp only
  split_ifs
  iterate 5 exact notifies_of_trace rfl rfl
  exact notifies_updateFunctions funcs rfl rfl

theorem delayConnect_frame (curConnect : Bool) (m : UsbDeviceManager) :
    (delayConnect curConnect m).trace = m.trace ∧ (delayConnect curConnect m).connected = m.connected := by
  unfold delayConnect UsbDeviceManager.register
  split_ifs <;> exact ⟨rfl, rfl⟩

theorem notifies_handleEvent (status : UsbdDeviceAction) (m : UsbDeviceManager) :
    Notifies m (handleEvent status m) := by
  have hstatus : Emits Effect.call? [] m (processStatus status m).2 ∧
      (processStatus status m).2.connected = m.connected := by
    cases status with
    | updevice | downdevice | other => exact ⟨emits_of_trace rfl, rfl⟩
    | accessoryup | accessorydown | accessorysend => exact ⟨⟨[.switchWindow false], rfl, rfl⟩, rfl⟩
  unfold handleEvent
  split
  · exact notifies_of_trace rfl rfl
  · obtain ⟨htrace, hconnected⟩ := delayConnect_frame (processStatus status m).1 { (processStatus status m).2 with
        timers := (processStatus status m).2.timers.unregister? (processStatus status m).2.delayDisconnTimerId }
    exact .inl ⟨hstatus.1.trans (emits_of_trace htrace), hconnected.trans hstatus.2⟩

theorem notifies_fire (hdi : FunctionHdi) (id : Nat) (m : UsbDeviceManager) : Notifies m (fire hdi id m) := by
  unfold fire
  split
  · exact notifies_of_trace rfl rfl
  · rename_i task _ _
    cases task with
    | connect =>
      unfold runTask connectTask
      apply notifies_processFuncChange
      dsimp only
      split_ifs <;> rfl
    | disconnect =>
      unfold runTask disconnectTask
      apply notifies_processFuncChange
      dsimp only
      split_ifs <;> rfl

theorem notifies_userChangeProcess (hdi : FunctionHdi) (m : UsbDeviceManager) :
    Notifies m ((userChangeProcess hdi m).elim m Prod.snd) := by
  have htake : ∀ funcs, Emits Effect.call? [] m (takeFunctions hdi funcs m).2 := by
    intro funcs
    unfold takeFunctions
    dsimp only
    split
    · exact ⟨[.broadcast m.connected funcs], rfl, rfl⟩
    · exact emits_of_trace rfl
  unfold userChangeProcess
  split
  · split
    · exact notifies_of_trace rfl rfl
    · exact notifies_processFunctionNotifier (htake _) _
  · exact notifies_processFunctionNotifier (emits_of_trace rfl) _

theorem FunctionOp.notifies (op : FunctionOp) (m : UsbDeviceManager) : Notifies m (op.step m) := by
  cases op with
  | line op =>
    cases op with
    | handleEvent status => exact notifies_handleEvent status m
    | fire hdi id => exact notifies_fire hdi id m
    | setCurrentFunctions hdi funcs => exact notifies_setCurrentFunctions hdi funcs m
    | setPhyConnectState phyConnect => exact notifies_of_trace rfl rfl
    | setChargeFlag isReverseCharge => exact notifies_of_trace rfl rfl
  | updateFunctions func => exact notifies_updateFunctions func rfl rfl
  | userChangeProcess hdi => exact notifies_userChangeProcess hdi m
  | initUsbDeviceInterface found => exact notifies_of_trace rfl rfl
  | driver hdiFunction => exact notifies_of_trace rfl rfl

def FunctionOp.calls (op : FunctionOp) (m : UsbDeviceManager) : List NotifierCall :=
  ((op.step m).trace.drop m.trace.length).filterMap Effect.call?

theorem FunctionOp.calls_cases (op : FunctionOp) (m : UsbDeviceManager) :
    op.calls m = [] ∧ (op.step m).connected = m.connected ∨
      ∃ func, op.calls m = [if (op.step m).connected then .send func else .cancel false] := by
  rcases op.notifies m with ⟨hnone, hconnected⟩ | ⟨func, hcall⟩
  · exact .inl ⟨hnone.drop, hconnected⟩
  · exact .inr ⟨func, hcall.drop⟩

end UsbManager.Gadget
