import UsbManager.Gadget.Requests
import UsbManager.Gadget.WindowSafe
import UsbManager.Gadget.WindowTidy
import UsbManager.Lib.Simulation

/-!
# The window and the line

The ability manager reports connections at times of its own, and the boot of the system and the installation of the
dialog show the window late. What a report does to the screen still has to follow the device manager, however their
steps are interleaved.
-/

namespace UsbManager.Gadget

/-! ## The device manager and the window -/

structure Device (τ : Type) where
  manager : UsbDeviceManager
  window : SwitchWindow τ

/-- Both are as their constructors leave them. -/
def Device.Started {τ : Type} (d : Device τ) : Prop :=
  (∃ usbDeviceInterface hdiFunction, d.manager = .new usbDeviceInterface hdiFunction) ∧ d.window = .new

/-- What happens to the window: requests of the device manager, calls that go on, and callbacks. -/
inductive WindowStep (τ : Type)
  | manage (op : FunctionOp) (env : WindowEnv)
  | lock (n : Nat) (env : WindowEnv)
  | held (env : WindowEnv)
  | bootCompletedEventCallback (env : WindowEnv)
  | check (t : τ) (getBundleInfo : Bool) (env : WindowEnv)
  | onAbilityConnectDone (id : Nat) (remoteObject : Bool)
  | report (id : Nat) (sent : Bool) (supportedFuncStr : String)
  | onAbilityDisconnectDone (id : Nat)
  | setGadgetConnPrompt (gadgetConnPrompt : Bool)

variable {τ : Type}

namespace WindowStep

/-- The device manager does its own part of an operation at once. -/
def run [DecidableEq τ] : WindowStep τ → Device τ → Device τ
  | .manage op env, d =>
    ⟨op.step d.manager, (op.requests d.manager).foldl (SwitchWindow.processFunctionSwitchWindow env) d.window⟩
  | .lock n env, d => ⟨d.manager, d.window.lock n env⟩
  | .held env, d => ⟨d.manager, d.window.heldStep env⟩
  | .bootCompletedEventCallback env, d => ⟨d.manager, d.window.bootCompletedEventCallback env⟩
  | .check t getBundleInfo env, d => ⟨d.manager, d.window.checkStep t getBundleInfo env⟩
  | .onAbilityConnectDone id remoteObject, d => ⟨d.manager, d.window.onAbilityConnectDone id remoteObject⟩
  | .report id sent supportedFuncStr, d => ⟨d.manager, d.window.reportStep id sent supportedFuncStr⟩
  | .onAbilityDisconnectDone id, d => ⟨d.manager, d.window.onAbilityDisconnectDone id⟩
  | .setGadgetConnPrompt gadgetConnPrompt, d => ⟨d.manager, { d.window with gadgetConnPrompt := gadgetConnPrompt }⟩

/-- The condition of `Tidy`. -/
def tidy : WindowStep τ → Device τ → Prop
  | .held env, d => d.window.heldTidy env d.window.opMutex
  | .check t _ env, d => d.window.checkTidy env (d.window.check t)
  | _, _ => True

instance (d : Device τ) : ∀ step : WindowStep τ, Decidable (step.tidy d)
  | .held env => inferInstanceAs (Decidable (d.window.heldTidy env d.window.opMutex))
  | .check t _ env => inferInstanceAs (Decidable (d.window.checkTidy env (d.window.check t)))
  | .manage .. | .lock .. | .bootCompletedEventCallback _ | .onAbilityConnectDone .. | .report ..
  | .onAbilityDisconnectDone _ | .setGadgetConnPrompt _ => .isTrue trivial

/-- Requests get `opMutex_` in the order in which they were made. -/
def inOrder : WindowStep τ → Prop
  | .lock n _ => n = 0
  | _ => True

instance : ∀ step : WindowStep τ, Decidable step.inOrder
  | .lock n _ => inferInstanceAs (Decidable (n = 0))
  | .manage .. | .held _ | .bootCompletedEventCallback _ | .check .. | .onAbilityConnectDone .. | .report ..
  | .onAbilityDisconnectDone _ | .setGadgetConnPrompt _ => .isTrue trivial

/-- No request of the device manager or of the boot: calls that go on, and reports. -/
def underWay : WindowStep τ → Prop
  | .held _ | .check .. | .onAbilityConnectDone .. | .report .. => True
  | _ => False

/-- The condition of `Safe`. -/
def patient : WindowStep τ → Device τ → Prop
  | .held env, d => d.window.heldSafe env d.window.opMutex
  | .check t _ env, d => d.window.checkSafe env (d.window.check t)
  | _, _ => True

instance [Fintype τ] (d : Device τ) : ∀ step : WindowStep τ, Decidable (step.patient d)
  | .held env => inferInstanceAs (Decidable (d.window.heldSafe env d.window.opMutex))
  | .check t _ env => inferInstanceAs (Decidable (d.window.checkSafe env (d.window.check t)))
  | .manage .. | .lock .. | .bootCompletedEventCallback _ | .onAbilityConnectDone .. | .report ..
  | .onAbilityDisconnectDone _ | .setGadgetConnPrompt _ => .isTrue trivial

end WindowStep

/-! ## Steps -/

section Steps

variable [DecidableEq τ] {d : Device τ}

theorem manage_cases (op : FunctionOp) (env : WindowEnv) (d : Device τ) :
    op.requests d.manager = [] ∧ ((WindowStep.manage op env).run d).window = d.window ∧
        ((WindowStep.manage op env).run d).manager.wantsWindow = d.manager.wantsWindow ∨
      ∃ connected, op.requests d.manager = [connected] ∧
        ((WindowStep.manage op env).run d).window = d.window.processFunctionSwitchWindow env connected ∧
        ((WindowStep.manage op env).run d).manager.wantsWindow = connected := by
  rcases op.requests_cases d.manager with ⟨hnone, hwants⟩ | hask
  · exact .inl ⟨hnone, by simp [WindowStep.run, hnone], hwants⟩
  · exact .inr ⟨_, hask, by simp [WindowStep.run, hask], rfl⟩

theorem WindowStep.run_sound (h : d.window.Sound) (step : WindowStep τ) : (step.run d).window.Sound := by
  cases step with
  | manage op env =>
    rcases manage_cases op env d with ⟨-, hwindow, -⟩ | ⟨connected, -, hwindow, -⟩
    · rw [hwindow]
      exact h
    · rw [hwindow]
      exact h.request env connected
  | lock n env => exact h.lock n env
  | held env => exact h.heldStep env
  | bootCompletedEventCallback env => exact h.bootCompletedEventCallback env
  | check t getBundleInfo env => exact h.checkStep t getBundleInfo env
  | onAbilityConnectDone id remoteObject => exact h.onAbilityConnectDone id remoteObject
  | report id sent supportedFuncStr => exact h.reportStep id sent supportedFuncStr
  | onAbilityDisconnectDone id => exact h.onAbilityDisconnectDone id
  | setGadgetConnPrompt gadgetConnPrompt =>
    exact ⟨h.allowed, h.showing, h.closing, h.conn_lt, h.sessions_lt, h.holder_lt, h.check_lt, h.reported⟩

theorem WindowStep.run_tidy_iff (h : d.window.Sound) (htidy : d.window.Tidy) (step : WindowStep τ) :
    (step.run d).window.Tidy ↔ step.tidy d := by
  cases step with
  | manage op env =>
    refine iff_of_true ?_ trivial
    rcases manage_cases op env d with ⟨-, hwindow, -⟩ | ⟨connected, -, hwindow, -⟩
    · rw [hwindow]
      exact htidy
    · rw [hwindow]
      exact htidy.request env connected
  | lock n env => exact iff_of_true (htidy.lock h n env) trivial
  | held env => exact htidy.heldStep_iff h env
  | bootCompletedEventCallback env => exact iff_of_true (htidy.bootCompletedEventCallback env) trivial
  | check t getBundleInfo env => exact htidy.checkStep_iff h t getBundleInfo env
  | onAbilityConnectDone id remoteObject => exact iff_of_true (htidy.onAbilityConnectDone id remoteObject) trivial
  | report id sent supportedFuncStr => exact iff_of_true (htidy.reportStep id sent supportedFuncStr) trivial
  | onAbilityDisconnectDone id => exact iff_of_true (htidy.onAbilityDisconnectDone id) trivial
  | setGadgetConnPrompt gadgetConnPrompt => exact iff_of_true htidy trivial

theorem WindowStep.run_safe_iff (h : d.window.Sound) (hsafe : d.window.Safe) (step : WindowStep τ) :
    (step.run d).window.Safe ↔ step.patient d := by
  cases step with
  | manage op env =>
    refine iff_of_true ?_ trivial
    rcases manage_cases op env d with ⟨-, hwindow, -⟩ | ⟨connected, -, hwindow, -⟩
    · rw [hwindow]
      exact hsafe
    · rw [hwindow]
      exact hsafe.request env connected
  | lock n env => exact iff_of_true (hsafe.lock h n env) trivial
  | held env => exact hsafe.heldStep_iff h env
  | bootCompletedEventCallback env => exact iff_of_true (hsafe.bootCompletedEventCallback env) trivial
  | check t getBundleInfo env => exact hsafe.checkStep_iff h t getBundleInfo env
  | onAbilityConnectDone id remoteObject => exact iff_of_true (hsafe.onAbilityConnectDone id remoteObject) trivial
  | report id sent supportedFuncStr => exact iff_of_true (hsafe.reportStep id sent supportedFuncStr) trivial
  | onAbilityDisconnectDone id => exact iff_of_true (hsafe.onAbilityDisconnectDone id) trivial
  | setGadgetConnPrompt gadgetConnPrompt =>
    exact iff_of_true ⟨hsafe.1.congr rfl rfl rfl rfl, hsafe.2⟩ trivial

/-- What is asked for last follows what the device manager wants, as long as requests do not overtake each other. -/
theorem WindowStep.run_asked (h : d.window.Sound) (hasked : d.window.asked = true → d.manager.wantsWindow = true)
    {step : WindowStep τ} (hinOrder : step.inOrder) :
    (step.run d).window.asked = true → (step.run d).manager.wantsWindow = true := by
  cases step with
  | manage op env =>
    rcases manage_cases op env d with ⟨-, hwindow, hwants⟩ | ⟨connected, -, hwindow, hwants⟩
    · rw [hwindow, hwants]
      exact hasked
    · rw [hwindow, hwants]
      exact SwitchWindow.asked_request
  | lock n env =>
    obtain rfl : n = 0 := hinOrder
    simp only [WindowStep.run, SwitchWindow.asked_lock h env]
    exact hasked
  | held env =>
    simp only [WindowStep.run, SwitchWindow.heldStep_asked]
    exact hasked
  | bootCompletedEventCallback env =>
    rcases SwitchWindow.bootCompletedEventCallback_cases env d.window with heq | ⟨-, -, heq⟩
    · simp only [WindowStep.run, heq]
      exact hasked
    · simp only [WindowStep.run, heq]
      exact hasked
  | check t getBundleInfo env =>
    simp only [WindowStep.run, SwitchWindow.checkStep_asked]
    exact hasked
  | onAbilityConnectDone id remoteObject =>
    simp only [WindowStep.run, SwitchWindow.onAbilityConnectDone]
    split_ifs <;> exact hasked
  | report id sent supportedFuncStr =>
    obtain ⟨conn, report, trace, crashed, heq, -⟩ := SwitchWindow.reportStep_frame id sent supportedFuncStr d.window
    simp only [WindowStep.run, heq]
    exact hasked
  | onAbilityDisconnectDone id =>
    simp only [WindowStep.run, SwitchWindow.onAbilityDisconnectDone]
    split_ifs <;> exact hasked
  | setGadgetConnPrompt gadgetConnPrompt => exact hasked

end Steps

/-! ## Runs -/

variable [DecidableEq τ]

/-- As long as requests keep their order and every step is tidy, a report shows the window only while the connection is
up and no accessory has shown up, unless a dismissal is waiting or is going to close it. The first step that is not tidy
leaves an open connection whose report shows a window that is not wanted, or that no dismissal closes. -/
theorem window_follows_line {d : Device τ} (h : Run.Reachable Device.Started WindowStep.run
      (fun (step : WindowStep τ) d => step.inOrder ∧ step.tidy d) d) :
    (∀ id ∈ d.window.sessions, d.window.Shows id → d.window.closes ≠ some id →
      d.window.usbFuncAbilityConn = some id ∧ (d.window.conn id).isAbortDialog = false ∧
        (d.window.waiting = [] → d.manager.connected = true ∧ d.manager.isDisableDialog = false)) ∧
    ∀ step : WindowStep τ, ¬ step.tidy d → ∃ id ∈ (step.run d).window.sessions, (step.run d).window.Shows id ∧
      ¬ (((step.run d).window.conn id).isAbortDialog = false ∧ (step.run d).window.Owned id) := by
  have hinv : d.window.Sound ∧ d.window.Tidy ∧ (d.window.asked = true → d.manager.wantsWindow = true) := by
    refine h.invariant (I := fun d => d.window.Sound ∧ d.window.Tidy ∧
      (d.window.asked = true → d.manager.wantsWindow = true)) (fun d hd => ?_) ?_
    · rw [hd.2]
      exact ⟨SwitchWindow.sound_new, fun id hopen => absurd hopen List.not_mem_nil,
        by simp [SwitchWindow.asked, SwitchWindow.new]⟩
    · rintro step d ⟨hinOrder, hstep⟩ ⟨hsound, htidy, hasked⟩
      exact ⟨step.run_sound hsound, (step.run_tidy_iff hsound htidy).mpr hstep,
        WindowStep.run_asked hsound hasked hinOrder⟩
  obtain ⟨hsound, htidy, hasked⟩ := hinv
  constructor
  · intro id hopen hshows hcloses
    obtain ⟨habort, howned⟩ := htidy id hopen hshows
    obtain ⟨hconn, haction⟩ := howned.resolve_right hcloses
    refine ⟨hconn, habort, fun hwaiting => ?_⟩
    have hwants := hasked (by simp [SwitchWindow.asked, hwaiting, haction])
    simpa [UsbDeviceManager.wantsWindow] using hwants
  · intro step hnot
    have hbroken : ¬ (step.run d).window.Tidy := fun htidy' => hnot ((step.run_tidy_iff hsound htidy).mp htidy')
    unfold SwitchWindow.Tidy at hbroken
    push Not at hbroken
    obtain ⟨id, hopen, hshows, hstray⟩ := hbroken
    exact ⟨id, hopen, hshows, fun hboth => hstray hboth.1 hboth.2⟩

/-- Everything is there, and sceneboard has the dialog. -/
def WindowEnv.usual : WindowEnv :=
  ⟨true, true, "charge,mtp,ptp", true, true, true, fun bundle _ => bundle == "com.ohos.sceneboard"⟩

def Device.fresh : Device Unit := ⟨.new true functionHdc, .new⟩

theorem Device.fresh_started : Device.fresh.Started := ⟨⟨true, functionHdc, rfl⟩, rfl⟩

/-- The dialog is found to be installed, the line comes up, the timer of the connection fires, and the pop-up goes as
far as the connection. -/
def plugIn : List (WindowStep Unit) :=
  [.check () true .usual, .check () true .usual, .check () true .usual, .check () true .usual,
    .manage (.line (.handleEvent .updevice)) .usual, .manage (.line (.fire ⟨.ok, fun _ => .ok⟩ 0)) .usual,
    .lock 0 .usual] ++ List.replicate 7 (.held .usual)

/-- The pop-up is through, and a report has found no abort. -/
def firstReport : List (WindowStep Unit) := plugIn ++ [.onAbilityConnectDone 0 true]

def Device.reported : Device Unit := firstReport.foldl (fun d step => step.run d) Device.fresh

theorem window_follows_line_reported :
    Device.reported.window.report 0 = .sending ∧ Device.reported.window.usbFuncAbilityConn = some 0 ∧
      Device.reported.manager.connected = true ∧ Device.reported.manager.isDisableDialog = false := by
  have hrun := (window_follows_line (Simulation.reachable_foldl (.init Device.fresh_started)
    (show Simulation.Allowed _ _ firstReport _ by decide +kernel))).1 0
      (by decide +kernel) (by decide +kernel) (by decide +kernel)
  exact ⟨by decide +kernel, hrun.1, hrun.2.2 (by decide +kernel)⟩

section Crash

variable {d : Device τ} {id : Nat}

theorem crashed_of_report (hopen : id ∈ d.window.sessions) (hreport : d.window.report id = .outside)
    (habort : (d.window.conn id).isAbortDialog = true) (hremote : (d.window.conn id).remoteObject = false) :
    ((WindowStep.report id false "").run ((WindowStep.onAbilityConnectDone id true).run d)).window.crashed = true := by
  simp [WindowStep.run, SwitchWindow.onAbilityConnectDone, hopen, hreport, habort, SwitchWindow.setReport,
    SwitchWindow.reportStep, hremote]

theorem crashed_of_aborting (hreport : d.window.report id = .aborting)
    (hremote : (d.window.conn id).remoteObject = false) :
    ((WindowStep.report id false "").run d).window.crashed = true := by
  simp [WindowStep.run, SwitchWindow.reportStep, hreport, hremote, SwitchWindow.setReport]

/-- Where the window is not safe, calls and reports alone follow a null pointer. -/
theorem exists_crash (hsafe : ¬ d.window.Safe) : ∃ later : List (WindowStep τ), (∀ step ∈ later, step.underWay) ∧
    (later.foldl (fun d step => step.run d) d).window.crashed = true := by
  by_contra hnever
  push Not at hnever
  have hcrashed : d.window.crashed = false := by simpa using hnever [] (by simp)
  refine hsafe ⟨⟨hcrashed, fun id hopen habort => ?_, fun id hreport => ?_⟩, fun huses => ?_⟩
  · by_contra hboth
    push Not at hboth
    obtain ⟨hremote, hstoring⟩ := hboth
    have hremote : (d.window.conn id).remoteObject = false := by simpa using hremote
    cases hreport : d.window.report id with
    | outside =>
      exact hnever [.onAbilityConnectDone id true, .report id false ""] (by simp [WindowStep.underWay])
        (crashed_of_report hopen hreport habort hremote)
    | aborting =>
      exact hnever [.report id false ""] (by simp [WindowStep.underWay]) (crashed_of_aborting hreport hremote)
    | sending =>
      -- The dialog does not take the request, and the next report finds the abort.
      refine hnever [.report id false "", .onAbilityConnectDone id true, .report id false ""]
        (by simp [WindowStep.underWay]) (crashed_of_report ?_ ?_ ?_ ?_) <;>
        simp [WindowStep.run, SwitchWindow.reportStep, hreport, SwitchWindow.setReport, SwitchWindow.log, hopen, habort,
          hremote]
    | storing => exact hstoring hreport
  · by_contra hremote
    exact hnever [.report id false ""] (by simp [WindowStep.underWay])
      (crashed_of_aborting hreport (by simpa using hremote))
  · by_contra hconn
    have hconn : d.window.usbFuncAbilityConn = none := by simpa using hconn
    rcases huses with hholder | hholder | ⟨t, hcheck⟩
    · apply hnever [.held .usual] (by simp [WindowStep.underWay])
      simp [WindowStep.run, SwitchWindow.heldStep_showing .usual _ _ hholder,
        SwitchWindow.showStep_callReopen_none .usual hconn]
    · apply hnever [.held .usual] (by simp [WindowStep.underWay])
      simp [WindowStep.run, SwitchWindow.heldStep_closing .usual _ _ hholder,
        SwitchWindow.unShowStep_callClose_none .usual hconn]
    · apply hnever [.check t true .usual] (by simp [WindowStep.underWay])
      simp [WindowStep.run, SwitchWindow.checkStep, hcheck, SwitchWindow.showStep_callReopen_none .usual hconn,
        SwitchWindow.goto]

end Crash

/-- No null pointer is followed as long as the window is dismissed only when it is on the screen, nothing aborted is
opened before it has been shown, and no object is dropped that another call has found. After any other step, calls under
way and reports alone can follow one. -/
theorem reports_find_object {d : Device τ} (h : Run.Reachable Device.Started WindowStep.run WindowStep.patient d) :
    d.window.crashed = false ∧ ∀ step : WindowStep τ, ¬ step.patient d → ∃ later : List (WindowStep τ),
      (∀ step ∈ later, step.underWay) ∧
        (later.foldl (fun d step => step.run d) (step.run d)).window.crashed = true := by
  have hinv : d.window.Sound ∧ d.window.Safe := by
    refine h.invariant (I := fun d => d.window.Sound ∧ d.window.Safe) (fun d hd => ?_) ?_
    · rw [hd.2]
      exact ⟨SwitchWindow.sound_new, ⟨rfl, fun id hopen => absurd hopen List.not_mem_nil, by simp [SwitchWindow.new]⟩,
        by simp [SwitchWindow.Uses, SwitchWindow.new]⟩
    · rintro step d hstep ⟨hsound, hsafe⟩
      exact ⟨step.run_sound hsound, (step.run_safe_iff hsound hsafe).mpr hstep⟩
  obtain ⟨hsound, hsafe⟩ := hinv
  refine ⟨hsafe.1.crashed, fun step hnot => exists_crash fun hsafe' => ?_⟩
  exact hnot ((step.run_safe_iff hsound hsafe).mp hsafe')

/-- An accessory shows up before the connection is reported, and the dismissal goes as far as the abort. -/
def unplug : List (WindowStep Unit) :=
  plugIn ++ [.manage (.line (.handleEvent .accessoryup)) .usual, .lock 0 .usual, .held .usual, .held .usual]

def Device.unplugged : Device Unit := unplug.foldl (fun d step => step.run d) Device.fresh

theorem reports_find_object_unplugged :
    Device.unplugged.window.crashed = false ∧ ∃ later : List (WindowStep Unit), (∀ step ∈ later, step.underWay) ∧
      (later.foldl (fun d step => step.run d)
        ((WindowStep.held .usual).run Device.unplugged)).window.crashed = true := by
  have hrun := reports_find_object (Simulation.reachable_foldl (.init Device.fresh_started)
    (show Simulation.Allowed _ _ unplug _ by decide +kernel))
  exact ⟨hrun.1, hrun.2 (.held .usual) (by decide +kernel)⟩

end UsbManager.Gadget
