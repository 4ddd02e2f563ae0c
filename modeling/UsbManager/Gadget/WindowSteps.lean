import UsbManager.Gadget.SwitchWindow

/-!
# Steps of the window

What one access of a thread changes, and what holds of the window at any time: the thread that has `opMutex_` goes on
with what was asked for last, and only open connections are reported.
-/

namespace UsbManager.Gadget

namespace SwitchWindow

variable {τ : Type}

/-! ## What every step keeps -/

/-- What the last request asks for, whether it has been heard or not. -/
def asked (w : SwitchWindow τ) : Bool := w.waiting.getLast?.getD (decide (w.windowAction = .actionShow))

/-- Who has `opMutex_` goes on with what was asked for last, and objects are old. -/
structure Sound (w : SwitchWindow τ) : Prop where
  allowed : w.windowAction ≠ .actionForbid
  showing : ∀ next, w.opMutex = some (.showing next) → w.windowAction = .actionShow
  closing : ∀ next, w.opMutex = some (.closing next) → w.windowAction = .actionDismiss
  conn_lt : ∀ id ∈ w.usbFuncAbilityConn, id < w.made
  sessions_lt : ∀ id ∈ w.sessions, id < w.made
  holder_lt : ∀ dialog id, w.opMutex = some (.showing (.connectAbility dialog (some id))) → id < w.made
  check_lt : ∀ t dialog id, w.check t = .showing (.connectAbility dialog (some id)) → id < w.made
  reported : ∀ id, w.report id ≠ .outside → id ∈ w.sessions

theorem sound_new : (new : SwitchWindow τ).Sound := by
  constructor <;> simp [new]

section Objects

variable (w : SwitchWindow τ) {id id' : Nat}

theorem setAbort_conn_of_ne (h : id' ≠ id) (isAbortDialog : Bool) :
    (w.setAbort id isAbortDialog).conn id' = w.conn id' :=
  Function.update_of_ne h _ _

theorem setRemote_conn_of_ne (h : id' ≠ id) (remoteObject : Bool) :
    (w.setRemote id remoteObject).conn id' = w.conn id' :=
  Function.update_of_ne h _ _

theorem setAbort_remoteObject (id id' : Nat) (isAbortDialog : Bool) :
    ((w.setAbort id isAbortDialog).conn id').remoteObject = (w.conn id').remoteObject := by
  by_cases hid : id' = id <;> simp [setAbort, setConn, hid]

end Objects

section Member

variable (env : WindowEnv) {w : SwitchWindow τ} {id : Nat}

theorem showStep_callReopen_none (h : w.usbFuncAbilityConn = none) :
    w.showStep env .callReopen = (none, { w with crashed := true }) := by
  simp [showStep, h]

theorem showStep_callReopen_some (h : w.usbFuncAbilityConn = some id) :
    w.showStep env .callReopen = (some (.reopenDialog id), w) := by
  simp [showStep, h]

theorem showStep_connectAbility_accepted {dialog : SystemDialog} (conn : Option Nat)
    (h : env.connectAbility dialog.bundle dialog.ability = true) :
    w.showStep env (.connectAbility dialog conn) = (none, { w with sessions := conn.toList ++ w.sessions }) := by
  simp [showStep, h]

theorem showStep_connectAbility_refused {dialog : SystemDialog} (conn : Option Nat)
    (h : env.connectAbility dialog.bundle dialog.ability = false) :
    w.showStep env (.connectAbility dialog conn) =
      (some (if dialog = .sceneboard then .callConnect .systemui else .dropConn), w) := by
  cases dialog <;> simp [showStep, h]

theorem unShowStep_testConn_none (h : w.usbFuncAbilityConn = none) : w.unShowStep env .testConn = (none, w) := by
  simp [unShowStep, h]

theorem unShowStep_testConn_some (h : w.usbFuncAbilityConn = some id) :
    w.unShowStep env .testConn = (if env.abilityManager then some .callClose else none, w) := by
  simp [unShowStep, h]

theorem unShowStep_callClose_none (h : w.usbFuncAbilityConn = none) :
    w.unShowStep env .callClose = (none, { w with crashed := true }) := by
  simp [unShowStep, h]

theorem unShowStep_callClose_some (h : w.usbFuncAbilityConn = some id) :
    w.unShowStep env .callClose = (some (.closeDialog id), w) := by
  simp [unShowStep, h]

end Member

section Show

variable (env : WindowEnv) (next : Showing) (w : SwitchWindow τ)

/-- What showing changes, and what it can open. -/
theorem showStep_frame : ∃ usbFuncAbilityConn made conn sessions crashed,
    (w.showStep env next).2 =
      { w with
        usbFuncAbilityConn := usbFuncAbilityConn
        made := made
        conn := conn
        sessions := sessions
        crashed := crashed } ∧
    w.made ≤ made ∧
    (∀ id ∈ usbFuncAbilityConn, id ∈ w.usbFuncAbilityConn ∨ id < made) ∧
    (∀ id ∈ w.sessions, id ∈ sessions) ∧
    (∀ id ∈ sessions, id ∈ w.sessions ∨ ∃ dialog, next = .connectAbility dialog (some id)) ∧
    ∀ dialog id, (w.showStep env next).1 = some (.connectAbility dialog (some id)) → id ∈ w.usbFuncAbilityConn := by
  cases next with
  | testInstalled =>
    refine ⟨_, _, _, _, _, rfl, le_rfl, ?_, ?_, ?_, ?_⟩ <;> simp +contextual [showStep]
  | testConn =>
    refine ⟨_, _, _, _, _, rfl, le_rfl, ?_, ?_, ?_, ?_⟩ <;> simp +contextual [showStep]
    split <;> simp
  | newConn =>
    refine ⟨some w.made, w.made + 1, _, _, _, rfl, Nat.le_succ _, ?_, ?_, ?_, ?_⟩ <;>
      simp +contextual [showStep, setConn]
  | callReopen =>
    obtain hconn | ⟨id, hconn⟩ := Option.eq_none_or_eq_some w.usbFuncAbilityConn
    · rw [showStep_callReopen_none env hconn]
      refine ⟨_, _, _, _, _, rfl, le_rfl, ?_, ?_, ?_, ?_⟩ <;> simp +contextual
    · rw [showStep_callReopen_some env hconn]
      refine ⟨_, _, _, _, _, rfl, le_rfl, ?_, ?_, ?_, ?_⟩ <;> simp +contextual
  | reopenDialog id =>
    refine ⟨_, _, _, _, _, rfl, le_rfl, ?_, ?_, ?_, ?_⟩ <;> simp +contextual [showStep, setAbort, setConn]
  | callConnect dialog =>
    refine ⟨_, _, _, _, _, rfl, le_rfl, ?_, ?_, ?_, ?_⟩ <;> simp +contextual [showStep]
  | connectAbility dialog conn =>
    cases haccepted : env.connectAbility dialog.bundle dialog.ability with
    | true =>
      refine ⟨_, _, _, conn.toList ++ w.sessions, w.crashed, by simp only [showStep, haccepted]; rfl, le_rfl,
        ?_, ?_, ?_, ?_⟩ <;> simp +contextual [showStep, haccepted]
      rintro id (rfl | hmem)
      · exact .inr rfl
      · exact .inl hmem
    | false =>
      refine ⟨_, _, _, _, w.crashed, by cases dialog <;> simp only [showStep, haccepted] <;> rfl, le_rfl,
        ?_, ?_, ?_, ?_⟩ <;> cases dialog <;> simp +contextual [showStep, haccepted]
  | dropConn =>
    refine ⟨none, _, _, _, _, rfl, le_rfl, ?_, ?_, ?_, ?_⟩ <;> simp +contextual [showStep]

theorem heldStep_showing (hnext : w.opMutex = some (.showing next)) : w.heldStep env =
    { (w.showStep env next).2 with opMutex := (w.showStep env next).1.map .showing } := by
  simp [heldStep, hnext]

end Show

section Close

variable (env : WindowEnv) (next : Closing) (w : SwitchWindow τ)

theorem unShowStep_frame : ∃ conn trace crashed,
    (w.unShowStep env next).2 = { w with conn := conn, trace := trace, crashed := crashed } := by
  cases next with
  | testConn =>
    obtain hconn | ⟨id, hconn⟩ := Option.eq_none_or_eq_some w.usbFuncAbilityConn
    · exact ⟨_, _, _, by rw [unShowStep_testConn_none env hconn]⟩
    · exact ⟨_, _, _, by rw [unShowStep_testConn_some env hconn]⟩
  | callClose =>
    obtain hconn | ⟨id, hconn⟩ := Option.eq_none_or_eq_some w.usbFuncAbilityConn
    · exact ⟨_, _, _, by rw [unShowStep_callClose_none env hconn]⟩
    · exact ⟨_, _, _, by rw [unShowStep_callClose_some env hconn]⟩
  | closeDialog id => exact ⟨_, _, _, rfl⟩
  | sendClose id =>
    cases hremote : (w.conn id).remoteObject <;> exact ⟨_, _, _, by simp only [unShowStep, hremote]; rfl⟩
  | disconnectAbility => exact ⟨_, _, _, rfl⟩

theorem heldStep_closing (hnext : w.opMutex = some (.closing next)) : w.heldStep env =
    { (w.unShowStep env next).2 with opMutex := (w.unShowStep env next).1.map .closing } := by
  simp [heldStep, hnext]

end Close

theorem processFunctionSwitchWindow_frame (env : WindowEnv) (w : SwitchWindow τ) (connected : Bool) :
    ∃ prompt waiting, w.processFunctionSwitchWindow env connected =
      { w with gadgetConnPrompt := prompt, waiting := waiting } ∧
      (connected = true → waiting = w.waiting ∨ waiting = w.waiting ++ [true]) ∧
      (connected = false → waiting = w.waiting ++ [false]) := by
  have hframe : ∃ prompt, (w.popUpAllowed env).2 = { w with gadgetConnPrompt := prompt } := by
    unfold popUpAllowed
    split_ifs <;> exact ⟨_, rfl⟩
  obtain ⟨prompt, hframe⟩ := hframe
  cases connected with
  | true =>
    refine ⟨prompt, ?_⟩
    unfold processFunctionSwitchWindow
    rcases hallowed : w.popUpAllowed env with ⟨allowed, w'⟩
    obtain rfl : w' = { w with gadgetConnPrompt := prompt } := by rw [← hframe, hallowed]
    cases allowed with
    | true => exact ⟨_, rfl, fun _ => .inr rfl, by simp⟩
    | false => exact ⟨_, rfl, fun _ => .inl rfl, by simp⟩
  | false => exact ⟨w.gadgetConnPrompt, _, rfl, by simp, fun _ => rfl⟩

/-- A request that gets `opMutex_` is heard, and a thread then goes on with it, or nothing is left to do. -/
theorem lock_cases (n : Nat) (env : WindowEnv) {w : SwitchWindow τ} (h : w.Sound) :
    w.lock n env = w ∨ w.opMutex = none ∧ ∃ connected trace opMutex, w.waiting[n]? = some connected ∧
      w.lock n env = { w with
        waiting := w.waiting.eraseIdx n
        windowAction := if connected then .actionShow else .actionDismiss
        trace := trace
        opMutex := opMutex } ∧
      (opMutex = none ∧ connected = true ∨
        opMutex = some (if connected then .showing .testInstalled else .closing .testConn)) := by
  unfold lock
  cases hholder : w.opMutex with
  | some holder => exact .inl rfl
  | none =>
    cases hwaits : w.waiting[n]? with
    | none => exact .inl rfl
    | some connected =>
      refine .inr ⟨rfl, connected, ?_⟩
      have hallowed := h.allowed
      cases connected with
      | true =>
        simp only [popUpFunctionSwitchWindow, hallowed, if_false, if_true]
        split_ifs
        · exact ⟨.watched :: w.trace, none, trivial, by simp [log], .inl ⟨rfl, trivial⟩⟩
        · exact ⟨w.trace, none, trivial, by simp, .inl ⟨rfl, trivial⟩⟩
        · exact ⟨w.trace, _, trivial, rfl, .inr rfl⟩
      | false =>
        simp only [dismissFunctionSwitchWindow, hallowed, if_false, Bool.false_eq_true]
        exact ⟨w.trace, _, trivial, rfl, .inr rfl⟩

theorem bootCompletedEventCallback_cases (env : WindowEnv) (w : SwitchWindow τ) :
    w.bootCompletedEventCallback env = w ∨ w.opMutex = none ∧ w.windowAction = .actionShow ∧
      w.bootCompletedEventCallback env = { w with opMutex := some (.showing .testInstalled) } := by
  unfold bootCompletedEventCallback
  cases hholder : w.opMutex with
  | some holder => exact .inl rfl
  | none =>
    dsimp only
    split_ifs with hshow
    · exact .inr ⟨rfl, hshow.2, rfl⟩
    · exact .inl rfl

/-- A thread that checks looks at the window, or shows it. -/
theorem checkStep_cases [DecidableEq τ] (t : τ) (getBundleInfo : Bool) (env : WindowEnv) (w : SwitchWindow τ) :
    (∃ next, w.check t = .showing next ∧ w.checkStep t getBundleInfo env =
        (w.showStep env next).2.goto t ((w.showStep env next).1.elim .outside .showing)) ∨
      (∀ next, w.check t ≠ .showing next) ∧ ∃ check isDialogInstalled, w.checkStep t getBundleInfo env =
        { w with check := Function.update w.check t check, isDialogInstalled := isDialogInstalled } ∧
          ∀ next, check = .showing next → next = .testInstalled := by
  unfold checkStep
  cases hcheck : w.check t with
  | outside => exact .inr ⟨by simp, _, _, rfl, by simp⟩
  | asking retryTimes =>
    dsimp only
    split_ifs
    · exact .inr ⟨by simp, .asked retryTimes, getBundleInfo, rfl, by simp⟩
    · exact .inr ⟨by simp, .outside, w.isDialogInstalled, rfl, by simp⟩
  | asked retryTimes =>
    refine .inr ⟨by simp, _, _, rfl, ?_⟩
    split_ifs <;> simp
  | installed =>
    refine .inr ⟨by simp, _, _, rfl, ?_⟩
    split_ifs <;> simp +contextual [eq_comm]
  | showing next => exact .inl ⟨next, rfl, rfl⟩

theorem reportStep_frame (id : Nat) (sent : Bool) (supportedFuncStr : String) (w : SwitchWindow τ) :
    ∃ conn report trace crashed, w.reportStep id sent supportedFuncStr =
      { w with conn := conn, report := report, trace := trace, crashed := crashed } ∧
        ∀ id', report id' ≠ .outside → w.report id' ≠ .outside := by
  have hold : ∀ r, w.report id ≠ .outside → ∀ id', Function.update w.report id r id' ≠ .outside →
      w.report id' ≠ .outside := by
    intro r hgoing id' hreport
    by_cases hid : id' = id
    · exact hid ▸ hgoing
    · simpa [hid] using hreport
  unfold reportStep
  cases hreport : w.report id with
  | outside => exact ⟨w.conn, w.report, w.trace, w.crashed, rfl, fun _ h => h⟩
  | aborting =>
    dsimp only
    split_ifs <;> exact ⟨w.conn, _, _, _, rfl, hold _ (by simp [hreport])⟩
  | sending => exact ⟨_, _, _, _, rfl, hold _ (by simp [hreport])⟩
  | storing => exact ⟨_, _, _, _, rfl, hold _ (by simp [hreport])⟩

variable {w : SwitchWindow τ}

theorem Sound.showStep (h : w.Sound) (env : WindowEnv) (next : Showing)
    (hold : ∀ dialog id, next = .connectAbility dialog (some id) → id < w.made) :
    (w.showStep env next).2.Sound ∧ ∀ dialog id, (w.showStep env next).1 = some (.connectAbility dialog (some id)) →
      id < (w.showStep env next).2.made := by
  obtain ⟨conn', made, conn, sessions, crashed, heq, hmade, hconn, hkept, hopened, hnext⟩ := w.showStep_frame env next
  rw [heq]
  refine ⟨⟨h.allowed, h.showing, h.closing, ?_, ?_, ?_, ?_, ?_⟩, ?_⟩
  · intro id hid
    rcases hconn id hid with hid | hid
    · exact lt_of_lt_of_le (h.conn_lt id hid) hmade
    · exact hid
  · intro id hid
    rcases hopened id hid with hid | ⟨dialog, hid⟩
    · exact lt_of_lt_of_le (h.sessions_lt id hid) hmade
    · exact lt_of_lt_of_le (hold dialog id hid) hmade
  · intro dialog id hplace
    exact lt_of_lt_of_le (h.holder_lt dialog id hplace) hmade
  · intro t dialog id hplace
    exact lt_of_lt_of_le (h.check_lt t dialog id hplace) hmade
  · intro id hreport
    exact hkept id (h.reported id hreport)
  · intro dialog id hplace
    exact lt_of_lt_of_le (h.conn_lt id (hnext dialog id hplace)) hmade

theorem Sound.heldStep (h : w.Sound) (env : WindowEnv) : (w.heldStep env).Sound := by
  rcases hholder : w.opMutex with - | (next | next)
  · simpa [SwitchWindow.heldStep, hholder] using h
  · rw [heldStep_showing env next w hholder]
    obtain ⟨hshow, hnext⟩ := h.showStep env next fun dialog id hid => h.holder_lt dialog id (hid ▸ hholder)
    obtain ⟨_, _, _, _, _, heq, -⟩ := w.showStep_frame env next
    refine ⟨hshow.allowed, ?_, ?_, hshow.conn_lt, hshow.sessions_lt, ?_, hshow.check_lt, hshow.reported⟩
    · intro _ _
      rw [heq]
      exact h.showing next hholder
    · intro _ hclosing
      simp at hclosing
    · intro dialog id hplace
      exact hnext dialog id (by simpa using hplace)
  · rw [heldStep_closing env next w hholder]
    obtain ⟨conn, trace, crashed, heq⟩ := w.unShowStep_frame env next
    rw [heq]
    refine ⟨h.allowed, ?_, fun _ _ => h.closing next hholder, h.conn_lt, h.sessions_lt, ?_, h.check_lt, h.reported⟩
    · intro _ hshowing
      simp at hshowing
    · intro dialog id hplace
      simp at hplace

theorem Sound.request (h : w.Sound) (env : WindowEnv) (connected : Bool) :
    (w.processFunctionSwitchWindow env connected).Sound := by
  obtain ⟨prompt, waiting, heq, -⟩ := processFunctionSwitchWindow_frame env w connected
  rw [heq]
  exact ⟨h.allowed, h.showing, h.closing, h.conn_lt, h.sessions_lt, h.holder_lt, h.check_lt, h.reported⟩

theorem Sound.lock (h : w.Sound) (n : Nat) (env : WindowEnv) : (w.lock n env).Sound := by
  rcases lock_cases n env h with heq | ⟨-, connected, trace, opMutex, -, heq, hopMutex⟩
  · rw [heq]
    exact h
  · rw [heq]
    refine ⟨?_, ?_, ?_, h.conn_lt, h.sessions_lt, ?_, h.check_lt, h.reported⟩
    · cases connected <;> simp
    all_goals
      rcases hopMutex with ⟨rfl, rfl⟩ | rfl
      · simp
      · cases connected <;> simp

theorem Sound.bootCompletedEventCallback (h : w.Sound) (env : WindowEnv) :
    (w.bootCompletedEventCallback env).Sound := by
  rcases bootCompletedEventCallback_cases env w with heq | ⟨-, hshow, heq⟩
  · rw [heq]
    exact h
  · rw [heq]
    exact ⟨h.allowed, fun _ _ => hshow, by simp, h.conn_lt, h.sessions_lt, by simp, h.check_lt, h.reported⟩

theorem Sound.checkStep [DecidableEq τ] (h : w.Sound) (t : τ) (getBundleInfo : Bool) (env : WindowEnv) :
    (w.checkStep t getBundleInfo env).Sound := by
  rcases checkStep_cases t getBundleInfo env w with ⟨next, hcheck, heq⟩ | ⟨-, check, isDialogInstalled, heq, hnew⟩
  · rw [heq]
    obtain ⟨hshow, hnext⟩ := h.showStep env next fun dialog id hid => h.check_lt t dialog id (hid ▸ hcheck)
    refine ⟨hshow.allowed, hshow.showing, hshow.closing, hshow.conn_lt, hshow.sessions_lt, hshow.holder_lt, ?_,
      hshow.reported⟩
    intro t' dialog id hplace
    by_cases ht : t' = t
    · subst ht
      apply hnext dialog id
      cases hgo : (w.showStep env next).1 with
      | none => simp [goto, hgo] at hplace
      | some next' => simpa [goto, hgo] using hplace
    · exact hshow.check_lt t' dialog id (by simpa [goto, ht] using hplace)
  · rw [heq]
    refine ⟨h.allowed, h.showing, h.closing, h.conn_lt, h.sessions_lt, h.holder_lt, ?_, h.reported⟩
    intro t' dialog id hplace
    by_cases ht : t' = t
    · subst ht
      have hnext := hnew _ (by simpa using hplace)
      simp at hnext
    · exact h.check_lt t' dialog id (by simpa [ht] using hplace)

/-- What a callback changes. Reports begin only for open connections. -/
theorem Sound.callback (h : w.Sound) (conn : Nat → UsbFuncAbilityConn) (report : Nat → Report) (sessions : List Nat)
    (trace : List WindowEvent) (crashed : Bool) (hsessions : ∀ id ∈ sessions, id ∈ w.sessions)
    (hreport : ∀ id, report id ≠ .outside → id ∈ sessions) :
    ({ w with conn := conn, report := report, sessions := sessions, trace := trace, crashed := crashed } :
      SwitchWindow τ).Sound :=
  ⟨h.allowed, h.showing, h.closing, h.conn_lt, fun id hid => h.sessions_lt id (hsessions id hid), h.holder_lt,
    h.check_lt, hreport⟩

theorem Sound.onAbilityConnectDone (h : w.Sound) (id : Nat) (remoteObject : Bool) :
    (w.onAbilityConnectDone id remoteObject).Sound := by
  unfold SwitchWindow.onAbilityConnectDone
  split_ifs with hopen
  all_goals try exact h
  all_goals
    refine h.callback w.conn _ w.sessions w.trace w.crashed (fun id hid => hid) ?_
    intro id' hreport
    by_cases hid : id' = id
    · exact hid ▸ hopen.1
    · exact h.reported id' (by simpa [hid] using hreport)

theorem Sound.reportStep (h : w.Sound) (id : Nat) (sent : Bool) (supportedFuncStr : String) :
    (w.reportStep id sent supportedFuncStr).Sound := by
  obtain ⟨conn, report, trace, crashed, heq, hold⟩ := reportStep_frame id sent supportedFuncStr w
  rw [heq]
  exact h.callback _ _ _ _ _ (fun id hid => hid) fun id' hreport => h.reported id' (hold id' hreport)

theorem Sound.onAbilityDisconnectDone (h : w.Sound) (id : Nat) : (w.onAbilityDisconnectDone id).Sound := by
  unfold SwitchWindow.onAbilityDisconnectDone
  split_ifs with hopen
  · refine h.callback _ w.report _ w.trace w.crashed ?_ ?_
    · intro id' hid
      exact List.mem_of_mem_filter hid
    · intro id' hreport
      refine List.mem_filter.mpr ⟨h.reported id' hreport, ?_⟩
      simpa using fun hid : id' = id => hreport (hid ▸ hopen.2)
  · exact h

/-! ## What is asked for -/

theorem asked_request {env : WindowEnv} {connected : Bool}
    (hasked : (w.processFunctionSwitchWindow env connected).asked = true) : connected = true := by
  obtain ⟨prompt, waiting, heq, -, hdismiss⟩ := processFunctionSwitchWindow_frame env w connected
  rw [heq] at hasked
  by_contra hnot
  simp [asked, hdismiss (by simpa using hnot)] at hasked

theorem asked_lock (h : w.Sound) (env : WindowEnv) : (w.lock 0 env).asked = w.asked := by
  rcases lock_cases 0 env h with heq | ⟨-, connected, trace, opMutex, hfirst, heq, -⟩
  · rw [heq]
  · rw [heq]
    unfold asked
    cases hwaiting : w.waiting with
    | nil => simp [hwaiting] at hfirst
    | cons first rest =>
      obtain rfl : first = connected := by simpa [hwaiting] using hfirst
      cases rest with
      | nil => cases first <;> simp
      | cons second rest => simp [List.getLast?_cons]

theorem heldStep_asked (env : WindowEnv) (w : SwitchWindow τ) : (w.heldStep env).asked = w.asked := by
  rcases hholder : w.opMutex with - | (next | next)
  · simp [SwitchWindow.heldStep, hholder]
  · obtain ⟨_, _, _, _, _, heq, -⟩ := w.showStep_frame env next
    rw [heldStep_showing env next w hholder, heq]
    rfl
  · obtain ⟨conn, trace, crashed, heq⟩ := w.unShowStep_frame env next
    rw [heldStep_closing env next w hholder, heq]
    rfl

theorem checkStep_asked [DecidableEq τ] (t : τ) (getBundleInfo : Bool) (env : WindowEnv) (w : SwitchWindow τ) :
    (w.checkStep t getBundleInfo env).asked = w.asked := by
  rcases checkStep_cases t getBundleInfo env w with ⟨next, -, heq⟩ | ⟨-, check, isDialogInstalled, heq, -⟩
  · obtain ⟨_, _, _, _, _, hframe, -⟩ := w.showStep_frame env next
    rw [heq, hframe]
    rfl
  · rw [heq]
    rfl

end SwitchWindow

end UsbManager.Gadget
