import UsbManager.Gadget.WindowSteps

/-!
# Windows that are wanted

A report shows the window if it finds no abort. What opens a connection, forgets its object or notes an abort has to
keep reports and dismissals together. Each access does so exactly if it meets a condition.
-/

namespace UsbManager.Gadget

namespace SwitchWindow

variable {τ : Type}

/-! ## What a report shows -/

/-- The connection whose dialog the dismissal under way is going to close. -/
def closes (w : SwitchWindow τ) : Option Nat :=
  match w.opMutex with
  | some (.closing .testConn) | some (.closing .callClose) => w.usbFuncAbilityConn
  | some (.closing (.closeDialog id)) => some id
  | _ => none

/-- The window of this connection is wanted, and the next dismissal closes it, or a dismissal under way does. -/
def Owned (w : SwitchWindow τ) (id : Nat) : Prop :=
  w.usbFuncAbilityConn = some id ∧ w.windowAction = .actionShow ∨ w.closes = some id

instance (w : SwitchWindow τ) (id : Nat) : Decidable (w.Owned id) := inferInstanceAs (Decidable (_ ∧ _ ∨ _))

/-- A report that tests the abort now shows the window, or one is about to show it, or has shown it without having
noted whom to close. -/
def Shows (w : SwitchWindow τ) (id : Nat) : Prop :=
  (w.conn id).isAbortDialog = false ∨ w.report id = .sending ∨ w.report id = .storing

instance (w : SwitchWindow τ) (id : Nat) : Decidable (w.Shows id) := inferInstanceAs (Decidable (_ ∨ _ ∨ _))

/-- Every open connection whose report shows the window is owned, and a dismissal does not come in between. -/
def Tidy (w : SwitchWindow τ) : Prop :=
  ∀ id ∈ w.sessions, w.Shows id → (w.conn id).isAbortDialog = false ∧ w.Owned id

/-! ## What keeps the window tidy -/

/-- The object of the window has an open connection, which nobody is about to close. -/
def Abandons (w : SwitchWindow τ) : Prop :=
  ∃ id ∈ w.usbFuncAbilityConn, id ∈ w.sessions ∧ (w.conn id).isAbortDialog = false ∧
    w.opMutex ≠ some (.closing (.closeDialog id))

instance (w : SwitchWindow τ) : Decidable w.Abandons := inferInstanceAs (Decidable (∃ id ∈ w.usbFuncAbilityConn, _))

/-- The object of an open connection is not replaced or dropped, and only an owned connection is opened. -/
def showTidy (env : WindowEnv) (w : SwitchWindow τ) : Showing → Prop
  | .newConn | .dropConn => ¬ w.Abandons
  | .reopenDialog id => id ∈ w.sessions → w.Owned id
  | .connectAbility dialog conn =>
    env.connectAbility dialog.bundle dialog.ability = true →
      ∀ id ∈ conn, (w.conn id).isAbortDialog = false → w.Owned id
  | _ => True

instance (env : WindowEnv) (w : SwitchWindow τ) : ∀ next, Decidable (w.showTidy env next)
  | .newConn | .dropConn => inferInstanceAs (Decidable (¬ _))
  | .reopenDialog _ => inferInstanceAs (Decidable (_ → _))
  | .connectAbility _ conn => inferInstanceAs (Decidable (_ → ∀ id ∈ conn, _ → _))
  | .testInstalled | .testConn | .callReopen | .callConnect _ => .isTrue trivial

/-- A dismissal finds the ability manager, or has nothing to close, and does not come between the test and the end of a
report. -/
def closeTidy (env : WindowEnv) (w : SwitchWindow τ) : Closing → Prop
  | .testConn =>
    env.abilityManager = true ∨ ∀ id ∈ w.usbFuncAbilityConn, id ∈ w.sessions → (w.conn id).isAbortDialog = true
  | .closeDialog id => w.report id ≠ .sending ∧ w.report id ≠ .storing
  | _ => True

instance (env : WindowEnv) (w : SwitchWindow τ) : ∀ next, Decidable (w.closeTidy env next)
  | .testConn => inferInstanceAs (Decidable (_ ∨ ∀ id ∈ w.usbFuncAbilityConn, _ → _))
  | .closeDialog _ => inferInstanceAs (Decidable (_ ∧ _))
  | .callClose | .sendClose _ | .disconnectAbility => .isTrue trivial

/-- The condition of `Tidy` for the thread that has `opMutex_`. -/
def heldTidy (env : WindowEnv) (w : SwitchWindow τ) : Option Holder → Prop
  | none => True
  | some (.showing next) => w.showTidy env next
  | some (.closing next) => w.closeTidy env next

instance (env : WindowEnv) (w : SwitchWindow τ) : ∀ holder, Decidable (w.heldTidy env holder)
  | none => .isTrue trivial
  | some (.showing next) => inferInstanceAs (Decidable (w.showTidy env next))
  | some (.closing next) => inferInstanceAs (Decidable (w.closeTidy env next))

/-- The condition of `Tidy` for a thread that checks. -/
def checkTidy (env : WindowEnv) (w : SwitchWindow τ) : Check → Prop
  | .showing next => w.showTidy env next
  | _ => True

instance (env : WindowEnv) (w : SwitchWindow τ) : ∀ check, Decidable (w.checkTidy env check)
  | .showing next => inferInstanceAs (Decidable (w.showTidy env next))
  | .outside | .asking _ | .asked _ | .installed => .isTrue trivial

variable {w : SwitchWindow τ}

/-! ## Steps -/

/-- While a dismissal is under way only the connection that it closes is owned. -/
theorem Sound.owned_iff (h : w.Sound) {next : Closing} (hclosing : w.opMutex = some (.closing next)) (id : Nat) :
    w.Owned id ↔ w.closes = some id := by
  simp [Owned, h.closing next hclosing]

theorem Tidy.conn_eq (htidy : w.Tidy) {id : Nat} (hopen : id ∈ w.sessions) (hshows : w.Shows id)
    (hcloses : w.opMutex ≠ some (.closing (.closeDialog id))) : w.usbFuncAbilityConn = some id := by
  rcases (htidy id hopen hshows).2 with ⟨hconn, -⟩ | hclosing
  · exact hconn
  · unfold closes at hclosing
    split at hclosing
    · exact hclosing
    · exact hclosing
    · rename_i hholder
      exact absurd (Option.some.inj hclosing ▸ hholder) hcloses
    · simp at hclosing

/-- The object of the window is exchanged for one that nobody has opened, or for none. -/
theorem Tidy.replace_iff (htidy : w.Tidy) {w' : SwitchWindow τ} (hsessions : w'.sessions = w.sessions)
    (hconn : ∀ id ∈ w.sessions, w'.conn id = w.conn id) (hreport : w'.report = w.report)
    (hmutex : w'.opMutex = w.opMutex) (hnew : ∀ id ∈ w.sessions, w'.usbFuncAbilityConn ≠ some id) :
    w'.Tidy ↔ ¬ w.Abandons := by
  have howned : ∀ id ∈ w.sessions, (w'.Owned id ↔ w.opMutex = some (.closing (.closeDialog id))) := by
    intro id hopen
    have hne := hnew id hopen
    simp only [Owned, hne, false_and, false_or, closes, hmutex]
    constructor
    · intro hcloses
      split at hcloses
      · exact absurd hcloses hne
      · exact absurd hcloses hne
      · rename_i hholder
        rw [hholder, Option.some.inj hcloses]
      · simp at hcloses
    · intro hholder
      rw [hholder]
  constructor
  · rintro hafter ⟨id, hid, hopen, habort, hcloses⟩
    have hshows : w'.Shows id := .inl (by rw [hconn id hopen, habort])
    exact hcloses ((howned id hopen).mp (hafter id (hsessions ▸ hopen) hshows).2)
  · intro hnot id hopen hshows
    rw [hsessions] at hopen
    have hshows' : w.Shows id := by simpa [Shows, hconn id hopen, hreport] using hshows
    have habort := (htidy id hopen hshows').1
    refine ⟨by rw [hconn id hopen, habort], (howned id hopen).mpr ?_⟩
    by_contra hcloses
    exact hnot ⟨id, htidy.conn_eq hopen hshows' hcloses, hopen, habort, hcloses⟩

theorem Tidy.showStep_iff (htidy : w.Tidy) (h : w.Sound) (env : WindowEnv) (next : Showing) :
    (w.showStep env next).2.Tidy ↔ w.showTidy env next := by
  cases next with
  | testInstalled => exact iff_of_true htidy trivial
  | testConn => exact iff_of_true htidy trivial
  | newConn =>
    refine htidy.replace_iff rfl (fun id hopen => ?_) rfl rfl fun id hopen hid => ?_
    · exact Function.update_of_ne (Nat.ne_of_lt (h.sessions_lt id hopen)) _ _
    · exact absurd (Option.some.inj hid) (Nat.ne_of_gt (h.sessions_lt id hopen))
  | callReopen =>
    refine iff_of_true ?_ trivial
    obtain hconn | ⟨id, hconn⟩ := Option.eq_none_or_eq_some w.usbFuncAbilityConn
    · rw [showStep_callReopen_none env hconn]
      exact htidy
    · rw [showStep_callReopen_some env hconn]
      exact htidy
  | reopenDialog id =>
    constructor
    · intro hafter hopen
      exact (hafter id hopen (.inl (by simp [SwitchWindow.showStep, setAbort, setConn]))).2
    · intro howned id' hopen hshows
      by_cases hid : id' = id
      · subst hid
        exact ⟨by simp [SwitchWindow.showStep, setAbort, setConn], howned hopen⟩
      · have hconn := w.setAbort_conn_of_ne hid false
        have hshows' : w.Shows id' := hshows.imp_left fun habort => hconn ▸ habort
        obtain ⟨habort, howned'⟩ := htidy id' hopen hshows'
        exact ⟨hconn.symm ▸ habort, howned'⟩
  | callConnect dialog => exact iff_of_true htidy trivial
  | connectAbility dialog conn =>
    cases haccepted : env.connectAbility dialog.bundle dialog.ability with
    | false =>
      rw [showStep_connectAbility_refused env conn haccepted]
      exact iff_of_true htidy fun haccepted' => absurd (haccepted'.symm.trans haccepted) (by simp)
    | true =>
      rw [showStep_connectAbility_accepted env conn haccepted]
      constructor
      · intro hafter _ id hid habort
        exact (hafter id (List.mem_append_left _ (by simpa using hid)) (.inl habort)).2
      · intro howned id hopen hshows
        rcases List.mem_append.mp hopen with hid | hopen
        · by_cases hold : id ∈ w.sessions
          · exact htidy id hold hshows
          · -- A connection that was not open has no report.
            have hreport : w.report id = .outside := by
              by_contra hreport
              exact hold (h.reported id hreport)
            have habort : (w.conn id).isAbortDialog = false := by simpa [Shows, hreport] using hshows
            exact ⟨habort, howned haccepted id (by simpa using hid) habort⟩
        · exact htidy id hopen hshows
  | dropConn => exact htidy.replace_iff rfl (fun _ _ => rfl) rfl rfl (by simp [SwitchWindow.showStep])

theorem Tidy.unShowStep_iff (htidy : w.Tidy) (h : w.Sound) (env : WindowEnv) {next : Closing}
    (hholder : w.opMutex = some (.closing next)) :
    ({ (w.unShowStep env next).2 with opMutex := (w.unShowStep env next).1.map .closing } : SwitchWindow τ).Tidy ↔
      w.closeTidy env next := by
  have hdismiss := h.closing next hholder
  have hcloses : ∀ id ∈ w.sessions, w.Shows id → (w.conn id).isAbortDialog = false ∧ w.closes = some id := by
    intro id hopen hshows
    obtain ⟨habort, howned⟩ := htidy id hopen hshows
    exact ⟨habort, (h.owned_iff hholder id).mp howned⟩
  cases next with
  | testConn =>
    have hcloses' : w.closes = w.usbFuncAbilityConn := by simp [closes, hholder]
    obtain hconn | ⟨id, hconn⟩ := Option.eq_none_or_eq_some w.usbFuncAbilityConn
    · rw [unShowStep_testConn_none env hconn]
      refine iff_of_true (fun id hopen hshows => ?_) (.inr (by simp [hconn]))
      have := (hcloses id hopen hshows).2
      simp [hcloses', hconn] at this
    · rw [unShowStep_testConn_some env hconn]
      cases hclient : env.abilityManager with
      | true =>
        refine iff_of_true (fun id' hopen hshows => ?_) (.inl hclient)
        obtain ⟨habort, hclosing⟩ := hcloses id' hopen hshows
        exact ⟨habort, .inr (hcloses'.symm.trans hclosing)⟩
      | false =>
        constructor
        · intro hafter
          refine .inr fun id' _ hopen => ?_
          by_contra habort
          have howned := (hafter id' hopen (.inl (by simpa using habort))).2
          simp [Owned, closes, hdismiss] at howned
        · intro hkeeps id' hopen hshows
          obtain ⟨habort, hclosing⟩ := hcloses id' hopen hshows
          have hset := hkeeps.resolve_left (by simp [hclient]) id' (hcloses' ▸ hclosing) hopen
          exact absurd (hset.symm.trans habort) (by simp)
  | callClose =>
    have hcloses' : w.closes = w.usbFuncAbilityConn := by simp [closes, hholder]
    refine iff_of_true (fun id' hopen hshows => ?_) trivial
    obtain hconn | ⟨id, hconn⟩ := Option.eq_none_or_eq_some w.usbFuncAbilityConn
    · rw [unShowStep_callClose_none env hconn] at hopen hshows
      have := (hcloses id' hopen hshows).2
      simp [hcloses', hconn] at this
    · rw [unShowStep_callClose_some env hconn] at hopen hshows ⊢
      obtain ⟨habort, hclosing⟩ := hcloses id' hopen hshows
      exact ⟨habort, .inr (hconn.symm.trans (hcloses'.symm.trans hclosing))⟩
  | closeDialog id =>
    have hcloses' : w.closes = some id := by simp [closes, hholder]
    constructor
    · intro hafter
      have hnot : ∀ r, r = .sending ∨ r = .storing → w.report id ≠ r := by
        intro r hr hreport
        have hopen : id ∈ w.sessions := h.reported id (by rcases hr with rfl | rfl <;> simp [hreport])
        have habort := (hafter id hopen (.inr (by rcases hr with rfl | rfl <;>
          simp [SwitchWindow.unShowStep, setAbort, setConn, hreport]))).1
        simp [SwitchWindow.unShowStep, setAbort, setConn] at habort
      exact ⟨hnot _ (.inl rfl), hnot _ (.inr rfl)⟩
    · rintro ⟨hsending, hstoring⟩ id' hopen hshows
      by_cases hid : id' = id
      · subst hid
        rcases hshows with habort | hreport | hreport
        · simp [SwitchWindow.unShowStep, setAbort, setConn] at habort
        · exact absurd hreport hsending
        · exact absurd hreport hstoring
      · have hconn := w.setAbort_conn_of_ne hid true
        have hshows' : w.Shows id' := hshows.imp_left fun habort => hconn ▸ habort
        exact absurd (Option.some.inj (hcloses'.symm.trans (hcloses id' hopen hshows').2)).symm hid
  | sendClose id =>
    have hcloses' : w.closes = none := by simp [closes, hholder]
    refine iff_of_true (fun id' hopen hshows => ?_) trivial
    cases hremote : (w.conn id).remoteObject <;> simp only [SwitchWindow.unShowStep, hremote] at hopen hshows
    all_goals
      have := (hcloses id' hopen hshows).2
      simp [hcloses'] at this
  | disconnectAbility =>
    have hcloses' : w.closes = none := by simp [closes, hholder]
    refine iff_of_true (fun id' hopen hshows => ?_) trivial
    have := (hcloses id' hopen hshows).2
    simp [hcloses'] at this

theorem Tidy.heldStep_iff (htidy : w.Tidy) (h : w.Sound) (env : WindowEnv) :
    (w.heldStep env).Tidy ↔ w.heldTidy env w.opMutex := by
  rcases hholder : w.opMutex with - | (next | next)
  · have heq : w.heldStep env = w := by simp [SwitchWindow.heldStep, hholder]
    rw [heq]
    exact iff_of_true htidy trivial
  · have hshow := htidy.showStep_iff h env next
    obtain ⟨conn', made, conn, sessions, crashed, heq, -⟩ := w.showStep_frame env next
    have hfree : (w.heldStep env).Tidy ↔ (w.showStep env next).2.Tidy := by
      rw [heldStep_showing env next w hholder, heq]
      cases (w.showStep env next).1 <;> simp [Tidy, Shows, Owned, closes, hholder]
    exact hfree.trans hshow
  · rw [heldStep_closing env next w hholder]
    exact htidy.unShowStep_iff h env hholder

/-- A request that gets `opMutex_` finds every open connection in the hands of the window. -/
theorem Tidy.lock (htidy : w.Tidy) (h : w.Sound) (n : Nat) (env : WindowEnv) : (w.lock n env).Tidy := by
  rcases lock_cases n env h with heq | ⟨hfree, connected, trace, opMutex, -, heq, hopMutex⟩
  · rw [heq]
    exact htidy
  · rw [heq]
    intro id hopen hshows
    have hconn := htidy.conn_eq hopen hshows (by simp [hfree])
    refine ⟨(htidy id hopen hshows).1, ?_⟩
    cases connected with
    | true => exact .inl ⟨hconn, rfl⟩
    | false =>
      obtain rfl : opMutex = some (.closing .testConn) := by simpa using hopMutex
      exact .inr hconn

theorem Tidy.bootCompletedEventCallback (htidy : w.Tidy) (env : WindowEnv) :
    (w.bootCompletedEventCallback env).Tidy := by
  rcases bootCompletedEventCallback_cases env w with heq | ⟨hfree, hshow, heq⟩
  · rw [heq]
    exact htidy
  · rw [heq]
    intro id hopen hshows
    exact ⟨(htidy id hopen hshows).1, .inl ⟨htidy.conn_eq hopen hshows (by simp [hfree]), hshow⟩⟩

theorem Tidy.checkStep_iff [DecidableEq τ] (htidy : w.Tidy) (h : w.Sound) (t : τ) (getBundleInfo : Bool)
    (env : WindowEnv) :
    (w.checkStep t getBundleInfo env).Tidy ↔ w.checkTidy env (w.check t) := by
  rcases checkStep_cases t getBundleInfo env w with ⟨next, hcheck, heq⟩ | ⟨hcheck, check, isDialogInstalled, heq, -⟩
  · have hgoto : (w.checkStep t getBundleInfo env).Tidy ↔ (w.showStep env next).2.Tidy := by
      rw [heq]
      exact Iff.rfl
    rw [hgoto, hcheck]
    exact htidy.showStep_iff h env next
  · rw [heq]
    refine iff_of_true htidy ?_
    cases hplace : w.check t with
    | showing next => exact absurd hplace (hcheck next)
    | _ => trivial

theorem Tidy.onAbilityConnectDone (htidy : w.Tidy) (id : Nat) (remoteObject : Bool) :
    (w.onAbilityConnectDone id remoteObject).Tidy := by
  unfold SwitchWindow.onAbilityConnectDone
  split_ifs with hopen habort
  · intro id' hopen' hshows
    refine htidy id' hopen' ?_
    by_cases hid : id' = id
    · subst hid
      exact .inl (by simpa [Shows, setReport] using hshows)
    · simpa [Shows, setReport, hid] using hshows
  · intro id' hopen' hshows
    refine htidy id' hopen' ?_
    by_cases hid : id' = id
    · exact .inl (by simpa [hid] using habort)
    · simpa [Shows, setReport, hid] using hshows
  · exact htidy

theorem Tidy.reportStep (htidy : w.Tidy) (id : Nat) (sent : Bool) (supportedFuncStr : String) :
    (w.reportStep id sent supportedFuncStr).Tidy := by
  have hafter : ∀ {w' : SwitchWindow τ}, w'.sessions = w.sessions → w'.usbFuncAbilityConn = w.usbFuncAbilityConn →
      w'.windowAction = w.windowAction → w'.opMutex = w.opMutex →
      (∀ id, (w'.conn id).isAbortDialog = (w.conn id).isAbortDialog) →
      (∀ id, w'.report id = .sending ∨ w'.report id = .storing → w.report id = .sending ∨ w.report id = .storing) →
      w'.Tidy := by
    intro w' hsessions hmember haction hmutex hconn hreport id hopen hshows
    have hshows' : w.Shows id := by
      rcases hshows with habort | hgoing
      · exact .inl (hconn id ▸ habort)
      · exact .inr (hreport id hgoing)
    obtain ⟨habort, howned⟩ := htidy id (hsessions ▸ hopen) hshows'
    refine ⟨(hconn id).trans habort, ?_⟩
    simpa [Owned, closes, hmember, haction, hmutex] using howned
  have hreports : ∀ r, w.report id = .aborting ∧ r = .outside ∨ w.report id = .sending ∨ w.report id = .storing →
      ∀ id', Function.update w.report id r id' = .sending ∨ Function.update w.report id r id' = .storing →
        w.report id' = .sending ∨ w.report id' = .storing := by
    intro r hr id' hgoing
    by_cases hid : id' = id
    · subst hid
      rcases hr with ⟨-, rfl⟩ | hr
      · simp at hgoing
      · exact hr
    · simpa [hid] using hgoing
  unfold SwitchWindow.reportStep
  cases hreport : w.report id with
  | outside => exact htidy
  | aborting =>
    dsimp only
    split_ifs <;> exact hafter rfl rfl rfl rfl (fun _ => rfl) (hreports _ (.inl ⟨hreport, rfl⟩))
  | sending => exact hafter rfl rfl rfl rfl (fun _ => rfl) (hreports _ (.inr (.inl hreport)))
  | storing =>
    refine hafter rfl rfl rfl rfl (fun id' => ?_) (hreports _ (.inr (.inr hreport)))
    by_cases hid : id' = id
    · simp [setReport, setRemote, setConn, hid]
    · simp [setReport, setRemote, setConn, hid]

theorem Tidy.onAbilityDisconnectDone (htidy : w.Tidy) (id : Nat) : (w.onAbilityDisconnectDone id).Tidy := by
  unfold SwitchWindow.onAbilityDisconnectDone
  split_ifs
  · intro id' hopen hshows
    obtain ⟨hopen', hne⟩ := List.mem_filter.mp hopen
    have hconn : (w.setRemote id false).conn id' = w.conn id' := w.setRemote_conn_of_ne (by simpa using hne) false
    obtain ⟨habort, howned⟩ := htidy id' hopen' (hshows.imp_left fun habort => hconn ▸ habort)
    exact ⟨hconn.symm ▸ habort, howned⟩
  · exact htidy

theorem Tidy.request (htidy : w.Tidy) (env : WindowEnv) (connected : Bool) :
    (w.processFunctionSwitchWindow env connected).Tidy := by
  obtain ⟨prompt, waiting, heq, -⟩ := processFunctionSwitchWindow_frame env w connected
  rw [heq]
  exact htidy

end SwitchWindow

end UsbManager.Gadget
