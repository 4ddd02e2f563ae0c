import Mathlib.Data.Fintype.Basic
import UsbManager.Gadget.WindowSteps

/-!
# Pointers of the window

A report of an aborted connection follows the member `remoteObject_`, and calls follow `usbFuncAbilityConn` after they
have tested it. Each access keeps them from null pointers exactly if it meets a condition.
-/

namespace UsbManager.Gadget

namespace SwitchWindow

variable {τ : Type}

/-! ## What keeps the pointers -/

/-- A thread has tested the member and is going to follow it. -/
def Uses (w : SwitchWindow τ) : Prop :=
  w.opMutex = some (.showing .callReopen) ∨ w.opMutex = some (.closing .callClose) ∨
    ∃ t, w.check t = .showing .callReopen

instance [Fintype τ] (w : SwitchWindow τ) : Decidable w.Uses := inferInstanceAs (Decidable (_ ∨ _ ∨ ∃ t, w.check t = _))

/-- No report follows a null pointer: an aborted connection has been shown, or is being noted as shown. -/
structure Noted (w : SwitchWindow τ) : Prop where
  crashed : w.crashed = false
  shown : ∀ id ∈ w.sessions, (w.conn id).isAbortDialog = true → (w.conn id).remoteObject = true ∨ w.report id = .storing
  aborting : ∀ id, w.report id = .aborting → (w.conn id).remoteObject = true

/-- No report and no call follows a null pointer. -/
def Safe (w : SwitchWindow τ) : Prop := w.Noted ∧ (w.Uses → w.usbFuncAbilityConn.isSome)

/-- No object is dropped that another call has found, and an aborted object is not opened before it has been shown. -/
def showSafe (env : WindowEnv) (w : SwitchWindow τ) : Showing → Prop
  | .dropConn => ¬ w.Uses
  | .connectAbility dialog conn =>
    env.connectAbility dialog.bundle dialog.ability = true → ∀ id ∈ conn, (w.conn id).isAbortDialog = true →
      (w.conn id).remoteObject = true ∨ w.report id = .storing
  | _ => True

instance [Fintype τ] (env : WindowEnv) (w : SwitchWindow τ) : ∀ next, Decidable (w.showSafe env next)
  | .dropConn => inferInstanceAs (Decidable (¬ _))
  | .connectAbility _ conn => inferInstanceAs (Decidable (_ → ∀ id ∈ conn, _ → _))
  | .testInstalled | .testConn | .newConn | .callReopen | .reopenDialog _ | .callConnect _ => .isTrue trivial

/-- A dismissal closes only a connection that is not open or has been shown. -/
def closeSafe (w : SwitchWindow τ) : Closing → Prop
  | .closeDialog id => id ∈ w.sessions → (w.conn id).remoteObject = true ∨ w.report id = .storing
  | _ => True

instance (w : SwitchWindow τ) : ∀ next, Decidable (w.closeSafe next)
  | .closeDialog _ => inferInstanceAs (Decidable (_ → _))
  | .testConn | .callClose | .sendClose _ | .disconnectAbility => .isTrue trivial

/-- The condition of `Safe` for the thread that has `opMutex_`. -/
def heldSafe (env : WindowEnv) (w : SwitchWindow τ) : Option Holder → Prop
  | none => True
  | some (.showing next) => w.showSafe env next
  | some (.closing next) => w.closeSafe next

instance [Fintype τ] (env : WindowEnv) (w : SwitchWindow τ) : ∀ holder, Decidable (w.heldSafe env holder)
  | none => .isTrue trivial
  | some (.showing next) => inferInstanceAs (Decidable (w.showSafe env next))
  | some (.closing next) => inferInstanceAs (Decidable (w.closeSafe next))

/-- The condition of `Safe` for a thread that checks. -/
def checkSafe (env : WindowEnv) (w : SwitchWindow τ) : Check → Prop
  | .showing next => w.showSafe env next
  | _ => True

instance [Fintype τ] (env : WindowEnv) (w : SwitchWindow τ) : ∀ check, Decidable (w.checkSafe env check)
  | .showing next => inferInstanceAs (Decidable (w.showSafe env next))
  | .outside | .asking _ | .asked _ | .installed => .isTrue trivial

variable {w : SwitchWindow τ}

/-! ## Steps -/

theorem Noted.congr {w' : SwitchWindow τ} (h : w.Noted) (hcrashed : w'.crashed = w.crashed)
    (hsessions : w'.sessions = w.sessions) (hconn : w'.conn = w.conn) (hreport : w'.report = w.report) : w'.Noted := by
  refine ⟨hcrashed ▸ h.crashed, ?_, ?_⟩
  · simpa [hsessions, hconn, hreport] using h.shown
  · simpa [hconn, hreport] using h.aborting

theorem Noted.showStep_iff (hnoted : w.Noted) (h : w.Sound) (env : WindowEnv) {next : Showing}
    (huse : next = .callReopen → w.usbFuncAbilityConn.isSome) (hdrop : next ≠ .dropConn) :
    (w.showStep env next).2.Noted ↔ w.showSafe env next := by
  cases next with
  | testInstalled => exact iff_of_true hnoted trivial
  | testConn => exact iff_of_true hnoted trivial
  | newConn =>
    have hconn : ∀ id ∈ w.sessions, (w.setConn w.made .new).conn id = w.conn id := fun id hopen =>
      Function.update_of_ne (Nat.ne_of_lt (h.sessions_lt id hopen)) _ _
    refine iff_of_true ⟨hnoted.crashed, fun id hopen habort => ?_, fun id hreport => ?_⟩ trivial
    · have hsame := hconn id hopen
      exact (hnoted.shown id hopen (hsame ▸ habort)).imp_left fun hremote => hsame.symm ▸ hremote
    · have hopen : id ∈ w.sessions := h.reported id (by
        have hreport : w.report id = .aborting := hreport
        simp [hreport])
      exact (hconn id hopen).symm ▸ hnoted.aborting id hreport
  | callReopen =>
    obtain ⟨id, hconn⟩ := Option.isSome_iff_exists.mp (huse rfl)
    rw [showStep_callReopen_some env hconn]
    exact iff_of_true hnoted trivial
  | reopenDialog id =>
    have hremote := fun id' => w.setAbort_remoteObject id id' false
    refine iff_of_true ⟨hnoted.crashed, fun id' hopen habort => ?_, fun id' hreport => ?_⟩ trivial
    · have habort' : (w.conn id').isAbortDialog = true := by
        by_cases hid : id' = id
        · simp [SwitchWindow.showStep, setAbort, setConn, hid] at habort
        · simpa [SwitchWindow.showStep, setAbort, setConn, hid] using habort
      exact (hnoted.shown id' hopen habort').imp_left fun hshown => (hremote id').trans hshown
    · exact (hremote id').trans (hnoted.aborting id' hreport)
  | callConnect dialog => exact iff_of_true hnoted trivial
  | connectAbility dialog conn =>
    cases haccepted : env.connectAbility dialog.bundle dialog.ability with
    | false =>
      rw [showStep_connectAbility_refused env conn haccepted]
      exact iff_of_true hnoted fun haccepted' => absurd (haccepted'.symm.trans haccepted) (by simp)
    | true =>
      rw [showStep_connectAbility_accepted env conn haccepted]
      constructor
      · intro hafter _ id hid habort
        exact hafter.shown id (List.mem_append_left _ (by simpa using hid)) habort
      · intro hshown
        refine ⟨hnoted.crashed, fun id hopen habort => ?_, hnoted.aborting⟩
        rcases List.mem_append.mp hopen with hid | hopen
        · exact hshown haccepted id (by simpa using hid) habort
        · exact hnoted.shown id hopen habort
  | dropConn => exact absurd rfl hdrop

/-- The member is there for a thread that has just found it, and stays for the others. -/
theorem showStep_uses (env : WindowEnv) {next : Showing} (hdrop : next ≠ .dropConn) :
    (w.usbFuncAbilityConn.isSome → (w.showStep env next).2.usbFuncAbilityConn.isSome) ∧
      ((w.showStep env next).1 = some .callReopen → (w.showStep env next).2.usbFuncAbilityConn.isSome) := by
  cases next with
  | testInstalled => simp [showStep]
  | testConn => cases hconn : w.usbFuncAbilityConn <;> simp [showStep, hconn]
  | newConn => simp [showStep]
  | callReopen => cases hconn : w.usbFuncAbilityConn <;> simp [showStep, hconn]
  | reopenDialog id => simp [showStep, setAbort, setConn]
  | callConnect dialog => simp [showStep]
  | connectAbility dialog conn =>
    cases haccepted : env.connectAbility dialog.bundle dialog.ability with
    | true => simp [showStep_connectAbility_accepted env conn haccepted]
    | false => cases dialog <;> simp [showStep_connectAbility_refused env conn haccepted]
  | dropConn => exact absurd rfl hdrop

/-- A thread in `ShowFunctionSwitchWindow` goes on: `w'` has its new place. -/
theorem Safe.showStep_iff (hsafe : w.Safe) (h : w.Sound) (env : WindowEnv) (next : Showing) (w' : SwitchWindow τ)
    (hnoted : w'.Noted ↔ (w.showStep env next).2.Noted)
    (hmember : w'.usbFuncAbilityConn = (w.showStep env next).2.usbFuncAbilityConn)
    (hhere : next = .callReopen → w.Uses)
    (huses : w'.Uses → (w.showStep env next).1 = some .callReopen ∨ w.Uses)
    (hothers : next = .dropConn → w.Uses → w'.Uses) :
    w'.Safe ↔ w.showSafe env next := by
  by_cases hdrop : next = .dropConn
  · subst hdrop
    have hdropped : (w.showStep env .dropConn).2.Noted := hsafe.1.congr rfl rfl rfl rfl
    simp only [Safe, hnoted, hdropped, hmember, true_and]
    constructor
    · intro hafter hothers'
      exact absurd (hafter (hothers rfl hothers')) (by simp [SwitchWindow.showStep])
    · intro hfree hothers'
      exact absurd ((huses hothers').resolve_left (by simp [SwitchWindow.showStep])) hfree
  · obtain ⟨hstays, hfound⟩ := showStep_uses (w := w) env hdrop
    have hkeeps : w'.Uses → w'.usbFuncAbilityConn.isSome := by
      intro hothers'
      rw [hmember]
      rcases huses hothers' with hhere' | hothers'
      · exact hfound hhere'
      · exact hstays (hsafe.2 hothers')
    rw [← hsafe.1.showStep_iff h env (fun hreopen => hsafe.2 (hhere hreopen)) hdrop, Safe, hnoted,
      and_iff_left hkeeps]

theorem Noted.unShowStep_iff (hnoted : w.Noted) (env : WindowEnv) (next : Closing)
    (huse : next = .callClose → w.usbFuncAbilityConn.isSome) :
    (w.unShowStep env next).2.Noted ↔ w.closeSafe next := by
  cases next with
  | testConn =>
    refine iff_of_true ?_ trivial
    obtain hconn | ⟨id, hconn⟩ := Option.eq_none_or_eq_some w.usbFuncAbilityConn
    · rw [unShowStep_testConn_none env hconn]
      exact hnoted
    · rw [unShowStep_testConn_some env hconn]
      exact hnoted
  | callClose =>
    obtain ⟨id, hconn⟩ := Option.isSome_iff_exists.mp (huse rfl)
    rw [unShowStep_callClose_some env hconn]
    exact iff_of_true hnoted trivial
  | closeDialog id =>
    have hremote := fun id' => w.setAbort_remoteObject id id' true
    constructor
    · intro hafter hopen
      exact (hafter.shown id hopen (by simp [SwitchWindow.unShowStep, setAbort, setConn])).imp_left
        fun hshown => (hremote id).symm.trans hshown
    · intro hshown
      refine ⟨hnoted.crashed, fun id' hopen habort => ?_, fun id' hreport => ?_⟩
      · by_cases hid : id' = id
        · subst hid
          exact (hshown hopen).imp_left fun hshown => (hremote id').trans hshown
        · have hconn := w.setAbort_conn_of_ne hid true
          exact (hnoted.shown id' hopen (hconn ▸ habort)).imp_left fun hshown => (hremote id').trans hshown
      · exact (hremote id').trans (hnoted.aborting id' hreport)
  | sendClose id =>
    refine iff_of_true ?_ trivial
    cases hremote : (w.conn id).remoteObject <;> simp only [SwitchWindow.unShowStep, hremote]
    · exact hnoted
    · exact hnoted.congr rfl rfl rfl rfl
  | disconnectAbility => exact iff_of_true hnoted trivial

theorem unShowStep_uses (env : WindowEnv) {next : Closing} (hfound : (w.unShowStep env next).1 = some .callClose) :
    w.usbFuncAbilityConn.isSome := by
  cases next with
  | testConn =>
    obtain hconn | ⟨id, hconn⟩ := Option.eq_none_or_eq_some w.usbFuncAbilityConn
    · simp [unShowStep_testConn_none env hconn] at hfound
    · simp [hconn]
  | callClose =>
    obtain hconn | ⟨id, hconn⟩ := Option.eq_none_or_eq_some w.usbFuncAbilityConn
    · simp [unShowStep_callClose_none env hconn] at hfound
    · simp [hconn]
  | closeDialog id => simp [unShowStep] at hfound
  | sendClose id => simp [unShowStep] at hfound
  | disconnectAbility => simp [unShowStep] at hfound

theorem Safe.heldStep_iff (hsafe : w.Safe) (h : w.Sound) (env : WindowEnv) :
    (w.heldStep env).Safe ↔ w.heldSafe env w.opMutex := by
  rcases hholder : w.opMutex with - | (next | next)
  · have heq : w.heldStep env = w := by simp [SwitchWindow.heldStep, hholder]
    rw [heq]
    exact iff_of_true hsafe trivial
  · rw [heldStep_showing env next w hholder]
    have hshow := hsafe.showStep_iff h env next ({ (w.showStep env next).2 with
      opMutex := (w.showStep env next).1.map .showing }) ⟨fun h => h.congr rfl rfl rfl rfl,
        fun h => h.congr rfl rfl rfl rfl⟩ rfl (by rintro rfl; exact .inl hholder)
    obtain ⟨_, _, _, _, _, heq, -⟩ := w.showStep_frame env next
    refine hshow ?_ ?_
    · rintro (hhere | hhere | ⟨t, hcheck⟩)
      · exact .inl (by simpa using hhere)
      · simp at hhere
      · rw [heq] at hcheck
        exact .inr (.inr (.inr ⟨t, hcheck⟩))
    · rintro rfl (hhere | hhere | hcheck)
      · simp [hholder] at hhere
      · simp [hholder] at hhere
      · exact .inr (.inr hcheck)
  · rw [heldStep_closing env next w hholder]
    have hclose := hsafe.1.unShowStep_iff env next (by rintro rfl; exact hsafe.2 (.inr (.inl hholder)))
    obtain ⟨conn, trace, crashed, heq⟩ := w.unShowStep_frame env next
    have hkeeps : ∀ w' : SwitchWindow τ, w' = { (w.unShowStep env next).2 with
        opMutex := (w.unShowStep env next).1.map .closing } → w'.Uses → w'.usbFuncAbilityConn.isSome := by
      rintro w' rfl (hhere | hhere | ⟨t, hcheck⟩)
      · simp at hhere
      · obtain hfound : (w.unShowStep env next).1 = some .callClose := by simpa using hhere
        have hmember : w.usbFuncAbilityConn.isSome := unShowStep_uses env hfound
        rw [heq]
        exact hmember
      · rw [heq] at hcheck ⊢
        exact hsafe.2 (.inr (.inr ⟨t, hcheck⟩))
    have hnoted : ({ (w.unShowStep env next).2 with opMutex := (w.unShowStep env next).1.map .closing } :
        SwitchWindow τ).Noted ↔ (w.unShowStep env next).2.Noted :=
      ⟨fun h => h.congr rfl rfl rfl rfl, fun h => h.congr rfl rfl rfl rfl⟩
    rw [Safe, hnoted, hclose, and_iff_left (hkeeps _ rfl)]
    exact Iff.rfl

theorem Safe.checkStep_iff [DecidableEq τ] (hsafe : w.Safe) (h : w.Sound) (t : τ) (getBundleInfo : Bool)
    (env : WindowEnv) :
    (w.checkStep t getBundleInfo env).Safe ↔ w.checkSafe env (w.check t) := by
  rcases checkStep_cases t getBundleInfo env w with ⟨next, hcheck, heq⟩ | ⟨hcheck, check, isDialogInstalled, heq, hnew⟩
  · obtain ⟨_, _, _, _, _, hframe, -⟩ := w.showStep_frame env next
    have hshow := hsafe.showStep_iff h env next ((w.showStep env next).2.goto t
      ((w.showStep env next).1.elim .outside .showing)) ⟨fun h => h.congr rfl rfl rfl rfl,
        fun h => h.congr rfl rfl rfl rfl⟩ rfl (by rintro rfl; exact .inr (.inr ⟨t, hcheck⟩))
    rw [heq, hcheck]
    refine hshow ?_ ?_
    · rintro (hhere | hhere | ⟨t', hcheck'⟩)
      · rw [hframe] at hhere
        exact .inr (.inl hhere)
      · rw [hframe] at hhere
        exact .inr (.inr (.inl hhere))
      · by_cases ht : t' = t
        · subst ht
          cases hgo : (w.showStep env next).1 with
          | none => simp [goto, hgo] at hcheck'
          | some next' => exact .inl (by simpa [goto, hgo] using hcheck')
        · rw [hframe] at hcheck'
          exact .inr (.inr (.inr ⟨t', by simpa [goto, ht] using hcheck'⟩))
    · rintro rfl (hhere | hhere | ⟨t', hcheck'⟩)
      · exact .inl hhere
      · exact .inr (.inl hhere)
      · have ht : t' ≠ t := by
          rintro rfl
          simp [hcheck] at hcheck'
        exact .inr (.inr ⟨t', by simpa [goto, ht, SwitchWindow.showStep] using hcheck'⟩)
  · rw [heq]
    have hother : w.checkSafe env (w.check t) := by
      cases hplace : w.check t with
      | showing next => exact absurd hplace (hcheck next)
      | _ => trivial
    refine iff_of_true ⟨hsafe.1.congr rfl rfl rfl rfl, ?_⟩ hother
    rintro (hhere | hhere | ⟨t', hcheck'⟩)
    · exact hsafe.2 (.inl hhere)
    · exact hsafe.2 (.inr (.inl hhere))
    · by_cases ht : t' = t
      · subst ht
        have hnext := hnew .callReopen (by simpa using hcheck')
        simp at hnext
      · exact hsafe.2 (.inr (.inr ⟨t', by simpa [ht] using hcheck'⟩))

theorem Safe.lock (hsafe : w.Safe) (h : w.Sound) (n : Nat) (env : WindowEnv) : (w.lock n env).Safe := by
  rcases lock_cases n env h with heq | ⟨-, connected, trace, opMutex, -, heq, hopMutex⟩
  · rw [heq]
    exact hsafe
  · rw [heq]
    refine ⟨hsafe.1.congr rfl rfl rfl rfl, ?_⟩
    have hnew : opMutex ≠ some (.showing .callReopen) ∧ opMutex ≠ some (.closing .callClose) := by
      rcases hopMutex with ⟨rfl, -⟩ | rfl
      · simp
      · cases connected <;> simp
    rintro (hhere | hhere | hcheck)
    · exact absurd hhere hnew.1
    · exact absurd hhere hnew.2
    · exact hsafe.2 (.inr (.inr hcheck))

theorem Safe.bootCompletedEventCallback (hsafe : w.Safe) (env : WindowEnv) :
    (w.bootCompletedEventCallback env).Safe := by
  rcases bootCompletedEventCallback_cases env w with heq | ⟨-, -, heq⟩
  · rw [heq]
    exact hsafe
  · rw [heq]
    refine ⟨hsafe.1.congr rfl rfl rfl rfl, ?_⟩
    rintro (hhere | hhere | hcheck)
    · simp at hhere
    · simp at hhere
    · exact hsafe.2 (.inr (.inr hcheck))

theorem Safe.onAbilityConnectDone (hsafe : w.Safe) (id : Nat) (remoteObject : Bool) :
    (w.onAbilityConnectDone id remoteObject).Safe := by
  unfold SwitchWindow.onAbilityConnectDone
  split_ifs with hopen habort
  · refine ⟨⟨hsafe.1.crashed, fun id' hopen' habort' => ?_, fun id' hreport => ?_⟩, hsafe.2⟩
    · have hshown := hsafe.1.shown id' hopen' habort'
      by_cases hid : id' = id
      · subst hid
        exact .inl (hshown.resolve_right (by simp [hopen.2.1]))
      · simpa [setReport, hid] using hshown
    · by_cases hid : id' = id
      · subst hid
        exact (hsafe.1.shown id' hopen.1 habort).resolve_right (by simp [hopen.2.1])
      · exact hsafe.1.aborting id' (by simpa [setReport, hid] using hreport)
  · refine ⟨⟨hsafe.1.crashed, fun id' hopen' habort' => ?_, fun id' hreport => ?_⟩, hsafe.2⟩
    · by_cases hid : id' = id
      · exact absurd (hid ▸ habort') habort
      · simpa [setReport, hid] using hsafe.1.shown id' hopen' habort'
    · by_cases hid : id' = id
      · simp [setReport, hid] at hreport
      · exact hsafe.1.aborting id' (by simpa [setReport, hid] using hreport)
  · exact hsafe

theorem Safe.reportStep (hsafe : w.Safe) (id : Nat) (sent : Bool) (supportedFuncStr : String) :
    (w.reportStep id sent supportedFuncStr).Safe := by
  obtain ⟨⟨hcrashed, hshown, haborting⟩, huses⟩ := hsafe
  unfold SwitchWindow.reportStep
  cases hreport : w.report id with
  | outside => exact ⟨⟨hcrashed, hshown, haborting⟩, huses⟩
  | aborting =>
    have hremote := haborting id hreport
    simp only [hremote, if_true]
    refine ⟨⟨hcrashed, fun id' hopen habort => ?_, fun id' hreport' => ?_⟩, huses⟩
    · by_cases hid : id' = id
      · subst hid
        exact .inl hremote
      · simpa [setReport, log, hid] using hshown id' hopen habort
    · by_cases hid : id' = id
      · simp [setReport, hid] at hreport'
      · exact haborting id' (by simpa [setReport, log, hid] using hreport')
  | sending =>
    refine ⟨⟨hcrashed, fun id' hopen habort => ?_, fun id' hreport' => ?_⟩, huses⟩
    · have hshown' := hshown id' hopen habort
      by_cases hid : id' = id
      · subst hid
        exact .inl (hshown'.resolve_right (by simp [hreport]))
      · simpa [setReport, log, hid] using hshown'
    · by_cases hid : id' = id
      · cases sent <;> simp [setReport, hid] at hreport'
      · exact haborting id' (by simpa [setReport, log, hid] using hreport')
  | storing =>
    refine ⟨⟨hcrashed, fun id' hopen habort => ?_, fun id' hreport' => ?_⟩, huses⟩
    · by_cases hid : id' = id
      · exact .inl (by simp [setReport, setRemote, setConn, hid])
      · have habort' : (w.conn id').isAbortDialog = true := by
          simpa [setReport, setRemote, setConn, hid] using habort
        simpa [setReport, setRemote, setConn, hid] using hshown id' hopen habort'
    · by_cases hid : id' = id
      · simp [setReport, hid] at hreport'
      · have hreport'' : w.report id' = .aborting := by
          simpa [setReport, setRemote, setConn, hid] using hreport'
        simpa [setReport, setRemote, setConn, hid] using haborting id' hreport''

theorem Safe.onAbilityDisconnectDone (hsafe : w.Safe) (id : Nat) : (w.onAbilityDisconnectDone id).Safe := by
  unfold SwitchWindow.onAbilityDisconnectDone
  split_ifs with hopen
  · refine ⟨⟨hsafe.1.crashed, fun id' hopen' habort => ?_, fun id' hreport => ?_⟩, hsafe.2⟩
    · obtain ⟨hopen', hne⟩ := List.mem_filter.mp hopen'
      have hconn : (w.setRemote id false).conn id' = w.conn id' := w.setRemote_conn_of_ne (by simpa using hne) false
      exact (hsafe.1.shown id' hopen' (hconn ▸ habort)).imp_left fun hremote => hconn.symm ▸ hremote
    · have hne : id' ≠ id := by
        rintro rfl
        exact absurd (hopen.2.symm.trans hreport) (by simp)
      have hconn := w.setRemote_conn_of_ne hne false
      exact hconn.symm ▸ hsafe.1.aborting id' hreport
  · exact hsafe

theorem Safe.request (hsafe : w.Safe) (env : WindowEnv) (connected : Bool) :
    (w.processFunctionSwitchWindow env connected).Safe := by
  obtain ⟨prompt, waiting, heq, -⟩ := processFunctionSwitchWindow_frame env w connected
  rw [heq]
  exact ⟨hsafe.1.congr rfl rfl rfl rfl, hsafe.2⟩

end SwitchWindow

end UsbManager.Gadget
