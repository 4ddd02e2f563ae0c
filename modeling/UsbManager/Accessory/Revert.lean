import UsbManager.Accessory.Machine
import UsbManager.Lib.Run

/-!
# The revert timer

The timer is unregistered before HDI is asked for the function, and the status is only left when HDI answers as
hoped. So the status and the timer go together as long as HDI does, and no message is sent while configuring.
-/

namespace UsbManager.Accessory

open UsbAccessoryManager

/-! ## Steps -/

/-- What reaches the manager from outside. -/
inductive Op
  | handleEvent (env : AccessoryEnv) (status : UsbdDeviceAction) (delayProcess : Bool)
  | fire (env : AccessoryEnv) (id : Nat)
  | setFunction (hdiFunction : UInt32)

/-- Another user of HDI may change the function between the events. -/
def Op.step : Op → UsbAccessoryManager → UsbAccessoryManager
  | .handleEvent env status delayProcess, m => UsbAccessoryManager.handleEvent env status delayProcess m
  | .fire env id, m => UsbAccessoryManager.fire env id m
  | .setFunction hdiFunction, m => { m with hdiFunction := hdiFunction }

/-- The event that the step acts on: not one that is held back or that finds no interface. -/
def Op.processed (op : Op) (m : UsbAccessoryManager) : Option (AccessoryEnv × UsbdDeviceAction) :=
  if !m.usbDeviceInterface then none
  else
    match op with
    | .handleEvent env status delayProcess =>
      if (status = .updevice || status = .downdevice) && delayProcess then none else some (env, status)
    | .fire env id =>
      match m.timers.task? id with
      | some (.handleEvent, _) => some (env, m.eventStatus)
      | _ => none
    | .setFunction _ => none

/-! ## Timers -/

/-- The accessory function will be taken back. -/
def RevertPending (m : UsbAccessoryManager) : Prop := ∃ id interval, m.timers.task? id = some (.revert, interval)

/-- At most the last revert timer is pending, and the other id is not its id. -/
structure Timed (m : UsbAccessoryManager) : Prop where
  revert : ∀ id interval, m.timers.task? id = some (.revert, interval) →
    m.accDelayTimerId = some id ∧ m.antiShakeDelayTimerId ≠ some id
  antiShake : ∀ id, m.antiShakeDelayTimerId = some id → id < m.timers.next

/-- The tasks of the revert timer are the same. -/
def SameReverts (t t' : Timers (AccessoryTask × Nat)) : Prop :=
  ∀ id interval, t'.task? id = some (.revert, interval) ↔ t.task? id = some (.revert, interval)

theorem SameReverts.refl (t : Timers (AccessoryTask × Nat)) : SameReverts t t := fun _ _ => Iff.rfl

theorem SameReverts.pending {m m' : UsbAccessoryManager} (h : SameReverts m.timers m'.timers) :
    RevertPending m' ↔ RevertPending m :=
  exists_congr fun id => exists_congr fun interval => h id interval

theorem Timed.of_same {m m' : UsbAccessoryManager} (hm : Timed m) (h : SameReverts m.timers m'.timers)
    (hacc : m'.accDelayTimerId = m.accDelayTimerId) (hanti : m'.antiShakeDelayTimerId = m.antiShakeDelayTimerId)
    (hnext : m'.timers.next = m.timers.next) : Timed m' := by
  refine ⟨fun id interval hid => ?_, fun id hid => ?_⟩
  · rw [hacc, hanti]
    exact hm.revert id interval ((h id interval).mp hid)
  · rw [hnext]
    exact hm.antiShake id (hanti ▸ hid)

theorem sameReverts_unregister (t : Timers (AccessoryTask × Nat)) (id : Nat)
    (hid : ∀ interval, t.task? id ≠ some (.revert, interval)) : SameReverts t (t.unregister id) := by
  intro id' interval
  rw [Timers.task?_unregister]
  split
  · rename_i h
    subst h
    simp [hid interval]
  · rfl

theorem Timed.sameReverts_antiShake {m : UsbAccessoryManager} (hm : Timed m) :
    SameReverts m.timers (m.timers.unregister? m.antiShakeDelayTimerId) := by
  intro id interval
  rw [Timers.task?_unregister?]
  split
  · rename_i h
    simp only [reduceCtorEq, false_iff]
    intro hid
    exact (hm.revert id interval hid).2 h
  · rfl

theorem Timed.unregister_acc {m : UsbAccessoryManager} (hm : Timed m) (id interval : Nat) :
    (m.timers.unregister? m.accDelayTimerId).task? id ≠ some (.revert, interval) := by
  rw [Timers.task?_unregister?]
  split
  · simp
  · rename_i h
    intro hid
    exact h (hm.revert id interval hid).1

theorem Timed.registerAntiShake {m : UsbAccessoryManager} (hm : Timed m) :
    Timed (registerAntiShake m) ∧ SameReverts m.timers (registerAntiShake m).timers := by
  have hsame : SameReverts m.timers (UsbAccessoryManager.registerAntiShake m).timers := by
    intro id interval
    refine (congrArg (· = some (AccessoryTask.revert, interval)) (Timers.task?_register _ _ _)).to_iff.trans ?_
    split
    · rename_i h
      rw [h, Timers.task?_next]
      simp
    · rfl
  refine ⟨⟨fun id interval hid => ?_, fun id hid => ?_⟩, hsame⟩
  · have hold := (hsame id interval).mp hid
    refine ⟨(hm.revert id interval hold).1, fun h => ?_⟩
    have hlt := Timers.lt_next hold
    rw [← Option.some.inj h] at hlt
    exact absurd hlt (Nat.lt_irrefl _)
  · obtain rfl := Option.some.inj hid
    exact Nat.lt_succ_self _

/-! ## What a step does -/

/-- The event is noted and its timers are gone: everything else is as before. -/
structure Noted (m m₁ : UsbAccessoryManager) : Prop where
  timed : Timed m₁
  reverts : SameReverts m.timers m₁.timers
  eq : ∃ status timers, m₁ = { m with eventStatus := status, timers := timers }

theorem Timed.noted {m : UsbAccessoryManager} (hm : Timed m) (status : UsbdDeviceAction)
    (t : Timers (AccessoryTask × Nat)) (hsame : SameReverts m.timers t) (hnext : t.next = m.timers.next) :
    Noted m { m with eventStatus := status, timers := t } :=
  ⟨hm.of_same hsame rfl rfl hnext, hsame, status, t, rfl⟩

theorem Op.step_processed (op : Op) (m : UsbAccessoryManager) (hm : Timed m) (env : AccessoryEnv)
    (status : UsbdDeviceAction) (h : op.processed m = some (env, status)) :
    m.usbDeviceInterface = true ∧ ∃ m₁, Noted m m₁ ∧ op.step m = processHandle env (curAccStatus status m) m₁ := by
  unfold Op.processed at h
  rcases hface : m.usbDeviceInterface with - | -
  · simp [hface] at h
  simp only [hface, Bool.not_true, Bool.false_eq_true, if_false] at h
  refine ⟨rfl, ?_⟩
  cases op with
  | handleEvent env' status' delayProcess =>
    dsimp only at h
    split at h
    · cases h
    · rename_i hnow
      obtain ⟨rfl, rfl⟩ := Prod.mk.inj (Option.some.inj h)
      have hstep : (Op.handleEvent env' status' delayProcess).step m = processHandle env' (curAccStatus status' m)
          { m with
            eventStatus := status'
            timers := if delayProcess then m.timers.unregister? m.antiShakeDelayTimerId else m.timers } := by
        simp only [Op.step, UsbAccessoryManager.handleEvent, hface]
        rw [if_neg hnow]
        cases delayProcess <;> rfl
      refine ⟨_, hm.noted status' _ ?_ ?_, hstep⟩
      · split
        · exact hm.sameReverts_antiShake
        · exact .refl _
      · split
        · exact Timers.next_unregister? _ _
        · rfl
  | fire env' id =>
    dsimp only at h
    split at h
    · rename_i interval htask
      obtain ⟨rfl, rfl⟩ := Prod.mk.inj (Option.some.inj h)
      refine ⟨{ m with timers := m.timers.unregister id }, hm.noted m.eventStatus _ ?_ rfl, ?_⟩
      · refine sameReverts_unregister m.timers id fun interval' h' => ?_
        rw [htask] at h'
        cases h'
      · simp only [Op.step, UsbAccessoryManager.fire, htask, UsbAccessoryManager.handleEvent, hface]
        simp [curAccStatus]
    · cases h
  | setFunction hdiFunction => cases h

/-- A step that acts on no event. -/
inductive Quiet (m : UsbAccessoryManager) : UsbAccessoryManager → Prop
  | held (status : UsbdDeviceAction) (timers : Timers (AccessoryTask × Nat)) (antiShake : Option Nat)
      (htimed : Timed { m with eventStatus := status, timers := timers, antiShakeDelayTimerId := antiShake })
      (hreverts : SameReverts m.timers timers) :
      Quiet m { m with eventStatus := status, timers := timers, antiShakeDelayTimerId := antiShake }
  | reverted (env : AccessoryEnv) (id interval : Nat) (htask : m.timers.task? id = some (.revert, interval)) :
      Quiet m (revertTask env { m with timers := m.timers.unregister id })
  | changed (hdiFunction : UInt32) : Quiet m { m with hdiFunction := hdiFunction }

theorem Quiet.refl {m : UsbAccessoryManager} (hm : Timed m) : Quiet m m :=
  .held m.eventStatus m.timers m.antiShakeDelayTimerId hm (.refl _)

theorem Op.step_quiet (op : Op) (m : UsbAccessoryManager) (hm : Timed m) (h : op.processed m = none) :
    Quiet m (op.step m) := by
  unfold Op.processed at h
  cases op with
  | handleEvent env status delayProcess =>
    rcases hface : m.usbDeviceInterface with - | -
    · have hstep : (Op.handleEvent env status delayProcess).step m = m := by
        simp [Op.step, UsbAccessoryManager.handleEvent, hface]
      rw [hstep]
      exact Quiet.refl hm
    · simp only [hface, Bool.not_true, Bool.false_eq_true, if_false, ite_eq_left_iff, reduceCtorEq, imp_false, not_not] at h
      have hdelay : delayProcess = true := by simp_all
      obtain ⟨htimed, hsame, -⟩ := hm.noted status _ hm.sameReverts_antiShake (Timers.next_unregister? _ _)
      obtain ⟨htimed', hsame'⟩ := htimed.registerAntiShake
      have hstep : (Op.handleEvent env status delayProcess).step m = UsbAccessoryManager.registerAntiShake
          { m with eventStatus := status, timers := m.timers.unregister? m.antiShakeDelayTimerId } := by
        simp only [Op.step, UsbAccessoryManager.handleEvent, hface, Bool.not_true, Bool.false_eq_true, if_false]
        rw [if_pos h, hdelay]
        rfl
      rw [hstep]
      exact .held status _ _ htimed' fun id interval => (hsame' id interval).trans (hsame id interval)
  | fire env id =>
    show Quiet m (UsbAccessoryManager.fire env id m)
    unfold UsbAccessoryManager.fire
    rcases htask : m.timers.task? id with - | ⟨task, interval⟩
    · exact Quiet.refl hm
    · cases task with
      | revert => exact .reverted env id interval htask
      | handleEvent =>
        have hface : m.usbDeviceInterface = false := by
          by_contra hface
          simp [hface, htask] at h
        have hsame := sameReverts_unregister m.timers id fun interval' h' => by
          rw [htask] at h'
          cases h'
        have hstep : UsbAccessoryManager.handleEvent env m.eventStatus false { m with timers := m.timers.unregister id } =
            { m with timers := m.timers.unregister id } := by
          unfold UsbAccessoryManager.handleEvent
          rw [hface]
          rfl
        dsimp only
        rw [hstep]
        exact .held m.eventStatus _ m.antiShakeDelayTimerId (hm.of_same hsame rfl rfl rfl) hsame
  | setFunction hdiFunction => exact .changed hdiFunction

/-! ## The status and the timer -/

/-- The gadget is configured for an accessory exactly while the timer that reverts it is pending. -/
def Guarded (m : UsbAccessoryManager) : Prop := m.accStatus = .configuring ↔ RevertPending m

/-- What an event needs that finds the gadget being configured. -/
def Continues (env : AccessoryEnv) (hdiFunction : UInt32) : UsbdDeviceAction → Prop
  | .updevice => env.getCurrentFunctions = .ok ∧ isAccessory hdiFunction = true
  | .accessoryup => env.getCurrentFunctions = .ok ∧
      (isAccessory hdiFunction = true ∨ env.setCurrentFunctions funAccessory = .ok)
  | .accessorysend => False
  | _ => True

/-- While configuring no message is processed, and HDI answers: an up of the line finds the function set, and a
repeated start finds it or can set it. -/
def Op.sound (op : Op) (m : UsbAccessoryManager) : Prop :=
  ∀ env status, op.processed m = some (env, status) → m.accStatus = .configuring → Continues env m.hdiFunction status

theorem not_revertPending_of_stopTimer {m m' : UsbAccessoryManager} (hm : Timed m)
    (h : m'.timers = m.stopTimer.timers) : ¬ RevertPending m' := by
  rintro ⟨id, interval, hid⟩
  rw [h] at hid
  exact hm.unregister_acc id interval hid

theorem Timed.stopTimer {m m' : UsbAccessoryManager} (hm : Timed m) (h : m'.timers = m.stopTimer.timers)
    (hanti : m'.antiShakeDelayTimerId = m.antiShakeDelayTimerId) : Timed m' := by
  refine ⟨fun id interval hid => ?_, fun id hid => ?_⟩
  · exact absurd ⟨id, interval, hid⟩ (not_revertPending_of_stopTimer hm h)
  · rw [h, show m.stopTimer.timers.next = m.timers.next from Timers.next_unregister? _ _]
    exact hm.antiShake id (hanti ▸ hid)

theorem configured_timed {m : UsbAccessoryManager} (hm : Timed m) (hidle : ¬ RevertPending m) :
    Timed (configured m) ∧ RevertPending (configured m) := by
  have htask : ∀ id, (configured m).timers.task? id =
      if id = m.timers.next then some (.revert, delayAccInterval) else m.timers.task? id :=
    Timers.task?_register _ _
  refine ⟨⟨fun id interval hid => ?_, fun id hid => ?_⟩, m.timers.next, delayAccInterval, ?_⟩
  · rw [htask] at hid
    split at hid
    · rename_i hnew
      subst hnew
      refine ⟨rfl, fun h => ?_⟩
      exact absurd (hm.antiShake _ h) (Nat.lt_irrefl _)
    · exact absurd ⟨id, interval, hid⟩ hidle
  · exact Nat.lt_succ_of_lt (hm.antiShake id hid)
  · rw [htask, if_pos rfl]

theorem guarded_stopTimer_iff {m m' : UsbAccessoryManager} (hm : Timed m) (h : m'.timers = m.stopTimer.timers) :
    Guarded m' ↔ m'.accStatus ≠ .configuring := by
  unfold Guarded
  simp only [not_revertPending_of_stopTimer hm h, iff_false, ne_eq]

/-- Asking HDI for the function stops the timer, so the status must have changed or the timer been started again. -/
theorem asks_guarded_iff (env : AccessoryEnv) (cur : AccessoryMode) {m m' : UsbAccessoryManager} (hm : Timed m)
    (h : Asks env cur m m') :
    Timed m' ∧ (Guarded m' ↔ (m.accStatus = .configuring → env.getCurrentFunctions = .ok ∧
      (isAccessory m.hdiFunction = true ∨ (cur = .configuring ∧ env.setCurrentFunctions funAccessory = .ok)))) := by
  cases h with
  | silent hget =>
    refine ⟨hm.stopTimer rfl rfl, (guarded_stopTimer_iff hm rfl).trans ?_⟩
    simp [UsbAccessoryManager.stopTimer, hget]
  | start hget hfunc hstatus =>
    have hiff : Guarded (started env m.stopTimer.readFunction) ↔ AccessoryMode.start ≠ .configuring :=
      guarded_stopTimer_iff hm rfl
    refine ⟨hm.stopTimer rfl rfl, hiff.trans ?_⟩
    simp [hget, hfunc]
  | again hget hfunc hstatus =>
    refine ⟨hm.stopTimer rfl rfl, (guarded_stopTimer_iff hm rfl).trans ?_⟩
    simp [UsbAccessoryManager.stopTimer, hstatus]
  | configure hget hfunc hcur hset =>
    obtain ⟨htimed, hpending⟩ := configured_timed (m := m.stopTimer.readFunction) (hm.stopTimer rfl rfl)
      (not_revertPending_of_stopTimer hm rfl)
    exact ⟨htimed, fun _ _ => ⟨hget, .inr ⟨hcur, hset⟩⟩, fun _ => ⟨fun _ => hpending, fun _ => rfl⟩⟩
  | refused hget hfunc hset =>
    refine ⟨hm.stopTimer rfl rfl, (guarded_stopTimer_iff hm rfl).trans ?_⟩
    simp only [UsbAccessoryManager.stopTimer, hfunc, Bool.false_eq_true, false_or, ne_eq]
    constructor
    · intro hne hconf
      exact absurd hconf hne
    · rintro h hconf
      exact hset (h hconf).2.1 (h hconf).2.2

theorem Op.sound_iff (op : Op) (m : UsbAccessoryManager) (env : AccessoryEnv) (status : UsbdDeviceAction)
    (h : op.processed m = some (env, status)) :
    op.sound m ↔ (m.accStatus = .configuring → Continues env m.hdiFunction status) := by
  unfold Op.sound
  rw [h]
  constructor
  · intro hsound
    exact hsound env status rfl
  · rintro hsound env' status' heq
    obtain ⟨rfl, rfl⟩ := Prod.mk.inj (Option.some.inj heq)
    exact hsound

theorem processHandle_stop_guarded (env : AccessoryEnv) {m : UsbAccessoryManager} (hm : Timed m) (hg : Guarded m)
    (hface : m.usbDeviceInterface = true) :
    Timed (processHandle env .stop m) ∧ Guarded (processHandle env .stop m) := by
  rw [processHandle_stop env m hface]
  split
  · rename_i hstart
    refine ⟨hm.of_same (.refl _) rfl rfl rfl, ?_⟩
    have hidle : ¬ RevertPending (stopped env m) := fun h => by
      have hconf := hg.mpr h
      rw [hstart.2] at hconf
      cases hconf
    exact ⟨fun h => (by cases h), fun h => absurd h hidle⟩
  · exact ⟨hm, hg⟩

theorem Op.processed_guarded_iff (op : Op) (m : UsbAccessoryManager) (hm : Timed m) (hg : Guarded m)
    (env : AccessoryEnv) (status : UsbdDeviceAction) (h : op.processed m = some (env, status)) :
    Timed (op.step m) ∧ (Guarded (op.step m) ↔ op.sound m) := by
  obtain ⟨hface, m₁, ⟨htimed, hsame, status', t, rfl⟩, hstep⟩ := op.step_processed m hm env status h
  have hguarded : Guarded { m with eventStatus := status', timers := t } := hg.trans hsame.pending.symm
  rw [hstep, op.sound_iff m env status h]
  cases status with
  | updevice =>
    by_cases hconf : m.accStatus = .configuring
    · have hasks := asks_guarded_iff env .start htimed (processHandle_asks env .start _ (.inr rfl) hface)
      simpa [curAccStatus, hconf, Continues] using hasks
    · simpa [curAccStatus, hconf, processHandle_none] using And.intro htimed hguarded
  | accessoryup =>
    have hasks := asks_guarded_iff env .configuring htimed (processHandle_asks env .configuring _ (.inl rfl) hface)
    simpa [curAccStatus, Continues] using hasks
  | downdevice => simpa [curAccStatus, Continues] using processHandle_stop_guarded env htimed hguarded hface
  | accessorydown => simpa [curAccStatus, Continues] using processHandle_stop_guarded env htimed hguarded hface
  | accessorysend =>
    obtain ⟨accessory, es, heq, -⟩ := processHandle_send env { m with eventStatus := status', timers := t }
    rw [curAccStatus, heq]
    refine ⟨htimed.of_same (.refl _) rfl rfl rfl, ?_⟩
    -- The timer is as before, and the status is not the one that goes with it.
    have hpending : RevertPending { m with
        accStatus := .send, eventStatus := status', timers := t, accessory := accessory, trace := m.trace ++ es } ↔
        m.accStatus = .configuring := hguarded.symm
    unfold Guarded
    rw [hpending]
    simp [Continues]
  | other status => simpa [curAccStatus, Continues, processHandle_none] using And.intro htimed hguarded

theorem revertTask_eq (env : AccessoryEnv) (m : UsbAccessoryManager) :
    ∃ hdiFunction, revertTask env m = { m with accStatus := .stop, hdiFunction := hdiFunction } := by
  unfold revertTask setCurrentFunctions
  split
  · exact ⟨m.hdiFunction, rfl⟩
  · dsimp only
    split
    · exact ⟨m.lastDeviceFunc, rfl⟩
    · exact ⟨m.hdiFunction, rfl⟩

theorem Timed.unregister_fired {m : UsbAccessoryManager} (hm : Timed m) {id interval : Nat}
    (htask : m.timers.task? id = some (.revert, interval)) (id' interval' : Nat) :
    (m.timers.unregister id).task? id' ≠ some (.revert, interval') := by
  intro h
  rw [Timers.task?_unregister] at h
  split at h
  · cases h
  · rename_i hne
    have hid := (hm.revert id interval htask).1.symm.trans (hm.revert id' interval' h).1
    exact hne (Option.some.inj hid).symm

theorem Quiet.timed {m m' : UsbAccessoryManager} (h : Quiet m m') (hm : Timed m) : Timed m' := by
  cases h with
  | held status timers antiShake htimed => exact htimed
  | reverted env id interval htask =>
    obtain ⟨hdiFunction, heq⟩ := revertTask_eq env { m with timers := m.timers.unregister id }
    rw [heq]
    exact ⟨fun id' interval' h => absurd h (hm.unregister_fired htask id' interval'), hm.antiShake⟩
  | changed hdiFunction => exact hm.of_same (.refl _) rfl rfl rfl

theorem Quiet.guarded {m m' : UsbAccessoryManager} (h : Quiet m m') (hm : Timed m) (hg : Guarded m) : Guarded m' := by
  cases h with
  | held status timers antiShake htimed hreverts => exact hg.trans (SameReverts.pending hreverts).symm
  | reverted env id interval htask =>
    obtain ⟨hdiFunction, heq⟩ := revertTask_eq env { m with timers := m.timers.unregister id }
    rw [heq]
    constructor
    · intro h
      cases h
    · rintro ⟨id', interval', h⟩
      exact absurd h (hm.unregister_fired htask id' interval')
  | changed hdiFunction => exact hg

theorem Op.step_guarded_iff (op : Op) (m : UsbAccessoryManager) (hm : Timed m) (hg : Guarded m) :
    Timed (op.step m) ∧ (Guarded (op.step m) ↔ op.sound m) := by
  cases h : op.processed m with
  | none =>
    have hquiet := op.step_quiet m hm h
    refine ⟨hquiet.timed hm, fun _ env status heq => ?_, fun _ => hquiet.guarded hm hg⟩
    rw [h] at heq
    cases heq
  | some p => exact op.processed_guarded_iff m hm hg p.1 p.2 h

/-! ## Runs -/

/-- The manager as the constructor leaves it. -/
def Initial (m : UsbAccessoryManager) : Prop :=
  ∃ usbDeviceInterface hdiFunction, m = UsbAccessoryManager.new usbDeviceInterface hdiFunction

abbrev Reachable (C : Op → UsbAccessoryManager → Prop) : UsbAccessoryManager → Prop := Run.Reachable Initial Op.step C

theorem Initial.timed {m : UsbAccessoryManager} (h : Initial m) : Timed m ∧ ¬ RevertPending m := by
  obtain ⟨usbDeviceInterface, hdiFunction, rfl⟩ := h
  refine ⟨⟨fun id interval hid => ?_, fun id hid => ?_⟩, ?_⟩
  · cases hid
  · cases hid
  · rintro ⟨id, interval, hid⟩
    cases hid

/-- In every run of sound steps the timer guards the status, and a step that is not sound parts them. -/
theorem revert_timer_guards (m : UsbAccessoryManager) (hm : Reachable Op.sound m) :
    Guarded m ∧ ∀ op : Op, ¬ op.sound m → ¬ Guarded (op.step m) := by
  have hrun : Timed m ∧ Guarded m := by
    refine hm.invariant (I := fun m => Timed m ∧ Guarded m) ?_ ?_
    · intro m hinit
      refine ⟨hinit.timed.1, ?_⟩
      obtain ⟨usbDeviceInterface, hdiFunction, rfl⟩ := id hinit
      exact ⟨fun h => (by cases h), fun h => absurd h hinit.timed.2⟩
    · rintro op m hsound ⟨htimed, hguarded⟩
      obtain ⟨htimed', hiff⟩ := op.step_guarded_iff m htimed hguarded
      exact ⟨htimed', hiff.mpr hsound⟩
  exact ⟨hrun.2, fun op hop => mt (op.step_guarded_iff m hrun.1 hrun.2).2.mp hop⟩

def answering : AccessoryEnv := ⟨.ok, fun _ => .ok, [], ⟨fun _ => 0, id⟩, 0, fun _ => none⟩

/-- The host asked for an accessory. -/
def asked : UsbAccessoryManager :=
  (Op.handleEvent answering .accessoryup true).step (UsbAccessoryManager.new true 0)

theorem revert_timer_guards_asked : asked.accStatus = .configuring ∧ RevertPending asked := by
  have hrun : Reachable Op.sound asked := by
    refine .step _ (.init ⟨true, 0, rfl⟩) ?_
    intro env status _ hconf
    cases hconf
  exact ⟨rfl, (revert_timer_guards asked hrun).1.mp rfl⟩

/-- A message while configuring: the timer is pending and the status is another one. -/
theorem revert_timer_stale_after_send :
    let m := (Op.handleEvent answering .accessorysend true).step asked
    Reachable (fun _ _ => True) m ∧ m.accStatus = .send ∧ RevertPending m ∧ ¬ Guarded m := by
  intro m
  have hpending : RevertPending m := ⟨0, delayAccInterval, by decide +kernel⟩
  refine ⟨.step _ (.step _ (.init ⟨true, 0, rfl⟩) trivial) trivial, rfl, hpending, fun h => ?_⟩
  cases h.mpr hpending

end UsbManager.Accessory
