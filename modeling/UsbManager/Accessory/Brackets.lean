import UsbManager.Accessory.Revert
import UsbManager.Host.Broadcast

/-!
# Accessory sessions

A session lasts from the broadcast of the start to the one of the stop. The stop looks at the status, so the status
has to stay: a message overwrites it, and so does a start that finds the function taken away.
-/

namespace UsbManager.Accessory

open UsbAccessoryManager
open Host (CommonEvent Alternates)

/-! ## Brackets -/

/-- A message that the host sent is no bracket, although it is broadcast as an attachment. -/
def AccessoryEvent.bracket? : AccessoryEvent → Option CommonEvent
  | .attached _ => some .attached
  | .detached _ => some .detached
  | .sent _ => none

def brackets (trace : List AccessoryEvent) : List CommonEvent := trace.filterMap AccessoryEvent.bracket?

/-- The last start was not stopped yet. -/
def SessionOpen (m : UsbAccessoryManager) : Prop := (brackets m.trace).getLast? = some .attached

theorem brackets_append (trace es : List AccessoryEvent) : brackets (trace ++ es) = brackets trace ++ brackets es :=
  List.filterMap_append

theorem brackets_sent (trace es : List AccessoryEvent) (h : ∀ e ∈ es, ∃ accessory, e = .sent accessory) :
    brackets (trace ++ es) = brackets trace := by
  have hes : brackets es = [] := by
    refine List.filterMap_eq_nil_iff.mpr fun e he => ?_
    obtain ⟨accessory, rfl⟩ := h e he
    rfl
  rw [brackets_append, hes, List.append_nil]

/-! ## Runs in which HDI answers -/

def AccessoryEnv.answers (env : AccessoryEnv) : Prop :=
  env.getCurrentFunctions = .ok ∧ ∀ funcs, env.setCurrentFunctions funcs = .ok

def Op.answers : Op → Prop
  | .handleEvent env _ _ => env.answers
  | .fire env _ => env.answers
  | .setFunction _ => True

theorem Op.answers.processed {op : Op} (h : op.answers) {m : UsbAccessoryManager} {env : AccessoryEnv}
    {status : UsbdDeviceAction} (hop : op.processed m = some (env, status)) : env.answers := by
  unfold Op.processed at hop
  split at hop
  · cases hop
  · cases op with
    | handleEvent env' status' delayProcess =>
      dsimp only at hop
      split at hop
      · cases hop
      · obtain ⟨rfl, rfl⟩ := Prod.mk.inj (Option.some.inj hop)
        exact h
    | fire env' id =>
      dsimp only at hop
      split at hop
      · obtain ⟨rfl, rfl⟩ := Prod.mk.inj (Option.some.inj hop)
        exact h
      · cases hop
    | setFunction hdiFunction => cases hop

/-- What an event must not do that finds a session. -/
def Leaves (hdiFunction : UInt32) : UsbdDeviceAction → Prop
  | .accessorysend => False
  | .accessoryup => isAccessory hdiFunction = true
  | _ => True

/-- During a session no message is processed, and a repeated start finds the accessory function. -/
def Op.keepsSession (op : Op) (m : UsbAccessoryManager) : Prop :=
  ∀ env status, op.processed m = some (env, status) → m.accStatus = .start → Leaves m.hdiFunction status

/-! ## The invariant -/

/-- What a run of steps that keep the session carries: the broadcast, the status, the function and the timer agree. -/
structure InSession (m : UsbAccessoryManager) : Prop where
  timed : Timed m
  alternate : Alternates (brackets m.trace)
  opened : SessionOpen m ↔ m.accStatus = .start
  func : m.accStatus = .start → isAccessory m.curDeviceFunc = true
  last : isAccessory m.lastDeviceFunc = false
  idle : m.accStatus = .start → ¬ RevertPending m

theorem Initial.inSession {m : UsbAccessoryManager} (h : Initial m) : InSession m := by
  obtain ⟨htimed, hidle⟩ := h.timed
  obtain ⟨usbDeviceInterface, hdiFunction, rfl⟩ := h
  have hstatus : AccessoryMode.none ≠ .start := by decide
  have hlast : isAccessory 0 = false := by decide
  refine ⟨htimed, Host.alternates_nil, ?_, fun hs => absurd hs hstatus, hlast, fun _ => hidle⟩
  exact ⟨fun h => (by cases h), fun hs => absurd hs hstatus⟩

theorem InSession.keep {m m' : UsbAccessoryManager} (hm : InSession m) (htimed : Timed m')
    (htrace : brackets m'.trace = brackets m.trace) (hstatus : m'.accStatus = .start ↔ m.accStatus = .start)
    (hfunc : m.accStatus = .start → isAccessory m'.curDeviceFunc = true)
    (hlast : isAccessory m'.lastDeviceFunc = false) (hidle : m.accStatus = .start → ¬ RevertPending m') :
    InSession m' := by
  refine ⟨htimed, ?_, ?_, fun h => hfunc (hstatus.mp h), hlast, fun h => hidle (hstatus.mp h)⟩
  · rw [htrace]
    exact hm.alternate
  · unfold SessionOpen
    rw [htrace, hstatus]
    exact hm.opened

theorem InSession.outside {m m' : UsbAccessoryManager} (hm : InSession m) (htimed : Timed m')
    (htrace : brackets m'.trace = brackets m.trace) (hold : m.accStatus ≠ .start) (hnew : m'.accStatus ≠ .start)
    (hlast : isAccessory m'.lastDeviceFunc = false) : InSession m' := by
  refine hm.keep htimed htrace ?_ (fun h => absurd h hold) hlast fun h => absurd h hold
  exact ⟨fun h => absurd h hnew, fun h => absurd h hold⟩

theorem InSession.asks {env : AccessoryEnv} {cur : AccessoryMode} {m m' : UsbAccessoryManager} (hm : InSession m)
    (h : Asks env cur m m') (henv : env.answers) (hcur : cur = .configuring ∨ m.accStatus ≠ .start)
    (hkeep : m.accStatus = .start → isAccessory m.hdiFunction = true) : InSession m' := by
  have htimed := (asks_guarded_iff env cur hm.timed h).1
  cases h with
  | silent hget => exact absurd henv.1 hget
  | start hget hfunc hstatus =>
    have hclosed : ¬ SessionOpen m := mt hm.opened.mp hstatus
    have htrace : brackets (started env m.stopTimer.readFunction).trace = brackets m.trace ++ [.attached] :=
      brackets_append _ _
    refine ⟨htimed, ?_, ?_, fun _ => hfunc, hm.last, fun _ => not_revertPending_of_stopTimer hm.timed rfl⟩
    · rw [htrace]
      apply hm.alternate.concat
      exact ⟨fun _ => hclosed, fun _ => rfl⟩
    · unfold SessionOpen
      rw [htrace, List.getLast?_concat]
      exact ⟨fun _ => rfl, fun _ => rfl⟩
  | again hget hfunc hstatus =>
    exact hm.keep htimed rfl Iff.rfl (fun _ => hfunc) hm.last fun _ => not_revertPending_of_stopTimer hm.timed rfl
  | configure hget hfunc hconf hset =>
    have hstatus : m.accStatus ≠ .start := by
      intro h
      rw [hkeep h] at hfunc
      cases hfunc
    exact hm.outside htimed rfl hstatus (fun h => (by cases h)) hfunc
  | refused hget hfunc hset =>
    have hstatus : m.accStatus ≠ .start := by
      rcases hcur with rfl | hne
      · exact absurd (henv.2 funAccessory) (hset rfl)
      · exact hne
    exact hm.outside htimed rfl hstatus hstatus hm.last

theorem InSession.stop {env : AccessoryEnv} {m : UsbAccessoryManager} (hm : InSession m)
    (hface : m.usbDeviceInterface = true) : InSession (processHandle env .stop m) := by
  rw [processHandle_stop env m hface]
  split
  · rename_i hstart
    have htrace : brackets (stopped env m).trace = brackets m.trace ++ [.detached] := brackets_append _ _
    have hstatus : (stopped env m).accStatus ≠ .start := by
      intro h
      cases h
    refine ⟨hm.timed.of_same (.refl _) rfl rfl rfl, ?_, ?_, fun h => absurd h hstatus, hm.last,
      fun h => absurd h hstatus⟩
    · rw [htrace]
      apply hm.alternate.concat
      exact ⟨fun h => (by cases h), fun h => absurd (hm.opened.mpr hstart.2) h⟩
    · unfold SessionOpen
      rw [htrace, List.getLast?_concat]
      exact ⟨fun h => (by cases h), fun h => absurd h hstatus⟩
  · exact hm

theorem InSession.quiet {m m' : UsbAccessoryManager} (hm : InSession m) (h : Quiet m m') : InSession m' := by
  have htimed := h.timed hm.timed
  cases h with
  | held status timers antiShake _ hreverts =>
    refine hm.keep htimed rfl Iff.rfl hm.func hm.last fun hstart => ?_
    exact mt (SameReverts.pending hreverts).mp (hm.idle hstart)
  | reverted env id interval htask =>
    have hstatus : m.accStatus ≠ .start := fun h => hm.idle h ⟨id, interval, htask⟩
    obtain ⟨hdiFunction, heq⟩ := revertTask_eq env { m with timers := m.timers.unregister id }
    rw [heq] at htimed ⊢
    exact hm.outside htimed rfl hstatus (fun h => (by cases h)) hm.last
  | changed hdiFunction => exact hm.keep htimed rfl Iff.rfl hm.func hm.last hm.idle

theorem InSession.noted {m m₁ : UsbAccessoryManager} (hm : InSession m) (h : Noted m m₁) : InSession m₁ := by
  obtain ⟨htimed, hreverts, status, timers, rfl⟩ := h
  refine hm.keep htimed rfl Iff.rfl hm.func hm.last fun hstart => ?_
  exact mt (SameReverts.pending hreverts).mp (hm.idle hstart)

theorem Op.step_inSession (op : Op) (m : UsbAccessoryManager) (hop : op.answers ∧ op.keepsSession m)
    (hm : InSession m) : InSession (op.step m) := by
  cases h : op.processed m with
  | none => exact hm.quiet (op.step_quiet m hm.timed h)
  | some p =>
    obtain ⟨env, status⟩ := p
    have henv := hop.1.processed h
    have hkeep := hop.2 env status h
    obtain ⟨hface, m₁, hnoted, hstep⟩ := op.step_processed m hm.timed env status h
    have hm₁ := hm.noted hnoted
    obtain ⟨-, -, status', timers, rfl⟩ := hnoted
    rw [hstep]
    cases status with
    | updevice =>
      by_cases hconf : m.accStatus = .configuring
      · have hstatus : m.accStatus ≠ .start := by
          rw [hconf]
          decide
        rw [curAccStatus, if_pos hconf]
        exact hm₁.asks (processHandle_asks env .start _ (.inr rfl) hface) henv (.inr hstatus) fun h => absurd h hstatus
      · rw [curAccStatus, if_neg hconf, processHandle_none]
        exact hm₁
    | accessoryup => exact hm₁.asks (processHandle_asks env .configuring _ (.inl rfl) hface) henv (.inl rfl) hkeep
    | downdevice => exact hm₁.stop hface
    | accessorydown => exact hm₁.stop hface
    | accessorysend =>
      have hstatus : m.accStatus ≠ .start := hkeep
      obtain ⟨accessory, es, heq, hes⟩ := processHandle_send env { m with eventStatus := status', timers := timers }
      rw [curAccStatus, heq]
      refine hm₁.outside ?_ (brackets_sent _ _ hes) hstatus (fun h => (by cases h)) hm.last
      exact hm₁.timed.of_same (.refl _) rfl rfl rfl
    | other status =>
      rw [curAccStatus, processHandle_none]
      exact hm₁

/-! ## The saved function -/

/-- The function to go back to is never the accessory function. -/
structure Saved (m : UsbAccessoryManager) : Prop where
  timed : Timed m
  last : isAccessory m.lastDeviceFunc = false

theorem Saved.asks {env : AccessoryEnv} {cur : AccessoryMode} {m m' : UsbAccessoryManager} (hm : Saved m)
    (h : Asks env cur m m') : Saved m' := by
  refine ⟨(asks_guarded_iff env cur hm.timed h).1, ?_⟩
  cases h with
  | silent => exact hm.last
  | start => exact hm.last
  | again => exact hm.last
  | configure hget hfunc => exact hfunc
  | refused => exact hm.last

theorem Saved.stop {env : AccessoryEnv} {m : UsbAccessoryManager} (hm : Saved m) (hface : m.usbDeviceInterface = true) :
    Saved (processHandle env .stop m) := by
  rw [processHandle_stop env m hface]
  split
  · exact ⟨hm.timed.of_same (.refl _) rfl rfl rfl, hm.last⟩
  · exact hm

theorem Saved.quiet {m m' : UsbAccessoryManager} (hm : Saved m) (h : Quiet m m') : Saved m' := by
  refine ⟨h.timed hm.timed, ?_⟩
  cases h with
  | held => exact hm.last
  | reverted env id interval htask =>
    obtain ⟨hdiFunction, heq⟩ := revertTask_eq env { m with timers := m.timers.unregister id }
    rw [heq]
    exact hm.last
  | changed => exact hm.last

theorem Op.step_saved (op : Op) (m : UsbAccessoryManager) (hm : Saved m) : Saved (op.step m) := by
  cases h : op.processed m with
  | none => exact hm.quiet (op.step_quiet m hm.timed h)
  | some p =>
    obtain ⟨env, status⟩ := p
    obtain ⟨hface, m₁, ⟨htimed, -, status', timers, rfl⟩, hstep⟩ := op.step_processed m hm.timed env status h
    have hm₁ : Saved { m with eventStatus := status', timers := timers } := ⟨htimed, hm.last⟩
    rw [hstep]
    generalize curAccStatus status m = cur
    cases cur with
    | configuring => exact hm₁.asks (processHandle_asks env .configuring _ (.inl rfl) hface)
    | start => exact hm₁.asks (processHandle_asks env .start _ (.inr rfl) hface)
    | stop => exact hm₁.stop hface
    | send =>
      obtain ⟨accessory, es, heq, -⟩ := processHandle_send env { m with eventStatus := status', timers := timers }
      rw [heq]
      exact ⟨htimed.of_same (.refl _) rfl rfl rfl, hm.last⟩
    | none =>
      rw [processHandle_none]
      exact hm₁

/-! ## Sessions -/

/-- The step acts on a down of the line or of the accessory. -/
def Op.stops (op : Op) (m : UsbAccessoryManager) : Prop :=
  ∃ env status, op.processed m = some (env, status) ∧ (status = .downdevice ∨ status = .accessorydown)

/-- What a down of the line or of the accessory has to do. -/
def StopCloses (op : Op) (m : UsbAccessoryManager) : Prop :=
  (op.step m).hdiFunction = m.lastDeviceFunc ∧ (op.step m).lastDeviceFunc = m.lastDeviceFunc ∧
    brackets (op.step m).trace = brackets m.trace ++ [.detached]

/-- Starts and stops alternate, no accessory function is saved, and every stop closes the session that is open. -/
structure Bracketed (m : UsbAccessoryManager) : Prop where
  alternate : Alternates (brackets m.trace)
  last : isAccessory m.lastDeviceFunc = false
  stop : ∀ op : Op, op.answers → op.stops m → SessionOpen m → StopCloses op m

theorem Op.stops_step (op : Op) {m : UsbAccessoryManager} (hm : Timed m) (hop : op.answers) (h : op.stops m) :
    ∃ env m₁, env.answers ∧ Noted m m₁ ∧ op.step m =
      if isAccessory m.curDeviceFunc = true ∧ m.accStatus = .start then stopped env m₁ else m₁ := by
  obtain ⟨env, status, hprocessed, hdown⟩ := h
  obtain ⟨hface, m₁, hnoted, hstep⟩ := op.step_processed m hm env status hprocessed
  have hstop : curAccStatus status m = .stop := by rcases hdown with rfl | rfl <;> rfl
  refine ⟨env, m₁, hop.processed hprocessed, hnoted, ?_⟩
  obtain ⟨-, -, status', timers, rfl⟩ := hnoted
  rw [hstep, hstop]
  exact processHandle_stop env _ hface

theorem InSession.bracketed {m : UsbAccessoryManager} (hm : InSession m) : Bracketed m := by
  refine ⟨hm.alternate, hm.last, fun op hop hstop hopen => ?_⟩
  obtain ⟨env, m₁, henv, ⟨-, -, status, timers, rfl⟩, hstep⟩ := op.stops_step hm.timed hop hstop
  have hstart := hm.opened.mp hopen
  rw [if_pos ⟨hm.func hstart, hstart⟩] at hstep
  unfold StopCloses
  rw [hstep]
  exact ⟨if_pos (henv.2 _), rfl, brackets_append _ _⟩

theorem not_bracketed_of_lost {m : UsbAccessoryManager} (hm : Timed m) (hopen : SessionOpen m)
    (hface : m.usbDeviceInterface = true) (hstatus : m.accStatus ≠ .start) {env : AccessoryEnv} (henv : env.answers) :
    ¬ Bracketed m := by
  intro h
  have hstop : (Op.handleEvent env .accessorydown false).stops m := by
    refine ⟨env, .accessorydown, ?_, .inr rfl⟩
    simp [Op.processed, hface]
  obtain ⟨env', m₁, -, ⟨-, -, status, timers, rfl⟩, hstep⟩ :=
    Op.stops_step (.handleEvent env .accessorydown false) hm henv hstop
  rw [if_neg fun h => hstatus h.2] at hstep
  have htrace := (h.stop (.handleEvent env .accessorydown false) henv hstop hopen).2.2
  rw [hstep] at htrace
  simp at htrace

theorem Op.lost_of_not_keepsSession (op : Op) (m : UsbAccessoryManager) (hm : InSession m) (hop : op.answers)
    (hlost : ¬ op.keepsSession m) : ¬ Bracketed (op.step m) := by
  unfold Op.keepsSession at hlost
  simp only [not_forall] at hlost
  obtain ⟨env, status, hprocessed, hstart, hleaves⟩ := hlost
  have henv := hop.processed hprocessed
  obtain ⟨hface, m₁, hnoted, hstep⟩ := op.step_processed m hm.timed env status hprocessed
  have htimed := hnoted.timed
  obtain ⟨-, -, status', timers, rfl⟩ := hnoted
  have hopen : SessionOpen m := hm.opened.mpr hstart
  rw [hstep]
  cases status with
  | accessorysend =>
    obtain ⟨accessory, es, heq, hes⟩ := processHandle_send env { m with eventStatus := status', timers := timers }
    rw [curAccStatus, heq]
    refine not_bracketed_of_lost (htimed.of_same (.refl _) rfl rfl rfl) ?_ hface (fun h => (by cases h)) henv
    unfold SessionOpen
    rw [brackets_sent _ _ hes]
    exact hopen
  | accessoryup =>
    have hasks := processHandle_asks env .configuring { m with eventStatus := status', timers := timers } (.inl rfl) hface
    have htimed' := (asks_guarded_iff env .configuring htimed hasks).1
    rw [curAccStatus]
    -- HDI answers and the function is not set, so it is set again.
    generalize processHandle env .configuring { m with eventStatus := status', timers := timers } = m' at hasks htimed' ⊢
    cases hasks with
    | silent hget => exact absurd henv.1 hget
    | start hget hfunc => exact absurd hfunc hleaves
    | again hget hfunc => exact absurd hfunc hleaves
    | configure => exact not_bracketed_of_lost htimed' hopen hface (fun h => (by cases h)) henv
    | refused hget hfunc hset => exact absurd (henv.2 funAccessory) (hset rfl)
  | updevice => exact absurd trivial hleaves
  | downdevice => exact absurd trivial hleaves
  | accessorydown => exact absurd trivial hleaves
  | other status => exact absurd trivial hleaves

/-- The saved function is no accessory in any run. In every run of steps that keep the session the brackets match,
and a step that does not keep it leaves a start that the next stop does not close. -/
theorem sessions_bracketed (m : UsbAccessoryManager) :
    (Reachable (fun _ _ => True) m → isAccessory m.lastDeviceFunc = false) ∧
    (Reachable (fun op m => op.answers ∧ op.keepsSession m) m →
      Bracketed m ∧ ∀ op : Op, op.answers → ¬ op.keepsSession m → ¬ Bracketed (op.step m)) := by
  constructor
  · intro hm
    have hsaved : Saved m := by
      refine hm.invariant (fun m hinit => ?_) fun op m _ hm => op.step_saved m hm
      exact ⟨hinit.inSession.timed, hinit.inSession.last⟩
    exact hsaved.last
  · intro hm
    have hrun : InSession m := hm.invariant (fun _ => Initial.inSession) Op.step_inSession
    exact ⟨hrun.bracketed, fun op hop => op.lost_of_not_keepsSession m hrun hop⟩

theorem answering_answers : answering.answers := ⟨rfl, fun _ => rfl⟩

/-- The host asked for an accessory, and the line came up again. -/
def running : UsbAccessoryManager := (Op.handleEvent answering .updevice false).step asked

theorem running_reachable : Reachable (fun op m => op.answers ∧ op.keepsSession m) running := by
  refine .step _ (.step _ (.init ⟨true, 0, rfl⟩) ⟨answering_answers, ?_⟩) ⟨answering_answers, ?_⟩
  · intro env status _ hstart
    cases hstart
  · intro env status _ hstart
    cases hstart

theorem sessions_bracketed_running :
    brackets running.trace = [.attached] ∧ StopCloses (.handleEvent answering .accessorydown false) running := by
  refine ⟨by decide +kernel, ?_⟩
  apply ((sessions_bracketed running).2 running_reachable).1.stop
  · exact answering_answers
  · exact ⟨answering, .accessorydown, rfl, .inr rfl⟩
  · unfold SessionOpen
    decide +kernel

/-- A message inside the session: the accessory goes, its function stays and nothing is broadcast. -/
theorem session_left_open_after_send :
    let m := (Op.handleEvent answering .accessorysend true).step running
    let m' := (Op.handleEvent answering .accessorydown true).step m
    Reachable (fun op _ => op.answers) m ∧ brackets m'.trace = [.attached] ∧ m'.hdiFunction = funAccessory ∧
      m'.lastDeviceFunc = 0 ∧ ¬ Bracketed m := by
  intro m m'
  have htrace : brackets m'.trace = [.attached] := by decide +kernel
  refine ⟨?_, htrace, by decide +kernel, by decide +kernel, fun h => ?_⟩
  · have hrun : Reachable (fun op _ => op.answers) running :=
      .step _ (.step _ (.init ⟨true, 0, rfl⟩) answering_answers) answering_answers
    exact .step _ hrun answering_answers
  · have hbefore : brackets m.trace = [.attached] := by decide +kernel
    have hopen : SessionOpen m := by
      unfold SessionOpen
      rw [hbefore]
      rfl
    have hclosed := h.stop (.handleEvent answering .accessorydown true) answering_answers
      ⟨answering, .accessorydown, rfl, .inr rfl⟩ hopen
    have hdetached : brackets m'.trace = brackets m.trace ++ [.detached] := hclosed.2.2
    rw [htrace, hbefore] at hdetached
    cases hdetached

end UsbManager.Accessory
