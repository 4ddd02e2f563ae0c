import UsbManager.Dialog.Sessions
import UsbManager.Service.Mediation

/-!
# Consent

An application that had no right when it asked, and is told that it has one, was given it while its request was waiting,
under its own key, by a system application with the permission, and nobody has taken it back. This holds whatever the
ability manager does, also when the dialog of another request wakes the thread: the answer is never that of the
semaphore.
-/

namespace UsbManager.Dialog

open Rights Service History

variable {τ ρ : Type}

/-! ## How the table evolves -/

/-- The store answers the first check, and the clock does not go back. -/
def ClockContract : Step τ ρ → World τ ρ → Prop
  | .request _ env _, w => env.Answers ∧ w.clock ≤ env.now
  | .hasRight _ env, w => w.clock ≤ env.now
  | .service (.grant env _ _), w => w.clock ≤ env.now
  | _, _ => True

/-- New rows come from new grants, which are not after the clock. -/
structure Evolves (w w' : World τ ρ) : Prop where
  grows : ∃ new, w'.service.log = new ++ w.service.log ∧
    Logged Entry.Grants Entry.Revokes new w.rights.rows w'.rights.rows ∧
    ∀ grantor time row, .granted grantor time row ∈ new → time ≤ w'.clock
  clock : w.clock ≤ w'.clock

theorem Evolves.quiet {w w' : World τ ρ} (hlog : w'.service.log = w.service.log)
    (hrows : ∀ r ∈ w'.rights.rows, r ∈ w.rights.rows) (hclock : w.clock ≤ w'.clock) : Evolves w w' :=
  ⟨⟨[], hlog, .silent hrows, fun _ _ _ h => absurd h List.not_mem_nil⟩, hclock⟩

theorem Evolves.refl (w : World τ ρ) : Evolves w w := .quiet rfl (fun _ h => h) (UInt64.le_refl _)

theorem serviceStep_evolves [DecidableEq ρ] (w : World τ ρ) (a : Action ρ) (hclock : w.clock ≤ clockAfter w.clock a) :
    Evolves w (serviceStep a w) := by
  refine ⟨⟨a.entries w.service.clients, rfl, a.run_logged w.service.clients, fun grantor time row he => ?_⟩, hclock⟩
  cases a.enters w.service.clients he with
  | granted env grantor g row => exact UInt64.le_refl env.now

/-! ## The steps of the dialog -/

/-- The request that a thread is busy with. -/
def Pc.pending? : Pc → Option Pending
  | .outside => none
  | .refused p => some p
  | .holding p _ => some p

/-- The other steps leave the service, the clock and the answers alone, and no request is new. -/
structure Unseen (w w' : World τ ρ) : Prop where
  service : w'.service = w.service
  clock : w'.clock = w.clock
  pending : ∀ t p, (w'.thread t).pending? = some p → (w.thread t).pending? = some p
  answered : ∀ t p agreed after, .answered t p agreed after ∈ w'.trace → .answered t p agreed after ∈ w.trace

theorem Unseen.of_eq {w w' : World τ ρ} (hservice : w'.service = w.service) (hclock : w'.clock = w.clock)
    (hthread : w'.thread = w.thread) (htrace : w'.trace = w.trace) : Unseen w w' :=
  ⟨hservice, hclock, fun _ _ h => hthread ▸ h, fun _ _ _ _ h => htrace ▸ h⟩

theorem Unseen.refl (w : World τ ρ) : Unseen w w := .of_eq rfl rfl rfl rfl

theorem Unseen.evolves {w w' : World τ ρ} (h : Unseen w w') : Evolves w w' := by
  refine .quiet (by rw [h.service]) (fun r hr => ?_) (by rw [h.clock]; exact UInt64.le_refl _)
  rwa [World.rights, h.service] at hr

theorem Unseen.log {w w' : World τ ρ} (h : Unseen w w') {e : Event τ}
    (he : ∀ t p agreed after, Event.answered t p agreed after ≠ e) : Unseen w (w'.log e) := by
  refine ⟨h.service, h.clock, h.pending, fun t p agreed after hmem => ?_⟩
  exact h.answered t p agreed after ((List.mem_cons.mp hmem).resolve_left (he t p agreed after))

section

variable [DecidableEq τ] {w w' : World τ ρ} {t : τ}

theorem Unseen.goto {pc : Pc} (hpc : ∀ p, pc.pending? = some p → (w.thread t).pending? = some p) (h : Unseen w w')
    (hthread : w'.thread = w.thread) : Unseen w (w'.goto t pc) := by
  refine ⟨h.service, h.clock, fun t' p hp => ?_, h.answered⟩
  by_cases ht : t' = t
  · rw [ht, World.goto_self] at hp
    rw [ht]
    exact hpc p hp
  · rw [World.goto_of_ne w' ht, hthread] at hp
    exact hp

theorem Unseen.stay {p : Pending} {stage stage' : Stage} (hpc : w.thread t = .holding p stage) (h : Unseen w w')
    (hthread : w'.thread = w.thread) : Unseen w (w'.goto t (.holding p stage')) := by
  refine Unseen.goto (fun p' hp' => ?_) h hthread
  rw [hpc]
  exact hp'

theorem lock_unseen : Unseen w (lock t w) := by
  unfold lock
  split
  · rename_i p hpc hrunning
    apply Unseen.goto
    · intro p' hp'
      rw [hpc]
      exact hp'
    · exact .of_eq rfl rfl rfl rfl
    · rfl
  · exact .refl w

theorem fillParams_unseen (labels : Labels) : Unseen w (fillParams t labels w) := by
  unfold fillParams
  split
  · rename_i p hpc
    split
    · exact Unseen.stay hpc (.refl w) rfl
    · apply Unseen.stay hpc
      · exact .of_eq rfl rfl rfl rfl
      · rfl
  · exact .refl w

theorem semInit_unseen : Unseen w (semInit t w) := by
  unfold semInit
  split
  · rename_i p hpc
    apply Unseen.stay hpc
    · exact .of_eq rfl rfl rfl rfl
    · rfl
  · exact .refl w

theorem newConn_unseen : Unseen w (newConn t w) := by
  unfold newConn
  split
  · rename_i p hpc
    split
    · exact Unseen.stay hpc (.refl w) rfl
    · apply Unseen.stay hpc
      · exact .of_eq rfl rfl rfl rfl
      · rfl
  · exact .refl w

theorem connectAbility_unseen (answer : Connected) : Unseen w (connectAbility t answer w) := by
  unfold connectAbility
  split
  · rename_i p hpc
    split
    · exact Unseen.stay hpc (.refl w) rfl
    · apply Unseen.stay hpc
      · exact .of_eq rfl rfl rfl rfl
      · rfl
    · apply Unseen.stay hpc
      · apply Unseen.log
        · exact .of_eq rfl rfl rfl rfl
        · exact fun _ _ _ _ h => by cases h
      · rfl
  · exact .refl w

theorem semWait_unseen : Unseen w (semWait t w) := by
  unfold semWait
  split
  · rename_i p n hpc hsem
    apply Unseen.stay hpc
    · apply Unseen.log
      · exact .of_eq rfl rfl rfl rfl
      · exact fun _ _ _ _ h => by cases h
    · rfl
  · exact .refl w

theorem unlock_unseen : Unseen w (unlock t w) := by
  unfold unlock
  split
  · apply Unseen.goto
    · intro p' hp'
      cases hp'
    · exact .of_eq rfl rfl rfl rfl
    · rfl
  · exact .refl w

end

theorem onAbilityConnectDone_unseen {w : World τ ρ} (conn : Nat) (remoteObject sent : Bool) :
    Unseen w (onAbilityConnectDone conn remoteObject sent w) := by
  unfold onAbilityConnectDone
  split
  · exact .refl w
  · have hlog : Unseen w (w.log (.shown (dialogMessage w.usbDialogParams))) :=
      (Unseen.refl w).log fun _ _ _ _ h => by cases h
    dsimp only
    split
    · exact ⟨hlog.service, hlog.clock, hlog.pending, hlog.answered⟩
    · exact hlog

theorem unShowUsbDialog_unseen {w : World τ ρ} (client : Bool) : Unseen w (unShowUsbDialog client w) := by
  unfold unShowUsbDialog
  split
  · exact .refl w
  split
  · exact .refl w
  dsimp only
  split
  · exact ((Unseen.refl w).log fun _ _ _ _ h => by cases h).log fun _ _ _ _ h => by cases h
  · exact (Unseen.refl w).log fun _ _ _ _ h => by cases h

/-! ## What a waiting request knows -/

/-- A row of the key that would have been seen at the first check was granted since. -/
structure Since (w : World τ ρ) (p : Pending) : Prop where
  user : p.request.userId ≠ usbRightUseridConsole
  clock : p.since ≤ w.clock
  earlier : ∀ grantor time row, .granted grantor time row ∈ p.before → time ≤ p.since
  granted : ∃ new, w.service.log = new ++ p.before ∧
    ∀ r ∈ w.rights.rows, live p.since p.request.key r = true → Stands Entry.Grants Entry.Revokes new r

/-- The right was granted while the request was waiting, and not revoked. -/
def Consented (p : Pending) (after : List Entry) : Prop :=
  ∃ newer grantor time row older, after = newer ++ .granted grantor time row :: (older ++ p.before) ∧
    checkSysApiPermission grantor.permissions = .ok ∧ row.hasKey p.request.key = true ∧ ∀ e ∈ newer, ¬ e.Revokes row

/-- What a run keeps about the rows, the clock, the requests and the answers. -/
structure Invariant (w : World τ ρ) : Prop where
  table : ∀ r ∈ w.rights.rows, Stands Entry.Grants Entry.Revokes w.service.log r
  past : ∀ grantor time row, .granted grantor time row ∈ w.service.log → time ≤ w.clock
  since : ∀ t p, (w.thread t).pending? = some p → Since w p
  consented : ∀ t p after, .answered t p true after ∈ w.trace → Consented p after

section

variable {w w' : World τ ρ} (h : Evolves w w')
include h

theorem Evolves.table (htable : ∀ r ∈ w.rights.rows, Stands Entry.Grants Entry.Revokes w.service.log r) :
    ∀ r ∈ w'.rights.rows, Stands Entry.Grants Entry.Revokes w'.service.log r := by
  obtain ⟨new, hlog, hlogged, -⟩ := h.grows
  intro r hr
  rw [hlog]
  exact hlogged.append hr (htable r)

theorem Evolves.past (hpast : ∀ grantor time row, .granted grantor time row ∈ w.service.log → time ≤ w.clock) :
    ∀ grantor time row, .granted grantor time row ∈ w'.service.log → time ≤ w'.clock := by
  obtain ⟨new, hlog, -, hnew⟩ := h.grows
  intro grantor time row hmem
  rw [hlog] at hmem
  rcases List.mem_append.mp hmem with hmem | hmem
  · exact hnew grantor time row hmem
  · exact UInt64.le_trans (hpast grantor time row hmem) h.clock

theorem Evolves.since {p : Pending} (hsince : Since w p) : Since w' p := by
  obtain ⟨new, hlog, hlogged, -⟩ := h.grows
  obtain ⟨new', hlog', hgranted⟩ := hsince.granted
  refine ⟨hsince.user, UInt64.le_trans hsince.clock h.clock, hsince.earlier, new ++ new', ?_, fun r hr hlive => ?_⟩
  · rw [hlog, hlog', List.append_assoc]
  · exact hlogged.append hr fun hold => hgranted r hold hlive

end

/-! ## The second check -/

theorem live_of_granted {time now : UInt64} {key : RightKey} {r : RightRow} (hrequest : r.requestTime = putLong time)
    (hperiod : r.validPeriod = putLong usbRightValidPeriodSet) (hkey : r.hasKey key = true) (hpast : time ≤ now)
    (hyoung : now.toNat - time.toNat < usbRightValidPeriodSet.toNat) : live now key r = true := by
  have hmin : usbRightValidPeriodSet ≠ UInt64.ofInt usbRightValidPeriodMin := by decide
  have hmax : usbRightValidPeriodSet ≠ UInt64.ofInt usbRightValidPeriodMax := by decide
  have hage : now - time < usbRightValidPeriodSet := by
    rw [UInt64.lt_iff_toNat_lt, UInt64.toNat_sub_of_le now time hpast]
    exact hyoung
  unfold live isRowExpired
  simp only [hrequest, hperiod, ofInt_putLong, hkey]
  rw [if_neg (UInt64.not_lt.mpr hpast), if_neg hmin, if_neg hmax, if_pos hage]
  rfl

theorem consented_of_stands {p : Pending} {new : List Entry} {r : RightRow}
    (h : Stands Entry.Grants Entry.Revokes new r) (hkey : r.hasKey p.request.key = true) :
    Consented p (new ++ p.before) := by
  obtain ⟨newer, e, older, rfl, hgrants, hkept⟩ := h
  cases e with
  | granted grantor time row =>
    obtain ⟨rfl, hpermission, -⟩ := hgrants
    exact ⟨newer, grantor, time, r, older, by simp, hpermission, hkey, hkept⟩
  | _ => exact absurd hgrants id

theorem consented_of_hasRight {w : World τ ρ} {p : Pending} (hsince : Since w p)
    (htable : ∀ r ∈ w.rights.rows, Stands Entry.Grants Entry.Revokes w.service.log r) {env : RightEnv}
    (hclock : w.clock ≤ env.now) (h : (Rights.hasRight env p.request.key w.rights).1 = true) :
    Consented p w.service.log := by
  obtain ⟨new, hlog, hgranted⟩ := hsince.granted
  obtain ⟨r, hr, hlive⟩ := (hasRight_sound env p.request.key hsince.user w.rights).2 h
  have hkey : r.hasKey p.request.key = true := by
    rw [live, Bool.and_eq_true] at hlive
    exact hlive.1
  have hstands := htable r hr
  rw [hlog] at hstands ⊢
  rcases hstands.cases_append with hnew | ⟨e, he, hgrants⟩
  · exact consented_of_stands hnew hkey
  · -- The row is older than the request, so the first check saw it, unless it was written again.
    cases e with
    | granted grantor time row =>
      obtain ⟨rfl, -, hrequest, hperiod⟩ := hgrants
      obtain ⟨-, -, hyoung⟩ := live_granted hrequest hperiod hlive
      have hpast := hsince.earlier grantor time r he
      have hle := UInt64.le_iff_toNat_le.mp (UInt64.le_trans hsince.clock hclock)
      have hthen := live_of_granted hrequest hperiod hkey hpast (by omega)
      exact consented_of_stands (hgranted r hr hthen) hkey
    | _ => exact absurd hgrants id

/-! ## Every run -/

theorem Invariant.unseen {w w' : World τ ρ} (h : Invariant w) (hunseen : Unseen w w') : Invariant w' where
  table := hunseen.evolves.table h.table
  past := hunseen.evolves.past h.past
  since t p hp := hunseen.evolves.since (h.since t p (hunseen.pending t p hp))
  consented t p after he := h.consented t p after (hunseen.answered t p true after he)

section

variable [DecidableEq τ] {w : World τ ρ} (h : Invariant w)
include h

theorem request_invariant (t : τ) (env : RightEnv) (r : Request) (hanswers : env.Answers) (hclock : w.clock ≤ env.now) :
    Invariant (request t env r w) := by
  have hsub := (hasRight_deletes env r.key w.rights).sub
  unfold request
  split
  swap
  · exact h
  split
  all_goals
    rename_i db hhas
    rw [hhas] at hsub
  · have hevolves : Evolves w { w.setRights db with clock := env.now } := .quiet rfl hsub hclock
    exact ⟨hevolves.table h.table, hevolves.past h.past, fun t p hp => hevolves.since (h.since t p hp), h.consented⟩
  · have hevolves : Evolves w ({ w.setRights db with clock := env.now }.goto t (.refused ⟨r, w.service.log, env.now⟩)) :=
      .quiet rfl hsub hclock
    refine ⟨hevolves.table h.table, hevolves.past h.past, fun t' p hp => ?_, h.consented⟩
    by_cases ht : t' = t
    · rw [ht, World.goto_self] at hp
      obtain rfl := Option.some.inj hp
      have huser : r.key.uid ≠ usbRightUseridConsole := fun huser => by simp [Rights.hasRight, huser] at hhas
      obtain ⟨hrows, hanswer⟩ := hasRight_answers hanswers r.key huser w.rights
      rw [hhas] at hrows hanswer
      refine ⟨huser, UInt64.le_refl _, fun grantor time row he => ?_, [], rfl, fun row hrow hlive => ?_⟩
      · exact UInt64.le_trans (h.past grantor time row he) hclock
      · have hrow' : row ∈ db.rows := hrow
        rw [hrows] at hrow'
        cases hanswer.mpr ⟨row, hrow', hlive⟩
    · rw [World.goto_of_ne _ ht] at hp
      exact hevolves.since (h.since t' p hp)

theorem checkAgain_invariant (t : τ) (env : RightEnv) (hclock : w.clock ≤ env.now) : Invariant (checkAgain t env w) := by
  unfold checkAgain
  split
  swap
  · exact h
  rename_i p hpc
  have hsince : Since w p := h.since t p (by rw [hpc]; rfl)
  have hevolves : Evolves w (({ w.setRights (Rights.hasRight env p.request.key w.rights).2 with clock := env.now }.log
      (.answered t p (Rights.hasRight env p.request.key w.rights).1 w.service.log)).goto t
      (.holding p (.leaving (Rights.hasRight env p.request.key w.rights).1))) :=
    .quiet rfl (hasRight_deletes env p.request.key w.rights).sub hclock
  refine ⟨hevolves.table h.table, hevolves.past h.past, fun t' p' hp' => ?_, fun t' p' after he => ?_⟩
  · by_cases ht : t' = t
    · rw [ht, World.goto_self] at hp'
      obtain rfl := Option.some.inj hp'
      exact hevolves.since hsince
    · rw [World.goto_of_ne _ ht] at hp'
      exact hevolves.since (h.since t' p' hp')
  · rcases List.mem_cons.mp he with heq | he
    · simp only [Event.answered.injEq] at heq
      obtain ⟨-, rfl, hagreed, rfl⟩ := heq
      exact consented_of_hasRight hsince h.table hclock hagreed.symm
    · exact h.consented t' p' after he

end

/-- The service may have run before, in this process or in an earlier one, and the clock is not behind its grants. -/
structure World.Started [DecidableEq ρ] (w : World τ ρ) : Prop where
  atRest : w.AtRest
  service : Run.Reachable Mediation.started Action.step (fun _ _ => True) w.service
  past : ∀ grantor time row, .granted grantor time row ∈ w.service.log → time ≤ w.clock

theorem World.Started.invariant [DecidableEq ρ] {w : World τ ρ} (h : w.Started) : Invariant w := by
  refine ⟨(mediation_sound h.service).table, h.past, fun t p hp => ?_, fun t p after he => ?_⟩
  · rw [h.atRest.thread] at hp
    cases hp
  · rw [h.atRest.trace] at he
    exact absurd he List.not_mem_nil

variable [DecidableEq τ] [DecidableEq ρ]

theorem Step.run_invariant (step : Step τ ρ) {w : World τ ρ} (hcontract : ClockContract step w) (h : Invariant w) :
    Invariant (step.run w) := by
  cases step with
  | request t env r => exact request_invariant h t env r hcontract.1 hcontract.2
  | hasRight t env => exact checkAgain_invariant h t env hcontract
  | service a =>
    have hclock : w.clock ≤ clockAfter w.clock a := by
      cases a with
      | grant env grantor g => exact hcontract
      | _ => exact UInt64.le_refl _
    have hevolves := serviceStep_evolves w a hclock
    exact ⟨hevolves.table h.table, hevolves.past h.past, fun t p hp => hevolves.since (h.since t p hp), h.consented⟩
  | lock t => exact h.unseen lock_unseen
  | fill t labels => exact h.unseen (fillParams_unseen labels)
  | semInit t => exact h.unseen semInit_unseen
  | newConn t => exact h.unseen newConn_unseen
  | connectAbility t answer => exact h.unseen (connectAbility_unseen answer)
  | semWait t => exact h.unseen semWait_unseen
  | unlock t => exact h.unseen unlock_unseen
  | onAbilityConnectDone conn remoteObject sent => exact h.unseen (onAbilityConnectDone_unseen conn remoteObject sent)
  | onAbilityDisconnectDone conn =>
    apply h.unseen
    apply Unseen.log
    · exact .of_eq rfl rfl rfl rfl
    · exact fun _ _ _ _ h => by cases h
  | dropRemote conn => exact h.unseen (.of_eq rfl rfl rfl rfl)
  | unShowUsbDialog client => exact h.unseen (unShowUsbDialog_unseen client)

/-- In every interleaving of requests, dialogs and the whole service: a request that had no right and is answered with
one has been given it meanwhile. -/
theorem agreed_means_granted (w : World τ ρ) (h : Run.Reachable World.Started Step.run ClockContract w) (t : τ)
    (p : Pending) (after : List Entry) (hanswer : .answered t p true after ∈ w.trace) : Consented p after := by
  have hinvariant : Invariant w :=
    h.invariant (fun _ hw => hw.invariant) fun step _ hcontract hw => step.run_invariant hcontract hw
  exact hinvariant.consented t p after hanswer

/-! ## A user agrees -/

def unused : World Bool Nat := { quiet with service := ⟨⟨justStarted, .empty, [], 0, []⟩, []⟩ }

def holderRequest : Request := ⟨.device "1-2", "7-1- ", "com.example.reader", "537", 100⟩

/-- The dialog grants the right before it goes away. -/
def agreeingRun : List (Step Bool Nat) :=
  [.service (.addDevice (plugged 7) ⟨1, 2⟩), .request true oneReader.toRightEnv holderRequest, .lock true,
    .fill true ⟨⟨fun _ => "", fun _ => none⟩, fun _ => none, fun _ => none⟩, .semInit true, .newConn true,
    .connectAbility true .systemui, .onAbilityConnectDone 0 true true,
    .service (.grant oneReader systemUi (.addAccessRight "537" "1-2")), .onAbilityDisconnectDone 0, .semWait true,
    .hasRight true oneReader.toRightEnv]

def agreed : World Bool Nat := agreeingRun.foldl (fun w step => step.run w) unused

theorem unused_started : unused.Started where
  atRest := ⟨fun _ => rfl, rfl, rfl, rfl⟩
  service := .init ⟨rfl, fun _ => rfl, rfl, rfl⟩
  past _ _ _ h := absurd h List.not_mem_nil

theorem agreed_reachable : Run.Reachable World.Started Step.run ClockContract agreed := by
  refine Simulation.reachable_foldl (.init unused_started) ?_
  refine And.intro trivial (And.intro ⟨⟨rfl, fun _ _ _ => rfl⟩, by decide⟩ ?_)
  iterate 6 refine And.intro trivial ?_
  refine And.intro (show _ ≤ _ by decide +kernel) (And.intro trivial (And.intro trivial (And.intro ?_ trivial)))
  show _ ≤ _
  decide +kernel

/-- The request of an answer that the right is there. -/
def Event.agreement? : Event τ → Option Pending
  | .answered _ p true _ => some p
  | _ => none

theorem agreed_means_granted_holder :
    ∃ t p after, .answered t p true after ∈ agreed.trace ∧ Consented p after := by
  have hfound : (agreed.trace.findSome? Event.agreement?).isSome = true := by decide +kernel
  obtain ⟨p, hp⟩ := Option.isSome_iff_exists.mp hfound
  obtain ⟨e, he, hagreement⟩ := List.exists_of_findSome?_eq_some hp
  unfold Event.agreement? at hagreement
  split at hagreement
  · rename_i t p' after
    exact ⟨t, p', after, he, agreed_means_granted agreed agreed_reachable t p' after he⟩
  · cases hagreement

end UsbManager.Dialog
