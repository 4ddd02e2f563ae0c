import UsbManager.Dialog.Protocol
import UsbManager.Lib.Simulation
import UsbManager.Service.Request

/-!
# One dialog at a time

What the requests are for, as a specification of its own: a dialog is opened for one request, it is told what that
request is about, it goes away, and only then the request goes on and is answered. The mutex, the semaphore and the
shared parameters meet it in every interleaving, if the ability manager calls back only for connections that it has
accepted and reports each of them as gone at most once.
-/

namespace UsbManager.Dialog

open Rights Service Simulation

variable {τ ρ : Type}

/-! ## The specification -/

/-- Where the dialogs are, seen from outside: nobody is asked, or one request is. -/
inductive Prompt (τ : Type)
  | idle
  | asking (t : τ) (r : Request)
  | dismissed (t : τ) (r : Request)
  | deciding (t : τ) (r : Request)

/-- The order of events that a user should see. -/
inductive Prompt.Next : Prompt τ → Event τ → Prompt τ → Prop
  | opened (t : τ) (r : Request) : Next .idle (.opened t r) (.asking t r)
  | shown (t : τ) (r : Request) (labels : Labels) (params : DialogParams) (h : r.params? labels = some params) :
      Next (.asking t r) (.shown (dialogMessage params)) (.asking t r)
  | closed (t : τ) (r : Request) : Next (.asking t r) .closed (.dismissed t r)
  | released (t : τ) (r : Request) : Next (.dismissed t r) (.released t r) (.deciding t r)
  | answered (t : τ) (p : Pending) (agreed : Bool) (after : List Entry) :
      Next (.deciding t p.request) (.answered t p agreed after) .idle
  | closeSent (q : Prompt τ) : Next q .closeSent q
  | disconnectSent (q : Prompt τ) : Next q .disconnectSent q

/-! ## How the world stands to it -/

/-- The parameters are those of the thread. -/
def Stage.shows : Stage → Bool
  | .filled | .initialized | .prepared | .waiting => true
  | _ => false

/-- A thread waits for a dialog that is still there, or for one that is gone, and then it need not wait. -/
def Fits (w : World τ ρ) (t : τ) (p : Pending) : Stage → Prompt τ → Prop
  | .locked, q | .filled, q | .leaving _, q => q = .idle ∧ w.sessions = []
  | .initialized, q => q = .idle ∧ w.sessions = [] ∧ w.waitDialogDisappear = 0
  | .prepared, q =>
    q = .idle ∧ w.sessions = [] ∧ w.waitDialogDisappear = 0 ∧ ∃ conn, w.usbAbilityConn = some conn
  | .waiting, q =>
    q = .asking t p.request ∧ (∃ conn, w.sessions = [conn]) ∧ w.waitDialogDisappear = 0 ∨
      q = .dismissed t p.request ∧ w.sessions = [] ∧ w.waitDialogDisappear = 1
  | .woken, q => q = .deciding t p.request ∧ w.sessions = []

/-- What ties the world to the specification: the thread that has the mutex, the connection and the parameters. -/
structure Tracks (w : World τ ρ) (q : Prompt τ) : Prop where
  holder : ∀ t p stage, w.thread t = .holding p stage → w.dialogRunning = some t
  free : w.dialogRunning = none → q = .idle ∧ w.sessions = []
  busy : ∀ t, w.dialogRunning = some t → ∃ p stage, w.thread t = .holding p stage ∧ Fits w t p stage q ∧
    (stage.shows = true → ∃ labels, p.request.params? labels = some w.usbDialogParams)

theorem World.AtRest.tracks {w : World τ ρ} (h : w.AtRest) : Tracks w .idle := by
  refine ⟨fun t p stage hpc => ?_, fun _ => ⟨rfl, h.sessions⟩, fun t hrunning => ?_⟩
  · rw [h.thread] at hpc
    cases hpc
  · rw [h.dialogRunning] at hrunning
    cases hrunning

theorem World.alone {w : World τ ρ} {t : τ} (h : w.dialogRunning = some t) : ∀ t', w.dialogRunning = some t' → t' = t :=
  fun _ h' => Option.some.inj (h'.symm.trans h)

namespace Tracks

variable {w w' : World τ ρ} {q q' : Prompt τ} {t : τ}

/-- What the thread that has the mutex knows. -/
theorem here (h : Tracks w q) {p : Pending} {stage : Stage} (hpc : w.thread t = .holding p stage) :
    w.dialogRunning = some t ∧ Fits w t p stage q ∧
      (stage.shows = true → ∃ labels, p.request.params? labels = some w.usbDialogParams) := by
  have hrunning := h.holder t p stage hpc
  obtain ⟨p', stage', hpc', hfits⟩ := h.busy t hrunning
  rw [hpc] at hpc'
  cases hpc'
  exact ⟨hrunning, hfits⟩

variable [DecidableEq τ]

/-- The thread that has the mutex, or takes it, goes on. -/
theorem move (h : Tracks w q) (halone : ∀ t', w.dialogRunning = some t' → t' = t) {p : Pending} {stage : Stage}
    (hthread : w'.thread = w.thread) (hmutex : w'.dialogRunning = some t) (hfits : Fits w' t p stage q')
    (hshows : stage.shows = true → ∃ labels, p.request.params? labels = some w'.usbDialogParams) :
    Tracks (w'.goto t (.holding p stage)) q' := by
  refine ⟨fun t' p' stage' hpc => ?_, fun hnone => ?_, fun t' hrunning => ?_⟩
  · by_cases ht : t' = t
    · rw [ht]
      exact hmutex
    · rw [World.goto_of_ne w' ht, hthread] at hpc
      exact absurd (halone t' (h.holder t' p' stage' hpc)) ht
  · cases hmutex.symm.trans hnone
  · obtain rfl : t = t' := Option.some.inj (hmutex.symm.trans hrunning)
    exact ⟨p, stage, w'.goto_self t _, hfits, hshows⟩

/-- A thread without the mutex goes where it still has none. -/
theorem aside (h : Tracks w q) (hpc : ∀ p stage, w.thread t ≠ .holding p stage) {pc : Pc}
    (hpc' : ∀ p stage, pc ≠ .holding p stage) : Tracks (w.goto t pc) q := by
  refine ⟨fun t' p stage hholding => ?_, h.free, fun t' hrunning => ?_⟩
  · by_cases ht : t' = t
    · rw [ht, World.goto_self] at hholding
      exact absurd hholding (hpc' p stage)
    · rw [World.goto_of_ne w ht] at hholding
      exact h.holder t' p stage hholding
  · obtain ⟨p, stage, hholding, hrest⟩ := h.busy t' hrunning
    have ht : t' ≠ t := fun ht => hpc p stage (ht ▸ hholding)
    exact ⟨p, stage, (w.goto_of_ne ht pc).trans hholding, hrest⟩

end Tracks

/-! ## Steps -/

/-- The step leaves events that the specification takes, and the world still stands to it. -/
def Follows (w w' : World τ ρ) (q : Prompt τ) : Prop :=
  ∃ new q', w'.trace = new ++ w.trace ∧ Accepts Prompt.Next q new q' ∧ Tracks w' q'

theorem Follows.silent {w w' : World τ ρ} {q : Prompt τ} (htrace : w'.trace = w.trace) (h : Tracks w' q) :
    Follows w w' q := ⟨[], q, htrace, .nil, h⟩

theorem Follows.event {w w' : World τ ρ} {q q' : Prompt τ} {e : Event τ} (htrace : w'.trace = e :: w.trace)
    (he : Prompt.Next q e q') (h : Tracks w' q') : Follows w w' q := ⟨[e], q', htrace, .one he, h⟩

/-- The connection that a callback is about. -/
def Step.callback? : Step τ ρ → Option Nat
  | .onAbilityConnectDone conn _ _ => some conn
  | .onAbilityDisconnectDone conn => some conn
  | _ => none

/-- The contract of the ability manager: it calls back only for a connection that is there. -/
def AbilityContract (step : Step τ ρ) (w : World τ ρ) : Prop := ∀ conn ∈ step.callback?, conn ∈ w.sessions

instance (step : Step τ ρ) (w : World τ ρ) : Decidable (AbilityContract step w) :=
  inferInstanceAs (Decidable (∀ conn ∈ step.callback?, conn ∈ w.sessions))

section

variable {w : World τ ρ} {q : Prompt τ} (h : Tracks w q)
include h

theorem Tracks.session {conn : Nat} (hconn : conn ∈ w.sessions) :
    ∃ t p, w.thread t = .holding p .waiting ∧ q = .asking t p.request ∧ w.sessions = [conn] ∧
      w.waitDialogDisappear = 0 := by
  rcases hrunning : w.dialogRunning with - | t
  · rw [(h.free hrunning).2] at hconn
    exact absurd hconn List.not_mem_nil
  · obtain ⟨p, stage, hpc, hfits, -⟩ := h.busy t hrunning
    have hsome : w.sessions ≠ [] := List.ne_nil_of_mem hconn
    cases stage with
    | waiting =>
      rcases hfits with ⟨hq, ⟨conn', hconn'⟩, hsem⟩ | ⟨-, hnone, -⟩
      · rw [hconn', List.mem_singleton] at hconn
        exact ⟨t, p, hpc, hq, hconn ▸ hconn', hsem⟩
      · exact absurd hnone hsome
    | locked | filled | leaving | woken => exact absurd hfits.2 hsome
    | initialized | prepared => exact absurd hfits.2.1 hsome

theorem onAbilityConnectDone_follows (conn : Nat) (hconn : conn ∈ w.sessions) (remoteObject sent : Bool) :
    Follows w (onAbilityConnectDone conn remoteObject sent w) q := by
  unfold onAbilityConnectDone
  split
  · exact .silent rfl h
  · obtain ⟨t, p, hpc, rfl, -, -⟩ := h.session hconn
    obtain ⟨labels, hparams⟩ := (h.here hpc).2.2 rfl
    have hnext : Prompt.Next (.asking t p.request) (.shown (dialogMessage w.usbDialogParams)) (.asking t p.request) :=
      .shown t p.request labels _ hparams
    dsimp only
    split
    · exact .event rfl hnext ⟨h.holder, h.free, h.busy⟩
    · exact .event rfl hnext ⟨h.holder, h.free, h.busy⟩

theorem onAbilityDisconnectDone_follows (conn : Nat) (hconn : conn ∈ w.sessions) :
    Follows w (onAbilityDisconnectDone conn w) q := by
  obtain ⟨t, p, hpc, rfl, hsessions, hsem⟩ := h.session hconn
  obtain ⟨hrunning, -, hshows⟩ := h.here hpc
  refine .event rfl (.closed t p.request) ⟨h.holder, fun hnone => ?_, fun t' h' => ?_⟩
  · cases hrunning.symm.trans hnone
  · obtain rfl : t = t' := Option.some.inj (hrunning.symm.trans h')
    refine ⟨p, .waiting, hpc, .inr ⟨rfl, ?_, ?_⟩, hshows⟩
    · show w.sessions.erase conn = []
      rw [hsessions]
      simp
    · show w.waitDialogDisappear + 1 = 1
      rw [hsem]

theorem unShowUsbDialog_follows (client : Bool) : Follows w (unShowUsbDialog client w) q := by
  have htracks : ∀ trace, Tracks { w with trace := trace } q := fun _ => ⟨h.holder, h.free, h.busy⟩
  unfold unShowUsbDialog
  split
  · exact .silent rfl h
  split
  · exact .silent rfl h
  dsimp only
  split
  · exact ⟨_, q, rfl, .cons (.one (.closeSent q)) (.disconnectSent q), htracks _⟩
  · exact .event rfl (.disconnectSent q) (htracks _)

variable [DecidableEq τ]

theorem request_follows (t : τ) (env : RightEnv) (r : Request) : Follows w (request t env r w) q := by
  unfold request
  split
  · rename_i hpc
    split
    · exact .silent rfl ⟨h.holder, h.free, h.busy⟩
    · have hout : ∀ p stage, w.thread t ≠ .holding p stage := fun p stage hh => by cases hpc.symm.trans hh
      refine .silent rfl ?_
      apply Tracks.aside
      · exact ⟨h.holder, h.free, h.busy⟩
      · exact hout
      · exact fun p stage hh => by cases hh
  · exact .silent rfl h

theorem lock_follows (t : τ) : Follows w (lock t w) q := by
  unfold lock
  split
  · rename_i p hpc hrunning
    have halone : ∀ t', w.dialogRunning = some t' → t' = t := fun t' h' => by cases hrunning.symm.trans h'
    exact .silent rfl (h.move halone rfl rfl (h.free hrunning) fun hshows => by cases hshows)
  · exact .silent rfl h

theorem fillParams_follows (t : τ) (labels : Labels) : Follows w (fillParams t labels w) q := by
  unfold fillParams
  split
  · rename_i p hpc
    obtain ⟨hrunning, hfits, -⟩ := h.here hpc
    split
    · exact .silent rfl (h.move (World.alone hrunning) rfl hrunning hfits fun hshows => by cases hshows)
    · rename_i params hparams
      exact .silent rfl (h.move (World.alone hrunning) rfl hrunning hfits fun _ => ⟨labels, hparams⟩)
  · exact .silent rfl h

theorem semInit_follows (t : τ) : Follows w (semInit t w) q := by
  unfold semInit
  split
  · rename_i p hpc
    obtain ⟨hrunning, ⟨hq, hsessions⟩, hshows⟩ := h.here hpc
    exact .silent rfl (h.move (World.alone hrunning) rfl hrunning ⟨hq, hsessions, rfl⟩ fun _ => hshows rfl)
  · exact .silent rfl h

theorem newConn_follows (t : τ) : Follows w (newConn t w) q := by
  unfold newConn
  split
  · rename_i p hpc
    obtain ⟨hrunning, ⟨hq, hsessions, hsem⟩, hshows⟩ := h.here hpc
    split
    · rename_i conn hconn
      exact .silent rfl
        (h.move (World.alone hrunning) rfl hrunning ⟨hq, hsessions, hsem, conn, hconn⟩ fun _ => hshows rfl)
    · exact .silent rfl
        (h.move (World.alone hrunning) rfl hrunning ⟨hq, hsessions, hsem, w.conns, rfl⟩ fun _ => hshows rfl)
  · exact .silent rfl h

theorem connectAbility_follows (t : τ) (answer : Connected) : Follows w (connectAbility t answer w) q := by
  unfold connectAbility
  split
  · rename_i p hpc
    obtain ⟨hrunning, ⟨rfl, hsessions, hsem, conn, hconn⟩, hshows⟩ := h.here hpc
    have hopened : ({ w with sessions := w.usbAbilityConn.toList ++ w.sessions }.log
        (.opened t p.request)).sessions = [conn] := by
      show w.usbAbilityConn.toList ++ w.sessions = [conn]
      rw [hconn, hsessions]
      rfl
    split
    · exact .silent rfl (h.move (World.alone hrunning) rfl hrunning ⟨rfl, hsessions⟩ fun hs => by cases hs)
    · exact .silent rfl (h.move (World.alone hrunning) rfl hrunning ⟨rfl, hsessions⟩ fun hs => by cases hs)
    · exact .event rfl (.opened t p.request)
        (h.move (World.alone hrunning) rfl hrunning (.inl ⟨rfl, ⟨conn, hopened⟩, hsem⟩) fun _ => hshows rfl)
  · exact .silent rfl h

theorem semWait_follows (t : τ) : Follows w (semWait t w) q := by
  unfold semWait
  split
  · rename_i p n hpc hsem
    obtain ⟨hrunning, hfits, -⟩ := h.here hpc
    rcases hfits with ⟨-, -, hzero⟩ | ⟨rfl, hsessions, -⟩
    · cases hsem.symm.trans hzero
    · exact .event rfl (.released t p.request)
        (h.move (World.alone hrunning) rfl hrunning ⟨rfl, hsessions⟩ fun hs => by cases hs)
  · exact .silent rfl h

theorem checkAgain_follows (t : τ) (env : RightEnv) : Follows w (checkAgain t env w) q := by
  unfold checkAgain
  split
  · rename_i p hpc
    obtain ⟨hrunning, ⟨rfl, hsessions⟩, -⟩ := h.here hpc
    exact .event rfl (.answered t p _ _)
      (h.move (World.alone hrunning) rfl hrunning ⟨rfl, hsessions⟩ fun hs => by cases hs)
  · exact .silent rfl h

theorem unlock_follows (t : τ) : Follows w (unlock t w) q := by
  unfold unlock
  split
  · rename_i p agreed hpc
    obtain ⟨hrunning, hfits, -⟩ := h.here hpc
    refine .silent rfl ⟨fun t' p' stage' hpc' => ?_, fun _ => hfits, fun t' h' => by cases h'⟩
    by_cases ht : t' = t
    · rw [ht, World.goto_self] at hpc'
      cases hpc'
    · rw [World.goto_of_ne _ ht] at hpc'
      exact absurd (World.alone hrunning t' (h.holder t' p' stage' hpc')) ht
  · exact .silent rfl h

end

variable [DecidableEq τ] [DecidableEq ρ]

theorem Step.run_follows (step : Step τ ρ) {w : World τ ρ} {q : Prompt τ} (hcontract : AbilityContract step w)
    (h : Tracks w q) : Follows w (step.run w) q := by
  cases step with
  | request t env r => exact request_follows h t env r
  | lock t => exact lock_follows h t
  | fill t labels => exact fillParams_follows h t labels
  | semInit t => exact semInit_follows h t
  | newConn t => exact newConn_follows h t
  | connectAbility t answer => exact connectAbility_follows h t answer
  | semWait t => exact semWait_follows h t
  | hasRight t env => exact checkAgain_follows h t env
  | unlock t => exact unlock_follows h t
  | onAbilityConnectDone conn remoteObject sent =>
    exact onAbilityConnectDone_follows h conn (hcontract conn rfl) remoteObject sent
  | onAbilityDisconnectDone conn => exact onAbilityDisconnectDone_follows h conn (hcontract conn rfl)
  | dropRemote conn => exact .silent rfl ⟨h.holder, h.free, h.busy⟩
  | unShowUsbDialog client => exact unShowUsbDialog_follows h client
  | service a => exact .silent rfl ⟨h.holder, h.free, h.busy⟩

/-! ## Every interleaving -/

/-- No thread waits for a dialog that is gone. -/
def World.NoLostWakeUp (w : World τ ρ) (q : Prompt τ) : Prop :=
  ∀ t p, w.thread t = .holding p .waiting →
    q = .asking t p.request ∧ (∃ conn, w.sessions = [conn]) ∨ q = .dismissed t p.request ∧ 0 < w.waitDialogDisappear

/-- Any number of threads, in any order: the dialogs are shown one by one, each with the parameters of the request that
waits for it; a request goes on only when its own dialog is gone, and is answered before the next dialog is opened; and
at most one thread is past the mutex. -/
theorem one_dialog_at_a_time (w : World τ ρ) (h : Run.Reachable World.AtRest Step.run AbilityContract w) :
    ∃ q, Accepts Prompt.Next .idle w.trace q ∧ w.NoLostWakeUp q ∧
      ∀ t t' p p' stage stage', w.thread t = .holding p stage → w.thread t' = .holding p' stage' → t = t' := by
  have hrun : ∃ q, Accepts Prompt.Next .idle w.trace q ∧ Tracks w q :=
    accepts_of_reachable Tracks (fun w hw => ⟨hw.trace, hw.tracks⟩)
      (fun step w q hcontract htracks => step.run_follows hcontract htracks) h
  obtain ⟨q, haccepts, htracks⟩ := hrun
  refine ⟨q, haccepts, fun t p hpc => ?_, fun t t' p p' stage stage' hpc hpc' => ?_⟩
  · rcases (htracks.here hpc).2.1 with ⟨hq, hsession, -⟩ | ⟨hq, -, hsem⟩
    · exact .inl ⟨hq, hsession⟩
    · exact .inr ⟨hq, by omega⟩
  · exact World.alone (htracks.holder t' p' stage' hpc') t (htracks.holder t p stage hpc)

/-! ## Two readers -/

/-- Two threads of a process that has just started. -/
def quiet : World Bool Nat where
  service := ⟨⟨readerState [], .empty, [], 0, []⟩, []⟩
  thread := fun _ => .outside
  dialogRunning := none
  usbDialogParams := StdMap.empty
  waitDialogDisappear := 0
  usbAbilityConn := none
  conns := 0
  remoteObject := fun _ => false
  clock := 0
  sessions := []
  trace := []

def readerRequest : Request := ⟨.device "1-2", "16-32-A", "reader", "7", 100⟩

/-- From the first check to the wait. -/
def asks (t : Bool) : List (Step Bool Nat) :=
  [.request t storeWorks readerRequest, .lock t, .fill t ⟨⟨fun _ => "", fun _ => none⟩, fun _ => none, fun _ => none⟩,
    .semInit t, .newConn t, .connectAbility t .sceneboard]

def goesOn (t : Bool) : List (Step Bool Nat) := [.semWait t, .hasRight t storeWorks, .unlock t]

def after (steps : List (Step Bool Nat)) : World Bool Nat := steps.foldl (fun w step => step.run w) quiet

theorem quiet_atRest : quiet.AtRest := ⟨fun _ => rfl, rfl, rfl, rfl⟩

theorem one_dialog_at_a_time_two_readers :
    let w := after (asks true ++ asks false ++ [.onAbilityConnectDone 0 true true, .onAbilityDisconnectDone 0] ++
      goesOn true ++ [.lock false])
    w.trace.length = 5 ∧ ∃ q, Accepts Prompt.Next .idle w.trace q ∧ w.NoLostWakeUp q := by
  intro w
  refine ⟨by decide +kernel, ?_⟩
  obtain ⟨q, haccepts, hwake, -⟩ := one_dialog_at_a_time w
    (reachable_foldl (.init quiet_atRest) (by decide +kernel))
  exact ⟨q, haccepts, hwake⟩

/-- A report for a connection that is not there wakes the waiting request, and two dialogs are there at once. -/
example : (after (asks true ++ [.onAbilityDisconnectDone 0] ++ goesOn true ++ asks false ++
    [.onAbilityDisconnectDone 1] ++ goesOn false ++ asks true)).sessions = [0, 0] := by
  decide +kernel

end UsbManager.Dialog
