import UsbManager.Lib.Run
import UsbManager.Serial.Sessions
import UsbManager.Service.Revocation

/-!
# Death of serial clients

`SerialOpen` of `usb_service.cpp` leaves a death recipient with the remote object of its client, before it knows
whether the port can be opened. No one takes it back: it frees the port whenever the remote dies and the token owns
the port. It then cancels the right of its caller, and that is the service itself. Reports are left out.
-/

namespace UsbManager.Service

open Rights Serial

/-! ## Clients and their remote objects -/

/-- What `OnRemoteDied` is told: the port and the token of the open. -/
structure SerialDeathRecipient (ρ : Type) where
  remote : ρ
  portId : Int
  tokenId : UInt32

/-- The recipients stay with the remote objects that they were added to. -/
structure SerialClients (ρ : Type) where
  service : ServiceState
  recipients : List (SerialDeathRecipient ρ)

/-- A callback runs in the service, which is a system ability. -/
def selfCaller (tokenId : UInt32) : Caller := ⟨tokenId, true, none⟩

/-- Without a manager there is nothing to free. -/
def freeTokenId (portId : Int) (tokenId : UInt32) (s : ServiceState) : ServiceState :=
  { s with usbSerialManager := s.usbSerialManager.map fun m => (Serial.freeTokenId portId tokenId m).2 }

variable {ρ : Type}

/-- `added` is the answer of `AddDeathRecipient`. -/
def serialOpen (env : RightEnv) (hdi : Int) (added : Bool) (caller : Caller) (portId : Int) (serialRemote : ρ)
    (c : SerialClients ρ) : Ret × SerialClients ρ :=
  match validateUsbSerialManagerAndPort portId c.service with
  | .ok =>
    match hasSerialRight env caller portId c.service with
    | (_, false, s) => (.uec .servicePermissionDenied, { c with service := s })
    | (_, true, s) =>
      if !added then (.uec .serviceInvalidValue, { c with service := s })
      else
        let recipients := c.recipients ++ [⟨serialRemote, portId, caller.tokenId⟩]
        match s.usbSerialManager with
        -- It was there when the port was validated.
        | none => (.uec .serviceInvalidValue, ⟨s, recipients⟩)
        | some m =>
          let (ret, m) := Serial.serialOpen hdi caller.tokenId portId m
          (ret, ⟨{ s with usbSerialManager := some m }, recipients⟩)
  | ret => (ret, c)

/-- The recipient of the open stays. -/
def serialClose (hdi : Int) (caller : Caller) (portId : Int) (c : SerialClients ρ) : Ret × SerialClients ρ :=
  match validateUsbSerialManagerAndPort portId c.service, c.service.usbSerialManager with
  | .ok, some m =>
    let (ret, m) := Serial.serialClose hdi caller.tokenId portId m
    (ret, { c with service := { c.service with usbSerialManager := some m } })
  | ret, _ => (ret, c)

/-- The right is cancelled for the service itself, not for the client. -/
def onRemoteDied (env : RightEnv) (self : Caller) (s : ServiceState) (r : SerialDeathRecipient ρ) : ServiceState :=
  (cancelSerialRight env 0 self r.portId (freeTokenId r.portId r.tokenId s)).2

/-- Every recipient of the remote is called, and they are gone with it. -/
def remoteDied [DecidableEq ρ] (env : RightEnv) (self : Caller) (remote : ρ) (c : SerialClients ρ) : SerialClients ρ where
  service := (c.recipients.filter fun r => r.remote = remote).foldl (onRemoteDied env self) c.service
  recipients := c.recipients.filter fun r => r.remote ≠ remote

/-! ## What the calls do -/

def owner? (s : ServiceState) (p : Int) : Option UInt32 := s.usbSerialManager.bind fun m => m.portTokenMap.find? p

theorem onRemoteDied_eq (env : RightEnv) (tokenId : UInt32) (s : ServiceState) (r : SerialDeathRecipient ρ) :
    onRemoteDied env (selfCaller tokenId) s r = freeTokenId r.portId r.tokenId s := by
  unfold onRemoteDied cancelSerialRight
  split
  · rfl
  · split
    · split
      · rfl
      · rfl
    · rfl

theorem freeTokenId_owner? (portId : Int) (tokenId : UInt32) (s : ServiceState) (p : Int) :
    owner? (freeTokenId portId tokenId s) p =
      if p = portId ∧ owner? s p = some tokenId then none else owner? s p := by
  unfold owner? freeTokenId Serial.freeTokenId
  cases s.usbSerialManager with
  | none => simp
  | some m =>
    simp only [Option.map_some, Option.bind_some]
    by_cases howner : m.portTokenMap.find? portId = some tokenId
    · rw [if_pos howner, disown_find?]
      by_cases hp : p = portId
      · simp [hp, howner]
      · simp [hp]
    · rw [if_neg howner]
      split
      · rename_i h
        rw [h.1] at h
        exact absurd h.2 howner
      · rfl

/-- The rights and the table of the devices stay as they are. -/
structure SameRights (s s' : ServiceState) : Prop where
  rights : s'.rights = s.rights
  serialVidPidMap : s'.serialVidPidMap = s.serialVidPidMap

theorem foldl_onRemoteDied_sameRights (env : RightEnv) (tokenId : UInt32) (rs : List (SerialDeathRecipient ρ))
    (s : ServiceState) : SameRights s (rs.foldl (onRemoteDied env (selfCaller tokenId)) s) := by
  induction rs generalizing s with
  | nil => exact ⟨rfl, rfl⟩
  | cons r rs ih =>
    rw [List.foldl_cons, onRemoteDied_eq]
    exact ⟨(ih _).rights, (ih _).serialVidPidMap⟩

/-- The callbacks free the ports whose owners they name. -/
theorem foldl_onRemoteDied_owner? (env : RightEnv) (tokenId : UInt32) (rs : List (SerialDeathRecipient ρ))
    (s : ServiceState) (p : Int) :
    owner? (rs.foldl (onRemoteDied env (selfCaller tokenId)) s) p =
      if ∃ r ∈ rs, r.portId = p ∧ owner? s p = some r.tokenId then none else owner? s p := by
  induction rs generalizing s with
  | nil => simp
  | cons r rs ih =>
    rw [List.foldl_cons, onRemoteDied_eq, ih, freeTokenId_owner?]
    by_cases hfree : p = r.portId ∧ owner? s p = some r.tokenId
    · have hcalled : ∃ r' ∈ r :: rs, r'.portId = p ∧ owner? s p = some r'.tokenId :=
        ⟨r, List.mem_cons_self, hfree.1.symm, hfree.2⟩
      rw [if_pos hfree, if_pos hcalled]
      simp
    · rw [if_neg hfree]
      have hiff : (∃ r' ∈ r :: rs, r'.portId = p ∧ owner? s p = some r'.tokenId) ↔
          ∃ r' ∈ rs, r'.portId = p ∧ owner? s p = some r'.tokenId := by
        constructor
        · rintro ⟨r', hr', hport, howner⟩
          rcases List.mem_cons.mp hr' with rfl | hr'
          · exact absurd ⟨hport.symm, howner⟩ hfree
          · exact ⟨r', hr', hport, howner⟩
        · rintro ⟨r', hr', h⟩
          exact ⟨r', List.mem_cons_of_mem r hr', h⟩
      simp only [hiff]

theorem hasSerialRight_eq (env : RightEnv) (caller : Caller) (portId : Int) (s : ServiceState) :
    ∃ db, (hasSerialRight env caller portId s).2.2 = s.setRights db := by
  unfold hasSerialRight
  split
  · exact ⟨s.rights, rfl⟩
  · split
    · split
      · exact ⟨s.rights, rfl⟩
      · split
        · exact ⟨s.rights, rfl⟩
        · split
          · exact ⟨s.rights, rfl⟩
          · exact ⟨_, rfl⟩
    · exact ⟨s.rights, rfl⟩

/-- The call comes as far as the serial manager, and the remote has the recipient. -/
def reachesManager (env : RightEnv) (added : Bool) (caller : Caller) (portId : Int) (s : ServiceState) : Bool :=
  validateUsbSerialManagerAndPort portId s = .ok && (hasSerialRight env caller portId s).2.1 && added

/-- The port is free, the interface is there, and HDI opens the port. -/
def Opens (hdi : Int) (portId : Int) (s : ServiceState) : Prop :=
  owner? s portId = none ∧ hdi = 0 ∧ ∃ m, s.usbSerialManager = some m ∧ m.serial = true

/-- What `SerialOpen` can do. It may also remove rights that are over. -/
inductive OpenOutcome (env : RightEnv) (hdi : Int) (added : Bool) (caller : Caller) (portId : Int) (remote : ρ)
    (c : SerialClients ρ) : Ret × SerialClients ρ → Prop
  | stopped (ret : Ret) (s : ServiceState) (hreach : reachesManager env added caller portId c.service = false)
      (hret : ret ≠ .ok) (howners : ∀ p, owner? s p = owner? c.service p) :
      OpenOutcome env hdi added caller portId remote c (ret, ⟨s, c.recipients⟩)
  | refused (ret : Ret) (s : ServiceState) (hreach : reachesManager env added caller portId c.service = true)
      (hnot : ¬ Opens hdi portId c.service) (hret : ret ≠ .ok) (howners : ∀ p, owner? s p = owner? c.service p) :
      OpenOutcome env hdi added caller portId remote c (ret, ⟨s, c.recipients ++ [⟨remote, portId, caller.tokenId⟩]⟩)
  | opened (s : ServiceState) (hreach : reachesManager env added caller portId c.service = true)
      (hopens : Opens hdi portId c.service)
      (howners : ∀ p, owner? s p = if p = portId then some caller.tokenId else owner? c.service p) :
      OpenOutcome env hdi added caller portId remote c (.ok, ⟨s, c.recipients ++ [⟨remote, portId, caller.tokenId⟩]⟩)

theorem owner?_eq {s : ServiceState} {m : SerialManager} (h : s.usbSerialManager = some m) (p : Int) :
    owner? s p = m.portTokenMap.find? p := by
  rw [owner?, h]
  rfl

theorem opens_iff (hdi : Int) (callingTokenId : UInt32) (portId : Int) {s : ServiceState} {m : SerialManager}
    (h : s.usbSerialManager = some m) :
    Opens hdi portId s ↔ (Serial.serialOpen hdi callingTokenId portId m).1 = .ok := by
  unfold Opens Serial.serialOpen
  rw [owner?_eq h, h]
  simp only [Option.some.injEq, exists_eq_left']
  split
  · rename_i hserial
    split
    · rename_i htaken
      rw [← Option.not_isSome_iff_eq_none]
      simp [htaken]
    · rename_i hfree
      rw [← Option.not_isSome_iff_eq_none]
      split
      · rename_i hhdi
        simp [hhdi]
      · rename_i hhdi
        simpa [hfree, hserial] using hhdi
  · rename_i hserial
    simp [hserial]

theorem openPort_outcome (env : RightEnv) (hdi : Int) (added : Bool) (caller : Caller) (portId : Int) (remote : ρ)
    (c : SerialClients ρ) (db : RightDb) (m : SerialManager) (hm : c.service.usbSerialManager = some m)
    (hreach : reachesManager env added caller portId c.service = true) :
    OpenOutcome env hdi added caller portId remote c
      ((Serial.serialOpen hdi caller.tokenId portId m).1,
        ⟨{ c.service.setRights db with usbSerialManager := some (Serial.serialOpen hdi caller.tokenId portId m).2 },
          c.recipients ++ [⟨remote, portId, caller.tokenId⟩]⟩) := by
  have hiff := opens_iff hdi caller.tokenId portId hm
  obtain ⟨e, he⟩ | ⟨hserial, hfree, hok⟩ := serialOpen_cases hdi caller.tokenId portId m
  · rw [he] at hiff ⊢
    refine .refused _ _ hreach (fun h => ?_) (by simp) fun p => (owner?_eq hm p).symm
    cases hiff.mp h
  · rw [hok] at hiff ⊢
    refine .opened _ hreach (hiff.mpr rfl) fun p => ?_
    rw [owner?_eq hm]
    exact own_find? m portId caller.tokenId hserial hfree p

theorem serialOpen_outcome (env : RightEnv) (hdi : Int) (added : Bool) (caller : Caller) (portId : Int) (remote : ρ)
    (c : SerialClients ρ) :
    OpenOutcome env hdi added caller portId remote c (serialOpen env hdi added caller portId remote c) := by
  unfold serialOpen
  split
  · rename_i hvalid
    obtain ⟨db, hdb⟩ := hasSerialRight_eq env caller portId c.service
    split
    · rename_i ret s hright
      rw [hright] at hdb
      obtain rfl : s = c.service.setRights db := hdb
      exact .stopped _ _ (by simp [reachesManager, hright]) (by simp) fun _ => rfl
    · rename_i ret s hright
      rw [hright] at hdb
      obtain rfl : s = c.service.setRights db := hdb
      split
      · rename_i hadded
        exact .stopped _ _ (by simp_all [reachesManager]) (by simp) fun _ => rfl
      · rename_i hadded
        have hreach : reachesManager env added caller portId c.service = true := by
          simp_all [reachesManager]
        split
        · rename_i hm
          have hnone : c.service.usbSerialManager = none := hm
          rw [validateUsbSerialManagerAndPort, hnone] at hvalid
          cases hvalid
        · rename_i m hm
          exact openPort_outcome env hdi added caller portId remote c db m hm hreach
  · rename_i hvalid
    refine .stopped _ _ ?_ hvalid fun _ => rfl
    unfold reachesManager
    rw [decide_eq_false hvalid]
    rfl

theorem serialClose_owner? (hdi : Int) (caller : Caller) (portId : Int) (c : SerialClients ρ) :
    (serialClose hdi caller portId c).2.recipients = c.recipients ∧
      ∀ p t, owner? (serialClose hdi caller portId c).2.service p = some t → owner? c.service p = some t := by
  unfold serialClose
  split
  · rename_i m _ hm
    refine ⟨rfl, fun p t h => ?_⟩
    rw [owner?_eq hm]
    have howner : (Serial.serialClose hdi caller.tokenId portId m).2.portTokenMap.find? p = some t := h
    obtain ⟨e, he⟩ | ⟨-, hok⟩ := serialClose_cases hdi caller.tokenId portId m
    · rw [he] at howner
      exact howner
    · rw [hok, release_find?] at howner
      split at howner
      · cases howner
      · exact howner
  · exact ⟨rfl, fun _ _ h => h⟩

/-! ## Runs -/

/-- `opener` is the latest call of `SerialOpen` for a port that succeeded, by its remote object and its caller. -/
structure ClientRun (ρ : Type) extends SerialClients ρ where
  opener : Int → Option (ρ × Caller)

namespace ClientRun

/-- Every owner came through its last open. -/
def Opened (run : ClientRun ρ) : Prop :=
  ∀ p t, owner? run.service p = some t → ∃ remote caller, run.opener p = some (remote, caller) ∧ caller.tokenId = t

/-- Only the remote that opened the port can free its owner. -/
def Covered (run : ClientRun ρ) : Prop :=
  ∀ p t remote caller, owner? run.service p = some t → run.opener p = some (remote, caller) →
    ∀ r ∈ run.recipients, r.portId = p → r.tokenId = t → r.remote = remote

theorem Covered.of_sub {run run' : ClientRun ρ} (h : Covered run)
    (howners : ∀ p t, owner? run'.service p = some t → owner? run.service p = some t)
    (hrecipients : ∀ r ∈ run'.recipients, r ∈ run.recipients) (hopener : run'.opener = run.opener) : Covered run' := by
  intro p t remote caller howner hop r hr
  rw [hopener] at hop
  exact h p t remote caller (howners p t howner) hop r (hrecipients r hr)

theorem Opened.of_sub {run run' : ClientRun ρ} (h : Opened run)
    (howners : ∀ p t, owner? run'.service p = some t → owner? run.service p = some t)
    (hopener : run'.opener = run.opener) : Opened run' := by
  intro p t howner
  rw [hopener]
  exact h p t (howners p t howner)

/-- A failed open leaves one more recipient, which may free the port that its client owns. -/
theorem covered_refused_iff {run : ClientRun ρ} (h : Covered run) (remote : ρ) (portId : Int) (tokenId : UInt32)
    (s : ServiceState) (howners : ∀ p, owner? s p = owner? run.service p) :
    Covered ⟨⟨s, run.recipients ++ [⟨remote, portId, tokenId⟩]⟩, run.opener⟩ ↔
      (owner? run.service portId = some tokenId →
        ∀ remote' caller', run.opener portId = some (remote', caller') → remote' = remote) := by
  constructor
  · intro hcov howner remote' caller' hopener
    have hnew := hcov portId tokenId remote' caller' ((howners portId).trans howner) hopener
      ⟨remote, portId, tokenId⟩ (by simp) rfl rfl
    exact hnew.symm
  · intro hsame p t remote' caller' howner hopener r hr hport htoken
    have hold := (howners p).symm.trans howner
    rcases List.mem_append.mp hr with hr | hr
    · exact h p t remote' caller' hold hopener r hr hport htoken
    · obtain rfl := List.mem_singleton.mp hr
      obtain rfl : portId = p := hport
      obtain rfl : tokenId = t := htoken
      exact (hsame hold remote' caller' hopener).symm

/-- A new session can be ended by every recipient that its client left at the port before. -/
theorem covered_opened_iff {run : ClientRun ρ} (h : Covered run) (remote : ρ) (portId : Int) (caller : Caller)
    (s : ServiceState)
    (howners : ∀ p, owner? s p = if p = portId then some caller.tokenId else owner? run.service p) :
    Covered ⟨⟨s, run.recipients ++ [⟨remote, portId, caller.tokenId⟩]⟩,
        Function.update run.opener portId (some (remote, caller))⟩ ↔
      ∀ r ∈ run.recipients, r.portId = portId → r.tokenId = caller.tokenId → r.remote = remote := by
  have hnow : owner? s portId = some caller.tokenId := by rw [howners, if_pos rfl]
  constructor
  · intro hcov r hr hport htoken
    exact hcov portId caller.tokenId remote caller hnow (by simp) r (List.mem_append_left _ hr) hport htoken
  · intro hnone p t remote' caller' howner hopener r hr hport htoken
    by_cases hp : p = portId
    · subst hp
      obtain rfl : caller.tokenId = t := Option.some.inj (hnow.symm.trans howner)
      obtain ⟨rfl, rfl⟩ : remote = remote' ∧ caller = caller' := by simpa using hopener
      rcases List.mem_append.mp hr with hr | hr
      · exact hnone r hr hport htoken
      · obtain rfl := List.mem_singleton.mp hr
        rfl
    · have hold := (howners p).symm.trans howner
      rw [if_neg hp] at hold
      have hopener' : run.opener p = some (remote', caller') := by simpa [Function.update_of_ne hp] using hopener
      rcases List.mem_append.mp hr with hr | hr
      · exact h p t remote' caller' hold hopener' r hr hport htoken
      · obtain rfl := List.mem_singleton.mp hr
        exact absurd hport.symm hp

/-! ## Steps -/

/-- What clients do to ports, and their deaths. -/
inductive Op (ρ : Type)
  | serialOpen (env : RightEnv) (hdi : Int) (added : Bool) (caller : Caller) (portId : Int) (remote : ρ)
  | serialClose (hdi : Int) (caller : Caller) (portId : Int)
  | remoteDied (env : RightEnv) (selfTokenId : UInt32) (remote : ρ)

variable [DecidableEq ρ]

def Op.step : Op ρ → ClientRun ρ → ClientRun ρ
  | .serialOpen env hdi added caller portId remote, run =>
    let (ret, clients) := Service.serialOpen env hdi added caller portId remote run.toSerialClients
    ⟨clients, if ret = .ok then Function.update run.opener portId (some (remote, caller)) else run.opener⟩
  | .serialClose hdi caller portId, run =>
    ⟨(Service.serialClose hdi caller portId run.toSerialClients).2, run.opener⟩
  | .remoteDied env selfTokenId remote, run =>
    ⟨Service.remoteDied env (selfCaller selfTokenId) remote run.toSerialClients, run.opener⟩

def Started (run : ClientRun ρ) : Prop := (∀ p, owner? run.service p = none) ∧ run.recipients = []

/-- A row that gives the client the right on the device at the port, under its own token or the default one. -/
def HoldsRow (caller : Caller) (portId : Int) (s : ServiceState) : Prop :=
  ∃ info entry row, getCallingInfo caller = some info ∧ s.serialVidPidMap.find? portId = some entry ∧
    row ∈ s.rights.rows ∧
    (row.hasKey (info.key entry.2 info.tokenId) = true ∨ row.hasKey (info.key entry.2 usbDefaultToken) = true)

/-- The death closes no port but those that were opened through the remote. -/
def ClosesOwn (env : RightEnv) (selfTokenId : UInt32) (remote : ρ) (run : ClientRun ρ) : Prop :=
  ∀ p t, owner? run.service p = some t →
    owner? ((Op.remoteDied env selfTokenId remote).step run).service p = none →
    ∃ caller, run.opener p = some (remote, caller) ∧ caller.tokenId = t

/-- And the clients of these ports have no right left. -/
def Releases (env : RightEnv) (selfTokenId : UInt32) (remote : ρ) (run : ClientRun ρ) : Prop :=
  ∀ p t, owner? run.service p = some t →
    owner? ((Op.remoteDied env selfTokenId remote).step run).service p = none →
    ∃ caller, run.opener p = some (remote, caller) ∧ caller.tokenId = t ∧
      ¬ HoldsRow caller p ((Op.remoteDied env selfTokenId remote).step run).service

/-- The clients have no right on the ports that they opened through the remote and own. -/
def FindsNoRow (remote : ρ) (run : ClientRun ρ) : Prop :=
  ∀ r ∈ run.recipients, r.remote = remote → owner? run.service r.portId = some r.tokenId →
    ∀ caller, run.opener r.portId = some (remote, caller) → ¬ HoldsRow caller r.portId run.service

/-- An open that leaves a recipient finds no recipient of another remote for its port and token, if it succeeds, and
an own session through the same remote, if there is one. -/
def Op.sound : Op ρ → ClientRun ρ → Prop
  | .serialOpen env hdi added caller portId remote, run =>
    reachesManager env added caller portId run.service = true →
      (Opens hdi portId run.service →
        ∀ r ∈ run.recipients, r.portId = portId → r.tokenId = caller.tokenId → r.remote = remote) ∧
      (owner? run.service portId = some caller.tokenId →
        ∀ remote' caller', run.opener portId = some (remote', caller') → remote' = remote)
  | .serialClose _ _ _, _ => True
  | .remoteDied _ _ _, _ => True

/-! ## What a step keeps -/

theorem remoteDied_owner? (env : RightEnv) (selfTokenId : UInt32) (remote : ρ) (run : ClientRun ρ) (p : Int) :
    owner? ((Op.remoteDied env selfTokenId remote).step run).service p =
      if ∃ r ∈ run.recipients, r.remote = remote ∧ r.portId = p ∧ owner? run.service p = some r.tokenId then none
      else owner? run.service p := by
  have hfold := foldl_onRemoteDied_owner? env selfTokenId (run.recipients.filter fun r => r.remote = remote)
    run.service p
  simp only [List.mem_filter, decide_eq_true_eq, and_assoc] at hfold
  exact hfold

theorem owner?_of_remoteDied {env : RightEnv} {selfTokenId : UInt32} {remote : ρ} {run : ClientRun ρ} (p : Int)
    (t : UInt32) (h : owner? ((Op.remoteDied env selfTokenId remote).step run).service p = some t) :
    owner? run.service p = some t := by
  rw [remoteDied_owner?] at h
  split at h
  · cases h
  · exact h

theorem Op.step_opened (op : Op ρ) (run : ClientRun ρ) (h : Opened run) : Opened (op.step run) := by
  cases op with
  | serialOpen env hdi added caller portId remote =>
    have houtcome := serialOpen_outcome env hdi added caller portId remote run.toSerialClients
    unfold Op.step
    dsimp only
    generalize Service.serialOpen env hdi added caller portId remote run.toSerialClients = result at houtcome ⊢
    cases houtcome with
    | stopped ret s hreach hret howners =>
      exact h.of_sub (fun p t howner => (howners p).symm.trans howner) (if_neg hret)
    | refused ret s hreach hnot hret howners =>
      exact h.of_sub (fun p t howner => (howners p).symm.trans howner) (if_neg hret)
    | opened s hreach hopens howners =>
      intro p t howner
      have hp := (howners p).symm.trans howner
      split at hp
      · rename_i heq
        subst heq
        exact ⟨remote, caller, by simp, Option.some.inj hp⟩
      · rename_i hne
        simpa [Function.update_of_ne hne] using h p t hp
  | serialClose hdi caller portId =>
    exact h.of_sub (serialClose_owner? hdi caller portId run.toSerialClients).2 rfl
  | remoteDied env selfTokenId remote => exact h.of_sub owner?_of_remoteDied rfl

theorem serialOpen_covered_iff (env : RightEnv) (hdi : Int) (added : Bool) (caller : Caller) (portId : Int)
    (remote : ρ) (run : ClientRun ρ) (h : Covered run) :
    Covered ((Op.serialOpen env hdi added caller portId remote).step run) ↔
      (Op.serialOpen env hdi added caller portId remote).sound run := by
  have houtcome := serialOpen_outcome env hdi added caller portId remote run.toSerialClients
  unfold Op.step Op.sound
  dsimp only
  generalize Service.serialOpen env hdi added caller portId remote run.toSerialClients = result at houtcome ⊢
  cases houtcome with
  | stopped ret s hreach hret howners =>
    refine ⟨fun _ hyes => absurd (hreach.symm.trans hyes) (by decide), fun _ => ?_⟩
    exact h.of_sub (fun p t howner => (howners p).symm.trans howner) (fun r hr => hr) (if_neg hret)
  | refused ret s hreach hnot hret howners =>
    rw [if_neg hret]
    refine (covered_refused_iff h remote portId caller.tokenId s howners).trans ?_
    exact ⟨fun hsame _ => ⟨fun hopens => absurd hopens hnot, hsame⟩, fun hsound => (hsound hreach).2⟩
  | opened s hreach hopens howners =>
    rw [if_pos rfl]
    refine (covered_opened_iff h remote portId caller s howners).trans ?_
    refine ⟨fun hnone _ => ⟨fun _ => hnone, fun howner => ?_⟩, fun hsound => (hsound hreach).1 hopens⟩
    have hfree := hopens.1
    rw [howner] at hfree
    cases hfree

theorem Op.step_covered (op : Op ρ) (run : ClientRun ρ) (hop : op.sound run) (h : Covered run) :
    Covered (op.step run) := by
  cases op with
  | serialOpen env hdi added caller portId remote =>
    exact (serialOpen_covered_iff env hdi added caller portId remote run h).mpr hop
  | serialClose hdi caller portId =>
    obtain ⟨hrecipients, howners⟩ := serialClose_owner? hdi caller portId run.toSerialClients
    refine h.of_sub howners (fun r hr => ?_) rfl
    rw [← hrecipients]
    exact hr
  | remoteDied env selfTokenId remote =>
    exact h.of_sub owner?_of_remoteDied (fun r hr => List.mem_of_mem_filter hr) rfl

/-! ## Deaths -/

theorem holdsRow_congr {s s' : ServiceState} (h : SameRights s s') (caller : Caller) (p : Int) :
    HoldsRow caller p s' ↔ HoldsRow caller p s := by
  unfold HoldsRow
  rw [h.rights, h.serialVidPidMap]

theorem remoteDied_closesOwn (env : RightEnv) (selfTokenId : UInt32) (remote : ρ) (run : ClientRun ρ)
    (hopened : Opened run) (hcovered : Covered run) : ClosesOwn env selfTokenId remote run := by
  intro p t howner hclosed
  rw [remoteDied_owner?] at hclosed
  split at hclosed
  · rename_i hnamed
    obtain ⟨r, hr, hremote, hport, htoken⟩ := hnamed
    have hsame : r.tokenId = t := Option.some.inj (htoken.symm.trans howner)
    obtain ⟨remote', caller, hopener, hcaller⟩ := hopened p t howner
    obtain rfl : remote = remote' :=
      hremote.symm.trans (hcovered p t remote' caller howner hopener r hr hport hsame)
    exact ⟨caller, hopener, hcaller⟩
  · rw [howner] at hclosed
    cases hclosed

theorem remoteDied_releases_iff (env : RightEnv) (selfTokenId : UInt32) (remote : ρ) (run : ClientRun ρ)
    (hown : ClosesOwn env selfTokenId remote run) : Releases env selfTokenId remote run ↔ FindsNoRow remote run := by
  have hsame : SameRights run.service ((Op.remoteDied env selfTokenId remote).step run).service :=
    foldl_onRemoteDied_sameRights env selfTokenId _ run.service
  constructor
  · intro hreleases r hr hremote howner caller hopener
    have hclosed := remoteDied_owner? env selfTokenId remote run r.portId
    rw [if_pos ⟨r, hr, hremote, rfl, howner⟩] at hclosed
    obtain ⟨caller', hopener', -, hgone⟩ := hreleases r.portId r.tokenId howner hclosed
    obtain rfl : caller' = caller := by
      rw [hopener] at hopener'
      exact (Prod.mk.inj (Option.some.inj hopener')).2.symm
    rw [← holdsRow_congr hsame]
    exact hgone
  · intro hnone p t howner hclosed
    obtain ⟨caller, hopener, hcaller⟩ := hown p t howner hclosed
    refine ⟨caller, hopener, hcaller, ?_⟩
    rw [holdsRow_congr hsame]
    rw [remoteDied_owner?] at hclosed
    split at hclosed
    · rename_i hnamed
      obtain ⟨r, hr, hremote, rfl, htoken⟩ := hnamed
      exact hnone r hr hremote htoken caller hopener
    · rw [howner] at hclosed
      cases hclosed

theorem not_closesOwn_of_not_covered (run : ClientRun ρ) (h : ¬ Covered run) :
    ∃ remote, ∀ env selfTokenId, ¬ ClosesOwn env selfTokenId remote run := by
  unfold Covered at h
  simp only [not_forall] at h
  obtain ⟨p, t, remote, caller, howner, hopener, r, hr, hport, htoken, hother⟩ := h
  refine ⟨r.remote, fun env selfTokenId hown => ?_⟩
  have hclosed := remoteDied_owner? env selfTokenId r.remote run p
  rw [if_pos ⟨r, hr, rfl, hport, htoken ▸ howner⟩] at hclosed
  obtain ⟨caller', hopener', -⟩ := hown p t howner hclosed
  rw [hopener] at hopener'
  exact hother (Prod.mk.inj (Option.some.inj hopener')).1.symm

abbrev Reachable (C : Op ρ → ClientRun ρ → Prop) : ClientRun ρ → Prop := Run.Reachable Started Op.step C

/-- In every run of sound opens a death closes what was opened through the remote and nothing else, and it leaves no
right exactly if there was none. After an open that is not sound there is a remote whose death closes the session of
another one. -/
theorem death_releases_own (run : ClientRun ρ) (hrun : Reachable Op.sound run) :
    (∀ env selfTokenId remote, ClosesOwn env selfTokenId remote run ∧
      (Releases env selfTokenId remote run ↔ FindsNoRow remote run)) ∧
    ∀ op : Op ρ, ¬ op.sound run → ∃ remote, ∀ env selfTokenId, ¬ ClosesOwn env selfTokenId remote (op.step run) := by
  have hinv : Opened run ∧ Covered run := by
    refine hrun.invariant (I := fun run => Opened run ∧ Covered run) ?_ ?_
    · rintro run ⟨hfree, hnone⟩
      refine ⟨fun p t h => ?_, fun p t _ _ h => ?_⟩
      · rw [hfree p] at h
        cases h
      · rw [hfree p] at h
        cases h
    · rintro op run hop ⟨hopened, hcovered⟩
      exact ⟨op.step_opened run hopened, op.step_covered run hop hcovered⟩
  refine ⟨fun env selfTokenId remote => ?_, fun op hop => ?_⟩
  · have hown := remoteDied_closesOwn env selfTokenId remote run hinv.1 hinv.2
    exact ⟨hown, remoteDied_releases_iff env selfTokenId remote run hown⟩
  · cases op with
    | serialOpen env hdi added caller portId remote =>
      apply not_closesOwn_of_not_covered
      rw [serialOpen_covered_iff env hdi added caller portId remote run hinv.2]
      exact hop
    | serialClose hdi caller portId => exact absurd trivial hop
    | remoteDied env selfTokenId remote => exact absurd trivial hop

/-- Serial port 3 is not open. -/
def idlePort (rows : List RightRow) : ClientRun Nat where
  service := { readerState rows with
    usbSerialManager := some { SerialManager.new true with
      serialPortMap := StdMap.empty.insert 3 ⟨3, 1, 2, 16, 32, "A"⟩ } }
  recipients := []
  opener := fun _ => none

theorem idlePort_started (rows : List RightRow) : Started (idlePort rows) := ⟨fun _ => rfl, rfl⟩

def openThrough (caller : Caller) (remote : Nat) : Op Nat := .serialOpen storeWorks 0 true caller 3 remote

def dies (remote : Nat) : Op Nat := .remoteDied storeWorks 1 remote

/-- A system application needs no row. -/
def settings : Caller := ⟨7, true, some ("settings", 100)⟩

theorem death_releases_own_settings :
    let run := (openThrough settings 1).step (idlePort [])
    owner? run.service 3 = some 7 ∧ owner? ((dies 1).step run).service 3 = none ∧ Releases storeWorks 1 1 run := by
  intro run
  have hrun : Reachable Op.sound run := by
    refine .step _ (.init (idlePort_started [])) fun _ => ⟨fun _ r hr => ?_, fun howner => ?_⟩
    · cases hr
    · cases howner
  refine ⟨by decide +kernel, by decide +kernel, ((death_releases_own run hrun).1 storeWorks 1 1).2.mpr ?_⟩
  rintro r - - - caller - ⟨info, entry, row, -, -, hrow, -⟩
  cases hrow

/-- The reader opens the port through one remote, closes it and opens it through another one: the death of the first
closes the new session, and the row of the reader is still there. -/
theorem death_closes_later_session :
    let row := readerRight "16-32-A" "7"
    let run := (openThrough reader 2).step ((Op.serialClose 0 reader 3).step ((openThrough reader 1).step (idlePort [row])))
    Reachable (fun _ _ => True) run ∧ (run.opener 3).map Prod.fst = some 2 ∧ owner? run.service 3 = some 7 ∧
      owner? ((dies 1).step run).service 3 = none ∧ row ∈ ((dies 1).step run).service.rights.rows ∧
      ¬ ClosesOwn storeWorks 1 1 run ∧ ¬ Releases storeWorks 1 1 run := by
  intro row run
  have hopener : (run.opener 3).map Prod.fst = some 2 := by decide +kernel
  have howner : owner? run.service 3 = some 7 := by decide +kernel
  have hclosed : owner? ((dies 1).step run).service 3 = none := by decide +kernel
  refine ⟨.step _ (.step _ (.step _ (.init (idlePort_started [row])) trivial) trivial) trivial, hopener, howner, hclosed,
    by decide +kernel, fun h => ?_, fun h => ?_⟩
  all_goals
    obtain ⟨caller, hopener', -⟩ := h 3 7 howner hclosed
    rw [hopener'] at hopener
    cases hopener

end ClientRun

end UsbManager.Service
