import UsbManager.Service.Openers

/-!
# Mediation

The service stands between its clients and HDI. Over every run a call for a device, apart from two queries, reaches HDI
for a client only if the client is part of the system, runs as the console user, or holds a right that a system
application with the permission granted, that nobody has taken back since, and that is not too old. What the service
does by itself after the death of a client is only to take back a transfer that was submitted before. A serial port is used by the client of its latest open only,
which had the right then; a dump opens ports without a right.
-/

namespace UsbManager.Service

open Rights Serial Accessory Host

variable {ρ : Type}

/-! ## The table -/

theorem hasSerialRight_sub (env : RightEnv) (caller : Caller) (portId : Int) (s : ServiceState) :
    ∀ r ∈ (hasSerialRight env caller portId s).2.2.rights.rows, r ∈ s.rights.rows := by
  unfold hasSerialRight
  split
  · exact fun r hr => hr
  split
  · iterate 3
      split
      · exact fun r hr => hr
    exact (hasEitherRight_deletes env _ _ s.rights).sub
  · exact fun r hr => hr

theorem hasAccessoryRight_sub (env : RightEnv) (caller : Caller) (access : USBAccessory) (s : ServiceState) :
    ∀ r ∈ (hasAccessoryRight env caller access s).2.rights.rows, r ∈ s.rights.rows := by
  unfold hasAccessoryRight
  iterate 4
    split
    · exact fun r hr => hr
  exact (Rights.hasRight_deletes env _ s.rights).sub

theorem close_deletes (env : Env) (rightEnv : RightEnv) (caller : Caller) (dev : UsbDev) (s : ServiceState) :
    Deletes (Outlived rightEnv s.rights.rows) s.rights (close env rightEnv caller dev s).2.rights := by
  have hdeletes := hasRight_deletes rightEnv caller dev.name s
  unfold close
  dsimp only
  split
  · exact hdeletes
  · exact hdeletes

theorem delDevice_deletes (env : Env) (rightEnv : RightEnv) (caller : Caller) (dev : UsbDev) (s : ServiceState) :
    Deletes (fun r => r.validPeriod = usbRightValidPeriodMin ∨ Outlived rightEnv s.rights.rows r) s.rights
      (delDevice env rightEnv caller dev s).2.rights := by
  have hclose := close_deletes env rightEnv caller dev s
  unfold delDevice
  dsimp only
  split
  · exact hclose.mono fun r _ h => .inr h
  · refine (hclose.mono fun r _ h => .inr h).trans ?_
    refine (removeDeviceAllRight_deletes rightEnv _ _).mono fun r _ h => ?_
    rcases h with h | h
    · exact .inl h.1
    · exact .inr (h.mono hclose.sub)

theorem addDevice_rights (env : Env) (dev : UsbDev) (s : ServiceState) :
    (addDevice env dev s).2.rights = s.rights := by
  unfold addDevice
  dsimp only
  split <;> rfl

theorem initUsbRight_deletes (env : RightEnv) (s : ServiceState) :
    Deletes (fun r => r.validPeriod = usbRightValidPeriodMin ∨
      tooOld env.currentUserId (relativeExpiredTime env.tidyNow) r = true) s.rights (initUsbRight env s).rights := by
  unfold initUsbRight
  split
  · exact .of_rows_eq rfl
  · exact cleanUpRightExpired_deletes env _ s.rights

theorem onReceiveEvent_takes (env : RightEnv) (e : RightEvent) (db : RightDb) :
    ∀ r ∈ (onReceiveEvent env e db).2.rows, r ∈ db.rows ∧
      ((onReceiveEvent env e db).1 = .ok → ∀ entry ∈ eventEntries e, ¬ entry.Revokes r) := by
  cases e with
  | packageRemoved userId bundleName =>
    simp only [onReceiveEvent, eventEntries, List.forall_mem_singleton, Entry.Revokes]
    unfold cleanUpRightBundleRemoved
    obtain ⟨hrows, -⟩ := queryAndGetResultColumnValues_spec env.toStoreEnv (fun r => r.uid = userId)
      RightRow.bundleName db
    rcases hq : queryRightRecordApps env.toStoreEnv userId db with ⟨e | apps, db'⟩
    all_goals
      unfold queryRightRecordApps at hq
      rw [hq] at hrows
    · exact fun r hr => ⟨hrows ▸ hr, by simp⟩
    dsimp only
    split
    · intro r hr
      refine ⟨hrows ▸ deleteAndNoOtherOperation_sub env.toStoreEnv _ db' r hr, fun hok happ => ?_⟩
      have hdone : (deleteAppRightRecord env.toStoreEnv userId bundleName db').1 = .ok () := by
        rcases hret : (deleteAppRightRecord env.toStoreEnv userId bundleName db').1 with e | u
        · simp [hret, CleanUpRet.ofExcept] at hok
        · rfl
      have hgone := deleteAndNoOtherOperation_gone hdone r hr
      simp [happ.1, happ.2] at hgone
    · exact fun r hr => ⟨hrows ▸ hr, by simp⟩
  | userRemoved =>
    exact fun r hr => ⟨(cleanUpRightUserDeleted_deletes env db).sub r hr, by simp [eventEntries]⟩
  | userStopped code =>
    simp only [onReceiveEvent, eventEntries, List.forall_mem_singleton, Entry.Revokes, cleanUpRightUserStopped]
    intro r hr
    refine ⟨deleteAndNoOtherOperation_sub env.toStoreEnv _ db r hr, fun hok huser => ?_⟩
    have hdone : (deleteUidRightRecord env.toStoreEnv code db).1 = .ok () := by
      rcases hret : (deleteUidRightRecord env.toStoreEnv code db).1 with e | u
      · simp [hret, CleanUpRet.ofExcept] at hok
      · rfl
    have hgone := deleteAndNoOtherOperation_gone hdone r hr
    simp [huser] at hgone

theorem PortOp.step_rights (op : PortOp) (s : ServiceState) : (op.step s).rights = s.rights := by
  have hstart : ∀ serial s, (Service.startSerial serial s).rights = s.rights := by
    intro serial s
    unfold Service.startSerial
    split <;> rfl
  cases op with
  | startSerial serial => exact hstart serial s
  | serialGetPortList env =>
    have htry : (tryStartSerial env s).rights = s.rights := by
      unfold tryStartSerial
      split
      · exact hstart env.serial s
      · rfl
    simp only [PortOp.step, Service.serialGetPortList]
    repeat' split
    all_goals exact htry
  | addUsbSerialDevice env portList d =>
    simp only [PortOp.step, Service.addUsbSerialDevice]
    split <;> rfl
  | dump env hdi callingTokenId argList =>
    simp only [PortOp.step, Service.dump]
    split <;> exact hstart env.serial s

theorem serialOpen_sub (env : RightEnv) (hdi : Int) (added : Bool) (caller : Caller) (portId : Int) (remote : ρ)
    (c : SerialClients ρ) :
    ∀ r ∈ (serialOpen env hdi added caller portId remote c).2.service.rights.rows, r ∈ c.service.rights.rows := by
  have hsub := hasSerialRight_sub env caller portId c.service
  unfold serialOpen
  split
  · rcases hright : hasSerialRight env caller portId c.service with ⟨ret, - | -, s⟩
    all_goals
      rw [hright] at hsub
      dsimp only
    · exact hsub
    · repeat' split
      all_goals exact hsub
  · exact fun r hr => hr

theorem serialClose_rights (hdi : Int) (caller : Caller) (portId : Int) (c : SerialClients ρ) :
    (serialClose hdi caller portId c).2.service.rights = c.service.rights := by
  unfold serialClose
  split <;> rfl

theorem SerialUse.run_rights (hdi : Int) (caller : Caller) (portId : Int) (use : SerialUse) (s : ServiceState) :
    (use.run hdi caller portId s).2.rights = s.rights := by
  have htransfer : ∀ sizeMax transfer dataSize size,
      (serialTransfer sizeMax transfer portId dataSize size s).2.rights = s.rights := by
    intro sizeMax transfer dataSize size
    unfold serialTransfer
    split
    · rfl
    split <;> rfl
  cases use with
  | serialRead dataSize size => exact htransfer _ _ _ _
  | serialWrite dataSize size => exact htransfer _ _ _ _
  | serialGetAttribute => rfl
  | serialSetAttribute => rfl

theorem openAccessory_sub (env : RightEnv) (hdi : AccessoryHdi) (caller : Caller) (access : USBAccessory)
    (c : Clients ρ) :
    ∀ r ∈ (openAccessory env hdi caller access c).2.service.rights.rows, r ∈ c.service.rights.rows := by
  have hsub := hasAccessoryRight_sub env caller access c.service
  unfold openAccessory
  iterate 3
    split
    · exact fun r hr => hr
  split
  all_goals
    rename_i hright
    rw [hright] at hsub
  · split <;> exact hsub
  · exact hsub

theorem closeAccessory_service (hdi : AccessoryHdi) (c : Clients ρ) : (closeAccessory hdi c).2.service = c.service := by
  unfold closeAccessory
  repeat' split
  all_goals rfl

/-! ## One step -/

theorem Grant.entries_logged (env : GrantEnv) (grantor : Grantor) (g : Grant) (s : ServiceState) :
    History.Logged Entry.Grants Entry.Revokes
      (if (g.run env grantor s).1 = .ret .ok then ((g.row? env grantor s).map (Entry.granted grantor env.now)).toList
        else [])
      s.rights.rows (g.run env grantor s).2.rights.rows := by
  refine ⟨fun r hr => ?_⟩
  rcases g.run_stored env grantor s r hr with hold | ⟨hok, hpermission, hrow⟩
  · refine .inr ⟨hold, fun e he => ?_⟩
    split at he
    · obtain ⟨row, -, rfl⟩ := Option.map_eq_some_iff.mp (Option.mem_toList.mp he)
      exact id
    · exact absurd he List.not_mem_nil
  · rw [if_pos hok, hrow]
    obtain ⟨key, -, hkey⟩ := Option.bind_eq_some_iff.mp hrow
    split at hkey
    · cases hkey
    · refine .inl (History.stands_of_writes ⟨rfl, hpermission, ?_⟩ [])
      rw [← Option.some.inj hkey]
      simp only [UsbRightAppInfo.values, grantInfo, and_self]

section

variable [DecidableEq ρ] (a : Action ρ) (c : Clients ρ)

theorem Action.run_rows (h : ∀ env grantor g, a ≠ .grant env grantor g) :
    ∀ r ∈ (a.run c).service.rights.rows, r ∈ c.service.rights.rows := by
  intro r hr
  cases a with
  | grant env grantor g => exact absurd rfl (h env grantor g)
  | remove env caller x => exact (x.run_taken env caller c.service r hr).1
  | hasRight env caller deviceName => exact (hasRight_deletes env caller deviceName c.service).sub r hr
  | hasSerialRight env caller portId => exact hasSerialRight_sub env caller portId c.service r hr
  | hasAccessoryRight env caller access => exact hasAccessoryRight_sub env caller access c.service r hr
  | addDevice env dev => exact addDevice_rights env dev c.service ▸ hr
  | delDevice env rightEnv caller dev => exact (delDevice_deletes env rightEnv caller dev c.service).sub r hr
  | event env e => exact (onReceiveEvent_takes env e c.service.rights r hr).1
  | initUsbRight env => exact (initUsbRight_deletes env c.service).sub r hr
  | restart usbRightManager => exact hr
  | operate env caller dev op => exact (op.run_mediates env caller dev c).rows r hr
  | remoteDied hdi cb => exact hr
  | ports op => exact op.step_rights c.service ▸ hr
  | serialOpen env hdi added caller portId remote =>
    exact serialOpen_sub env hdi added caller portId remote c.serial r hr
  | serialClose hdi caller portId => exact serialClose_rights hdi caller portId c.serial ▸ hr
  | serialUse hdi caller portId use => exact use.run_rights hdi caller portId c.service ▸ hr
  | serialDied env selfTokenId remote =>
    exact (foldl_onRemoteDied_sameRights env selfTokenId (c.serialRecipients.filter fun r => r.remote = remote)
      c.service).rights ▸ hr
  | accessory m => exact hr
  | openAccessory env hdi caller access => exact openAccessory_sub env hdi caller access c r hr
  | closeAccessory hdi => exact closeAccessory_service hdi c ▸ hr

theorem Action.run_not_revokes : ∀ r ∈ (a.run c).service.rights.rows, ∀ e ∈ a.entries c, ¬ e.Revokes r := by
  intro r hr e he
  cases a.enters c he with
  | removed env caller x key hkey => exact Bool.eq_false_iff.mp ((x.run_taken env caller c.service r hr).2 key hkey)
  | bundleRemoved env uid bundleName hok =>
    exact (onReceiveEvent_takes env _ c.service.rights r hr).2 hok _ (List.mem_singleton.mpr rfl)
  | userStopped env uid hok =>
    exact (onReceiveEvent_takes env _ c.service.rights r hr).2 hok _ (List.mem_singleton.mpr rfl)
  | _ => exact id

theorem Action.run_logged :
    History.Logged Entry.Grants Entry.Revokes (a.entries c) c.service.rights.rows (a.run c).service.rights.rows := by
  by_cases hgrant : ∃ env grantor g, a = .grant env grantor g
  · obtain ⟨env, grantor, g, rfl⟩ := hgrant
    exact g.entries_logged env grantor c.service
  · have hrows := a.run_rows c fun env grantor g heq => hgrant ⟨env, grantor, g, heq⟩
    exact ⟨fun r hr => .inr ⟨hrows r hr, a.run_not_revokes c r hr⟩⟩

end

/-! ## Who passes the check -/

theorem live_granted {time now : UInt64} {key : RightKey} {r : RightRow} (hrequest : r.requestTime = putLong time)
    (hperiod : r.validPeriod = putLong usbRightValidPeriodSet) (h : live now key r = true) :
    r.hasKey key = true ∧ time ≤ now ∧ now.toNat - time.toNat < usbRightValidPeriodSet.toNat := by
  simp only [live, Bool.and_eq_true, Bool.not_eq_true'] at h
  obtain ⟨hkey, hexpired⟩ := h
  unfold isRowExpired at hexpired
  simp only [hrequest, hperiod, ofInt_putLong] at hexpired
  have hmin : usbRightValidPeriodSet ≠ UInt64.ofInt usbRightValidPeriodMin := by decide
  have hmax : usbRightValidPeriodSet ≠ UInt64.ofInt usbRightValidPeriodMax := by decide
  rw [if_neg hmin, if_neg hmax] at hexpired
  split at hexpired
  · cases hexpired
  rename_i hpast
  have hle : time ≤ now := UInt64.not_lt.mp hpast
  split at hexpired
  · rename_i hyoung
    refine ⟨hkey, hle, ?_⟩
    rw [← UInt64.toNat_sub_of_le now time hle]
    exact UInt64.lt_iff_toNat_lt.mp hyoung
  · cases hexpired

section

variable {log : List Entry} {env : RightEnv} {caller : Caller} {info : CallingInfo} {name tokenId : String} {db : RightDb}
  (hinfo : getCallingInfo caller = some info)
  (htable : ∀ r ∈ db.rows, History.Stands Entry.Grants Entry.Revokes log r)
include hinfo htable

theorem holder_of_hasRight (h : (Rights.hasRight env (info.key name tokenId) db).1 = true) :
    Holder log caller env.now name tokenId := by
  obtain ⟨⟨bundleName, userId⟩, hhap, rfl⟩ := Option.map_eq_some_iff.mp hinfo
  by_cases huser : userId = usbRightUseridConsole
  · exact .console bundleName (huser ▸ hhap)
  obtain ⟨r, hr, hlive⟩ := (hasRight_sound env _ huser db).2 h
  obtain ⟨newer, e, older, rfl, hgrants, hkept⟩ := htable r hr
  cases e with
  | granted grantor time row =>
    obtain ⟨rfl, hpermission, hrequest, hperiod⟩ := hgrants
    obtain ⟨hkey, hfresh⟩ := live_granted hrequest hperiod hlive
    simp only [RightRow.hasKey, Bool.and_eq_true, decide_eq_true_eq] at hkey
    obtain ⟨⟨⟨huid, hname⟩, hbundle⟩, htoken⟩ := hkey
    exact .granted bundleName userId hhap newer older grantor time r rfl hpermission ⟨huid, hname, hbundle, htoken⟩
      hfresh hkept
  | _ => exact absurd hgrants id

theorem authorized_of_hasEitherRight (h : (hasEitherRight env name info db).1 = true) :
    Authorized log caller env.now name := by
  have htoken : info.tokenId = tokenIdText caller.tokenId := by
    obtain ⟨hap, -, rfl⟩ := Option.map_eq_some_iff.mp hinfo
    rfl
  have hsub := (Rights.hasRight_deletes env (info.key name info.tokenId) db).sub
  unfold hasEitherRight at h
  rcases hown : Rights.hasRight env (info.key name info.tokenId) db with ⟨- | -, db'⟩
  · rw [hown] at h hsub
    exact .default (holder_of_hasRight hinfo (fun r hr => htable r (hsub r hr)) h)
  · exact .own (htoken ▸ holder_of_hasRight hinfo htable (by rw [hown]))

end

section

variable {log : List Entry} {env : RightEnv} {caller : Caller} {s : ServiceState}
  (htable : ∀ r ∈ s.rights.rows, History.Stands Entry.Grants Entry.Revokes log r)
include htable

theorem hasRight_authorized {deviceName : String} (h : (hasRight env caller deviceName s).1 = true) :
    ∃ name, s.deviceVidPidMap.find? deviceName = some name ∧ Authorized log caller env.now name := by
  unfold hasRight at h
  split at h
  · cases h
  split at h
  · cases h
  rename_i name hname
  refine ⟨name, hname, ?_⟩
  split at h
  · rename_i hsystem
    exact .system hsystem
  split at h
  · cases h
  rename_i info hinfo
  exact authorized_of_hasEitherRight hinfo htable h

theorem hasSerialRight_authorized {portId : Int} (h : (hasSerialRight env caller portId s).2.1 = true) :
    ∃ name, (s.serialVidPidMap.find? portId).map Prod.snd = some name ∧ Authorized log caller env.now name := by
  unfold hasSerialRight at h
  split at h
  · cases h
  split at h
  · split at h
    · cases h
    rename_i busDev name hname
    refine ⟨name, by rw [hname]; rfl, ?_⟩
    split at h
    · rename_i hsystem
      exact .system hsystem
    split at h
    · cases h
    rename_i info hinfo
    exact authorized_of_hasEitherRight hinfo htable h
  · cases h

theorem hasAccessoryRight_holder {access : USBAccessory} {s' : ServiceState}
    (h : hasAccessoryRight env caller access s = (.ok true, s')) :
    ∃ name, accessoryName? caller access s = some name ∧
      Holder log caller env.now name (tokenIdText caller.tokenId) := by
  unfold hasAccessoryRight at h
  split at h
  · cases h
  split at h
  · cases h
  rename_i m hm
  split at h
  · cases h
  rename_i info hinfo
  split at h
  · cases h
  rename_i serialNum hserial
  have htoken : info.tokenId = tokenIdText caller.tokenId := by
    obtain ⟨hap, -, rfl⟩ := Option.map_eq_some_iff.mp hinfo
    rfl
  refine ⟨serialNum, by simp [accessoryName?, hm, hinfo, hserial, Except.toOption], ?_⟩
  simp only [Prod.mk.injEq, Except.ok.injEq] at h
  exact htoken ▸ holder_of_hasRight hinfo htable h.1

end

/-! ## Every run -/

theorem newCalls_eq {c c' : Clients ρ} {new : List (UsbDev × Client.DeviceCall)}
    (h : c'.host.hdiCalls = c.host.hdiCalls ++ new) : newCalls c c' = new := by
  simp [newCalls, h]

theorem filterMap_call?_map {α : Type} (f : α → Entry) (g : α → UsbDev × Client.DeviceCall)
    (hf : ∀ a, (f a).call? = some (g a)) (l : List α) : (l.map f).filterMap Entry.call? = l.map g := by
  induction l with
  | nil => rfl
  | cons a l ih => simp [hf, ih]

/-- The actions that call HDI for a device. -/
def Action.calls : Action ρ → Prop
  | .operate _ _ _ _ | .remoteDied _ _ => True
  | _ => False

theorem Action.run_host [DecidableEq ρ] (a : Action ρ) (h : ¬ a.calls) (c : Clients ρ) :
    (a.run c).host.hdiCalls = c.host.hdiCalls ∧ ∀ r ∈ (a.run c).host.recipients, r ∈ c.host.recipients := by
  cases a with
  | operate env caller dev op => exact absurd trivial h
  | remoteDied hdi cb => exact absurd trivial h
  | restart usbRightManager => exact ⟨rfl, fun r hr => absurd hr List.not_mem_nil⟩
  | openAccessory env hdi caller access =>
    have hhost : (Action.run (.openAccessory env hdi caller access) c).host = c.host :=
      (openAccessory_frame env hdi caller access c).2
    rw [hhost]
    exact ⟨rfl, fun r hr => hr⟩
  | closeAccessory hdi =>
    have hhost : (Action.run (.closeAccessory hdi) c).host = c.host := by
      simp only [Action.run, Service.closeAccessory]
      repeat' split
      all_goals rfl
    rw [hhost]
    exact ⟨rfl, fun r hr => hr⟩
  | _ => exact ⟨rfl, fun r hr => hr⟩

theorem Action.run_calls [DecidableEq ρ] (a : Action ρ) (c : Clients ρ) :
    (a.run c).host.hdiCalls = c.host.hdiCalls ++ (a.entries c).reverse.filterMap Entry.call? := by
  by_cases hcalls : a.calls
  · cases a with
    | operate env caller dev op =>
      obtain ⟨calls, hsends, -⟩ := (op.run_mediates env caller dev c).calls
      simp only [Action.entries, Action.run, List.reverse_reverse]
      rw [newCalls_eq hsends.sent, filterMap_call?_map _ id (fun _ => rfl), List.map_id]
      exact hsends.sent
    | remoteDied hdi cb =>
      obtain ⟨new, hnew, -⟩ := Client.foldl_onRemoteDied_hdiCalls hdi (c.host.recipients.filter fun r => r.cb = cb)
        c.host
      have hgrown : (Action.run (.remoteDied hdi cb) c).host.hdiCalls = c.host.hdiCalls ++ new := hnew
      simp only [Action.entries, List.reverse_reverse]
      rw [newCalls_eq hgrown, filterMap_call?_map _ id (fun _ => rfl), List.map_id]
      exact hgrown
    | _ => exact absurd hcalls id
  · have hnone : (a.entries c).reverse.filterMap Entry.call? = [] := by
      rw [List.filterMap_eq_nil_iff]
      intro e he
      rcases a.enters c (List.mem_reverse.mp he)
      case served => exact absurd trivial hcalls
      case cancelled => exact absurd trivial hcalls
      all_goals rfl
    rw [hnone, List.append_nil]
    exact (a.run_host hcalls c).1

/-- A transfer that may still be cancelled was submitted for a client. -/
def Submitted (log : List Entry) (r : Client.UsbSubmitTransferDeathRecipient ρ) : Prop :=
  ∃ caller now name info ashmem, .served caller now name r.devInfo (.usbSubmitTransfer info ashmem) ∈ log ∧
    info.endpoint = r.endpoint

structure Mediation.Sound (m : Mediation ρ) : Prop where
  calls : m.clients.host.hdiCalls = m.log.reverse.filterMap Entry.call?
  table : ∀ r ∈ m.clients.service.rights.rows, History.Stands Entry.Grants Entry.Revokes m.log r
  recipients : ∀ r ∈ m.clients.host.recipients, Submitted m.log r
  owners : ∀ p t, owner? m.clients.service p = some t → lastOpener? p m.log = some t
  justified : History.Sound Entry.Justified m.log

theorem Entry.Justified.cancelled {log : List Entry} {r : Client.UsbSubmitTransferDeathRecipient ρ}
    (h : Submitted log r) {dev : UsbDev} {call : Client.DeviceCall} (hcall : (dev, call) ∈ r.calls) (more : List Entry) :
    Entry.Justified (more ++ log) (.cancelled dev call) := by
  obtain ⟨caller, now, name, info, ashmem, hmem, hendpoint⟩ := h
  have hmem' := List.mem_append_right more hmem
  simp only [Client.UsbSubmitTransferDeathRecipient.calls, List.mem_cons, Prod.mk.injEq, List.not_mem_nil, or_false]
    at hcall
  rcases hcall with ⟨rfl, rfl⟩ | ⟨rfl, rfl⟩
  · exact ⟨caller, now, name, info, ashmem, hmem', .inl (by rw [hendpoint])⟩
  · exact ⟨caller, now, name, info, ashmem, hmem', .inr rfl⟩

theorem Submitted.append_left {log : List Entry} {r : Client.UsbSubmitTransferDeathRecipient ρ} (h : Submitted log r)
    (new : List Entry) : Submitted (new ++ log) r := by
  obtain ⟨caller, now, name, info, ashmem, hmem, hendpoint⟩ := h
  exact ⟨caller, now, name, info, ashmem, List.mem_append_right new hmem, hendpoint⟩

theorem Action.entries_short [DecidableEq ρ] (a : Action ρ) (c : Clients ρ)
    (hdied : ∀ hdi cb, a ≠ .remoteDied hdi cb) (hports : ∀ op, a ≠ .ports op) :
    (a.entries c).length ≤ 1 := by
  cases a with
  | grant env grantor g =>
    simp only [Action.entries]
    split
    · rcases g.row? env grantor c.service with - | row <;> simp
    · simp
  | remove env caller x =>
    simp only [Action.entries]
    rcases x.removed? env caller c.service with - | key <;> simp
  | event env e =>
    simp only [Action.entries]
    split
    · cases e <;> simp [eventEntries]
    · simp
  | operate env caller dev op =>
    obtain ⟨calls, hsends, -⟩ := (op.run_mediates env caller dev c).calls
    simpa [Action.entries, Action.run, newCalls_eq hsends.sent] using hsends.once
  | remoteDied hdi cb => exact absurd rfl (hdied hdi cb)
  | ports op => exact absurd rfl (hports op)
  | serialOpen env hdi added caller portId remote =>
    simp only [Action.entries]
    split <;> simp
  | serialUse hdi caller portId use =>
    simp only [Action.entries]
    split <;> simp
  | openAccessory env hdi caller access =>
    simp only [Action.entries]
    split <;> simp
  | _ => exact Nat.zero_le 1

section

variable [DecidableEq ρ] (a : Action ρ) {m : Mediation ρ} (h : m.Sound)
include h

theorem Action.step_table : ∀ r ∈ (a.step m).clients.service.rights.rows,
    History.Stands Entry.Grants Entry.Revokes (a.step m).log r := by
  intro r hr
  exact (a.run_logged m.clients).append hr (h.table r)

theorem Action.step_calls :
    (a.step m).clients.host.hdiCalls = (a.step m).log.reverse.filterMap Entry.call? := by
  simp only [Action.step, a.run_calls m.clients, h.calls, List.reverse_append, List.filterMap_append]

theorem Action.step_recipients : ∀ r ∈ (a.step m).clients.host.recipients, Submitted (a.step m).log r := by
  intro r hr
  by_cases hcalls : a.calls
  · cases a with
    | operate env caller dev op =>
      obtain ⟨calls, hsends, -⟩ := (op.run_mediates env caller dev m.clients).calls
      rcases hsends.recipients r hr with hold | ⟨hdev, info, ashmem, hmem, hendpoint⟩
      · exact (h.recipients r hold).append_left _
      · refine ⟨caller, env.rightEnv.now, m.clients.service.deviceVidPidMap.find? dev.name, info, ashmem,
          List.mem_append_left _ ?_, hendpoint⟩
        simp only [Action.entries, Action.run, newCalls_eq hsends.sent, List.mem_reverse, List.map_map]
        exact List.mem_map.mpr ⟨_, hmem, by rw [hdev]; rfl⟩
    | remoteDied hdi cb => exact (h.recipients r (List.mem_of_mem_filter hr)).append_left _
    | _ => exact absurd hcalls id
  · exact (h.recipients r ((a.run_host hcalls m.clients).2 r hr)).append_left _

theorem Action.step_owners (p : Int) (t : UInt32) (howner : owner? (a.step m).clients.service p = some t) :
    lastOpener? p (a.step m).log = some t := by
  unfold Action.step lastOpener?
  dsimp only
  rw [List.findSome?_append]
  rcases a.run_opener m.clients howner with hnew | ⟨hnone, hold⟩
  · rw [hnew]
    rfl
  · rw [hnone]
    exact h.owners p t hold

/-- The log before a step gives the reason for what the step logs. -/
theorem Enters.justified {a : Action ρ} {e : Entry} (he : Enters m.clients a e)
    (hdied : ∀ hdi cb, a ≠ .remoteDied hdi cb) : e.Justified m.log := by
  cases he with
  | served env caller dev dev' op call hcall =>
    obtain ⟨calls, hsends, hright⟩ := (op.run_mediates env caller dev m.clients).calls
    rw [newCalls_eq hsends.sent] at hcall
    obtain ⟨call', hmem, heq⟩ := List.mem_map.mp hcall
    obtain ⟨rfl, rfl⟩ := Prod.mk.inj heq
    exact (hright call' hmem).imp id (hasRight_authorized h.table)
  | cancelled hdi cb dev call hcall => exact absurd rfl (hdied hdi cb)
  | opened env hdi added caller portId remote hok =>
    have houtcome := serialOpen_outcome env hdi added caller portId remote m.clients.serial
    generalize Service.serialOpen env hdi added caller portId remote m.clients.serial = result at hok houtcome
    cases houtcome with
    | stopped ret s _ hret _ => exact absurd hok hret
    | refused ret s _ _ hret _ => exact absurd hok hret
    | opened s hreach _ _ =>
      simp only [reachesManager, Bool.and_eq_true] at hreach
      exact hasSerialRight_authorized h.table hreach.1.2
  | used hdi caller portId use hok =>
    exact h.owners portId caller.tokenId ((use.run_owner hdi caller portId m.clients.service).2 hok)
  | accessoryOpened env hdi caller access fd hok =>
    have hright : ∃ s', hasAccessoryRight env caller access m.clients.service = (.ok true, s') := by
      unfold openAccessory at hok
      iterate 3
        split at hok
        · cases hok
      split at hok
      · exact ⟨_, ‹_›⟩
      · cases hok
    obtain ⟨s', hs'⟩ := hright
    exact hasAccessoryRight_holder h.table hs'
  | _ => trivial

theorem Action.step_justified : History.Sound Entry.Justified (a.step m).log := by
  by_cases hdied : ∃ hdi cb, a = .remoteDied hdi cb
  · obtain ⟨hdi, cb, rfl⟩ := hdied
    obtain ⟨new, hnew, hof⟩ := Client.foldl_onRemoteDied_hdiCalls hdi
      (m.clients.host.recipients.filter fun r => r.cb = cb) m.clients.host
    refine h.justified.append fun e he more => ?_
    cases Action.enters _ m.clients he with
    | cancelled _ _ dev call hcall =>
      rw [newCalls_eq (show Client.ClientState.hdiCalls _ = _ from hnew)] at hcall
      obtain ⟨r, hr, hcall⟩ := hof (dev, call) hcall
      exact .cancelled (h.recipients r (List.mem_of_mem_filter hr)) hcall more
  · have hdied : ∀ hdi cb, a ≠ .remoteDied hdi cb := fun hdi cb heq => hdied ⟨hdi, cb, heq⟩
    by_cases hports : ∃ op, a = .ports op
    · obtain ⟨op, rfl⟩ := hports
      refine h.justified.append fun e he more => ?_
      cases Action.enters _ m.clients he
      trivial
    · refine h.justified.append_short (a.entries_short m.clients hdied fun op heq => hports ⟨op, heq⟩) fun e he => ?_
      exact (a.enters m.clients he).justified h hdied

end

theorem Mediation.started_sound {m : Mediation ρ} (h : m.started) : m.Sound := by
  obtain ⟨hrows, hfree, hhost, hlog⟩ := h
  constructor
  · rw [hhost, hlog]
    rfl
  · intro r hr
    rw [hrows] at hr
    exact absurd hr List.not_mem_nil
  · intro r hr
    rw [hhost] at hr
    exact absurd hr List.not_mem_nil
  · intro p t howner
    rw [hfree p] at howner
    cases howner
  · rw [hlog]
    exact History.sound_nil

theorem mediation_sound [DecidableEq ρ] {m : Mediation ρ}
    (h : Run.Reachable Mediation.started Action.step (fun _ _ => True) m) : m.Sound := by
  refine h.invariant (fun m hm => Mediation.started_sound hm) fun a m _ hm => ?_
  exact ⟨a.step_calls hm, a.step_table hm, a.step_recipients hm, a.step_owners hm, a.step_justified hm⟩

def systemUi : Grantor := ⟨⟨1, true, some ("com.example.systemui", 100)⟩, true, none⟩

def holder : Caller := ⟨537, false, some ("com.example.reader", 100)⟩

/-- An application without a right. -/
def stranger : Caller := ⟨538, false, some ("com.example.camera", 100)⟩

/-- HDI does everything that it is asked. -/
def obliging : OperationEnv := ⟨oneReader.toRightEnv, true, ⟨true, fun _ _ _ => (.ok, {})⟩, 0⟩

/-- A device is plugged in, an application gets the right, submits a transfer and dies; another one without the right
asks for the speed and is refused the device. -/
def holderRun : List (Action Nat) :=
  [.addDevice (plugged 7) ⟨1, 2⟩, .grant oneReader systemUi (.addAccessRight "537" "1-2"),
    .operate obliging holder ⟨1, 2⟩ (.usbSubmitTransfer true ⟨129, 0, 2, 0, 8, 0, 0⟩ (some 5) 3 8),
    .operate obliging stranger ⟨1, 2⟩ .getDeviceSpeed, .operate obliging stranger ⟨1, 2⟩ .openDevice,
    .remoteDied obliging.hdi 5]

def holderDied : Mediation Nat := holderRun.foldl (fun m a => a.step m) ⟨⟨justStarted, .empty, [], 0, []⟩, []⟩

theorem holderDied_reachable : Run.Reachable Mediation.started Action.step (fun _ _ => True) holderDied :=
  .step _ (.step _ (.step _ (.step _ (.step _ (.step _ (.init ⟨rfl, fun _ => rfl, rfl, rfl⟩) trivial) trivial) trivial)
    trivial) trivial) trivial

/-- A port is used only by the client of its latest open, which had the right when it opened the port. The way around
the check is a dump. -/
theorem serial_use_mediated [DecidableEq ρ] (m : Mediation ρ)
    (h : Run.Reachable Mediation.started Action.step (fun _ _ => True) m) (hdi : Int) (caller : Caller) (portId : Int)
    (use : SerialUse) (hok : (use.run hdi caller portId m.clients.service).1 = .ok) :
    ∃ newer e older, m.log = newer ++ e :: older ∧ (∀ e' ∈ newer, e'.opener? portId = none) ∧
      (e = .dumped caller.tokenId portId ∨
        ∃ opener now n, e = .opened opener now (some n) portId ∧ opener.tokenId = caller.tokenId ∧
          Authorized older opener now n) := by
  have hsound := mediation_sound h
  have howner := (use.run_owner hdi caller portId m.clients.service).2 hok
  obtain ⟨newer, e, older, hlog, hopener, hnewer⟩ :=
    List.findSome?_eq_some_iff.mp (hsound.owners portId caller.tokenId howner)
  refine ⟨newer, e, older, hlog, hnewer, ?_⟩
  have hjustified := hsound.justified newer e older hlog
  cases e with
  | opened opener now name p =>
    obtain ⟨n, rfl, hauthorized⟩ := hjustified
    simp only [Entry.opener?, Option.ite_none_right_eq_some, Option.some.injEq] at hopener
    obtain ⟨rfl, htoken⟩ := hopener
    exact .inr ⟨opener, now, n, rfl, htoken, hauthorized⟩
  | dumped tokenId p =>
    simp only [Entry.opener?, Option.ite_none_right_eq_some, Option.some.injEq] at hopener
    obtain ⟨rfl, rfl⟩ := hopener
    exact .inl rfl
  | _ => cases hopener

/-- A port is found, a dump opens it and closes it again, the holder gets the right for it and opens it. -/
def portRun : List (Action Nat) :=
  [.ports (.serialGetPortList ⟨true, true, (.ok, [⟨3, 1, 2, 7, 1, " "⟩])⟩),
    .ports (.dump ⟨true, true, (.ok, [])⟩ (fun _ => ⟨0, 0, 0⟩) 2000 ["-g", "3"]),
    .grant oneReader systemUi (.addSerialRight 537 3), .serialOpen oneReader.toRightEnv 0 true holder 3 9]

def portOpened : Mediation Nat := portRun.foldl (fun m a => a.step m) ⟨⟨justStarted, .empty, [], 0, []⟩, []⟩

theorem serial_use_mediated_holder :
    (SerialUse.run 8 holder 3 (.serialRead 8 8) portOpened.clients.service).1 = .ok ∧
    ∃ newer e older, portOpened.log = newer ++ e :: older ∧ (∀ e' ∈ newer, e'.opener? 3 = none) ∧
      (e = .dumped holder.tokenId 3 ∨
        ∃ opener now n, e = .opened opener now (some n) 3 ∧ opener.tokenId = holder.tokenId ∧
          Authorized older opener now n) := by
  have hok : (SerialUse.run 8 holder 3 (.serialRead 8 8) portOpened.clients.service).1 = .ok := by decide +kernel
  refine ⟨hok, serial_use_mediated portOpened ?_ 8 holder 3 (.serialRead 8 8) hok⟩
  exact .step _ (.step _ (.step _ (.step _ (.init ⟨rfl, fun _ => rfl, rfl, rfl⟩) trivial) trivial) trivial) trivial

end UsbManager.Service
