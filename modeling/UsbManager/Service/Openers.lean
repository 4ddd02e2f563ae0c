import UsbManager.Service.Machine

/-!
# Owners of the serial ports

What each action of the service does to the owners of the ports. Only `SerialOpen` and a dump give a port an owner, and
the log names it.
-/

namespace UsbManager.Service

open Rights Serial Accessory Host

/-! ## Actions that only change the rights -/

theorem Grant.run_frame (env : GrantEnv) (grantor : Grantor) (g : Grant) (s : ServiceState) :
    ∃ db, (g.run env grantor s).2 = s.setRights db := by
  cases g
  all_goals
    simp only [Grant.run, Service.addRight, Service.addAccessRight, Service.addSerialRight, Service.addAccessoryRight]
    repeat' split
    all_goals exact ⟨_, rfl⟩

theorem hasAccessoryRight_frame (env : RightEnv) (caller : Caller) (access : USBAccessory) (s : ServiceState) :
    ∃ db, (hasAccessoryRight env caller access s).2 = s.setRights db := by
  unfold hasAccessoryRight
  repeat' split
  all_goals exact ⟨_, rfl⟩

theorem addDevice_serial (env : Env) (dev : UsbDev) (s : ServiceState) :
    (addDevice env dev s).2.usbSerialManager = s.usbSerialManager := by
  unfold addDevice
  dsimp only
  split <;> rfl

theorem delDevice_serial (env : Env) (rightEnv : RightEnv) (caller : Caller) (dev : UsbDev) (s : ServiceState) :
    (delDevice env rightEnv caller dev s).2.usbSerialManager = s.usbSerialManager := by
  obtain ⟨db, hdb⟩ := hasRight_frame rightEnv caller dev.name s
  have hclose : (close env rightEnv caller dev s).2.usbSerialManager = s.usbSerialManager := by
    unfold close
    simp only [hdb]
    split <;> rfl
  unfold delDevice
  dsimp only
  split <;> exact hclose

/-! ## Owners -/

/-- No port has a new owner. -/
def KeepsOwners (s s' : ServiceState) : Prop := ∀ p t, owner? s' p = some t → owner? s p = some t

theorem KeepsOwners.of_same {s s' : ServiceState} (h : s'.usbSerialManager = s.usbSerialManager) : KeepsOwners s s' := by
  intro p t howner
  rwa [owner?, h] at howner

theorem KeepsOwners.of_frame {s s' : ServiceState} (h : ∃ db, s' = s.setRights db) : KeepsOwners s s' := by
  obtain ⟨db, rfl⟩ := h
  exact .of_same rfl

theorem closeSerial_keepsOwners (hdi : Int) (caller : Caller) (portId : Int) (s : ServiceState) :
    KeepsOwners s (closeSerial hdi caller portId s) := by
  intro p t howner
  unfold owner? closeSerial at howner
  rcases hm : s.usbSerialManager with - | m
  · simp [hm] at howner
  simp only [hm, Option.map_some, Option.bind_some] at howner
  rw [owner?_eq hm]
  obtain ⟨e, he⟩ | ⟨-, hok⟩ := serialClose_cases hdi caller.tokenId portId m
  · rwa [he] at howner
  · rw [hok, release_find?] at howner
    split at howner
    · cases howner
    · exact howner

theorem Removal.run_keepsOwners (env : RightEnv) (caller : Caller) (x : Removal) (s : ServiceState) :
    KeepsOwners s (x.run env caller s).2 := by
  cases x with
  | removeRight deviceName =>
    apply KeepsOwners.of_frame
    simp only [Removal.run, Service.removeRight]
    repeat' split
    all_goals exact ⟨_, rfl⟩
  | cancelAccessoryRight access =>
    apply KeepsOwners.of_frame
    simp only [Removal.run, Service.cancelAccessoryRight]
    repeat' split
    all_goals exact ⟨_, rfl⟩
  | cancelSerialRight hdi portId =>
    simp only [Removal.run, Service.cancelSerialRight]
    repeat' split
    any_goals exact .of_same rfl
    exact closeSerial_keepsOwners hdi caller portId _

theorem SerialUse.run_owner (hdi : Int) (caller : Caller) (portId : Int) (use : SerialUse) (s : ServiceState) :
    KeepsOwners s (use.run hdi caller portId s).2 ∧
      ((use.run hdi caller portId s).1 = .ok → owner? s portId = some caller.tokenId) := by
  have htransfer : ∀ sizeMax kind dataSize size,
      KeepsOwners s (serialTransfer sizeMax (Serial.serialTransfer (queryAndRecordFirst kind) hdi caller.tokenId portId)
        portId dataSize size s).2 ∧
      ((serialTransfer sizeMax (Serial.serialTransfer (queryAndRecordFirst kind) hdi caller.tokenId portId)
        portId dataSize size s).1.ret = .ok → owner? s portId = some caller.tokenId) := by
    intro sizeMax kind dataSize size
    unfold serialTransfer
    split
    · exact ⟨.of_same rfl, fun h => by cases h⟩
    split
    · rename_i m _ hm
      obtain ⟨e, he⟩ | ⟨howner, hok⟩ := serialTransfer_cases hdi caller.tokenId portId m (queryAndRecordFirst kind)
      · rw [he]
        exact ⟨.of_same hm.symm, fun h => by cases h⟩
      · rw [hok]
        refine ⟨fun p t hp => ?_, fun _ => (owner?_eq hm portId).trans howner⟩
        rw [owner?_eq hm, ← record_portTokenMap m kind portId]
        exact hp
    · rename_i ret _ hnot
      refine ⟨.of_same rfl, fun h => ?_⟩
      rcases hm : s.usbSerialManager with - | m
      · simp [validateUsbSerialManagerAndPort, hm] at h
      · exact absurd hm (hnot m h)
  have hattribute : Service.serialGetAttribute hdi caller portId s = .ok → owner? s portId = some caller.tokenId := by
    intro h
    unfold Service.serialGetAttribute at h
    split at h
    · rename_i m _ hm
      rw [owner?_eq hm]
      exact serialAttribute_ok hdi caller.tokenId portId m h
    · rename_i ret _ hnot
      rcases hm : s.usbSerialManager with - | m
      · simp [validateUsbSerialManagerAndPort, hm] at h
      · exact absurd hm (hnot m h)
  cases use with
  | serialRead dataSize size => exact htransfer serialReadSizeMax .read dataSize size
  | serialWrite dataSize size => exact htransfer serialWriteSizeMax .write dataSize size
  | serialGetAttribute => exact ⟨.of_same rfl, hattribute⟩
  | serialSetAttribute => exact ⟨.of_same rfl, hattribute⟩

/-! ## Dumps -/

theorem startSerial_keepsOwners (serial : Bool) (s : ServiceState) : KeepsOwners s (startSerial serial s) := by
  intro p t howner
  unfold startSerial at howner
  split at howner
  · exact howner
  · simp [owner?, SerialManager.new] at howner

theorem serialGetPortList_portTokenMap (hdi : Ret × List SerialPort) (m : SerialManager) :
    (Serial.serialGetPortList hdi m).2.2.portTokenMap = m.portTokenMap := by
  obtain ⟨-, heq⟩ | ⟨-, ret, list, -, heq⟩ := serialGetPortList_cases hdi m
  · rw [heq]
    rfl
  · rw [heq]

theorem serialGetPortList_keepsOwners (env : SerialEnv) (s : ServiceState) :
    KeepsOwners s (serialGetPortList env s).2.2 := by
  have htry : KeepsOwners s (tryStartSerial env s) := by
    unfold tryStartSerial
    split
    · exact startSerial_keepsOwners env.serial s
    · exact .of_same rfl
  intro p t howner
  refine htry p t ?_
  unfold serialGetPortList at howner
  dsimp only at howner
  cases hm : (tryStartSerial env s).usbSerialManager with
  | none => simpa [hm] using howner
  | some m =>
    have hmap := serialGetPortList_portTokenMap env.portList m
    rw [owner?_eq hm, ← hmap]
    simp only [hm] at howner
    split at howner
    all_goals
      rename_i heq
      rw [heq]
      exact howner

theorem PortOp.step_keepsOwners (op : PortOp) (h : ∀ env hdi tokenId argList, op ≠ .dump env hdi tokenId argList)
    (s : ServiceState) : KeepsOwners s (op.step s) := by
  cases op with
  | startSerial serial => exact startSerial_keepsOwners serial s
  | serialGetPortList env => exact serialGetPortList_keepsOwners env s
  | addUsbSerialDevice env portList d =>
    intro p t howner
    simp only [PortOp.step, Service.addUsbSerialDevice] at howner
    cases hm : s.usbSerialManager with
    | none => simpa [hm] using howner
    | some m =>
      rw [owner?_eq hm, ← serialGetPortList_portTokenMap portList m]
      simp only [hm] at howner
      exact howner
  | dump env hdi tokenId argList => exact absurd rfl (h env hdi tokenId argList)

theorem doDump_openedBy (hdi : Nat → PortHdi) (portList : Ret × List SerialPort) (callingTokenId : UInt32)
    (argList : List String) (m : SerialManager) :
    OpenedBy callingTokenId (doDump hdi portList callingTokenId argList m).1 m
      (doDump hdi portList callingTokenId argList m).2 := by
  unfold doDump
  split
  · refine fun p t howner => .inr ⟨List.not_mem_nil, ?_⟩
    unfold serialPortListDump at howner
    split at howner
    · rwa [← serialGetPortList_portTokenMap portList m]
    · exact howner
  · split
    · exact serialGetAttributeDump_openedBy hdi portList callingTokenId argList m
    · exact .refl callingTokenId m

theorem dumped_opener? (tokenId : UInt32) (opened : List Int) (p : Int) :
    (opened.map fun portId => Entry.dumped tokenId portId).findSome? (Entry.opener? p) =
      if p ∈ opened then some tokenId else none := by
  induction opened with
  | nil => rfl
  | cons portId opened ih =>
    simp only [List.map_cons, List.findSome?_cons, Entry.opener?, List.mem_cons]
    by_cases hp : portId = p
    · simp [hp]
    · simp [hp, Ne.symm hp, ih]

theorem dump_opener (env : SerialEnv) (hdi : Nat → PortHdi) (callingTokenId : UInt32) (argList : List String)
    (s : ServiceState) {p : Int} {t : UInt32} (h : owner? (dump env hdi callingTokenId argList s).2 p = some t) :
    (p ∈ (dump env hdi callingTokenId argList s).1 ∧ t = callingTokenId) ∨
      (p ∉ (dump env hdi callingTokenId argList s).1 ∧ owner? s p = some t) := by
  have hstart := startSerial_keepsOwners env.serial s
  unfold dump at h ⊢
  dsimp only at h ⊢
  cases hm : (startSerial env.serial s).usbSerialManager with
  | none =>
    simp only [hm] at h ⊢
    exact .inr ⟨List.not_mem_nil, hstart p t h⟩
  | some m =>
    simp only [hm] at h ⊢
    refine (doDump_openedBy hdi env.portList callingTokenId argList m p t h).imp id fun hold => ⟨hold.1, hstart p t ?_⟩
    rw [owner?_eq hm]
    exact hold.2

variable {ρ : Type}

theorem openAccessory_frame (env : RightEnv) (hdi : AccessoryHdi) (caller : Caller) (access : USBAccessory)
    (c : Clients ρ) :
    (∃ db, (openAccessory env hdi caller access c).2.service = c.service.setRights db) ∧
      (openAccessory env hdi caller access c).2.host = c.host := by
  obtain ⟨db, hdb⟩ := hasAccessoryRight_frame env caller access c.service
  unfold openAccessory
  iterate 3
    split
    · exact ⟨⟨c.service.rights, rfl⟩, rfl⟩
  split
  all_goals
    rename_i hright
    rw [hright] at hdb
  · split
    · exact ⟨⟨db, hdb⟩, rfl⟩
    · exact ⟨⟨db, hdb⟩, rfl⟩
  · exact ⟨⟨db, hdb⟩, rfl⟩

/-! ## One step -/

variable [DecidableEq ρ]

/-- The entry of an action that opens nothing. -/
def Action.opensNothing : Action ρ → Prop
  | .ports _ | .serialOpen _ _ _ _ _ _ => False
  | _ => True

theorem Action.entries_opener? (a : Action ρ) (h : a.opensNothing) (c : Clients ρ) (p : Int) :
    (a.entries c).findSome? (Entry.opener? p) = none := by
  rw [List.findSome?_eq_none_iff]
  intro e he
  rcases a.enters c he
  case dumped => exact absurd h id
  case opened => exact absurd h id
  all_goals rfl

theorem Action.run_keepsOwners (a : Action ρ) (h : a.opensNothing) (c : Clients ρ) :
    KeepsOwners c.service (a.run c).service := by
  cases a with
  | grant env grantor g => exact .of_frame (g.run_frame env grantor c.service)
  | remove env caller x => exact x.run_keepsOwners env caller c.service
  | hasRight env caller deviceName => exact .of_frame (hasRight_frame env caller deviceName c.service)
  | hasSerialRight env caller portId => exact .of_frame (hasSerialRight_eq env caller portId c.service)
  | hasAccessoryRight env caller access => exact .of_frame (hasAccessoryRight_frame env caller access c.service)
  | addDevice env dev => exact .of_same (addDevice_serial env dev c.service)
  | delDevice env rightEnv caller dev => exact .of_same (delDevice_serial env rightEnv caller dev c.service)
  | event env e => exact .of_same rfl
  | initUsbRight env =>
    apply KeepsOwners.of_same
    simp only [Action.run, Clients.setService, Service.initUsbRight]
    split <;> rfl
  | restart usbRightManager =>
    intro p t howner
    cases howner
  | operate env caller dev op => exact .of_frame (op.run_mediates env caller dev c).service
  | remoteDied hdi cb => exact .of_same rfl
  | serialClose hdi caller portId => exact (serialClose_owner? hdi caller portId c.serial).2
  | serialUse hdi caller portId use => exact (use.run_owner hdi caller portId c.service).1
  | serialDied env selfTokenId remote =>
    intro p t howner
    have hfold := foldl_onRemoteDied_owner? env selfTokenId (c.serialRecipients.filter fun r => r.remote = remote)
      c.service p
    have hdead := hfold.symm.trans howner
    split at hdead
    · cases hdead
    · exact hdead
  | accessory m => exact .of_same rfl
  | openAccessory env hdi caller access => exact .of_frame (openAccessory_frame env hdi caller access c).1
  | closeAccessory hdi =>
    apply KeepsOwners.of_same
    simp only [Action.run, Service.closeAccessory]
    repeat' split
    all_goals rfl
  | ports op => exact absurd h id
  | serialOpen env hdi added caller portId remote => exact absurd h id

theorem Action.run_opener (a : Action ρ) (c : Clients ρ) {p : Int} {t : UInt32}
    (h : owner? (a.run c).service p = some t) :
    (a.entries c).findSome? (Entry.opener? p) = some t ∨
      (a.entries c).findSome? (Entry.opener? p) = none ∧ owner? c.service p = some t := by
  by_cases hnothing : a.opensNothing
  · exact .inr ⟨a.entries_opener? hnothing c p, a.run_keepsOwners hnothing c p t h⟩
  cases a with
  | ports op =>
    cases op with
    | dump env hdi tokenId argList =>
      have hentries : (Action.ports (ρ := ρ) (.dump env hdi tokenId argList)).entries c =
          (Service.dump env hdi tokenId argList c.service).1.map fun portId => .dumped tokenId portId := by
        simp only [Action.entries, PortOp.opened, List.map_map]
        rfl
      rw [hentries, dumped_opener?]
      rcases dump_opener env hdi tokenId argList c.service h with ⟨hp, rfl⟩ | ⟨hp, howner⟩
      · exact .inl (if_pos hp)
      · exact .inr ⟨if_neg hp, howner⟩
    | _ => exact .inr ⟨rfl, PortOp.step_keepsOwners _ (fun _ _ _ _ h => by cases h) c.service p t h⟩
  | serialOpen env hdi added caller portId remote =>
    have houtcome := serialOpen_outcome env hdi added caller portId remote c.serial
    simp only [Action.run, Clients.setSerial] at h
    simp only [Action.entries]
    revert h
    generalize Service.serialOpen env hdi added caller portId remote c.serial = result at houtcome
    intro h
    cases houtcome with
    | stopped ret s _ hret howners =>
      rw [if_neg hret]
      exact .inr ⟨rfl, (howners p).symm.trans h⟩
    | refused ret s _ _ hret howners =>
      rw [if_neg hret]
      exact .inr ⟨rfl, (howners p).symm.trans h⟩
    | opened s _ _ howners =>
      rw [howners] at h
      rw [if_pos rfl, List.findSome?_singleton]
      simp only [Entry.opener?]
      split at h
      · rename_i hp
        exact .inl (by rw [if_pos hp.symm, h])
      · rename_i hp
        exact .inr ⟨if_neg fun h' => hp h'.symm, h⟩
  | _ => exact absurd trivial hnothing

end UsbManager.Service
