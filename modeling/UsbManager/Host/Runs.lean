import UsbManager.Host.Broadcast
import UsbManager.Lib.Run

/-!
# Runs of the host manager

The operations of the manager as one step function, and what holds in every state that a run
reaches. `AddDevice` is the only operation that may break the link between broadcasts and
status, and it does so exactly when a policy enables the new device before it is announced.
-/

namespace UsbManager.Host

/-- The operations of the host manager, each with what it is answered. -/
inductive Op
  | addDevice (env : Env) (d : UsbDevice)
  | delDevice (dev : UsbDev)
  | manageDevice (env : Env) (vendorId productId : Int) (disable : Bool)
  | manageDevicePolicy (env : Env) (trustList : List UsbDeviceId)
  | manageInterfaceType (env : Env) (disableType : List UsbDeviceType) (disable : Bool)
  | manageGlobalInterface (env : Env) (disable : Bool)
  | manageUsbSerialDevice (env : Env) (disable : Bool)
  | executeStrategy (env : Env)

def Op.step : Op → HostState → HostState
  | .addDevice env d, s => (Host.addDevice env d s).2
  | .delDevice dev, s => (Host.delDevice dev s).2
  | .manageDevice env vendorId productId disable, s => (Host.manageDevice env vendorId productId disable s).2
  | .manageDevicePolicy env trustList, s => (Host.manageDevicePolicy env trustList s).2
  | .manageInterfaceType env disableType disable, s => (Host.manageInterfaceType env disableType disable s).2
  | .manageGlobalInterface env disable, s => (Host.manageGlobalInterface env disable s).2
  | .manageUsbSerialDevice env disable, s => (Host.manageUsbSerialDevice env disable s).2
  | .executeStrategy env, s => Host.executeStrategy env s

abbrev Reachable (C : Op → HostState → Prop) : HostState → Prop := Run.Reachable (· = HostState.init) Op.step C

/-! ## Arrival -/

def hasSerialPort (env : Env) (d : UsbDevice) : Bool :=
  match env.serialGetPortList with
  | some (ret, serialList) =>
    ret = .ok && serialList.any fun port => port.busNum = d.busNum && port.devAddr = d.devAddr
  | none => false

theorem addUsbSerialDevice_eq (env : Env) (d : UsbDevice) (s : HostState) :
    ∃ serialDevices, addUsbSerialDevice env d s = { s with serialDevices := serialDevices } ∧
      isUsbSerialDevice serialDevices d = (isUsbSerialDevice s.serialDevices d || hasSerialPort env d) := by
  unfold addUsbSerialDevice hasSerialPort
  rcases env.serialGetPortList with - | ⟨ret, serialList⟩
  · exact ⟨s.serialDevices, rfl, by simp⟩
  simp only
  split_ifs with hret hport hserial
  · exact ⟨s.serialDevices, rfl, by simp [hret]⟩
  · exact ⟨s.serialDevices, rfl, by simp [hserial]⟩
  · refine ⟨s.serialDevices ++ [d.dev], rfl, ?_⟩
    rw [hport]
    simp [isUsbSerialDevice, UsbDevice.dev, not_not.mp hret]
  · exact ⟨s.serialDevices, rfl, by simp [hport]⟩

theorem registerDevice_spec (env : Env) (d : UsbDevice) (s : HostState) :
    (registerDevice env d s).devices.find? d.dev.name = some (d.withStatus .newArrived) ∧
      (∀ k, k ≠ d.dev.name → (registerDevice env d s).devices.find? k = s.devices.find? k) ∧
      (registerDevice env d s).trace = s.trace ++ [.arrived d.dev] ∧
      isUsbSerialDevice (registerDevice env d s).serialDevices d =
        (isUsbSerialDevice s.serialDevices d || hasSerialPort env d) := by
  obtain ⟨serialDevices, heq, hserial⟩ := addUsbSerialDevice_eq env (d.withStatus .newArrived)
    ({ s with devices := (s.devices.erase d.dev.name).insert (d.withStatus .newArrived) }.emit (.arrived d.dev))
  have hreg : registerDevice env d s = _ := heq
  rw [hreg]
  have hfresh : d.dev.name ∉ (s.devices.erase d.dev.name).keys := by
    rw [← DeviceMap.find?_eq_none, DeviceMap.find?_erase, if_pos rfl]
  refine ⟨?_, fun k hk => ?_, rfl, hserial⟩
  · exact (DeviceMap.find?_insert _ _ _).trans (if_pos ⟨rfl, hfresh⟩)
  · refine (DeviceMap.find?_insert _ _ _).trans ?_
    rw [if_neg fun h => hk h.1, DeviceMap.find?_erase, if_neg hk]

theorem BroadcastsAgree.registerDevice {s : HostState} (hs : BroadcastsAgree s) (env : Env) (d : UsbDevice) :
    BroadcastsAgree (registerDevice env d s) := by
  obtain ⟨hfind, hother, htrace, -⟩ := registerDevice_spec env d s
  have hbroadcasts : ∀ dev, broadcasts dev (Host.registerDevice env d s).trace =
      if d.dev = dev then [] else broadcasts dev s.trace := fun dev => by
    rw [htrace, broadcasts_append]
    rfl
  refine hs.update d.dev (fun dev hdev => ?_) hother ?_ fun d' hd' => ?_
  · rw [hbroadcasts, if_neg (Ne.symm hdev)]
  · rw [hbroadcasts, if_pos rfl]
    exact alternates_nil
  · obtain rfl := Option.some.inj (hfind.symm.trans hd')
    rw [hbroadcasts, if_pos rfl]
    simp [UsbDevice.withStatus]

/-! ## Announcement and departure -/

theorem announceDevice_same (name : String) (s : HostState) : SameDevices s (announceDevice name s).2 := by
  unfold announceDevice
  split
  · exact SameDevices.refl s
  · split
    · exact SameDevices.refl s
    · simp only [publishCommonEvent_eq]
      exact SameDevices.modify s _ _ _ (UsbDevice.dev_withStatus _) fun _ => rfl

theorem addDevice_same (env : Env) (d : UsbDevice) (s : HostState) :
    SameDevices (registerDevice env d s) (addDevice env d s).2 :=
  (executeStrategy_acts env (registerDevice env d s)).same.trans (announceDevice_same d.dev.name _)

theorem BroadcastsAgree.announceDevice {s : HostState} (hs : BroadcastsAgree s) (name : String)
    (hnot : ∀ d, s.devices.find? name = some d → d.authorizeStatus ≠ .enabled) :
    BroadcastsAgree (announceDevice name s).2 := by
  unfold Host.announceDevice
  rcases hd : s.devices.find? name with - | d
  · exact hs
  simp only
  split
  · exact hs
  have hname := s.devices.name_of_find? _ _ hd
  have hlast : (broadcasts d.dev s.trace).getLast? ≠ some .attached := fun h =>
    hnot d hd ((hs.status name d hd).mpr h)
  rw [publishCommonEvent_eq]
  refine hs.update d.dev (fun dev hdev => ?_) (fun k hk => ?_) ?_ fun d' hd' => ?_
  · simp only [HostState.setAuthorizeStatus_trace]
    rw [broadcasts_publishEvents]
    exact if_neg (Ne.symm hdev)
  · refine (HostState.find?_setAuthorizeStatus s name k .enabled).trans ?_
    rw [if_neg (hname ▸ hk)]
  · simp only [HostState.setAuthorizeStatus_trace]
    rw [broadcasts_publishEvents, if_pos (UsbDevice.dev_withStatus _ d)]
    exact (hs.alternate d.dev).concat _ (by simpa using hlast)
  · have hfind := HostState.find?_setAuthorizeStatus s name d.dev.name .enabled
    rw [if_pos hname, hname, hd] at hfind
    obtain rfl := Option.some.inj (hfind.symm.trans (hname ▸ hd'))
    simp only [HostState.setAuthorizeStatus_trace]
    rw [broadcasts_publishEvents, if_pos (UsbDevice.dev_withStatus _ d), List.getLast?_concat]
    simp [UsbDevice.withStatus]

theorem BroadcastsAgree.delDevice {s : HostState} (hs : BroadcastsAgree s) (dev : UsbDev) :
    BroadcastsAgree (delDevice dev s).2 := by
  unfold Host.delDevice
  rcases hd : s.devices.find? dev.name with - | d
  · exact hs
  have hdev : d.dev = dev := UsbDev.name_injective _ _ (s.devices.name_of_find? _ _ hd)
  have hstatus := hs.status _ d hd
  have herase : ∀ k, k ≠ dev.name → (s.devices.erase dev.name).find? k = s.devices.find? k := fun k hk => by
    rw [DeviceMap.find?_erase, if_neg hk]
  have hgone : ∀ d', (s.devices.erase dev.name).find? dev.name = some d' → False := fun d' h => by
    rw [DeviceMap.find?_erase, if_pos rfl] at h
    cases h
  simp only
  split
  · rename_i hen
    rw [publishCommonEvent_eq]
    refine hs.update dev (fun dev' hne => ?_) herase ?_ fun d' hd' => (hgone d' hd').elim
    · exact (broadcasts_publishEvents dev' s.trace .detached d).trans (if_neg (hdev ▸ Ne.symm hne))
    · show Alternates (broadcasts dev (s.trace ++ publishEvents .detached d))
      rw [broadcasts_publishEvents, if_pos hdev]
      refine (hs.alternate dev).concat _ ?_
      rw [hdev] at hstatus
      simp [hstatus.mp hen]
  · exact hs.update dev (fun _ _ => rfl) herase (hs.alternate dev) fun d' hd' => (hgone d' hd').elim

/-! ## Every run -/

/-- A step that does not add a serial device that the trust list enables again. -/
def Op.sound : Op → HostState → Prop
  | .addDevice env d, s => ∀ policy, getUsbPolicy env = .ok policy → policy.isGlobalDisabled = false →
      ¬ TrustedSerial env policy (isUsbSerialDevice s.serialDevices d || hasSerialPort env d) d
  | _, _ => True

theorem BroadcastsAgree.init : BroadcastsAgree HostState.init :=
  ⟨fun _ => alternates_nil, fun _ _ h => by cases h⟩

theorem BroadcastsAgree.addDevice {s : HostState} (hs : BroadcastsAgree s) (env : Env) (d : UsbDevice)
    (hok : (Op.addDevice env d).sound s) : BroadcastsAgree (addDevice env d s).2 := by
  obtain ⟨hfind, -, -, hserial⟩ := registerDevice_spec env d s
  refine ((executeStrategy_acts env _).broadcasts (hs.registerDevice env d)).announceDevice d.dev.name ?_
  refine executeStrategy_unannounced env d.dev.name _ (fun d' hd' => ?_) fun d' hd' policy hpolicy hglobal htrusted => ?_
  · obtain rfl := Option.some.inj (hfind.symm.trans hd')
    rfl
  · obtain rfl := Option.some.inj (hfind.symm.trans hd')
    have hser : isUsbSerialDevice (Host.registerDevice env d s).serialDevices (d.withStatus .newArrived) =
      (isUsbSerialDevice s.serialDevices d || hasSerialPort env d) := hserial
    rw [hser] at htrusted
    exact hok policy hpolicy hglobal
      ⟨htrusted.serialDisable, htrusted.serial, htrusted.disableType, htrusted.hub, htrusted.trust⟩

theorem Op.step_acts (op : Op) (s : HostState) :
    (∃ env d, op = .addDevice env d) ∨ (∃ dev, op = .delDevice dev) ∨
      ∃ env, Acts env (fun _ _ => True) s (op.step s) := by
  cases op with
  | addDevice env d => exact .inl ⟨env, d, rfl⟩
  | delDevice dev => exact .inr (.inl ⟨dev, rfl⟩)
  | manageDevice env vendorId productId disable =>
    exact .inr (.inr ⟨env, manageDeviceLoop_acts env vendorId productId disable (fun _ _ _ _ => trivial)
      s.devices.keys s⟩)
  | manageDevicePolicy env trustList =>
    exact .inr (.inr ⟨env, executeManageDevicePolicy_acts env trustList (fun _ _ => trivial) s⟩)
  | manageInterfaceType env disableType disable =>
    exact .inr (.inr ⟨env, executeManageInterfaceType_acts env disableType disable s fun _ _ _ _ _ _ _ => trivial⟩)
  | manageGlobalInterface env disable =>
    exact .inr (.inr ⟨env, manageGlobalInterfaceImpl_acts env disable (fun _ => trivial) s⟩)
  | manageUsbSerialDevice env disable =>
    have hloop := manageUsbSerialLoop_acts env (A := fun _ _ => True) disable s fun _ _ _ _ => trivial
    refine .inr (.inr ⟨env, ?_⟩)
    show Acts env _ s (if !disable then Host.executeStrategy env (manageUsbSerialLoop env disable s)
      else manageUsbSerialLoop env disable s)
    split
    · exact hloop.trans (executeStrategy_acts env _)
    · exact hloop
  | executeStrategy env => exact .inr (.inr ⟨env, executeStrategy_acts env s⟩)

theorem Op.step_broadcasts (op : Op) (s : HostState) (hop : op.sound s) (hs : BroadcastsAgree s) :
    BroadcastsAgree (op.step s) := by
  rcases op.step_acts s with ⟨env, d, rfl⟩ | ⟨dev, rfl⟩ | ⟨env, hacts⟩
  · exact hs.addDevice env d hop
  · exact hs.delDevice dev
  · exact hacts.broadcasts hs

/-! ## The step that breaks it -/

theorem executePolicy_enables {env : Env} {active : UsbDev → UInt8} (hdi : HdiSucceeds env active)
    (policy : UsbPolicy) (s : HostState) (d : UsbDevice) (hd : s.devices.find? d.dev.name = some d)
    (h : TrustedSerial env policy (isUsbSerialDevice s.serialDevices d) d) :
    ∃ d', (executePolicy env policy s).devices.find? d.dev.name = some d' ∧ d'.authorizeStatus = .enabled := by
  have hne : policy.trustUsbDeviceIds ≠ [] := fun hnil => by
    have htrust := h.trust
    rw [hnil] at htrust
    cases htrust
  have hpolicy : executePolicy env policy s =
      (executeManageDevicePolicy env policy.trustUsbDeviceIds (manageUsbSerialLoop env true s)).2 := by
    simp [executePolicy, h.serialDisable, h.disableType, hne]
  have hloop := (manageUsbSerialLoop_acts env (A := fun _ _ => True) true s fun _ _ _ _ => trivial).same
  have hacts := executeManageDevicePolicy_acts env (A := fun _ _ => True) policy.trustUsbDeviceIds
    (fun _ _ => trivial) (manageUsbSerialLoop env true s)
  have hsame := hloop.trans hacts.same
  obtain ⟨d', hd', hident⟩ := hsame.symm.ident_of_find _ d hd
  rw [hpolicy]
  refine ⟨d', hd', ?_⟩
  -- the serial pass disabled it, so it is not newly arrived any more, and the list forbids disabled
  have hnotNew : d'.authorizeStatus ≠ .newArrived := by
    refine hacts.kept (P := fun d => d.authorizeStatus ≠ .newArrived)
      ⟨fun _ _ _ hstatus hne => hstatus ▸ hne, fun d b _ _ _ => ?_⟩ d.dev.name (fun d₁ hd₁ => ?_) d' hd'
    · cases b <;> simp [UsbDevice.withStatus, statusOf]
    · obtain ⟨d₀, hd₀, hident₁⟩ := hloop.ident_of_find _ d₁ hd₁
      obtain rfl := Option.some.inj (hd.symm.trans hd₀)
      have hmem : d₁ ∈ (manageUsbSerialLoop env true s).devices.values :=
        DeviceMap.mem_values_of_find? _ _ d₁ hd₁
      have hserial : isUsbSerialDevice (manageUsbSerialLoop env true s).serialDevices d₁ := by
        rw [hloop.serial, isUsbSerialDevice_congr _ d₁ d hident₁]
        exact h.serial
      simp [manageUsbSerialLoop_disables hdi.toHdiWorks s d₁ hmem hserial]
  have hforce := (listInForce_iff _ _).mp (executeManageDevicePolicy_inForce hdi.toHdiWorks policy.trustUsbDeviceIds
    (manageUsbSerialLoop env true s)) _ d' hd' (by rw [← isHub_congr d d' hident, h.hub])
  have hnotDisabled : d'.authorizeStatus ≠ .disabled := fun hdis => by
    have := (hforce.mp hdis).2
    rw [← inTrustList_congr _ d d' hident, h.trust] at this
    cases this
  rcases hst : d'.authorizeStatus with - | - | -
  · exact absurd hst hnotDisabled
  · rfl
  · exact absurd hst hnotNew

theorem announceDevice_repeats (s : HostState) (hs : BroadcastsAgree s) (name : String) (d : UsbDevice)
    (hd : s.devices.find? name = some d) (hen : d.authorizeStatus = .enabled) :
    ¬ BroadcastsAgree (announceDevice name s).2 := by
  intro h
  have hannounce : (announceDevice name s).2 =
      publishCommonEvent .attached (d.withStatus .enabled) (s.setAuthorizeStatus name .enabled) := by
    simp [announceDevice, hd, hen]
  have halternate := h.alternate d.dev
  rw [hannounce, publishCommonEvent_eq] at halternate
  simp only [HostState.setAuthorizeStatus_trace] at halternate
  rw [broadcasts_publishEvents, if_pos (UsbDevice.dev_withStatus _ d)] at halternate
  exact not_alternates_concat _ _ ((hs.status name d hd).mp hen) halternate

theorem addDevice_repeats {env : Env} {active : UsbDev → UInt8} (hdi : HdiSucceeds env active) (s : HostState)
    (hs : BroadcastsAgree s) (d : UsbDevice) (h : ¬ (Op.addDevice env d).sound s) :
    ¬ BroadcastsAgree (addDevice env d s).2 := by
  simp only [Op.sound, not_forall, not_not] at h
  obtain ⟨policy, hpolicy, hglobal, htrusted⟩ := h
  obtain ⟨hfind, -, -, hserial⟩ := registerDevice_spec env d s
  have hedm : isEdmEnabled env := by
    have := htrusted.serialDisable
    simp only [isUsbSerialDisable, Bool.and_eq_true] at this
    exact this.1
  have htrusted' : TrustedSerial env policy
      (isUsbSerialDevice (registerDevice env d s).serialDevices (d.withStatus .newArrived)) (d.withStatus .newArrived) :=
    ⟨htrusted.serialDisable, hserial.trans htrusted.serial, htrusted.disableType, htrusted.hub, htrusted.trust⟩
  obtain ⟨d', hd', hen⟩ := executePolicy_enables hdi policy _ (d.withStatus .newArrived) hfind htrusted'
  rw [← executeStrategy_eq env policy hedm hpolicy hglobal] at hd'
  exact announceDevice_repeats _ ((executeStrategy_acts env _).broadcasts (hs.registerDevice env d)) _ d' hd' hen

/-- Broadcasts alternate and agree with the status in every run of sound steps. The condition is
exact where HDI works: after any such run, a step that is not sound breaks it. -/
theorem broadcasts_alternate (s : HostState) (hs : Reachable Op.sound s) :
    BroadcastsAgree s ∧ ∀ env active d, HdiSucceeds env active → ¬ (Op.addDevice env d).sound s →
      ¬ BroadcastsAgree ((Op.addDevice env d).step s) := by
  have hrun : BroadcastsAgree s := hs.invariant (fun _ h => h ▸ BroadcastsAgree.init) Op.step_broadcasts
  exact ⟨hrun, fun env active d hdi hnot => addDevice_repeats hdi s hrun d hnot⟩

/-- Two memory sticks are plugged in, both are disabled, and the first is unplugged. -/
def sticksRun : List Op :=
  [.addDevice Env.succeeding memoryStick, .addDevice Env.succeeding { memoryStick with devAddr := 3 },
    .manageDevice Env.succeeding memoryStick.vendorId memoryStick.productId true, .delDevice ⟨1, 2⟩]

def sticksUnplugged : HostState := sticksRun.foldl (fun s op => op.step s) HostState.init

theorem broadcasts_alternate_memoryStick :
    broadcasts ⟨1, 3⟩ sticksUnplugged.trace = [.attached, .detached] ∧ BroadcastsAgree sticksUnplugged := by
  refine ⟨by decide +kernel, (broadcasts_alternate sticksUnplugged ?_).1⟩
  refine .step (Op.delDevice ⟨1, 2⟩) (.step (Op.manageDevice Env.succeeding memoryStick.vendorId memoryStick.productId
    true) (.step _ (.step _ (.init rfl) ?_) ?_) trivial) trivial
  · exact fun _ _ _ h => absurd h.serialDisable (by decide)
  · exact fun _ _ _ h => absurd h.serialDisable (by decide)

/-- A serial device that the trust list names is announced twice when it arrives. -/
theorem attached_twice :
    ¬ BroadcastsAgree ((Op.addDevice { serialAndTrust ⟨2, 1⟩ with serialGetPortList := some (.ok, [⟨1, 2⟩]) }
      { busNum := 1, devAddr := 2, vendorId := 1, productId := 2 }).step HostState.init) := by
  intro h
  have hbroadcasts : broadcasts ⟨1, 2⟩ ((Op.addDevice
      { serialAndTrust ⟨2, 1⟩ with serialGetPortList := some (.ok, [⟨1, 2⟩]) }
      { busNum := 1, devAddr := 2, vendorId := 1, productId := 2 }).step HostState.init).trace =
        [.attached] ++ [.attached] := by
    decide +kernel
  exact not_alternates_concat [.attached] .attached rfl (hbroadcasts ▸ h.alternate ⟨1, 2⟩)

end UsbManager.Host
