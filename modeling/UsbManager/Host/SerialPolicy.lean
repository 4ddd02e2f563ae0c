import UsbManager.Host.TrustList

/-!
# The serial policy under the other policies

`ExecuteStrategy` disables the serial devices first and then runs the type policy or the trust
list. The type policy skips serial devices. The trust list does not, so it enables again a
serial device that it names.
-/

namespace UsbManager.Host

def SerialDisabled (s : HostState) : Prop :=
  ∀ d ∈ s.devices.values, isUsbSerialDevice s.serialDevices d → d.authorizeStatus = .disabled

theorem isUsbSerialDevice_iff (serialDevices : List UsbDev) (d : UsbDevice) :
    isUsbSerialDevice serialDevices d ↔ d.dev ∈ serialDevices := by
  rw [isUsbSerialDevice, List.any_eq_true]
  constructor
  · rintro ⟨⟨bus, addr⟩, hmem, h⟩
    simp only [Bool.and_eq_true, decide_eq_true_eq] at h
    obtain ⟨rfl, rfl⟩ := h
    exact hmem
  · intro h
    exact ⟨d.dev, h, by simp [UsbDevice.dev]⟩

theorem isUsbSerialDevice_congr (serialDevices : List UsbDev) (d d' : UsbDevice) (hident : d.ident = d'.ident) :
    isUsbSerialDevice serialDevices d = isUsbSerialDevice serialDevices d' := by
  have hb : d.ident.busNum = d'.ident.busNum := by rw [hident]
  have ha : d.ident.devAddr = d'.ident.devAddr := by rw [hident]
  simp only [UsbDevice.ident] at hb ha
  simp only [isUsbSerialDevice, hb, ha]

/-! ## The serial pass -/

theorem kept_disabled : Kept (fun _ b => b = false) fun d => d.authorizeStatus = .disabled where
  congr := fun _ _ _ hstatus h => hstatus ▸ h
  authorize := by
    rintro d b rfl - -
    rfl

theorem foldl_disable_acts (env : Env) (l : List UsbDev) (s : HostState) :
    Acts env (fun _ b => b = false) s
      (l.foldl (fun s dev => (usbDeviceAuthorize env dev false "UsbSerialType" s).2) s) := by
  refine Loop.foldl_rel _ Acts.refl (fun _ _ _ => Acts.trans) _ l (fun s dev _ => ?_) s
  exact Acts.authorize s dev false "UsbSerialType" fun _ _ => rfl

theorem manageUsbSerialLoop_disables {env : Env} (hdi : HdiWorks env)
    (s : HostState) : SerialDisabled (manageUsbSerialLoop env true s) := by
  suffices h : ∀ (l : List UsbDev) (t : HostState), ∀ dev ∈ l, ∀ d,
      (l.foldl (fun s dev => (usbDeviceAuthorize env dev false "UsbSerialType" s).2) t).devices.find? dev.name =
        some d → d.authorizeStatus = .disabled by
    intro d hd hserial
    have hser : (manageUsbSerialLoop env true s).serialDevices = s.serialDevices :=
      (foldl_disable_acts env s.serialDevices s).same.serial
    rw [hser, isUsbSerialDevice_iff] at hserial
    exact h s.serialDevices s d.dev hserial d ((DeviceMap.mem_values _ d).mp hd)
  intro l
  induction l with
  | nil => simp
  | cons dev l ih =>
    intro t dev' hdev' d hd
    rw [List.foldl_cons] at hd
    rcases List.mem_cons.mp hdev' with rfl | hdev'
    · refine (foldl_disable_acts env l _).kept kept_disabled dev'.name (fun d' hd' => ?_) d hd
      rw [usbDeviceAuthorize_devices env _ _ _ _ (hdi.acceptsAt _ _ _), DeviceMap.find?_modify, if_pos rfl,
        Option.map_eq_some_iff] at hd'
      obtain ⟨d₀, -, rfl⟩ := hd'
      rfl
    · exact ih _ dev' hdev' d hd

/-! ## The passes after it -/

theorem serialDisabled_iff (s : HostState) :
    SerialDisabled s ↔ ∀ k d, s.devices.find? k = some d → isUsbSerialDevice s.serialDevices d →
      d.authorizeStatus = .disabled :=
  s.devices.forall_values_iff _

theorem kept_serial (serialDevices : List UsbDev) :
    Kept (fun d _ => isUsbSerialDevice serialDevices d = false)
      fun d => isUsbSerialDevice serialDevices d → d.authorizeStatus = .disabled where
  congr := fun d d' hident hstatus h hserial =>
    hstatus ▸ h (isUsbSerialDevice_congr serialDevices d d' hident ▸ hserial)
  authorize := by
    intro d b hno _ _ hserial
    have : isUsbSerialDevice serialDevices (d.withStatus (statusOf b)) = isUsbSerialDevice serialDevices d := rfl
    rw [this, hno] at hserial
    cases hserial

theorem executeManageInterfaceType_serial {env : Env} (henv : isUsbSerialDisable env)
    (disableType : List UsbDeviceType) (disable : Bool) (s : HostState) (h : SerialDisabled s) :
    SerialDisabled (executeManageInterfaceType env disableType disable s).2 := by
  have hacts := executeManageInterfaceType_acts env
    (A := fun d _ => isUsbSerialDevice s.serialDevices d = false) disableType disable s
    (fun e _ p d _ hserial _ => by simpa [henv] using hserial)
  rw [serialDisabled_iff] at h ⊢
  rw [hacts.same.serial]
  exact fun k => hacts.kept (kept_serial s.serialDevices) k (h k)

theorem kept_serial_hub (serialDevices : List UsbDev) (trustList : List UsbDeviceId) :
    Kept (fun d b => d.isHub = false ∧ b = trusted trustList d)
      fun d => isUsbSerialDevice serialDevices d → d.isHub → d.authorizeStatus = .disabled where
  congr := by
    intro d d' hident hstatus h hserial hub
    rw [← isUsbSerialDevice_congr serialDevices d d' hident] at hserial
    rw [← isHub_congr d d' hident] at hub
    exact hstatus ▸ h hserial hub
  authorize := by
    intro d b hA _ _ _ hub
    have : (d.withStatus (statusOf b)).isHub = d.isHub := rfl
    rw [this, hA.1] at hub
    cases hub

theorem executeManageDevicePolicy_serial_iff {env : Env} (hdi : HdiWorks env)
    (trustList : List UsbDeviceId) (hne : trustList ≠ []) (s : HostState) (h : SerialDisabled s) :
    SerialDisabled (executeManageDevicePolicy env trustList s).2 ↔
      ∀ d ∈ s.devices.values, isUsbSerialDevice s.serialDevices d → d.isHub ∨ inTrustList trustList d = false := by
  have hforce := (listInForce_iff _ _).mp (executeManageDevicePolicy_inForce hdi trustList s)
  have hacts := executeManageDevicePolicy_acts env
    (A := fun d b => d.isHub = false ∧ b = trusted trustList d) trustList (fun d hub => ⟨hub, rfl⟩) s
  have hsame := hacts.same
  rw [serialDisabled_iff] at h ⊢
  rw [hsame.serial]
  constructor
  · intro hfinal d hd hserial
    obtain ⟨d', hd', hident⟩ := hsame.symm.ident_of_find _ d ((s.devices.mem_values d).mp hd)
    rw [isHub_congr d d' hident, inTrustList_congr trustList d d' hident]
    rw [isUsbSerialDevice_congr _ d d' hident] at hserial
    rcases hub : d'.isHub with - | -
    · exact .inr ((hforce _ d' hd' hub).mp (hfinal _ d' hd' hserial)).2
    · exact .inl rfl
  · intro hlist k d hd hserial
    obtain ⟨d₀, hd₀, hident⟩ := hsame.ident_of_find k d hd
    have hmem := s.devices.mem_values_of_find? k d₀ hd₀
    rcases hub : d.isHub with - | -
    · have hserial₀ := isUsbSerialDevice_congr s.serialDevices d d₀ hident ▸ hserial
      rcases hlist d₀ hmem hserial₀ with hub₀ | hin
      · rw [← isHub_congr d d₀ hident, hub] at hub₀
        cases hub₀
      · exact (hforce k d hd hub).mpr ⟨hne, inTrustList_congr trustList d d₀ hident ▸ hin⟩
    · -- a hub keeps the status that the serial pass gave it
      exact hacts.kept (kept_serial_hub s.serialDevices trustList) k
        (fun d hd hserial _ => h k d hd hserial) d hd hserial hub

/-! ## The strategy -/

theorem executeStrategy_eq (env : Env) (policy : UsbPolicy) (hedm : isEdmEnabled env)
    (hpolicy : getUsbPolicy env = .ok policy) (hglobal : policy.isGlobalDisabled = false) (s : HostState) :
    executeStrategy env s = executePolicy env policy s := by
  simp [executeStrategy, hedm, hpolicy, hglobal]

theorem executePolicy_serial_iff {env : Env} (hdi : HdiWorks env)
    (hserial : isUsbSerialDisable env) (policy : UsbPolicy) (s : HostState) :
    SerialDisabled (executePolicy env policy s) ↔
      policy.disableType ≠ [] ∨ ∀ d ∈ s.devices.values, isUsbSerialDevice s.serialDevices d →
        d.isHub ∨ inTrustList policy.trustUsbDeviceIds d = false := by
  have hpass := manageUsbSerialLoop_disables hdi s
  have hsame := (manageUsbSerialLoop_acts env (A := fun _ _ => True) true s fun _ _ _ _ => trivial).same
  unfold executePolicy
  simp only [hserial, if_true]
  by_cases htypes : policy.disableType = []
  · rw [htypes]
    simp only [List.isEmpty_nil, Bool.not_true, Bool.false_eq_true, if_false, ne_eq, not_true_eq_false, false_or]
    by_cases htrust : policy.trustUsbDeviceIds = []
    · rw [htrust]
      simp only [List.isEmpty_nil, if_true, hpass, true_iff]
      exact fun d _ _ => .inr rfl
    · rw [if_neg (by simpa using htrust), executeManageDevicePolicy_serial_iff hdi _ htrust _ hpass, hsame.serial]
      -- the serial pass changed statuses only
      constructor
      · intro h d hd hser
        obtain ⟨d', hd', hident⟩ := hsame.symm.ident_of_find _ d ((s.devices.mem_values d).mp hd)
        rw [isHub_congr d d' hident, inTrustList_congr _ d d' hident]
        exact h d' (DeviceMap.mem_values_of_find? _ _ d' hd') (isUsbSerialDevice_congr _ d d' hident ▸ hser)
      · intro h d hd hser
        obtain ⟨d', hd', hident⟩ := hsame.ident_of_find _ d ((DeviceMap.mem_values _ d).mp hd)
        rw [isHub_congr d d' hident, inTrustList_congr _ d d' hident]
        exact h d' (DeviceMap.mem_values_of_find? _ _ d' hd') (isUsbSerialDevice_congr _ d d' hident ▸ hser)
  · rw [if_pos (by simpa using htypes)]
    exact ⟨fun _ => .inl htypes, fun _ => executeManageInterfaceType_serial hserial _ _ _ hpass⟩

/-- Serial devices stay disabled unless only the trust list follows and names one of them. -/
theorem serial_policy_stands_iff {env : Env} (hdi : HdiWorks env)
    (hserial : isUsbSerialDisable env) (policy : UsbPolicy) (hpolicy : getUsbPolicy env = .ok policy)
    (hglobal : policy.isGlobalDisabled = false) (s : HostState) :
    SerialDisabled (executeStrategy env s) ↔
      policy.disableType ≠ [] ∨ ∀ d ∈ s.devices.values, isUsbSerialDevice s.serialDevices d →
        d.isHub ∨ inTrustList policy.trustUsbDeviceIds d = false := by
  have hedm : isEdmEnabled env := by
    simp only [isUsbSerialDisable, Bool.and_eq_true] at hserial
    exact hserial.1
  rw [executeStrategy_eq env policy hedm hpolicy hglobal, executePolicy_serial_iff hdi hserial]

def serialAndTrust (id : UsbDeviceId) : Env :=
  { Env.succeeding with
    usbSerialDisable := "1"
    edm := some { EdmReplies.empty with trustList := .granted ⟨1, fun _ => id⟩ } }

theorem hdiWorks_serialAndTrust (id : UsbDeviceId) : HdiWorks (serialAndTrust id) :=
  ⟨rfl, rfl, fun _ _ => rfl, fun _ _ => rfl, fun _ _ _ => rfl, fun _ _ _ _ _ => rfl, fun _ _ _ _ => rfl⟩

def oneSerialDevice : HostState :=
  { devices := DeviceMap.empty.insert { busNum := 1, devAddr := 2, vendorId := 1, productId := 2 }
    serialDevices := [⟨1, 2⟩]
    trace := [] }

theorem serial_policy_stands_other_device :
    SerialDisabled (executeStrategy (serialAndTrust ⟨2, 7⟩) oneSerialDevice) ↔
      ([] : List UsbDeviceType) ≠ [] ∨ ∀ d ∈ oneSerialDevice.devices.values,
        isUsbSerialDevice oneSerialDevice.serialDevices d → d.isHub ∨ inTrustList [⟨2, 7⟩] d = false :=
  serial_policy_stands_iff (hdiWorks_serialAndTrust _) rfl ⟨false, [], [⟨2, 7⟩]⟩ rfl rfl oneSerialDevice

/-- The trust list names the serial device. -/
theorem trust_list_enables_serial_device :
    ¬ SerialDisabled (executeStrategy (serialAndTrust ⟨2, 1⟩) oneSerialDevice) := by
  rw [executeStrategy_eq _ ⟨false, [], [⟨2, 1⟩]⟩ rfl rfl rfl,
    executePolicy_serial_iff (hdiWorks_serialAndTrust _) rfl]
  decide

end UsbManager.Host
