import UsbManager.Host.Acts

/-!
# Passes under a working HDI

When every call succeeds, a pass changes each device by a function of that device alone, so
its whole effect on `devices_` is one map. Later modules compose these maps.
-/

namespace UsbManager.Host

/-- Every call that opens, closes or authorises succeeds. -/
structure HdiWorks (env : Env) : Prop where
  host : env.usbHostInterface = true
  device : env.usbDeviceInterface = true
  openDevice : ∀ t dev, env.hdiOpenDevice t dev = .ok
  closeDevice : ∀ t dev, env.hdiCloseDevice t dev = .ok
  usbDeviceAuthorize : ∀ t dev b, env.hdiUsbDeviceAuthorize t dev b = .ok
  usbInterfaceAuthorize : ∀ t dev c i b, env.hdiUsbInterfaceAuthorize t dev c i b = .ok
  manageInterface : ∀ t dev i b, env.hdiManageInterface t dev i b = .ok

/-- Devices can be opened, and `active` is the configuration value that HDI reports for each. -/
structure HdiReports (env : Env) (active : UsbDev → UInt8) : Prop where
  host : env.usbHostInterface = true
  device : env.usbDeviceInterface = true
  openDevice : ∀ t dev, env.hdiOpenDevice t dev = .ok
  getConfig : ∀ t dev, env.hdiGetConfig t dev = (.ok, active dev)

/-- HDI works and reports `active` for each device. -/
structure HdiSucceeds (env : Env) (active : UsbDev → UInt8) : Prop extends HdiReports env active, HdiWorks env

theorem hdiWorks_succeeding : HdiWorks Env.succeeding :=
  ⟨rfl, rfl, fun _ _ => rfl, fun _ _ => rfl, fun _ _ _ => rfl, fun _ _ _ _ _ => rfl, fun _ _ _ _ => rfl⟩

theorem hdiSucceeds_succeeding : HdiSucceeds Env.succeeding fun _ => 1 :=
  ⟨⟨rfl, rfl, fun _ _ => rfl, fun _ _ => rfl⟩, hdiWorks_succeeding.closeDevice,
    hdiWorks_succeeding.usbDeviceAuthorize, hdiWorks_succeeding.usbInterfaceAuthorize,
    hdiWorks_succeeding.manageInterface⟩

def authorizedStatus (authorized : Bool) (status : AuthorizeStatus) : AuthorizeStatus :=
  if authorized then if status = .disabled then .enabled else status else .disabled

/-- What an authorisation makes of a device where HDI works. -/
def authorizeDevice (authorized : Bool) (d : UsbDevice) : UsbDevice :=
  d.withStatus (authorizedStatus authorized d.authorizeStatus)

theorem dev_authorizeDevice (authorized : Bool) (d : UsbDevice) : (authorizeDevice authorized d).dev = d.dev := rfl

theorem authorizedStatus_disabled_iff (authorized : Bool) (status : AuthorizeStatus) :
    authorizedStatus authorized status = .disabled ↔ authorized = false := by
  cases authorized <;> cases status <;> simp [authorizedStatus]

theorem DeviceMap.modify_congr (m : DeviceMap) (name : String) (f g : UsbDevice → UsbDevice)
    {hf : ∀ d, (f d).dev = d.dev} {hg : ∀ d, (g d).dev = d.dev}
    (h : ∀ d, m.find? name = some d → f d = g d) : m.modify name f hf = m.modify name g hg := by
  refine DeviceMap.ext_find? _ _ (by simp) fun k _ => ?_
  rw [DeviceMap.find?_modify, DeviceMap.find?_modify]
  split
  · rename_i hk
    subst hk
    rcases hd : m.find? k with - | d
    · rfl
    · exact congrArg some (h d hd)
  · rfl

theorem DeviceMap.modify_id (m : DeviceMap) (name : String) (f : UsbDevice → UsbDevice)
    {hf : ∀ d, (f d).dev = d.dev} (h : ∀ d, m.find? name = some d → f d = d) : m.modify name f hf = m := by
  refine DeviceMap.ext_find? _ _ (by simp) fun k _ => ?_
  rw [DeviceMap.find?_modify]
  split
  · rename_i hk
    subst hk
    rcases hd : m.find? k with - | d
    · rfl
    · exact congrArg some (h d hd)
  · rfl

theorem DeviceMap.mapVal_mapVal (m : DeviceMap) (f g : UsbDevice → UsbDevice) (hf : ∀ d, (f d).dev = d.dev)
    (hg : ∀ d, (g d).dev = d.dev) :
    (m.mapVal f hf).mapVal g hg = m.mapVal (fun d => g (f d)) fun d => (hg (f d)).trans (hf d) := by
  refine DeviceMap.ext_find? _ _ (by simp) fun k _ => ?_
  simp only [DeviceMap.find?_mapVal, Option.map_map]
  rfl

theorem DeviceMap.mapVal_congr (m : DeviceMap) (f g : UsbDevice → UsbDevice) {hf : ∀ d, (f d).dev = d.dev}
    {hg : ∀ d, (g d).dev = d.dev} (h : ∀ d ∈ m.values, f d = g d) : m.mapVal f hf = m.mapVal g hg := by
  refine DeviceMap.ext_find? _ _ (by simp) fun k _ => ?_
  rw [DeviceMap.find?_mapVal, DeviceMap.find?_mapVal]
  rcases hd : m.find? k with - | d
  · rfl
  · exact congrArg some (h d (m.mem_values_of_find? k d hd))

theorem DeviceMap.mapVal_id (m : DeviceMap) : (m.mapVal id fun _ => rfl) = m :=
  DeviceMap.ext_find? _ _ (by simp) fun k _ => by rw [DeviceMap.find?_mapVal, Option.map_id, id]

/-! ## The answer to one call -/

def Env.opensAt (env : Env) (t : Nat) (dev : UsbDev) : Prop := env.host (env.hdiOpenDevice t dev) = .ok

def Env.acceptsAt (env : Env) (t : Nat) (dev : UsbDev) (authorized : Bool) : Prop :=
  env.usbDeviceInterface = true ∧ env.hdiUsbDeviceAuthorize t dev authorized = .ok

section

variable {env : Env} {active : UsbDev → UInt8} (hdi : HdiReports env active)
include hdi

theorem HdiReports.openDevice_fst (dev : UsbDev) (s : HostState) : (Host.openDevice env dev s).1 = .ok := by
  simp [Host.openDevice, Env.host, hdi.host, hdi.openDevice]

theorem HdiReports.getActiveConfig_fst (dev : UsbDev) (s : HostState) :
    (getActiveConfig env dev s).1 = .ok ∧ (getActiveConfig env dev s).2.1 = active dev := by
  simp [getActiveConfig, Env.host, hdi.host, hdi.getConfig]

end

theorem HdiWorks.opensAt {env : Env} (hdi : HdiWorks env) (t : Nat) (dev : UsbDev) : env.opensAt t dev := by
  simp [Env.opensAt, Env.host, hdi.host, hdi.openDevice]

theorem HdiWorks.acceptsAt {env : Env} (hdi : HdiWorks env) (t : Nat) (dev : UsbDev) (authorized : Bool) :
    env.acceptsAt t dev authorized :=
  ⟨hdi.device, hdi.usbDeviceAuthorize t dev authorized⟩

theorem usbDeviceAuthorize_devices (env : Env) (dev : UsbDev) (authorized : Bool) (op : String) (s : HostState)
    (h : env.acceptsAt s.now dev authorized) :
    (usbDeviceAuthorize env dev authorized op s).2.devices =
      s.devices.modify dev.name (authorizeDevice authorized) (dev_authorizeDevice authorized) := by
  unfold usbDeviceAuthorize
  simp only [h.1, Bool.not_true, Bool.false_eq_true, if_false, h.2, ne_eq, not_true_eq_false]
  rcases hd : s.devices.find? dev.name with - | d
  · exact (DeviceMap.modify_id _ _ _ fun d h => by rw [hd] at h; cases h).symm
  simp only
  split
  · rename_i hsame
    refine (DeviceMap.modify_id _ _ _ fun d' h => ?_).symm
    obtain rfl := Option.some.inj (hd.symm.trans h)
    have hstatus : authorizedStatus authorized d.authorizeStatus = d.authorizeStatus := by
      revert hsame
      cases authorized <;> cases d.authorizeStatus <;> simp [authorizedStatus]
    rw [authorizeDevice, hstatus]; rfl
  · rename_i hchange
    have hdevices : ∀ t : HostState, t.devices = s.devices →
        (t.setAuthorizeStatus dev.name (if authorized then .enabled else .disabled)).devices =
          s.devices.modify dev.name (authorizeDevice authorized) (dev_authorizeDevice authorized) := by
      intro t ht
      simp only [HostState.setAuthorizeStatus, ht]
      refine DeviceMap.modify_congr _ _ _ _ fun d' h => ?_
      obtain rfl := Option.some.inj (hd.symm.trans h)
      cases authorized <;> simp_all [authorizeDevice, authorizedStatus]
    apply hdevices
    split_ifs <;> simp [publishCommonEvent_eq, reportManageDeviceInfo]

end UsbManager.Host
