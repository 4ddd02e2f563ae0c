import UsbManager.Host.Enumerate
import UsbManager.Host.Runs
import UsbManager.Service.Rights

/-!
# Devices in the service

`UsbService::AddDevice` and `DelDevice` keep a second map beside the devices of the host manager: the
name that a device has in the rights table. Attaching a device inserts into that map and replaces in
the other, so the two agree exactly as long as no address is taken over by a device of another name.
-/

namespace UsbManager.Service

open Rights Host

/-! ## Attach and detach -/

/-- The memory for the new device is always there. -/
def addDevice (env : Env) (dev : UsbDev) (s : ServiceState) : Bool × ServiceState :=
  let (ret, devInfo, host) := getDeviceInfo env dev {} s.host
  if ret ≠ .ok then (false, { s with host := host })
  else
    (true, { s with
      deviceVidPidMap := s.deviceVidPidMap.insert dev.name devInfo.uniqueName
      host := (Host.addDevice env devInfo host).2 })

/-- Also the service itself needs a right here. -/
def close (env : Env) (rightEnv : RightEnv) (caller : Caller) (dev : UsbDev) (s : ServiceState) : Ret × ServiceState :=
  let (has, s) := hasRight rightEnv caller dev.name s
  if !has then (.uec .servicePermissionDenied, s)
  else
    let (ret, host) := Host.close env dev s.host
    (ret, { s with host := host })

/-- A device that the service does not know has the name `test`. -/
def getDeviceVidPidSerialNumber (s : ServiceState) (deviceName : String) : String :=
  (s.deviceVidPidMap.find? deviceName).getD "test"

/-- The result of the close is only logged. -/
def delDevice (env : Env) (rightEnv : RightEnv) (caller : Caller) (dev : UsbDev) (s : ServiceState) :
    Bool × ServiceState :=
  let (_, s) := close env rightEnv caller dev s
  if !s.usbRightManager then (false, s)
  else
    let (ret, host) := Host.delDevice dev s.host
    (ret, { s with
      rights := removeDeviceAllRight rightEnv (getDeviceVidPidSerialNumber s dev.name) s.rights
      deviceVidPidMap := s.deviceVidPidMap.erase dev.name
      host := host })

/-! ## What the host manager stores -/

/-- The name in the rights table of the device that is stored under `k`. -/
def storedName (host : HostState) (k : String) : Option String := (host.devices.find? k).map UsbDevice.uniqueName

theorem storedName_isSome (host : HostState) (k : String) : (storedName host k).isSome ↔ k ∈ host.devices.keys := by
  rw [storedName, Option.isSome_map, DeviceMap.find?_isSome]

theorem storedName_same {s t : HostState} (h : SameDevices s t) (k : String) : storedName t k = storedName s k := by
  have hident := congrArg (Option.map UsbDevice.uniqueName) (h.ident k)
  rwa [Option.map_map, Option.map_map] at hident

theorem storedName_addDevice (env : Env) (d : UsbDevice) (s : HostState) (k : String) :
    storedName (Host.addDevice env d s).2 k = if k = d.dev.name then some d.uniqueName else storedName s k := by
  obtain ⟨hfind, hother, -, -⟩ := registerDevice_spec env d s
  rw [storedName_same (addDevice_same env d s)]
  split
  · rename_i hk
    rw [hk, storedName, hfind]
    rfl
  · rename_i hk
    rw [storedName, hother k hk, storedName]

theorem storedName_delDevice (dev : UsbDev) (s : HostState) (k : String) :
    storedName (Host.delDevice dev s).2 k = if k = dev.name then none else storedName s k := by
  have herase : ((s.devices.erase dev.name).find? k).map UsbDevice.uniqueName =
      if k = dev.name then none else storedName s k := by
    rw [DeviceMap.find?_erase, storedName]
    split <;> rfl
  unfold Host.delDevice
  rcases hd : s.devices.find? dev.name with - | d
  · simp only
    split
    · rename_i hk
      rw [hk, storedName, hd]
      rfl
    · rfl
  · simp only
    split
    · rw [publishCommonEvent_eq]
      exact herase
    · exact herase

/-! ## Agreement -/

/-- The service and the host manager know the same addresses. -/
def KeysAgree (s : ServiceState) : Prop := ∀ n, n ∈ s.deviceVidPidMap.keys ↔ n ∈ s.host.devices.keys

/-- And what the rights go by is the name of the stored device. -/
structure IdentitiesAgree (s : ServiceState) : Prop where
  keys : KeysAgree s
  name : ∀ n d, s.host.devices.find? n = some d → s.deviceVidPidMap.find? n = some d.uniqueName

theorem identitiesAgree_iff (s : ServiceState) :
    IdentitiesAgree s ↔ ∀ n, s.deviceVidPidMap.find? n = storedName s.host n := by
  constructor
  · intro h n
    rcases hd : s.host.devices.find? n with - | d
    · rw [storedName, hd]
      refine (StdMap.find?_eq_none _ n).mpr fun hn => ?_
      exact (DeviceMap.find?_eq_none _ n).mp hd ((h.keys n).mp hn)
    · rw [storedName, hd, h.name n d hd]
      rfl
  · intro h
    refine ⟨fun n => ?_, fun n d hd => ?_⟩
    · rw [← StdMap.find?_isSome, h n, storedName_isSome]
    · rw [h n, storedName, hd]
      rfl

/-! ## Steps -/

inductive Op
  | addDevice (env : Env) (dev : UsbDev)
  | delDevice (env : Env) (rightEnv : RightEnv) (caller : Caller) (dev : UsbDev)

def Op.step : Op → ServiceState → ServiceState
  | .addDevice env dev, s => (Service.addDevice env dev s).2
  | .delDevice env rightEnv caller dev, s => (Service.delDevice env rightEnv caller dev s).2

/-- The name of the device that HDI describes at this address, if it can be read. -/
def enumeratedName (env : Env) (dev : UsbDev) (s : ServiceState) : Option String :=
  let (ret, devInfo, _) := getDeviceInfo env dev {} s.host
  if ret = .ok then some devInfo.uniqueName else none

/-- A device is only attached at a taken address if it has the name of the one that is there. -/
def Op.sound : Op → ServiceState → Prop
  | .addDevice env dev, s => ∀ name d, enumeratedName env dev s = some name →
      s.host.devices.find? dev.name = some d → name = d.uniqueName
  | .delDevice .., _ => True

theorem addDevice_none (env : Env) (dev : UsbDev) (s : ServiceState) (h : enumeratedName env dev s = none) :
    (addDevice env dev s).2.deviceVidPidMap = s.deviceVidPidMap ∧
      ∀ n, storedName (addDevice env dev s).2.host n = storedName s.host n := by
  have hdevices := getDeviceInfo_devices env dev {} s.host
  unfold enumeratedName at h
  unfold addDevice
  rcases hget : getDeviceInfo env dev {} s.host with ⟨ret, devInfo, host⟩
  rw [hget] at h hdevices
  have hret : ret ≠ .ok := fun hok => by simp [hok] at h
  simp only [hret, ne_eq, not_false_eq_true, if_true]
  refine ⟨trivial, fun n => ?_⟩
  rw [storedName, hdevices, storedName]

theorem addDevice_some (env : Env) (dev : UsbDev) (s : ServiceState) (name : String)
    (h : enumeratedName env dev s = some name) :
    (addDevice env dev s).2.deviceVidPidMap = s.deviceVidPidMap.insert dev.name name ∧
      ∀ n, storedName (addDevice env dev s).2.host n = if n = dev.name then some name else storedName s.host n := by
  have hdevices := getDeviceInfo_devices env dev {} s.host
  have hdev := getDeviceInfo_dev env dev {} s.host
  unfold enumeratedName at h
  unfold addDevice
  rcases hget : getDeviceInfo env dev {} s.host with ⟨ret, devInfo, host⟩
  rw [hget] at h hdevices hdev
  have hret : ret = .ok := by
    by_contra hne
    simp [hne] at h
  obtain rfl : devInfo.uniqueName = name := by simpa [hret] using h
  simp only [hret, ne_eq, not_true_eq_false, if_false]
  refine ⟨trivial, fun n => ?_⟩
  rw [storedName_addDevice, hdev hret, storedName, hdevices, storedName]

theorem hasRight_frame (rightEnv : RightEnv) (caller : Caller) (deviceName : String) (s : ServiceState) :
    ∃ db, (hasRight rightEnv caller deviceName s).2 = s.setRights db := by
  unfold hasRight
  split
  · exact ⟨s.rights, rfl⟩
  split
  · exact ⟨s.rights, rfl⟩
  split
  · exact ⟨s.rights, rfl⟩
  split
  · exact ⟨s.rights, rfl⟩
  · exact ⟨_, rfl⟩

theorem close_frame (env : Env) (rightEnv : RightEnv) (caller : Caller) (dev : UsbDev) (s : ServiceState) :
    (close env rightEnv caller dev s).2.deviceVidPidMap = s.deviceVidPidMap ∧
      (close env rightEnv caller dev s).2.host.devices = s.host.devices := by
  obtain ⟨db, hdb⟩ := hasRight_frame rightEnv caller dev.name s
  unfold close
  simp only [hdb]
  split <;> exact ⟨rfl, rfl⟩

theorem delDevice_maps (env : Env) (rightEnv : RightEnv) (caller : Caller) (dev : UsbDev) (s : ServiceState) :
    (∀ n, (delDevice env rightEnv caller dev s).2.deviceVidPidMap.find? n =
        if (close env rightEnv caller dev s).2.usbRightManager ∧ n = dev.name then none
        else s.deviceVidPidMap.find? n) ∧
      ∀ n, storedName (delDevice env rightEnv caller dev s).2.host n =
        if (close env rightEnv caller dev s).2.usbRightManager ∧ n = dev.name then none else storedName s.host n := by
  obtain ⟨hmap, hhost⟩ := close_frame env rightEnv caller dev s
  unfold delDevice
  rcases hclose : close env rightEnv caller dev s with ⟨ret, s'⟩
  rw [hclose] at hmap hhost
  dsimp only at hmap hhost ⊢
  have hname : ∀ n, storedName s'.host n = storedName s.host n := fun n => by rw [storedName, hhost, storedName]
  cases hmanager : s'.usbRightManager with
  | false => simp [hmap, hname]
  | true => simp [hmap, StdMap.find?_erase, storedName_delDevice, hname]

/-! ## Every run -/

theorem keysAgree_iff (s : ServiceState) :
    KeysAgree s ↔ ∀ n, (s.deviceVidPidMap.find? n).isSome = (storedName s.host n).isSome := by
  refine forall_congr' fun n => ?_
  rw [Bool.eq_iff_iff, StdMap.find?_isSome, storedName_isSome]

theorem Op.step_keysAgree (op : Op) (s : ServiceState) (hs : KeysAgree s) : KeysAgree (op.step s) := by
  rw [keysAgree_iff] at hs ⊢
  intro n
  cases op with
  | addDevice env dev =>
    show ((Service.addDevice env dev s).2.deviceVidPidMap.find? n).isSome =
      (storedName (Service.addDevice env dev s).2.host n).isSome
    rcases hname : enumeratedName env dev s with - | name
    · obtain ⟨hmap, hstored⟩ := addDevice_none env dev s hname
      rw [hmap, hstored, hs]
    · obtain ⟨hmap, hstored⟩ := addDevice_some env dev s name hname
      rw [hmap, hstored, StdMap.find?_insert]
      by_cases hn : n = dev.name
      · subst hn
        by_cases hmem : dev.name ∈ s.deviceVidPidMap.keys
        · simp [hmem, (StdMap.find?_isSome _ _).mpr hmem]
        · simp [hmem]
      · simp [hn, hs]
  | delDevice env rightEnv caller dev =>
    obtain ⟨hmap, hstored⟩ := delDevice_maps env rightEnv caller dev s
    show ((Service.delDevice env rightEnv caller dev s).2.deviceVidPidMap.find? n).isSome =
      (storedName (Service.delDevice env rightEnv caller dev s).2.host n).isSome
    rw [hmap, hstored]
    split
    · rfl
    · exact hs n

theorem Op.step_identitiesAgree_iff (op : Op) (s : ServiceState) (hs : IdentitiesAgree s) :
    IdentitiesAgree (op.step s) ↔ op.sound s := by
  rw [identitiesAgree_iff] at hs ⊢
  cases op with
  | addDevice env dev =>
    show (∀ n, (Service.addDevice env dev s).2.deviceVidPidMap.find? n =
      storedName (Service.addDevice env dev s).2.host n) ↔ _
    rcases hname : enumeratedName env dev s with - | name
    · obtain ⟨hmap, hstored⟩ := addDevice_none env dev s hname
      simp only [hmap, hstored, hs, implies_true, true_iff]
      exact fun _ _ h => by simp [hname] at h
    · obtain ⟨hmap, hstored⟩ := addDevice_some env dev s name hname
      simp only [hmap, hstored, StdMap.find?_insert, Op.sound, hname]
      rcases hd : s.host.devices.find? dev.name with - | d
      · have hfree : dev.name ∉ s.deviceVidPidMap.keys := by
          rw [← StdMap.find?_eq_none, hs, storedName, hd]
          rfl
        simp [hfree, hs]
      · have htaken : s.deviceVidPidMap.find? dev.name = some d.uniqueName := by
          rw [hs, storedName, hd]
          rfl
        have hmem : dev.name ∈ s.deviceVidPidMap.keys := StdMap.mem_keys_of_find? _ _ _ htaken
        simp only [hmem, not_true_eq_false, and_false, if_false, Option.some.injEq]
        constructor
        · rintro h _ _ rfl rfl
          have := h dev.name
          rw [if_pos rfl, htaken] at this
          exact (Option.some.inj this).symm
        · intro h n
          split
          · rename_i hn
            rw [hn, htaken, h name d rfl rfl]
          · exact hs n
  | delDevice env rightEnv caller dev =>
    obtain ⟨hmap, hstored⟩ := delDevice_maps env rightEnv caller dev s
    refine ⟨fun _ => trivial, fun _ n => ?_⟩
    show (Service.delDevice env rightEnv caller dev s).2.deviceVidPidMap.find? n =
      storedName (Service.delDevice env rightEnv caller dev s).2.host n
    rw [hmap, hstored, hs]

def ServiceState.started (s : ServiceState) : Prop := s.host = HostState.init ∧ s.deviceVidPidMap = StdMap.empty

abbrev Reachable (C : Op → ServiceState → Prop) : ServiceState → Prop := Run.Reachable ServiceState.started Op.step C

theorem identitiesAgree_started (s : ServiceState) (h : s.started) : IdentitiesAgree s := by
  rw [identitiesAgree_iff, h.1, h.2]
  exact fun _ => rfl

/-- The keys agree in every run, the names in every run of sound steps, and no longer after the first
step that is not sound. -/
theorem identities_agree (s : ServiceState) :
    (Reachable (fun _ _ => True) s → KeysAgree s) ∧ (Reachable Op.sound s → IdentitiesAgree s ∧
      ∀ op : Op, ¬ op.sound s → ¬ IdentitiesAgree (op.step s)) := by
  constructor
  · intro hs
    exact hs.invariant (fun s h => (identitiesAgree_started s h).keys) fun op s _ h => Op.step_keysAgree op s h
  · intro hs
    exact hs.exact identitiesAgree_started fun op s h => op.step_identitiesAgree_iff s h

/-- HDI describes a device of this vendor, without strings or configurations, at every address. -/
def plugged (vendorId : UInt8) : Env :=
  { Env.succeeding with
    hdiGetRawDescriptor := fun _ _ => (.ok, [18, 1, 0, 2, 0, 0, 0, 64, vendorId, 0, 1, 0, 0, 1, 0, 0, 0, 0]) }

def justStarted : ServiceState := ⟨HostState.init, StdMap.empty, StdMap.empty, true, none, none, ⟨[], none, 0⟩⟩

theorem identities_agree_reattached :
    IdentitiesAgree ((Op.addDevice (plugged 7) ⟨1, 2⟩).step ((Op.addDevice (plugged 7) ⟨1, 2⟩).step justStarted)) := by
  have hfirst : Reachable Op.sound ((Op.addDevice (plugged 7) ⟨1, 2⟩).step justStarted) :=
    .step _ (.init ⟨rfl, rfl⟩) fun _ _ _ h => by cases h
  refine ((identities_agree _).2 (.step _ hfirst ?_)).1
  intro name d hname hd
  have hnew : enumeratedName (plugged 7) ⟨1, 2⟩ ((Op.addDevice (plugged 7) ⟨1, 2⟩).step justStarted) =
      some "7-1- " := by decide +kernel
  have hold : storedName ((Op.addDevice (plugged 7) ⟨1, 2⟩).step justStarted).host (UsbDev.name ⟨1, 2⟩) =
      some "7-1- " := by decide +kernel
  rw [storedName, hd] at hold
  exact (Option.some.inj (hname.symm.trans hnew)).trans (Option.some.inj hold).symm

/-- Another device takes the address, and the rights still go by the first one. -/
theorem identities_differ_after_takeover :
    let s := (Op.addDevice (plugged 8) ⟨1, 2⟩).step ((Op.addDevice (plugged 7) ⟨1, 2⟩).step justStarted)
    Reachable (fun _ _ => True) s ∧ ¬ IdentitiesAgree s := by
  intro s
  refine ⟨.step _ (.step _ (.init ⟨rfl, rfl⟩) trivial) trivial, fun h => ?_⟩
  have hmap : s.deviceVidPidMap.find? "1-2" = some "7-1- " := by decide +kernel
  have hstored : storedName s.host "1-2" = some "8-1- " := by decide +kernel
  rw [(identitiesAgree_iff s).mp h, hstored] at hmap
  exact absurd hmap (by decide)

end UsbManager.Service
