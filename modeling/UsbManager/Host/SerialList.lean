import UsbManager.Host.Runs

/-!
# The list of serial devices

`serialDevices_` is kept beside the device map and is only touched when a device arrives or leaves. Deletion
takes out the first match, which is enough because no address is in the list twice.
-/

namespace UsbManager.Host

/-- The list names devices that are there, and none of them twice. -/
structure SerialTracks (s : HostState) : Prop where
  nodup : s.serialDevices.Nodup
  stored : ∀ dev ∈ s.serialDevices, ∃ d, s.devices.find? dev.name = some d ∧ d.dev = dev

theorem serialTracks_iff (s : HostState) :
    SerialTracks s ↔ s.serialDevices.Nodup ∧ ∀ dev ∈ s.serialDevices, dev.name ∈ s.devices.keys := by
  constructor
  · intro h
    refine ⟨h.nodup, fun dev hdev => ?_⟩
    obtain ⟨d, hd, -⟩ := h.stored dev hdev
    exact s.devices.mem_keys_of_find? _ d hd
  · rintro ⟨hnodup, hkeys⟩
    refine ⟨hnodup, fun dev hdev => ?_⟩
    obtain ⟨d, hd⟩ := Option.isSome_iff_exists.mp ((s.devices.find?_isSome _).mpr (hkeys dev hdev))
    exact ⟨d, hd, UsbDev.name_injective _ _ (s.devices.name_of_find? _ d hd)⟩

theorem SerialTracks.notMem {s : HostState} (h : SerialTracks s) (dev : UsbDev) (hdev : s.devices.find? dev.name = none) :
    dev ∉ s.serialDevices := by
  intro hmem
  obtain ⟨d, hd, -⟩ := h.stored dev hmem
  rw [hdev] at hd
  cases hd

theorem SerialTracks.same {s t : HostState} (hs : SerialTracks s) (h : SameDevices s t) : SerialTracks t := by
  rw [serialTracks_iff] at hs ⊢
  rw [h.serial, h.keys]
  exact hs

/-! ## Arrival and departure -/

theorem addUsbSerialDevice_serialDevices (env : Env) (d : UsbDevice) (s : HostState) :
    (addUsbSerialDevice env d s).serialDevices =
      if hasSerialPort env d ∧ d.dev ∉ s.serialDevices then s.serialDevices ++ [d.dev] else s.serialDevices := by
  unfold addUsbSerialDevice hasSerialPort
  have hserial := isUsbSerialDevice_iff s.serialDevices d
  rcases env.serialGetPortList with - | ⟨ret, serialList⟩
  · simp
  simp only
  by_cases hret : ret = .ok
  · by_cases hold : d.dev ∈ s.serialDevices
    · simp [hret, hold, hserial.mpr hold]
    · simp [hret, hold, Bool.eq_false_iff.mpr (mt hserial.mp hold), apply_ite HostState.serialDevices]
  · simp [hret]

theorem registerDevice_serialDevices (env : Env) (d : UsbDevice) (s : HostState) :
    (registerDevice env d s).serialDevices =
      if hasSerialPort env d ∧ d.dev ∉ s.serialDevices then s.serialDevices ++ [d.dev] else s.serialDevices :=
  addUsbSerialDevice_serialDevices env (d.withStatus .newArrived) _

theorem registerDevice_keys (env : Env) (d : UsbDevice) (s : HostState) (k : String) :
    k ∈ (registerDevice env d s).devices.keys ↔ k = d.dev.name ∨ k ∈ s.devices.keys := by
  obtain ⟨hfind, hother, -, -⟩ := registerDevice_spec env d s
  rw [← DeviceMap.find?_isSome, ← DeviceMap.find?_isSome]
  by_cases hk : k = d.dev.name
  · rw [hk, hfind]
    simp
  · rw [hother k hk]
    simp [hk]

theorem SerialTracks.addDevice {s : HostState} (hs : SerialTracks s) (env : Env) (d : UsbDevice) :
    SerialTracks (addDevice env d s).2 := by
  refine SerialTracks.same ?_ (addDevice_same env d s)
  rw [serialTracks_iff] at hs ⊢
  obtain ⟨hnodup, hkeys⟩ := hs
  simp only [registerDevice_serialDevices, registerDevice_keys]
  split
  · rename_i hnew
    refine ⟨List.nodup_append.mpr ⟨hnodup, List.nodup_singleton _, ?_⟩, fun dev hdev => ?_⟩
    · rintro a ha b hb rfl
      exact hnew.2 (List.mem_singleton.mp hb ▸ ha)
    · rcases List.mem_append.mp hdev with hdev | hdev
      · exact .inr (hkeys dev hdev)
      · exact .inl (by rw [List.mem_singleton.mp hdev])
  · exact ⟨hnodup, fun dev hdev => .inr (hkeys dev hdev)⟩

theorem SerialTracks.delDevice {s : HostState} (hs : SerialTracks s) (dev : UsbDev) :
    SerialTracks (delDevice dev s).2 := by
  unfold Host.delDevice
  rcases hd : s.devices.find? dev.name with - | d
  · exact hs
  have hdev : d.dev = dev := UsbDev.name_injective _ _ (s.devices.name_of_find? _ _ hd)
  rw [serialTracks_iff] at hs ⊢
  obtain ⟨hnodup, hkeys⟩ := hs
  have hlist : ∀ t : HostState, t.serialDevices = s.serialDevices → t.devices = s.devices →
      (t.serialDevices.erase d.dev).Nodup ∧
        ∀ dev' ∈ t.serialDevices.erase d.dev, dev'.name ∈ (t.devices.erase dev.name).keys := by
    intro t hserial hdevices
    rw [hserial, hdevices, hdev]
    refine ⟨hnodup.erase dev, fun dev' hmem => ?_⟩
    -- The entry that is left is of another address: the list has no duplicates.
    obtain ⟨hne, hmem⟩ := hnodup.mem_erase_iff.mp hmem
    rw [← DeviceMap.find?_isSome, DeviceMap.find?_erase, if_neg fun h => hne (UsbDev.name_injective _ _ h),
      DeviceMap.find?_isSome]
    exact hkeys dev' hmem
  simp only
  split
  · rw [publishCommonEvent_eq]
    exact hlist _ rfl rfl
  · exact hlist s rfl rfl

theorem Op.step_serialTracks (op : Op) (s : HostState) (hs : SerialTracks s) : SerialTracks (op.step s) := by
  rcases op.step_acts s with ⟨env, d, rfl⟩ | ⟨dev, rfl⟩ | ⟨env, hacts⟩
  · exact hs.addDevice env d
  · exact hs.delDevice dev
  · exact hs.same hacts.same

/-! ## Reused addresses -/

def Op.addsAt (dev : UsbDev) : Op → Prop
  | .addDevice _ d => d.dev = dev
  | _ => False

theorem delDevice_find? (dev : UsbDev) (s : HostState) (k : String) :
    (delDevice dev s).2.devices.find? k = if k = dev.name then none else s.devices.find? k := by
  unfold delDevice
  rcases hd : s.devices.find? dev.name with - | d
  · dsimp only
    split
    · rename_i hk
      rw [hk, hd]
    · rfl
  · dsimp only
    split
    · rw [publishCommonEvent_eq]
      exact DeviceMap.find?_erase _ _ _
    · exact DeviceMap.find?_erase _ _ _

theorem Op.step_absent (op : Op) (dev : UsbDev) (s : HostState) (hop : ¬ op.addsAt dev)
    (hs : s.devices.find? dev.name = none) : (op.step s).devices.find? dev.name = none := by
  rcases op.step_acts s with ⟨env, d, rfl⟩ | ⟨dev', rfl⟩ | ⟨env, hacts⟩
  · rw [DeviceMap.find?_eq_none] at hs ⊢
    have hkeys := (addDevice_same env d s).keys
    show dev.name ∉ (Host.addDevice env d s).2.devices.keys
    rw [hkeys, registerDevice_keys]
    rintro (h | h)
    · exact hop (UsbDev.name_injective _ _ h).symm
    · exact hs h
  · show (Host.delDevice dev' s).2.devices.find? dev.name = none
    rw [delDevice_find?]
    split
    · rfl
    · exact hs
  · rw [DeviceMap.find?_eq_none] at hs ⊢
    rwa [hacts.same.keys]

theorem SerialTracks.addDevice_fresh {s : HostState} (hs : SerialTracks s) (env : Env) (d : UsbDevice)
    (hd : s.devices.find? d.dev.name = none) :
    isUsbSerialDevice (Host.addDevice env d s).2.serialDevices d = hasSerialPort env d := by
  obtain ⟨-, -, -, hserial⟩ := registerDevice_spec env d s
  have hold : isUsbSerialDevice s.serialDevices d = false := by
    rw [← Bool.not_eq_true, isUsbSerialDevice_iff]
    exact hs.notMem d.dev hd
  rw [(addDevice_same env d s).serial, hserial, hold, Bool.false_or]

/-- In every run the list has no address twice and only addresses of stored devices. Once a device is
deleted, whatever happens before the next one takes its address, that one is serial exactly if a port names it. -/
theorem serial_list_tracks (s : HostState) (hs : Reachable (fun _ _ => True) s) :
    SerialTracks s ∧ ∀ dev t, Run.Reachable (· = (delDevice dev s).2) Op.step (fun op _ => ¬ op.addsAt dev) t →
      ∀ env d, d.dev = dev → isUsbSerialDevice (addDevice env d t).2.serialDevices d = hasSerialPort env d := by
  have hrun : SerialTracks s := by
    refine hs.invariant ?_ fun op s _ h => op.step_serialTracks s h
    rintro - rfl
    exact ⟨List.nodup_nil, fun _ h => by cases h⟩
  refine ⟨hrun, ?_⟩
  rintro dev t ht env d rfl
  have hlater : SerialTracks t ∧ t.devices.find? d.dev.name = none := by
    refine ht.invariant (I := fun t => SerialTracks t ∧ t.devices.find? d.dev.name = none) ?_ ?_
    · rintro - rfl
      refine ⟨hrun.delDevice d.dev, ?_⟩
      rw [delDevice_find?, if_pos rfl]
    · rintro op t hop ⟨htracks, habsent⟩
      exact ⟨op.step_serialTracks t htracks, op.step_absent d.dev t hop habsent⟩
  exact hlater.1.addDevice_fresh env d hlater.2

/-- A serial device leaves, and a memory stick takes its address. -/
theorem serial_list_tracks_reused :
    let adapter : UsbDevice := { busNum := 1, devAddr := 2 }
    let s := (Op.addDevice { Env.succeeding with serialGetPortList := some (.ok, [⟨1, 2⟩]) } adapter).step HostState.init
    isUsbSerialDevice s.serialDevices adapter = true ∧
      isUsbSerialDevice (addDevice Env.succeeding adapter (delDevice ⟨1, 2⟩ s).2).2.serialDevices adapter = false := by
  intro adapter s
  refine ⟨by decide +kernel, ?_⟩
  exact (serial_list_tracks s (.step _ (.init rfl) trivial)).2 ⟨1, 2⟩ _ (.init rfl) Env.succeeding adapter rfl

end UsbManager.Host
