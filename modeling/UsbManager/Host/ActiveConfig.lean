import UsbManager.Host.Requests

/-!
# The active configuration

HDI reports the active configuration by its value, the passes address the list by position: the
value minus one, in eight bits. The two agree exactly for devices whose active configuration
sits at that position. For the value zero the interface pass looks at position 255.
-/

namespace UsbManager.Host

/-- The requests for the interfaces of the configuration whose id is `v`, none for the value zero. -/
def requestsFor (configs : List USBConfig) (v : UInt8) (p : UsbInterface → Bool) (authorized : Bool) : List Request :=
  if v = 0 then []
  else (configs.filter fun c => c.id = (v.toNat : Int)).flatMap (configRequests p authorized)

/-- New flags in the configuration whose id is `v` and in no other. -/
def flagsFor (configs : List USBConfig) (v : UInt8) (p : UsbInterface → Bool) (authorized : Bool) : List USBConfig :=
  if v = 0 then configs
  else configs.map fun c => if c.id = (v.toNat : Int) then configFlags p authorized c else c

/-- A pass from `s` to `s'` acts on the configuration of `d` with id `v`, and on no other. -/
structure ActsOnActive (v : UInt8) (p : UsbInterface → Bool) (authorized : Bool) (d : UsbDevice) (s s' : HostState) :
    Prop where
  requests : requestsOf d.dev (added s s') = requestsFor d.configs v p authorized
  flags : (s'.devices.find? d.dev.name).map UsbDevice.configs = some (flagsFor d.configs v p authorized)

/-! ## What the passes do -/

section

variable {env : Env} {active : UsbDev → UInt8} (hdi : HdiReports env active)
include hdi

theorem manageInterfaceTypeImpl_at (e : InterfaceType × TypePattern) (he : e ∈ gTypeMap) (disable : Bool)
    (s : HostState) (d : UsbDevice) (hd : s.devices.find? d.dev.name = some d) (hub : d.isHub = false)
    (hen : d.authorizeStatus ≠ .disabled) :
    requestsOf d.dev (added s (manageInterfaceTypeImpl env e.1 disable s).2) =
        (d.configs[(active d.dev - 1).toNat]?.map (configRequests e.2.coversInterface !disable)).getD [] ∧
      ((manageInterfaceTypeImpl env e.1 disable s).2.devices.find? d.dev.name).map UsbDevice.configs =
        some (d.configs.modify (active d.dev - 1).toNat (configFlags e.2.coversInterface !disable)) := by
  have hrun : (manageInterfaceTypeImpl env e.1 disable s).2 = forDevices (manageInterfaceTypeDevice env e.2 disable) s := by
    simp only [manageInterfaceTypeImpl, disjoint_gTypeMap.lookup e he]
  have hskip : ¬ (d.isHub || decide (d.authorizeStatus = .disabled)) = true := by simp [hub, hen]
  rw [hrun]
  obtain ⟨t, ht, htreq, -, hdev, hreq⟩ := forDevices_at _ (manageInterfaceTypeDevice_local env e.2 disable) s d hd
  constructor
  · apply requestsOf_added
    · exact (forDevices_acts env (A := fun _ _ => True) _ s.serialDevices
        (fun s d _ _ => manageInterfaceTypeDevice_acts env e.2 disable d s) s rfl).trace
    · rw [hreq, manageInterfaceTypeDevice_requests hdi, htreq, if_neg hskip]
  · rw [hdev, manageInterfaceTypeDevice_devices hdi e.2 disable d t ht, DeviceMap.find?_modify, if_pos rfl, ht,
      Option.map_some, interfaceTypeMap, if_neg hskip]
    rfl

theorem authorizeActiveConfig_configs (d d' : UsbDevice) (authorized : Bool) (s : HostState)
    (hd : s.devices.find? d.dev.name = some d') (hconfigs : d'.configs = d.configs) :
    ((authorizeActiveConfig env d authorized s).devices.find? d.dev.name).map UsbDevice.configs =
      some (if active d.dev < 1 then d.configs
        else d.configs.modify (active d.dev - 1).toNat (configFlags (fun _ => true) authorized)) := by
  obtain ⟨hret, hconfig⟩ := hdi.getActiveConfig_fst d.dev (openDevice env d.dev s).2
  have hclose : ∀ t, (close env d.dev t).2.devices = t.devices := fun _ => rfl
  have hget : (getActiveConfig env d.dev (openDevice env d.dev s).2).2.2.devices = s.devices := rfl
  unfold authorizeActiveConfig
  simp only [hdi.openDevice_fst, hret, hconfig, ne_eq, not_true_eq_false, if_false, decide_false, Bool.false_or,
    decide_eq_true_eq]
  split
  · rw [hclose, hget, hd, Option.map_some, hconfigs]
  rcases hc : d.configs[(active d.dev - 1).toNat]? with - | config
  · simp only
    rw [hclose, hget, hd, Option.map_some, hconfigs, List.modify_eq_self (List.getElem?_eq_none_iff.mp hc)]
  · simp only
    rw [hclose, HostState.find?_setInterfaces, if_pos rfl, mapState_devices, hget, hd]
    · rw [Option.map_some, Option.map_some, UsbDevice.withInterfaces, hconfigs,
        Loop.mapState_fst _ (fun i => { i with authorized := authorized }) fun _ _ => rfl]
      refine congrArg some (List.ext_getElem? fun j => ?_)
      rw [List.getElem?_modify, List.getElem?_modify]
      split
      · rename_i hj
        rw [← hj, hc]
        rfl
      · rfl
    · exact fun i t => usbInterfaceAuthorize_devices env d.dev _ _ authorized t

theorem manageGlobalInterfaceImpl_at (s : HostState) (d : UsbDevice) (hd : s.devices.find? d.dev.name = some d)
    (hserial : serialSkip env s.serialDevices d = false) :
    requestsOf d.dev (added s (manageGlobalInterfaceImpl env false s).2) =
        (if active d.dev < 1 then []
          else (d.configs[(active d.dev - 1).toNat]?.map (configRequests (fun _ => true) true)).getD []) ∧
      ((manageGlobalInterfaceImpl env false s).2.devices.find? d.dev.name).map UsbDevice.configs =
        some (if active d.dev < 1 then d.configs
          else d.configs.modify (active d.dev - 1).toNat (configFlags (fun _ => true) true)) := by
  obtain ⟨t, ht, htreq, htserial, hdev, hreq⟩ := forDevices_at _ (manageGlobalDevice_local env false) s d hd
  have hturn : manageGlobalDevice env false d t =
      authorizeActiveConfig env d true (usbDeviceAuthorize env d.dev true "GlobalType" t).2 := by
    rw [serialSkip, ← htserial] at hserial
    simp [manageGlobalDevice, hserial]
  rw [hturn] at hdev hreq
  constructor
  · apply requestsOf_added
    · exact (manageGlobalInterfaceImpl_acts env (A := fun _ _ => True) false (fun _ => trivial) s).trace
    · refine hreq.trans ?_
      rw [authorizeActiveConfig_requests hdi, usbDeviceAuthorize_requests, htreq]
  · obtain ⟨d', hd', hconfigs⟩ : ∃ d', (usbDeviceAuthorize env d.dev true "GlobalType" t).2.devices.find? d.dev.name =
        some d' ∧ d'.configs = d.configs := by
      rcases usbDeviceAuthorize_cases env d.dev true "GlobalType" t with h | ⟨ret, -, h⟩ | ⟨d', -, -, -, h⟩
      · exact ⟨d, by rw [h, ht], rfl⟩
      · exact ⟨d, by rw [h]; exact ht, rfl⟩
      · refine ⟨d.withStatus (statusOf true), ?_, rfl⟩
        rw [h, HostState.find?_setAuthorizeStatus, if_pos rfl]
        exact congrArg (Option.map _) ht
    exact (congrArg (Option.map UsbDevice.configs) hdev).trans (authorizeActiveConfig_configs hdi d d' true _ hd' hconfigs)

end

/-! ## Position and id -/

theorem filter_id_eq (configs : List USBConfig) (hnd : (configs.map USBConfig.id).Nodup) (j : Nat) (c : USBConfig)
    (hc : configs[j]? = some c) : configs.filter (fun c' => c'.id = c.id) = [c] := by
  induction configs generalizing j with
  | nil => cases hc
  | cons a l ih =>
    rw [List.map_cons, List.nodup_cons] at hnd
    cases j with
    | zero =>
      obtain rfl := Option.some.inj hc
      rw [List.filter_cons_of_pos (by simp), List.filter_eq_nil_iff.mpr]
      intro c' hc' hid
      exact hnd.1 (List.mem_map.mpr ⟨c', hc', by simpa using hid⟩)
    | succ j =>
      have hmem : c ∈ l := List.mem_of_getElem? hc
      rw [List.filter_cons_of_neg, ih hnd.2 j hc]
      intro hid
      exact hnd.1 (List.mem_map.mpr ⟨c, hmem, by simpa using (of_decide_eq_true hid).symm⟩)

theorem modify_eq_map_id (configs : List USBConfig) (hnd : (configs.map USBConfig.id).Nodup) (j : Nat) (c : USBConfig)
    (hc : configs[j]? = some c) (f : USBConfig → USBConfig) :
    configs.modify j f = configs.map fun c' => if c'.id = c.id then f c' else c' := by
  refine List.ext_getElem? fun k => ?_
  rw [List.getElem?_modify, List.getElem?_map]
  rcases hk : configs[k]? with - | c'
  · simp
  · have hj : j < configs.length := (List.getElem?_eq_some_iff.mp hc).1
    have hiff : j = k ↔ c'.id = c.id := by
      constructor
      · rintro rfl
        rw [hc] at hk
        rw [Option.some.inj hk]
      · intro hid
        refine (List.getElem?_inj (by rwa [List.length_map]) hnd).mp ?_
        rw [List.getElem?_map, List.getElem?_map, hc, hk, Option.map_some, Option.map_some, hid]
    by_cases hjk : j = k
    · simp [hjk, hiff.mp hjk]
    · have hid : ¬ c'.id = c.id := fun h => hjk (hiff.mpr h)
      simp [hjk, hid]

/-! ## When the passes act on the active configuration -/

/-- The `bConfigurationValue`s of the configurations, in order. -/
def HasIds (d : UsbDevice) (ids : List UInt8) : Prop :=
  d.configs.map USBConfig.id = ids.map fun b => (b.toNat : Int)

/-- Both passes act on the active configuration of every device with these configuration ids. -/
def PassesActOnActive (ids : List UInt8) (v : UInt8) : Prop :=
  ∀ (env : Env) (active : UsbDev → UInt8) (s : HostState) (d : UsbDevice), HdiReports env active →
    s.devices.find? d.dev.name = some d → HasIds d ids → active d.dev = v →
    (∀ e ∈ gTypeMap, ∀ disable, d.isHub = false → d.authorizeStatus ≠ .disabled →
      ActsOnActive v e.2.coversInterface (!disable) d s (manageInterfaceTypeImpl env e.1 disable s).2) ∧
    (serialSkip env s.serialDevices d = false →
      ActsOnActive v (fun _ => true) true d s (manageGlobalInterfaceImpl env false s).2)

theorem position_eq (d : UsbDevice) (ids : List UInt8) (hids : HasIds d ids) (hnd : ids.Nodup) (v : UInt8)
    (hv : v ≠ 0) (hpos : ids[(v - 1).toNat]? = some v) (p : UsbInterface → Bool) (authorized : Bool) :
    (d.configs[(v - 1).toNat]?.map (configRequests p authorized)).getD [] = requestsFor d.configs v p authorized ∧
      d.configs.modify (v - 1).toNat (configFlags p authorized) = flagsFor d.configs v p authorized := by
  have hidsnd : (d.configs.map USBConfig.id).Nodup := by
    rw [hids]
    exact hnd.map fun a b hab => UInt8.toNat_inj.mp (Int.ofNat.inj hab)
  have hmap : (d.configs.map USBConfig.id)[(v - 1).toNat]? = some (v.toNat : Int) := by
    rw [hids, List.getElem?_map, hpos]; rfl
  rw [List.getElem?_map, Option.map_eq_some_iff] at hmap
  obtain ⟨c, hc, hid⟩ := hmap
  rw [requestsFor, flagsFor, if_neg hv, if_neg hv, ← hid, filter_id_eq _ hidsnd _ c hc,
    modify_eq_map_id _ hidsnd _ c hc, hc]
  exact ⟨(List.append_nil _).symm, rfl⟩

/-- A device with these configuration ids and a storage interface in each configuration. -/
def storageDevice (ids : List UInt8) : UsbDevice :=
  { busNum := 1, devAddr := 2, baseClass := 0
    configs := ids.map fun b => { id := b.toNat, interfaces := [{ id := 0, klass := 8 }] } }

def storageType : InterfaceType × TypePattern := (.typeStorage, ⟨8, -1, -1⟩)

def storageState (ids : List UInt8) : HostState :=
  { HostState.init with devices := DeviceMap.empty.insert (storageDevice ids) }

def storageEnv (v : UInt8) : Env := { Env.succeeding with hdiGetConfig := fun _ _ => (.ok, v) }

theorem hdiReports_storageEnv (v : UInt8) : HdiReports (storageEnv v) fun _ => v :=
  ⟨rfl, rfl, fun _ _ => rfl, fun _ _ => rfl⟩

theorem find?_storageState (ids : List UInt8) :
    (storageState ids).devices.find? (storageDevice ids).dev.name = some (storageDevice ids) := by
  rw [storageState, DeviceMap.find?_insert, if_pos ⟨rfl, List.not_mem_nil⟩]

theorem storageDevice_requests (ids : List UInt8) (v : UInt8) :
    requestsOf (storageDevice ids).dev
        (added (storageState ids) (manageInterfaceTypeImpl (storageEnv v) storageType.1 true (storageState ids)).2) =
      (ids[(v - 1).toNat]?.map fun b => [(b, 0, false)]).getD [] := by
  have hat := (manageInterfaceTypeImpl_at (hdiReports_storageEnv v) storageType (by decide) true (storageState ids)
    (storageDevice ids) (find?_storageState ids) rfl (by simp [storageDevice])).1
  rw [hat, storageDevice, List.getElem?_map, Option.map_map]
  congr 1
  refine Option.map_congr fun b _ => ?_
  show [(UInt8.ofInt (b.toNat : Int), 0, false)] = [(b, 0, false)]
  rw [ofInt_id]

theorem requestsFor_storageDevice (ids : List UInt8) (hnd : ids.Nodup) (v : UInt8) (hv : v ≠ 0) (hmem : v ∈ ids) :
    requestsFor (storageDevice ids).configs v storageType.2.coversInterface false = [(v, 0, false)] := by
  obtain ⟨j, hj⟩ := List.mem_iff_getElem?.mp hmem
  have hids : ((storageDevice ids).configs.map USBConfig.id) = ids.map fun b => (b.toNat : Int) := by
    simp [storageDevice]
  have hidsnd : ((storageDevice ids).configs.map USBConfig.id).Nodup := by
    rw [hids]
    exact hnd.map fun a b hab => UInt8.toNat_inj.mp (Int.ofNat.inj hab)
  have hc : (storageDevice ids).configs[j]? = some { id := v.toNat, interfaces := [{ id := 0, klass := 8 }] } := by
    rw [storageDevice, List.getElem?_map, hj]
    rfl
  have hfilter := filter_id_eq _ hidsnd j _ hc
  rw [requestsFor, if_neg hv]
  refine (congrArg (List.flatMap _) hfilter).trans ?_
  show [(UInt8.ofInt (v.toNat : Int), 0, false)] = [(v, 0, false)]
  rw [ofInt_id]

section Position

variable (ids : List UInt8) (hnd : ids.Nodup) (v : UInt8) (hpos : v ≠ 0 → ids[(v - 1).toNat]? = some v)
  (hzero : v = 0 → ids.length ≤ 255)
include hnd hpos hzero

theorem requests_at_position (d : UsbDevice) (hids : HasIds d ids) (p : UsbInterface → Bool) (authorized : Bool) :
    (d.configs[(v - 1).toNat]?.map (configRequests p authorized)).getD [] = requestsFor d.configs v p authorized ∧
      d.configs.modify (v - 1).toNat (configFlags p authorized) = flagsFor d.configs v p authorized := by
  by_cases hv0 : v = 0
  · have hlen : d.configs.length ≤ (v - 1).toNat := by
      rw [hv0]
      have := congrArg List.length hids
      rw [List.length_map, List.length_map] at this
      exact this.trans_le (hzero hv0)
    rw [requestsFor, flagsFor, if_pos hv0, if_pos hv0, List.getElem?_eq_none hlen, List.modify_eq_self hlen]
    exact ⟨rfl, rfl⟩
  · exact position_eq d ids hids hnd _ hv0 (hpos hv0) p authorized

theorem passes_act_of_position : PassesActOnActive ids v := by
  intro env active s d hdi hd hids hactive
  subst hactive
  have hat := requests_at_position ids hnd _ hpos hzero d hids
  refine ⟨fun e he disable hub hen => ?_, fun hserial => ?_⟩
  · obtain ⟨hreq, hflags⟩ := manageInterfaceTypeImpl_at hdi e he disable s d hd hub hen
    obtain ⟨hreq', hflags'⟩ := hat e.2.coversInterface !disable
    exact ⟨hreq.trans hreq', hflags.trans (congrArg some hflags')⟩
  · obtain ⟨hreq, hflags⟩ := manageGlobalInterfaceImpl_at hdi s d hd hserial
    have hguard : active d.dev < 1 ↔ active d.dev = 0 := by
      rw [UInt8.lt_iff_toNat_lt, ← UInt8.toNat_inj]
      exact Nat.lt_one_iff
    by_cases hv0 : active d.dev = 0
    · rw [if_pos (hguard.mpr hv0)] at hreq hflags
      refine ⟨hreq.trans ?_, hflags.trans ?_⟩
      · rw [requestsFor, if_pos hv0]
      · rw [flagsFor, if_pos hv0]
    · rw [if_neg (mt hguard.mp hv0)] at hreq hflags
      obtain ⟨hreq', hflags'⟩ := hat (fun _ => true) true
      exact ⟨hreq.trans hreq', hflags.trans (congrArg some hflags')⟩

end Position

/-- Position and id agree for every device with these ids if and only if `v` sits at position
`v - 1`. The value zero needs room below position 255. -/
theorem passes_act_on_active_iff (ids : List UInt8) (hnd : ids.Nodup) (v : UInt8) (hv : v = 0 ∨ v ∈ ids) :
    PassesActOnActive ids v ↔
      (v ≠ 0 → ids[(v - 1).toNat]? = some v) ∧ (v = 0 → ids.length ≤ 255) := by
  constructor
  · intro h
    have hreq := ((h (storageEnv v) (fun _ => v) (storageState ids) (storageDevice ids) (hdiReports_storageEnv v)
      (find?_storageState ids) (by simp [HasIds, storageDevice]) rfl).1 storageType (by decide) true rfl
      (by simp [storageDevice])).requests
    rw [storageDevice_requests] at hreq
    refine ⟨fun hv0 => ?_, fun hv0 => ?_⟩
    · have hmem : v ∈ ids := hv.resolve_left hv0
      rw [Bool.not_true, requestsFor_storageDevice ids hnd v hv0 hmem] at hreq
      rcases hb : ids[(v - 1).toNat]? with - | b
      · rw [hb] at hreq
        cases hreq
      · rw [hb] at hreq
        have hbv : [(b, (0 : UInt8), false)] = [(v, 0, false)] := hreq
        rw [(Prod.mk.inj (List.cons.inj hbv).1).1]
    · -- position 255 is empty, or the pass would ask for what is there
      subst hv0
      by_contra hlen
      obtain ⟨b, hb⟩ : ∃ b, ids[((0 : UInt8) - 1).toNat]? = some b :=
        ⟨_, List.getElem?_eq_getElem (by exact Nat.lt_of_not_le hlen)⟩
      rw [hb] at hreq
      cases hreq
  · rintro ⟨hpos, hzero⟩
    exact passes_act_of_position ids hnd v hpos hzero

theorem passes_act_on_active_single : PassesActOnActive [1] 1 :=
  (passes_act_on_active_iff [1] (by decide) 1 (.inr (by decide))).mpr ⟨fun _ => rfl, fun h => absurd h (by decide)⟩

/-- One configuration with id 2 that is active: the storage ban asks for nothing. -/
theorem active_config_missed : ¬ PassesActOnActive [2] 2 := by
  intro h
  have hreq := ((h (storageEnv 2) (fun _ => 2) (storageState [2]) (storageDevice [2]) (hdiReports_storageEnv 2)
    (find?_storageState [2]) (by simp [HasIds, storageDevice]) rfl).1 storageType (by decide) true rfl
    (by simp [storageDevice])).requests
  rw [storageDevice_requests] at hreq
  exact absurd hreq (by decide)

end UsbManager.Host
