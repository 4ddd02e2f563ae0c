import UsbManager.Host.Success

/-!
# The type policy

`ExecuteManageInterfaceType` runs through two unordered tables of patterns and overwrites flags
as it goes. Since the patterns of a table are disjoint, each device and each interface is
decided by at most one entry, and the whole is one map over the devices that does not depend on
the order of the tables.
-/

namespace UsbManager.Host

/-! ## Which entries a list names -/

/-- Some element of the list, of the kind of the table, falls under the entry. -/
def named (isDev : Bool) (disableType : List UsbDeviceType) (e : InterfaceType × TypePattern) : Bool :=
  disableType.any fun t => t.isDeviceType = isDev && e.2.coversType t

theorem named_iff (isDev : Bool) (disableType : List UsbDeviceType) (e : InterfaceType × TypePattern) :
    named isDev disableType e ↔ ∃ t ∈ disableType, t.isDeviceType = isDev ∧ e.2.coversType t := by
  simp [named, List.any_eq_true]

theorem findMatchingTypes_contains {table : TypeTable} (h : PatternsDisjoint table) (visit : VisitOrder table)
    (isDev : Bool) (disableType : List UsbDeviceType) (e : InterfaceType × TypePattern) (he : e ∈ table) :
    (findMatchingTypes visit.entries isDev disableType).contains e.1 = named isDev disableType e := by
  rw [Bool.eq_iff_iff, List.contains_iff_mem, named_iff, findMatchingTypes, List.mem_filterMap]
  refine exists_congr fun t => and_congr_right fun _ => ?_
  by_cases hdev : t.isDeviceType = isDev
  · simp only [hdev, ne_eq, not_true_eq_false, if_false, true_and, Option.map_eq_some_iff, TypePattern.coversType,
      h.find?_eq visit]
    constructor
    · rintro ⟨e', hfind, hkey⟩
      have he' := List.mem_of_find?_eq_some hfind
      have hcovers := of_find?_entry table (fun p => p.covers t.baseClass t.subClass t.protocol) e' hfind
      have : e' = e := List.inj_on_of_nodup_map h.keys he' he hkey
      exact this ▸ hcovers
    · intro hcovers
      rcases hfind : table.find? (fun e => e.2.covers t.baseClass t.subClass t.protocol) with - | e'
      · exact absurd hcovers (List.find?_eq_none.mp hfind e he)
      · have he' := List.mem_of_find?_eq_some hfind
        have hcovers' := of_find?_entry table (fun p => p.covers t.baseClass t.subClass t.protocol) e' hfind
        exact ⟨e', hfind, congrArg Prod.fst (h.unique e' e he' he _ _ _ hcovers' hcovers)⟩
  · simp [hdev]

theorem execFlag_eq {table : TypeTable} (h : PatternsDisjoint table) (visit : VisitOrder table) (isDev : Bool)
    (disableType : List UsbDeviceType) (disable : Bool) (e : InterfaceType × TypePattern) (he : e ∈ table) :
    execFlag visit.entries isDev disableType disable e = (named isDev disableType e != disable) := by
  rw [execFlag, findMatchingTypes_contains h visit isDev disableType e he]
  cases named isDev disableType e <;> cases disable <;> rfl

/-! ## Passes as maps -/

theorem dev_foldl {ε : Type} (g : ε → UsbDevice → UsbDevice) (hg : ∀ e d, (g e d).dev = d.dev) (l : List ε)
    (d : UsbDevice) : (l.foldl (fun d e => g e d) d).dev = d.dev := by
  induction l generalizing d with
  | nil => rfl
  | cons e l ih => rw [List.foldl_cons, ih, hg]

/-- A fold of passes is the map of the folds. `I` is what a pass relies on and keeps. -/
theorem foldl_devices {ε : Type} (I : HostState → Prop) (f : HostState → ε → HostState)
    (g : ε → UsbDevice → UsbDevice) (hg : ∀ e d, (g e d).dev = d.dev) (l : List ε)
    (hf : ∀ e ∈ l, ∀ s, I s → I (f s e) ∧ (f s e).devices = s.devices.mapVal (g e) (hg e)) (s : HostState) (hs : I s) :
    (l.foldl f s).devices = s.devices.mapVal (fun d => l.foldl (fun d e => g e d) d) (dev_foldl g hg l) := by
  induction l generalizing s with
  | nil => exact s.devices.mapVal_id.symm
  | cons e l ih =>
    obtain ⟨hI, hdevices⟩ := hf e List.mem_cons_self s hs
    rw [List.foldl_cons, ih (fun e' he' => hf e' (List.mem_cons_of_mem e he')) _ hI]
    rw [hdevices, DeviceMap.mapVal_mapVal]
    rfl

/-! ## Devices -/

/-- The device pass leaves serial devices to the serial policy. -/
def serialSkip (env : Env) (serialDevices : List UsbDev) (d : UsbDevice) : Bool :=
  isUsbSerialDisable env && isUsbSerialDevice serialDevices d

/-- What one entry of the table of devices makes of a device. -/
def deviceTypeMap (skip : Bool) (p : TypePattern) (disable : Bool) (d : UsbDevice) : UsbDevice :=
  if skip then d else if p.coversDevice d then authorizeDevice (!disable) d else d

theorem dev_deviceTypeMap (skip : Bool) (p : TypePattern) (disable : Bool) (d : UsbDevice) :
    (deviceTypeMap skip p disable d).dev = d.dev := by
  unfold deviceTypeMap
  split_ifs <;> rfl

theorem coversDevice_authorizeDevice (p : TypePattern) (b : Bool) (d : UsbDevice) :
    p.coversDevice (authorizeDevice b d) = p.coversDevice d := rfl

theorem coversDevice_congr (p : TypePattern) (d d' : UsbDevice) (hident : d.ident = d'.ident) :
    p.coversDevice d = p.coversDevice d' := by
  show p.coversDevice d.ident = p.coversDevice d'.ident
  rw [hident]

section

variable {env : Env} {active : UsbDev → UInt8} (hdi : HdiSucceeds env active)
include hdi

theorem manageDeviceTypeDevice_devices (p : TypePattern) (disable : Bool) (d : UsbDevice) (s : HostState)
    (hd : s.devices.find? d.dev.name = some d) :
    (manageDeviceTypeDevice env p disable d s).devices =
      s.devices.modify d.dev.name (fun d => deviceTypeMap (serialSkip env s.serialDevices d) p disable d)
        fun d => dev_deviceTypeMap _ p disable d := by
  rw [manageDeviceTypeDevice, ← serialSkip]
  simp only [hdi.openDevice_fst, ne_eq, not_true_eq_false, if_false]
  split_ifs with hskip hcovers
  · refine (DeviceMap.modify_id _ _ _ fun d' h => ?_).symm
    obtain rfl := Option.some.inj (hd.symm.trans h)
    rw [deviceTypeMap, if_pos hskip]
  · refine (usbDeviceAuthorize_devices env _ _ _ _ (hdi.toHdiWorks.acceptsAt _ _ _)).trans
      (DeviceMap.modify_congr _ _ _ _ fun d' h => ?_)
    obtain rfl := Option.some.inj (hd.symm.trans h)
    rw [deviceTypeMap, if_neg hskip, if_pos hcovers]
  · refine (DeviceMap.modify_id _ _ _ fun d' h => ?_).symm
    obtain rfl := Option.some.inj (hd.symm.trans h)
    rw [deviceTypeMap, if_neg hskip, if_neg hcovers]

theorem manageDeviceTypeImpl_devices (e : InterfaceType × TypePattern) (he : e ∈ dTypeMap) (disable : Bool)
    (serialDevices : List UsbDev) (s : HostState) (hs : s.serialDevices = serialDevices) :
    (manageDeviceTypeImpl env e.1 disable s).2.serialDevices = serialDevices ∧
      (manageDeviceTypeImpl env e.1 disable s).2.devices =
        s.devices.mapVal (fun d => deviceTypeMap (serialSkip env serialDevices d) e.2 disable d)
          fun d => dev_deviceTypeMap _ e.2 disable d := by
  simp only [manageDeviceTypeImpl, disjoint_dTypeMap.lookup e he]
  refine forDevices_devices (fun s => s.serialDevices = serialDevices) _ _ _ (fun s d hs hd => ⟨?_, ?_⟩) s hs
  · exact (manageDeviceTypeDevice_acts env (A := fun _ _ => True) e.2 disable s d hd
      fun _ _ => trivial).same.serial.trans hs
  · subst hs
    exact manageDeviceTypeDevice_devices hdi e.2 disable d s hd

end

/-- The device after the device pass: the entry that covers it decides. -/
def typePolicyStatus (skip : Bool) (disableType : List UsbDeviceType) (disable : Bool) (d : UsbDevice) : UsbDevice :=
  if skip then d
  else
    match dTypeMap.find? fun e => e.2.coversDevice d with
    | none => d
    | some e => authorizeDevice (named true disableType e != disable) d

theorem dev_typePolicyStatus (skip : Bool) (disableType : List UsbDeviceType) (disable : Bool) (d : UsbDevice) :
    (typePolicyStatus skip disableType disable d).dev = d.dev := by
  unfold typePolicyStatus
  split
  · rfl
  · split <;> rfl

theorem foldl_deviceTypeMap (visit : VisitOrder dTypeMap) (skip : UsbDevice → Bool)
    (hskip : ∀ b d, skip (authorizeDevice b d) = skip d) (disableType : List UsbDeviceType) (disable : Bool)
    (d : UsbDevice) :
    visit.entries.foldl (fun d e =>
        deviceTypeMap (skip d) e.2 (!execFlag visit.entries true disableType disable e) d) d =
      typePolicyStatus (skip d) disableType disable d := by
  rw [typePolicyStatus]
  by_cases hs : skip d = true
  · rw [if_pos hs]
    exact Loop.foldl_fixed _ _ _ fun e _ => by rw [deviceTypeMap, if_pos hs]
  rw [if_neg hs]
  rcases hfind : dTypeMap.find? (fun e => e.2.coversDevice d) with - | e
  · rw [hfind]
    refine Loop.foldl_fixed _ _ _ fun e he => ?_
    have := List.find?_eq_none.mp hfind e (visit.perm.mem_iff.mp he)
    rw [deviceTypeMap, if_neg hs, if_neg this]
  · rw [hfind]
    have hmem := List.mem_of_find?_eq_some hfind
    have hcovers := of_find?_entry dTypeMap (fun p => p.coversDevice d) e hfind
    -- every other entry misses the device, before and after its status changed
    have hother : ∀ e' ∈ visit.entries, e' ≠ e → ¬ e'.2.coversDevice d := fun e' he' hne hc =>
      hne (disjoint_dTypeMap.unique e' e (visit.perm.mem_iff.mp he') hmem _ _ _ hc hcovers)
    have hact : deviceTypeMap (skip d) e.2 (!execFlag visit.entries true disableType disable e) d =
        authorizeDevice (named true disableType e != disable) d := by
      rw [deviceTypeMap, if_neg hs, if_pos hcovers, Bool.not_not, execFlag_eq disjoint_dTypeMap visit _ _ _ e hmem]
    have hnodup : visit.entries.Nodup := visit.perm.nodup_iff.mpr disjoint_dTypeMap.nodup
    rw [Loop.foldl_once _ visit.entries hnodup e (visit.perm.mem_iff.mpr hmem) d, hact]
    · intro e' he' hne
      rw [deviceTypeMap, if_neg hs, if_neg (hother e' he' hne)]
    · intro e' he' hne
      rw [hact, deviceTypeMap, hskip, if_neg hs, coversDevice_authorizeDevice, if_neg (hother e' he' hne)]

theorem executeDeviceTypes_devices {env : Env} {active : UsbDev → UInt8} (hdi : HdiSucceeds env active)
    (disableType : List UsbDeviceType) (disable : Bool) (s : HostState) :
    (executeManageDeviceType env disableType disable env.dVisit.entries true s).devices =
      s.devices.mapVal (fun d => typePolicyStatus (serialSkip env s.serialDevices d) disableType disable d)
        fun d => dev_typePolicyStatus _ disableType disable d := by
  have h := foldl_devices (fun t => t.serialDevices = s.serialDevices) (fun s e =>
      (manageDeviceTypeImpl env e.1 (!execFlag env.dVisit.entries true disableType disable e) s).2)
    (fun e d => deviceTypeMap (serialSkip env s.serialDevices d) e.2
      (!execFlag env.dVisit.entries true disableType disable e) d)
    (fun e d => dev_deviceTypeMap _ e.2 _ d) env.dVisit.entries
    (fun e he t ht => manageDeviceTypeImpl_devices hdi e (env.dVisit.perm.mem_iff.mp he) _ s.serialDevices t ht) s rfl
  simp only [execFlag, Bool.not_not] at h
  refine h.trans (DeviceMap.mapVal_congr _ _ _ fun d _ => ?_)
  have hd := foldl_deviceTypeMap env.dVisit (serialSkip env s.serialDevices) (fun _ _ => rfl) disableType disable d
  simpa only [execFlag, Bool.not_not] using hd

/-! ## Interfaces -/

def interfaceMap (p : TypePattern) (disable : Bool) (i : UsbInterface) : UsbInterface :=
  if p.coversInterface i then { i with authorized := !disable } else i

/-- Changes the interfaces at the position that the active value stands for. -/
def mapActive (active : UsbDev → UInt8) (g : UsbInterface → UsbInterface) (d : UsbDevice) : UsbDevice :=
  { d with configs := d.configs.modify (active d.dev - 1).toNat fun c =>
      { c with interfaces := c.interfaces.map g } }

/-- What one entry of the table of interfaces makes of a device. -/
def interfaceTypeMap (active : UsbDev → UInt8) (p : TypePattern) (disable : Bool) (d : UsbDevice) : UsbDevice :=
  if d.isHub || d.authorizeStatus = .disabled then d else mapActive active (interfaceMap p disable) d

theorem dev_interfaceTypeMap (active : UsbDev → UInt8) (p : TypePattern) (disable : Bool) (d : UsbDevice) :
    (interfaceTypeMap active p disable d).dev = d.dev := by
  unfold interfaceTypeMap
  split <;> rfl

theorem mapActive_mapActive (active : UsbDev → UInt8) (f g : UsbInterface → UsbInterface) (d : UsbDevice) :
    mapActive active g (mapActive active f d) = mapActive active (fun i => g (f i)) d := by
  simp only [mapActive, UsbDevice.dev, List.modify_modify_eq, Function.comp_def, List.map_map]

theorem mapActive_id (active : UsbDev → UInt8) (d : UsbDevice) : mapActive active (fun i => i) d = d := by
  have : (fun c : USBConfig => { c with interfaces := c.interfaces.map fun i => i }) = id := by
    funext c
    simp
  rw [mapActive, this, List.modify_id]

theorem usbInterfaceAuthorize_devices (env : Env) (dev : UsbDev) (configId interfaceId : UInt8) (authorized : Bool)
    (s : HostState) : (usbInterfaceAuthorize env dev configId interfaceId authorized s).2.devices = s.devices := by
  unfold usbInterfaceAuthorize
  simp only
  split_ifs <;> rfl

theorem manageInterfaceOfType_fst (env : Env) (d : UsbDevice) (configId : UInt8) (p : TypePattern) (disable : Bool)
    (i : UsbInterface) (s : HostState) :
    (manageInterfaceOfType env d configId p disable i s).1 = interfaceMap p disable i := by
  unfold manageInterfaceOfType interfaceMap
  split_ifs <;> rfl

theorem manageInterfaceOfType_devices (env : Env) (d : UsbDevice) (configId : UInt8) (p : TypePattern)
    (disable : Bool) (i : UsbInterface) (s : HostState) :
    (manageInterfaceOfType env d configId p disable i s).2.devices = s.devices := by
  unfold manageInterfaceOfType
  simp only
  split
  · dsimp only
    split <;> exact usbInterfaceAuthorize_devices env d.dev configId (UInt8.ofInt i.id) (!disable) s
  · rfl

section

variable {env : Env} {active : UsbDev → UInt8} (hdi : HdiReports env active)
include hdi

theorem manageInterfaceTypeDevice_devices (p : TypePattern) (disable : Bool) (d : UsbDevice) (s : HostState)
    (hd : s.devices.find? d.dev.name = some d) :
    (manageInterfaceTypeDevice env p disable d s).devices =
      s.devices.modify d.dev.name (interfaceTypeMap active p disable) (dev_interfaceTypeMap active p disable) := by
  obtain ⟨hret, hconfig⟩ := hdi.getActiveConfig_fst d.dev s
  unfold manageInterfaceTypeDevice
  simp only [hret, hconfig, ne_eq, not_true_eq_false, if_false]
  split
  · rename_i hskip
    refine (DeviceMap.modify_id _ _ _ fun d' h => ?_).symm
    obtain rfl := Option.some.inj (hd.symm.trans h)
    rw [interfaceTypeMap, if_pos hskip]
  rename_i hskip
  rcases hc : d.configs[(active d.dev - 1).toNat]? with - | config
  · refine (DeviceMap.modify_id _ _ _ fun d' h => ?_).symm
    obtain rfl := Option.some.inj (hd.symm.trans h)
    rw [interfaceTypeMap, if_neg hskip, mapActive, List.modify_eq_self (List.getElem?_eq_none_iff.mp hc)]
  · simp only [HostState.setInterfaces, mapState_devices _ (manageInterfaceOfType_devices env d _ p disable),
      Loop.mapState_fst _ _ (manageInterfaceOfType_fst env d _ p disable)]
    refine DeviceMap.modify_congr _ _ _ _ fun d' h => ?_
    obtain rfl := Option.some.inj (hd.symm.trans h)
    rw [interfaceTypeMap, if_neg hskip, UsbDevice.withInterfaces, mapActive]
    congr 1
    refine List.ext_getElem? fun j => ?_
    rw [List.getElem?_modify, List.getElem?_modify]
    split
    · rename_i hj
      rw [← hj, hc]
      rfl
    · rfl

theorem manageInterfaceTypeImpl_devices (e : InterfaceType × TypePattern) (he : e ∈ gTypeMap) (disable : Bool)
    (s : HostState) :
    (manageInterfaceTypeImpl env e.1 disable s).2.devices =
      s.devices.mapVal (interfaceTypeMap active e.2 disable) (dev_interfaceTypeMap active e.2 disable) := by
  simp only [manageInterfaceTypeImpl, disjoint_gTypeMap.lookup e he]
  exact (forDevices_devices (fun _ => True) _ _ (dev_interfaceTypeMap active e.2 disable)
    (fun s d _ hd => ⟨trivial, manageInterfaceTypeDevice_devices hdi e.2 disable d s hd⟩) s trivial).2

end

/-- The interface after the interface pass: the entry that covers it decides. -/
def typePolicyInterface (disableType : List UsbDeviceType) (disable : Bool) (i : UsbInterface) : UsbInterface :=
  match gTypeMap.find? fun e => e.2.coversInterface i with
  | none => i
  | some e => { i with authorized := named false disableType e != disable }

def typePolicyInterfaces (active : UsbDev → UInt8) (disableType : List UsbDeviceType) (disable : Bool)
    (d : UsbDevice) : UsbDevice :=
  if d.isHub || d.authorizeStatus = .disabled then d else mapActive active (typePolicyInterface disableType disable) d

theorem dev_typePolicyInterfaces (active : UsbDev → UInt8) (disableType : List UsbDeviceType) (disable : Bool)
    (d : UsbDevice) : (typePolicyInterfaces active disableType disable d).dev = d.dev := by
  unfold typePolicyInterfaces
  split <;> rfl

theorem foldl_interfaceMap (visit : VisitOrder gTypeMap) (disableType : List UsbDeviceType) (disable : Bool)
    (i : UsbInterface) :
    visit.entries.foldl (fun i e =>
        interfaceMap e.2 (!execFlag visit.entries false disableType disable e) i) i =
      typePolicyInterface disableType disable i := by
  rw [typePolicyInterface]
  rcases hfind : gTypeMap.find? (fun e => e.2.coversInterface i) with - | e
  · rw [hfind]
    refine Loop.foldl_fixed _ _ _ fun e he => ?_
    have := List.find?_eq_none.mp hfind e (visit.perm.mem_iff.mp he)
    rw [interfaceMap, if_neg this]
  · rw [hfind]
    have hmem := List.mem_of_find?_eq_some hfind
    have hcovers := of_find?_entry gTypeMap (fun p => p.coversInterface i) e hfind
    have hother : ∀ e' ∈ visit.entries, e' ≠ e → ¬ e'.2.coversInterface i := fun e' he' hne hc =>
      hne (disjoint_gTypeMap.unique e' e (visit.perm.mem_iff.mp he') hmem _ _ _ hc hcovers)
    have hact : interfaceMap e.2 (!execFlag visit.entries false disableType disable e) i =
        { i with authorized := named false disableType e != disable } := by
      rw [interfaceMap, if_pos hcovers, Bool.not_not, execFlag_eq disjoint_gTypeMap visit _ _ _ e hmem]
    have hnodup : visit.entries.Nodup := visit.perm.nodup_iff.mpr disjoint_gTypeMap.nodup
    rw [Loop.foldl_once _ visit.entries hnodup e (visit.perm.mem_iff.mpr hmem) i, hact]
    · intro e' he' hne
      rw [interfaceMap, if_neg (hother e' he' hne)]
    · intro e' he' hne
      have hsame : e'.2.coversInterface { i with authorized := named false disableType e != disable } =
          e'.2.coversInterface i := rfl
      rw [hact, interfaceMap, hsame, if_neg (hother e' he' hne)]

theorem foldl_interfaceTypeMap {ε : Type} (active : UsbDev → UInt8) (p : ε → TypePattern) (b : ε → Bool) (l : List ε)
    (d : UsbDevice) :
    l.foldl (fun d e => interfaceTypeMap active (p e) (b e) d) d =
      if d.isHub || d.authorizeStatus = .disabled then d
      else mapActive active (fun i => l.foldl (fun i e => interfaceMap (p e) (b e) i) i) d := by
  by_cases hskip : (d.isHub || d.authorizeStatus = .disabled) = true
  · rw [if_pos hskip]
    exact Loop.foldl_fixed _ _ _ fun e _ => by rw [interfaceTypeMap, if_pos hskip]
  · rw [if_neg hskip]
    induction l generalizing d with
    | nil => exact (mapActive_id active d).symm
    | cons e l ih =>
      have hstep : interfaceTypeMap active (p e) (b e) d = mapActive active (interfaceMap (p e) (b e)) d := by
        rw [interfaceTypeMap, if_neg hskip]
      rw [List.foldl_cons, hstep, ih (mapActive active (interfaceMap (p e) (b e)) d) hskip, mapActive_mapActive]
      rfl

theorem executeInterfaceTypes_devices {env : Env} {active : UsbDev → UInt8} (hdi : HdiSucceeds env active)
    (disableType : List UsbDeviceType) (disable : Bool) (s : HostState) :
    (executeManageDeviceType env disableType disable env.gVisit.entries false s).devices =
      s.devices.mapVal (typePolicyInterfaces active disableType disable)
        (dev_typePolicyInterfaces active disableType disable) := by
  have h := foldl_devices (fun _ => True) (fun s e =>
      (manageInterfaceTypeImpl env e.1 (!execFlag env.gVisit.entries false disableType disable e) s).2)
    (fun e => interfaceTypeMap active e.2 (!execFlag env.gVisit.entries false disableType disable e))
    (fun e => dev_interfaceTypeMap active e.2 _) env.gVisit.entries
    (fun e he s _ => ⟨trivial, manageInterfaceTypeImpl_devices hdi.toHdiReports e (env.gVisit.perm.mem_iff.mp he) _ s⟩) s trivial
  simp only [execFlag, Bool.not_not] at h
  refine h.trans (DeviceMap.mapVal_congr _ _ _ fun d _ => ?_)
  rw [foldl_interfaceTypeMap, typePolicyInterfaces]
  have hi := foldl_interfaceMap env.gVisit disableType disable
  simp only [execFlag, Bool.not_not] at hi
  simp only [hi]

/-! ## The whole policy -/

/-- What the list makes of a device. -/
def typePolicy (active : UsbDev → UInt8) (skip : Bool) (disableType : List UsbDeviceType) (disable : Bool)
    (d : UsbDevice) : UsbDevice :=
  typePolicyInterfaces active disableType disable (typePolicyStatus skip disableType disable d)

theorem dev_typePolicy (active : UsbDev → UInt8) (skip : Bool) (disableType : List UsbDeviceType) (disable : Bool)
    (d : UsbDevice) : (typePolicy active skip disableType disable d).dev = d.dev := by
  rw [typePolicy, dev_typePolicyInterfaces, dev_typePolicyStatus]

theorem executeManageInterfaceType_devices {env : Env} {active : UsbDev → UInt8} (hdi : HdiSucceeds env active)
    (disableType : List UsbDeviceType) (disable : Bool) (s : HostState) :
    (executeManageInterfaceType env disableType disable s).2.devices =
      s.devices.mapVal (fun d => typePolicy active (serialSkip env s.serialDevices d) disableType disable d)
        fun d => dev_typePolicy active _ disableType disable d := by
  have hopen := forDevices_same_devices (fun d s => (openDevice env d.dev s).2) fun _ _ => rfl
  have hclose := forDevices_same_devices (fun d s => (close env d.dev s).2) fun _ _ => rfl
  have hserial : (forDevices (fun d s => (openDevice env d.dev s).2) s).serialDevices = s.serialDevices :=
    (forDevices_acts env (A := fun _ _ => True) _ s.serialDevices
      (fun s d _ _ => openDevice_acts env d.dev s) s rfl).same.serial
  rw [executeManageInterfaceType]
  simp only [hclose, executeInterfaceTypes_devices hdi, executeDeviceTypes_devices hdi, hopen, hserial,
    DeviceMap.mapVal_mapVal]
  rfl

/-! ## Its meaning -/

/-- Configuration `j` has the number `j + 1`, and configuration values are bytes. -/
def Numbered (configs : List USBConfig) : Prop :=
  ∀ (j : Nat) (c : USBConfig), configs[j]? = some c → c.id = (j : Int) + 1 ∧ j + 1 < 256

/-- An interface of the active configuration: only its flag changes, and the entry that covers it
clears the flag if the list names the entry and disables, or does neither. -/
structure InterfaceMeaning (disableType : List UsbDeviceType) (disable : Bool) (i i' : UsbInterface) : Prop where
  only : i' = { i with authorized := i'.authorized }
  covered : ∀ e ∈ gTypeMap, e.2.coversInterface i →
    (i'.authorized = false ↔
      ((∃ t ∈ disableType, t.isDeviceType = false ∧ e.2.coversType t) ↔ disable = true))
  uncovered : (∀ e ∈ gTypeMap, ¬ e.2.coversInterface i) → i' = i

/-- A device: only status and interface flags change, the latter only in the active configuration
of a device that is no hub and not disabled. -/
structure DeviceMeaning (active : UsbDev → UInt8) (disableType : List UsbDeviceType) (disable : Bool)
    (d d' : UsbDevice) : Prop where
  only : d' = { d with authorizeStatus := d'.authorizeStatus, configs := d'.configs }
  covered : ∀ e ∈ dTypeMap, e.2.coversDevice d →
    (d'.authorizeStatus = .disabled ↔
      ((∃ t ∈ disableType, t.isDeviceType = true ∧ e.2.coversType t) ↔ disable = true))
  uncovered : (∀ e ∈ dTypeMap, ¬ e.2.coversDevice d) → d'.authorizeStatus = d.authorizeStatus
  configs : List.Forall₂ (fun c c' : USBConfig =>
    if d.isHub = false ∧ d'.authorizeStatus ≠ .disabled ∧ c.id = (active d.dev).toNat then
      c' = { c with interfaces := c'.interfaces } ∧
        List.Forall₂ (InterfaceMeaning disableType disable) c.interfaces c'.interfaces
    else c' = c) d.configs d'.configs

theorem bne_eq_false_iff_named (isDev : Bool) (disableType : List UsbDeviceType) (disable : Bool)
    (e : InterfaceType × TypePattern) :
    (named isDev disableType e != disable) = false ↔
      ((∃ t ∈ disableType, t.isDeviceType = isDev ∧ e.2.coversType t) ↔ disable = true) := by
  rw [← named_iff]
  cases named isDev disableType e <;> cases disable <;> simp

theorem typePolicyInterface_meaning (disableType : List UsbDeviceType) (disable : Bool) (i : UsbInterface) :
    InterfaceMeaning disableType disable i (typePolicyInterface disableType disable i) := by
  rcases hfind : gTypeMap.find? (fun e => e.2.coversInterface i) with - | e
  · have hpolicy : typePolicyInterface disableType disable i = i := by rw [typePolicyInterface, hfind]
    rw [hpolicy]
    exact ⟨rfl, fun e he hc => absurd hc (List.find?_eq_none.mp hfind e he), fun _ => rfl⟩
  · have hpolicy : typePolicyInterface disableType disable i =
        { i with authorized := named false disableType e != disable } := by
      rw [typePolicyInterface, hfind]
    have hmem := List.mem_of_find?_eq_some hfind
    have hcovers := of_find?_entry gTypeMap (fun p => p.coversInterface i) e hfind
    rw [hpolicy]
    refine ⟨rfl, fun e' he' hc => ?_, fun hno => absurd hcovers (hno e hmem)⟩
    rw [disjoint_gTypeMap.unique e' e he' hmem _ _ _ hc hcovers]
    exact bne_eq_false_iff_named false disableType disable e

theorem typePolicyStatus_ident (skip : Bool) (disableType : List UsbDeviceType) (disable : Bool) (d : UsbDevice) :
    typePolicyStatus skip disableType disable d =
      d.withStatus (typePolicyStatus skip disableType disable d).authorizeStatus := by
  unfold typePolicyStatus
  split
  · rfl
  · split <;> rfl

theorem typePolicyInterfaces_status (active : UsbDev → UInt8) (disableType : List UsbDeviceType) (disable : Bool)
    (d : UsbDevice) : (typePolicyInterfaces active disableType disable d).authorizeStatus = d.authorizeStatus := by
  unfold typePolicyInterfaces
  split <;> rfl

theorem typePolicyStatus_covered (disableType : List UsbDeviceType) (disable : Bool) (d : UsbDevice)
    (e : InterfaceType × TypePattern) (he : e ∈ dTypeMap) (hc : e.2.coversDevice d) :
    (typePolicyStatus false disableType disable d).authorizeStatus = .disabled ↔
      ((∃ t ∈ disableType, t.isDeviceType = true ∧ e.2.coversType t) ↔ disable = true) := by
  rcases hfind : dTypeMap.find? (fun e => e.2.coversDevice d) with - | e'
  · exact absurd hc (List.find?_eq_none.mp hfind e he)
  · have hmem := List.mem_of_find?_eq_some hfind
    have hcovers := of_find?_entry dTypeMap (fun p => p.coversDevice d) e' hfind
    rw [disjoint_dTypeMap.unique e e' he hmem _ _ _ hc hcovers, ← bne_eq_false_iff_named,
      ← authorizedStatus_disabled_iff _ d.authorizeStatus]
    rw [typePolicyStatus, if_neg Bool.false_ne_true, hfind]
    rfl

theorem typePolicyStatus_uncovered (disableType : List UsbDeviceType) (disable : Bool) (d : UsbDevice)
    (hno : ∀ e ∈ dTypeMap, ¬ e.2.coversDevice d) : typePolicyStatus false disableType disable d = d := by
  rw [typePolicyStatus, if_neg Bool.false_ne_true, List.find?_eq_none.mpr hno]

theorem active_position_iff (configs : List USBConfig) (hnum : Numbered configs) (v : UInt8) (j : Nat)
    (c : USBConfig) (hc : configs[j]? = some c) : (v - 1).toNat = j ↔ c.id = v.toNat := by
  obtain ⟨hid, hj⟩ := hnum j c hc
  have hsub : (v - 1).toNat = (2 ^ 8 - 1 + v.toNat) % 2 ^ 8 := UInt8.toNat_sub v 1
  have hv := v.toNat_lt
  omega

theorem mapActive_configs (active : UsbDev → UInt8) (g : UsbInterface → UsbInterface) (d : UsbDevice)
    (hnum : Numbered d.configs) :
    List.Forall₂ (fun c c' : USBConfig => if c.id = (active d.dev).toNat then
      c' = { c with interfaces := c.interfaces.map g } else c' = c) d.configs (mapActive active g d).configs := by
  rw [List.forall₂_iff_get]
  refine ⟨by simp [mapActive], fun j h h' => ?_⟩
  have hj : d.configs[j]? = some d.configs[j] := List.getElem?_eq_getElem h
  simp only [mapActive, List.get_eq_getElem, List.getElem_modify,
    active_position_iff d.configs hnum (active d.dev) j _ hj]
  split <;> rfl

theorem typePolicy_meaning (active : UsbDev → UInt8) (disableType : List UsbDeviceType) (disable : Bool)
    (d : UsbDevice) (hnum : Numbered d.configs) :
    DeviceMeaning active disableType disable d (typePolicy active false disableType disable d) := by
  have hident := typePolicyStatus_ident false disableType disable d
  set d₁ := typePolicyStatus false disableType disable d with hd₁
  have hstatus : (typePolicy active false disableType disable d).authorizeStatus = d₁.authorizeStatus :=
    typePolicyInterfaces_status active disableType disable d₁
  have hconfigs : d₁.configs = d.configs := by rw [hident, UsbDevice.withStatus]
  have hhub : d₁.isHub = d.isHub := by rw [hident]; rfl
  have hdev : d₁.dev = d.dev := by rw [hident]; rfl
  refine ⟨?_, ?_, ?_, ?_⟩
  · rw [typePolicy, ← hd₁, typePolicyInterfaces]
    split
    · rw [hident]; rfl
    · rw [mapActive, hident]; rfl
  · rw [hstatus]
    exact typePolicyStatus_covered disableType disable d
  · intro hno
    rw [hstatus, hd₁, typePolicyStatus_uncovered disableType disable d hno]
  · rw [hstatus, typePolicy, ← hd₁, typePolicyInterfaces, hhub]
    by_cases hskip : (d.isHub || decide (d₁.authorizeStatus = .disabled)) = true
    · rw [if_pos hskip, hconfigs]
      refine List.forall₂_same.mpr fun c _ => ?_
      rw [if_neg]
      rintro ⟨hub, hen, -⟩
      simp [hub, hen] at hskip
    · rw [if_neg hskip]
      simp only [Bool.or_eq_true, decide_eq_true_eq, not_or, Bool.not_eq_true] at hskip
      have hmap := mapActive_configs active (typePolicyInterface disableType disable) d₁ (hconfigs ▸ hnum)
      rw [hconfigs, hdev] at hmap
      refine hmap.imp fun c c' h => ?_
      by_cases hid : c.id = (active d.dev).toNat
      · rw [if_pos hid] at h
        rw [if_pos ⟨hskip.1, hskip.2, hid⟩, h]
        refine ⟨rfl, List.forall₂_map_right_iff.mpr (List.forall₂_same.mpr fun i _ => ?_)⟩
        exact typePolicyInterface_meaning disableType disable i
      · rw [if_neg hid] at h
        rw [if_neg fun hand => hid hand.2.2, h]

/-- The type policy computes its declarative meaning, in every visiting order of its tables. -/
theorem type_policy_meaning {env : Env} {active : UsbDev → UInt8} (hdi : HdiSucceeds env active)
    (hserial : isUsbSerialDisable env = false) (s : HostState)
    (hnum : ∀ d ∈ s.devices.values, Numbered d.configs) (disableType : List UsbDeviceType) (disable : Bool) :
    (executeManageInterfaceType env disableType disable s).2.devices.keys = s.devices.keys ∧
      (executeManageInterfaceType env disableType disable s).2.serialDevices = s.serialDevices ∧
      (∀ name d, s.devices.find? name = some d →
        ∃ d', (executeManageInterfaceType env disableType disable s).2.devices.find? name = some d' ∧
          DeviceMeaning active disableType disable d d') ∧
      ∀ (dVisit : VisitOrder dTypeMap) (gVisit : VisitOrder gTypeMap),
        (executeManageInterfaceType { env with dVisit := dVisit, gVisit := gVisit } disableType disable s).2.devices =
          (executeManageInterfaceType env disableType disable s).2.devices := by
  have hskip : ∀ d, serialSkip env s.serialDevices d = false := fun d => by rw [serialSkip, hserial, Bool.false_and]
  have hdevices := executeManageInterfaceType_devices hdi disableType disable s
  simp only [hskip] at hdevices
  refine ⟨by rw [hdevices, DeviceMap.keys_mapVal], ?_, fun name d hd => ?_, fun dVisit gVisit => ?_⟩
  · exact (executeManageInterfaceType_acts env (A := fun _ _ => True) disableType disable s
      fun _ _ _ _ _ _ _ => trivial).same.serial
  · refine ⟨typePolicy active false disableType disable d, ?_, typePolicy_meaning active disableType disable d ?_⟩
    · rw [hdevices, DeviceMap.find?_mapVal, hd]; rfl
    · exact hnum d (s.devices.mem_values_of_find? name d hd)
  · have hdi' : HdiSucceeds { env with dVisit := dVisit, gVisit := gVisit } active :=
      ⟨⟨hdi.host, hdi.device, hdi.openDevice, hdi.getConfig⟩, hdi.closeDevice, hdi.usbDeviceAuthorize,
        hdi.usbInterfaceAuthorize, hdi.manageInterface⟩
    rw [hdevices, executeManageInterfaceType_devices hdi']
    exact DeviceMap.mapVal_congr _ _ _ fun d _ => congrArg (typePolicy active · disableType disable d) (hskip d)

def memoryStick : UsbDevice :=
  { busNum := 1, devAddr := 2, baseClass := 0, subClass := 0, protocol := 0
    configs := [{ id := 1, interfaces := [{ id := 0, klass := 8, subClass := 6, protocol := 0x50 }] }] }

theorem numbered_memoryStick : Numbered memoryStick.configs := by
  intro j c hc
  match j with
  | 0 =>
    obtain rfl := Option.some.inj hc
    exact ⟨rfl, by decide⟩
  | j + 1 => cases hc

theorem type_policy_meaning_memoryStick :
    ∃ d', (executeManageInterfaceType Env.succeeding [{ baseClass := 8 }] true
        { HostState.init with devices := DeviceMap.empty.insert memoryStick }).2.devices.find? "1-2" = some d' ∧
      DeviceMeaning (fun _ => 1) [{ baseClass := 8 }] true memoryStick d' := by
  have hvalues : (DeviceMap.empty.insert memoryStick).values = [memoryStick] := by decide
  refine (type_policy_meaning hdiSucceeds_succeeding (by decide)
    { HostState.init with devices := DeviceMap.empty.insert memoryStick } (fun d hd => ?_) [{ baseClass := 8 }]
    true).2.2.1 "1-2" memoryStick (by decide)
  rw [hvalues, List.mem_singleton] at hd
  exact hd ▸ numbered_memoryStick

end UsbManager.Host
