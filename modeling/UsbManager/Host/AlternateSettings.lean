import UsbManager.Host.Requests

/-!
# Alternate settings

The parser keeps every alternate setting of an interface as an interface of its own, all with the
same number, and HDI is asked by number. An entry that the list does not name asks for the
opposite flag, so a ban of one setting stands only if no entry asks for another setting of the
same number. Which request is the last one is up to the order of the table.
-/

namespace UsbManager.Host

/-- The flag of the last request for an interface number of a configuration. -/
def lastFlag (rs : List Request) (configId number : UInt8) : Option Bool :=
  (rs.filter fun r => r.1 = configId && r.2.1 = number).getLast?.map fun r => r.2.2

theorem lastFlag_append (rs rs' : List Request) (configId number : UInt8) :
    lastFlag (rs ++ rs') configId number =
      (lastFlag rs' configId number).or (lastFlag rs configId number) := by
  rw [lastFlag, lastFlag, lastFlag, List.filter_append, List.getLast?_append, Option.map_or]

theorem lastFlag_of_forall (rs : List Request) (configId number : UInt8) (b : Bool)
    (h : ∀ r ∈ rs, r.1 = configId → r.2.1 = number → r.2.2 = b) (r : Request) (hr : r ∈ rs) (hc : r.1 = configId)
    (hn : r.2.1 = number) : lastFlag rs configId number = some b := by
  have hmem : r ∈ rs.filter fun r => r.1 = configId && r.2.1 = number := List.mem_filter.mpr ⟨hr, by simp [hc, hn]⟩
  rcases hlast : (rs.filter fun r => r.1 = configId && r.2.1 = number).getLast? with - | l
  · rw [List.getLast?_eq_none_iff.mp hlast] at hmem
    cases hmem
  · obtain ⟨hl, hkey⟩ := List.mem_filter.mp (List.mem_of_getLast? hlast)
    simp only [Bool.and_eq_true, decide_eq_true_eq] at hkey
    rw [lastFlag, hlast, Option.map_some, h l hl hkey.1 hkey.2]

theorem mem_of_lastFlag (rs : List Request) (configId number : UInt8) (b : Bool)
    (h : lastFlag rs configId number = some b) : (configId, number, b) ∈ rs := by
  rw [lastFlag, Option.map_eq_some_iff] at h
  obtain ⟨⟨c, n, b'⟩, hr, rfl⟩ := h
  obtain ⟨hmem, hkey⟩ := List.mem_filter.mp (List.mem_of_getLast? hr)
  simp only [Bool.and_eq_true, decide_eq_true_eq] at hkey
  rw [← hkey.1, ← hkey.2]
  exact hmem

/-! ## The requests of the interface pass -/

/-- What one table entry asks for one device. -/
def entryRequests (active : UsbDev → UInt8) (p : TypePattern) (authorized : Bool) (d : UsbDevice) : List Request :=
  if d.isHub || d.authorizeStatus = .disabled then []
  else (d.configs[(active d.dev - 1).toNat]?.map (configRequests p.coversInterface authorized)).getD []

theorem configRequests_interfaceMap (p q : TypePattern) (authorized disable : Bool) (c : USBConfig) :
    configRequests p.coversInterface authorized { c with interfaces := c.interfaces.map (interfaceMap q disable) } =
      configRequests p.coversInterface authorized c := by
  have hcovers : p.coversInterface ∘ interfaceMap q disable = p.coversInterface := by
    funext i
    simp only [Function.comp_apply, interfaceMap]
    split <;> rfl
  simp only [configRequests, List.filter_map, hcovers, List.map_map]
  refine List.map_congr_left fun i _ => ?_
  simp only [Function.comp_apply, interfaceMap]
  split <;> rfl

theorem entryRequests_interfaceTypeMap (active : UsbDev → UInt8) (p q : TypePattern) (authorized disable : Bool)
    (d : UsbDevice) :
    entryRequests active p authorized (interfaceTypeMap active q disable d) = entryRequests active p authorized d := by
  unfold interfaceTypeMap
  split
  · rfl
  · rename_i hskip
    have hskip' : ¬ ((mapActive active (interfaceMap q disable) d).isHub ||
        decide ((mapActive active (interfaceMap q disable) d).authorizeStatus = .disabled)) = true := hskip
    rw [entryRequests, entryRequests, if_neg hskip, if_neg hskip']
    simp only [mapActive, UsbDevice.dev, List.getElem?_modify_eq]
    rcases d.configs[(active ⟨d.busNum, d.devAddr⟩ - 1).toNat]? with - | c
    · rfl
    · exact configRequests_interfaceMap p q authorized disable c

section

variable {env : Env} {active : UsbDev → UInt8} (hdi : HdiReports env active)
include hdi

theorem manageInterfaceTypeImpl_requests (e : InterfaceType × TypePattern) (he : e ∈ gTypeMap) (disable : Bool)
    (s : HostState) (d : UsbDevice) (hd : s.devices.find? d.dev.name = some d) :
    requestsOf d.dev (manageInterfaceTypeImpl env e.1 disable s).2.trace =
      requestsOf d.dev s.trace ++ entryRequests active e.2 (!disable) d := by
  simp only [manageInterfaceTypeImpl, disjoint_gTypeMap.lookup e he]
  obtain ⟨t, -, htreq, -, -, hreq⟩ := forDevices_at _ (manageInterfaceTypeDevice_local env e.2 disable) s d hd
  rw [hreq, manageInterfaceTypeDevice_requests hdi, htreq]
  rfl

theorem foldl_interfaceTypes_requests (flag : InterfaceType × TypePattern → Bool) (entries : TypeTable)
    (hentries : ∀ e ∈ entries, e ∈ gTypeMap) (s : HostState) (d : UsbDevice)
    (hd : s.devices.find? d.dev.name = some d) :
    requestsOf d.dev (entries.foldl (fun s e => (manageInterfaceTypeImpl env e.1 (!flag e) s).2) s).trace =
      requestsOf d.dev s.trace ++ entries.flatMap fun e => entryRequests active e.2 (flag e) d := by
  induction entries generalizing s d with
  | nil => exact (List.append_nil _).symm
  | cons e entries ih =>
    have he := hentries e List.mem_cons_self
    have hnext : (manageInterfaceTypeImpl env e.1 (!flag e) s).2.devices.find? d.dev.name =
        some (interfaceTypeMap active e.2 (!flag e) d) := by
      rw [manageInterfaceTypeImpl_devices hdi e he, DeviceMap.find?_mapVal, hd]
      rfl
    have hrest := ih (fun e' he' => hentries e' (List.mem_cons_of_mem e he'))
      (manageInterfaceTypeImpl env e.1 (!flag e) s).2 (interfaceTypeMap active e.2 (!flag e) d)
      (by rw [dev_interfaceTypeMap]; exact hnext)
    simp only [dev_interfaceTypeMap, entryRequests_interfaceTypeMap] at hrest
    rw [List.foldl_cons, hrest, manageInterfaceTypeImpl_requests hdi e he _ s d hd, Bool.not_not, List.flatMap_cons,
      List.append_assoc]

end

/-! ## The requests of the whole policy -/

theorem manageDeviceTypeDevice_requests (env : Env) (p : TypePattern) (disable : Bool) (dev : UsbDev) (d : UsbDevice)
    (s : HostState) : requestsOf dev (manageDeviceTypeDevice env p disable d s).trace = requestsOf dev s.trace := by
  have hopen : requestsOf dev (openDevice env d.dev s).2.trace = requestsOf dev s.trace :=
    requestsOf_emit_other dev s (.openDevice ..) rfl
  have hclose : ∀ t, requestsOf dev (close env d.dev t).2.trace = requestsOf dev t.trace := fun t =>
    requestsOf_emit_other dev t (.close ..) rfl
  unfold manageDeviceTypeDevice
  simp only
  split_ifs
  · rfl
  · exact hopen
  · rw [hclose, usbDeviceAuthorize_requests, hopen]
  · rfl

theorem forDevices_requests (dev : UsbDev) (body : UsbDevice → HostState → HostState)
    (hbody : ∀ d s, requestsOf dev (body d s).trace = requestsOf dev s.trace) (s : HostState) :
    requestsOf dev (forDevices body s).trace = requestsOf dev s.trace :=
  forDevices_rel (fun s t => requestsOf dev t.trace = requestsOf dev s.trace) (fun _ => rfl)
    (fun _ _ _ h h' => h'.trans h) body (fun s d _ => hbody d s) s

theorem executeDeviceTypes_requests (env : Env) (disableType : List UsbDeviceType) (disable : Bool) (map : TypeTable)
    (dev : UsbDev) (s : HostState) :
    requestsOf dev (executeManageDeviceType env disableType disable map true s).trace = requestsOf dev s.trace := by
  refine Loop.foldl_rel (fun s t : HostState => requestsOf dev t.trace = requestsOf dev s.trace) (fun _ => rfl)
    (fun _ _ _ h h' => h'.trans h) _ _ (fun s e _ => ?_) s
  simp only [if_true, manageDeviceTypeImpl]
  split
  · rfl
  · exact forDevices_requests dev _ (manageDeviceTypeDevice_requests env _ _ dev) s

theorem executeManageInterfaceType_requests {env : Env} {active : UsbDev → UInt8} (hdi : HdiSucceeds env active)
    (disableType : List UsbDeviceType) (disable : Bool) (s : HostState) (d : UsbDevice)
    (hd : s.devices.find? d.dev.name = some d) :
    requestsOf d.dev (added s (executeManageInterfaceType env disableType disable s).2) =
      env.gVisit.entries.flatMap fun e => entryRequests active e.2 (named false disableType e != disable)
        (typePolicyStatus (serialSkip env s.serialDevices d) disableType disable d) := by
  have htrace := (executeManageInterfaceType_acts env (A := fun _ _ => True) disableType disable s
    fun _ _ _ _ _ _ _ => trivial).trace
  apply requestsOf_added d.dev s _ _ htrace
  have hopen := forDevices_requests d.dev (fun d s => (openDevice env d.dev s).2)
    fun d s => requestsOf_emit_other _ s (.openDevice ..) rfl
  have hclose := forDevices_requests d.dev (fun d s => (close env d.dev s).2)
    fun d s => requestsOf_emit_other _ s (.close ..) rfl
  have hopendev := forDevices_same_devices (fun d s => (openDevice env d.dev s).2) fun _ _ => rfl
  have hserial : (forDevices (fun d s => (openDevice env d.dev s).2) s).serialDevices = s.serialDevices :=
    (forDevices_acts env (A := fun _ _ => True) _ s.serialDevices
      (fun s d _ _ => openDevice_acts env d.dev s) s rfl).same.serial
  set s₁ := forDevices (fun d s => (openDevice env d.dev s).2) s with hs₁
  set s₂ := executeManageDeviceType env disableType disable env.dVisit.entries true s₁ with hs₂
  set d₁ := typePolicyStatus (serialSkip env s.serialDevices d) disableType disable d with hd₁
  have hdev : d₁.dev = d.dev := dev_typePolicyStatus _ disableType disable d
  have hfind : s₂.devices.find? d₁.dev.name = some d₁ := by
    rw [hs₂, executeDeviceTypes_devices hdi, DeviceMap.find?_mapVal, hdev, hopendev, hd, hserial]
    rfl
  have hfold := foldl_interfaceTypes_requests hdi.toHdiReports (execFlag env.gVisit.entries false disableType disable)
    env.gVisit.entries (fun e he => env.gVisit.perm.mem_iff.mp he) s₂ d₁ hfind
  have hflag : env.gVisit.entries.flatMap (fun e =>
        entryRequests active e.2 (execFlag env.gVisit.entries false disableType disable e) d₁) =
      env.gVisit.entries.flatMap fun e => entryRequests active e.2 (named false disableType e != disable) d₁ := by
    refine List.flatMap_congr fun e he => ?_
    rw [execFlag_eq disjoint_gTypeMap env.gVisit _ _ _ e (env.gVisit.perm.mem_iff.mp he)]
  rw [hdev, hflag] at hfold
  have hpass : requestsOf d.dev (executeManageDeviceType env disableType disable env.gVisit.entries false s₂).trace =
      requestsOf d.dev s₂.trace ++
        env.gVisit.entries.flatMap fun e => entryRequests active e.2 (named false disableType e != disable) d₁ := by
    rw [← hfold]
    simp only [executeManageDeviceType, execFlag, Bool.not_not, Bool.false_eq_true, if_false]
  rw [executeManageInterfaceType]
  simp only [hclose]
  rw [← hs₁, ← hs₂, hpass, hs₂, executeDeviceTypes_requests, hopen]

/-! ## When a ban stands -/

/-- An entry that the list names covers the interface. -/
def banned (disableType : List UsbDeviceType) (i : UsbInterface) : Prop :=
  ∃ e ∈ gTypeMap, e.2.coversInterface i ∧ named false disableType e

/-- An entry that the list does not name covers the interface. -/
def allowed (disableType : List UsbDeviceType) (i : UsbInterface) : Prop :=
  ∃ e ∈ gTypeMap, e.2.coversInterface i ∧ named false disableType e = false

/-- The device pass will not disable the device: the entry that covers it is not named, or no
entry decides it and it is not disabled already. -/
def leftEnabled (skip : Bool) (disableType : List UsbDeviceType) (d : UsbDevice) : Bool :=
  match dTypeMap.find? fun e => e.2.coversDevice d with
  | some e => if skip then d.authorizeStatus ≠ .disabled else !named true disableType e
  | none => d.authorizeStatus ≠ .disabled

theorem leftEnabled_iff (skip : Bool) (disableType : List UsbDeviceType) (d : UsbDevice) :
    leftEnabled skip disableType d ↔ (typePolicyStatus skip disableType true d).authorizeStatus ≠ .disabled := by
  rw [leftEnabled, typePolicyStatus]
  rcases hfind : dTypeMap.find? (fun e => e.2.coversDevice d) with - | e
  · rw [hfind]
    cases skip <;> simp
  · rw [hfind]
    cases skip
    · have hdisabled := authorizedStatus_disabled_iff (named true disableType e != true) d.authorizeStatus
      simp only [authorizeDevice, UsbDevice.withStatus, Bool.false_eq_true, if_false, ne_eq, hdisabled]
      cases named true disableType e <;> simp
    · simp

/-- For every setting of the active configuration that is banned, the last request for its number
takes the authorisation away. -/
def BanStands (env : Env) (active : UsbDev → UInt8) (disableType : List UsbDeviceType) (s : HostState) : Prop :=
  ∀ d ∈ s.devices.values, ∀ d',
    (executeManageInterfaceType env disableType true s).2.devices.find? d.dev.name = some d' →
    d.isHub = false → d'.authorizeStatus ≠ .disabled →
    ∀ c ∈ d.configs, c.id = (active d.dev).toNat → ∀ i ∈ c.interfaces, banned disableType i →
      lastFlag (requestsOf d.dev (added s (executeManageInterfaceType env disableType true s).2))
        (active d.dev) (UInt8.ofInt i.id) = some false

/-- The configuration at the position that the pass looks at has the active value, a banned setting
with this number, and no setting with this number that some other entry allows. -/
def SettingsAgree (disableType : List UsbDeviceType) (configs : List USBConfig) (v number : UInt8) : Prop :=
  ∃ c, configs[(v - 1).toNat]? = some c ∧ UInt8.ofInt c.id = v ∧
    (∃ i ∈ c.interfaces, UInt8.ofInt i.id = number ∧ banned disableType i) ∧
    ∀ i ∈ c.interfaces, UInt8.ofInt i.id = number → ¬ allowed disableType i

theorem mem_entryRequests (active : UsbDev → UInt8) (p : TypePattern) (authorized : Bool) (d : UsbDevice)
    (hskip : (d.isHub || decide (d.authorizeStatus = .disabled)) = false) (r : Request) :
    r ∈ entryRequests active p authorized d ↔ ∃ c, d.configs[(active d.dev - 1).toNat]? = some c ∧
      ∃ i ∈ c.interfaces, p.coversInterface i ∧ (UInt8.ofInt c.id, UInt8.ofInt i.id, authorized) = r := by
  rw [entryRequests, if_neg (by rw [hskip]; exact Bool.false_ne_true)]
  rcases d.configs[(active d.dev - 1).toNat]? with - | c
  · simp
  · simp [configRequests, and_assoc]

def VisitOrder.last {table : TypeTable} (e : InterfaceType × TypePattern) (he : e ∈ table) : VisitOrder table :=
  ⟨table.erase e ++ [e], List.perm_append_comm.trans (List.perm_cons_erase he).symm⟩

section

variable (active : UsbDev → UInt8) (disableType : List UsbDeviceType) (d : UsbDevice)
  (hskip : (d.isHub || decide (d.authorizeStatus = .disabled)) = false) (number : UInt8)
include hskip

theorem lastFlag_of_agree (visit : VisitOrder gTypeMap)
    (h : SettingsAgree disableType d.configs (active d.dev) number) :
    lastFlag (visit.entries.flatMap fun e => entryRequests active e.2 (named false disableType e != true) d)
      (active d.dev) number = some false := by
  obtain ⟨c, hc, hid, ⟨i, hi, hnumber, e, he, hcovers, hnamed⟩, hnone⟩ := h
  refine lastFlag_of_forall _ _ _ _ (fun r hr _ hn => ?_) (active d.dev, number, false) ?_ rfl rfl
  · obtain ⟨e', he', hr⟩ := List.mem_flatMap.mp hr
    rw [mem_entryRequests active _ _ d hskip] at hr
    obtain ⟨c', hc', i', hi', hcovers', rfl⟩ := hr
    obtain rfl := Option.some.inj (hc.symm.trans hc')
    -- an entry that asks for authorisation would allow this setting
    rw [bne_eq_false_iff_eq]
    by_contra hnot
    exact hnone i' hi' hn ⟨e', visit.perm.mem_iff.mp he', hcovers', by simpa using hnot⟩
  · refine List.mem_flatMap.mpr ⟨e, visit.perm.mem_iff.mpr he, ?_⟩
    rw [mem_entryRequests active _ _ d hskip]
    exact ⟨c, hc, i, hi, hcovers, by rw [hid, hnumber, hnamed]; rfl⟩

theorem agree_of_lastFlag
    (h : ∀ visit : VisitOrder gTypeMap,
      lastFlag (visit.entries.flatMap fun e => entryRequests active e.2 (named false disableType e != true) d)
        (active d.dev) number = some false) :
    SettingsAgree disableType d.configs (active d.dev) number := by
  have hmem := mem_of_lastFlag _ _ _ _ (h ⟨gTypeMap, .refl _⟩)
  obtain ⟨e, he, hr⟩ := List.mem_flatMap.mp hmem
  rw [mem_entryRequests active _ _ d hskip] at hr
  obtain ⟨c, hc, i, hi, hcovers, hreq⟩ := hr
  simp only [Prod.mk.injEq, bne_eq_false_iff_eq] at hreq
  refine ⟨c, hc, hreq.1, ⟨i, hi, hreq.2.1, e, he, hcovers, hreq.2.2⟩, ?_⟩
  rintro i' hi' hnumber ⟨e', he', hcovers', hnamed⟩
  -- visited last, the entry has the last word
  have hlast := h (VisitOrder.last e' he')
  have htrue : lastFlag (entryRequests active e'.2 (named false disableType e' != true) d) (active d.dev) number =
      some true := by
    refine lastFlag_of_forall _ _ _ _ (fun r hr _ _ => ?_) (active d.dev, number, true) ?_ rfl rfl
    · rw [mem_entryRequests active _ _ d hskip] at hr
      obtain ⟨-, -, -, -, -, rfl⟩ := hr
      rw [hnamed]; rfl
    · rw [mem_entryRequests active _ _ d hskip]
      exact ⟨c, hc, i', hi', hcovers', by rw [hreq.1, hnumber, hnamed]; rfl⟩
  rw [VisitOrder.last, List.flatMap_append, lastFlag_append, List.flatMap_singleton, htrue] at hlast
  cases hlast

end

theorem typePolicyStatus_configs (skip : Bool) (disableType : List UsbDeviceType) (disable : Bool) (d : UsbDevice) :
    (typePolicyStatus skip disableType disable d).configs = d.configs := by
  rw [typePolicyStatus_ident, UsbDevice.withStatus]

theorem skipped_eq_false (skip : Bool) (disableType : List UsbDeviceType) (d : UsbDevice) (hub : d.isHub = false)
    (hen : (typePolicyStatus skip disableType true d).authorizeStatus ≠ .disabled) :
    ((typePolicyStatus skip disableType true d).isHub ||
      decide ((typePolicyStatus skip disableType true d).authorizeStatus = .disabled)) = false := by
  have hub' : (typePolicyStatus skip disableType true d).isHub = false := by
    rw [typePolicyStatus_ident]
    exact hub
  rw [hub', Bool.false_or, decide_eq_false hen]

/-- With all orders of the tables, a ban stands if and only if, for every device that stays enabled
and every banned setting of its active configuration, all settings of that number agree. -/
theorem ban_stands_iff {env : Env} {active : UsbDev → UInt8} (hdi : HdiSucceeds env active)
    (disableType : List UsbDeviceType) (s : HostState) :
    (∀ (dVisit : VisitOrder dTypeMap) (gVisit : VisitOrder gTypeMap),
      BanStands { env with dVisit := dVisit, gVisit := gVisit } active disableType s) ↔
    ∀ d ∈ s.devices.values, d.isHub = false → leftEnabled (serialSkip env s.serialDevices d) disableType d →
      ∀ c ∈ d.configs, c.id = (active d.dev).toNat → ∀ i ∈ c.interfaces, banned disableType i →
        SettingsAgree disableType d.configs (active d.dev) (UInt8.ofInt i.id) := by
  have hdi' : ∀ (dVisit : VisitOrder dTypeMap) (gVisit : VisitOrder gTypeMap),
      HdiSucceeds { env with dVisit := dVisit, gVisit := gVisit } active := fun _ _ =>
    ⟨⟨hdi.host, hdi.device, hdi.openDevice, hdi.getConfig⟩, hdi.closeDevice, hdi.usbDeviceAuthorize,
      hdi.usbInterfaceAuthorize, hdi.manageInterface⟩
  have hafter : ∀ d ∈ s.devices.values, ∀ (dVisit : VisitOrder dTypeMap) (gVisit : VisitOrder gTypeMap),
      (executeManageInterfaceType { env with dVisit := dVisit, gVisit := gVisit } disableType true s).2.devices.find?
        d.dev.name = some (typePolicy active (serialSkip env s.serialDevices d) disableType true d) := by
    intro d hd dVisit gVisit
    rw [executeManageInterfaceType_devices (hdi' dVisit gVisit), DeviceMap.find?_mapVal, (s.devices.mem_values d).mp hd]
    rfl
  have hstatus : ∀ d, (typePolicy active (serialSkip env s.serialDevices d) disableType true d).authorizeStatus =
      (typePolicyStatus (serialSkip env s.serialDevices d) disableType true d).authorizeStatus := fun d =>
    typePolicyInterfaces_status active disableType true _
  have hrequests : ∀ d ∈ s.devices.values, ∀ (dVisit : VisitOrder dTypeMap) (gVisit : VisitOrder gTypeMap), _ :=
    fun d hd dVisit gVisit => executeManageInterfaceType_requests (hdi' dVisit gVisit) disableType true s d
      ((s.devices.mem_values d).mp hd)
  constructor
  · intro h d hd hub hen c hc hid i hi hban
    rw [leftEnabled_iff] at hen
    have hagree := agree_of_lastFlag active disableType
      (typePolicyStatus (serialSkip env s.serialDevices d) disableType true d) (skipped_eq_false _ _ d hub hen)
      (UInt8.ofInt i.id)
    rw [typePolicyStatus_configs, dev_typePolicyStatus] at hagree
    refine hagree fun gVisit => ?_
    have hlast := h env.dVisit gVisit d hd _ (hafter d hd _ _) hub (by rwa [hstatus]) c hc hid i hi hban
    rw [hrequests d hd] at hlast
    exact hlast
  · intro h dVisit gVisit d hd d' hd' hub hen c hc hid i hi hban
    obtain rfl := Option.some.inj ((hafter d hd dVisit gVisit).symm.trans hd')
    rw [hstatus] at hen
    have hagree := h d hd hub ((leftEnabled_iff _ _ _).mpr hen) c hc hid i hi hban
    have hlast := lastFlag_of_agree active disableType
      (typePolicyStatus (serialSkip env s.serialDevices d) disableType true d) (skipped_eq_false _ _ d hub hen)
      (UInt8.ofInt i.id) gVisit
    rw [typePolicyStatus_configs, dev_typePolicyStatus] at hlast
    rw [hrequests d hd]
    exact hlast hagree

theorem ban_stands_memoryStick :
    BanStands Env.succeeding (fun _ => 1) [{ baseClass := 8 }]
      { HostState.init with devices := DeviceMap.empty.insert memoryStick } := by
  have hvalues : (DeviceMap.empty.insert memoryStick).values = [memoryStick] := by decide
  refine (ban_stands_iff hdiSucceeds_succeeding [{ baseClass := 8 }]
    { HostState.init with devices := DeviceMap.empty.insert memoryStick }).mpr ?_ _ _
  intro d hd _ _ c hc _ i hi _
  rw [hvalues, List.mem_singleton] at hd
  subst hd
  obtain rfl := List.mem_singleton.mp hc
  obtain rfl := List.mem_singleton.mp hi
  refine ⟨_, rfl, by decide, ⟨_, List.mem_singleton_self _, rfl, (.typeStorage, ⟨8, -1, -1⟩), by decide⟩, ?_⟩
  intro i hi _
  obtain rfl := List.mem_singleton.mp hi
  unfold allowed
  decide

/-- One interface with a storage setting and a keyboard setting. -/
def twoSettings : UsbDevice :=
  { memoryStick with
    configs := [{ id := 1, interfaces := [{ id := 0, alternateSetting := 0, klass := 8, subClass := 6, protocol := 0x50 },
      { id := 0, alternateSetting := 1, klass := 3, subClass := 1, protocol := 1 }] }] }

def twoSettingsState : HostState := { HostState.init with devices := DeviceMap.empty.insert twoSettings }

def keyboardsLast : Env :=
  { Env.succeeding with gVisit := VisitOrder.last (.typeHid, ⟨3, -1, -1⟩) (by decide) }

/-- Storage is banned, the last request for the interface authorises it. -/
theorem ban_bypassed : ¬ BanStands keyboardsLast (fun _ => 1) [{ baseClass := 8 }] twoSettingsState := by
  intro h
  have hmem : twoSettings ∈ twoSettingsState.devices.values := by decide
  have hlast : lastFlag (requestsOf twoSettings.dev (added twoSettingsState
      (executeManageInterfaceType keyboardsLast [{ baseClass := 8 }] true twoSettingsState).2)) 1 0 = some true := by
    decide +kernel
  have hstatus : ((executeManageInterfaceType keyboardsLast [{ baseClass := 8 }] true
      twoSettingsState).2.devices.find? twoSettings.dev.name).map UsbDevice.authorizeStatus = some .enabled := by
    decide +kernel
  obtain ⟨d', hd', hen⟩ := Option.map_eq_some_iff.mp hstatus
  have hfalse := h twoSettings hmem d' hd' (by decide) (by simp [hen]) _ (List.mem_singleton_self _) rfl
    _ List.mem_cons_self ⟨(.typeStorage, ⟨8, -1, -1⟩), by decide⟩
  exact absurd (hlast.symm.trans hfalse) (by decide)

end UsbManager.Host
