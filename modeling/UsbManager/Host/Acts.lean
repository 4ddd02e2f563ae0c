import Mathlib.Logic.Relation
import UsbManager.Host.Effects

/-!
# What a policy can do to a device

Every pass of the host manager is a sequence of three kinds of acts: an event that is not made
public, a call of `UsbDeviceAuthorize`, and new interfaces for one configuration. For each pass
we say once which device it may authorise with which flag. Invariants over runs and the
statements about single passes are derived from that.
-/

namespace UsbManager.Host

/-- Broadcasts, and the mark of an arrival. -/
def Event.isPublic : Event → Bool
  | .publish _ _ => true
  | .arrived _ => true
  | _ => false

/-- One act. `A d b`: the stored device `d` may be authorised with flag `b`. -/
inductive Act (env : Env) (A : UsbDevice → Bool → Prop) : HostState → HostState → Prop
  | emit (s : HostState) (e : Event) (h : e.isPublic = false) : Act env A s (s.emit e)
  | authorize (s : HostState) (dev : UsbDev) (b : Bool) (op : String)
      (h : ∀ d, s.devices.find? dev.name = some d → A d b) : Act env A s (usbDeviceAuthorize env dev b op s).2
  | interfaces (s : HostState) (name : String) (index : Nat) (is : List UsbInterface) :
      Act env A s (s.setInterfaces name index is)

/-- What authorisations that `A` allows may make of a state. -/
def Acts (env : Env) (A : UsbDevice → Bool → Prop) : HostState → HostState → Prop :=
  Relation.ReflTransGen (Act env A)

section Acts

variable {env : Env} {A : UsbDevice → Bool → Prop}

theorem Acts.refl (s : HostState) : Acts env A s s := Relation.ReflTransGen.refl

theorem Acts.trans {s t u : HostState} (h : Acts env A s t) (h' : Acts env A t u) : Acts env A s u :=
  Relation.ReflTransGen.trans h h'

theorem Acts.emit (s : HostState) (e : Event) (h : e.isPublic = false) : Acts env A s (s.emit e) :=
  Relation.ReflTransGen.single (.emit s e h)

theorem Acts.authorize (s : HostState) (dev : UsbDev) (b : Bool) (op : String)
    (h : ∀ d, s.devices.find? dev.name = some d → A d b) : Acts env A s (usbDeviceAuthorize env dev b op s).2 :=
  Relation.ReflTransGen.single (.authorize s dev b op h)

theorem Acts.interfaces (s : HostState) (name : String) (index : Nat) (is : List UsbInterface) :
    Acts env A s (s.setInterfaces name index is) :=
  Relation.ReflTransGen.single (.interfaces s name index is)

theorem Acts.invariant {I : HostState → Prop} {s t : HostState} (h : Acts env A s t)
    (hstep : ∀ s t, Act env A s t → I s → I t) (hs : I s) : I t := by
  induction h with
  | refl => exact hs
  | tail _ hst ih => exact hstep _ _ hst ih

theorem Acts.mono {B : UsbDevice → Bool → Prop} {s t : HostState} (h : Acts env A s t)
    (hAB : ∀ d b, A d b → B d b) : Acts env B s t := by
  refine h.invariant (I := Acts env B s) (fun t u htu ih => ?_) (Acts.refl s)
  cases htu with
  | emit e h => exact ih.trans (Acts.emit t e h)
  | authorize dev b op h => exact ih.trans (Acts.authorize t dev b op fun d hd => hAB d b (h d hd))
  | interfaces name index is => exact ih.trans (Acts.interfaces t name index is)

end Acts

/-! ## What no act changes -/

/-- The same devices in the same order, up to status and configurations, and the same serial list. -/
structure SameDevices (s t : HostState) : Prop where
  keys : t.devices.keys = s.devices.keys
  ident : ∀ k, (t.devices.find? k).map UsbDevice.ident = (s.devices.find? k).map UsbDevice.ident
  serial : t.serialDevices = s.serialDevices

theorem SameDevices.refl (s : HostState) : SameDevices s s := ⟨rfl, fun _ => rfl, rfl⟩

theorem SameDevices.symm {s t : HostState} (h : SameDevices s t) : SameDevices t s :=
  ⟨h.keys.symm, fun k => (h.ident k).symm, h.serial.symm⟩

theorem SameDevices.trans {s t u : HostState} (h : SameDevices s t) (h' : SameDevices t u) : SameDevices s u :=
  ⟨h'.keys.trans h.keys, fun k => (h'.ident k).trans (h.ident k), h'.serial.trans h.serial⟩

theorem SameDevices.modify (s : HostState) (tr : List Event) (name : String) (f : UsbDevice → UsbDevice)
    (hf : ∀ d, (f d).dev = d.dev) (hident : ∀ d, (f d).ident = d.ident) :
    SameDevices s { s with devices := s.devices.modify name f hf, trace := tr } := by
  refine ⟨DeviceMap.keys_modify _ _ _ hf, fun k => ?_, rfl⟩
  simp only [DeviceMap.find?_modify]
  split
  · rw [Option.map_map, show UsbDevice.ident ∘ f = UsbDevice.ident from funext hident]
  · rfl

theorem Act.same {env : Env} {A : UsbDevice → Bool → Prop} {s t : HostState} (h : Act env A s t) :
    SameDevices s t := by
  cases h with
  | emit e _ => exact ⟨rfl, fun _ => rfl, rfl⟩
  | authorize dev b op _ =>
    rcases usbDeviceAuthorize_cases env dev b op s with h | ⟨ret, -, h⟩ | ⟨d, -, -, -, h⟩
    · rw [h]; exact SameDevices.refl s
    · rw [h]; exact ⟨rfl, fun _ => rfl, rfl⟩
    · rw [h]; exact SameDevices.modify s _ _ _ _ fun _ => rfl
  | interfaces name index is => exact SameDevices.modify s s.trace _ _ _ fun _ => rfl

theorem Acts.same {env : Env} {A : UsbDevice → Bool → Prop} {s t : HostState} (h : Acts env A s t) :
    SameDevices s t :=
  h.invariant (I := SameDevices s) (fun _ _ hst ih => ih.trans hst.same) (SameDevices.refl s)

theorem Acts.trace {env : Env} {A : UsbDevice → Bool → Prop} {s t : HostState} (h : Acts env A s t) :
    ∃ es, t.trace = s.trace ++ es := by
  refine h.invariant (I := fun t => ∃ es, t.trace = s.trace ++ es) (fun t u htu ih => ?_) ⟨[], by simp⟩
  obtain ⟨es, hes⟩ := ih
  cases htu with
  | emit e _ => exact ⟨es ++ [e], by simp [hes]⟩
  | authorize dev b op _ =>
    rcases usbDeviceAuthorize_cases env dev b op t with h | ⟨ret, -, h⟩ | ⟨d, -, -, -, h⟩
    · exact ⟨es, by rw [h, hes]⟩
    · exact ⟨es ++ [_], by rw [h, HostState.emit_trace, hes, List.append_assoc]⟩
    · exact ⟨es ++ authorizeEvents dev b op d, by rw [h, HostState.setAuthorizeStatus_trace, hes, List.append_assoc]⟩
  | interfaces name index is => exact ⟨es, hes⟩

theorem DeviceMap.map_values (m : DeviceMap) {α : Type} (f : UsbDevice → α) :
    m.values.map f = m.keys.filterMap fun k => (m.find? k).map f := by
  rw [DeviceMap.keys_eq_map, List.filterMap_map, ← List.filterMap_eq_map]
  refine List.filterMap_congr fun d hd => ?_
  simp [(m.mem_values d).mp hd]

theorem SameDevices.map_values {s t : HostState} (h : SameDevices s t) {α : Type} (f : UsbDevice → α)
    (hf : ∀ d, f d.ident = f d) : t.devices.values.map f = s.devices.values.map f := by
  have hident : ∀ m : DeviceMap, m.values.map f = (m.values.map UsbDevice.ident).map f := by
    intro m
    rw [List.map_map]
    exact List.map_congr_left fun d _ => (hf d).symm
  rw [hident t.devices, hident s.devices, DeviceMap.map_values, DeviceMap.map_values, h.keys]
  congr 2
  exact funext h.ident

theorem SameDevices.ident_of_find {s t : HostState} (h : SameDevices s t) (k : String) (d : UsbDevice)
    (hd : t.devices.find? k = some d) : ∃ d₀, s.devices.find? k = some d₀ ∧ d.ident = d₀.ident := by
  have hk := h.ident k
  rw [hd] at hk
  rcases h0 : s.devices.find? k with - | d₀
  · rw [h0] at hk; cases hk
  · rw [h0] at hk
    exact ⟨d₀, rfl, Option.some.inj hk⟩

/-! ## Properties of one stored device -/

/-- A property of identity and status that every allowed authorisation keeps. -/
structure Kept (A : UsbDevice → Bool → Prop) (P : UsbDevice → Prop) : Prop where
  congr : ∀ d d', d.ident = d'.ident → d.authorizeStatus = d'.authorizeStatus → P d → P d'
  authorize : ∀ d b, A d b → (b = true ↔ d.authorizeStatus = .disabled) → P d → P (d.withStatus (statusOf b))

theorem Act.kept {env : Env} {A : UsbDevice → Bool → Prop} {P : UsbDevice → Prop} (hP : Kept A P)
    {s t : HostState} (h : Act env A s t) (k : String) (hs : ∀ d, s.devices.find? k = some d → P d) :
    ∀ d, t.devices.find? k = some d → P d := by
  cases h with
  | emit e _ => exact hs
  | authorize dev b op hb =>
    rcases usbDeviceAuthorize_cases env dev b op s with h | ⟨ret, -, h⟩ | ⟨d, hd, hchange, -, h⟩
    · rw [h]; exact hs
    · rw [h]; exact hs
    · rw [h]
      intro d' hd'
      rw [HostState.find?_setAuthorizeStatus] at hd'
      split at hd'
      · rename_i hk
        rw [hk, hd] at hd'
        obtain rfl := Option.some.inj hd'
        exact hP.authorize d b (hb d hd) hchange (hs d (hk ▸ hd))
      · exact hs d' hd'
  | interfaces name index is =>
    intro d' hd'
    rw [HostState.find?_setInterfaces] at hd'
    split at hd'
    · rw [Option.map_eq_some_iff] at hd'
      obtain ⟨d, hd, rfl⟩ := hd'
      exact hP.congr d _ rfl rfl (hs d hd)
    · exact hs d' hd'

theorem Acts.kept {env : Env} {A : UsbDevice → Bool → Prop} {P : UsbDevice → Prop} (hP : Kept A P)
    {s t : HostState} (h : Acts env A s t) (k : String) (hs : ∀ d, s.devices.find? k = some d → P d) :
    ∀ d, t.devices.find? k = some d → P d :=
  h.invariant (I := fun t => ∀ d, t.devices.find? k = some d → P d) (fun _ _ hst ih => hst.kept hP k ih) hs

/-! ## The passes -/

section Passes

variable (env : Env) {A : UsbDevice → Bool → Prop}

theorem openDevice_acts (dev : UsbDev) (s : HostState) : Acts env A s (openDevice env dev s).2 := Acts.emit s _ rfl

theorem close_acts (dev : UsbDev) (s : HostState) : Acts env A s (close env dev s).2 := Acts.emit s _ rfl

theorem getActiveConfig_acts (dev : UsbDev) (s : HostState) : Acts env A s (getActiveConfig env dev s).2.2 :=
  Acts.emit s _ rfl

theorem reportManageDeviceInfo_acts (op : String) (d : UsbDevice) (i : Option UsbInterface) (s : HostState) :
    Acts env A s (reportManageDeviceInfo op d i s) := by
  cases i <;> exact Acts.emit s _ rfl

theorem usbInterfaceAuthorize_acts (dev : UsbDev) (configId interfaceId : UInt8) (authorized : Bool)
    (s : HostState) : Acts env A s (usbInterfaceAuthorize env dev configId interfaceId authorized s).2 := by
  unfold usbInterfaceAuthorize
  split
  · exact Acts.refl s
  simp only
  split
  · exact (Acts.emit s (.usbInterfaceAuthorize ..) rfl).trans (Acts.emit _ (.manageInterface ..) rfl)
  · exact Acts.emit s (.usbInterfaceAuthorize ..) rfl

theorem mapState_acts {α : Type} (body : α → HostState → α × HostState) (hbody : ∀ a s, Acts env A s (body a s).2)
    (l : List α) (s : HostState) : Acts env A s (Loop.mapState body l s).2 :=
  Loop.mapState_rel _ Acts.refl (fun _ _ _ => Acts.trans) body l (fun s a _ => hbody a s) s

theorem manageDeviceLoop_acts (vendorId productId : Int) (disable : Bool)
    (hA : ∀ d, d.isHub = false → d.vendorId = vendorId → d.productId = productId → A d (!disable))
    (names : List String) (s : HostState) :
    Acts env A s (manageDeviceLoop env vendorId productId disable names s).2 := by
  induction names generalizing s with
  | nil => exact Acts.refl s
  | cons name names ih =>
    unfold manageDeviceLoop
    rcases hd : s.devices.find? name with - | d
    · exact ih s
    simp only
    split_ifs with hub hid hopen
    · exact ih s
    · exact openDevice_acts env d.dev s
    · have hfind : s.devices.find? d.dev.name = some d := by rw [s.devices.name_of_find? _ _ hd, hd]
      simp only [Bool.and_eq_true, decide_eq_true_eq] at hid
      refine ((openDevice_acts env d.dev s).trans (Acts.authorize _ d.dev (!disable) "DeviceType" ?_)).trans ?_
      · intro d' hd'
        obtain rfl := Option.some.inj (hfind.symm.trans hd')
        exact hA d (by simpa using hub) hid.1 hid.2
      · exact (close_acts env d.dev _).trans (ih _)
    · exact ih s

/-- The flag that the trust list asks for. -/
def trusted (trustList : List UsbDeviceId) (d : UsbDevice) : Bool := inTrustList trustList d || trustList.isEmpty

theorem devicePolicyLoop_acts (trustList : List UsbDeviceId)
    (hA : ∀ d, d.isHub = false → A d (trusted trustList d)) (names : List String) (ret : Ret) (s : HostState) :
    Acts env A s (devicePolicyLoop env trustList names (ret, s)).2 := by
  induction names generalizing ret s with
  | nil => exact Acts.refl s
  | cons name names ih =>
    unfold devicePolicyLoop
    rcases s.devices.find? name with - | d
    · exact ih ret s
    · refine Acts.trans (manageDeviceLoop_acts env _ _ _ (fun d' hub hv hp => ?_) _ _) (ih _ _)
      -- a device with the same vendor and product is in the list as well
      have : trusted trustList d' = trusted trustList d := by simp only [trusted, inTrustList, hv, hp]
      rw [Bool.not_not, ← trusted, ← this]
      exact hA d' hub

theorem executeManageDevicePolicy_acts (trustList : List UsbDeviceId)
    (hA : ∀ d, d.isHub = false → A d (trusted trustList d)) (s : HostState) :
    Acts env A s (executeManageDevicePolicy env trustList s).2 := by
  have h := devicePolicyLoop_acts env trustList hA s.devices.keys .ok s
  unfold executeManageDevicePolicy
  simp only
  split <;> exact h

/-- The serial list that a loop started with is the one each turn reads. -/
theorem foldl_acts {α : Type} (f : HostState → α → HostState) (l : List α) (serialDevices : List UsbDev)
    (hf : ∀ s, ∀ a ∈ l, s.serialDevices = serialDevices → Acts env A s (f s a)) (s : HostState)
    (hs : s.serialDevices = serialDevices) : Acts env A s (l.foldl f s) := by
  refine Loop.foldl_rel (fun s t => s.serialDevices = serialDevices → Acts env A s t) (fun s _ => Acts.refl s)
    ?_ f l hf s hs
  intro s t u hst htu hs
  exact (hst hs).trans (htu ((hst hs).same.serial.trans hs))

theorem forDevices_acts (body : UsbDevice → HostState → HostState) (serialDevices : List UsbDev)
    (hbody : ∀ s d, s.serialDevices = serialDevices → s.devices.find? d.dev.name = some d → Acts env A s (body d s))
    (s : HostState) (hs : s.serialDevices = serialDevices) : Acts env A s (forDevices body s) := by
  refine foldl_acts env _ _ serialDevices (fun s name _ hs => ?_) s hs
  rcases hd : s.devices.find? name with - | d
  · rw [visit, hd]; exact Acts.refl s
  · rw [visit_of_find _ _ _ _ hd]
    exact hbody s d hs (by rw [s.devices.name_of_find? _ _ hd, hd])

theorem manageDeviceTypeDevice_acts (p : TypePattern) (disable : Bool) (s : HostState) (d : UsbDevice)
    (hd : s.devices.find? d.dev.name = some d)
    (hA : (isUsbSerialDisable env && isUsbSerialDevice s.serialDevices d) = false → p.coversDevice d → A d (!disable)) :
    Acts env A s (manageDeviceTypeDevice env p disable d s) := by
  unfold manageDeviceTypeDevice
  simp only
  split_ifs with hserial hcovers hopen
  · exact Acts.refl s
  · exact openDevice_acts env d.dev s
  · refine ((openDevice_acts env d.dev s).trans (Acts.authorize _ d.dev (!disable) "InterfaceType" ?_)).trans
      (close_acts env d.dev _)
    intro d' hd'
    obtain rfl := Option.some.inj (hd.symm.trans hd')
    exact hA (by simpa using hserial) hcovers
  · exact Acts.refl s

theorem manageInterfaceOfType_acts (d : UsbDevice) (configId : UInt8) (p : TypePattern) (disable : Bool)
    (i : UsbInterface) (s : HostState) : Acts env A s (manageInterfaceOfType env d configId p disable i s).2 := by
  unfold manageInterfaceOfType
  have hauth := usbInterfaceAuthorize_acts env (A := A) d.dev configId (UInt8.ofInt i.id) (!disable) s
  simp only
  split
  · dsimp only
    split
    · exact hauth.trans (reportManageDeviceInfo_acts env _ _ _ _)
    · exact hauth
  · exact Acts.refl s

theorem manageInterfaceTypeDevice_acts (p : TypePattern) (disable : Bool) (d : UsbDevice) (s : HostState) :
    Acts env A s (manageInterfaceTypeDevice env p disable d s) := by
  unfold manageInterfaceTypeDevice
  have hget := getActiveConfig_acts env (A := A) d.dev s
  simp only
  split
  · exact Acts.refl s
  split
  · exact hget
  split
  · exact hget
  · refine (hget.trans (mapState_acts env (manageInterfaceOfType env d _ p disable) ?_ _ _)).trans
      (Acts.interfaces _ _ _ _)
    exact manageInterfaceOfType_acts env d _ p disable

/-- Which flag a turn of `ExecuteManageDeviceType` uses for a table entry. -/
def execFlag (map : TypeTable) (isDev : Bool) (disableType : List UsbDeviceType) (disable : Bool)
    (e : InterfaceType × TypePattern) : Bool :=
  !(if (findMatchingTypes map isDev disableType).contains e.1 then disable else !disable)

theorem executeDeviceTypes_acts (disableType : List UsbDeviceType) (disable : Bool) (map : TypeTable)
    (serialDevices : List UsbDev)
    (hA : ∀ e ∈ map, ∀ p d, dTypeMap.lookup e.1 = some p →
      (isUsbSerialDisable env && isUsbSerialDevice serialDevices d) = false → p.coversDevice d →
      A d (execFlag map true disableType disable e))
    (s : HostState) (hs : s.serialDevices = serialDevices) :
    Acts env A s (executeManageDeviceType env disableType disable map true s) := by
  refine foldl_acts env _ map serialDevices (fun s e he hs => ?_) s hs
  simp only [if_true]
  unfold manageDeviceTypeImpl
  split
  · exact Acts.refl s
  · rename_i p hp
    refine forDevices_acts env _ serialDevices (fun s d hs hd => ?_) s hs
    exact manageDeviceTypeDevice_acts env p _ s d hd fun hserial hcovers => hA e he p d hp (hs ▸ hserial) hcovers

theorem executeInterfaceTypes_acts (disableType : List UsbDeviceType) (disable : Bool) (map : TypeTable)
    (s : HostState) : Acts env A s (executeManageDeviceType env disableType disable map false s) := by
  refine Loop.foldl_rel _ Acts.refl (fun _ _ _ => Acts.trans) _ _ (fun s e _ => ?_) s
  simp only [Bool.false_eq_true, if_false]
  unfold manageInterfaceTypeImpl
  split
  · exact Acts.refl s
  · exact forDevices_acts env _ s.serialDevices (fun s d _ _ => manageInterfaceTypeDevice_acts env _ _ d s) s rfl

theorem executeManageInterfaceType_acts (disableType : List UsbDeviceType) (disable : Bool) (s : HostState)
    (hA : ∀ e ∈ env.dVisit.entries, ∀ p d, dTypeMap.lookup e.1 = some p →
      (isUsbSerialDisable env && isUsbSerialDevice s.serialDevices d) = false → p.coversDevice d →
      A d (execFlag env.dVisit.entries true disableType disable e)) :
    Acts env A s (executeManageInterfaceType env disableType disable s).2 := by
  have hopen : Acts env A s (forDevices (fun d s => (openDevice env d.dev s).2) s) :=
    forDevices_acts env _ s.serialDevices (fun s d _ _ => openDevice_acts env d.dev s) s rfl
  have hdev := hopen.trans (executeDeviceTypes_acts env disableType disable _ s.serialDevices hA _ hopen.same.serial)
  have hintf := hdev.trans (executeInterfaceTypes_acts env disableType disable env.gVisit.entries _)
  exact hintf.trans (forDevices_acts env _ _ (fun s d _ _ => close_acts env d.dev s) _ rfl)

theorem authorizeActiveConfig_acts (d : UsbDevice) (authorized : Bool) (s : HostState) :
    Acts env A s (authorizeActiveConfig env d authorized s) := by
  unfold authorizeActiveConfig
  have hopen := openDevice_acts env (A := A) d.dev s
  have hget := hopen.trans (getActiveConfig_acts env (A := A) d.dev (openDevice env d.dev s).2)
  simp only
  split
  · exact hopen
  split
  · exact hget.trans (close_acts env d.dev _)
  split
  · exact hget.trans (close_acts env d.dev _)
  · refine (hget.trans (mapState_acts env (authorizeInterface env d.dev _ authorized) ?_ _ _)).trans
      ((Acts.interfaces _ _ _ _).trans (close_acts env d.dev _))
    exact fun i s => usbInterfaceAuthorize_acts env d.dev _ _ authorized s

theorem manageGlobalInterfaceImpl_acts (disable : Bool) (hA : ∀ d, A d (!disable)) (s : HostState) :
    Acts env A s (manageGlobalInterfaceImpl env disable s).2 := by
  refine forDevices_acts env _ s.serialDevices (fun s d _ _ => ?_) s rfl
  unfold manageGlobalDevice
  have hauth : Acts env A s (usbDeviceAuthorize env d.dev (!disable) "GlobalType" s).2 :=
    Acts.authorize s d.dev (!disable) "GlobalType" fun d _ => hA d
  simp only
  split_ifs
  · exact Acts.refl s
  · exact hauth.trans (authorizeActiveConfig_acts env d _ _)
  · exact hauth

theorem manageUsbSerialLoop_acts (disable : Bool) (s : HostState)
    (hA : ∀ dev ∈ s.serialDevices, ∀ d, d.dev.name = dev.name → A d (!disable)) :
    Acts env A s (manageUsbSerialLoop env disable s) := by
  refine Loop.foldl_rel _ Acts.refl (fun _ _ _ => Acts.trans) _ _ (fun t dev hdev => ?_) s
  exact Acts.authorize t dev _ _ fun d hd => hA dev hdev d (t.devices.name_of_find? _ _ hd)

end Passes

end UsbManager.Host
