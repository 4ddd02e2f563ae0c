import Mathlib.Tactic.Tauto
import UsbManager.Host.Success

/-!
# The trust list

`ExecuteManageDevicePolicy` returns the result for the last device, and a refused authorisation
is not in that result at all. So `UEC_OK` says that the list is in force exactly if in some turn HDI comes to each device
that has to change and accepts its new status, or if an open of the last turn fails.
-/

namespace UsbManager.Host

/-- The device has the status that the list asks for. Hubs are not managed. -/
def AsListed (trustList : List UsbDeviceId) (d : UsbDevice) : Prop :=
  d.isHub = false → (d.authorizeStatus = .disabled ↔ trustList ≠ [] ∧ inTrustList trustList d = false)

/-- A device that is no hub is enabled exactly if the list names it, or is empty. -/
def ListInForce (trustList : List UsbDeviceId) (s : HostState) : Prop :=
  ∀ d ∈ s.devices.values, AsListed trustList d

theorem trusted_eq_false_iff (trustList : List UsbDeviceId) (d : UsbDevice) :
    trusted trustList d = false ↔ trustList ≠ [] ∧ inTrustList trustList d = false := by
  rw [trusted, Bool.or_eq_false_iff, List.isEmpty_eq_false_iff, and_comm]

theorem listInForce_iff (trustList : List UsbDeviceId) (s : HostState) :
    ListInForce trustList s ↔ ∀ k d, s.devices.find? k = some d → AsListed trustList d :=
  s.devices.forall_values_iff _

theorem ids_congr (d d' : UsbDevice) (hident : d.ident = d'.ident) :
    d.vendorId = d'.vendorId ∧ d.productId = d'.productId := by
  have hv : d.ident.vendorId = d'.ident.vendorId := by rw [hident]
  have hp : d.ident.productId = d'.ident.productId := by rw [hident]
  exact ⟨hv, hp⟩

theorem isHub_congr (d d' : UsbDevice) (hident : d.ident = d'.ident) : d.isHub = d'.isHub := by
  have hc : d.ident.baseClass = d'.ident.baseClass := by rw [hident]
  simp only [UsbDevice.ident] at hc
  simp only [UsbDevice.isHub, hc]

theorem inTrustList_congr (trustList : List UsbDeviceId) (d d' : UsbDevice) (hident : d.ident = d'.ident) :
    inTrustList trustList d = inTrustList trustList d' := by
  have hv : d.ident.vendorId = d'.ident.vendorId := by rw [hident]
  have hp : d.ident.productId = d'.ident.productId := by rw [hident]
  simp only [UsbDevice.ident] at hv hp
  simp only [inTrustList, hv, hp]

theorem asListed_congr (trustList : List UsbDeviceId) (d d' : UsbDevice) (hident : d.ident = d'.ident)
    (hstatus : d.authorizeStatus = d'.authorizeStatus) : AsListed trustList d ↔ AsListed trustList d' := by
  rw [AsListed, AsListed, isHub_congr d d' hident, inTrustList_congr trustList d d' hident, hstatus]

theorem asListed_of_status (trustList : List UsbDeviceId) (d : UsbDevice)
    (h : d.authorizeStatus = .disabled ↔ trusted trustList d = false) : AsListed trustList d :=
  fun _ => h.trans (trusted_eq_false_iff trustList d)

/-! ## What the policy keeps -/

theorem kept_asListed (trustList : List UsbDeviceId) :
    Kept (fun d b => b = trusted trustList d) (AsListed trustList) where
  congr := fun d d' hident hstatus => (asListed_congr trustList d d' hident hstatus).mp
  authorize := by
    intro d b hb _ _
    refine asListed_of_status _ _ ?_
    have : trusted trustList (d.withStatus (statusOf b)) = b := hb.symm
    rw [this]
    cases b <;> simp [statusOf, UsbDevice.withStatus]

/-! ## One call of `ManageDeviceImpl` -/

/-- A device that the call is about. -/
def managed (vendorId productId : Int) (d : UsbDevice) : Bool :=
  !d.isHub && (d.vendorId = vendorId && d.productId = productId)

theorem managed_congr (vendorId productId : Int) (d d' : UsbDevice) (hident : d.ident = d'.ident) :
    managed vendorId productId d = managed vendorId productId d' := by
  have hv : d.ident.vendorId = d'.ident.vendorId := by rw [hident]
  have hp : d.ident.productId = d'.ident.productId := by rw [hident]
  simp only [UsbDevice.ident] at hv hp
  rw [managed, managed, isHub_congr d d' hident, hv, hp]

theorem dev_congr (d d' : UsbDevice) (hident : d.ident = d'.ident) : d.dev = d'.dev := by
  have hdev : d.ident.dev = d'.ident.dev := by rw [hident]
  exact hdev

/-- What the call does to a device that it has opened. -/
def manageDeviceTurn (env : Env) (disable : Bool) (d : UsbDevice) (s : HostState) : HostState :=
  (close env d.dev (usbDeviceAuthorize env d.dev (!disable) "DeviceType" (openDevice env d.dev s).2).2).2

theorem manageDeviceLoop_cons (env : Env) (vendorId productId : Int) (disable : Bool) (name : String)
    (names : List String) (s : HostState) :
    ((∀ d, s.devices.find? name = some d → managed vendorId productId d = false) ∧
      manageDeviceLoop env vendorId productId disable (name :: names) s =
        manageDeviceLoop env vendorId productId disable names s) ∨
    ∃ d, s.devices.find? name = some d ∧ managed vendorId productId d = true ∧
      (((openDevice env d.dev s).1 ≠ .ok ∧
          manageDeviceLoop env vendorId productId disable (name :: names) s = openDevice env d.dev s) ∨
        ((openDevice env d.dev s).1 = .ok ∧
          manageDeviceLoop env vendorId productId disable (name :: names) s =
            manageDeviceLoop env vendorId productId disable names (manageDeviceTurn env disable d s))) := by
  rw [manageDeviceLoop]
  rcases hd : s.devices.find? name with - | d
  · exact .inl ⟨fun d h => (by cases h), rfl⟩
  simp only
  split_ifs with hub hid hopen
  · refine .inl ⟨fun d' h => ?_, rfl⟩
    obtain rfl := Option.some.inj h
    simp [managed, hub]
  · exact .inr ⟨d, rfl, by simp [managed, hub, hid], .inl ⟨hopen, rfl⟩⟩
  · exact .inr ⟨d, rfl, by simp [managed, hub, hid], .inr ⟨not_not.mp hopen, rfl⟩⟩
  · refine .inl ⟨fun d' h => ?_, rfl⟩
    obtain rfl := Option.some.inj h
    simp [managed, hid]

theorem manageDeviceTurn_same (env : Env) (disable : Bool) (d : UsbDevice) (s : HostState) :
    SameDevices s (manageDeviceTurn env disable d s) :=
  (((openDevice_acts env d.dev s).trans (Acts.authorize (A := fun _ _ => True) _ d.dev (!disable) "DeviceType"
    fun _ _ => trivial)).trans (close_acts env d.dev _)).same

theorem manageDeviceTurn_other (env : Env) (disable : Bool) (d : UsbDevice) (s : HostState) (k : String)
    (hk : k ≠ d.dev.name) : (manageDeviceTurn env disable d s).devices.find? k = s.devices.find? k := by
  show (usbDeviceAuthorize env d.dev (!disable) "DeviceType" (openDevice env d.dev s).2).2.devices.find? k = _
  rcases usbDeviceAuthorize_cases env d.dev (!disable) "DeviceType" (openDevice env d.dev s).2 with
    h | ⟨ret, -, h⟩ | ⟨_, -, -, -, h⟩
  · rw [h]; rfl
  · rw [h]; rfl
  · rw [h, HostState.find?_setAuthorizeStatus, if_neg hk]; rfl

theorem manageDeviceTurn_refused (env : Env) (disable : Bool) (d : UsbDevice) (s : HostState)
    (h : ¬ env.acceptsAt (s.now + 1) d.dev (!disable)) : (manageDeviceTurn env disable d s).devices = s.devices := by
  show (usbDeviceAuthorize env d.dev (!disable) "DeviceType" (openDevice env d.dev s).2).2.devices = s.devices
  have hnow : (openDevice env d.dev s).2.now = s.now + 1 := by simp [openDevice, HostState.now]
  unfold usbDeviceAuthorize
  rcases hdevice : env.usbDeviceInterface with - | -
  · rfl
  · have hrefused : env.hdiUsbDeviceAuthorize (s.now + 1) d.dev (!disable) ≠ .ok := fun hok => h ⟨hdevice, hok⟩
    simp only [Bool.not_true, Bool.false_eq_true, if_false, hnow, hrefused, ne_eq, not_false_eq_true, if_true]
    split
    · rfl
    · split_ifs <;> rfl

theorem manageDeviceTurn_accepted (env : Env) (disable : Bool) (d : UsbDevice) (s : HostState)
    (h : env.acceptsAt (s.now + 1) d.dev (!disable)) (d' : UsbDevice)
    (hd' : (manageDeviceTurn env disable d s).devices.find? d.dev.name = some d') :
    d'.authorizeStatus = .disabled ↔ (!disable) = false := by
  have hnow : (openDevice env d.dev s).2.now = s.now + 1 := by simp [openDevice, HostState.now]
  have hturn : (manageDeviceTurn env disable d s).devices = _ :=
    usbDeviceAuthorize_devices env d.dev (!disable) "DeviceType" (openDevice env d.dev s).2 (hnow ▸ h)
  rw [hturn, DeviceMap.find?_modify, if_pos rfl] at hd'
  obtain ⟨d₀, -, rfl⟩ := Option.map_eq_some_iff.mp hd'
  exact authorizedStatus_disabled_iff _ _

/-! ## What HDI answers in one call -/

section Call

variable (env : Env) (vendorId productId : Int) (disable : Bool)

/-- HDI opens every device that the call comes to. -/
def AllOpen : List String → HostState → Prop
  | [], _ => True
  | name :: names, s =>
    match s.devices.find? name with
    | none => AllOpen names s
    | some d =>
      if managed vendorId productId d then
        env.opensAt s.now d.dev ∧ AllOpen names (manageDeviceTurn env disable d s)
      else AllOpen names s

/-- HDI opens every device that the call comes to before `k`, opens `k` as well and accepts its status. -/
def Accepts (k : String) : List String → HostState → Prop
  | [], _ => False
  | name :: names, s =>
    match s.devices.find? name with
    | none => Accepts k names s
    | some d =>
      if managed vendorId productId d then
        env.opensAt s.now d.dev ∧
          (name = k ∧ env.acceptsAt (s.now + 1) d.dev (!disable) ∨
            Accepts k names (manageDeviceTurn env disable d s))
      else Accepts k names s

theorem manageDeviceLoop_ok_iff (names : List String) (s : HostState) :
    (manageDeviceLoop env vendorId productId disable names s).1 = .ok ↔
      AllOpen env vendorId productId disable names s := by
  induction names generalizing s with
  | nil => exact iff_of_true rfl trivial
  | cons n names ih =>
    rw [AllOpen]
    rcases manageDeviceLoop_cons env vendorId productId disable n names s with
      ⟨hskip, heq⟩ | ⟨e, he, hm, ⟨hfail, heq⟩ | ⟨hok, heq⟩⟩
    · rw [heq, ih]
      rcases hd : s.devices.find? n with - | d
      · rfl
      · simp only [hskip d hd, Bool.false_eq_true, if_false]
    · rw [heq, he]
      simp only [hm, if_true]
      exact iff_of_false hfail fun h => hfail h.1
    · rw [heq, ih, he]
      simp only [hm, if_true]
      exact ⟨fun h => ⟨hok, h⟩, fun h => h.2⟩

theorem manageDeviceLoop_accepts (k : String) (names : List String) (s : HostState)
    (h : Accepts env vendorId productId disable k names s) (d' : UsbDevice)
    (hd' : (manageDeviceLoop env vendorId productId disable names s).2.devices.find? k = some d') :
    d'.authorizeStatus = .disabled ↔ (!disable) = false := by
  induction names generalizing s with
  | nil => exact h.elim
  | cons n names ih =>
    rw [Accepts] at h
    rcases manageDeviceLoop_cons env vendorId productId disable n names s with
      ⟨hskip, heq⟩ | ⟨e, he, hm, ⟨hfail, -⟩ | ⟨-, heq⟩⟩
    · rw [heq] at hd'
      refine ih s ?_ hd'
      rcases hd : s.devices.find? n with - | d
      · rwa [hd] at h
      · rw [hd] at h
        simpa only [hskip d hd, Bool.false_eq_true, if_false] using h
    · rw [he] at h
      simp only [hm, if_true] at h
      exact absurd h.1 hfail
    · rw [he] at h
      simp only [hm, if_true] at h
      rw [heq] at hd'
      rcases h.2 with ⟨rfl, haccepted⟩ | hlater
      · -- the rest of the loop keeps the status
        have hkept : Kept (fun _ b => b = !disable) fun d => d.authorizeStatus = .disabled ↔ (!disable) = false :=
          ⟨fun _ _ _ hstatus h => hstatus ▸ h, fun d b hb _ _ => by
            subst hb
            cases disable <;> simp [UsbDevice.withStatus, statusOf]⟩
        refine (manageDeviceLoop_acts env (A := fun _ b => b = !disable) vendorId productId disable
          (fun _ _ _ _ => rfl) names _).kept hkept n (fun d₁ hd₁ => ?_) d' hd'
        rw [← s.devices.name_of_find? _ _ he] at hd₁
        exact manageDeviceTurn_accepted env disable e s haccepted d₁ hd₁
      · exact ih _ hlater hd'

theorem manageDeviceLoop_leaves (k : String) (names : List String) (s : HostState)
    (h : ¬ Accepts env vendorId productId disable k names s) :
    (manageDeviceLoop env vendorId productId disable names s).2.devices.find? k = s.devices.find? k := by
  induction names generalizing s with
  | nil => rfl
  | cons n names ih =>
    rw [Accepts] at h
    rcases manageDeviceLoop_cons env vendorId productId disable n names s with
      ⟨hskip, heq⟩ | ⟨e, he, hm, ⟨-, heq⟩ | ⟨hok, heq⟩⟩
    · rw [heq]
      refine ih s ?_
      rcases hd : s.devices.find? n with - | d
      · rwa [hd] at h
      · rw [hd] at h
        simpa only [hskip d hd, Bool.false_eq_true, if_false] using h
    · rw [heq]
      rfl
    · rw [he] at h
      simp only [hm, if_true] at h
      have hturn : (manageDeviceTurn env disable e s).devices.find? k = s.devices.find? k := by
        by_cases hn : n = k
        · rw [manageDeviceTurn_refused env disable e s fun haccepted => h ⟨hok, .inl ⟨hn, haccepted⟩⟩]
        · refine manageDeviceTurn_other env disable e s k ?_
          rw [s.devices.name_of_find? _ _ he]
          exact Ne.symm hn
      rw [heq, ih _ fun hlater => h ⟨hok, .inr hlater⟩, hturn]

theorem Accepts.managed {env : Env} {vendorId productId : Int} {disable : Bool} {k : String} {names : List String}
    {s : HostState} (h : Accepts env vendorId productId disable k names s) {d : UsbDevice}
    (hd : s.devices.find? k = some d) : managed vendorId productId d = true := by
  induction names generalizing s d with
  | nil => exact h.elim
  | cons n names ih =>
    rw [Accepts] at h
    rcases he : s.devices.find? n with - | e
    · rw [he] at h
      exact ih h hd
    · rw [he] at h
      simp only at h
      split at h
      · rename_i hm
        rcases h.2 with ⟨rfl, -⟩ | hlater
        · obtain rfl := Option.some.inj (hd.symm.trans he)
          exact hm
        · obtain ⟨d₁, hd₁, hident⟩ := (manageDeviceTurn_same env disable e s).symm.ident_of_find k d hd
          exact managed_congr _ _ d d₁ hident ▸ ih hlater hd₁
      · exact ih h hd

theorem HdiWorks.accepts {env : Env} (hdi : HdiWorks env) {vendorId productId : Int} {disable : Bool} {k : String}
    {names : List String} (hk : k ∈ names) {s : HostState} {d : UsbDevice} (hd : s.devices.find? k = some d)
    (hm : Host.managed vendorId productId d = true) : Accepts env vendorId productId disable k names s := by
  induction names generalizing s d with
  | nil => cases hk
  | cons n names ih =>
    rw [Accepts]
    rcases he : s.devices.find? n with - | e
    · refine ih ((List.mem_cons.mp hk).resolve_left ?_) hd hm
      rintro rfl
      exact absurd (hd.symm.trans he) (by simp)
    · simp only
      split
      · refine ⟨hdi.opensAt _ _, ?_⟩
        rcases List.mem_cons.mp hk with rfl | hk
        · exact .inl ⟨rfl, hdi.acceptsAt _ _ _⟩
        · obtain ⟨d₁, hd₁, hident⟩ := (manageDeviceTurn_same env disable e s).symm.ident_of_find k d hd
          exact .inr (ih hk hd₁ (managed_congr _ _ d d₁ hident ▸ hm))
      · rename_i hskip
        refine ih ((List.mem_cons.mp hk).resolve_left ?_) hd hm
        rintro rfl
        obtain rfl := Option.some.inj (hd.symm.trans he)
        exact hskip hm

end Call

/-! ## The whole policy -/

section Policy

variable (env : Env) (trustList : List UsbDeviceId)

/-- The turn of one device: a call for its vendor and product. -/
def policyTurn (name : String) (s : HostState) : HostState :=
  match s.devices.find? name with
  | none => s
  | some d => (manageDeviceImpl env d.vendorId d.productId (!trusted trustList d) s).2

/-- In one of the turns HDI comes to `k` and accepts its status. -/
def Reached (k : String) : List String → HostState → Prop
  | [], _ => False
  | name :: names, s =>
    (∃ d, s.devices.find? name = some d ∧
      Accepts env d.vendorId d.productId (!trusted trustList d) k s.devices.keys s) ∨
    Reached k names (policyTurn env trustList name s)

/-- HDI does not open one of the devices that the last turn comes to. -/
def LastFails : List String → HostState → Prop
  | [], _ => False
  | [name], s => ∃ d, s.devices.find? name = some d ∧
      ¬ AllOpen env d.vendorId d.productId (!trusted trustList d) s.devices.keys s
  | name :: names, s => LastFails names (policyTurn env trustList name s)

theorem devicePolicyLoop_cons {name : String} {s : HostState} (hname : name ∈ s.devices.keys) (names : List String)
    (ret : Ret) : ∃ d, s.devices.find? name = some d ∧
      policyTurn env trustList name s = (manageDeviceImpl env d.vendorId d.productId (!trusted trustList d) s).2 ∧
      devicePolicyLoop env trustList (name :: names) (ret, s) =
        devicePolicyLoop env trustList names (manageDeviceImpl env d.vendorId d.productId (!trusted trustList d) s) := by
  obtain ⟨d, hd⟩ := Option.isSome_iff_exists.mp ((s.devices.find?_isSome name).mpr hname)
  refine ⟨d, hd, ?_, ?_⟩
  · rw [policyTurn, hd]
  · rw [devicePolicyLoop, hd]
    rfl

theorem manageDeviceImpl_same (vendorId productId : Int) (disable : Bool) (s : HostState) :
    SameDevices s (manageDeviceImpl env vendorId productId disable s).2 :=
  (manageDeviceLoop_acts env (A := fun _ _ => True) vendorId productId disable (fun _ _ _ _ => trivial)
    s.devices.keys s).same

theorem policyTurn_same (name : String) (s : HostState) : SameDevices s (policyTurn env trustList name s) := by
  unfold policyTurn
  split
  · exact SameDevices.refl s
  · exact manageDeviceImpl_same env _ _ _ s

theorem asListed_of_accepts {c d d' : UsbDevice} {k : String} {s : HostState} (hd : s.devices.find? k = some d)
    (hident : d'.ident = d.ident) (h : Accepts env c.vendorId c.productId (!trusted trustList c) k s.devices.keys s)
    (hd' : (manageDeviceImpl env c.vendorId c.productId (!trusted trustList c) s).2.devices.find? k = some d') :
    AsListed trustList d' := by
  have hm := h.managed hd
  simp only [managed, Bool.and_eq_true, decide_eq_true_eq] at hm
  have hkind : trusted trustList c = trusted trustList d' := by
    have hids : d'.vendorId = d.vendorId ∧ d'.productId = d.productId := ids_congr d' d hident
    simp only [trusted, inTrustList, hids.1, hids.2, hm.2.1, hm.2.2]
  have hstatus := manageDeviceLoop_accepts env _ _ _ k _ s h d' hd'
  rw [Bool.not_not, hkind] at hstatus
  exact asListed_of_status trustList d' hstatus

theorem devicePolicyLoop_kept (names : List String) (ret : Ret) (s : HostState) (k : String)
    (h : ∀ d, s.devices.find? k = some d → AsListed trustList d) (d : UsbDevice)
    (hd : (devicePolicyLoop env trustList names (ret, s)).2.devices.find? k = some d) : AsListed trustList d :=
  (devicePolicyLoop_acts env (A := fun d b => b = trusted trustList d) trustList (fun _ _ => rfl) names ret s).kept
    (kept_asListed trustList) k h d hd

theorem devicePolicyLoop_reached (k : String) (names : List String) (ret : Ret) (s : HostState)
    (hnames : ∀ n ∈ names, n ∈ s.devices.keys) (h : Reached env trustList k names s) (d' : UsbDevice)
    (hd' : (devicePolicyLoop env trustList names (ret, s)).2.devices.find? k = some d') : AsListed trustList d' := by
  induction names generalizing ret s with
  | nil => exact h.elim
  | cons n names ih =>
    obtain ⟨c, hc, hturn, heq⟩ := devicePolicyLoop_cons env trustList (hnames n List.mem_cons_self) names ret
    have hsame := manageDeviceImpl_same env c.vendorId c.productId (!trusted trustList c) s
    rw [heq] at hd'
    rw [Reached, hturn] at h
    rcases h with ⟨c', hc', haccepts⟩ | hlater
    · obtain rfl := Option.some.inj (hc.symm.trans hc')
      refine devicePolicyLoop_kept env trustList names _ _ k (fun d₁ hd₁ => ?_) d' hd'
      obtain ⟨d₀, hd₀, hident⟩ := hsame.ident_of_find k d₁ hd₁
      exact asListed_of_accepts env trustList hd₀ hident haccepts hd₁
    · exact ih _ _ (fun m hm => by rw [hsame.keys]; exact hnames m (List.mem_cons_of_mem n hm)) hlater hd'

theorem devicePolicyLoop_unreached (k : String) (names : List String) (ret : Ret) (s : HostState)
    (hnames : ∀ n ∈ names, n ∈ s.devices.keys) (h : ¬ Reached env trustList k names s) :
    (devicePolicyLoop env trustList names (ret, s)).2.devices.find? k = s.devices.find? k := by
  induction names generalizing ret s with
  | nil => rfl
  | cons n names ih =>
    obtain ⟨c, hc, hturn, heq⟩ := devicePolicyLoop_cons env trustList (hnames n List.mem_cons_self) names ret
    have hsame := manageDeviceImpl_same env c.vendorId c.productId (!trusted trustList c) s
    rw [Reached, hturn, not_or] at h
    have hstep : (manageDeviceImpl env c.vendorId c.productId (!trusted trustList c) s).2.devices.find? k =
        s.devices.find? k :=
      manageDeviceLoop_leaves env _ _ _ k s.devices.keys s fun haccepts => h.1 ⟨c, hc, haccepts⟩
    have hnames' : ∀ m ∈ names,
        m ∈ (manageDeviceImpl env c.vendorId c.productId (!trusted trustList c) s).2.devices.keys := fun m hm => by
      rw [hsame.keys]
      exact hnames m (List.mem_cons_of_mem n hm)
    rw [heq, ← hstep]
    exact ih _ _ hnames' h.2

theorem devicePolicyLoop_ok_iff (names : List String) (s : HostState) (hnames : ∀ n ∈ names, n ∈ s.devices.keys)
    (ret : Ret) (hret : names = [] → ret = .ok) :
    (devicePolicyLoop env trustList names (ret, s)).1 = .ok ↔ ¬ LastFails env trustList names s := by
  induction names generalizing ret s with
  | nil => exact iff_of_true (hret rfl) id
  | cons n names ih =>
    obtain ⟨c, hc, hturn, heq⟩ := devicePolicyLoop_cons env trustList (hnames n List.mem_cons_self) names ret
    have hsame := manageDeviceImpl_same env c.vendorId c.productId (!trusted trustList c) s
    rw [heq]
    cases names with
    | nil =>
      have hok := manageDeviceLoop_ok_iff env c.vendorId c.productId (!trusted trustList c) s.devices.keys s
      refine hok.trans ⟨?_, ?_⟩
      · rintro hopen ⟨c', hc', hfails⟩
        obtain rfl := Option.some.inj (hc.symm.trans hc')
        exact hfails hopen
      · intro hnot
        by_contra hfails
        exact hnot ⟨c, hc, hfails⟩
    | cons m names =>
      have hnames' : ∀ n' ∈ m :: names, n' ∈ (policyTurn env trustList n s).devices.keys := fun n' hn' => by
        rw [(policyTurn_same env trustList n s).keys]
        exact hnames n' (List.mem_cons_of_mem n hn')
      rw [LastFails, ← ih _ hnames' _ (by simp), hturn]
      simp

end Policy

/-! ## What `UEC_OK` means -/

/-- In the last turn HDI does not open a device, or every device is as listed or reached in some turn. -/
def Reliable (env : Env) (trustList : List UsbDeviceId) (s : HostState) : Prop :=
  LastFails env trustList s.devices.keys s ∨
    ∀ k d, s.devices.find? k = some d → AsListed trustList d ∨ Reached env trustList k s.devices.keys s

theorem executeManageDevicePolicy_snd (env : Env) (trustList : List UsbDeviceId) (s : HostState) :
    (executeManageDevicePolicy env trustList s).2 = (devicePolicyLoop env trustList s.devices.keys (.ok, s)).2 := by
  simp only [executeManageDevicePolicy]
  split <;> rfl

theorem executeManageDevicePolicy_ok_iff (env : Env) (trustList : List UsbDeviceId) (s : HostState) :
    (executeManageDevicePolicy env trustList s).1 = .ok ↔ ¬ LastFails env trustList s.devices.keys s := by
  rw [← devicePolicyLoop_ok_iff env trustList s.devices.keys s (fun _ h => h) .ok fun _ => rfl]
  simp only [executeManageDevicePolicy]
  split
  · rename_i hne
    exact iff_of_false (by simp) hne
  · rename_i heq
    exact iff_of_true rfl (not_not.mp heq)

theorem executeManageDevicePolicy_inForce_iff (env : Env) (trustList : List UsbDeviceId) (s : HostState) :
    ListInForce trustList (executeManageDevicePolicy env trustList s).2 ↔
      ∀ k d, s.devices.find? k = some d → AsListed trustList d ∨ Reached env trustList k s.devices.keys s := by
  rw [listInForce_iff, executeManageDevicePolicy_snd]
  have hsame : SameDevices s (devicePolicyLoop env trustList s.devices.keys (.ok, s)).2 :=
    (devicePolicyLoop_acts env (A := fun _ _ => True) trustList (fun _ _ => trivial) s.devices.keys .ok s).same
  constructor
  · intro hforce k d hd
    by_cases hreached : Reached env trustList k s.devices.keys s
    · exact .inr hreached
    · refine .inl (hforce k d ?_)
      rw [devicePolicyLoop_unreached env trustList k s.devices.keys .ok s (fun _ h => h) hreached, hd]
  · intro h k d hd
    obtain ⟨d₀, hd₀, -⟩ := hsame.ident_of_find k d hd
    rcases h k d₀ hd₀ with hlisted | hreached
    · refine devicePolicyLoop_kept env trustList _ _ s k (fun d' hd' => ?_) d hd
      exact Option.some.inj (hd₀.symm.trans hd') ▸ hlisted
    · exact devicePolicyLoop_reached env trustList k s.devices.keys .ok s (fun _ h => h) hreached d hd

theorem HdiWorks.reached {env : Env} (hdi : HdiWorks env) (trustList : List UsbDeviceId) {k : String}
    {names : List String} (hk : k ∈ names) {s : HostState} {d : UsbDevice} (hd : s.devices.find? k = some d)
    (hub : d.isHub = false) : Reached env trustList k names s := by
  induction names generalizing s d with
  | nil => cases hk
  | cons n names ih =>
    rw [Reached]
    rcases List.mem_cons.mp hk with rfl | hk
    · exact .inl ⟨d, hd, hdi.accepts (s.devices.mem_keys_of_find? _ _ hd) hd (by simp [managed, hub])⟩
    · obtain ⟨d₁, hd₁, hident⟩ := (policyTurn_same env trustList n s).symm.ident_of_find k d hd
      exact .inr (ih hk hd₁ (isHub_congr d d₁ hident ▸ hub))

theorem executeManageDevicePolicy_inForce {env : Env} (hdi : HdiWorks env) (trustList : List UsbDeviceId)
    (s : HostState) : ListInForce trustList (executeManageDevicePolicy env trustList s).2 := by
  refine (executeManageDevicePolicy_inForce_iff env trustList s).mpr fun k d hd => ?_
  by_cases hub : d.isHub = true
  · exact .inl fun hnot => absurd (hub.symm.trans hnot) (by decide)
  · exact .inr (hdi.reached trustList (s.devices.mem_keys_of_find? k d hd) hd (Bool.not_eq_true _ ▸ hub))

/-- Whatever HDI answers, and whenever it changes its answers: `UEC_OK` means that the list is in force exactly if every
device that has to change is reached, or an open of the last turn fails. -/
theorem trust_list_in_force_iff (env : Env) (trustList : List UsbDeviceId) (s : HostState) :
    ((executeManageDevicePolicy env trustList s).1 = .ok →
        ListInForce trustList (executeManageDevicePolicy env trustList s).2) ↔ Reliable env trustList s := by
  rw [executeManageDevicePolicy_ok_iff, executeManageDevicePolicy_inForce_iff, Reliable]
  tauto

def oneDevice : HostState := { HostState.init with devices := DeviceMap.empty.insert { busNum := 1, devAddr := 2 } }

/-- HDI refuses to disable the only device: `UEC_OK`, and the device stays enabled. -/
theorem trust_list_ok_but_not_in_force :
    let env : Env := { Env.succeeding with hdiUsbDeviceAuthorize := fun _ _ _ => .hdi (-1) }
    ¬ ((executeManageDevicePolicy env [⟨2, 1⟩] oneDevice).1 = .ok →
      ListInForce [⟨2, 1⟩] (executeManageDevicePolicy env [⟨2, 1⟩] oneDevice).2) := by
  intro env h
  have hlisted := h (by decide +kernel) { busNum := 1, devAddr := 2 } (by decide +kernel) rfl
  exact absurd (hlisted.mpr ⟨by decide, by decide⟩) (by decide)

end UsbManager.Host
