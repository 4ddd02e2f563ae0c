import UsbManager.Host.Acts
import UsbManager.Host.Enumerate
import UsbManager.Lib.Bracket

/-!
# Opens and closes

Which operations close exactly the handles they opened. Enumeration, the trust list and the
global switch do, whatever HDI answers. The type policy closes every device, also one that it
could not open, so it balances only if all of its first opens succeed.
-/

namespace UsbManager.Host

/-- An open of `dev` that succeeded. -/
def Event.opensOk (dev : UsbDev) : Event → Bool
  | .openDevice dev' ret => dev' = dev && ret = .ok
  | _ => false

/-- A close of `dev`, whatever it returned. -/
def Event.closes (dev : UsbDev) : Event → Bool
  | .close dev' _ => dev' = dev
  | _ => false

/-- For each address as many closes as successful opens, and never more of them so far. -/
def HandlesBalanced (es : List Event) : Prop :=
  ∀ dev, Bracket.Balanced (Event.opensOk dev) (Event.closes dev) es

theorem handlesBalanced_nil : HandlesBalanced [] := fun _ => Bracket.balanced_nil _ _

theorem HandlesBalanced.append (xs ys : List Event) (hx : HandlesBalanced xs) (hy : HandlesBalanced ys) :
    HandlesBalanced (xs ++ ys) := fun dev => (hx dev).append (hy dev)

/-! ## Calls that touch no handle -/

def Event.isHandle : Event → Bool
  | .openDevice _ _ => true
  | .close _ _ => true
  | _ => false

def NoHandles (es : List Event) : Prop := ∀ e ∈ es, e.isHandle = false

theorem noHandles_nil : NoHandles [] := fun _ h => absurd h List.not_mem_nil

theorem NoHandles.append (xs ys : List Event) (hx : NoHandles xs) (hy : NoHandles ys) : NoHandles (xs ++ ys) :=
  fun e he => (List.mem_append.mp he).elim (hx e) (hy e)

theorem NoHandles.balanced (es : List Event) (h : NoHandles es) : HandlesBalanced es := by
  refine fun dev => Bracket.balanced_of_neutral es fun e he => ?_
  have := h e he
  cases e <;> first | exact ⟨rfl, rfl⟩ | cases this

theorem noHandles_emit (s : HostState) (e : Event) (h : e.isHandle = false) : Emits NoHandles s (s.emit e) :=
  emits_emit s e fun e' he => by rw [List.mem_singleton.mp he]; exact h

theorem noHandles_trans {s t u : HostState} (h : Emits NoHandles s t) (h' : Emits NoHandles t u) :
    Emits NoHandles s u := h.trans NoHandles.append h'

theorem noHandles_refl (s : HostState) : Emits NoHandles s s := Emits.refl noHandles_nil s

theorem reportManageDeviceInfo_noHandles (op : String) (d : UsbDevice) (i : Option UsbInterface) (s : HostState) :
    Emits NoHandles s (reportManageDeviceInfo op d i s) := by
  cases i <;> exact noHandles_emit s _ rfl

theorem publishEvents_noHandles (event : CommonEvent) (d : UsbDevice) : NoHandles (publishEvents event d) := by
  refine NoHandles.append _ _ ?_ (by simp [NoHandles, Event.isHandle])
  split
  · exact noHandles_nil
  · cases event <;> simp [NoHandles, Event.isHandle]

theorem authorizeEvents_noHandles (dev : UsbDev) (authorized : Bool) (op : String) (d : UsbDevice) :
    NoHandles (authorizeEvents dev authorized op d) := by
  refine NoHandles.append _ _ (NoHandles.append _ _ (by simp [NoHandles, Event.isHandle]) ?_) ?_
  · split
    · exact noHandles_nil
    · simp [NoHandles, Event.isHandle]
  · split
    · exact noHandles_nil
    · exact publishEvents_noHandles _ d

theorem usbDeviceAuthorize_noHandles (env : Env) (dev : UsbDev) (authorized : Bool) (op : String) (s : HostState) :
    Emits NoHandles s (usbDeviceAuthorize env dev authorized op s).2 := by
  rcases usbDeviceAuthorize_cases env dev authorized op s with h | ⟨ret, -, h⟩ | ⟨d, -, -, -, h⟩
  · rw [h]; exact noHandles_refl s
  · rw [h]; exact noHandles_emit s _ rfl
  · rw [h]; exact ⟨_, rfl, authorizeEvents_noHandles dev authorized op d⟩

theorem usbInterfaceAuthorize_noHandles (env : Env) (dev : UsbDev) (configId interfaceId : UInt8)
    (authorized : Bool) (s : HostState) :
    Emits NoHandles s (usbInterfaceAuthorize env dev configId interfaceId authorized s).2 := by
  unfold usbInterfaceAuthorize
  split
  · exact noHandles_refl s
  simp only
  split
  · exact noHandles_trans (noHandles_emit s _ rfl) (noHandles_emit _ _ rfl)
  · exact noHandles_emit s _ rfl

theorem mapState_noHandles {α : Type} (body : α → HostState → α × HostState)
    (hbody : ∀ a s, Emits NoHandles s (body a s).2) (l : List α) (s : HostState) :
    Emits NoHandles s (Loop.mapState body l s).2 :=
  Loop.mapState_rel _ noHandles_refl (fun _ _ _ => noHandles_trans) body l (fun s a _ => hbody a s) s

/-! ## An open, something balanced, a close -/

theorem balanced_refl (s : HostState) : Emits HandlesBalanced s s := Emits.refl handlesBalanced_nil s

theorem balanced_trans {s t u : HostState} (h : Emits HandlesBalanced s t) (h' : Emits HandlesBalanced t u) :
    Emits HandlesBalanced s u := h.trans HandlesBalanced.append h'

theorem balanced_of_noHandles {s t : HostState} (h : Emits NoHandles s t) : Emits HandlesBalanced s t :=
  h.mono NoHandles.balanced

theorem openDevice_failed (env : Env) (dev : UsbDev) (s : HostState) (h : (openDevice env dev s).1 ≠ .ok) :
    Emits HandlesBalanced s (openDevice env dev s).2 := by
  refine emits_emit s _ fun dev' => Bracket.balanced_of_neutral _ fun e he => ?_
  have h : env.host (env.hdiOpenDevice s.now dev) ≠ .ok := h
  rw [List.mem_singleton.mp he]
  exact ⟨by simp [Event.opensOk, h], rfl⟩

/-- `t` is reached after the open, and the close follows. -/
theorem balanced_of_opened (env : Env) (dev : UsbDev) (s t : HostState) (h : (openDevice env dev s).1 = .ok)
    (ht : Emits HandlesBalanced (openDevice env dev s).2 t) : Emits HandlesBalanced s (close env dev t).2 := by
  obtain ⟨es, he, hes⟩ := ht
  refine ⟨_, by rw [close, HostState.emit_trace, he, openDevice, HostState.emit_trace, List.append_assoc,
    List.append_assoc], fun dev' => ?_⟩
  have h : env.host (env.hdiOpenDevice s.now dev) = .ok := h
  exact (hes dev').wrap _ _ rfl rfl (by simp [Event.opensOk, Event.closes, h])

theorem forDevices_balanced (body : UsbDevice → HostState → HostState)
    (hbody : ∀ d s, Emits HandlesBalanced s (body d s)) (s : HostState) :
    Emits HandlesBalanced s (forDevices body s) :=
  forDevices_rel _ balanced_refl (fun _ _ _ => balanced_trans) body (fun s d _ => hbody d s) s

/-! ## The operations that always balance -/

theorem manageDeviceLoop_balanced (env : Env) (vendorId productId : Int) (disable : Bool) (names : List String)
    (s : HostState) : Emits HandlesBalanced s (manageDeviceLoop env vendorId productId disable names s).2 := by
  induction names generalizing s with
  | nil => exact balanced_refl s
  | cons name names ih =>
    unfold manageDeviceLoop
    rcases s.devices.find? name with - | d
    · exact ih s
    simp only
    split_ifs with hub hid hopen
    · exact ih s
    · exact openDevice_failed env d.dev s hopen
    · refine balanced_trans (balanced_of_opened env d.dev s _ (not_not.mp hopen) ?_) (ih _)
      exact balanced_of_noHandles (usbDeviceAuthorize_noHandles _ _ _ _ _)
    · exact ih s

theorem devicePolicyLoop_balanced (env : Env) (trustList : List UsbDeviceId) (names : List String) (ret : Ret)
    (s : HostState) : Emits HandlesBalanced s (devicePolicyLoop env trustList names (ret, s)).2 := by
  induction names generalizing ret s with
  | nil => exact balanced_refl s
  | cons name names ih =>
    unfold devicePolicyLoop
    rcases s.devices.find? name with - | d
    · exact ih ret s
    · exact balanced_trans (manageDeviceLoop_balanced _ _ _ _ _ _) (ih _ _)

theorem executeManageDevicePolicy_balanced (env : Env) (trustList : List UsbDeviceId) (s : HostState) :
    Emits HandlesBalanced s (executeManageDevicePolicy env trustList s).2 := by
  have h := devicePolicyLoop_balanced env trustList s.devices.keys .ok s
  unfold executeManageDevicePolicy
  simp only
  split <;> exact h

theorem authorizeActiveConfig_balanced (env : Env) (d : UsbDevice) (authorized : Bool) (s : HostState) :
    Emits HandlesBalanced s (authorizeActiveConfig env d authorized s) := by
  unfold authorizeActiveConfig
  simp only
  split
  · rename_i hopen
    exact openDevice_failed env d.dev s hopen
  rename_i hopen
  have hopen := not_not.mp hopen
  have hget : Emits NoHandles (openDevice env d.dev s).2 (getActiveConfig env d.dev (openDevice env d.dev s).2).2.2 :=
    noHandles_emit _ _ rfl
  split
  · exact balanced_of_opened env d.dev s _ hopen (balanced_of_noHandles hget)
  split
  · exact balanced_of_opened env d.dev s _ hopen (balanced_of_noHandles hget)
  · refine balanced_of_opened env d.dev s _ hopen (balanced_of_noHandles ?_)
    exact noHandles_trans hget (mapState_noHandles (authorizeInterface env d.dev _ authorized)
      (fun i s => usbInterfaceAuthorize_noHandles env d.dev _ _ authorized s) _ _)

theorem manageGlobalInterfaceImpl_balanced (env : Env) (disable : Bool) (s : HostState) :
    Emits HandlesBalanced s (manageGlobalInterfaceImpl env disable s).2 := by
  refine forDevices_balanced _ (fun d s => ?_) s
  unfold manageGlobalDevice
  have hauth := balanced_of_noHandles (usbDeviceAuthorize_noHandles env d.dev (!disable) "GlobalType" s)
  simp only
  split_ifs
  · exact balanced_refl s
  · exact balanced_trans hauth (authorizeActiveConfig_balanced _ _ _ _)
  · exact hauth

theorem getDevStringValFromIdx_noHandles (env : Env) (dev : UsbDev) (idx : UInt8) (s : HostState) :
    Emits NoHandles s (getDevStringValFromIdx env dev idx s).2 := by
  unfold getDevStringValFromIdx
  simp only
  split_ifs
  · exact noHandles_refl s
  · exact noHandles_refl s
  all_goals exact noHandles_emit s _ rfl

theorem fillDevStrings_noHandles (env : Env) (d : UsbDevice) (s : HostState) :
    Emits NoHandles s (fillDevStrings env d s).2.2 := by
  refine noHandles_trans (getDevStringValFromIdx_noHandles env d.dev d.iManufacturer s) ?_
  refine noHandles_trans (getDevStringValFromIdx_noHandles env d.dev d.iProduct _) ?_
  refine noHandles_trans (getDevStringValFromIdx_noHandles env d.dev d.iSerialNumber _) ?_
  refine mapState_noHandles _ (fun c s => ?_) _ _
  refine noHandles_trans (getDevStringValFromIdx_noHandles env d.dev c.iConfiguration s) ?_
  exact mapState_noHandles (fillInterfaceName env d.dev)
    (fun i s => getDevStringValFromIdx_noHandles env d.dev i.iInterface s) _ _

theorem getConfigDescriptor_noHandles (env : Env) (d : UsbDevice) (descriptor : List UInt8) (s : HostState) :
    Emits NoHandles s (getConfigDescriptor env d descriptor s).2.2 := by
  unfold getConfigDescriptor
  simp only
  split
  · exact noHandles_refl s
  · exact fillDevStrings_noHandles env _ s

theorem getDeviceInfoDescriptor_noHandles (env : Env) (uDev : UsbDev) (d : UsbDevice) (s : HostState) :
    Emits NoHandles s (getDeviceInfoDescriptor env uDev d s).2.2.2 := by
  unfold getDeviceInfoDescriptor
  simp only
  split_ifs <;> exact noHandles_emit s _ rfl

theorem getDeviceInfo_balanced (env : Env) (uDev : UsbDev) (d : UsbDevice) (s : HostState) :
    Emits HandlesBalanced s (getDeviceInfo env uDev d s).2.2 := by
  unfold getDeviceInfo
  simp only
  split
  · rename_i hopen
    exact openDevice_failed env uDev s hopen
  rename_i hopen
  have hopen := not_not.mp hopen
  have hinfo := getDeviceInfoDescriptor_noHandles env uDev d (openDevice env uDev s).2
  split
  · exact balanced_of_opened env uDev s _ hopen (balanced_of_noHandles hinfo)
  · refine balanced_of_opened env uDev s _ hopen (balanced_of_noHandles ?_)
    exact noHandles_trans hinfo (getConfigDescriptor_noHandles env _ _ _)

/-! ## The type policy -/

theorem manageDeviceTypeDevice_balanced (env : Env) (p : TypePattern) (disable : Bool) (d : UsbDevice)
    (s : HostState) : Emits HandlesBalanced s (manageDeviceTypeDevice env p disable d s) := by
  unfold manageDeviceTypeDevice
  simp only
  split_ifs with hserial hcovers hopen
  · exact balanced_refl s
  · exact openDevice_failed env d.dev s hopen
  · refine balanced_of_opened env d.dev s _ (not_not.mp hopen) ?_
    exact balanced_of_noHandles (usbDeviceAuthorize_noHandles _ _ _ _ _)
  · exact balanced_refl s

theorem manageInterfaceOfType_noHandles (env : Env) (d : UsbDevice) (configId : UInt8) (p : TypePattern)
    (disable : Bool) (i : UsbInterface) (s : HostState) :
    Emits NoHandles s (manageInterfaceOfType env d configId p disable i s).2 := by
  unfold manageInterfaceOfType
  have hauth := usbInterfaceAuthorize_noHandles env d.dev configId (UInt8.ofInt i.id) (!disable) s
  simp only
  split
  · dsimp only
    split
    · exact noHandles_trans hauth (reportManageDeviceInfo_noHandles _ _ _ _)
    · exact hauth
  · exact noHandles_refl s

theorem manageInterfaceTypeDevice_balanced (env : Env) (p : TypePattern) (disable : Bool) (d : UsbDevice)
    (s : HostState) : Emits HandlesBalanced s (manageInterfaceTypeDevice env p disable d s) := by
  unfold manageInterfaceTypeDevice
  have hget : Emits NoHandles s (getActiveConfig env d.dev s).2.2 := noHandles_emit s _ rfl
  simp only
  split
  · exact balanced_refl s
  split
  · exact balanced_of_noHandles hget
  split
  · exact balanced_of_noHandles hget
  · exact balanced_of_noHandles (noHandles_trans hget (mapState_noHandles (manageInterfaceOfType env d _ p disable)
      (manageInterfaceOfType_noHandles env d _ p disable) _ _))

theorem executeManageDeviceType_balanced (env : Env) (disableType : List UsbDeviceType) (disable : Bool)
    (map : TypeTable) (isDev : Bool) (s : HostState) :
    Emits HandlesBalanced s (executeManageDeviceType env disableType disable map isDev s) := by
  refine Loop.foldl_rel _ balanced_refl (fun _ _ _ => balanced_trans) _ _ (fun s e _ => ?_) s
  cases isDev with
  | true =>
    simp only [if_true]
    unfold manageDeviceTypeImpl
    split
    · exact balanced_refl s
    · exact forDevices_balanced _ (manageDeviceTypeDevice_balanced env _ _) s
  | false =>
    simp only [Bool.false_eq_true, if_false]
    unfold manageInterfaceTypeImpl
    split
    · exact balanced_refl s
    · exact forDevices_balanced _ (manageInterfaceTypeDevice_balanced env _ _) s

/-- The opens of the first loop of the type policy, from a clock on. -/
def openEvents (env : Env) : Nat → List UsbDevice → List Event
  | _, [] => []
  | t, d :: ds => .openDevice d.dev (env.host (env.hdiOpenDevice t d.dev)) :: openEvents env (t + 1) ds

theorem foldl_open_trace (env : Env) (ds : List UsbDevice) (s : HostState) :
    (ds.foldl (fun s d => (openDevice env d.dev s).2) s).trace = s.trace ++ openEvents env s.now ds := by
  induction ds generalizing s with
  | nil => simp [openEvents]
  | cons d ds ih =>
    rw [List.foldl_cons, ih]
    simp [openDevice, HostState.now, openEvents]

theorem foldl_close_trace (env : Env) (ds : List UsbDevice) (s : HostState) :
    ∃ cs, (ds.foldl (fun s d => (close env d.dev s).2) s).trace = s.trace ++ cs ∧
      (∀ dev, ∀ e ∈ cs, Event.opensOk dev e = false) ∧
      ∀ dev, cs.countP (Event.closes dev) = (ds.map UsbDevice.dev).count dev := by
  induction ds generalizing s with
  | nil => exact ⟨[], by simp⟩
  | cons d ds ih =>
    obtain ⟨cs, htrace, hup, hcount⟩ := ih (close env d.dev s).2
    refine ⟨.close d.dev (close env d.dev s).1 :: cs, ?_, ?_, ?_⟩
    · rw [List.foldl_cons, htrace]
      simp [close]
    · intro dev e he
      rcases List.mem_cons.mp he with rfl | he
      · rfl
      · exact hup dev e he
    · intro dev
      simp only [List.countP_cons, List.map_cons, List.count_cons, hcount, Event.closes, beq_iff_eq,
        decide_eq_true_eq]

/-- Every open of the first loop succeeds: the `i`-th device is opened at time `t + i`. -/
def OpensSucceed (env : Env) (t : Nat) (ds : List UsbDevice) : Prop :=
  ∀ i d, ds[i]? = some d → env.host (env.hdiOpenDevice (t + i) d.dev) = .ok

theorem opensSucceed_cons (env : Env) (t : Nat) (d : UsbDevice) (ds : List UsbDevice) :
    OpensSucceed env t (d :: ds) ↔
      env.host (env.hdiOpenDevice t d.dev) = .ok ∧ OpensSucceed env (t + 1) ds := by
  constructor
  · intro h
    refine ⟨h 0 d rfl, fun i d' hd' => ?_⟩
    rw [Nat.add_right_comm, Nat.add_assoc]
    exact h (i + 1) d' hd'
  · rintro ⟨h0, h⟩ i d' hd'
    cases i with
    | zero => rw [← Option.some.inj hd']; exact h0
    | succ i => rw [Nat.add_comm i, ← Nat.add_assoc]; exact h i d' hd'

theorem countP_openEvents_le (env : Env) (t : Nat) (ds : List UsbDevice) (dev : UsbDev) :
    (openEvents env t ds).countP (Event.opensOk dev) ≤ (ds.map UsbDevice.dev).count dev := by
  induction ds generalizing t with
  | nil => exact Nat.le_refl _
  | cons d ds ih =>
    have := ih (t + 1)
    simp only [openEvents, List.countP_cons, List.map_cons, List.count_cons, Event.opensOk, beq_iff_eq,
      Bool.and_eq_true, decide_eq_true_eq]
    split_ifs <;> first | omega | simp_all

theorem countP_openEvents_eq_iff (env : Env) (t : Nat) (ds : List UsbDevice) :
    (∀ dev, (openEvents env t ds).countP (Event.opensOk dev) = (ds.map UsbDevice.dev).count dev) ↔
      OpensSucceed env t ds := by
  induction ds generalizing t with
  | nil => exact ⟨fun _ i d h => by simp at h, fun _ _ => rfl⟩
  | cons d ds ih =>
    rw [opensSucceed_cons, ← ih (t + 1)]
    by_cases hok : env.host (env.hdiOpenDevice t d.dev) = .ok
    · simp only [openEvents, List.countP_cons, List.map_cons, List.count_cons, Event.opensOk, hok, beq_iff_eq,
        decide_true, Bool.and_true, decide_eq_true_eq, Nat.add_right_cancel_iff, true_and]
    · refine ⟨fun h => ?_, fun h => absurd h.1 hok⟩
      have := h d.dev
      have hle := countP_openEvents_le env (t + 1) ds d.dev
      simp [openEvents, Event.opensOk, hok] at this
      omega

theorem openEvents_not_closes (env : Env) (t : Nat) (ds : List UsbDevice) (dev : UsbDev) :
    ∀ e ∈ openEvents env t ds, Event.closes dev e = false := by
  induction ds generalizing t with
  | nil => simp [openEvents]
  | cons d ds ih =>
    intro e he
    rcases List.mem_cons.mp he with rfl | he
    · rfl
    · exact ih (t + 1) e he

theorem executeManageInterfaceType_balanced_iff (env : Env) (disableType : List UsbDeviceType) (disable : Bool)
    (s : HostState) :
    HandlesBalanced (added s (executeManageInterfaceType env disableType disable s).2) ↔
      OpensSucceed env s.now s.devices.values := by
  -- the trace is: the opens, both passes, the closes
  let s₁ := forDevices (fun d s => (openDevice env d.dev s).2) s
  let s₂ := executeManageDeviceType env disableType disable env.dVisit.entries true s₁
  let s₃ := executeManageDeviceType env disableType disable env.gVisit.entries false s₂
  have h₁ : s₁.trace = s.trace ++ openEvents env s.now s.devices.values := by
    rw [← foldl_open_trace, ← forDevices_of_stable (fun d s => (openDevice env d.dev s).2) fun _ _ => rfl]
  obtain ⟨ms, h₃, hms⟩ : Emits HandlesBalanced s₁ s₃ :=
    balanced_trans (executeManageDeviceType_balanced _ _ _ _ _ _) (executeManageDeviceType_balanced _ _ _ _ _ _)
  obtain ⟨cs, h₄, hup, hcount⟩ := foldl_close_trace env s₃.devices.values s₃
  have hsame : SameDevices s s₃ := by
    have hopen : Acts env (fun _ _ => True) s s₁ :=
      forDevices_acts env _ s.serialDevices (fun s d _ _ => openDevice_acts env d.dev s) s rfl
    have hdev := executeDeviceTypes_acts env (A := fun _ _ => True) disableType disable env.dVisit.entries
      s₁.serialDevices (fun _ _ _ _ _ _ _ => trivial) s₁ rfl
    exact (hopen.trans (hdev.trans (executeInterfaceTypes_acts env disableType disable _ _))).same
  have hdevs : s₃.devices.values.map UsbDevice.dev = s.devices.values.map UsbDevice.dev :=
    hsame.map_values _ fun _ => rfl
  have htrace : added s (executeManageInterfaceType env disableType disable s).2 =
      openEvents env s.now s.devices.values ++ ms ++ cs := by
    have : (executeManageInterfaceType env disableType disable s).2.trace =
        s.trace ++ (openEvents env s.now s.devices.values ++ ms ++ cs) := by
      rw [← List.append_assoc, ← List.append_assoc, ← h₁, ← h₃, ← h₄,
        ← forDevices_of_stable (fun d s => (close env d.dev s).2) fun _ _ => rfl]
      rfl
    rw [added, this, List.drop_left]
  rw [htrace, ← countP_openEvents_eq_iff]
  refine forall_congr' fun dev => ?_
  rw [Bracket.balanced_sandwich_iff _ _ _ (openEvents_not_closes _ _ _ dev) (hms dev) (hup dev), hcount dev, hdevs]

/-- All four operations balance if and only if the type policy can open every device. -/
theorem handles_balanced_iff (env : Env) (uDev : UsbDev) (d : UsbDevice) (trustList : List UsbDeviceId)
    (disableType : List UsbDeviceType) (disable disable' : Bool) (s : HostState) :
    (HandlesBalanced (added s (getDeviceInfo env uDev d s).2.2) ∧
      HandlesBalanced (added s (executeManageDevicePolicy env trustList s).2) ∧
      HandlesBalanced (added s (executeManageInterfaceType env disableType disable s).2) ∧
      HandlesBalanced (added s (manageGlobalInterfaceImpl env disable' s).2)) ↔
    OpensSucceed env s.now s.devices.values := by
  rw [← executeManageInterfaceType_balanced_iff env disableType disable s]
  refine ⟨fun h => h.2.2.1, fun h => ⟨?_, ?_, h, ?_⟩⟩
  · exact (getDeviceInfo_balanced env uDev d s).added
  · exact (executeManageDevicePolicy_balanced env trustList s).added
  · exact (manageGlobalInterfaceImpl_balanced env disable' s).added

theorem type_policy_closes_unopened :
    ¬ HandlesBalanced (added
      { HostState.init with devices := DeviceMap.empty.insert { busNum := 1, devAddr := 2 } }
      (executeManageInterfaceType { Env.succeeding with hdiOpenDevice := fun _ _ => .hdi (-1) } [] true
        { HostState.init with devices := DeviceMap.empty.insert { busNum := 1, devAddr := 2 } }).2) := by
  rw [executeManageInterfaceType_balanced_iff]
  intro h
  cases h 0 { busNum := 1, devAddr := 2 } rfl

end UsbManager.Host
