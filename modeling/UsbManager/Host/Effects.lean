import UsbManager.Host.Policy

/-!
# What a call and a loop do

One lemma says what `UsbDeviceAuthorize` can do, all other modules use it by name. A turn of a
loop over the devices gets the device as it is stored at that moment. The rules lift what one
turn does to the whole loop: a relation between states, the events it adds to the trace, and,
if a turn changes its own device only, the new device map.
-/

namespace UsbManager.Host

/-! ## Authorisation -/

/-- What `PublishCommonEvent` leaves in the trace. -/
def publishEvents (event : CommonEvent) (d : UsbDevice) : List Event :=
  (if d.isHub || isAudioDevice d then []
    else [match event with | .detached => .cancelNotification | .attached => .sendNotification]) ++
  [.publish event d]

theorem publishCommonEvent_eq (event : CommonEvent) (d : UsbDevice) (s : HostState) :
    publishCommonEvent event d s = { s with trace := s.trace ++ publishEvents event d } := by
  unfold publishCommonEvent publishEvents
  by_cases hub : d.isHub
  · simp [hub, HostState.emit]
  · by_cases audio : isAudioDevice d
    · simp [hub, audio, HostState.emit]
    · cases event <;> simp [hub, audio, HostState.emit]

/-- `authorized==true -> ENABLED`. -/
def statusOf (authorized : Bool) : AuthorizeStatus := if authorized then .enabled else .disabled

def eventOf (authorized : Bool) : CommonEvent := if authorized then .attached else .detached

/-- What an authorisation that HDI accepts leaves in the trace. -/
def authorizeEvents (dev : UsbDev) (authorized : Bool) (op : String) (d : UsbDevice) : List Event :=
  [.usbDeviceAuthorize dev authorized .ok] ++
  (if authorized then [] else [.report op d.vendorId d.productId d.baseClass d.subClass d.protocol]) ++
  (if d.authorizeStatus = .newArrived then [] else publishEvents (eventOf authorized) d)

theorem usbDeviceAuthorize_cases (env : Env) (dev : UsbDev) (authorized : Bool) (op : String) (s : HostState) :
    (usbDeviceAuthorize env dev authorized op s).2 = s ∨
    (∃ ret, ret ≠ .ok ∧
      (usbDeviceAuthorize env dev authorized op s).2 = s.emit (.usbDeviceAuthorize dev authorized ret)) ∨
    ∃ d, s.devices.find? dev.name = some d ∧ (authorized = true ↔ d.authorizeStatus = .disabled) ∧
      env.hdiUsbDeviceAuthorize s.now dev authorized = .ok ∧
      (usbDeviceAuthorize env dev authorized op s).2 =
        { s with trace := s.trace ++ authorizeEvents dev authorized op d }.setAuthorizeStatus dev.name
          (statusOf authorized) := by
  unfold usbDeviceAuthorize
  split
  · exact .inl rfl
  rcases hd : s.devices.find? dev.name with - | d
  · exact .inl rfl
  simp only
  split
  · exact .inl rfl
  rename_i hchange
  split
  · rename_i hret
    exact .inr (.inl ⟨_, hret, rfl⟩)
  rename_i hret
  have hret : env.hdiUsbDeviceAuthorize s.now dev authorized = .ok := not_not.mp hret
  refine .inr (.inr ⟨d, rfl, ?_, hret, ?_⟩)
  · cases authorized <;> simp_all
  · rw [hret]
    by_cases hnew : d.authorizeStatus = .newArrived
    · cases authorized <;>
        simp [hnew, authorizeEvents, HostState.emit, reportManageDeviceInfo, statusOf]
    · cases authorized <;>
        simp [hnew, authorizeEvents, HostState.emit, reportManageDeviceInfo, statusOf, eventOf, publishCommonEvent_eq]

/-! ## Loops -/

theorem visit_of_find (body : UsbDevice → HostState → HostState) (s : HostState) (name : String) (d : UsbDevice)
    (h : s.devices.find? name = some d) : visit body s name = body d s := by
  rw [visit, h]

theorem forDevices_rel (R : HostState → HostState → Prop) (hrefl : ∀ s, R s s)
    (htrans : ∀ s t u, R s t → R t u → R s u) (body : UsbDevice → HostState → HostState)
    (hbody : ∀ s d, s.devices.find? d.dev.name = some d → R s (body d s)) (s : HostState) :
    R s (forDevices body s) := by
  refine Loop.foldl_rel R hrefl htrans _ _ (fun s name _ => ?_) s
  rcases h : s.devices.find? name with - | d
  · rw [visit, h]; exact hrefl s
  · rw [visit_of_find _ _ _ _ h]
    exact hbody s d (by rw [s.devices.name_of_find? _ _ h, h])

theorem forDevices_same_devices (body : UsbDevice → HostState → HostState)
    (hbody : ∀ d s, (body d s).devices = s.devices) (s : HostState) : (forDevices body s).devices = s.devices :=
  forDevices_rel (fun s t => t.devices = s.devices) (fun _ => rfl) (fun _ _ _ h h' => h'.trans h) body
    (fun s d _ => hbody d s) s

theorem forDevices_of_stable (body : UsbDevice → HostState → HostState)
    (hbody : ∀ d s, (body d s).devices = s.devices) (s : HostState) :
    forDevices body s = s.devices.values.foldl (fun s d => body d s) s := by
  suffices h : ∀ (ds : List UsbDevice) (t : HostState), (∀ d ∈ ds, t.devices.find? d.dev.name = some d) →
      (ds.map fun d => d.dev.name).foldl (visit body) t = ds.foldl (fun s d => body d s) t by
    rw [forDevices, DeviceMap.keys_eq_map]
    exact h _ s fun d hd => (s.devices.mem_values d).mp hd
  intro ds
  induction ds with
  | nil => intro t _; rfl
  | cons d ds ih =>
    intro t ht
    rw [List.map_cons, List.foldl_cons, List.foldl_cons, visit_of_find _ _ _ _ (ht d List.mem_cons_self)]
    exact ih _ fun d' hd' => by rw [hbody]; exact ht d' (List.mem_cons_of_mem d hd')

/-! ## Events -/

def added (s s' : HostState) : List Event := s'.trace.drop s.trace.length

def Emits (Q : List Event → Prop) (s s' : HostState) : Prop := ∃ es, s'.trace = s.trace ++ es ∧ Q es

section Emits

variable {Q : List Event → Prop}

theorem Emits.refl (hnil : Q []) (s : HostState) : Emits Q s s := ⟨[], by simp, hnil⟩

theorem Emits.trans (happ : ∀ xs ys, Q xs → Q ys → Q (xs ++ ys)) {s t u : HostState} (h : Emits Q s t)
    (h' : Emits Q t u) : Emits Q s u := by
  obtain ⟨xs, hx, hxs⟩ := h
  obtain ⟨ys, hy, hys⟩ := h'
  exact ⟨xs ++ ys, by rw [hy, hx, List.append_assoc], happ xs ys hxs hys⟩

theorem Emits.mono {Q' : List Event → Prop} {s s' : HostState} (h : Emits Q s s') (hQ : ∀ es, Q es → Q' es) :
    Emits Q' s s' := by
  obtain ⟨es, he, hes⟩ := h
  exact ⟨es, he, hQ es hes⟩

theorem Emits.added {s s' : HostState} (h : Emits Q s s') : Q (added s s') := by
  obtain ⟨es, he, hes⟩ := h
  rwa [Host.added, he, List.drop_left]

theorem emits_emit (s : HostState) (e : Event) (h : Q [e]) : Emits Q s (s.emit e) := ⟨[e], rfl, h⟩

end Emits

/-! ## A loop that changes each device on its own -/

/-- `I` is what a turn may rely on besides its own device. -/
theorem forDevices_devices (I : HostState → Prop) (body : UsbDevice → HostState → HostState)
    (g : UsbDevice → UsbDevice) (hg : ∀ d, (g d).dev = d.dev)
    (hbody : ∀ s d, I s → s.devices.find? d.dev.name = some d →
      I (body d s) ∧ (body d s).devices = s.devices.modify d.dev.name g hg)
    (s : HostState) (hI : I s) :
    I (forDevices body s) ∧ (forDevices body s).devices = s.devices.mapVal g hg := by
  suffices h : ∀ (names : List String) (t : HostState), names.Nodup → I t →
      I (names.foldl (visit body) t) ∧ (names.foldl (visit body) t).devices.keys = t.devices.keys ∧
        ∀ k, (names.foldl (visit body) t).devices.find? k =
          if k ∈ names then (t.devices.find? k).map g else t.devices.find? k by
    obtain ⟨h1, h2, h3⟩ := h s.devices.keys s s.devices.nodup_keys hI
    refine ⟨h1, DeviceMap.ext_find? _ _ (by rw [DeviceMap.keys_mapVal]; exact h2) fun k hk => ?_⟩
    have hk : k ∈ s.devices.keys := h2 ▸ hk
    rw [DeviceMap.find?_mapVal]
    exact (h3 k).trans (if_pos hk)
  intro names
  induction names with
  | nil => intro t _ hI; exact ⟨hI, rfl, fun k => by simp⟩
  | cons name names ih =>
    intro t hnd hI
    rw [List.nodup_cons] at hnd
    rw [List.foldl_cons]
    rcases hf : t.devices.find? name with - | d
    · obtain ⟨h1, h2, h3⟩ := ih t hnd.2 hI
      rw [show visit body t name = t by rw [visit, hf]]
      refine ⟨h1, h2, fun k => ?_⟩
      rw [h3 k]
      by_cases hk : k = name
      · subst hk; simp [hf]
      · simp [hk]
    · have hname := t.devices.name_of_find? _ _ hf
      obtain ⟨hI', hdev⟩ := hbody t d hI (by rw [hname, hf])
      rw [visit_of_find _ _ _ _ hf]
      obtain ⟨h1, h2, h3⟩ := ih (body d t) hnd.2 hI'
      refine ⟨h1, by rw [h2, hdev, DeviceMap.keys_modify], fun k => ?_⟩
      rw [h3 k, hdev, DeviceMap.find?_modify, hname]
      -- `name` is not visited again
      by_cases hk : k = name
      · subst hk; simp [hnd.1]
      · simp [hk]

end UsbManager.Host
