import UsbManager.Host.TypePolicy

/-!
# Requests for interfaces

What the passes ask HDI for the interfaces of one device. A turn of a pass concerns the device
it visits and no other, so the requests for one address are those of one turn.
-/

namespace UsbManager.Host

/-- Configuration id, interface number and flag of a request. -/
abbrev Request := UInt8 × UInt8 × Bool

def Event.request (dev : UsbDev) : Event → Option Request
  | .usbInterfaceAuthorize dev' c i b _ => if dev' = dev then some (c, i, b) else none
  | _ => none

def requestsOf (dev : UsbDev) (es : List Event) : List Request := es.filterMap (Event.request dev)

theorem requestsOf_append (dev : UsbDev) (es fs : List Event) :
    requestsOf dev (es ++ fs) = requestsOf dev es ++ requestsOf dev fs := List.filterMap_append

theorem requestsOf_added (dev : UsbDev) (s s' : HostState) (rs : List Request) (htrace : ∃ es, s'.trace = s.trace ++ es)
    (h : requestsOf dev s'.trace = requestsOf dev s.trace ++ rs) : requestsOf dev (added s s') = rs := by
  obtain ⟨es, hes⟩ := htrace
  rw [added, hes, List.drop_left]
  rw [hes, requestsOf_append] at h
  exact List.append_cancel_left h

/-! ## A turn concerns one device -/

/-- Only the device at `dev` changed, and only `dev` was asked for. -/
structure Local (dev : UsbDev) (s t : HostState) : Prop where
  devices : ∀ k, k ≠ dev.name → t.devices.find? k = s.devices.find? k
  requests : ∀ dev', dev' ≠ dev → requestsOf dev' t.trace = requestsOf dev' s.trace
  serial : t.serialDevices = s.serialDevices

theorem Local.refl (dev : UsbDev) (s : HostState) : Local dev s s := ⟨fun _ _ => rfl, fun _ _ => rfl, rfl⟩

theorem Local.trans {dev : UsbDev} {s t u : HostState} (h : Local dev s t) (h' : Local dev t u) : Local dev s u :=
  ⟨fun k hk => (h'.devices k hk).trans (h.devices k hk), fun d hd => (h'.requests d hd).trans (h.requests d hd),
    h'.serial.trans h.serial⟩

theorem Local.emit (dev : UsbDev) (s : HostState) (e : Event) (h : ∀ dev', dev' ≠ dev → e.request dev' = none) :
    Local dev s (s.emit e) := by
  refine ⟨fun _ _ => rfl, fun dev' hdev' => ?_, rfl⟩
  rw [HostState.emit_trace, requestsOf_append]
  simp [requestsOf, h dev' hdev']

theorem Local.emit_other (dev : UsbDev) (s : HostState) (e : Event) (h : ∀ dev', e.request dev' = none) :
    Local dev s (s.emit e) :=
  Local.emit dev s e fun dev' _ => h dev'

theorem Local.interfaces (dev : UsbDev) (s : HostState) (index : Nat) (is : List UsbInterface) :
    Local dev s (s.setInterfaces dev.name index is) :=
  ⟨fun k hk => by rw [HostState.find?_setInterfaces, if_neg hk], fun _ _ => rfl, rfl⟩

theorem requestsOf_authorizeEvents (dev dev' : UsbDev) (authorized : Bool) (op : String) (d : UsbDevice) :
    requestsOf dev' (authorizeEvents dev authorized op d) = [] := by
  rw [requestsOf, List.filterMap_eq_nil_iff]
  intro e he
  simp only [authorizeEvents, publishEvents, List.mem_append] at he
  rcases he with (he | he) | he
  · rw [List.mem_singleton.mp he]; rfl
  · split at he
    · cases he
    · rw [List.mem_singleton.mp he]; rfl
  · split at he
    · cases he
    · rcases List.mem_append.mp he with he | he
      · split at he
        · cases he
        · rw [List.mem_singleton.mp he]
          cases eventOf authorized <;> rfl
      · rw [List.mem_singleton.mp he]; rfl

theorem usbDeviceAuthorize_requests (env : Env) (dev dev' : UsbDev) (authorized : Bool) (op : String) (s : HostState) :
    requestsOf dev' (usbDeviceAuthorize env dev authorized op s).2.trace = requestsOf dev' s.trace := by
  rcases usbDeviceAuthorize_cases env dev authorized op s with h | ⟨ret, -, h⟩ | ⟨d, -, -, -, h⟩
  · rw [h]
  · rw [h, HostState.emit_trace, requestsOf_append]
    exact List.append_nil _
  · rw [h, HostState.setAuthorizeStatus_trace, requestsOf_append, requestsOf_authorizeEvents, List.append_nil]

theorem usbDeviceAuthorize_local (env : Env) (dev : UsbDev) (authorized : Bool) (op : String) (s : HostState) :
    Local dev s (usbDeviceAuthorize env dev authorized op s).2 := by
  refine ⟨fun k hk => ?_, fun dev' _ => usbDeviceAuthorize_requests env dev dev' authorized op s, ?_⟩
  · rcases usbDeviceAuthorize_cases env dev authorized op s with h | ⟨ret, -, h⟩ | ⟨d, -, -, -, h⟩
    · rw [h]
    · rw [h]; rfl
    · rw [h, HostState.find?_setAuthorizeStatus, if_neg hk]
  · exact (Acts.authorize (A := fun _ _ => True) s dev authorized op fun _ _ => trivial).same.serial

theorem usbInterfaceAuthorize_local (env : Env) (dev : UsbDev) (configId interfaceId : UInt8) (authorized : Bool)
    (s : HostState) : Local dev s (usbInterfaceAuthorize env dev configId interfaceId authorized s).2 := by
  unfold usbInterfaceAuthorize
  split
  · exact Local.refl dev s
  have hreq : Local dev s (s.emit (.usbInterfaceAuthorize dev configId interfaceId authorized
      (env.hdiUsbInterfaceAuthorize s.now dev configId interfaceId authorized))) :=
    Local.emit dev s _ fun dev' hdev' => if_neg hdev'.symm
  simp only
  split
  · exact hreq.trans (Local.emit_other dev _ (.manageInterface ..) fun _ => rfl)
  · exact hreq

theorem mapState_local {α : Type} (dev : UsbDev) (body : α → HostState → α × HostState)
    (hbody : ∀ a s, Local dev s (body a s).2) (l : List α) (s : HostState) :
    Local dev s (Loop.mapState body l s).2 :=
  Loop.mapState_rel _ (Local.refl dev) (fun _ _ _ => Local.trans) body l (fun s a _ => hbody a s) s

theorem manageInterfaceOfType_local (env : Env) (d : UsbDevice) (configId : UInt8) (p : TypePattern) (disable : Bool)
    (i : UsbInterface) (s : HostState) : Local d.dev s (manageInterfaceOfType env d configId p disable i s).2 := by
  unfold manageInterfaceOfType
  have hauth := usbInterfaceAuthorize_local env d.dev configId (UInt8.ofInt i.id) (!disable) s
  simp only
  split
  · dsimp only
    split
    · exact hauth.trans (Local.emit_other d.dev _ (.report ..) fun _ => rfl)
    · exact hauth
  · exact Local.refl _ s

theorem manageInterfaceTypeDevice_local (env : Env) (p : TypePattern) (disable : Bool) (d : UsbDevice)
    (s : HostState) : Local d.dev s (manageInterfaceTypeDevice env p disable d s) := by
  unfold manageInterfaceTypeDevice
  have hget : Local d.dev s (getActiveConfig env d.dev s).2.2 :=
    Local.emit_other d.dev s (.getActiveConfig ..) fun _ => rfl
  simp only
  split
  · exact Local.refl _ s
  split
  · exact hget
  split
  · exact hget
  · exact (hget.trans (mapState_local d.dev (manageInterfaceOfType env d _ p disable)
      (manageInterfaceOfType_local env d _ p disable) _ _)).trans (Local.interfaces d.dev _ _ _)

theorem authorizeActiveConfig_local (env : Env) (d : UsbDevice) (authorized : Bool) (s : HostState) :
    Local d.dev s (authorizeActiveConfig env d authorized s) := by
  unfold authorizeActiveConfig
  have hopen : Local d.dev s (openDevice env d.dev s).2 := Local.emit_other d.dev s (.openDevice ..) fun _ => rfl
  have hget : Local d.dev s (getActiveConfig env d.dev (openDevice env d.dev s).2).2.2 :=
    hopen.trans (Local.emit_other d.dev _ (.getActiveConfig ..) fun _ => rfl)
  have hclose : ∀ t, Local d.dev t (close env d.dev t).2 := fun t =>
    Local.emit_other d.dev t (.close ..) fun _ => rfl
  simp only
  split
  · exact hopen
  split
  · exact hget.trans (hclose _)
  split
  · exact hget.trans (hclose _)
  · refine (hget.trans (mapState_local d.dev (authorizeInterface env d.dev _ authorized) ?_ _ _)).trans
      ((Local.interfaces d.dev _ _ _).trans (hclose _))
    exact fun i s => usbInterfaceAuthorize_local env d.dev _ _ authorized s

theorem manageGlobalDevice_local (env : Env) (disable : Bool) (d : UsbDevice) (s : HostState) :
    Local d.dev s (manageGlobalDevice env disable d s) := by
  unfold manageGlobalDevice
  have hauth := usbDeviceAuthorize_local env d.dev (!disable) "GlobalType" s
  simp only
  split_ifs
  · exact Local.refl _ s
  · exact hauth.trans (authorizeActiveConfig_local env d _ _)
  · exact hauth

/-- Seen from one device, a loop of such turns is the turn of that device: it starts from a state
`t` that agrees with the first one on the device and its requests, and nothing follows. -/
theorem forDevices_at (body : UsbDevice → HostState → HostState) (hbody : ∀ d s, Local d.dev s (body d s))
    (s : HostState) (d : UsbDevice) (hd : s.devices.find? d.dev.name = some d) :
    ∃ t, t.devices.find? d.dev.name = some d ∧ requestsOf d.dev t.trace = requestsOf d.dev s.trace ∧
      t.serialDevices = s.serialDevices ∧
      (forDevices body s).devices.find? d.dev.name = (body d t).devices.find? d.dev.name ∧
      requestsOf d.dev (forDevices body s).trace = requestsOf d.dev (body d t).trace := by
  have hother : ∀ (names : List String) (t : HostState), d.dev.name ∉ names →
      (names.foldl (visit body) t).devices.find? d.dev.name = t.devices.find? d.dev.name ∧
        requestsOf d.dev (names.foldl (visit body) t).trace = requestsOf d.dev t.trace := by
    intro names
    induction names with
    | nil => exact fun t _ => ⟨rfl, rfl⟩
    | cons name names ih =>
      intro t hnot
      rw [List.mem_cons, not_or] at hnot
      obtain ⟨h1, h2⟩ := ih (visit body t name) hnot.2
      rw [List.foldl_cons, h1, h2]
      rcases hn : t.devices.find? name with - | d'
      · rw [visit, hn]; exact ⟨rfl, rfl⟩
      · rw [visit_of_find _ _ _ _ hn]
        have hname := t.devices.name_of_find? _ _ hn
        refine ⟨(hbody d' t).devices _ (hname ▸ hnot.1), (hbody d' t).requests _ fun hdev => hnot.1 ?_⟩
        rw [← hname, hdev]
  have hmem : d.dev.name ∈ s.devices.keys := s.devices.mem_keys_of_find? _ _ hd
  obtain ⟨pre, post, hkeys⟩ := List.append_of_mem hmem
  have hnodup := hkeys ▸ s.devices.nodup_keys
  have hpre : d.dev.name ∉ pre := fun h => List.disjoint_of_nodup_append hnodup h List.mem_cons_self
  have hpost : d.dev.name ∉ post := (List.nodup_cons.mp hnodup.of_append_right).1
  obtain ⟨h1, h2⟩ := hother pre s hpre
  have hserial : (pre.foldl (visit body) s).serialDevices = s.serialDevices := by
    refine Loop.foldl_rel (fun s t : HostState => t.serialDevices = s.serialDevices) (fun _ => rfl)
      (fun _ _ _ h h' => h'.trans h) _ pre (fun t name _ => ?_) s
    rw [visit]
    split
    · exact (hbody _ t).serial
    · rfl
  refine ⟨pre.foldl (visit body) s, h1.trans hd, h2, hserial, ?_⟩
  have hrun : forDevices body s = post.foldl (visit body) (body d (pre.foldl (visit body) s)) := by
    rw [forDevices, hkeys, List.foldl_append, List.foldl_cons, visit_of_find _ _ _ _ (h1.trans hd)]
  rw [hrun]
  exact hother post _ hpost

/-! ## The requests of one turn -/

/-- One request for each interface that `p` chooses. -/
def configRequests (p : UsbInterface → Bool) (authorized : Bool) (c : USBConfig) : List Request :=
  (c.interfaces.filter p).map fun i => (UInt8.ofInt c.id, UInt8.ofInt i.id, authorized)

/-- The flags after these requests. -/
def configFlags (p : UsbInterface → Bool) (authorized : Bool) (c : USBConfig) : USBConfig :=
  { c with interfaces := c.interfaces.map fun i => if p i then { i with authorized := authorized } else i }

theorem usbInterfaceAuthorize_requests (env : Env) (hdev : env.usbDeviceInterface = true) (dev : UsbDev)
    (configId interfaceId : UInt8) (authorized : Bool) (s : HostState) :
    requestsOf dev (usbInterfaceAuthorize env dev configId interfaceId authorized s).2.trace =
      requestsOf dev s.trace ++ [(configId, interfaceId, authorized)] := by
  have hreq : requestsOf dev [.usbInterfaceAuthorize dev configId interfaceId authorized
      (env.hdiUsbInterfaceAuthorize s.now dev configId interfaceId authorized)] =
        [(configId, interfaceId, authorized)] := by
    simp [requestsOf, Event.request]
  simp only [usbInterfaceAuthorize, hdev, Bool.not_true, Bool.false_eq_true, if_false]
  split
  · rw [manageInterface, HostState.emit_trace, HostState.emit_trace, requestsOf_append, requestsOf_append, hreq]
    exact List.append_nil _
  · rw [HostState.emit_trace, requestsOf_append, hreq]

theorem mapState_requests {α : Type} (dev : UsbDev) (body : α → HostState → α × HostState) (r : α → List Request)
    (hbody : ∀ a s, requestsOf dev (body a s).2.trace = requestsOf dev s.trace ++ r a) (l : List α) (s : HostState) :
    requestsOf dev (Loop.mapState body l s).2.trace = requestsOf dev s.trace ++ l.flatMap r := by
  induction l generalizing s with
  | nil => exact (List.append_nil _).symm
  | cons a l ih => rw [Loop.mapState_cons_snd, ih, hbody, List.flatMap_cons, List.append_assoc]

theorem flatMap_filter_singleton {α β : Type} (p : α → Bool) (f : α → β) (l : List α) :
    l.flatMap (fun a => if p a then [f a] else []) = (l.filter p).map f := by
  induction l with
  | nil => rfl
  | cons a l ih =>
    rw [List.flatMap_cons, ih, List.filter_cons]
    split <;> rfl

theorem manageInterfaceOfType_requests (env : Env) (hdev : env.usbDeviceInterface = true) (d : UsbDevice)
    (configId : UInt8) (p : TypePattern) (disable : Bool) (i : UsbInterface) (s : HostState) :
    requestsOf d.dev (manageInterfaceOfType env d configId p disable i s).2.trace =
      requestsOf d.dev s.trace ++
        if p.coversInterface i then [(configId, UInt8.ofInt i.id, !disable)] else [] := by
  have hauth := usbInterfaceAuthorize_requests env hdev d.dev configId (UInt8.ofInt i.id) (!disable) s
  unfold manageInterfaceOfType
  simp only
  split
  · dsimp only
    split
    · rw [reportManageDeviceInfo, HostState.emit_trace, requestsOf_append, hauth]
      exact List.append_nil _
    · exact hauth
  · exact (List.append_nil _).symm

theorem requestsOf_emit_other (dev : UsbDev) (s : HostState) (e : Event) (h : e.request dev = none) :
    requestsOf dev (s.emit e).trace = requestsOf dev s.trace := by
  rw [HostState.emit_trace, requestsOf_append]
  simp [requestsOf, h]

section

variable {env : Env} {active : UsbDev → UInt8} (hdi : HdiReports env active)
include hdi

theorem manageInterfaceTypeDevice_requests (p : TypePattern) (disable : Bool) (d : UsbDevice) (s : HostState) :
    requestsOf d.dev (manageInterfaceTypeDevice env p disable d s).trace = requestsOf d.dev s.trace ++
      if d.isHub || d.authorizeStatus = .disabled then []
      else (d.configs[(active d.dev - 1).toNat]?.map (configRequests p.coversInterface !disable)).getD [] := by
  obtain ⟨hret, hconfig⟩ := hdi.getActiveConfig_fst d.dev s
  have hget : requestsOf d.dev (getActiveConfig env d.dev s).2.2.trace = requestsOf d.dev s.trace :=
    requestsOf_emit_other d.dev s (.getActiveConfig ..) rfl
  unfold manageInterfaceTypeDevice
  simp only [hret, hconfig, ne_eq, not_true_eq_false, if_false]
  split
  · exact (List.append_nil _).symm
  rcases d.configs[(active d.dev - 1).toNat]? with - | config
  · exact hget.trans (List.append_nil _).symm
  · simp only [HostState.setInterfaces_trace]
    rw [mapState_requests d.dev _ _ (manageInterfaceOfType_requests env hdi.device d _ p disable), hget]
    exact congrArg _ (flatMap_filter_singleton p.coversInterface _ _)

theorem authorizeActiveConfig_requests (d : UsbDevice) (authorized : Bool) (s : HostState) :
    requestsOf d.dev (authorizeActiveConfig env d authorized s).trace = requestsOf d.dev s.trace ++
      if active d.dev < 1 then []
      else (d.configs[(active d.dev - 1).toNat]?.map (configRequests (fun _ => true) authorized)).getD [] := by
  obtain ⟨hret, hconfig⟩ := hdi.getActiveConfig_fst d.dev (openDevice env d.dev s).2
  have hget : requestsOf d.dev (getActiveConfig env d.dev (openDevice env d.dev s).2).2.2.trace =
      requestsOf d.dev s.trace :=
    (requestsOf_emit_other d.dev _ (.getActiveConfig ..) rfl).trans
      (requestsOf_emit_other d.dev s (.openDevice ..) rfl)
  have hclose : ∀ t, requestsOf d.dev (close env d.dev t).2.trace = requestsOf d.dev t.trace := fun t =>
    requestsOf_emit_other d.dev t (.close ..) rfl
  unfold authorizeActiveConfig
  simp only [hdi.openDevice_fst, hret, hconfig, ne_eq, not_true_eq_false, if_false, decide_false, Bool.false_or,
    decide_eq_true_eq]
  split
  · rw [hclose, hget, List.append_nil]
  rcases d.configs[(active d.dev - 1).toNat]? with - | config
  · rw [hclose, hget]
    exact (List.append_nil _).symm
  · rw [hclose]
    simp only [HostState.setInterfaces_trace]
    have hbody : ∀ i t, requestsOf d.dev (authorizeInterface env d.dev (UInt8.ofInt config.id) authorized i t).2.trace =
        requestsOf d.dev t.trace ++ [(UInt8.ofInt config.id, UInt8.ofInt i.id, authorized)] := fun i t =>
      usbInterfaceAuthorize_requests env hdi.device d.dev _ _ authorized t
    rw [mapState_requests d.dev _ _ hbody, hget]
    exact congrArg _ (flatMap_filter_singleton (fun _ => true) _ _)

end

end UsbManager.Host
