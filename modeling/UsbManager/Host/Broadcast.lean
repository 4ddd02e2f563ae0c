import Mathlib.Data.List.Chain
import UsbManager.Host.SerialPolicy
import UsbManager.Host.TypePolicy

/-!
# Attach and detach broadcasts

One invariant links the status of a stored device with the broadcasts since its arrival: they
alternate, and the device is enabled if and only if the last one is an attachment. Every act of
a policy keeps it. So does the end of `AddDevice`, unless a policy enabled the device before,
which takes a serial device that the trust list names.
-/

namespace UsbManager.Host

/-! ## The broadcasts of a device -/

/-- An arrival starts anew. -/
def track (dev : UsbDev) (es : List CommonEvent) : Event → List CommonEvent
  | .arrived dev' => if dev' = dev then [] else es
  | .publish event d => if d.dev = dev then es ++ [event] else es
  | _ => es

/-- The broadcasts of one device, since the last arrival at its address. -/
def broadcasts (dev : UsbDev) (trace : List Event) : List CommonEvent := trace.foldl (track dev) []

/-- Attached first, and never the same twice in a row. -/
structure Alternates (es : List CommonEvent) : Prop where
  starts : ∀ e, es.head? = some e → e = .attached
  chain : es.IsChain (· ≠ ·)

theorem alternates_nil : Alternates [] := ⟨fun _ h => (by cases h), List.IsChain.nil⟩

theorem Alternates.concat {es : List CommonEvent} (h : Alternates es) (e : CommonEvent)
    (he : e = .attached ↔ es.getLast? ≠ some .attached) : Alternates (es ++ [e]) := by
  refine ⟨fun a ha => ?_, ?_⟩
  · cases es with
    | nil =>
      obtain rfl := Option.some.inj ha
      exact he.mpr (by simp)
    | cons b es => exact h.starts a ha
  · rw [List.isChain_append]
    refine ⟨h.chain, List.IsChain.singleton e, fun a ha b hb => ?_⟩
    obtain rfl := Option.some.inj hb
    rw [Option.mem_def] at ha
    rw [ha] at he
    cases a <;> cases e <;> simp at he ⊢

theorem not_alternates_concat (es : List CommonEvent) (e : CommonEvent) (h : es.getLast? = some e) :
    ¬ Alternates (es ++ [e]) := by
  intro halt
  have hchain := halt.chain
  rw [List.isChain_append] at hchain
  exact hchain.2.2 e h e rfl rfl

theorem broadcasts_append (dev : UsbDev) (trace es : List Event) :
    broadcasts dev (trace ++ es) = es.foldl (track dev) (broadcasts dev trace) := List.foldl_append

theorem broadcasts_quiet (dev : UsbDev) (trace es : List Event) (h : ∀ e ∈ es, e.isPublic = false) :
    broadcasts dev (trace ++ es) = broadcasts dev trace := by
  rw [broadcasts_append]
  refine Loop.foldl_fixed _ _ _ fun e he => ?_
  have := h e he
  cases e <;> simp_all [track, Event.isPublic]

theorem broadcasts_publishEvents (dev : UsbDev) (trace : List Event) (event : CommonEvent) (d : UsbDevice) :
    broadcasts dev (trace ++ publishEvents event d) =
      if d.dev = dev then broadcasts dev trace ++ [event] else broadcasts dev trace := by
  unfold publishEvents
  rw [← List.append_assoc, broadcasts_append, broadcasts_quiet dev trace]
  · rfl
  · intro e he
    split at he
    · cases he
    · rw [List.mem_singleton.mp he]
      cases event <;> rfl

theorem broadcasts_authorizeEvents (dev dev' : UsbDev) (trace : List Event) (authorized : Bool) (op : String)
    (d : UsbDevice) :
    broadcasts dev (trace ++ authorizeEvents dev' authorized op d) =
      if d.authorizeStatus ≠ .newArrived ∧ d.dev = dev then broadcasts dev trace ++ [eventOf authorized]
      else broadcasts dev trace := by
  have hquiet : ∀ e ∈ [Event.usbDeviceAuthorize dev' authorized .ok] ++
      (if authorized then [] else [.report op d.vendorId d.productId d.baseClass d.subClass d.protocol]),
      e.isPublic = false := by
    intro e he
    rcases List.mem_append.mp he with he | he
    · rw [List.mem_singleton.mp he]; rfl
    · split at he
      · cases he
      · rw [List.mem_singleton.mp he]; rfl
  rw [authorizeEvents, ← List.append_assoc]
  by_cases hnew : d.authorizeStatus = .newArrived
  · rw [if_pos hnew, List.append_nil, broadcasts_quiet dev trace _ hquiet, if_neg fun h => h.1 hnew]
  · rw [if_neg hnew, broadcasts_publishEvents, broadcasts_quiet dev trace _ hquiet]
    simp [hnew]

/-! ## The invariant -/

/-- Broadcasts alternate, and a stored device is enabled if and only if the last one attached it. -/
structure BroadcastsAgree (s : HostState) : Prop where
  alternate : ∀ dev, Alternates (broadcasts dev s.trace)
  status : ∀ k d, s.devices.find? k = some d →
    (d.authorizeStatus = .enabled ↔ (broadcasts d.dev s.trace).getLast? = some .attached)

theorem BroadcastsAgree.update {s t : HostState} (hs : BroadcastsAgree s) (dev : UsbDev)
    (hother : ∀ dev', dev' ≠ dev → broadcasts dev' t.trace = broadcasts dev' s.trace)
    (hdevices : ∀ k, k ≠ dev.name → t.devices.find? k = s.devices.find? k)
    (halternate : Alternates (broadcasts dev t.trace))
    (hstatus : ∀ d, t.devices.find? dev.name = some d →
      (d.authorizeStatus = .enabled ↔ (broadcasts dev t.trace).getLast? = some .attached)) : BroadcastsAgree t := by
  refine ⟨fun dev' => ?_, fun k d hd => ?_⟩
  · by_cases hdev : dev' = dev
    · exact hdev ▸ halternate
    · exact hother dev' hdev ▸ hs.alternate dev'
  · have hname := t.devices.name_of_find? k d hd
    by_cases hk : k = dev.name
    · have hdev : d.dev = dev := UsbDev.name_injective _ _ (hname.trans hk)
      rw [hdev]
      exact hstatus d (hk ▸ hd)
    · rw [hother d.dev fun hdev => hk (by rw [← hname, hdev])]
      exact hs.status k d (hdevices k hk ▸ hd)

theorem BroadcastsAgree.emit {s : HostState} (hs : BroadcastsAgree s) (e : Event) (he : e.isPublic = false) :
    BroadcastsAgree (s.emit e) := by
  have hquiet : ∀ dev, broadcasts dev (s.emit e).trace = broadcasts dev s.trace := fun dev =>
    broadcasts_quiet dev s.trace [e] fun e' he' => by rwa [List.mem_singleton.mp he']
  exact ⟨fun dev => by rw [hquiet]; exact hs.alternate dev, fun k d hd => by rw [hquiet]; exact hs.status k d hd⟩

theorem BroadcastsAgree.authorize {s : HostState} (hs : BroadcastsAgree s) (dev : UsbDev) (b : Bool) (op : String)
    (d : UsbDevice) (hd : s.devices.find? dev.name = some d) (hchange : b = true ↔ d.authorizeStatus = .disabled) :
    BroadcastsAgree ({ s with trace := s.trace ++ authorizeEvents dev b op d }.setAuthorizeStatus dev.name
      (statusOf b)) := by
  have hdev : d.dev = dev := UsbDev.name_injective _ _ (s.devices.name_of_find? _ _ hd)
  have hlast := hs.status _ d hd
  rw [hdev] at hlast
  have hbroadcasts : ∀ dev', broadcasts dev' (s.trace ++ authorizeEvents dev b op d) =
      if d.authorizeStatus ≠ .newArrived ∧ dev = dev' then broadcasts dev' s.trace ++ [eventOf b]
      else broadcasts dev' s.trace := fun dev' => hdev ▸ broadcasts_authorizeEvents dev' d.dev s.trace b op d
  refine hs.update dev (fun dev' hne => ?_) (fun k hk => ?_) ?_ (fun d' hd' => ?_)
  · exact (hbroadcasts dev').trans (if_neg fun h => hne h.2.symm)
  · rw [HostState.find?_setAuthorizeStatus, if_neg hk]
  · rw [HostState.setAuthorizeStatus_trace, hbroadcasts]
    split
    · rename_i hold
      refine (hs.alternate dev).concat _ ?_
      rw [ne_eq, ← hlast]
      rcases hst : d.authorizeStatus with - | - | - <;> cases b <;> simp_all [eventOf]
    · exact hs.alternate dev
  · rw [HostState.find?_setAuthorizeStatus, if_pos rfl] at hd'
    obtain rfl : d.withStatus (statusOf b) = d' := by
      have hmap := congrArg (Option.map (UsbDevice.withStatus (statusOf b))) hd
      exact Option.some.inj (hmap.symm.trans hd')
    rw [HostState.setAuthorizeStatus_trace, hbroadcasts]
    rcases hst : d.authorizeStatus with - | - | - <;> cases b <;>
      simp_all [UsbDevice.withStatus, statusOf, eventOf]

theorem Act.broadcasts {env : Env} {A : UsbDevice → Bool → Prop} {s t : HostState} (h : Act env A s t)
    (hs : BroadcastsAgree s) : BroadcastsAgree t := by
  cases h with
  | emit e he => exact hs.emit e he
  | interfaces name index is =>
    refine ⟨hs.alternate, fun k d hd => ?_⟩
    rw [HostState.find?_setInterfaces] at hd
    split at hd
    · rw [Option.map_eq_some_iff] at hd
      obtain ⟨d₀, hd₀, rfl⟩ := hd
      exact hs.status k d₀ hd₀
    · exact hs.status k d hd
  | authorize dev b op _ =>
    rcases usbDeviceAuthorize_cases env dev b op s with h | ⟨ret, -, h⟩ | ⟨d, hd, hchange, -, h⟩
    · rw [h]; exact hs
    · rw [h]; exact hs.emit _ rfl
    · rw [h]; exact hs.authorize dev b op d hd hchange

theorem Acts.broadcasts {env : Env} {A : UsbDevice → Bool → Prop} {s t : HostState} (h : Acts env A s t)
    (hs : BroadcastsAgree s) : BroadcastsAgree t :=
  h.invariant (fun _ _ hst ih => hst.broadcasts ih) hs

/-! ## Passes over a device that has just arrived -/

theorem kept_unannounced (A : UsbDevice → Bool → Prop) (Q : UsbDevice → Prop)
    (hQ : ∀ d d', d.ident = d'.ident → Q d → Q d') (hA : ∀ d b, A d b → (b = false ↔ Q d)) :
    Kept A fun d => d.authorizeStatus = .newArrived ∨ d.authorizeStatus = .disabled ∧ Q d where
  congr := by
    intro d d' hident hstatus h
    rw [← hstatus]
    exact h.imp_right fun h => ⟨h.1, hQ d d' hident h.2⟩
  authorize := by
    intro d b hb hchange h
    rcases h with hnew | ⟨hdis, hq⟩
    · have hfalse : b = false := by
        cases b
        · rfl
        · rw [hnew] at hchange
          simp at hchange
      exact .inr ⟨by rw [hfalse]; rfl, hQ d _ rfl ((hA d b hb).mp hfalse)⟩
    · rw [(hA d b hb).mpr hq] at hchange
      simp [hdis] at hchange

section

variable (env : Env) (k : String) (s : HostState)

theorem manageUsbSerialLoop_unannounced
    (hnew : ∀ d, s.devices.find? k = some d → d.authorizeStatus = .newArrived) :
    ∀ d, (manageUsbSerialLoop env true s).devices.find? k = some d →
      d.authorizeStatus = .newArrived ∨ d.authorizeStatus = .disabled ∧ isUsbSerialDevice s.serialDevices d := by
  have hacts := manageUsbSerialLoop_acts env (A := fun d b => b = false ∧ isUsbSerialDevice s.serialDevices d) true s
    fun dev hdev d hname => ⟨rfl, by
      rw [← UsbDev.name_injective _ _ hname] at hdev
      exact List.any_eq_true.mpr ⟨d.dev, hdev, by simp [UsbDevice.dev]⟩⟩
  refine hacts.kept (kept_unannounced _ (fun d => isUsbSerialDevice s.serialDevices d) ?_ ?_) k
    fun d hd => .inl (hnew d hd)
  · exact fun d d' hident h => isUsbSerialDevice_congr s.serialDevices d d' hident ▸ h
  · exact fun d b h => ⟨fun _ => h.2, fun _ => h.1⟩

theorem executeManageInterfaceType_unannounced (disableType : List UsbDeviceType)
    (hs : ∀ d, s.devices.find? k = some d →
      d.authorizeStatus = .newArrived ∨ d.authorizeStatus = .disabled ∧ serialSkip env s.serialDevices d) :
    ∀ d, (executeManageInterfaceType env disableType true s).2.devices.find? k = some d →
      d.authorizeStatus ≠ .enabled := by
  -- the device is decided by one entry
  let A : UsbDevice → Bool → Prop := fun d b => ∃ e ∈ dTypeMap, e.2.coversDevice d ∧
    serialSkip env s.serialDevices d = false ∧ b = (named true disableType e != true)
  let Q : UsbDevice → Prop := fun d => ∀ e ∈ dTypeMap, e.2.coversDevice d →
    serialSkip env s.serialDevices d = false → (named true disableType e != true) = false
  have hacts := executeManageInterfaceType_acts env (A := A) disableType true s
    (fun e he p d hp hskip hcovers => by
      have hmem := env.dVisit.perm.mem_iff.mp he
      obtain rfl := Option.some.inj ((disjoint_dTypeMap.lookup e hmem).symm.trans hp)
      exact ⟨e, hmem, hcovers, hskip, execFlag_eq disjoint_dTypeMap env.dVisit _ _ _ e hmem⟩)
  have hkept : Kept A fun d => d.authorizeStatus = .newArrived ∨ d.authorizeStatus = .disabled ∧ Q d := by
    refine kept_unannounced A Q (fun d d' hident hq e he hcovers hskip => ?_) fun d b hb => ?_
    · refine hq e he ?_ ?_
      · rw [← hcovers, coversDevice_congr e.2 d d' hident]
      · rw [← hskip, serialSkip, serialSkip, isUsbSerialDevice_congr _ d d' hident]
    · obtain ⟨e, he, hcovers, hskip, rfl⟩ := hb
      refine ⟨fun h e' he' hcovers' _ => ?_, fun hq => hq e he hcovers hskip⟩
      rw [disjoint_dTypeMap.unique e' e he' he _ _ _ hcovers' hcovers, h]
  have h := hacts.kept hkept k fun d hd => (hs d hd).imp_right fun h => ⟨h.1, fun e _ _ hskip => by
    rw [h.2] at hskip
    cases hskip⟩
  intro d hd
  rcases h d hd with h | h
  · simp [h]
  · simp [h.1]

theorem executeManageDevicePolicy_unannounced (trustList : List UsbDeviceId) (hne : trustList ≠ [])
    (hs : ∀ d, s.devices.find? k = some d → d.authorizeStatus = .newArrived ∨
      d.authorizeStatus = .disabled ∧ (d.isHub = false → inTrustList trustList d = false)) :
    ∀ d, (executeManageDevicePolicy env trustList s).2.devices.find? k = some d → d.authorizeStatus ≠ .enabled := by
  have htrusted : ∀ d, trusted trustList d = inTrustList trustList d := fun d => by
    simp [trusted, hne]
  have hacts := executeManageDevicePolicy_acts env (A := fun d b => d.isHub = false ∧ b = trusted trustList d)
    trustList (fun d hub => ⟨hub, rfl⟩) s
  have hkept := kept_unannounced (fun d b => d.isHub = false ∧ b = trusted trustList d)
    (fun d => d.isHub = false → inTrustList trustList d = false)
    (fun d d' hident h hub => by
      rw [← inTrustList_congr trustList d d' hident]
      exact h (by rw [isHub_congr d d' hident, hub]))
    (fun d b h => by
      rw [h.2, htrusted]
      exact ⟨fun hb _ => hb, fun hb => hb h.1⟩)
  intro d hd
  rcases hacts.kept hkept k hs d hd with h | h
  · simp [h]
  · simp [h.1]

end

/-! ## The strategy -/

theorem executePolicy_acts (env : Env) (policy : UsbPolicy) (s : HostState) :
    Acts env (fun _ _ => True) s (executePolicy env policy s) := by
  have hserial : Acts env (fun _ _ => True) s (if isUsbSerialDisable env then manageUsbSerialLoop env true s else s) := by
    split
    · exact manageUsbSerialLoop_acts env true s fun _ _ _ _ => trivial
    · exact Acts.refl s
  unfold executePolicy
  simp only
  split_ifs at hserial ⊢
  all_goals first
    | exact hserial
    | exact hserial.trans (executeManageInterfaceType_acts env _ _ _ fun _ _ _ _ _ _ _ => trivial)
    | exact hserial.trans (executeManageDevicePolicy_acts env _ (fun _ _ => trivial) _)

theorem executeStrategy_acts (env : Env) (s : HostState) : Acts env (fun _ _ => True) s (executeStrategy env s) := by
  unfold executeStrategy
  split
  · exact Acts.refl s
  split
  · exact Acts.refl s
  · split
    · exact manageGlobalInterfaceImpl_acts env true (fun _ => trivial) s
    · exact executePolicy_acts env _ s

/-- What goes wrong: under the serial policy, the trust list is in force and names a serial device. -/
structure TrustedSerial (env : Env) (policy : UsbPolicy) (serial : Bool) (d : UsbDevice) : Prop where
  serialDisable : isUsbSerialDisable env
  serial : serial
  disableType : policy.disableType = []
  hub : d.isHub = false
  trust : inTrustList policy.trustUsbDeviceIds d

theorem executePolicy_unannounced (env : Env) (policy : UsbPolicy) (k : String) (s : HostState)
    (hnew : ∀ d, s.devices.find? k = some d → d.authorizeStatus = .newArrived)
    (hok : ∀ d, s.devices.find? k = some d →
      ¬ TrustedSerial env policy (isUsbSerialDevice s.serialDevices d) d) :
    ∀ d, (executePolicy env policy s).devices.find? k = some d → d.authorizeStatus ≠ .enabled := by
  set s₁ := if isUsbSerialDisable env then manageUsbSerialLoop env true s else s with hs₁
  have hsame : SameDevices s s₁ := by
    rw [hs₁]
    split
    · exact (manageUsbSerialLoop_acts env (A := fun _ _ => True) true s fun _ _ _ _ => trivial).same
    · exact SameDevices.refl s
  have hserial : ∀ d, s₁.devices.find? k = some d → d.authorizeStatus = .newArrived ∨
      d.authorizeStatus = .disabled ∧ isUsbSerialDisable env ∧ isUsbSerialDevice s.serialDevices d := by
    rw [hs₁]
    split
    · rename_i h
      exact fun d hd => (manageUsbSerialLoop_unannounced env k s hnew d hd).imp_right fun h' => ⟨h'.1, h, h'.2⟩
    · exact fun d hd => .inl (hnew d hd)
  have hpolicy : executePolicy env policy s = if !policy.disableType.isEmpty then
      (executeManageInterfaceType env policy.disableType true s₁).2
      else if policy.trustUsbDeviceIds.isEmpty then s₁
      else (executeManageDevicePolicy env policy.trustUsbDeviceIds s₁).2 := rfl
  rw [hpolicy]
  split_ifs with htypes htrust
  · refine executeManageInterfaceType_unannounced env k s₁ _ fun d hd => (hserial d hd).imp_right fun h => ⟨h.1, ?_⟩
    rw [serialSkip, hsame.serial, h.2.1, h.2.2]
    rfl
  · intro d hd
    rcases hserial d hd with h | h
    · simp [h]
    · simp [h.1]
  · refine executeManageDevicePolicy_unannounced env k s₁ _ (by simpa using htrust) fun d hd =>
      (hserial d hd).imp_right fun h => ⟨h.1, fun hub => ?_⟩
    obtain ⟨d₀, hd₀, hident⟩ := hsame.ident_of_find k d hd
    have hnot := hok d₀ hd₀
    rw [inTrustList_congr _ d d₀ hident, Bool.eq_false_iff]
    intro hin
    rw [isUsbSerialDevice_congr _ d d₀ hident] at h
    exact hnot ⟨h.2.1, h.2.2, by simpa using htypes, by rw [← isHub_congr d d₀ hident, hub], hin⟩

theorem executeStrategy_unannounced (env : Env) (k : String) (s : HostState)
    (hnew : ∀ d, s.devices.find? k = some d → d.authorizeStatus = .newArrived)
    (hok : ∀ d, s.devices.find? k = some d → ∀ policy, getUsbPolicy env = .ok policy →
      policy.isGlobalDisabled = false → ¬ TrustedSerial env policy (isUsbSerialDevice s.serialDevices d) d) :
    ∀ d, (executeStrategy env s).devices.find? k = some d → d.authorizeStatus ≠ .enabled := by
  have hunchanged : ∀ d, s.devices.find? k = some d → d.authorizeStatus ≠ .enabled := fun d hd => by
    simp [hnew d hd]
  unfold executeStrategy
  split
  · exact hunchanged
  split
  · exact hunchanged
  · rename_i policy hpolicy
    split
    · have hkept := kept_unannounced (fun _ b => b = false) (fun _ => True) (fun _ _ _ h => h)
        fun _ _ h => ⟨fun _ => trivial, fun _ => h⟩
      intro d hd
      have hacts := manageGlobalInterfaceImpl_acts env (A := fun _ b => b = false) true (fun _ => rfl) s
      rcases hacts.kept hkept k (fun d hd => .inl (hnew d hd)) d hd with h | h
      · simp [h]
      · simp [h.1]
    · rename_i hglobal
      exact executePolicy_unannounced env policy k s hnew
        fun d hd => hok d hd policy hpolicy (by simpa using hglobal)

end UsbManager.Host
