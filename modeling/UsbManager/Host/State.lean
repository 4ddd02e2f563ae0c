import Mathlib.Data.String.Basic
import UsbManager.Host.TypeMap
import UsbManager.Lib.Loop
import UsbManager.Lib.StdMap

/-!
# The host manager and what surrounds it

The state of `UsbHostManager`, the answers that HDI, the system parameters and the enterprise
device manager give during one operation, and the two authorisation helpers through which
every policy acts. `trace` is a ghost: what the manager asked HDI and what it made public,
in order. Its length is the clock that HDI answers depend on, so that every call may fail
on its own. Log lines, sleeps and locks are left out.
-/

namespace UsbManager.Host

/-! ## The device map -/

/-- `devices_`: every device sits under the name of its own address. -/
structure DeviceMap where
  map : StdMap String UsbDevice
  keyed : ∀ e ∈ map.entries, e.1 = e.2.dev.name

namespace DeviceMap

def empty : DeviceMap := ⟨StdMap.empty, fun _ h => absurd h List.not_mem_nil⟩

def keys (m : DeviceMap) : List String := m.map.keys

def find? (m : DeviceMap) (name : String) : Option UsbDevice := m.map.find? name

/-- A device whose name is taken is not inserted. -/
def insert (m : DeviceMap) (d : UsbDevice) : DeviceMap where
  map := m.map.insert d.dev.name d
  keyed := by
    intro e he
    rw [← Prod.mk.eta (p := e), ← StdMap.find?_eq_some, StdMap.find?_insert] at he
    split at he
    · rename_i h
      rw [h.1, ← Option.some.inj he]
    · exact m.keyed e ((StdMap.find?_eq_some _ _ _).mp he)

def erase (m : DeviceMap) (name : String) : DeviceMap where
  map := m.map.erase name
  keyed := fun e he => m.keyed e (List.mem_of_mem_filter he)

/-- Changes the device under `name`, but not its address. -/
def modify (m : DeviceMap) (name : String) (f : UsbDevice → UsbDevice)
    (hf : ∀ d, (f d).dev = d.dev) : DeviceMap where
  map := m.map.modify name f
  keyed := by
    intro e he
    obtain ⟨e', he', rfl⟩ := List.mem_map.mp he
    have := m.keyed e' he'
    split
    · rw [hf, this]
    · exact this

/-- Changes every device, but no address. -/
def mapVal (m : DeviceMap) (f : UsbDevice → UsbDevice) (hf : ∀ d, (f d).dev = d.dev) : DeviceMap where
  map := m.map.mapVal f
  keyed := by
    intro e he
    obtain ⟨e', he', rfl⟩ := List.mem_map.mp he
    rw [hf, m.keyed e' he']

theorem name_of_find? (m : DeviceMap) (k : String) (d : UsbDevice) (h : m.find? k = some d) :
    d.dev.name = k :=
  (m.keyed (k, d) ((StdMap.find?_eq_some _ _ _).mp h)).symm

theorem find?_isSome (m : DeviceMap) (k : String) : (m.find? k).isSome ↔ k ∈ m.keys :=
  m.map.find?_isSome k

theorem find?_eq_none (m : DeviceMap) (k : String) : m.find? k = none ↔ k ∉ m.keys :=
  m.map.find?_eq_none k

theorem mem_keys_of_find? (m : DeviceMap) (k : String) (d : UsbDevice) (h : m.find? k = some d) : k ∈ m.keys :=
  m.map.mem_keys_of_find? k d h

theorem nodup_keys (m : DeviceMap) : m.keys.Nodup := m.map.nodup_keys

def values (m : DeviceMap) : List UsbDevice := m.map.entries.map Prod.snd

theorem mem_values (m : DeviceMap) (d : UsbDevice) : d ∈ m.values ↔ m.find? d.dev.name = some d := by
  rw [find?, StdMap.find?_eq_some, values, List.mem_map]
  constructor
  · rintro ⟨e, he, rfl⟩
    rw [← m.keyed e he]
    exact he
  · intro h
    exact ⟨_, h, rfl⟩

theorem mem_values_of_find? (m : DeviceMap) (k : String) (d : UsbDevice) (h : m.find? k = some d) :
    d ∈ m.values := by
  rw [mem_values, m.name_of_find? k d h, h]

theorem forall_values_iff (m : DeviceMap) (P : UsbDevice → Prop) :
    (∀ d ∈ m.values, P d) ↔ ∀ k d, m.find? k = some d → P d := by
  constructor
  · intro h k d hd
    exact h d (m.mem_values_of_find? k d hd)
  · intro h d hd
    exact h _ d ((m.mem_values d).mp hd)

theorem keys_eq_map (m : DeviceMap) : m.keys = m.values.map fun d => d.dev.name := by
  rw [keys, StdMap.keys, values, List.map_map]
  exact List.map_congr_left m.keyed

theorem ext_find? (m n : DeviceMap) (hk : m.keys = n.keys) (hf : ∀ k ∈ m.keys, m.find? k = n.find? k) : m = n := by
  obtain ⟨m, hm⟩ := m
  obtain ⟨n, hn⟩ := n
  congr
  exact StdMap.ext_find? m n hk hf

section

variable (m : DeviceMap) (name : String) (f : UsbDevice → UsbDevice) (hf : ∀ d, (f d).dev = d.dev)

@[simp] theorem keys_modify : (m.modify name f hf).keys = m.keys := m.map.keys_modify name f

@[simp] theorem keys_mapVal : (m.mapVal f hf).keys = m.keys := m.map.keys_mapVal f

theorem find?_modify (k : String) :
    (m.modify name f hf).find? k = if k = name then (m.find? k).map f else m.find? k :=
  m.map.find?_modify name k f

theorem find?_mapVal (k : String) : (m.mapVal f hf).find? k = (m.find? k).map f :=
  m.map.find?_mapVal f k

theorem find?_erase (k : String) : (m.erase name).find? k = if k = name then none else m.find? k :=
  m.map.find?_erase name k

theorem find?_insert (d : UsbDevice) (k : String) :
    (m.insert d).find? k = if k = d.dev.name ∧ d.dev.name ∉ m.keys then some d else m.find? k :=
  m.map.find?_insert d.dev.name k d

end

end DeviceMap

/-! ## State and environment -/

inductive CommonEvent
  | attached
  | detached
  deriving DecidableEq, Repr

/-- A call of the manager, with its result, or something it made public. -/
inductive Event
  | openDevice (dev : UsbDev) (ret : Ret)
  | close (dev : UsbDev) (ret : Ret)
  | getActiveConfig (dev : UsbDev) (ret : Ret)
  | getRawDescriptor (dev : UsbDev) (ret : Ret)
  | getStringDescriptor (dev : UsbDev) (idx : UInt8) (ret : Ret)
  | usbDeviceAuthorize (dev : UsbDev) (authorized : Bool) (ret : Ret)
  | usbInterfaceAuthorize (dev : UsbDev) (configId interfaceId : UInt8) (authorized : Bool) (ret : Ret)
  | manageInterface (dev : UsbDev) (interfaceId : UInt8) (disable : Bool) (ret : Ret)
  | arrived (dev : UsbDev)
  | sendNotification
  | cancelNotification
  | publish (event : CommonEvent) (device : UsbDevice)
  | report (operationType : String) (vid pid baseClass subClass protocol : Int)
  deriving DecidableEq, Repr

/-- The devices, the addresses of the serial ones, and the trace. -/
structure HostState where
  devices : DeviceMap
  serialDevices : List UsbDev
  trace : List Event

def HostState.init : HostState := ⟨DeviceMap.empty, [], []⟩

/-- A reply of the enterprise device manager: the result of `SendRequest`, the status word if
there was one to read, and the rest of the parcel. -/
structure EdmReply (α : Type) where
  sendRet : Int
  ret : Option Int
  payload : α

/-- A length and the elements that are read after it. -/
structure EdmList (α : Type) where
  size : Int
  item : Nat → α

/-- The replies to the four requests, in their order. -/
structure EdmReplies where
  globalDisabled : EdmReply Bool
  storageDisableType : EdmReply Int
  disableType : EdmReply (EdmList UsbDeviceType)
  trustList : EdmReply (EdmList UsbDeviceId)

/-- What the manager is answered during one operation. HDI answers depend on the clock. -/
structure Env where
  usbHostInterface : Bool
  usbDeviceInterface : Bool
  hdiOpenDevice : Nat → UsbDev → Ret
  hdiCloseDevice : Nat → UsbDev → Ret
  hdiGetConfig : Nat → UsbDev → Ret × UInt8
  hdiGetRawDescriptor : Nat → UsbDev → Ret × List UInt8
  hdiGetStringDescriptor : Nat → UsbDev → UInt8 → Ret × List UInt8
  hdiUsbDeviceAuthorize : Nat → UsbDev → Bool → Ret
  hdiUsbInterfaceAuthorize : Nat → UsbDev → UInt8 → UInt8 → Bool → Ret
  hdiManageInterface : Nat → UsbDev → UInt8 → Bool → Ret
  /-- `iconv` from UTF-16LE to UTF-8. -/
  iconv : List UInt8 → Option String
  /-- `persist.edm.enterprise_config_enable`. -/
  enterpriseConfigEnable : String
  /-- `persist.edm.usb_serial_disable`. -/
  usbSerialDisable : String
  /-- The addresses behind the serial ports, `none` without a serial manager. -/
  serialGetPortList : Option (Ret × List UsbDev)
  systemAbilityManager : Bool
  edm : Option EdmReplies
  dVisit : VisitOrder dTypeMap
  gVisit : VisitOrder gTypeMap

def EdmReply.granted {α : Type} (payload : α) : EdmReply α := ⟨0, some 0, payload⟩

def EdmReplies.empty : EdmReplies where
  globalDisabled := .granted false
  storageDisableType := .granted 0
  disableType := .granted ⟨0, fun _ => {}⟩
  trustList := .granted ⟨0, fun _ => ⟨0, 0⟩⟩

/-- Every call succeeds, the first configuration is active and no policy is set. -/
def Env.succeeding : Env where
  usbHostInterface := true
  usbDeviceInterface := true
  hdiOpenDevice _ _ := .ok
  hdiCloseDevice _ _ := .ok
  hdiGetConfig _ _ := (.ok, 1)
  hdiGetRawDescriptor _ _ := (.ok, [])
  hdiGetStringDescriptor _ _ _ := (.ok, [])
  hdiUsbDeviceAuthorize _ _ _ := .ok
  hdiUsbInterfaceAuthorize _ _ _ _ _ := .ok
  hdiManageInterface _ _ _ _ := .ok
  iconv _ := none
  enterpriseConfigEnable := "true"
  usbSerialDisable := "0"
  serialGetPortList := some (.ok, [])
  systemAbilityManager := true
  edm := some .empty
  dVisit := ⟨dTypeMap, .refl _⟩
  gVisit := ⟨gTypeMap, .refl _⟩

namespace HostState

def now (s : HostState) : Nat := s.trace.length

def emit (s : HostState) (e : Event) : HostState := { s with trace := s.trace ++ [e] }

def setAuthorizeStatus (s : HostState) (name : String) (status : AuthorizeStatus) : HostState :=
  { s with devices := s.devices.modify name (UsbDevice.withStatus status) (UsbDevice.dev_withStatus status) }

def setInterfaces (s : HostState) (name : String) (index : Nat) (interfaces : List UsbInterface) : HostState :=
  { s with
    devices := s.devices.modify name (UsbDevice.withInterfaces index interfaces)
      (UsbDevice.dev_withInterfaces index interfaces) }

theorem find?_setAuthorizeStatus (s : HostState) (name k : String) (status : AuthorizeStatus) :
    (s.setAuthorizeStatus name status).devices.find? k =
      if k = name then (s.devices.find? k).map (UsbDevice.withStatus status) else s.devices.find? k :=
  s.devices.find?_modify name _ (UsbDevice.dev_withStatus status) k

theorem find?_setInterfaces (s : HostState) (name k : String) (index : Nat) (interfaces : List UsbInterface) :
    (s.setInterfaces name index interfaces).devices.find? k =
      if k = name then (s.devices.find? k).map (UsbDevice.withInterfaces index interfaces) else s.devices.find? k :=
  s.devices.find?_modify name _ (UsbDevice.dev_withInterfaces index interfaces) k

@[simp] theorem emit_devices (s : HostState) (e : Event) : (s.emit e).devices = s.devices := rfl

@[simp] theorem emit_serialDevices (s : HostState) (e : Event) :
    (s.emit e).serialDevices = s.serialDevices := rfl

@[simp] theorem emit_trace (s : HostState) (e : Event) : (s.emit e).trace = s.trace ++ [e] := rfl

@[simp] theorem setAuthorizeStatus_trace (s : HostState) (name : String) (status : AuthorizeStatus) :
    (s.setAuthorizeStatus name status).trace = s.trace := rfl

@[simp] theorem setAuthorizeStatus_serialDevices (s : HostState) (name : String) (status : AuthorizeStatus) :
    (s.setAuthorizeStatus name status).serialDevices = s.serialDevices := rfl

@[simp] theorem setInterfaces_trace (s : HostState) (name : String) (index : Nat) (is : List UsbInterface) :
    (s.setInterfaces name index is).trace = s.trace := rfl

@[simp] theorem setInterfaces_serialDevices (s : HostState) (name : String) (index : Nat) (is : List UsbInterface) :
    (s.setInterfaces name index is).serialDevices = s.serialDevices := rfl

end HostState

theorem mapState_devices {α : Type} (body : α → HostState → α × HostState)
    (hbody : ∀ a s, (body a s).2.devices = s.devices) (l : List α) (s : HostState) :
    (Loop.mapState body l s).2.devices = s.devices :=
  Loop.mapState_rel (fun s t : HostState => t.devices = s.devices) (fun _ => rfl) (fun _ _ _ h h' => h'.trans h)
    body l (fun s a _ => hbody a s) s

/-! ## Calls of HDI -/

/-- A null interface answers `UEC_SERVICE_INVALID_VALUE` in place of HDI. -/
def Env.host (env : Env) (ret : Ret) : Ret := if env.usbHostInterface then ret else .uec .serviceInvalidValue

/-- Every call leaves its result in the trace. -/
def openDevice (env : Env) (dev : UsbDev) (s : HostState) : Ret × HostState :=
  let ret := env.host (env.hdiOpenDevice s.now dev)
  (ret, s.emit (.openDevice dev ret))

def close (env : Env) (dev : UsbDev) (s : HostState) : Ret × HostState :=
  let ret := env.host (env.hdiCloseDevice s.now dev)
  (ret, s.emit (.close dev ret))

/-- The second component is `configIndex`, zero before the call. -/
def getActiveConfig (env : Env) (dev : UsbDev) (s : HostState) : Ret × UInt8 × HostState :=
  let ret := env.host (env.hdiGetConfig s.now dev).1
  (ret, if env.usbHostInterface then (env.hdiGetConfig s.now dev).2 else 0, s.emit (.getActiveConfig dev ret))

def manageInterface (env : Env) (dev : UsbDev) (interfaceId : UInt8) (disable : Bool) (s : HostState) :
    Ret × HostState :=
  let ret := env.host (env.hdiManageInterface s.now dev interfaceId disable)
  (ret, s.emit (.manageInterface dev interfaceId disable ret))

/-! ## System parameters -/

def isEdmEnabled (env : Env) : Bool := env.enterpriseConfigEnable = "true"

def isUsbSerialDisable (env : Env) : Bool := isEdmEnabled env && env.usbSerialDisable = "1"

/-- Serial devices are known by their addresses. -/
def isUsbSerialDevice (serialDevices : List UsbDev) (d : UsbDevice) : Bool :=
  serialDevices.any fun it => it.busNum = d.busNum && it.devAddr = d.devAddr

/-! ## Broadcasts and reports -/

/-- Hubs and audio devices have no notification. The result of the broadcast is only logged. -/
def publishCommonEvent (event : CommonEvent) (d : UsbDevice) (s : HostState) : HostState :=
  let s :=
    if d.isHub then s
    else if !isAudioDevice d then
      match event with
      | .detached => s.emit .cancelNotification
      | .attached => s.emit .sendNotification
    else s
  s.emit (.publish event d)

/-- `ReportManageDeviceInfo`: with an interface for an interface report, without one for a device. -/
def reportManageDeviceInfo (operationType : String) (d : UsbDevice) (interface : Option UsbInterface)
    (s : HostState) : HostState :=
  match interface with
  | some i => s.emit (.report operationType d.vendorId d.productId i.klass i.subClass i.protocol)
  | none => s.emit (.report operationType d.vendorId d.productId d.baseClass d.subClass d.protocol)

/-! ## Authorisation -/

/-- A device that has the status already is a success without a call. -/
def usbDeviceAuthorize (env : Env) (dev : UsbDev) (authorized : Bool) (operationType : String)
    (s : HostState) : Ret × HostState :=
  if !env.usbDeviceInterface then (.uec .serviceInvalidValue, s)
  else
    match s.devices.find? dev.name with
    | none => (.uec .serviceInvalidValue, s)
    | some d =>
      if (authorized && d.authorizeStatus ≠ .disabled) || (!authorized && d.authorizeStatus = .disabled) then (.ok, s)
      else
        let ret := env.hdiUsbDeviceAuthorize s.now dev authorized
        let s := s.emit (.usbDeviceAuthorize dev authorized ret)
        if ret ≠ .ok then (ret, s)
        else
          let s := if !authorized then reportManageDeviceInfo operationType d none s else s
          -- a newly arrived device is announced at the end of AddDevice
          let s :=
            if d.authorizeStatus ≠ .newArrived then
              publishCommonEvent (if authorized then .attached else .detached) d s
            else s
          (.ok, s.setAuthorizeStatus dev.name (if authorized then .enabled else .disabled))

/-- An interface that is authorised is also managed, and that result counts. -/
def usbInterfaceAuthorize (env : Env) (dev : UsbDev) (configId interfaceId : UInt8) (authorized : Bool)
    (s : HostState) : Ret × HostState :=
  if !env.usbDeviceInterface then (.uec .serviceInvalidValue, s)
  else
    let ret := env.hdiUsbInterfaceAuthorize s.now dev configId interfaceId authorized
    let s := s.emit (.usbInterfaceAuthorize dev configId interfaceId authorized ret)
    if ret = .ok && authorized then manageInterface env dev interfaceId (!authorized) s else (ret, s)

end UsbManager.Host
