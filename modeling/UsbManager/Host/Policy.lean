import UsbManager.Host.State
import UsbManager.Lib.Loop

/-!
# The policies of the host manager

`usb_host_manager.cpp`: the passes that authorise and deauthorise devices and interfaces, the
strategy that picks them, and the arrival and departure of a device.
-/

namespace UsbManager.Host

/-! ## Loops over the devices -/

/-- One turn: the device as it is by now. -/
def visit (body : UsbDevice → HostState → HostState) (s : HostState) (name : String) : HostState :=
  match s.devices.find? name with
  | some d => body d s
  | none => s

/-- A loop over `devices_`. A body may change a device, it never adds or removes one. -/
def forDevices (body : UsbDevice → HostState → HostState) (s : HostState) : HostState :=
  s.devices.keys.foldl (visit body) s

/-! ## The trust list -/

/-- The loop of `ManageDeviceImpl`: a failed open ends it, a failed authorisation does not. -/
def manageDeviceLoop (env : Env) (vendorId productId : Int) (disable : Bool) :
    List String → HostState → Ret × HostState
  | [], s => (.ok, s)
  | name :: rest, s =>
    match s.devices.find? name with
    | none => manageDeviceLoop env vendorId productId disable rest s
    | some d =>
      if d.isHub then manageDeviceLoop env vendorId productId disable rest s
      else if d.vendorId = vendorId && d.productId = productId then
        let (ret, s) := openDevice env d.dev s
        if ret ≠ .ok then (ret, s)
        else
          let (_, s) := usbDeviceAuthorize env d.dev (!disable) "DeviceType" s
          let (_, s) := close env d.dev s
          manageDeviceLoop env vendorId productId disable rest s
      else manageDeviceLoop env vendorId productId disable rest s

/-- All devices of one vendor and product. -/
def manageDeviceImpl (env : Env) (vendorId productId : Int) (disable : Bool) (s : HostState) : Ret × HostState :=
  manageDeviceLoop env vendorId productId disable s.devices.keys s

/-- Both numbers of an entry have to match. -/
def inTrustList (trustList : List UsbDeviceId) (d : UsbDevice) : Bool :=
  trustList.any fun id => d.productId = id.productId && d.vendorId = id.vendorId

/-- The loop of `ExecuteManageDevicePolicy`: `ret` is the result for the last device. -/
def devicePolicyLoop (env : Env) (trustList : List UsbDeviceId) : List String → Ret × HostState → Ret × HostState
  | [], r => r
  | name :: rest, (ret, s) =>
    match s.devices.find? name with
    | none => devicePolicyLoop env trustList rest (ret, s)
    | some d =>
      let disable := !(inTrustList trustList d || trustList.isEmpty)
      devicePolicyLoop env trustList rest (manageDeviceImpl env d.vendorId d.productId disable s)

/-- Only the last turn decides about the result. -/
def executeManageDevicePolicy (env : Env) (trustList : List UsbDeviceId) (s : HostState) : Ret × HostState :=
  let (ret, s) := devicePolicyLoop env trustList s.devices.keys (.ok, s)
  if ret ≠ .ok then (.uec .serviceExecutePolicyFailed, s) else (.ok, s)

/-! ## Disabled types -/

/-- One turn of the loop over the interfaces: the interface with its new flag, and the state. -/
def manageInterfaceOfType (env : Env) (d : UsbDevice) (configId : UInt8) (p : TypePattern) (disable : Bool)
    (i : UsbInterface) (s : HostState) : UsbInterface × HostState :=
  if p.coversInterface i then
    let needReport := i.authorized ≠ !disable
    let (ret, s) := usbInterfaceAuthorize env d.dev configId (UInt8.ofInt i.id) (!disable) s
    let i := { i with authorized := !disable }
    (i, if disable && needReport && ret = .ok then reportManageDeviceInfo "InterfaceType" d (some i) s else s)
  else (i, s)

/-- The active value minus one, in eight bits, is the position of the configuration. -/
def manageInterfaceTypeDevice (env : Env) (p : TypePattern) (disable : Bool) (d : UsbDevice) (s : HostState) :
    HostState :=
  if d.isHub || d.authorizeStatus = .disabled then s
  else
    let (ret, configIndex, s) := getActiveConfig env d.dev s
    if ret ≠ .ok then s
    else
      let index := configIndex - 1
      match d.configs[index.toNat]? with
      | none => s
      | some config =>
        let (interfaces, s) :=
          Loop.mapState (manageInterfaceOfType env d (UInt8.ofInt config.id) p disable) config.interfaces s
        s.setInterfaces d.dev.name index.toNat interfaces

/-- A type that the table does not have is an error. -/
def manageInterfaceTypeImpl (env : Env) (interfaceType : InterfaceType) (disable : Bool) (s : HostState) :
    Ret × HostState :=
  match gTypeMap.lookup interfaceType with
  | none => (.uec .serviceInvalidValue, s)
  | some p => (.ok, forDevices (manageInterfaceTypeDevice env p disable) s)

/-- The status is set between an open and a close, but the result of the call is dropped. -/
def manageDeviceTypeDevice (env : Env) (p : TypePattern) (disable : Bool) (d : UsbDevice) (s : HostState) :
    HostState :=
  -- managed by the serial policy
  if isUsbSerialDisable env && isUsbSerialDevice s.serialDevices d then s
  else if p.coversDevice d then
    let (ret, s) := openDevice env d.dev s
    if ret ≠ .ok then s
    else
      let (_, s) := usbDeviceAuthorize env d.dev (!disable) "InterfaceType" s
      (close env d.dev s).2
  else s

def manageDeviceTypeImpl (env : Env) (interfaceType : InterfaceType) (disable : Bool) (s : HostState) :
    Ret × HostState :=
  match dTypeMap.lookup interfaceType with
  | none => (.uec .serviceInvalidValue, s)
  | some p => (.ok, forDevices (manageDeviceTypeDevice env p disable) s)

/-- The first table entry, in visiting order, that covers each element of the list. -/
def findMatchingTypes (map : TypeTable) (isDev : Bool) (disableType : List UsbDeviceType) : List InterfaceType :=
  disableType.filterMap fun t =>
    if t.isDeviceType ≠ isDev then none else (map.find? fun e => e.2.coversType t).map Prod.fst

/-- Every type of the table has its turn: those of the list with `disable`, the others with its opposite. -/
def executeManageDeviceType (env : Env) (disableType : List UsbDeviceType) (disable : Bool) (map : TypeTable)
    (isDev : Bool) (s : HostState) : HostState :=
  let interfaceTypes := findMatchingTypes map isDev disableType
  map.foldl (fun s e =>
    let execDisable := if interfaceTypes.contains e.1 then disable else !disable
    if isDev then (manageDeviceTypeImpl env e.1 execDisable s).2
    else (manageInterfaceTypeImpl env e.1 execDisable s).2) s

/-- All devices are open while the two passes run. -/
def executeManageInterfaceType (env : Env) (disableType : List UsbDeviceType) (disable : Bool) (s : HostState) :
    Ret × HostState :=
  let s := forDevices (fun d s => (openDevice env d.dev s).2) s
  let s := executeManageDeviceType env disableType disable env.dVisit.entries true s
  let s := executeManageDeviceType env disableType disable env.gVisit.entries false s
  let s := forDevices (fun d s => (close env d.dev s).2) s
  (.ok, s)

/-! ## The global switch -/

/-- The flag is set whatever HDI answers. -/
def authorizeInterface (env : Env) (dev : UsbDev) (configId : UInt8) (authorized : Bool) (i : UsbInterface)
    (s : HostState) : UsbInterface × HostState :=
  let (_, s) := usbInterfaceAuthorize env dev configId (UInt8.ofInt i.id) authorized s
  ({ i with authorized := authorized }, s)

/-- Global authorisation enables all interfaces of the active configuration. -/
def authorizeActiveConfig (env : Env) (d : UsbDevice) (authorized : Bool) (s : HostState) : HostState :=
  let (ret, s) := openDevice env d.dev s
  if ret ≠ .ok then s
  else
    let (ret, configIndex, s) := getActiveConfig env d.dev s
    if ret ≠ .ok || configIndex < 1 then (close env d.dev s).2
    else
      let index := configIndex - 1
      match d.configs[index.toNat]? with
      | none => (close env d.dev s).2
      | some config =>
        let (interfaces, s) :=
          Loop.mapState (authorizeInterface env d.dev (UInt8.ofInt config.id) authorized) config.interfaces s
        (close env d.dev (s.setInterfaces d.dev.name index.toNat interfaces)).2

/-- Global disable deauthorises the hubs and leaves what hangs below them. -/
def manageGlobalDevice (env : Env) (disable : Bool) (d : UsbDevice) (s : HostState) : HostState :=
  if (disable && !d.isHub) || (isUsbSerialDisable env && isUsbSerialDevice s.serialDevices d) then s
  else
    let (_, s) := usbDeviceAuthorize env d.dev (!disable) "GlobalType" s
    if !disable then authorizeActiveConfig env d (!disable) s else s

def manageGlobalInterfaceImpl (env : Env) (disable : Bool) (s : HostState) : Ret × HostState :=
  (.ok, forDevices (manageGlobalDevice env disable) s)

/-! ## Serial devices -/

/-- `ManageUsbSerialDevice(true)`, and the first half of `ManageUsbSerialDevice(false)`. -/
def manageUsbSerialLoop (env : Env) (disable : Bool) (s : HostState) : HostState :=
  s.serialDevices.foldl (fun s dev => (usbDeviceAuthorize env dev (!disable) "UsbSerialType" s).2) s

/-- A device is serial if one of the ports hangs on it. -/
def addUsbSerialDevice (env : Env) (d : UsbDevice) (s : HostState) : HostState :=
  match env.serialGetPortList with
  | none => s
  | some (ret, serialList) =>
    if ret ≠ .ok then s
    else if serialList.any fun port => port.busNum = d.busNum && port.devAddr = d.devAddr then
      if isUsbSerialDevice s.serialDevices d then s else { s with serialDevices := s.serialDevices ++ [d.dev] }
    else s

/-! ## The enterprise policy -/

/-- The request came through and the status word is zero. -/
def edmSuccess {α : Type} (reply : EdmReply α) : Bool := reply.ret = some 0 && reply.sendRet = 0

def trustlistPolicyMaxDevices : Int := 1000

def storageBaseClass : Int := 8

def getEdmStorageDisableType : Int := 2

def getEdmGlobalPolicy (reply : EdmReply Bool) : Except Ret Bool :=
  if edmSuccess reply then .ok reply.payload else .error (.uec .serviceEdmSendRequestFailed)

/-- The storage policy adds an element of its own to the list. -/
def getEdmStroageTypePolicy (reply : EdmReply Int) (disableType : List UsbDeviceType) :
    Except Ret (List UsbDeviceType) :=
  if edmSuccess reply then
    .ok (if reply.payload = getEdmStorageDisableType then
      disableType ++ [{ baseClass := storageBaseClass }] else disableType)
  else .error (.uec .serviceEdmSendRequestFailed)

/-- `GetEdmTypePolicy` and `GetEdmTrustListPolicy`. -/
def getEdmListPolicy {α : Type} (reply : EdmReply (EdmList α)) (list : List α) : Except Ret (List α) :=
  if !edmSuccess reply then .error (.uec .serviceEdmSendRequestFailed)
  else if reply.payload.size < 0 || reply.payload.size > trustlistPolicyMaxDevices then
    .error (.uec .serviceEdmDeviceSizeExceed)
  else .ok (list ++ (List.range reply.payload.size.toNat).map reply.payload.item)

structure UsbPolicy where
  isGlobalDisabled : Bool
  disableType : List UsbDeviceType
  trustUsbDeviceIds : List UsbDeviceId

/-- The first reply that fails ends it. -/
def getEdmPolicy (env : Env) : Except Ret UsbPolicy :=
  if !env.systemAbilityManager then .error (.uec .serviceGetSystemAbilityManagerFailed)
  else
    match env.edm with
    | none => .error (.uec .serviceGetEdmServiceFailed)
    | some edm => do
      let isGlobalDisabled ← getEdmGlobalPolicy edm.globalDisabled
      let disableType ← getEdmStroageTypePolicy edm.storageDisableType []
      let disableType ← getEdmListPolicy edm.disableType disableType
      let trustUsbDeviceIds ← getEdmListPolicy edm.trustList []
      return ⟨isGlobalDisabled, disableType, trustUsbDeviceIds⟩

/-- None of the codes of `GetEdmPolicy` is the one that asks for another try. -/
def getUsbPolicy (env : Env) : Except Ret UsbPolicy :=
  (getEdmPolicy env).mapError fun _ => .uec .servicePrepareEdmSaFailed

/-- The type policy goes before the trust list, and only one of them is executed. -/
def executePolicy (env : Env) (policy : UsbPolicy) (s : HostState) : HostState :=
  let s := if isUsbSerialDisable env then manageUsbSerialLoop env true s else s
  if !policy.disableType.isEmpty then (executeManageInterfaceType env policy.disableType true s).2
  else if policy.trustUsbDeviceIds.isEmpty then s
  else (executeManageDevicePolicy env policy.trustUsbDeviceIds s).2

/-- The global switch goes before everything else. -/
def executeStrategy (env : Env) (s : HostState) : HostState :=
  if !isEdmEnabled env then s
  else
    match getUsbPolicy env with
    | .error _ => s
    | .ok policy =>
      if policy.isGlobalDisabled then (manageGlobalInterfaceImpl env true s).2
      else executePolicy env policy s

/-! ## The operations -/

/-- After serial devices are enabled again, the other policies have their say. -/
def manageUsbSerialDevice (env : Env) (disable : Bool) (s : HostState) : Ret × HostState :=
  let s := manageUsbSerialLoop env disable s
  (.ok, if !disable then executeStrategy env s else s)

def manageGlobalInterface (env : Env) (disable : Bool) (s : HostState) : Ret × HostState :=
  manageGlobalInterfaceImpl env disable s

def manageDevice (env : Env) (vendorId productId : Int) (disable : Bool) (s : HostState) : Ret × HostState :=
  manageDeviceImpl env vendorId productId disable s

def manageDevicePolicy (env : Env) (trustList : List UsbDeviceId) (s : HostState) : Ret × HostState :=
  executeManageDevicePolicy env trustList s

def manageInterfaceType (env : Env) (disableType : List UsbDeviceType) (disable : Bool) (s : HostState) :
    Ret × HostState :=
  executeManageInterfaceType env disableType disable s

/-- The first half of `AddDevice`: the device replaces one of the same name. -/
def registerDevice (env : Env) (d : UsbDevice) (s : HostState) : HostState :=
  let d := d.withStatus .newArrived
  let s := { s with devices := (s.devices.erase d.dev.name).insert d }
  addUsbSerialDevice env d (s.emit (.arrived d.dev))

/-- The second half: what is not disabled by now is enabled and announced. -/
def announceDevice (name : String) (s : HostState) : Bool × HostState :=
  match s.devices.find? name with
  | none => (false, s)
  | some d =>
    if d.authorizeStatus = .disabled then (true, s)
    else
      let s := s.setAuthorizeStatus name .enabled
      (true, publishCommonEvent .attached (d.withStatus .enabled) s)

/-- The strategy runs between the two halves. -/
def addDevice (env : Env) (d : UsbDevice) (s : HostState) : Bool × HostState :=
  announceDevice d.dev.name (executeStrategy env (registerDevice env d s))

def delDevice (dev : UsbDev) (s : HostState) : Bool × HostState :=
  match s.devices.find? dev.name with
  | none => (false, s)
  | some devOld =>
    -- a device that is not enabled was never seen, or is unseen already
    let s := if devOld.authorizeStatus = .enabled then publishCommonEvent .detached devOld s else s
    (true, { s with
      serialDevices := s.serialDevices.erase devOld.dev
      devices := s.devices.erase dev.name })

end UsbManager.Host
