import UsbManager.Host.Transfers
import UsbManager.Rights.Cleanup
import UsbManager.Service.Devices
import UsbManager.Service.Grants
import UsbManager.Service.SerialDeath

/-!
# Operations

The functions of `usb_service.cpp` that clients call on an attached device, on a serial port and on an accessory. Of the
thirty operations on a device all but `GetDeviceSpeed` and `GetInterfaceActiveStatus` ask `CheckDevicePermission` before
they call the host manager; a port and an accessory are only checked when they are opened. The host manager is never
null here, an `Ashmem` can always be made, and the reports are left out.
-/

namespace UsbManager.Service

open Rights Host Serial Accessory

/-- `closedFds` is a ghost: the descriptors that the service itself closed. -/
structure Clients (ρ : Type) where
  service : ServiceState
  host : Client.ClientState ρ
  serialRecipients : List (SerialDeathRecipient ρ)
  accFd : Int
  closedFds : List Int

/-- `preCallFunction`: `PreCallFunction` finds the interface. `hdfDevErrOp` is the code `HDF_DEV_ERR_OP` of the driver
framework. -/
structure OperationEnv where
  rightEnv : RightEnv
  preCallFunction : Bool
  hdi : Client.DeviceHdi
  hdfDevErrOp : Int

structure Reply where
  ret : ServiceRet
  data : Client.HdiData := {}
  deriving DecidableEq, Repr

structure UsbCtlSetUp where
  reqType : Int
  reqCmd : Int
  value : Int
  index : Int
  length : Int
  timeout : Int

structure UsbTransInfo where
  endpoint : Int
  flags : Int
  type : Int
  timeOut : Int
  length : Int
  userData : UInt64
  numIsoPackets : UInt32

/-- The length is dropped. -/
def usbCtrlTransferChange (ctlSetup : UsbCtlSetUp) : Client.UsbCtrlTransfer where
  requestType := ctlSetup.reqType
  requestCmd := ctlSetup.reqCmd
  value := ctlSetup.value
  index := ctlSetup.index
  timeout := ctlSetup.timeout

def usbCtrlTransferParamsChange (ctlSetup : UsbCtlSetUp) : Client.UsbCtrlTransferParams :=
  { usbCtrlTransferChange ctlSetup with length := ctlSetup.length }

def usbTransInfoChange (param : UsbTransInfo) : Client.USBTransferInfo where
  endpoint := param.endpoint
  flags := param.flags
  type := param.type
  timeOut := param.timeOut
  length := param.length
  userData := param.userData
  numIsoPackets := param.numIsoPackets

/-! ## The check -/

variable {ρ : Type}

/-- The state of the host manager stays. -/
def Clients.setService (c : Clients ρ) (s : ServiceState) : Clients ρ := { c with service := s }

/-- The check may clean up the table. -/
def checkDevicePermission (env : OperationEnv) (caller : Caller) (busNum devAddr : UInt8) (c : Clients ρ) :
    Bool × Clients ρ :=
  let (has, s) := hasRight env.rightEnv caller (UsbDev.name ⟨busNum, devAddr⟩) c.service
  (has, c.setService s)

def denied : Reply := { ret := .ret (.uec .servicePermissionDenied) }

/-- What fails before HDI is asked. -/
def invalid : Reply := { ret := .ret (.uec .serviceInvalidValue) }

/-- The call of the host manager, with its result as it is. -/
def forward (call : Client.ClientState ρ → Ret × Client.HdiData × Client.ClientState ρ) (c : Clients ρ) :
    Reply × Clients ρ :=
  let (ret, data, host) := call c.host
  (⟨.ret ret, data⟩, { c with host := host })

/-- What most operations do: the check, and the call after it. -/
def mediated (env : OperationEnv) (caller : Caller) (busNum devAddr : UInt8)
    (call : Client.ClientState ρ → Ret × Client.HdiData × Client.ClientState ρ) (c : Clients ρ) : Reply × Clients ρ :=
  let (permitted, c) := checkDevicePermission env caller busNum devAddr c
  if !permitted then (denied, c) else forward call c

/-- What the two queries do: no caller is asked for anything. -/
def queried (env : OperationEnv) (call : Client.ClientState ρ → Ret × Client.HdiData × Client.ClientState ρ)
    (c : Clients ρ) : Reply × Clients ρ :=
  if !env.preCallFunction then ({ ret := .err .servicePreManageInterfaceFailed }, c) else forward call c

/-- `BulkRead`, `BulkWrite` and `UsbSubmitTransfer` close the descriptor of a request that they refuse. -/
def Clients.closeFd (fd : Int) (c : Clients ρ) : Clients ρ := { c with closedFds := fd :: c.closedFds }

/-! ## The operations -/

namespace Mediated

section

variable (env : OperationEnv) (caller : Caller) (busNum devAddr : UInt8)

def openDevice : Clients ρ → Reply × Clients ρ :=
  mediated env caller busNum devAddr (Client.openDevice env.hdi busNum devAddr)

def close : Clients ρ → Reply × Clients ρ :=
  mediated env caller busNum devAddr (Client.close env.hdi busNum devAddr)

/-- A device that is not there has a code of its own. -/
def resetDevice (c : Clients ρ) : Reply × Clients ρ :=
  if (c.service.deviceVidPidMap.find? (UsbDev.name ⟨busNum, devAddr⟩)).isNone then
    ({ ret := .err .interfaceNameNotFound }, c)
  else mediated env caller busNum devAddr (Client.resetDevice env.hdi busNum devAddr) c

def claimInterface (interfaceid force : UInt8) : Clients ρ → Reply × Clients ρ :=
  mediated env caller busNum devAddr fun h => Client.claimInterface env.hdi busNum devAddr h interfaceid force

def setInterface (interfaceid altIndex : UInt8) : Clients ρ → Reply × Clients ρ :=
  mediated env caller busNum devAddr fun h => Client.setInterface env.hdi busNum devAddr h interfaceid altIndex

/-- One code of HDI is replaced. -/
def releaseInterface (interfaceid : UInt8) (c : Clients ρ) : Reply × Clients ρ :=
  let (reply, c) := mediated env caller busNum devAddr
    (fun h => Client.releaseInterface env.hdi busNum devAddr h interfaceid) c
  if reply.ret = .ret (.hdi env.hdfDevErrOp) then ({ reply with ret := .err .interfaceInvalidOperation }, c)
  else (reply, c)

def setActiveConfig (configIndex : UInt8) : Clients ρ → Reply × Clients ρ :=
  mediated env caller busNum devAddr fun h => Client.setActiveConfig env.hdi busNum devAddr h configIndex

def getActiveConfig : Clients ρ → Reply × Clients ρ :=
  mediated env caller busNum devAddr (Client.getActiveConfig env.hdi busNum devAddr)

def usbAttachKernelDriver (interfaceid : UInt8) : Clients ρ → Reply × Clients ρ :=
  mediated env caller busNum devAddr fun h => Client.usbAttachKernelDriver env.hdi busNum devAddr h interfaceid

def usbDetachKernelDriver (interfaceid : UInt8) : Clients ρ → Reply × Clients ρ :=
  mediated env caller busNum devAddr fun h => Client.usbDetachKernelDriver env.hdi busNum devAddr h interfaceid

def clearHalt (interfaceId endpointId : UInt8) : Clients ρ → Reply × Clients ρ :=
  mediated env caller busNum devAddr fun h => Client.clearHalt env.hdi busNum devAddr h interfaceId endpointId

def getRawDescriptor : Clients ρ → Reply × Clients ρ :=
  mediated env caller busNum devAddr (Client.getRawDescriptor env.hdi busNum devAddr)

def getFileDescriptor : Clients ρ → Reply × Clients ρ :=
  mediated env caller busNum devAddr (Client.getFileDescriptor env.hdi busNum devAddr)

def getDeviceSpeed : Clients ρ → Reply × Clients ρ := queried env (Client.getDeviceSpeed env.hdi busNum devAddr)

def getInterfaceActiveStatus (interfaceid : UInt8) : Clients ρ → Reply × Clients ρ :=
  queried env fun h => Client.getInterfaceActiveStatus env.hdi busNum devAddr h interfaceid

def bulkTransferRead (ep : USBEndpoint) (timeOut : Int) : Clients ρ → Reply × Clients ρ :=
  mediated env caller busNum devAddr fun h =>
    Client.bulkTransferRead env.hdi ⟨busNum, devAddr⟩ (pipeOf ep) h timeOut

def bulkTransferReadwithLength (ep : USBEndpoint) (length timeOut : Int) : Clients ρ → Reply × Clients ρ :=
  mediated env caller busNum devAddr fun h =>
    Client.bulkTransferReadwithLength env.hdi ⟨busNum, devAddr⟩ (pipeOf ep) h length timeOut

def bulkTransferWrite (ep : USBEndpoint) (bufferData : List UInt8) (timeOut : Int) : Clients ρ → Reply × Clients ρ :=
  mediated env caller busNum devAddr fun h =>
    Client.bulkTransferWrite env.hdi ⟨busNum, devAddr⟩ (pipeOf ep) h bufferData timeOut

def controlTransfer (ctrlParams : UsbCtlSetUp) (bufferData : List UInt8) : Clients ρ → Reply × Clients ρ :=
  mediated env caller busNum devAddr fun h =>
    Client.controlTransfer env.hdi ⟨busNum, devAddr⟩ h (usbCtrlTransferChange ctrlParams) bufferData

def usbControlTransfer (ctrlParams : UsbCtlSetUp) (bufferData : List UInt8) : Clients ρ → Reply × Clients ρ :=
  mediated env caller busNum devAddr fun h =>
    Client.usbControlTransfer env.hdi ⟨busNum, devAddr⟩ h (usbCtrlTransferParamsChange ctrlParams) bufferData

def requestQueue (ep : USBEndpoint) (clientData bufferData : List UInt8) : Clients ρ → Reply × Clients ρ :=
  mediated env caller busNum devAddr fun h =>
    Client.requestQueue env.hdi ⟨busNum, devAddr⟩ (pipeOf ep) h clientData bufferData

def requestWait (timeOut : Int) : Clients ρ → Reply × Clients ρ :=
  mediated env caller busNum devAddr fun h => Client.requestWait env.hdi ⟨busNum, devAddr⟩ h timeOut

def requestCancel (interfaceId endpointId : UInt8) : Clients ρ → Reply × Clients ρ :=
  mediated env caller busNum devAddr fun h => Client.requestCancel env.hdi busNum devAddr h interfaceId endpointId

def regBulkCallback (ep : USBEndpoint) (cb : Option ρ) : Clients ρ → Reply × Clients ρ :=
  mediated env caller busNum devAddr fun h => Client.regBulkCallback env.hdi ⟨busNum, devAddr⟩ (pipeOf ep) h cb

def unRegBulkCallback (ep : USBEndpoint) : Clients ρ → Reply × Clients ρ :=
  mediated env caller busNum devAddr fun h => Client.unRegBulkCallback env.hdi ⟨busNum, devAddr⟩ (pipeOf ep) h

def usbCancelTransfer (endpoint : Int) : Clients ρ → Reply × Clients ρ :=
  mediated env caller busNum devAddr fun h => Client.usbCancelTransfer env.hdi ⟨busNum, devAddr⟩ h endpoint

def bulkCancel (ep : USBEndpoint) : Clients ρ → Reply × Clients ρ :=
  mediated env caller busNum devAddr fun h => Client.bulkCancel env.hdi ⟨busNum, devAddr⟩ (pipeOf ep) h

/-! ## Shared memory -/

/-- `BulkRead` and `BulkWrite` close the descriptor themselves until an `Ashmem` has it. -/
def bulkAshmem (call : Client.Ashmem → Client.ClientState ρ → Ret × Client.HdiData × Client.ClientState ρ)
    (fd memSize : Int) (c : Clients ρ) : Reply × Clients ρ :=
  if fd ≤ 0 || memSize ≤ 0 then (invalid, c.closeFd fd)
  else
    let (permitted, c) := checkDevicePermission env caller busNum devAddr c
    if !permitted then (denied, c.closeFd fd) else forward (call ⟨fd, memSize⟩) c

def bulkRead (ep : USBEndpoint) (fd memSize : Int) : Clients ρ → Reply × Clients ρ :=
  bulkAshmem env caller busNum devAddr
    (fun ashmem h => Client.bulkRead env.hdi ⟨busNum, devAddr⟩ (pipeOf ep) h ashmem) fd memSize

def bulkWrite (ep : USBEndpoint) (fd memSize : Int) : Clients ρ → Reply × Clients ρ :=
  bulkAshmem env caller busNum devAddr
    (fun ashmem h => Client.bulkWrite env.hdi ⟨busNum, devAddr⟩ (pipeOf ep) h ashmem) fd memSize

/-- In bytes. -/
def memsizeMax : Int := 512 * 1024 * 1024

/-- Here the `Ashmem` is made before the check, and closes the descriptor of a request that is denied. -/
def usbSubmitTransfer (added : Bool) (param : UsbTransInfo) (cb : Option ρ) (fd memSize : Int) (c : Clients ρ) :
    Reply × Clients ρ :=
  match cb with
  | none => (invalid, c.closeFd fd)
  | some remote =>
    if fd ≤ 0 || memSize ≤ 0 || memSize ≥ memsizeMax then (invalid, c.closeFd fd)
    else
      mediated env caller busNum devAddr (fun h => Client.usbSubmitTransfer env.hdi ⟨busNum, devAddr⟩ h added
        (usbTransInfoChange param) remote ⟨fd, memSize⟩) c

end

end Mediated

/-! ## The family -/

inductive Operation (ρ : Type)
  | openDevice
  | close
  | resetDevice
  | claimInterface (interfaceid force : UInt8)
  | setInterface (interfaceid altIndex : UInt8)
  | releaseInterface (interfaceid : UInt8)
  | setActiveConfig (configIndex : UInt8)
  | getActiveConfig
  | usbAttachKernelDriver (interfaceid : UInt8)
  | usbDetachKernelDriver (interfaceid : UInt8)
  | clearHalt (interfaceId endpointId : UInt8)
  | getRawDescriptor
  | getFileDescriptor
  | getDeviceSpeed
  | getInterfaceActiveStatus (interfaceid : UInt8)
  | bulkTransferRead (ep : USBEndpoint) (timeOut : Int)
  | bulkTransferReadwithLength (ep : USBEndpoint) (length timeOut : Int)
  | bulkTransferWrite (ep : USBEndpoint) (bufferData : List UInt8) (timeOut : Int)
  | controlTransfer (ctrlParams : UsbCtlSetUp) (bufferData : List UInt8)
  | usbControlTransfer (ctrlParams : UsbCtlSetUp) (bufferData : List UInt8)
  | requestQueue (ep : USBEndpoint) (clientData bufferData : List UInt8)
  | requestWait (timeOut : Int)
  | requestCancel (interfaceId endpointId : UInt8)
  | regBulkCallback (ep : USBEndpoint) (cb : Option ρ)
  | unRegBulkCallback (ep : USBEndpoint)
  | usbCancelTransfer (endpoint : Int)
  | bulkCancel (ep : USBEndpoint)
  | bulkRead (ep : USBEndpoint) (fd memSize : Int)
  | bulkWrite (ep : USBEndpoint) (fd memSize : Int)
  | usbSubmitTransfer (added : Bool) (param : UsbTransInfo) (cb : Option ρ) (fd memSize : Int)

def Operation.run (env : OperationEnv) (caller : Caller) (dev : UsbDev) :
    Operation ρ → Clients ρ → Reply × Clients ρ
  | .openDevice => Mediated.openDevice env caller dev.busNum dev.devAddr
  | .close => Mediated.close env caller dev.busNum dev.devAddr
  | .resetDevice => Mediated.resetDevice env caller dev.busNum dev.devAddr
  | .claimInterface i f => Mediated.claimInterface env caller dev.busNum dev.devAddr i f
  | .setInterface i a => Mediated.setInterface env caller dev.busNum dev.devAddr i a
  | .releaseInterface i => Mediated.releaseInterface env caller dev.busNum dev.devAddr i
  | .setActiveConfig i => Mediated.setActiveConfig env caller dev.busNum dev.devAddr i
  | .getActiveConfig => Mediated.getActiveConfig env caller dev.busNum dev.devAddr
  | .usbAttachKernelDriver i => Mediated.usbAttachKernelDriver env caller dev.busNum dev.devAddr i
  | .usbDetachKernelDriver i => Mediated.usbDetachKernelDriver env caller dev.busNum dev.devAddr i
  | .clearHalt i e => Mediated.clearHalt env caller dev.busNum dev.devAddr i e
  | .getRawDescriptor => Mediated.getRawDescriptor env caller dev.busNum dev.devAddr
  | .getFileDescriptor => Mediated.getFileDescriptor env caller dev.busNum dev.devAddr
  | .getDeviceSpeed => Mediated.getDeviceSpeed env dev.busNum dev.devAddr
  | .getInterfaceActiveStatus i => Mediated.getInterfaceActiveStatus env dev.busNum dev.devAddr i
  | .bulkTransferRead ep t => Mediated.bulkTransferRead env caller dev.busNum dev.devAddr ep t
  | .bulkTransferReadwithLength ep l t => Mediated.bulkTransferReadwithLength env caller dev.busNum dev.devAddr ep l t
  | .bulkTransferWrite ep b t => Mediated.bulkTransferWrite env caller dev.busNum dev.devAddr ep b t
  | .controlTransfer p b => Mediated.controlTransfer env caller dev.busNum dev.devAddr p b
  | .usbControlTransfer p b => Mediated.usbControlTransfer env caller dev.busNum dev.devAddr p b
  | .requestQueue ep d b => Mediated.requestQueue env caller dev.busNum dev.devAddr ep d b
  | .requestWait t => Mediated.requestWait env caller dev.busNum dev.devAddr t
  | .requestCancel i e => Mediated.requestCancel env caller dev.busNum dev.devAddr i e
  | .regBulkCallback ep cb => Mediated.regBulkCallback env caller dev.busNum dev.devAddr ep cb
  | .unRegBulkCallback ep => Mediated.unRegBulkCallback env caller dev.busNum dev.devAddr ep
  | .usbCancelTransfer e => Mediated.usbCancelTransfer env caller dev.busNum dev.devAddr e
  | .bulkCancel ep => Mediated.bulkCancel env caller dev.busNum dev.devAddr ep
  | .bulkRead ep fd m => Mediated.bulkRead env caller dev.busNum dev.devAddr ep fd m
  | .bulkWrite ep fd m => Mediated.bulkWrite env caller dev.busNum dev.devAddr ep fd m
  | .usbSubmitTransfer a p cb fd m => Mediated.usbSubmitTransfer env caller dev.busNum dev.devAddr a p cb fd m

/-! ## What an operation does -/

theorem hasEitherRight_deletes (env : RightEnv) (deviceName : String) (info : CallingInfo) (db : RightDb) :
    Deletes (Outlived env db.rows) db (hasEitherRight env deviceName info db).2 := by
  have hown := Rights.hasRight_deletes env (info.key deviceName info.tokenId) db
  unfold hasEitherRight
  rcases hr : Rights.hasRight env (info.key deviceName info.tokenId) db with ⟨- | -, db'⟩
  all_goals rw [hr] at hown
  · exact hown.trans ((Rights.hasRight_deletes env (info.key deviceName usbDefaultToken) db').mono
      fun r _ h => h.mono hown.sub)
  · exact hown

theorem hasRight_deletes (env : RightEnv) (caller : Caller) (deviceName : String) (s : ServiceState) :
    Deletes (Outlived env s.rights.rows) s.rights (hasRight env caller deviceName s).2.rights := by
  unfold hasRight
  iterate 4
    split
    · exact .of_rows_eq rfl
  exact hasEitherRight_deletes env _ _ s.rights

/-- The calls that any client may make. -/
def unchecked : Client.DeviceCall → Bool
  | .getDeviceSpeed | .getInterfaceActiveStatus _ => true
  | _ => false

/-- What an operation may do: take outlived rows, and make one call, which is a query unless the caller has the
right. -/
structure Mediates (env : OperationEnv) (caller : Caller) (dev : UsbDev) (c c' : Clients ρ) : Prop where
  service : ∃ db, c'.service = c.service.setRights db
  rows : ∀ r ∈ c'.service.rights.rows, r ∈ c.service.rights.rows
  calls : ∃ calls, Client.Sends dev calls c.host c'.host ∧
    ∀ call ∈ calls, unchecked call = true ∨ (hasRight env.rightEnv caller dev.name c.service).1 = true

theorem mediates_refused (env : OperationEnv) (caller : Caller) (dev : UsbDev) {c c' : Clients ρ}
    (hhost : c'.host = c.host) (hservice : c'.service = c.service) : Mediates env caller dev c c' :=
  ⟨⟨c.service.rights, hservice⟩, fun _ hr => hservice ▸ hr, [], hhost ▸ Client.Sends.refl dev c.host,
    fun _ h => absurd h List.not_mem_nil⟩

theorem mediates_checked (env : OperationEnv) (caller : Caller) (dev : UsbDev) {c c' : Clients ρ}
    (hservice : c'.service = (hasRight env.rightEnv caller dev.name c.service).2)
    (hcalls : ∃ calls, Client.Sends dev calls c.host c'.host ∧
      ∀ call ∈ calls, unchecked call = true ∨ (hasRight env.rightEnv caller dev.name c.service).1 = true) :
    Mediates env caller dev c c' := by
  have hframe := hasRight_frame env.rightEnv caller dev.name c.service
  have hsub := (hasRight_deletes env.rightEnv caller dev.name c.service).sub
  rw [← hservice] at hframe hsub
  exact ⟨hframe, hsub, hcalls⟩

theorem mediated_mediates (env : OperationEnv) (caller : Caller) (dev : UsbDev) (c : Clients ρ)
    (call : Client.ClientState ρ → Ret × Client.HdiData × Client.ClientState ρ)
    (hcall : ∀ h, ∃ calls, Client.Sends dev calls h (call h).2.2) :
    Mediates env caller dev c (mediated env caller dev.busNum dev.devAddr call c).2 := by
  unfold mediated checkDevicePermission
  dsimp only
  rcases hhas : (hasRight env.rightEnv caller dev.name c.service).1 with - | -
  · rw [if_pos (by simp)]
    exact mediates_checked env caller dev rfl ⟨[], .refl dev c.host, fun _ h => absurd h List.not_mem_nil⟩
  · rw [if_neg (by simp)]
    obtain ⟨calls, hsends⟩ := hcall c.host
    exact mediates_checked env caller dev rfl ⟨calls, hsends, fun _ _ => .inr hhas⟩

theorem queried_mediates (env : OperationEnv) (caller : Caller) (dev : UsbDev) (c : Clients ρ)
    {call : Client.DeviceCall} (hcall : unchecked call = true) :
    Mediates env caller dev c (queried env (fun h => Client.invoke env.hdi dev call h) c).2 := by
  unfold queried
  split
  · exact mediates_refused env caller dev rfl rfl
  · refine ⟨⟨c.service.rights, rfl⟩, fun _ hr => hr, _, Client.invoke_sends env.hdi dev call c.host, fun call' h => ?_⟩
    unfold Client.DeviceHdi.made at h
    split at h
    · exact .inl (List.mem_singleton.mp h ▸ hcall)
    · exact absurd h List.not_mem_nil

theorem bulkAshmem_mediates (env : OperationEnv) (caller : Caller) (dev : UsbDev) (c : Clients ρ)
    (call : Client.Ashmem → Client.ClientState ρ → Ret × Client.HdiData × Client.ClientState ρ)
    (hcall : ∀ ashmem h, ∃ calls, Client.Sends dev calls h (call ashmem h).2.2) (fd memSize : Int) :
    Mediates env caller dev c (Mediated.bulkAshmem env caller dev.busNum dev.devAddr call fd memSize c).2 := by
  unfold Mediated.bulkAshmem checkDevicePermission
  dsimp only
  split
  · exact mediates_refused env caller dev rfl rfl
  rcases hhas : (hasRight env.rightEnv caller dev.name c.service).1 with - | -
  · rw [if_pos (by simp)]
    exact mediates_checked env caller dev rfl ⟨[], .refl dev c.host, fun _ h => absurd h List.not_mem_nil⟩
  · rw [if_neg (by simp)]
    obtain ⟨calls, hsends⟩ := hcall ⟨fd, memSize⟩ c.host
    exact mediates_checked env caller dev rfl ⟨calls, hsends, fun _ _ => .inr hhas⟩

theorem resetDevice_mediates (env : OperationEnv) (caller : Caller) (dev : UsbDev) (c : Clients ρ) :
    Mediates env caller dev c (Mediated.resetDevice env caller dev.busNum dev.devAddr c).2 := by
  unfold Mediated.resetDevice
  split
  · exact mediates_refused env caller dev rfl rfl
  · exact mediated_mediates env caller dev c _ fun h => ⟨_, Client.invoke_sends env.hdi dev .resetDevice h⟩

theorem releaseInterface_mediates (env : OperationEnv) (caller : Caller) (dev : UsbDev) (interfaceid : UInt8)
    (c : Clients ρ) :
    Mediates env caller dev c (Mediated.releaseInterface env caller dev.busNum dev.devAddr interfaceid c).2 := by
  have h := mediated_mediates env caller dev c
    (fun h => Client.releaseInterface env.hdi dev.busNum dev.devAddr h interfaceid)
    fun h => ⟨_, Client.invoke_sends env.hdi dev (.releaseInterface interfaceid) h⟩
  unfold Mediated.releaseInterface
  dsimp only
  split
  · exact h
  · exact h

theorem usbSubmitTransfer_mediates (env : OperationEnv) (caller : Caller) (dev : UsbDev) (added : Bool)
    (param : UsbTransInfo) (cb : Option ρ) (fd memSize : Int) (c : Clients ρ) :
    Mediates env caller dev c
      (Mediated.usbSubmitTransfer env caller dev.busNum dev.devAddr added param cb fd memSize c).2 := by
  unfold Mediated.usbSubmitTransfer
  split
  · exact mediates_refused env caller dev rfl rfl
  split
  · exact mediates_refused env caller dev rfl rfl
  · exact mediated_mediates env caller dev c _ fun h => Client.usbSubmitTransfer_sends env.hdi dev h added _ _ _

theorem Operation.run_mediates (env : OperationEnv) (caller : Caller) (dev : UsbDev) (op : Operation ρ)
    (c : Clients ρ) : Mediates env caller dev c (op.run env caller dev c).2 := by
  cases op with
  | resetDevice => exact resetDevice_mediates env caller dev c
  | releaseInterface i => exact releaseInterface_mediates env caller dev i c
  | usbSubmitTransfer a p cb fd m => exact usbSubmitTransfer_mediates env caller dev a p cb fd m c
  | getDeviceSpeed => exact queried_mediates env caller dev c (show unchecked .getDeviceSpeed = true from rfl)
  | getInterfaceActiveStatus i => exact queried_mediates env caller dev c (show unchecked (.getInterfaceActiveStatus i) = true from rfl)
  | bulkRead ep fd m =>
    exact bulkAshmem_mediates env caller dev c _ (fun _ h => ⟨_, Client.invoke_sends env.hdi dev _ h⟩) fd m
  | bulkWrite ep fd m =>
    exact bulkAshmem_mediates env caller dev c _ (fun _ h => ⟨_, Client.invoke_sends env.hdi dev _ h⟩) fd m
  | controlTransfer p b =>
    exact mediated_mediates env caller dev c _ fun h => Client.controlTransfer_sends env.hdi dev h _ b
  | usbControlTransfer p b =>
    exact mediated_mediates env caller dev c _ fun h => Client.usbControlTransfer_sends env.hdi dev h _ b
  | regBulkCallback ep cb =>
    exact mediated_mediates env caller dev c _ fun h => Client.regBulkCallback_sends env.hdi dev _ h cb
  | unRegBulkCallback ep =>
    exact mediated_mediates env caller dev c _ fun h => Client.unRegBulkCallback_sends env.hdi dev _ h
  | _ => exact mediated_mediates env caller dev c _ fun h => ⟨_, Client.invoke_sends env.hdi dev _ h⟩

/-! ## Serial ports -/

def Clients.serial (c : Clients ρ) : SerialClients ρ := ⟨c.service, c.serialRecipients⟩

def Clients.setSerial (c : Clients ρ) (s : SerialClients ρ) : Clients ρ :=
  { c with service := s.service, serialRecipients := s.recipients }

/-- What `SerialRead` and `SerialWrite` share: a limit for the size that is asked for and for the data. -/
def serialTransfer (sizeMax : Nat) (transfer : SerialManager → TransferResult × SerialManager) (portId : Int)
    (dataSize size : Nat) (s : ServiceState) : TransferResult × ServiceState :=
  if size > sizeMax || dataSize > sizeMax then (⟨.uec .serialIoException, none, false⟩, s)
  else
    match validateUsbSerialManagerAndPort portId s, s.usbSerialManager with
    | .ok, some m =>
      let (result, m) := transfer m
      (result, { s with usbSerialManager := some m })
    | ret, _ => (⟨ret, none, false⟩, s)

/-- In bytes, as the next one. -/
def serialReadSizeMax : Nat := 64 * 1024

def serialWriteSizeMax : Nat := 200 * 1024

def serialRead (hdi : Int) (caller : Caller) (portId : Int) (dataSize size : Nat) (s : ServiceState) :
    TransferResult × ServiceState :=
  serialTransfer serialReadSizeMax (Serial.serialRead hdi caller.tokenId portId) portId dataSize size s

def serialWrite (hdi : Int) (caller : Caller) (portId : Int) (dataSize size : Nat) (s : ServiceState) :
    TransferResult × ServiceState :=
  serialTransfer serialWriteSizeMax (Serial.serialWrite hdi caller.tokenId portId) portId dataSize size s

def serialGetAttribute (hdi : Int) (caller : Caller) (portId : Int) (s : ServiceState) : Ret :=
  match validateUsbSerialManagerAndPort portId s, s.usbSerialManager with
  | .ok, some m => Serial.serialGetAttribute hdi caller.tokenId portId m
  | ret, _ => ret

def serialSetAttribute (hdi : Int) (caller : Caller) (portId : Int) (s : ServiceState) : Ret :=
  match validateUsbSerialManagerAndPort portId s, s.usbSerialManager with
  | .ok, some m => Serial.serialSetAttribute hdi caller.tokenId portId m
  | ret, _ => ret

/-- What the owner of a port may do with it. -/
inductive SerialUse
  | serialRead (dataSize size : Nat)
  | serialWrite (dataSize size : Nat)
  | serialGetAttribute
  | serialSetAttribute
  deriving DecidableEq, Repr

def SerialUse.run (hdi : Int) (caller : Caller) (portId : Int) : SerialUse → ServiceState → Ret × ServiceState
  | .serialRead dataSize size, s =>
    let (result, s) := Service.serialRead hdi caller portId dataSize size s
    (result.ret, s)
  | .serialWrite dataSize size, s =>
    let (result, s) := Service.serialWrite hdi caller portId dataSize size s
    (result.ret, s)
  | .serialGetAttribute, s => (Service.serialGetAttribute hdi caller portId s, s)
  | .serialSetAttribute, s => (Service.serialSetAttribute hdi caller portId s, s)

/-! ## Accessories -/

/-- The result of HDI and the descriptor that it gave. -/
structure AccessoryHdi where
  usbDeviceInterface : Bool
  openAccessory : Int × Int
  closeAccessory : Ret

/-- The code of the driver for an accessory that is open. -/
def accessoryIsBusy : Int := -16

/-- `UsbAccessoryManager::OpenAccessory`. -/
def managerOpenAccessory (hdi : AccessoryHdi) : Except ServiceRet Int :=
  if !hdi.usbDeviceInterface then .error (.ret (.uec .serviceInvalidValue))
  else if hdi.openAccessory.1 = 0 then .ok hdi.openAccessory.2
  else if hdi.openAccessory.1 = accessoryIsBusy then .error (.err .accessoryReopen)
  else .error (.err .accessoryOpenNativeNodeFailed)

/-- The accessory is matched once more by the check. -/
def openAccessory (env : RightEnv) (hdi : AccessoryHdi) (caller : Caller) (access : USBAccessory) (c : Clients ρ) :
    Except ServiceRet Int × Clients ρ :=
  match c.service.usbAccessoryManager with
  | none => (.error (.ret (.uec .serviceInvalidValue)), c)
  | some m =>
    match getCallingInfo caller with
    | none => (.error (.ret (.uec .serviceGetTokenInfoFailed)), c)
    | some info =>
      match getAccessorySerialNumber m access info.bundleName with
      | .error ret => (.error (.ret ret), c)
      | .ok _ =>
        match hasAccessoryRight env caller access c.service with
        | (.ok true, s) =>
          match managerOpenAccessory hdi with
          | .ok fd => (.ok fd, { c.setService s with accFd := fd })
          | .error ret => (.error ret, c.setService s)
        | (_, s) => (.error (.ret (.uec .servicePermissionDenied)), c.setService s)

/-- Neither the caller nor the descriptor is looked at. -/
def closeAccessory (hdi : AccessoryHdi) (c : Clients ρ) : Ret × Clients ρ :=
  match c.service.usbAccessoryManager with
  | none => (.uec .serviceInvalidValue, c)
  | some _ =>
    if !hdi.usbDeviceInterface then (.uec .serviceInvalidValue, c)
    else if hdi.closeAccessory ≠ .ok then (hdi.closeAccessory, c)
    else (.ok, { c with accFd := 0 })

end UsbManager.Service
