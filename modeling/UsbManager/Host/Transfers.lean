import UsbManager.Host.BulkCallback
import UsbManager.Host.State

/-!
# Calls for clients

The functions of `usb_host_manager.cpp` that hand the call of a client to HDI. `hdiCalls` is a ghost: what reached
HDI, in order. A submitted transfer leaves a death recipient with the callback object of the client; when the client
dies, the transfer is cancelled and the device is closed.
-/

namespace UsbManager.Host.Client

/-! ## What HDI is asked -/

structure UsbCtrlTransfer where
  requestType : Int
  requestCmd : Int
  value : Int
  index : Int
  timeout : Int
  deriving DecidableEq, Repr

structure UsbCtrlTransferParams extends UsbCtrlTransfer where
  length : Int
  deriving DecidableEq, Repr

structure USBTransferInfo where
  endpoint : Int
  flags : Int
  type : Int
  timeOut : Int
  length : Int
  userData : UInt64
  numIsoPackets : UInt32
  deriving DecidableEq, Repr

/-- Shared memory, by its descriptor and its size. -/
structure Ashmem where
  fd : Int
  memSize : Int
  deriving DecidableEq, Repr

/-- A call of HDI for a client, with all it is given. -/
inductive DeviceCall
  | openDevice
  | closeDevice
  | resetDevice
  | claimInterface (interfaceid force : UInt8)
  | setInterface (interfaceid altIndex : UInt8)
  | releaseInterface (interfaceid : UInt8)
  | setConfig (configIndex : UInt8)
  | getConfig
  | manageInterface (interfaceid : UInt8) (disable : Bool)
  | clearHalt (pipe : UsbPipe)
  | getRawDescriptor
  | getDeviceFileDescriptor
  | getDeviceSpeed
  | getInterfaceActiveStatus (interfaceid : UInt8)
  | bulkTransferRead (pipe : UsbPipe) (timeOut : Int)
  | bulkTransferReadwithLength (pipe : UsbPipe) (timeOut length : Int)
  | bulkTransferWrite (pipe : UsbPipe) (timeOut : Int) (bufferData : List UInt8)
  | controlTransferRead (ctrl : UsbCtrlTransfer)
  | controlTransferReadwithLength (ctrlParams : UsbCtrlTransferParams)
  | controlTransferWrite (ctrl : UsbCtrlTransfer) (bufferData : List UInt8)
  | requestQueue (pipe : UsbPipe) (clientData bufferData : List UInt8)
  | requestWait (timeOut : Int)
  | requestCancel (pipe : UsbPipe)
  | regBulkCallback (pipe : UsbPipe)
  | unRegBulkCallback (pipe : UsbPipe)
  | usbCancelTransfer (endpoint : Int)
  | usbSubmitTransfer (info : USBTransferInfo) (ashmem : Ashmem)
  | bulkRead (pipe : UsbPipe) (ashmem : Ashmem)
  | bulkWrite (pipe : UsbPipe) (ashmem : Ashmem)
  | bulkCancel (pipe : UsbPipe)
  deriving DecidableEq, Repr

/-- What HDI fills in: the active configuration, a descriptor, the speed of the device, whether an interface is idle,
the bytes that were read. -/
structure HdiData where
  configIndex : UInt8 := 0
  fd : Int := 0
  speed : UInt8 := 0
  unactivated : Bool := false
  clientData : List UInt8 := []
  bufferData : List UInt8 := []
  deriving DecidableEq, Repr

/-- The answers of HDI depend on how many calls came before. -/
structure DeviceHdi where
  usbHostInterface : Bool
  call : Nat → UsbDev → DeviceCall → Ret × HdiData

/-! ## The manager -/

/-- The transfer that is cancelled when the client dies. -/
structure UsbSubmitTransferDeathRecipient (ρ : Type) where
  devInfo : UsbDev
  endpoint : Int
  cb : ρ
  deriving DecidableEq, Repr

/-- What the manager has for clients. `hdiCalls` is a ghost. -/
structure ClientState (ρ : Type) where
  hdiCalls : List (UsbDev × DeviceCall)
  recipients : List (UsbSubmitTransferDeathRecipient ρ)
  bulk : BulkState ρ

variable {ρ : Type}

def ClientState.empty : ClientState ρ := ⟨[], [], ⟨none, fun _ => none⟩⟩

/-- Without an interface nothing is asked. -/
def invoke (hdi : DeviceHdi) (dev : UsbDev) (call : DeviceCall) (s : ClientState ρ) : Ret × HdiData × ClientState ρ :=
  if !hdi.usbHostInterface then (.uec .serviceInvalidValue, {}, s)
  else
    let (ret, data) := hdi.call s.hdiCalls.length dev call
    (ret, data, { s with hdiCalls := s.hdiCalls ++ [(dev, call)] })

section

variable (hdi : DeviceHdi) (busNum devAddr : UInt8) (s : ClientState ρ)

def openDevice : Ret × HdiData × ClientState ρ := invoke hdi ⟨busNum, devAddr⟩ .openDevice s

def close : Ret × HdiData × ClientState ρ := invoke hdi ⟨busNum, devAddr⟩ .closeDevice s

def resetDevice : Ret × HdiData × ClientState ρ := invoke hdi ⟨busNum, devAddr⟩ .resetDevice s

def claimInterface (interfaceid force : UInt8) : Ret × HdiData × ClientState ρ :=
  invoke hdi ⟨busNum, devAddr⟩ (.claimInterface interfaceid force) s

def setInterface (interfaceid altIndex : UInt8) : Ret × HdiData × ClientState ρ :=
  invoke hdi ⟨busNum, devAddr⟩ (.setInterface interfaceid altIndex) s

def releaseInterface (interfaceid : UInt8) : Ret × HdiData × ClientState ρ :=
  invoke hdi ⟨busNum, devAddr⟩ (.releaseInterface interfaceid) s

def setActiveConfig (configIndex : UInt8) : Ret × HdiData × ClientState ρ :=
  invoke hdi ⟨busNum, devAddr⟩ (.setConfig configIndex) s

def getActiveConfig : Ret × HdiData × ClientState ρ := invoke hdi ⟨busNum, devAddr⟩ .getConfig s

def usbAttachKernelDriver (interfaceid : UInt8) : Ret × HdiData × ClientState ρ :=
  invoke hdi ⟨busNum, devAddr⟩ (.manageInterface interfaceid false) s

def usbDetachKernelDriver (interfaceid : UInt8) : Ret × HdiData × ClientState ρ :=
  invoke hdi ⟨busNum, devAddr⟩ (.manageInterface interfaceid true) s

def clearHalt (interfaceId endpointId : UInt8) : Ret × HdiData × ClientState ρ :=
  invoke hdi ⟨busNum, devAddr⟩ (.clearHalt ⟨interfaceId, endpointId⟩) s

def getRawDescriptor : Ret × HdiData × ClientState ρ := invoke hdi ⟨busNum, devAddr⟩ .getRawDescriptor s

def getFileDescriptor : Ret × HdiData × ClientState ρ := invoke hdi ⟨busNum, devAddr⟩ .getDeviceFileDescriptor s

def getDeviceSpeed : Ret × HdiData × ClientState ρ := invoke hdi ⟨busNum, devAddr⟩ .getDeviceSpeed s

def getInterfaceActiveStatus (interfaceid : UInt8) : Ret × HdiData × ClientState ρ :=
  invoke hdi ⟨busNum, devAddr⟩ (.getInterfaceActiveStatus interfaceid) s

def requestCancel (interfaceId endpointId : UInt8) : Ret × HdiData × ClientState ρ :=
  invoke hdi ⟨busNum, devAddr⟩ (.requestCancel ⟨interfaceId, endpointId⟩) s

end

section

variable (hdi : DeviceHdi) (dev : UsbDev) (pipe : UsbPipe) (s : ClientState ρ)

def bulkTransferRead (timeOut : Int) : Ret × HdiData × ClientState ρ :=
  invoke hdi dev (.bulkTransferRead pipe timeOut) s

def bulkTransferReadwithLength (length timeOut : Int) : Ret × HdiData × ClientState ρ :=
  invoke hdi dev (.bulkTransferReadwithLength pipe timeOut length) s

def bulkTransferWrite (bufferData : List UInt8) (timeOut : Int) : Ret × HdiData × ClientState ρ :=
  invoke hdi dev (.bulkTransferWrite pipe timeOut bufferData) s

def usbEndpointDirMask : UInt32 := 0x80

/-- The direction of a control transfer is the highest bit of the request type. -/
def isOut (requestType : Int) : Bool := UInt32.ofInt requestType &&& usbEndpointDirMask = 0

def controlTransfer (ctrl : UsbCtrlTransfer) (bufferData : List UInt8) : Ret × HdiData × ClientState ρ :=
  if isOut ctrl.requestType then invoke hdi dev (.controlTransferWrite ctrl bufferData) s
  else invoke hdi dev (.controlTransferRead ctrl) s

/-- The length only matters to a read. -/
def usbControlTransfer (ctrlParams : UsbCtrlTransferParams) (bufferData : List UInt8) :
    Ret × HdiData × ClientState ρ :=
  if isOut ctrlParams.requestType then invoke hdi dev (.controlTransferWrite ctrlParams.toUsbCtrlTransfer bufferData) s
  else invoke hdi dev (.controlTransferReadwithLength ctrlParams) s

def requestQueue (clientData bufferData : List UInt8) : Ret × HdiData × ClientState ρ :=
  invoke hdi dev (.requestQueue pipe clientData bufferData) s

def requestWait (timeOut : Int) : Ret × HdiData × ClientState ρ := invoke hdi dev (.requestWait timeOut) s

def bulkRead (ashmem : Ashmem) : Ret × HdiData × ClientState ρ := invoke hdi dev (.bulkRead pipe ashmem) s

def bulkWrite (ashmem : Ashmem) : Ret × HdiData × ClientState ρ := invoke hdi dev (.bulkWrite pipe ashmem) s

def bulkCancel : Ret × HdiData × ClientState ρ := invoke hdi dev (.bulkCancel pipe) s

def usbCancelTransfer (endpoint : Int) : Ret × HdiData × ClientState ρ := invoke hdi dev (.usbCancelTransfer endpoint) s

/-- The answer of HDI, as the callback functions take it. -/
def answer (call : DeviceCall) : Option Ret :=
  if hdi.usbHostInterface then some (hdi.call s.hdiCalls.length dev call).1 else none

/-- A null callback is refused before HDI is asked. -/
def regBulkCallback (cb : Option ρ) : Ret × HdiData × ClientState ρ :=
  let (ret, bulk) := Host.regBulkCallback (answer hdi dev s (.regBulkCallback pipe)) dev pipe cb s.bulk
  let s := { s with bulk := bulk }
  if cb.isNone then (ret, {}, s) else (ret, {}, (invoke hdi dev (.regBulkCallback pipe) s).2.2)

def unRegBulkCallback : Ret × HdiData × ClientState ρ :=
  let (ret, bulk) := Host.unRegBulkCallback (answer hdi dev s (.unRegBulkCallback pipe)) dev pipe s.bulk
  (ret, {}, (invoke hdi dev (.unRegBulkCallback pipe) { s with bulk := bulk }).2.2)

/-- The recipient is added before HDI is asked, and taken back if HDI refuses. `added` is the answer of
`AddDeathRecipient`. -/
def usbSubmitTransfer (added : Bool) (info : USBTransferInfo) (cb : ρ) (ashmem : Ashmem) :
    Ret × HdiData × ClientState ρ :=
  if !hdi.usbHostInterface then (.uec .serviceInvalidValue, {}, s)
  else if !added then (.uec .serviceInvalidValue, {}, s)
  else
    let (ret, data, s) := invoke hdi dev (.usbSubmitTransfer info ashmem) s
    if ret ≠ .ok then (ret, data, s)
    else (ret, data, { s with recipients := s.recipients ++ [⟨dev, info.endpoint, cb⟩] })

end

/-! ## Death of a client -/

/-- `UsbSubmitTransferDeathRecipient::OnRemoteDied`. -/
def onRemoteDied (hdi : DeviceHdi) (s : ClientState ρ) (r : UsbSubmitTransferDeathRecipient ρ) : ClientState ρ :=
  let (ret, _, s) := usbCancelTransfer hdi r.devInfo s r.endpoint
  if ret = .ok then (close hdi r.devInfo.busNum r.devInfo.devAddr s).2.2 else s

/-- Every recipient of the object is called, and they are gone with it. -/
def remoteDied [DecidableEq ρ] (hdi : DeviceHdi) (cb : ρ) (s : ClientState ρ) : ClientState ρ :=
  let s' := (s.recipients.filter fun r => r.cb = cb).foldl (onRemoteDied hdi) s
  { s' with recipients := s.recipients.filter fun r => r.cb ≠ cb }

/-! ## What a call adds -/

/-- At most one call reached HDI, for this device, and only a submitted transfer left a recipient. -/
structure Sends (dev : UsbDev) (calls : List DeviceCall) (h h' : ClientState ρ) : Prop where
  sent : h'.hdiCalls = h.hdiCalls ++ calls.map fun call => (dev, call)
  once : calls.length ≤ 1
  recipients : ∀ r ∈ h'.recipients, r ∈ h.recipients ∨
    r.devInfo = dev ∧ ∃ info ashmem, DeviceCall.usbSubmitTransfer info ashmem ∈ calls ∧ info.endpoint = r.endpoint

theorem Sends.refl (dev : UsbDev) (h : ClientState ρ) : Sends dev [] h h :=
  ⟨by simp, by simp, fun _ hr => .inl hr⟩

/-- The calls that an operation makes if it is `call`: none without an interface. -/
def DeviceHdi.made (hdi : DeviceHdi) (call : DeviceCall) : List DeviceCall := if hdi.usbHostInterface then [call] else []

theorem invoke_sends (hdi : DeviceHdi) (dev : UsbDev) (call : DeviceCall) (h : ClientState ρ) :
    Sends dev (hdi.made call) h (invoke hdi dev call h).2.2 := by
  unfold invoke DeviceHdi.made
  rcases hdi.usbHostInterface with - | -
  · exact .refl dev h
  · exact ⟨rfl, by simp, fun _ hr => .inl hr⟩

theorem controlTransfer_sends (hdi : DeviceHdi) (dev : UsbDev) (h : ClientState ρ) (ctrl : UsbCtrlTransfer)
    (bufferData : List UInt8) : ∃ calls, Sends dev calls h (controlTransfer hdi dev h ctrl bufferData).2.2 := by
  unfold controlTransfer
  split
  · exact ⟨_, invoke_sends hdi dev _ h⟩
  · exact ⟨_, invoke_sends hdi dev _ h⟩

theorem usbControlTransfer_sends (hdi : DeviceHdi) (dev : UsbDev) (h : ClientState ρ)
    (ctrlParams : UsbCtrlTransferParams) (bufferData : List UInt8) :
    ∃ calls, Sends dev calls h (usbControlTransfer hdi dev h ctrlParams bufferData).2.2 := by
  unfold usbControlTransfer
  split
  · exact ⟨_, invoke_sends hdi dev _ h⟩
  · exact ⟨_, invoke_sends hdi dev _ h⟩

theorem regBulkCallback_sends (hdi : DeviceHdi) (dev : UsbDev) (pipe : UsbPipe) (h : ClientState ρ) (cb : Option ρ) :
    ∃ calls, Sends dev calls h (regBulkCallback hdi dev pipe h cb).2.2 := by
  unfold regBulkCallback
  simp only
  split
  · exact ⟨[], by simp, by simp, fun _ hr => .inl hr⟩
  · obtain ⟨hsent, honce, hrecipients⟩ := invoke_sends hdi dev (.regBulkCallback pipe)
      { h with bulk := (Host.regBulkCallback (answer hdi dev h (.regBulkCallback pipe)) dev pipe cb h.bulk).2 }
    exact ⟨_, hsent, honce, hrecipients⟩

theorem unRegBulkCallback_sends (hdi : DeviceHdi) (dev : UsbDev) (pipe : UsbPipe) (h : ClientState ρ) :
    ∃ calls, Sends dev calls h (unRegBulkCallback hdi dev pipe h).2.2 := by
  obtain ⟨hsent, honce, hrecipients⟩ := invoke_sends hdi dev (.unRegBulkCallback pipe)
    { h with bulk := (Host.unRegBulkCallback (answer hdi dev h (.unRegBulkCallback pipe)) dev pipe h.bulk).2 }
  exact ⟨_, hsent, honce, hrecipients⟩

theorem usbSubmitTransfer_sends (hdi : DeviceHdi) (dev : UsbDev) (h : ClientState ρ) (added : Bool)
    (info : USBTransferInfo) (cb : ρ) (ashmem : Ashmem) :
    ∃ calls, Sends dev calls h (usbSubmitTransfer hdi dev h added info cb ashmem).2.2 := by
  unfold usbSubmitTransfer invoke
  rcases hdi.usbHostInterface with - | -
  · exact ⟨[], .refl dev h⟩
  rcases added with - | -
  · exact ⟨[], .refl dev h⟩
  simp only [Bool.not_true, Bool.false_eq_true, if_false]
  refine ⟨[.usbSubmitTransfer info ashmem], ?_⟩
  split
  · exact ⟨rfl, by simp, fun _ hr => .inl hr⟩
  · refine ⟨rfl, by simp, fun r hr => ?_⟩
    rcases List.mem_append.mp hr with hr | hr
    · exact .inl hr
    · rw [List.mem_singleton.mp hr]
      exact .inr ⟨rfl, info, ashmem, List.mem_singleton.mpr rfl, rfl⟩

/-! ## What a death adds -/

/-- The calls of a recipient: a cancellation, and a close only after one that succeeded. -/
def UsbSubmitTransferDeathRecipient.calls (r : UsbSubmitTransferDeathRecipient ρ) : List (UsbDev × DeviceCall) :=
  [(r.devInfo, .usbCancelTransfer r.endpoint), (r.devInfo, .closeDevice)]

theorem onRemoteDied_hdiCalls (hdi : DeviceHdi) (h : ClientState ρ) (r : UsbSubmitTransferDeathRecipient ρ) :
    ∃ new, (onRemoteDied hdi h r).hdiCalls = h.hdiCalls ++ new ∧ ∀ e ∈ new, e ∈ r.calls := by
  have hcancel := (invoke_sends hdi r.devInfo (.usbCancelTransfer r.endpoint) h).sent
  unfold onRemoteDied
  have hmade : ∀ call, (r.devInfo, call) ∈ r.calls →
      ∀ e ∈ (hdi.made call).map fun call => (r.devInfo, call), e ∈ r.calls := by
    intro call hcall e he
    unfold DeviceHdi.made at he
    split at he
    · rw [List.map_singleton, List.mem_singleton] at he
      exact he ▸ hcall
    · exact absurd he List.not_mem_nil
  dsimp only
  by_cases hret : (usbCancelTransfer hdi r.devInfo h r.endpoint).1 = .ok
  · have hclose := (invoke_sends hdi r.devInfo .closeDevice
      (invoke hdi r.devInfo (.usbCancelTransfer r.endpoint) h).2.2).sent
    rw [hcancel, List.append_assoc] at hclose
    rw [if_pos hret]
    refine ⟨_, hclose, fun e he => ?_⟩
    rcases List.mem_append.mp he with he | he
    · exact hmade _ (by simp [UsbSubmitTransferDeathRecipient.calls]) e he
    · exact hmade _ (by simp [UsbSubmitTransferDeathRecipient.calls]) e he
  · rw [if_neg hret]
    exact ⟨_, hcancel, hmade _ (by simp [UsbSubmitTransferDeathRecipient.calls])⟩

theorem foldl_onRemoteDied_hdiCalls (hdi : DeviceHdi) (rs : List (UsbSubmitTransferDeathRecipient ρ))
    (h : ClientState ρ) :
    ∃ new, (rs.foldl (onRemoteDied hdi) h).hdiCalls = h.hdiCalls ++ new ∧ ∀ e ∈ new, ∃ r ∈ rs, e ∈ r.calls := by
  induction rs generalizing h with
  | nil => exact ⟨[], by simp, fun e he => absurd he List.not_mem_nil⟩
  | cons r rs ih =>
    obtain ⟨first, hfirst, hof⟩ := onRemoteDied_hdiCalls hdi h r
    obtain ⟨rest, hrest, hofRest⟩ := ih (onRemoteDied hdi h r)
    rw [hfirst, List.append_assoc] at hrest
    refine ⟨first ++ rest, hrest, fun e he => ?_⟩
    rcases List.mem_append.mp he with he | he
    · exact ⟨r, List.mem_cons_self, hof e he⟩
    · obtain ⟨r', hr', hcall⟩ := hofRest e he
      exact ⟨r', List.mem_cons_of_mem r hr', hcall⟩

end UsbManager.Host.Client
