import UsbManager.Lib.History
import UsbManager.Rights.Cleanup
import UsbManager.Service.Devices
import UsbManager.Service.Operations
import UsbManager.Service.PortTables

/-!
# The service as one machine

Everything that clients, the system and HDI can make the service do, in any order, with any answers of the store, of
HDI and of the clock. A log keeps what was granted and taken back, and what was done for whom.
-/

namespace UsbManager.Service

open Rights Serial Accessory Host

/-! ## What is logged -/

/-- A grant, a removal and the use of a port are logged if the service reports success, a call for a device if it reaches
HDI, and a dump for every port that it opens. -/
inductive Entry
  | granted (grantor : Grantor) (time : UInt64) (row : RightRow)
  | removed (key : RightKey)
  | bundleRemoved (uid : Int) (bundleName : String)
  | userStopped (uid : Int)
  | served (caller : Caller) (now : UInt64) (name : Option String) (dev : UsbDev) (call : Client.DeviceCall)
  | cancelled (dev : UsbDev) (call : Client.DeviceCall)
  | opened (caller : Caller) (now : UInt64) (name : Option String) (portId : Int)
  | dumped (tokenId : UInt32) (portId : Int)
  | used (caller : Caller) (portId : Int)
  | accessoryOpened (caller : Caller) (now : UInt64) (name : Option String) (fd : Int)

/-- What reached HDI for a client, and where. -/
def Entry.call? : Entry → Option (UsbDev × Client.DeviceCall)
  | .served _ _ _ dev call => some (dev, call)
  | .cancelled dev call => some (dev, call)
  | _ => none

/-- The token that the entry makes the owner of the port. -/
def Entry.opener? (portId : Int) : Entry → Option UInt32
  | .opened caller _ _ p => if p = portId then some caller.tokenId else none
  | .dumped tokenId p => if p = portId then some tokenId else none
  | _ => none

/-- The entry is a grant of the row, by a system application with the permission. -/
def Entry.Grants : Entry → RightRow → Prop
  | .granted grantor time row, r =>
    r = row ∧ checkSysApiPermission grantor.permissions = .ok ∧ r.requestTime = putLong time ∧
      r.validPeriod = putLong usbRightValidPeriodSet
  | _, _ => False

/-- The entry takes this row. -/
def Entry.Revokes : Entry → RightRow → Prop
  | .removed key, r => r.hasKey key
  | .bundleRemoved uid bundleName, r => r.uid = uid ∧ r.bundleName = bundleName
  | .userStopped uid, r => r.uid = uid
  | _, _ => False

/-! ## The machine -/

/-- The whole service with its log, the newest entry first. -/
structure Mediation (ρ : Type) where
  clients : Clients ρ
  log : List Entry

/-- `accessory` is anything that the events do to the accessory manager. After `restart` only the table of the rights
is left. -/
inductive Action (ρ : Type)
  | grant (env : GrantEnv) (grantor : Grantor) (g : Grant)
  | remove (env : RightEnv) (caller : Caller) (x : Removal)
  | hasRight (env : RightEnv) (caller : Caller) (deviceName : String)
  | hasSerialRight (env : RightEnv) (caller : Caller) (portId : Int)
  | hasAccessoryRight (env : RightEnv) (caller : Caller) (access : USBAccessory)
  | addDevice (env : Env) (dev : UsbDev)
  | delDevice (env : Env) (rightEnv : RightEnv) (caller : Caller) (dev : UsbDev)
  | event (env : RightEnv) (e : RightEvent)
  | initUsbRight (env : RightEnv)
  | restart (usbRightManager : Bool)
  | operate (env : OperationEnv) (caller : Caller) (dev : UsbDev) (op : Operation ρ)
  | remoteDied (hdi : Client.DeviceHdi) (cb : ρ)
  | ports (op : PortOp)
  | serialOpen (env : RightEnv) (hdi : Int) (added : Bool) (caller : Caller) (portId : Int) (remote : ρ)
  | serialClose (hdi : Int) (caller : Caller) (portId : Int)
  | serialUse (hdi : Int) (caller : Caller) (portId : Int) (use : SerialUse)
  | serialDied (env : RightEnv) (selfTokenId : UInt32) (remote : ρ)
  | accessory (m : Option AccessoryManager)
  | openAccessory (env : RightEnv) (hdi : AccessoryHdi) (caller : Caller) (access : USBAccessory)
  | closeAccessory (hdi : AccessoryHdi)

/-- What `InitUsbRight` does once the store is open. -/
def initUsbRight (env : RightEnv) (s : ServiceState) : ServiceState :=
  if !s.usbRightManager then s
  else s.setRights (cleanUpRightExpired env (s.deviceVidPidMap.entries.map Prod.snd) s.rights).2

variable {ρ : Type}

/-- The ghosts stay. -/
def Clients.restart (usbRightManager : Bool) (c : Clients ρ) : Clients ρ :=
  { c with
    service := ⟨HostState.init, StdMap.empty, StdMap.empty, usbRightManager, none, none, c.service.rights⟩
    host := { Client.ClientState.empty with hdiCalls := c.host.hdiCalls }
    serialRecipients := []
    accFd := 0 }

section

variable [DecidableEq ρ]

def Action.run : Action ρ → Clients ρ → Clients ρ
  | .grant env grantor g, c => c.setService (g.run env grantor c.service).2
  | .remove env caller x, c => c.setService (x.run env caller c.service).2
  | .hasRight env caller deviceName, c => c.setService (Service.hasRight env caller deviceName c.service).2
  | .hasSerialRight env caller portId, c => c.setService (Service.hasSerialRight env caller portId c.service).2.2
  | .hasAccessoryRight env caller access, c => c.setService (Service.hasAccessoryRight env caller access c.service).2
  | .addDevice env dev, c => c.setService (Service.addDevice env dev c.service).2
  | .delDevice env rightEnv caller dev, c => c.setService (Service.delDevice env rightEnv caller dev c.service).2
  | .event env e, c => c.setService (c.service.setRights (onReceiveEvent env e c.service.rights).2)
  | .initUsbRight env, c => c.setService (Service.initUsbRight env c.service)
  | .restart usbRightManager, c => c.restart usbRightManager
  | .operate env caller dev op, c => (op.run env caller dev c).2
  | .remoteDied hdi cb, c => { c with host := Client.remoteDied hdi cb c.host }
  | .ports op, c => c.setService (op.step c.service)
  | .serialOpen env hdi added caller portId remote, c =>
    c.setSerial (Service.serialOpen env hdi added caller portId remote c.serial).2
  | .serialClose hdi caller portId, c => c.setSerial (Service.serialClose hdi caller portId c.serial).2
  | .serialUse hdi caller portId use, c => c.setService (use.run hdi caller portId c.service).2
  | .serialDied env selfTokenId remote, c => c.setSerial (Service.remoteDied env (selfCaller selfTokenId) remote c.serial)
  | .accessory m, c => c.setService { c.service with usbAccessoryManager := m }
  | .openAccessory env hdi caller access, c => (Service.openAccessory env hdi caller access c).2
  | .closeAccessory hdi, c => (Service.closeAccessory hdi c).2

/-- The calls that an action made. -/
def newCalls (c c' : Clients ρ) : List (UsbDev × Client.DeviceCall) := c'.host.hdiCalls.drop c.host.hdiCalls.length

/-- The clean-up of the users that are gone does not name them. -/
def eventEntries : RightEvent → List Entry
  | .packageRemoved userId bundleName => [.bundleRemoved userId bundleName]
  | .userStopped code => [.userStopped code]
  | .userRemoved => []

/-- The name of the accessory in the rights table. -/
def accessoryName? (caller : Caller) (access : USBAccessory) (s : ServiceState) : Option String :=
  s.usbAccessoryManager.bind fun m => (getCallingInfo caller).bind fun info =>
    (getAccessorySerialNumber m access info.bundleName).toOption

/-- The newest first. -/
def Action.entries (a : Action ρ) (c : Clients ρ) : List Entry :=
  match a with
  | .grant env grantor g =>
    if (g.run env grantor c.service).1 = .ret .ok then
      ((g.row? env grantor c.service).map (Entry.granted grantor env.now)).toList
    else []
  | .remove env caller x => ((x.removed? env caller c.service).map Entry.removed).toList
  | .event env e => if (onReceiveEvent env e c.service.rights).1 = .ok then eventEntries e else []
  | .operate env caller _ _ =>
    ((newCalls c (a.run c)).map fun (dev, call) =>
      .served caller env.rightEnv.now (c.service.deviceVidPidMap.find? dev.name) dev call).reverse
  | .remoteDied _ _ => ((newCalls c (a.run c)).map fun (dev, call) => .cancelled dev call).reverse
  | .ports op => (op.opened c.service).map fun (portId, tokenId) => .dumped tokenId portId
  | .serialOpen env hdi added caller portId remote =>
    if (Service.serialOpen env hdi added caller portId remote c.serial).1 = .ok then
      [.opened caller env.now ((c.service.serialVidPidMap.find? portId).map Prod.snd) portId]
    else []
  | .serialUse hdi caller portId use => if (use.run hdi caller portId c.service).1 = .ok then [.used caller portId] else []
  | .openAccessory env hdi caller access =>
    match (Service.openAccessory env hdi caller access c).1 with
    | .ok fd => [.accessoryOpened caller env.now (accessoryName? caller access c.service) fd]
    | .error _ => []
  | _ => []

def Action.step (a : Action ρ) (m : Mediation ρ) : Mediation ρ := ⟨a.run m.clients, a.entries m.clients ++ m.log⟩

end

/-- The table is empty, no port is open, and nothing has been asked of HDI. -/
def Mediation.started (m : Mediation ρ) : Prop :=
  m.clients.service.rights.rows = [] ∧ (∀ p, owner? m.clients.service p = none) ∧ m.clients.host = .empty ∧ m.log = []

/-! ## Who may do what -/

/-- The caller has a right under this token, by what the log says. -/
inductive Holder (log : List Entry) (caller : Caller) (now : UInt64) (name tokenId : String) : Prop
  | console (bundleName : String) (h : caller.hapTokenInfo = some (bundleName, usbRightUseridConsole))
  | granted (bundleName : String) (userId : Int) (hinfo : caller.hapTokenInfo = some (bundleName, userId))
      (newer older : List Entry) (grantor : Grantor) (time : UInt64) (row : RightRow)
      (hlog : log = newer ++ .granted grantor time row :: older)
      (hpermission : checkSysApiPermission grantor.permissions = .ok)
      (hrow : row.uid = userId ∧ row.deviceName = name ∧ row.bundleName = bundleName ∧ row.tokenId = tokenId)
      (hfresh : time ≤ now ∧ now.toNat - time.toNat < usbRightValidPeriodSet.toNat)
      (hkept : ∀ e ∈ newer, ¬ e.Revokes row)

/-- Who may use a device or a port of this name. -/
inductive Authorized (log : List Entry) (caller : Caller) (now : UInt64) (name : String) : Prop
  | system (h : caller.isSystemAppOrSa = true)
  | own (h : Holder log caller now name (tokenIdText caller.tokenId))
  | default (h : Holder log caller now name usbDefaultToken)

/-- The token of the latest entry that opened the port. -/
def lastOpener? (portId : Int) (log : List Entry) : Option UInt32 := log.findSome? (Entry.opener? portId)

/-- The reason that an entry has in what came before it. -/
def Entry.Justified (log : List Entry) : Entry → Prop
  | .served caller now name _ call => unchecked call = true ∨ ∃ n, name = some n ∧ Authorized log caller now n
  | .cancelled dev call => ∃ caller now name info ashmem,
    .served caller now name dev (.usbSubmitTransfer info ashmem) ∈ log ∧
      (call = .usbCancelTransfer info.endpoint ∨ call = .closeDevice)
  | .opened caller now name _ => ∃ n, name = some n ∧ Authorized log caller now n
  | .used caller portId => lastOpener? portId log = some caller.tokenId
  | .accessoryOpened caller now name _ => ∃ n, name = some n ∧ Holder log caller now n (tokenIdText caller.tokenId)
  | _ => True

/-! ## What a step logs -/

variable [DecidableEq ρ]

/-- What an action may log, and when. -/
inductive Enters (c : Clients ρ) : Action ρ → Entry → Prop
  | granted (env : GrantEnv) (grantor : Grantor) (g : Grant) (row : RightRow) :
      Enters c (.grant env grantor g) (.granted grantor env.now row)
  | removed (env : RightEnv) (caller : Caller) (x : Removal) (key : RightKey)
      (h : x.removed? env caller c.service = some key) : Enters c (.remove env caller x) (.removed key)
  | bundleRemoved (env : RightEnv) (uid : Int) (bundleName : String)
      (h : (onReceiveEvent env (.packageRemoved uid bundleName) c.service.rights).1 = .ok) :
      Enters c (.event env (.packageRemoved uid bundleName)) (.bundleRemoved uid bundleName)
  | userStopped (env : RightEnv) (uid : Int) (h : (onReceiveEvent env (.userStopped uid) c.service.rights).1 = .ok) :
      Enters c (.event env (.userStopped uid)) (.userStopped uid)
  | served (env : OperationEnv) (caller : Caller) (dev dev' : UsbDev) (op : Operation ρ) (call : Client.DeviceCall)
      (h : (dev', call) ∈ newCalls c (op.run env caller dev c).2) :
      Enters c (.operate env caller dev op)
        (.served caller env.rightEnv.now (c.service.deviceVidPidMap.find? dev'.name) dev' call)
  | cancelled (hdi : Client.DeviceHdi) (cb : ρ) (dev : UsbDev) (call : Client.DeviceCall)
      (h : (dev, call) ∈ newCalls c { c with host := Client.remoteDied hdi cb c.host }) :
      Enters c (.remoteDied hdi cb) (.cancelled dev call)
  | dumped (op : PortOp) (tokenId : UInt32) (portId : Int) (h : (portId, tokenId) ∈ op.opened c.service) :
      Enters c (.ports op) (.dumped tokenId portId)
  | opened (env : RightEnv) (hdi : Int) (added : Bool) (caller : Caller) (portId : Int) (remote : ρ)
      (h : (Service.serialOpen env hdi added caller portId remote c.serial).1 = .ok) :
      Enters c (.serialOpen env hdi added caller portId remote)
        (.opened caller env.now ((c.service.serialVidPidMap.find? portId).map Prod.snd) portId)
  | used (hdi : Int) (caller : Caller) (portId : Int) (use : SerialUse)
      (h : (use.run hdi caller portId c.service).1 = .ok) :
      Enters c (.serialUse hdi caller portId use) (.used caller portId)
  | accessoryOpened (env : RightEnv) (hdi : AccessoryHdi) (caller : Caller) (access : USBAccessory) (fd : Int)
      (h : (Service.openAccessory env hdi caller access c).1 = .ok fd) :
      Enters c (.openAccessory env hdi caller access)
        (.accessoryOpened caller env.now (accessoryName? caller access c.service) fd)

theorem Action.enters (a : Action ρ) (c : Clients ρ) {e : Entry} (he : e ∈ a.entries c) : Enters c a e := by
  cases a with
  | grant env grantor g =>
    simp only [Action.entries] at he
    split at he
    · obtain ⟨row, -, rfl⟩ := Option.map_eq_some_iff.mp (Option.mem_toList.mp he)
      exact .granted env grantor g row
    · exact absurd he List.not_mem_nil
  | remove env caller x =>
    obtain ⟨key, hkey, rfl⟩ := Option.map_eq_some_iff.mp (Option.mem_toList.mp he)
    exact .removed env caller x key hkey
  | event env event =>
    simp only [Action.entries] at he
    split at he
    · rename_i hok
      cases event with
      | packageRemoved userId bundleName =>
        rw [List.mem_singleton.mp he]
        exact .bundleRemoved env userId bundleName hok
      | userStopped code =>
        rw [List.mem_singleton.mp he]
        exact .userStopped env code hok
      | userRemoved => exact absurd he List.not_mem_nil
    · exact absurd he List.not_mem_nil
  | operate env caller dev op =>
    obtain ⟨⟨dev', call⟩, hcall, rfl⟩ := List.mem_map.mp (List.mem_reverse.mp he)
    exact .served env caller dev dev' op call hcall
  | remoteDied hdi cb =>
    obtain ⟨⟨dev, call⟩, hcall, rfl⟩ := List.mem_map.mp (List.mem_reverse.mp he)
    exact .cancelled hdi cb dev call hcall
  | ports op =>
    obtain ⟨⟨portId, tokenId⟩, hopened, rfl⟩ := List.mem_map.mp he
    exact .dumped op tokenId portId hopened
  | serialOpen env hdi added caller portId remote =>
    simp only [Action.entries] at he
    split at he
    · rename_i hok
      rw [List.mem_singleton.mp he]
      exact .opened env hdi added caller portId remote hok
    · exact absurd he List.not_mem_nil
  | serialUse hdi caller portId use =>
    simp only [Action.entries] at he
    split at he
    · rename_i hok
      rw [List.mem_singleton.mp he]
      exact .used hdi caller portId use hok
    · exact absurd he List.not_mem_nil
  | openAccessory env hdi caller access =>
    simp only [Action.entries] at he
    split at he
    · rename_i fd hok
      rw [List.mem_singleton.mp he]
      exact .accessoryOpened env hdi caller access fd hok
    · exact absurd he List.not_mem_nil
  | _ => exact absurd he List.not_mem_nil

end UsbManager.Service
