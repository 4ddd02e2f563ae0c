import UsbManager.Accessory.Manager
import UsbManager.Host.State
import UsbManager.Rights.Manager
import UsbManager.Serial.Manager

/-!
# Rights in the service

`usb_service.cpp`: the checks and revocations that applications call, for devices, serial ports and
accessories. A right may also sit under the default token that older versions wrote. `CheckDbAbility`
asks for a singleton that is never null, so it is left out.
-/

namespace UsbManager.Service

open Rights Serial Accessory

/-! ## The service and its callers -/

structure ServiceState where
  host : Host.HostState
  deviceVidPidMap : StdMap String String
  serialVidPidMap : StdMap Int (String × String)
  usbRightManager : Bool
  usbSerialManager : Option SerialManager
  usbAccessoryManager : Option AccessoryManager
  rights : RightDb

/-- `hapTokenInfo` is the bundle name and the user of the calling token. -/
structure Caller where
  tokenId : UInt32
  isSystemAppOrSa : Bool
  hapTokenInfo : Option (String × Int)

/-- Who calls, as the token service tells it. -/
structure CallingInfo where
  bundleName : String
  tokenId : String
  userId : Int

def getCallingInfo (caller : Caller) : Option CallingInfo :=
  caller.hapTokenInfo.map fun info => ⟨info.1, toString caller.tokenId.toNat, info.2⟩

/-- The token of the rows that are for all tokens of an application. -/
def usbDefaultToken : String := "UsbServiceTokenId"

/-- The key of the caller's rows for a device. -/
def CallingInfo.key (info : CallingInfo) (deviceName tokenId : String) : RightKey :=
  ⟨info.userId, deviceName, info.bundleName, tokenId⟩

/-- The caller's own row, or the row of the default token. -/
def hasEitherRight (env : RightEnv) (deviceName : String) (info : CallingInfo) (db : RightDb) : Bool × RightDb :=
  match Rights.hasRight env (info.key deviceName info.tokenId) db with
  | (true, db) => (true, db)
  | (false, db) => Rights.hasRight env (info.key deviceName usbDefaultToken) db

/-- The row of the default token is tried only if the first removal fails. -/
def removeEitherRight (env : RightEnv) (deviceName : String) (info : CallingInfo) (db : RightDb) : Bool × RightDb :=
  match removeDeviceRight env (info.key deviceName info.tokenId) db with
  | (true, db) => (true, db)
  | (false, db) => removeDeviceRight env (info.key deviceName usbDefaultToken) db

def ServiceState.setRights (s : ServiceState) (db : RightDb) : ServiceState := { s with rights := db }

/-! ## Devices -/

def hasRight (env : RightEnv) (caller : Caller) (deviceName : String) (s : ServiceState) : Bool × ServiceState :=
  if !s.usbRightManager then (false, s)
  else
    match s.deviceVidPidMap.find? deviceName with
    | none => (false, s)
    | some deviceVidPidSerialNum =>
      if caller.isSystemAppOrSa then (true, s)
      else
        match getCallingInfo caller with
        | none => (false, s)
        | some info =>
          let (has, db) := hasEitherRight env deviceVidPidSerialNum info s.rights
          (has, s.setRights db)

/-- Without calling information the source returns `false`, which is `UEC_OK`. -/
def removeRight (env : RightEnv) (caller : Caller) (deviceName : String) (s : ServiceState) : Ret × ServiceState :=
  if !s.usbRightManager then (.uec .serviceInvalidValue, s)
  else
    match s.deviceVidPidMap.find? deviceName with
    | none => (.uec .interfaceInvalidValue, s)
    | some deviceVidPidSerialNum =>
      if caller.isSystemAppOrSa then (.ok, s)
      else
        match getCallingInfo caller with
        | none => (.ok, s)
        | some info =>
          match removeEitherRight env deviceVidPidSerialNum info s.rights with
          | (true, db) => (.ok, s.setRights db)
          | (false, db) => (.uec .serviceInnerErr, s.setRights db)

/-! ## Serial ports -/

/-- The manager has to know the port. -/
def validateUsbSerialManagerAndPort (portId : Int) (s : ServiceState) : Ret :=
  match s.usbSerialManager with
  | none => .uec .serviceInvalidValue
  | some m => if isPortIdExist m portId then .ok else .uec .serialPortNotExist

/-- The result of the close is not looked at. `hdi` is the answer of HDI to it. -/
def closeSerial (hdi : Int) (caller : Caller) (portId : Int) (s : ServiceState) : ServiceState :=
  { s with usbSerialManager := s.usbSerialManager.map fun m => (serialClose hdi caller.tokenId portId m).2 }

/-- The port is closed once the rights are gone. -/
def cancelSerialRight (env : RightEnv) (hdi : Int) (caller : Caller) (portId : Int) (s : ServiceState) :
    Ret × ServiceState :=
  if !s.usbRightManager then (.uec .serviceInvalidValue, s)
  else
    match validateUsbSerialManagerAndPort portId s with
    | .ok =>
      match s.serialVidPidMap.find? portId with
      | none => (.uec .interfaceInvalidValue, s)
      | some (_, deviceVidPidSerialNum) =>
        if caller.isSystemAppOrSa then (.ok, s)
        else
          match getCallingInfo caller with
          | none => (.uec .serviceInvalidValue, s)
          | some info =>
            match removeEitherRight env deviceVidPidSerialNum info s.rights with
            | (false, db) => (.uec .servicePermissionDenied, s.setRights db)
            | (true, db) => (.ok, closeSerial hdi caller portId (s.setRights db))
    | ret => (ret, s)

/-- The second component is `hasRight`. -/
def hasSerialRight (env : RightEnv) (caller : Caller) (portId : Int) (s : ServiceState) : Ret × Bool × ServiceState :=
  if !s.usbRightManager then (.uec .serviceInvalidValue, false, s)
  else
    match validateUsbSerialManagerAndPort portId s with
    | .ok =>
      match s.serialVidPidMap.find? portId with
      | none => (.uec .interfaceInvalidValue, false, s)
      | some (_, deviceVidPidSerialNum) =>
        if caller.isSystemAppOrSa then (.ok, true, s)
        else
          match getCallingInfo caller with
          | none => (.uec .serviceInvalidValue, false, s)
          | some info =>
            let (has, db) := hasEitherRight env deviceVidPidSerialNum info s.rights
            (.ok, has, s.setRights db)
    | ret => (ret, false, s)

/-! ## Accessories -/

/-- An accessory has no row under the default token. -/
def hasAccessoryRight (env : RightEnv) (caller : Caller) (access : USBAccessory) (s : ServiceState) :
    Except Ret Bool × ServiceState :=
  if !s.usbRightManager then (.error (.uec .serviceInvalidValue), s)
  else
    match s.usbAccessoryManager with
    | none => (.error (.uec .serviceInvalidValue), s)
    | some m =>
      match getCallingInfo caller with
      | none => (.error (.uec .serviceGetTokenInfoFailed), s)
      | some info =>
        match getAccessorySerialNumber m access info.bundleName with
        | .error ret => (.error ret, s)
        | .ok serialNum =>
          let (has, db) := Rights.hasRight env (info.key serialNum info.tokenId) s.rights
          (.ok has, s.setRights db)

/-- A row that cannot be deleted is no error. -/
def cancelAccessoryRight (env : RightEnv) (caller : Caller) (access : USBAccessory) (s : ServiceState) :
    Ret × ServiceState :=
  if !s.usbRightManager then (.uec .serviceInvalidValue, s)
  else
    match s.usbAccessoryManager with
    | none => (.uec .serviceInvalidValue, s)
    | some m =>
      match getCallingInfo caller with
      | none => (.uec .serviceGetTokenInfoFailed, s)
      | some info =>
        match getAccessorySerialNumber m access info.bundleName with
        | .error ret => (ret, s)
        | .ok serialNum =>
          match cancelDeviceRight env (info.key serialNum info.tokenId) s.rights with
          | (.ok, db) => (.ok, s.setRights db)
          | (_, db) => (.uec .serviceDatabaseOperationFailed, s.setRights db)

end UsbManager.Service
