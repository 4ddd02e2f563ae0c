import UsbManager.Lib.StdMap
import UsbManager.Types

/-!
# The serial manager

`serial_manager.cpp`: who has opened which serial port. Security reports are left out.
-/

namespace UsbManager.Serial

/-- A port with the device behind it. -/
structure SerialPort where
  portId : Int
  busNum : UInt8
  devAddr : UInt8
  vid : Int
  pid : Int
  serialNum : String
  deriving DecidableEq, Repr

/-- `serial` says that the HDI interface was found when the manager was built. Without it no port
can have been opened. -/
structure SerialManager where
  serial : Bool
  serialPortMap : StdMap Int SerialPort
  portTokenMap : StdMap Int UInt32
  portsHasBeenRead : List Int
  portsHasBeenWritten : List Int
  unopened : serial = false → portTokenMap = StdMap.empty

/-- The codes of the driver that have an error code of their own. -/
def errCodeIoexception : Int := -1

def errCodeDevicenotopen : Int := -6

def errCodeTimeout : Int := -7

def errCodeErrorOverflow : Int := -8

/-- Any other code is `serialOtherError`. -/
def errorCodeWrap (errorCode : Int) : UsbErrCode :=
  if errorCode = errCodeIoexception || errorCode = errCodeErrorOverflow then .serialIoException
  else if errorCode = errCodeDevicenotopen then .serialDeviceNotOpen
  else if errorCode = errCodeTimeout then .interfaceTimedOut
  else .serialOtherError

def isPortIdExist (m : SerialManager) (portId : Int) : Bool := (m.serialPortMap.find? portId).isSome

def checkTokenIdValidity (m : SerialManager) (callingTokenId : UInt32) (portId : Int) : Bool :=
  m.portTokenMap.find? portId = some callingTokenId

/-- Asked before everything but an open. -/
def checkPortAndTokenId (m : SerialManager) (callingTokenId : UInt32) (portId : Int) : Ret :=
  if !m.serial then .uec .serviceInvalidValue
  else if !checkTokenIdValidity m callingTokenId portId then .uec .serialPortNotOpen
  else .ok

theorem erase_empty (portId : Int) : (StdMap.empty : StdMap Int UInt32).erase portId = StdMap.empty := rfl

/-- The port is free again, and its first read and write are to be reported again. -/
def SerialManager.release (m : SerialManager) (portId : Int) : SerialManager :=
  { m with
    portsHasBeenRead := m.portsHasBeenRead.filter (· ≠ portId)
    portsHasBeenWritten := m.portsHasBeenWritten.filter (· ≠ portId)
    portTokenMap := m.portTokenMap.erase portId
    unopened := fun h => by rw [m.unopened h, erase_empty] }

/-- `hdi` is the result of the call of HDI. -/
def serialClose (hdi : Int) (callingTokenId : UInt32) (portId : Int) (m : SerialManager) : Ret × SerialManager :=
  match checkPortAndTokenId m callingTokenId portId with
  | .ok => if hdi ≠ 0 then (.uec (errorCodeWrap hdi), m) else (.ok, m.release portId)
  | ret => (ret, m)

theorem serialClose_serialPortMap (hdi : Int) (callingTokenId : UInt32) (portId : Int) (m : SerialManager) :
    (serialClose hdi callingTokenId portId m).2.serialPortMap = m.serialPortMap := by
  unfold serialClose
  split
  · split <;> rfl
  · rfl

theorem serialClose_disowns (callingTokenId : UInt32) (portId : Int) (m : SerialManager) :
    (serialClose 0 callingTokenId portId m).2.portTokenMap.find? portId ≠ some callingTokenId := by
  unfold serialClose checkPortAndTokenId checkTokenIdValidity
  rcases hs : m.serial with - | -
  · simp [m.unopened hs]
  by_cases ht : m.portTokenMap.find? portId = some callingTokenId
  · simp [ht, SerialManager.release, StdMap.find?_erase]
  · simp [ht]

end UsbManager.Serial
