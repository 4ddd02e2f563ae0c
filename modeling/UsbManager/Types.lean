import Mathlib.Algebra.Group.Int.Defs
import Mathlib.Algebra.Group.Nat.Defs
import Mathlib.Data.List.Basic

/-!
# The data model of the USB service

`usb_device.h`, `usb_config.h`, `usb_interface.h`, `usb_endpoint.h` and `usb_errors.h`.
An `int32_t` field is an `Int`, unsigned fields keep their width. Nothing here computes
with a signed field, so no overflow is lost.
-/

namespace UsbManager

/-! ## Texts -/

/-- The bytes of a text that the source spells out. -/
def ascii (s : String) : List UInt8 := s.toList.map fun c => c.toNat.toUInt8

/-! ## Return codes -/

/-- The codes of `UsbErrCode` that the modelled functions return. -/
inductive UsbErrCode
  | interfaceInvalidValue
  | interfacePermissionDenied
  | interfaceTimedOut
  | serviceInvalidValue
  | servicePermissionDenied
  | servicePermissionDeniedSysapi
  | servicePermissionCheckHdc
  | serviceInnerErr
  | serviceExecutePolicyFailed
  | servicePrepareEdmSaFailed
  | serviceGetEdmServiceFailed
  | serviceEdmDeviceSizeExceed
  | serviceEdmSendRequestFailed
  | serviceGetSystemAbilityManagerFailed
  | serviceFunctionNotSupport
  | servicePermissionDeniedSysapiFailed
  | serviceGetTokenInfoFailed
  | serviceAccessoryNotMatch
  | serviceDatabaseOperationFailed
  | serialPortNotOpen
  | serialPortRepeatOpen
  | serialIoException
  | serialDeviceNotOpen
  | serialOtherError
  | serialPortNotExist
  deriving DecidableEq, Repr

/-- A return code: `UEC_OK`, a code of the service, or a non-zero code that HDI returned. -/
inductive Ret
  | ok
  | uec (e : UsbErrCode)
  | hdi (code : Int)
  deriving DecidableEq, Repr

/-! ## The descriptor tree -/

/-- The defaults are those of the constructors, here and below. -/
structure USBEndpoint where
  address : UInt32 := 0
  attributes : UInt32 := 0
  interval : Int := -1
  maxPacketSize : Int := -1
  interfaceId : UInt8 := 255
  deriving DecidableEq, Repr

structure UsbInterface where
  id : Int := 2147483647
  protocol : Int := 2147483647
  klass : Int := 2147483647
  subClass : Int := 2147483647
  alternateSetting : Int := 2147483647
  name : String := ""
  endpoints : List USBEndpoint := []
  iInterface : UInt8 := 255
  authorized : Bool := true
  deriving DecidableEq, Repr

structure USBConfig where
  id : Int := -1
  attributes : UInt32 := 0
  interfaces : List UsbInterface := []
  maxPower : Int := -1
  name : String := ""
  iConfiguration : UInt8 := 255
  deriving DecidableEq, Repr

/-! ## Devices -/

/-- A device that has just arrived is neither. -/
inductive AuthorizeStatus
  | disabled
  | enabled
  | newArrived
  deriving DecidableEq, Repr

/-- The address of a device, `HDI::Usb::V1_0::UsbDev`. -/
structure UsbDev where
  busNum : UInt8
  devAddr : UInt8
  deriving DecidableEq, Repr

/-- `std::to_string(busNum) + "-" + std::to_string(devAddr)`: the key of the device maps. -/
def UsbDev.name (dev : UsbDev) : String :=
  toString dev.busNum.toNat ++ "-" ++ toString dev.devAddr.toNat

theorem toDigits_injective (a b : Nat) (h : Nat.toDigits 10 a = Nat.toDigits 10 b) : a = b := by
  rw [← Nat.ofDigitChars_toDigits (b := 10) (n := a) (by decide) (by decide), h,
    Nat.ofDigitChars_toDigits (by decide) (by decide)]

theorem dash_notMem_toDigits (a : Nat) : '-' ∉ Nat.toDigits 10 a := fun h =>
  absurd (Nat.isDigit_of_mem_toDigits (by decide) (by decide) h) (by decide)

theorem UsbDev.name_toList (dev : UsbDev) :
    dev.name.toList = Nat.toDigits 10 dev.busNum.toNat ++ '-' :: Nat.toDigits 10 dev.devAddr.toNat := by
  simp [UsbDev.name, String.toList_append, Nat.toList_repr, ToString.toString]

theorem UsbDev.name_injective (dev dev' : UsbDev) (h : dev.name = dev'.name) : dev = dev' := by
  have hlist := congrArg String.toList h
  rw [name_toList, name_toList] at hlist
  obtain ⟨hbus, -, haddr⟩ := (List.append_cons_inj_of_notMem (dash_notMem_toDigits _) (dash_notMem_toDigits _)).mp hlist
  obtain ⟨bus, addr⟩ := dev
  obtain ⟨bus', addr'⟩ := dev'
  congr
  · exact UInt8.toNat_inj.mp (toDigits_injective _ _ hbus)
  · exact UInt8.toNat_inj.mp (toDigits_injective _ _ haddr)

/-- A device as it was described when it arrived, with its status. -/
structure UsbDevice where
  name : String := ""
  manufacturerName : String := ""
  productName : String := ""
  version : String := ""
  serial : String := ""
  authorizeStatus : AuthorizeStatus := .enabled
  devAddr : UInt8 := 255
  busNum : UInt8 := 255
  descConfigCount : UInt8 := 255
  bMaxPacketSize0 : UInt8 := 255
  bcdUSB : UInt16 := 65535
  bcdDevice : UInt16 := 65535
  iManufacturer : UInt8 := 255
  iProduct : UInt8 := 255
  iSerialNumber : UInt8 := 255
  vendorId : Int := -1
  productId : Int := -1
  baseClass : Int := -1
  subClass : Int := -1
  protocol : Int := -1
  configs : List USBConfig := []
  deriving DecidableEq, Repr

def UsbDevice.dev (d : UsbDevice) : UsbDev := ⟨d.busNum, d.devAddr⟩

def UsbDevice.withStatus (status : AuthorizeStatus) (d : UsbDevice) : UsbDevice :=
  { d with authorizeStatus := status }

def UsbDevice.withInterfaces (index : Nat) (interfaces : List UsbInterface) (d : UsbDevice) : UsbDevice :=
  { d with configs := d.configs.modify index fun c => { c with interfaces := interfaces } }

theorem UsbDevice.dev_withStatus (status : AuthorizeStatus) (d : UsbDevice) : (d.withStatus status).dev = d.dev := rfl

theorem UsbDevice.dev_withInterfaces (index : Nat) (interfaces : List UsbInterface) (d : UsbDevice) :
    (d.withInterfaces index interfaces).dev = d.dev := rfl

/-- Everything but the status and the configurations. -/
def UsbDevice.ident (d : UsbDevice) : UsbDevice := { d with authorizeStatus := .enabled, configs := [] }

/-- The vid-pid-serial string that names a device in the rights table. -/
def UsbDevice.uniqueName (d : UsbDevice) : String :=
  toString d.vendorId ++ "-" ++ toString d.productId ++ "-" ++ d.serial

/-- The classes that the service tells apart. -/
def baseClassAudio : Int := 0x01

def baseClassHub : Int := 0x09

def UsbDevice.isHub (d : UsbDevice) : Bool := d.baseClass = baseClassHub

/-- `IsAudioDevice`: some interface of some configuration is of the audio class. -/
def isAudioDevice (d : UsbDevice) : Bool :=
  d.configs.any fun config => config.interfaces.any fun intf => intf.klass = baseClassAudio

theorem ofInt_id (b : UInt8) : UInt8.ofInt (b.toNat : Int) = b := by
  have hb : b.toNat < 256 := b.toNat_lt
  have hmod : ((b.toNat : Int) % 2 ^ 8).toNat = b.toNat := by omega
  rw [UInt8.ofInt, hmod, UInt8.ofNat_toNat]

/-! ## Events of the gadget -/

/-- The codes of `UsbdDeviceAction` for the gadget, and any other code. -/
inductive UsbdDeviceAction
  | updevice
  | downdevice
  | accessoryup
  | accessorydown
  | accessorysend
  | other (status : Int)
  deriving DecidableEq, Repr

/-! ## Types of devices and interfaces -/

/-- What a policy names. -/
structure UsbDeviceType where
  baseClass : Int := 0
  subClass : Int := 0
  protocol : Int := 0
  isDeviceType : Bool := false
  deriving DecidableEq, Repr

structure UsbDeviceId where
  productId : Int
  vendorId : Int
  deriving DecidableEq, Repr

end UsbManager
