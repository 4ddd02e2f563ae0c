import UsbManager.Accessory.Manager
import UsbManager.Descriptor.Json
import UsbManager.Descriptor.Parcel
import UsbManager.Lib.Napi

/-!
# Devices in JavaScript

The conversions of `usb_info.cpp` and `napi_util.cpp` between devices and the objects that applications see. An
application gets its devices, interfaces and endpoints from `getDevices` and hands them back to open a device, to claim
an interface or to transfer data. All texts are valid UTF-8 here.
-/

namespace UsbManager.Js

open Accessory Json Napi

/-! ## From C to JavaScript -/

def uint32 (v : UInt32) : JsValue := .ofInt v.toNat

/-- A text goes out up to its first NUL. -/
def utf8 (s : String) : JsValue := .string (cStr s)

/-- `GetInterfaceId` returns an `int8_t`: ids from 128 on come out negative. -/
def getInterfaceId (e : USBEndpoint) : Int8 := e.interfaceId.toInt8

/-- The direction, the number and the type are worked out from the address and the attributes. -/
def ctoJSUsbEndpoint (e : USBEndpoint) : JsValue := .object [
  ("address", uint32 e.address),
  ("attributes", uint32 e.attributes),
  ("interval", .ofInt e.interval),
  ("maxPacketSize", .ofInt e.maxPacketSize),
  ("direction", uint32 (e.address &&& usbEndpointDirMask)),
  ("number", uint32 (e.address &&& usbEndpointNumberMask)),
  ("type", uint32 (e.attributes &&& usbEndpointXfertypeMask)),
  ("interfaceId", .ofInt (getInterfaceId e).toInt)]

def ctoJSUsbInterface (i : UsbInterface) : JsValue := .object [
  ("id", .ofInt i.id),
  ("protocol", .ofInt i.protocol),
  ("clazz", .ofInt i.klass),
  ("subClass", .ofInt i.subClass),
  ("alternateSetting", .ofInt i.alternateSetting),
  ("name", utf8 i.name),
  ("endpoints", .array (i.endpoints.map ctoJSUsbEndpoint))]

/-- `GetMaxPower` gives milliamperes, two for each unit of the descriptor. -/
def ctoJSUsbConfig (c : USBConfig) : JsValue := .object [
  ("id", .ofInt c.id),
  ("attributes", uint32 c.attributes),
  ("isRemoteWakeup", .boolean (c.attributes &&& usbCfgRemoteWakeup ≠ 0)),
  ("isSelfPowered", .boolean (c.attributes &&& usbCfgSelfPowered ≠ 0)),
  ("maxPower", .ofInt (c.maxPower * 2)),
  ("name", utf8 c.name),
  ("interfaces", .array (c.interfaces.map ctoJSUsbInterface))]

/-- An application sees fewer fields than the service has. -/
def ctoJSUsbDevice (d : UsbDevice) : JsValue := .object [
  ("name", utf8 d.name),
  ("serial", utf8 d.serial),
  ("manufacturerName", utf8 d.manufacturerName),
  ("productName", utf8 d.productName),
  ("version", utf8 d.version),
  ("vendorId", .ofInt d.vendorId),
  ("productId", .ofInt d.productId),
  ("clazz", .ofInt d.baseClass),
  ("subClass", .ofInt d.subClass),
  ("protocol", .ofInt d.protocol),
  ("devAddress", .ofInt d.devAddr.toNat),
  ("busNum", .ofInt d.busNum.toNat),
  ("configs", .array (d.configs.map ctoJSUsbConfig))]

def ctoJSUSBAccessory (access : USBAccessory) : JsValue := .object [
  ("manufacturer", utf8 access.manufacturer),
  ("product", utf8 access.product),
  ("description", utf8 access.description),
  ("version", utf8 access.version),
  ("serialNumber", utf8 access.serialNumber)]

/-! ## From JavaScript to C -/

/-- A property that is missing keeps the default, one of another type raises an exception. -/
def jsObjectTo {α : Type} (kind : String) (read? : JsValue → Option α) (object : JsValue) (fieldStr : String)
    (fieldRef : α) : NapiM α := do
  match ← getNamedProperty object fieldStr with
  | none => pure fieldRef
  | some field =>
    match read? field with
    | some value => pure value
    | none =>
      raise ("The type of " ++ fieldStr ++ " must be " ++ kind ++ ".")
      pure fieldRef

def jsObjectToInt (object : JsValue) (fieldStr : String) : NapiM Int :=
  jsObjectTo "number" JsValue.number? object fieldStr 0

def jsObjectToBool (object : JsValue) (fieldStr : String) : NapiM Bool :=
  jsObjectTo "boolean" JsValue.boolean? object fieldStr false

/-- The bytes of a text that are read, without the null. -/
def defaultDescriptionSize : Nat := 32

def defaultAccessoryDescriptionSize : Nat := 256

/-- `getValueStringUtf8` is what the call of that name leaves of a text in a buffer of so many bytes and a null. -/
def text? (getValueStringUtf8 : Nat → String → String) (bufLen : Nat) (v : JsValue) : Option String :=
  v.string?.map fun s => cStr (getValueStringUtf8 bufLen s)

section

variable (getValueStringUtf8 : Nat → String → String)

def jsObjectToString (object : JsValue) (fieldStr : String) (bufLen : Nat) : NapiM String :=
  jsObjectTo "string" (text? getValueStringUtf8 bufLen) object fieldStr ""

/-- The direction has to be one of the two that there are. The endpoint of a failure is the one before. -/
def parseEndpointObj (endpointObj : JsValue) : NapiM USBEndpoint := do
  let address ← jsObjectToInt endpointObj "address"
  let attributes ← jsObjectToInt endpointObj "attributes"
  let interval ← jsObjectToInt endpointObj "interval"
  let maxPacketSize ← jsObjectToInt endpointObj "maxPacketSize"
  let direction ← jsObjectToInt endpointObj "direction"
  if direction = 0x80 ∨ direction = 0 then
    let _number ← jsObjectToInt endpointObj "number"
    let _type ← jsObjectToInt endpointObj "type"
    let interfaceId ← jsObjectToInt endpointObj "interfaceId"
    pure ⟨UInt32.ofInt address, UInt32.ofInt attributes, interval, maxPacketSize, UInt8.ofInt interfaceId⟩
  else
    raise "The interface should have the endpoints property."
    pure {}

/-- The items of an array in a property that has to be there, `none` for `false`. -/
def parseObjs {α : Type} (owner field : String) (parse : JsValue → NapiM α) (object : JsValue) :
    NapiM (Option (List α)) := do
  match ← getNamedProperty object field with
  | none =>
    raise ("The " ++ owner ++ " should have the " ++ field ++ " property.")
    pure none
  | some objs =>
    match objs.array? with
    | none =>
      raise ("The type of " ++ field ++ " must be array.")
      pure none
    | some items => forElements parse items

/-- The endpoints have to be there. -/
def parseEndpointsObjs (interfaceObj : JsValue) : NapiM (Option (List USBEndpoint)) :=
  parseObjs "interface" "endpoints" parseEndpointObj interfaceObj

/-- The constructor does not take over the name. -/
def parseInterfaceObj (interfaceObj : JsValue) : NapiM UsbInterface := do
  let id ← jsObjectToInt interfaceObj "id"
  let protocol ← jsObjectToInt interfaceObj "protocol"
  let clzz ← jsObjectToInt interfaceObj "clazz"
  let subClass ← jsObjectToInt interfaceObj "subClass"
  let alternateSetting ← jsObjectToInt interfaceObj "alternateSetting"
  let _name ← jsObjectToString getValueStringUtf8 interfaceObj "name" defaultDescriptionSize
  let ret ← parseEndpointsObjs interfaceObj
  pure (ret.elim {} fun eps =>
    { id := id, protocol := protocol, klass := clzz, subClass := subClass, alternateSetting := alternateSetting,
      endpoints := eps })

def parseInterfacesObjs (configObj : JsValue) : NapiM (Option (List UsbInterface)) :=
  parseObjs "config" "interfaces" (parseInterfaceObj getValueStringUtf8) configObj

/-- Configurations without their interfaces are empty ones. -/
def parseConfigObj (configObj : JsValue) : NapiM USBConfig := do
  let id ← jsObjectToInt configObj "id"
  let attributes ← jsObjectToInt configObj "attributes"
  let maxPower ← jsObjectToInt configObj "maxPower"
  let name ← jsObjectToString getValueStringUtf8 configObj "name" defaultDescriptionSize
  let _isRemoteWakeup ← jsObjectToBool configObj "isRemoteWakeup"
  let _isSelfPowered ← jsObjectToBool configObj "isSelfPowered"
  let ret ← parseInterfacesObjs getValueStringUtf8 configObj
  pure (ret.elim {} fun interfaces =>
    { id := id, attributes := UInt32.ofInt attributes, name := name, maxPower := maxPower, interfaces := interfaces })

/-- Any object will do, and one that is not an array has no configurations. -/
def parseConfigsObjs (deviceObj : JsValue) : NapiM (List USBConfig) := do
  match ← getNamedProperty deviceObj "configs" with
  | none =>
    raise "The device should have the configs property."
    pure []
  | some configsObj =>
    if configsObj.isObject then (configsObj.array?.getD []).mapM (parseConfigObj getValueStringUtf8)
    else
      raise "The type of configs must be object."
      pure []

/-- The serial number is read and dropped. -/
def parseDeviceObj (deviceObj : JsValue) : NapiM UsbDevice := do
  let name ← jsObjectToString getValueStringUtf8 deviceObj "name" defaultDescriptionSize
  let manufacturerName ← jsObjectToString getValueStringUtf8 deviceObj "manufacturerName" defaultDescriptionSize
  let productName ← jsObjectToString getValueStringUtf8 deviceObj "productName" defaultDescriptionSize
  let version ← jsObjectToString getValueStringUtf8 deviceObj "version" defaultDescriptionSize
  let _serial ← jsObjectToString getValueStringUtf8 deviceObj "serial" defaultDescriptionSize
  let devAddr ← jsObjectToInt deviceObj "devAddress"
  let busNum ← jsObjectToInt deviceObj "busNum"
  let vendorId ← jsObjectToInt deviceObj "vendorId"
  let productId ← jsObjectToInt deviceObj "productId"
  let clazz ← jsObjectToInt deviceObj "clazz"
  let subClass ← jsObjectToInt deviceObj "subClass"
  let protocol ← jsObjectToInt deviceObj "protocol"
  let configs ← parseConfigsObjs getValueStringUtf8 deviceObj
  pure { name := name, manufacturerName := manufacturerName, productName := productName, version := version,
         devAddr := UInt8.ofInt devAddr, busNum := UInt8.ofInt busNum, vendorId := vendorId, productId := productId,
         baseClass := clazz, subClass := subClass, protocol := protocol, configs := configs }

/-- Nothing has to be there. -/
def parseAccessoryObj (accessoryObj : JsValue) : NapiM USBAccessory := do
  let manufacturer ← jsObjectToString getValueStringUtf8 accessoryObj "manufacturer" defaultAccessoryDescriptionSize
  let product ← jsObjectToString getValueStringUtf8 accessoryObj "product" defaultAccessoryDescriptionSize
  let description ← jsObjectToString getValueStringUtf8 accessoryObj "description" defaultAccessoryDescriptionSize
  let version ← jsObjectToString getValueStringUtf8 accessoryObj "version" defaultAccessoryDescriptionSize
  let serialNumber ← jsObjectToString getValueStringUtf8 accessoryObj "serialNumber" defaultAccessoryDescriptionSize
  pure ⟨manufacturer, product, description, version, serialNumber⟩

end

end UsbManager.Js
