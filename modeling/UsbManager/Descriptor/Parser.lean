import UsbManager.Types

/-!
# The descriptor parser

`usb_descriptor_parser.cpp` over the packed structs of `usbd_type.h`. A buffer is a list
of bytes, a cursor is a number below `2 ^ 32`, and a read outside the buffer is a fault,
so that "it never reads outside" is a statement about the model and not built into it.
-/

namespace UsbManager.Descriptor

/-- A read outside the buffer, and a loop that has not ended. -/
inductive Fault
  | outOfBounds
  | outOfFuel
  deriving DecidableEq, Repr

/-! ## The packed structs -/

structure UsbdDescriptorHeader where
  bLength : UInt8
  bDescriptorType : UInt8
  deriving DecidableEq, Repr

structure UsbdDeviceDescriptor where
  bLength : UInt8
  bDescriptorType : UInt8
  bcdUSB : UInt16
  bDeviceClass : UInt8
  bDeviceSubClass : UInt8
  bDeviceProtocol : UInt8
  bMaxPacketSize0 : UInt8
  idVendor : UInt16
  idProduct : UInt16
  bcdDevice : UInt16
  iManufacturer : UInt8
  iProduct : UInt8
  iSerialNumber : UInt8
  bNumConfigurations : UInt8
  deriving DecidableEq, Repr

structure UsbdConfigDescriptor where
  bLength : UInt8
  bDescriptorType : UInt8
  wTotalLength : UInt16
  bNumInterfaces : UInt8
  bConfigurationValue : UInt8
  iConfiguration : UInt8
  bmAttributes : UInt8
  bMaxPower : UInt8
  deriving DecidableEq, Repr

structure UsbdInterfaceDescriptor where
  bLength : UInt8
  bDescriptorType : UInt8
  bInterfaceNumber : UInt8
  bAlternateSetting : UInt8
  bNumEndpoints : UInt8
  bInterfaceClass : UInt8
  bInterfaceSubClass : UInt8
  bInterfaceProtocol : UInt8
  iInterface : UInt8
  deriving DecidableEq, Repr

structure UsbdEndpointDescriptor where
  bLength : UInt8
  bDescriptorType : UInt8
  bEndpointAddress : UInt8
  bmAttributes : UInt8
  wMaxPacketSize : UInt16
  bInterval : UInt8
  deriving DecidableEq, Repr

/-- Two bytes of a packed struct on a little-endian machine. -/
def u16 (lo hi : UInt8) : UInt16 := UInt16.ofNat (lo.toNat + 256 * hi.toNat)

/-- The sizes of the packed structures. -/
def headerSize : Nat := 2
def deviceDescriptorSize : Nat := 18
def configDescriptorSize : Nat := 9
def interfaceDescriptorSize : Nat := 9
def endpointDescriptorSize : Nat := 7

def descriptorTypeConfig : UInt8 := 2
def descriptorTypeInterface : UInt8 := 4
def descriptorTypeEndpoint : UInt8 := 5

/-- An endpoint of an audio device has two bytes more. -/
def normalEndpointDescriptor : UInt8 := 7
def audioEndpointDescriptor : UInt8 := 9

/-! ## Reads through `reinterpret_cast` -/

/-- The `size` bytes behind `buffer + cursor`. -/
def structAt (buffer : List UInt8) (cursor size : Nat) : Except Fault (List UInt8) :=
  if cursor + size ≤ buffer.length then .ok ((buffer.drop cursor).take size) else .error .outOfBounds

def UsbdDescriptorHeader.ofBytes (b : List UInt8) : UsbdDescriptorHeader where
  bLength := b.getD 0 0
  bDescriptorType := b.getD 1 0

def UsbdDeviceDescriptor.ofBytes (b : List UInt8) : UsbdDeviceDescriptor where
  bLength := b.getD 0 0
  bDescriptorType := b.getD 1 0
  bcdUSB := u16 (b.getD 2 0) (b.getD 3 0)
  bDeviceClass := b.getD 4 0
  bDeviceSubClass := b.getD 5 0
  bDeviceProtocol := b.getD 6 0
  bMaxPacketSize0 := b.getD 7 0
  idVendor := u16 (b.getD 8 0) (b.getD 9 0)
  idProduct := u16 (b.getD 10 0) (b.getD 11 0)
  bcdDevice := u16 (b.getD 12 0) (b.getD 13 0)
  iManufacturer := b.getD 14 0
  iProduct := b.getD 15 0
  iSerialNumber := b.getD 16 0
  bNumConfigurations := b.getD 17 0

def UsbdConfigDescriptor.ofBytes (b : List UInt8) : UsbdConfigDescriptor where
  bLength := b.getD 0 0
  bDescriptorType := b.getD 1 0
  wTotalLength := u16 (b.getD 2 0) (b.getD 3 0)
  bNumInterfaces := b.getD 4 0
  bConfigurationValue := b.getD 5 0
  iConfiguration := b.getD 6 0
  bmAttributes := b.getD 7 0
  bMaxPower := b.getD 8 0

def UsbdInterfaceDescriptor.ofBytes (b : List UInt8) : UsbdInterfaceDescriptor where
  bLength := b.getD 0 0
  bDescriptorType := b.getD 1 0
  bInterfaceNumber := b.getD 2 0
  bAlternateSetting := b.getD 3 0
  bNumEndpoints := b.getD 4 0
  bInterfaceClass := b.getD 5 0
  bInterfaceSubClass := b.getD 6 0
  bInterfaceProtocol := b.getD 7 0
  iInterface := b.getD 8 0

def UsbdEndpointDescriptor.ofBytes (b : List UInt8) : UsbdEndpointDescriptor where
  bLength := b.getD 0 0
  bDescriptorType := b.getD 1 0
  bEndpointAddress := b.getD 2 0
  bmAttributes := b.getD 3 0
  wMaxPacketSize := u16 (b.getD 4 0) (b.getD 5 0)
  bInterval := b.getD 6 0

def headerAt (buffer : List UInt8) (cursor : Nat) : Except Fault UsbdDescriptorHeader := do
  return .ofBytes (← structAt buffer cursor headerSize)

def deviceDescriptorAt (buffer : List UInt8) (cursor : Nat) : Except Fault UsbdDeviceDescriptor := do
  return .ofBytes (← structAt buffer cursor deviceDescriptorSize)

def configDescriptorAt (buffer : List UInt8) (cursor : Nat) : Except Fault UsbdConfigDescriptor := do
  return .ofBytes (← structAt buffer cursor configDescriptorSize)

def interfaceDescriptorAt (buffer : List UInt8) (cursor : Nat) : Except Fault UsbdInterfaceDescriptor := do
  return .ofBytes (← structAt buffer cursor interfaceDescriptorSize)

def endpointDescriptorAt (buffer : List UInt8) (cursor : Nat) : Except Fault UsbdEndpointDescriptor := do
  return .ofBytes (← structAt buffer cursor endpointDescriptorSize)

/-! ## The device descriptor -/

/-- The device keeps its fields if the buffer is refused. -/
def parseDeviceDescriptor (buffer : List UInt8) (dev : UsbDevice) : Except Fault (Ret × UsbDevice) := do
  let length := buffer.length % 2 ^ 32
  if length = 0 then return (.uec .serviceInvalidValue, dev)
  if length < deviceDescriptorSize then return (.uec .serviceInvalidValue, dev)
  let d ← deviceDescriptorAt buffer 0
  if d.bLength.toNat ≠ deviceDescriptorSize then return (.uec .serviceInvalidValue, dev)
  return (.ok, { dev with
    vendorId := d.idVendor.toNat
    productId := d.idProduct.toNat
    baseClass := d.bDeviceClass.toNat
    subClass := d.bDeviceSubClass.toNat
    protocol := d.bDeviceProtocol.toNat
    descConfigCount := d.bNumConfigurations
    bMaxPacketSize0 := d.bMaxPacketSize0
    bcdDevice := d.bcdDevice
    bcdUSB := d.bcdUSB
    iManufacturer := d.iManufacturer
    iProduct := d.iProduct
    iSerialNumber := d.iSerialNumber })

/-! ## The configuration list -/

/-- A configuration goes to the end of the list. -/
def addConfig (configs : List USBConfig) (d : UsbdConfigDescriptor) : Ret × List USBConfig :=
  (.ok, configs ++ [{
    id := d.bConfigurationValue.toNat
    attributes := d.bmAttributes.toUInt32
    maxPower := d.bMaxPower.toNat
    iConfiguration := d.iConfiguration }])

/-- An interface goes to the last configuration. -/
def addInterface (configs : List USBConfig) (d : UsbdInterfaceDescriptor) : Ret × List USBConfig :=
  match configs.getLast? with
  | none => (.uec .serviceInvalidValue, configs)
  | some config =>
    let intf : UsbInterface := {
      id := d.bInterfaceNumber.toNat
      protocol := d.bInterfaceProtocol.toNat
      alternateSetting := d.bAlternateSetting.toNat
      klass := d.bInterfaceClass.toNat
      subClass := d.bInterfaceSubClass.toNat
      iInterface := d.iInterface }
    (.ok, configs.dropLast ++ [{ config with interfaces := config.interfaces ++ [intf] }])

/-- An endpoint goes to the last interface of the last configuration. -/
def addEndpoint (configs : List USBConfig) (d : UsbdEndpointDescriptor) : Ret × List USBConfig :=
  match configs.getLast? with
  | none => (.uec .serviceInvalidValue, configs)
  | some config =>
    match config.interfaces.getLast? with
    | none => (.uec .serviceInvalidValue, configs)
    | some intf =>
      let endpoint : USBEndpoint := {
        address := d.bEndpointAddress.toUInt32
        attributes := d.bmAttributes.toUInt32
        interval := d.bInterval.toNat
        maxPacketSize := d.wMaxPacketSize.toNat
        interfaceId := UInt8.ofInt intf.id }
      let intf := { intf with endpoints := intf.endpoints ++ [endpoint] }
      (.ok, configs.dropLast ++ [{ config with interfaces := config.interfaces.dropLast ++ [intf] }])

/-- The `switch` on the type of one descriptor. -/
def parseDescriptor (buffer : List UInt8) (cursor : Nat) (header : UsbdDescriptorHeader)
    (configs : List USBConfig) : Except Fault (Ret × List USBConfig) :=
  if header.bDescriptorType = descriptorTypeConfig then
    if header.bLength.toNat ≠ configDescriptorSize then .ok (.uec .serviceInvalidValue, configs)
    else do return addConfig configs (← configDescriptorAt buffer cursor)
  else if header.bDescriptorType = descriptorTypeInterface then
    if header.bLength.toNat ≠ interfaceDescriptorSize then .ok (.uec .serviceInvalidValue, configs)
    else do return addInterface configs (← interfaceDescriptorAt buffer cursor)
  else if header.bDescriptorType = descriptorTypeEndpoint then
    if header.bLength ≠ normalEndpointDescriptor ∧ header.bLength ≠ audioEndpointDescriptor then
      .ok (.uec .serviceInvalidValue, configs)
    else do return addEndpoint configs (← endpointDescriptorAt buffer cursor)
  else .ok (.ok, configs)

/-- The `while` loop. Every turn moves the cursor by at least two bytes. -/
def parseLoop (buffer : List UInt8) (length : Nat) :
    Nat → Nat → List USBConfig → Except Fault (Ret × List USBConfig)
  | 0, _, _ => .error .outOfFuel
  | fuel + 1, cursor, configs =>
    if cursor < length then
      if length - cursor < headerSize then .ok (.ok, configs)
      else do
        let header ← headerAt buffer cursor
        if header.bLength.toNat < headerSize ∨ header.bLength.toNat > length - cursor then
          return (.ok, configs)
        let (ret, configs) ← parseDescriptor buffer cursor header configs
        if ret ≠ .ok then return (ret, configs)
        parseLoop buffer length fuel ((cursor + header.bLength.toNat) % 2 ^ 32) configs
    else .ok (.ok, configs)

/-- `length` is a `uint32_t`, so a longer vector loses its high bits here. -/
def parseConfigDescriptors (descriptor : List UInt8) (offset : Nat) (configs : List USBConfig) :
    Except Fault (Ret × List USBConfig) :=
  let length := descriptor.length % 2 ^ 32
  parseLoop descriptor length (length + 1) offset configs

end UsbManager.Descriptor
