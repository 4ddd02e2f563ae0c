import Mathlib.Data.List.Forall2
import UsbManager.Lib.Json
import UsbManager.Types

/-!
# Devices in a broadcast

`getJsonString` and the constructors from `cJSON` of `usb_device.h`, `usb_config.h`, `usb_interface.h` and
`usb_endpoint.h`. A child is printed and parsed again before it goes into the array of its parent. The serial number
is left out by the encoder and read with the getter for numbers.
-/

namespace UsbManager

open Json

/-! ## Endpoints -/

def usbEndpointDirMask : UInt32 := 0x80

def usbEndpointNumberMask : UInt32 := 0x0f

def usbEndpointXfertypeMask : UInt32 := 0x03

def number (v : UInt32) : Json := .number v.toNat

/-- The direction, the number and the type are written, but not read back. -/
def USBEndpoint.members (e : USBEndpoint) : List (String × Json) := [
  ("address", number e.address),
  ("attributes", number e.attributes),
  ("interval", .number e.interval),
  ("maxPacketSize", .number e.maxPacketSize),
  ("direction", number (e.address &&& usbEndpointDirMask)),
  ("number", number (e.address &&& usbEndpointNumberMask)),
  ("type", number (e.attributes &&& usbEndpointXfertypeMask)),
  ("interfaceId", .number e.interfaceId.toNat)]

def USBEndpoint.toJson (e : USBEndpoint) : Json := .object e.members

def USBEndpoint.getJsonString (cjson : Library) (e : USBEndpoint) : String := cjson.printUnformatted e.toJson

def USBEndpoint.ofJson (endpoint : Json) : USBEndpoint where
  address := UInt32.ofInt (endpoint.getIntValue "address")
  attributes := UInt32.ofInt (endpoint.getIntValue "attributes")
  interval := endpoint.getIntValue "interval"
  maxPacketSize := endpoint.getIntValue "maxPacketSize"
  interfaceId := UInt8.ofInt (endpoint.getIntValue "interfaceId")

/-! ## Interfaces -/

/-- An item that cannot be parsed is not added. -/
def UsbInterface.members (cjson : Library) (i : UsbInterface) : List (String × Json) := [
  ("id", .number i.id),
  ("protocol", .number i.protocol),
  ("clazz", .number i.klass),
  ("subClass", .number i.subClass),
  ("alternateSetting", .number i.alternateSetting),
  ("name", .string (cStr i.name)),
  ("endpoints", .array (i.endpoints.filterMap fun e => cjson.parse (e.getJsonString cjson)))]

def UsbInterface.toJson (cjson : Library) (i : UsbInterface) : Json := .object (i.members cjson)

def UsbInterface.getJsonString (cjson : Library) (i : UsbInterface) : String :=
  cjson.printUnformatted (i.toJson cjson)

def UsbInterface.ofJson (interface : Json) : UsbInterface where
  id := interface.getIntValue "id"
  protocol := interface.getIntValue "protocol"
  klass := interface.getIntValue "clazz"
  subClass := interface.getIntValue "subClass"
  alternateSetting := interface.getIntValue "alternateSetting"
  name := interface.getStringValue "name"
  endpoints := (children (interface.getObjectItem "endpoints")).map USBEndpoint.ofJson

/-! ## Configurations -/

def usbCfgSelfPowered : UInt32 := 0x80

def usbCfgRemoteWakeup : UInt32 := 0x20

def USBConfig.members (cjson : Library) (c : USBConfig) : List (String × Json) := [
  ("id", .number c.id),
  ("attributes", number c.attributes),
  ("maxPower", .number c.maxPower),
  ("name", .string (cStr c.name)),
  ("isRemoteWakeup", .bool (c.attributes &&& usbCfgRemoteWakeup ≠ 0)),
  ("isSelfPowered", .bool (c.attributes &&& usbCfgSelfPowered ≠ 0)),
  ("interfaces", .array (c.interfaces.filterMap fun i => cjson.parse (i.getJsonString cjson)))]

def USBConfig.toJson (cjson : Library) (c : USBConfig) : Json := .object (c.members cjson)

def USBConfig.getJsonString (cjson : Library) (c : USBConfig) : String := cjson.printUnformatted (c.toJson cjson)

def USBConfig.ofJson (config : Json) : USBConfig where
  id := config.getIntValue "id"
  attributes := UInt32.ofInt (config.getIntValue "attributes")
  maxPower := config.getIntValue "maxPower"
  name := config.getStringValue "name"
  interfaces := (children (config.getObjectItem "interfaces")).map UsbInterface.ofJson

/-! ## Devices -/

def UsbDevice.members (cjson : Library) (d : UsbDevice) : List (String × Json) := [
  ("busNum", .number d.busNum.toNat),
  ("devAddress", .number d.devAddr.toNat),
  ("serial", .string ""),
  ("name", .string (cStr d.name)),
  ("manufacturerName", .string (cStr d.manufacturerName)),
  ("productName", .string (cStr d.productName)),
  ("version", .string (cStr d.version)),
  ("vendorId", .number d.vendorId),
  ("productId", .number d.productId),
  ("clazz", .number d.baseClass),
  ("subClass", .number d.subClass),
  ("protocol", .number d.protocol),
  ("configs", .array (d.configs.filterMap fun c => cjson.parse (c.getJsonString cjson)))]

def UsbDevice.toJson (cjson : Library) (d : UsbDevice) : Json := .object (d.members cjson)

def UsbDevice.getJsonString (cjson : Library) (d : UsbDevice) : String := cjson.printUnformatted (d.toJson cjson)

/-- An `int` that is assigned to a string is one character. -/
def stringOfInt (n : Int) : String := String.singleton (Char.ofNat (UInt8.ofInt n).toNat)

def UsbDevice.ofJson (device : Json) : UsbDevice where
  busNum := UInt8.ofInt (device.getIntValue "busNum")
  devAddr := UInt8.ofInt (device.getIntValue "devAddress")
  serial := stringOfInt (device.getIntValue "serial")
  name := device.getStringValue "name"
  manufacturerName := device.getStringValue "manufacturerName"
  productName := device.getStringValue "productName"
  version := device.getStringValue "version"
  vendorId := device.getIntValue "vendorId"
  productId := device.getIntValue "productId"
  baseClass := device.getIntValue "clazz"
  subClass := device.getIntValue "subClass"
  protocol := device.getIntValue "protocol"
  configs := (children (device.getObjectItem "configs")).map USBConfig.ofJson

/-! ## The values that JSON carries -/

structure USBEndpoint.InJson (e : USBEndpoint) : Prop where
  address : e.address.toNat < 2 ^ 31
  attributes : e.attributes.toNat < 2 ^ 31
  interval : FitsInt e.interval
  maxPacketSize : FitsInt e.maxPacketSize

structure UsbInterface.InJson (i : UsbInterface) : Prop where
  id : FitsInt i.id
  protocol : FitsInt i.protocol
  klass : FitsInt i.klass
  subClass : FitsInt i.subClass
  alternateSetting : FitsInt i.alternateSetting
  name : NoNul i.name
  endpoints : ∀ e ∈ i.endpoints, e.InJson

structure USBConfig.InJson (c : USBConfig) : Prop where
  id : FitsInt c.id
  attributes : c.attributes.toNat < 2 ^ 31
  maxPower : FitsInt c.maxPower
  name : NoNul c.name
  interfaces : ∀ i ∈ c.interfaces, i.InJson

/-- Numbers fit an `int` and texts have no NUL, down to the endpoints. -/
structure UsbDevice.InJson (d : UsbDevice) : Prop where
  name : NoNul d.name
  manufacturerName : NoNul d.manufacturerName
  productName : NoNul d.productName
  version : NoNul d.version
  vendorId : FitsInt d.vendorId
  productId : FitsInt d.productId
  baseClass : FitsInt d.baseClass
  subClass : FitsInt d.subClass
  protocol : FitsInt d.protocol
  configs : ∀ c ∈ d.configs, c.InJson

theorem fitsInt_uint32 {v : UInt32} (h : v.toNat < 2 ^ 31) : FitsInt v.toNat := by
  unfold FitsInt intMin intMax
  omega

theorem fitsInt_uint8 (v : UInt8) : FitsInt v.toNat := by
  have := v.toNat_lt
  unfold FitsInt intMin intMax
  omega

theorem fitsInt_and {v : UInt32} (h : v.toNat < 2 ^ 31) (m : UInt32) : FitsInt (v &&& m).toNat := by
  apply fitsInt_uint32
  rw [UInt32.toNat_and]
  exact Nat.lt_of_le_of_lt Nat.and_le_left h

/-! ## Endpoints come back -/

theorem USBEndpoint.plain {e : USBEndpoint} (h : e.InJson) : e.toJson.Plain := by
  apply Plain.object
  unfold USBEndpoint.members
  simp only [List.mem_cons, List.not_mem_nil, or_false, forall_eq_or_imp, forall_eq]
  exact ⟨.number (fitsInt_uint32 h.address), .number (fitsInt_uint32 h.attributes),
    .number h.interval, .number h.maxPacketSize,
    .number (fitsInt_and h.address _), .number (fitsInt_and h.address _), .number (fitsInt_and h.attributes _),
    .number (fitsInt_uint8 _)⟩

theorem ofInt_toNat32 (v : UInt32) : UInt32.ofInt v.toNat = v := by
  have := v.toNat_lt
  apply UInt32.toNat_inj.mp
  rw [UInt32.ofInt, UInt32.toNat_ofNat']
  omega

theorem ofInt_toNat8 (v : UInt8) : UInt8.ofInt v.toNat = v := by
  have := v.toNat_lt
  apply UInt8.toNat_inj.mp
  rw [UInt8.ofInt, UInt8.toNat_ofNat']
  omega

theorem USBEndpoint.item {e : USBEndpoint} {key : String} {j : Json} (h : (key, j) ∈ e.members) :
    e.toJson.getObjectItem key = some j := by
  refine getObjectItem_of_mem ?_ h
  show (["address", "attributes", "interval", "maxPacketSize", "direction", "number", "type",
    "interfaceId"].map lower).Nodup
  decide

theorem USBEndpoint.ofJson_toJson {e : USBEndpoint} (h : e.InJson) : USBEndpoint.ofJson e.toJson = e := by
  have haddress : e.toJson.getIntValue "address" = e.address.toNat :=
    getIntValue_eq (e.item (by simp [members, number])) (fitsInt_uint32 h.address)
  have hattributes : e.toJson.getIntValue "attributes" = e.attributes.toNat :=
    getIntValue_eq (e.item (by simp [members, number])) (fitsInt_uint32 h.attributes)
  have hinterval : e.toJson.getIntValue "interval" = e.interval :=
    getIntValue_eq (e.item (by simp [members])) h.interval
  have hmaxPacketSize : e.toJson.getIntValue "maxPacketSize" = e.maxPacketSize :=
    getIntValue_eq (e.item (by simp [members])) h.maxPacketSize
  have hinterfaceId : e.toJson.getIntValue "interfaceId" = e.interfaceId.toNat :=
    getIntValue_eq (e.item (by simp [members])) (fitsInt_uint8 e.interfaceId)
  unfold USBEndpoint.ofJson
  rw [haddress, hattributes, hinterval, hmaxPacketSize, hinterfaceId, ofInt_toNat32, ofInt_toNat32, ofInt_toNat8]

/-! ## Interfaces come back -/

/-- The documents that are printed on the way, with that of the whole at the end. -/
def UsbInterface.documents (cjson : Library) (i : UsbInterface) : List Json :=
  i.endpoints.map USBEndpoint.toJson ++ [i.toJson cjson]

/-- The fields that go through JSON. -/
structure SameInterface (i i' : UsbInterface) : Prop where
  id : i'.id = i.id
  protocol : i'.protocol = i.protocol
  klass : i'.klass = i.klass
  subClass : i'.subClass = i.subClass
  alternateSetting : i'.alternateSetting = i.alternateSetting
  name : i'.name = i.name
  endpoints : i'.endpoints = i.endpoints

theorem UsbInterface.item {cjson : Library} {i : UsbInterface} {key : String} {j : Json}
    (h : (key, j) ∈ i.members cjson) : (i.toJson cjson).getObjectItem key = some j := by
  refine getObjectItem_of_mem ?_ h
  show (["id", "protocol", "clazz", "subClass", "alternateSetting", "name", "endpoints"].map lower).Nodup
  decide

theorem UsbInterface.parsed_endpoints {cjson : Library} {i : UsbInterface} (h : i.InJson)
    (hfaithful : ∀ j ∈ i.documents cjson, cjson.Faithful j) :
    i.endpoints.filterMap (fun e => cjson.parse (e.getJsonString cjson)) = i.endpoints.map USBEndpoint.toJson := by
  apply cjson.filterMap_parse
  · intro e he
    exact USBEndpoint.plain (h.endpoints e he)
  · intro e he
    exact hfaithful _ (List.mem_append_left _ (List.mem_map_of_mem he))

theorem UsbInterface.plain {cjson : Library} {i : UsbInterface} (h : i.InJson)
    (hfaithful : ∀ j ∈ i.documents cjson, cjson.Faithful j) : (i.toJson cjson).Plain := by
  apply Plain.object
  unfold UsbInterface.members
  rw [parsed_endpoints h hfaithful, cStr_eq h.name]
  simp only [List.mem_cons, List.not_mem_nil, or_false, forall_eq_or_imp, forall_eq]
  refine ⟨.number h.id, .number h.protocol,
    .number h.klass, .number h.subClass,
    .number h.alternateSetting, .string h.name, .array ?_⟩
  rw [List.forall_mem_map]
  intro e he
  exact USBEndpoint.plain (h.endpoints e he)

theorem UsbInterface.ofJson_toJson {cjson : Library} {i : UsbInterface} (h : i.InJson)
    (hfaithful : ∀ j ∈ i.documents cjson, cjson.Faithful j) :
    SameInterface i (UsbInterface.ofJson (i.toJson cjson)) where
  id := getIntValue_eq (item (by simp [members])) h.id
  protocol := getIntValue_eq (item (by simp [members])) h.protocol
  klass := getIntValue_eq (item (by simp [members])) h.klass
  subClass := getIntValue_eq (item (by simp [members])) h.subClass
  alternateSetting := getIntValue_eq (item (by simp [members])) h.alternateSetting
  name := (getStringValue_eq (item (by simp [members]))).trans (cStr_eq h.name)
  endpoints := by
    unfold UsbInterface.ofJson
    rw [item (List.mem_of_getLast? rfl), parsed_endpoints h hfaithful, children, List.map_map]
    exact (List.map_congr_left fun e he => USBEndpoint.ofJson_toJson (h.endpoints e he)).trans (List.map_id _)

/-! ## Configurations come back -/

/-- The documents inside the document of a configuration. -/
def USBConfig.documents (cjson : Library) (c : USBConfig) : List Json :=
  c.interfaces.flatMap (UsbInterface.documents cjson) ++ [c.toJson cjson]

structure SameConfig (c c' : USBConfig) : Prop where
  id : c'.id = c.id
  attributes : c'.attributes = c.attributes
  maxPower : c'.maxPower = c.maxPower
  name : c'.name = c.name
  interfaces : List.Forall₂ SameInterface c.interfaces c'.interfaces

theorem USBConfig.item {cjson : Library} {c : USBConfig} {key : String} {j : Json} (h : (key, j) ∈ c.members cjson) :
    (c.toJson cjson).getObjectItem key = some j := by
  refine getObjectItem_of_mem ?_ h
  show (["id", "attributes", "maxPower", "name", "isRemoteWakeup", "isSelfPowered", "interfaces"].map lower).Nodup
  decide

theorem USBConfig.faithful_interface {cjson : Library} {c : USBConfig}
    (hfaithful : ∀ j ∈ c.documents cjson, cjson.Faithful j) {i : UsbInterface} (hi : i ∈ c.interfaces) :
    ∀ j ∈ i.documents cjson, cjson.Faithful j := by
  intro j hj
  exact hfaithful j (List.mem_append_left _ (List.mem_flatMap.mpr ⟨i, hi, hj⟩))

theorem USBConfig.parsed_interfaces {cjson : Library} {c : USBConfig} (h : c.InJson)
    (hfaithful : ∀ j ∈ c.documents cjson, cjson.Faithful j) :
    c.interfaces.filterMap (fun i => cjson.parse (i.getJsonString cjson)) =
      c.interfaces.map (UsbInterface.toJson cjson) := by
  apply cjson.filterMap_parse
  · intro i hi
    exact UsbInterface.plain (h.interfaces i hi) (faithful_interface hfaithful hi)
  · intro i hi
    exact faithful_interface hfaithful hi _ (List.mem_append_right _ List.mem_cons_self)

theorem USBConfig.plain {cjson : Library} {c : USBConfig} (h : c.InJson)
    (hfaithful : ∀ j ∈ c.documents cjson, cjson.Faithful j) : (c.toJson cjson).Plain := by
  apply Plain.object
  unfold USBConfig.members
  rw [parsed_interfaces h hfaithful, cStr_eq h.name]
  simp only [List.mem_cons, List.not_mem_nil, or_false, forall_eq_or_imp, forall_eq]
  refine ⟨.number h.id, .number (fitsInt_uint32 h.attributes),
    .number h.maxPower, .string h.name, .bool _, .bool _, .array ?_⟩
  rw [List.forall_mem_map]
  intro i hi
  exact UsbInterface.plain (h.interfaces i hi) (faithful_interface hfaithful hi)

theorem USBConfig.ofJson_toJson {cjson : Library} {c : USBConfig} (h : c.InJson)
    (hfaithful : ∀ j ∈ c.documents cjson, cjson.Faithful j) : SameConfig c (USBConfig.ofJson (c.toJson cjson)) where
  id := getIntValue_eq (item (by simp [members])) h.id
  attributes := by
    have hint : (c.toJson cjson).getIntValue "attributes" = c.attributes.toNat :=
      getIntValue_eq (item (by simp [members, number])) (fitsInt_uint32 h.attributes)
    unfold USBConfig.ofJson
    rw [hint, ofInt_toNat32]
  maxPower := getIntValue_eq (item (by simp [members])) h.maxPower
  name := (getStringValue_eq (item (by simp [members]))).trans (cStr_eq h.name)
  interfaces := by
    unfold USBConfig.ofJson
    rw [item (List.mem_of_getLast? rfl), parsed_interfaces h hfaithful, children, List.map_map,
      List.forall₂_map_right_iff, List.forall₂_same]
    intro i hi
    exact UsbInterface.ofJson_toJson (h.interfaces i hi) (faithful_interface hfaithful hi)

/-! ## Devices come back -/

def UsbDevice.documents (cjson : Library) (d : UsbDevice) : List Json :=
  d.configs.flatMap (USBConfig.documents cjson) ++ [d.toJson cjson]

/-- What comes back of a device. -/
structure SameDevice (d d' : UsbDevice) : Prop where
  busNum : d'.busNum = d.busNum
  devAddr : d'.devAddr = d.devAddr
  name : d'.name = d.name
  manufacturerName : d'.manufacturerName = d.manufacturerName
  productName : d'.productName = d.productName
  version : d'.version = d.version
  vendorId : d'.vendorId = d.vendorId
  productId : d'.productId = d.productId
  baseClass : d'.baseClass = d.baseClass
  subClass : d'.subClass = d.subClass
  protocol : d'.protocol = d.protocol
  configs : List.Forall₂ SameConfig d.configs d'.configs

theorem UsbDevice.item {cjson : Library} {d : UsbDevice} {key : String} {j : Json} (h : (key, j) ∈ d.members cjson) :
    (d.toJson cjson).getObjectItem key = some j := by
  refine getObjectItem_of_mem ?_ h
  show (["busNum", "devAddress", "serial", "name", "manufacturerName", "productName", "version", "vendorId",
    "productId", "clazz", "subClass", "protocol", "configs"].map lower).Nodup
  decide

theorem UsbDevice.faithful_config {cjson : Library} {d : UsbDevice}
    (hfaithful : ∀ j ∈ d.documents cjson, cjson.Faithful j) {c : USBConfig} (hc : c ∈ d.configs) :
    ∀ j ∈ c.documents cjson, cjson.Faithful j := by
  intro j hj
  exact hfaithful j (List.mem_append_left _ (List.mem_flatMap.mpr ⟨c, hc, hj⟩))

theorem UsbDevice.parsed_configs {cjson : Library} {d : UsbDevice} (h : d.InJson)
    (hfaithful : ∀ j ∈ d.documents cjson, cjson.Faithful j) :
    d.configs.filterMap (fun c => cjson.parse (c.getJsonString cjson)) = d.configs.map (USBConfig.toJson cjson) := by
  apply cjson.filterMap_parse
  · intro c hc
    exact USBConfig.plain (h.configs c hc) (faithful_config hfaithful hc)
  · intro c hc
    exact faithful_config hfaithful hc _ (List.mem_append_right _ List.mem_cons_self)

theorem UsbDevice.plain {cjson : Library} {d : UsbDevice} (h : d.InJson)
    (hfaithful : ∀ j ∈ d.documents cjson, cjson.Faithful j) : (d.toJson cjson).Plain := by
  have hempty : NoNul "" := by
    simp [NoNul]
  apply Plain.object
  unfold UsbDevice.members
  rw [parsed_configs h hfaithful, cStr_eq h.name, cStr_eq h.manufacturerName, cStr_eq h.productName, cStr_eq h.version]
  simp only [List.mem_cons, List.not_mem_nil, or_false, forall_eq_or_imp, forall_eq]
  refine ⟨.number (fitsInt_uint8 _), .number (fitsInt_uint8 _), .string hempty, .string h.name,
    .string h.manufacturerName, .string h.productName, .string h.version,
    .number h.vendorId, .number h.productId,
    .number h.baseClass, .number h.subClass,
    .number h.protocol, .array ?_⟩
  rw [List.forall_mem_map]
  intro c hc
  exact USBConfig.plain (h.configs c hc) (faithful_config hfaithful hc)

theorem UsbDevice.ofJson_toJson {cjson : Library} {d : UsbDevice} (h : d.InJson)
    (hfaithful : ∀ j ∈ d.documents cjson, cjson.Faithful j) : SameDevice d (UsbDevice.ofJson (d.toJson cjson)) where
  busNum := by
    have hint : (d.toJson cjson).getIntValue "busNum" = d.busNum.toNat :=
      getIntValue_eq (item (by simp [members])) (fitsInt_uint8 d.busNum)
    unfold UsbDevice.ofJson
    rw [hint, ofInt_toNat8]
  devAddr := by
    have hint : (d.toJson cjson).getIntValue "devAddress" = d.devAddr.toNat :=
      getIntValue_eq (item (by simp [members])) (fitsInt_uint8 d.devAddr)
    unfold UsbDevice.ofJson
    rw [hint, ofInt_toNat8]
  name := (getStringValue_eq (item (by simp [members]))).trans (cStr_eq h.name)
  manufacturerName := (getStringValue_eq (item (by simp [members]))).trans (cStr_eq h.manufacturerName)
  productName := (getStringValue_eq (item (by simp [members]))).trans (cStr_eq h.productName)
  version := (getStringValue_eq (item (by simp [members]))).trans (cStr_eq h.version)
  vendorId := getIntValue_eq (item (by simp [members])) h.vendorId
  productId := getIntValue_eq (item (by simp [members])) h.productId
  baseClass := getIntValue_eq (item (by simp [members])) h.baseClass
  subClass := getIntValue_eq (item (by simp [members])) h.subClass
  protocol := getIntValue_eq (item (by simp [members])) h.protocol
  configs := by
    unfold UsbDevice.ofJson
    rw [item (List.mem_of_getLast? rfl), parsed_configs h hfaithful, children, List.map_map,
      List.forall₂_map_right_iff, List.forall₂_same]
    intro c hc
    exact USBConfig.ofJson_toJson (h.configs c hc) (faithful_config hfaithful hc)

/-- The string that is there is not a number, and the 0 that stands for it becomes a character. -/
theorem UsbDevice.ofJson_serial (cjson : Library) (d : UsbDevice) :
    (UsbDevice.ofJson (d.toJson cjson)).serial = "\x00" := by
  have hitem : (d.toJson cjson).getObjectItem "serial" = some (.string "") := item (by simp [members])
  have hint : (d.toJson cjson).getIntValue "serial" = 0 := by
    rw [getIntValue, hitem]
  unfold UsbDevice.ofJson
  rw [hint]
  show stringOfInt 0 = "\x00"
  decide

/-! ## The round trip -/

/-- The device of a broadcast: as it was, without its serial number. -/
structure GivesBack (d d' : UsbDevice) : Prop where
  same : SameDevice d d'
  serial : d'.serial = ""

/-- Everything comes back but the serial number, which is never the empty string that was written. -/
theorem json_round_trip (cjson : Library) (d : UsbDevice) (h : d.InJson)
    (hfaithful : ∀ j ∈ d.documents cjson, cjson.Faithful j) :
    ∃ device, cjson.parse (d.getJsonString cjson) = some device ∧ SameDevice d (UsbDevice.ofJson device) ∧
      ¬ GivesBack d (UsbDevice.ofJson device) := by
  refine ⟨d.toJson cjson, ?_, UsbDevice.ofJson_toJson h hfaithful, fun hback => ?_⟩
  · exact hfaithful _ (List.mem_append_right _ List.mem_cons_self) (UsbDevice.plain h hfaithful)
  · have hserial := hback.serial
    rw [UsbDevice.ofJson_serial] at hserial
    exact absurd hserial (by decide)

/-! A disk with its texts, as they are printed. -/

def diskEndpoint : USBEndpoint := ⟨129, 2, 0, 512, 0⟩

def diskInterface : UsbInterface := ⟨0, 80, 8, 6, 0, "", [diskEndpoint], 255, true⟩

def diskConfig : USBConfig := ⟨1, 128, [diskInterface], 50, "", 255⟩

def disk : UsbDevice :=
  { busNum := 1, devAddr := 2, name := "1-2", vendorId := 4660, productId := 22136, baseClass := 0, subClass := 0,
    protocol := 0, configs := [diskConfig] }

@[irreducible] def endpointText : String :=
  "\x7b\"address\":129,\"attributes\":2,\"interval\":0,\"maxPacketSize\":512,\"direction\":128,\"number\":1," ++
    "\"type\":2,\"interfaceId\":0\x7d"

@[irreducible] def interfaceText : String :=
  "\x7b\"id\":0,\"protocol\":80,\"clazz\":8,\"subClass\":6,\"alternateSetting\":0,\"name\":\"\",\"endpoints\":[" ++
    endpointText ++ "]\x7d"

@[irreducible] def configText : String :=
  "\x7b\"id\":1,\"attributes\":128,\"maxPower\":50,\"name\":\"\",\"isRemoteWakeup\":false,\"isSelfPowered\":true," ++
    "\"interfaces\":[" ++ interfaceText ++ "]\x7d"

@[irreducible] def deviceText : String :=
  "\x7b\"busNum\":1,\"devAddress\":2,\"serial\":\"\",\"name\":\"1-2\",\"manufacturerName\":\"\",\"productName\":\"\"," ++
    "\"version\":\"\",\"vendorId\":4660,\"productId\":22136,\"clazz\":0,\"subClass\":0,\"protocol\":0,\"configs\":[" ++
    configText ++ "]\x7d"

/-- The documents of the disk are told apart by their last key. -/
def diskPrint : Json → String
  | .object members =>
    match members.getLast? with
    | some ("configs", _) => deviceText
    | some ("interfaces", _) => configText
    | some ("endpoints", _) => interfaceText
    | _ => endpointText
  | _ => ""

def diskInterfaceJson : Json := diskInterface.toJson ⟨diskPrint, fun _ => some diskEndpoint.toJson⟩

def diskConfigJson : Json := diskConfig.toJson ⟨diskPrint, fun _ => some diskInterfaceJson⟩

def diskJson : Json := disk.toJson ⟨diskPrint, fun _ => some diskConfigJson⟩

def diskParse (text : String) : Option Json :=
  if text = endpointText then some diskEndpoint.toJson
  else if text = interfaceText then some diskInterfaceJson
  else if text = configText then some diskConfigJson
  else if text = deviceText then some diskJson
  else none

def diskLibrary : Library := ⟨diskPrint, diskParse⟩

theorem disk_inJson : disk.InJson := by
  have hempty : NoNul "" := by
    simp [NoNul]
  have hendpoint : diskEndpoint.InJson := ⟨by decide, by decide, by decide, by decide⟩
  have hinterface : diskInterface.InJson :=
    ⟨by decide, by decide, by decide, by decide, by decide, hempty, List.forall_mem_singleton.mpr hendpoint⟩
  have hconfig : diskConfig.InJson :=
    ⟨by decide, by decide, by decide, hempty, List.forall_mem_singleton.mpr hinterface⟩
  refine ⟨?_, hempty, hempty, hempty, by decide, by decide, by decide, by decide, by decide,
    List.forall_mem_singleton.mpr hconfig⟩
  simp [NoNul, disk]

theorem diskParse_endpoint : diskLibrary.parse (diskEndpoint.getJsonString diskLibrary) = some diskEndpoint.toJson := by
  show diskParse endpointText = _
  rw [diskParse, if_pos rfl]

theorem diskParse_interface : diskLibrary.parse (diskInterface.getJsonString diskLibrary) = some diskInterfaceJson := by
  show diskParse interfaceText = _
  rw [diskParse, if_neg (by decide +kernel), if_pos rfl]

theorem diskParse_config : diskLibrary.parse (diskConfig.getJsonString diskLibrary) = some diskConfigJson := by
  show diskParse configText = _
  rw [diskParse, if_neg (by decide +kernel), if_neg (by decide +kernel), if_pos rfl]

theorem diskParse_device : diskLibrary.parse (disk.getJsonString diskLibrary) = some diskJson := by
  show diskParse deviceText = _
  rw [diskParse, if_neg (by decide +kernel), if_neg (by decide +kernel), if_neg (by decide +kernel), if_pos rfl]

theorem disk_faithful : ∀ j ∈ disk.documents diskLibrary, diskLibrary.Faithful j := by
  have hinterface : diskInterface.toJson diskLibrary = diskInterfaceJson := by
    simp only [diskInterfaceJson, UsbInterface.toJson, UsbInterface.members, diskInterface, List.filterMap_cons,
      List.filterMap_nil, diskParse_endpoint]
  have hconfig : diskConfig.toJson diskLibrary = diskConfigJson := by
    simp only [diskConfigJson, USBConfig.toJson, USBConfig.members, diskConfig, List.filterMap_cons,
      List.filterMap_nil, diskParse_interface]
  have hdevice : disk.toJson diskLibrary = diskJson := by
    simp only [diskJson, UsbDevice.toJson, UsbDevice.members, disk, List.filterMap_cons, List.filterMap_nil,
      diskParse_config]
  intro j hj _
  simp only [UsbDevice.documents, USBConfig.documents, UsbInterface.documents, disk, diskConfig, diskInterface,
    List.flatMap_cons, List.flatMap_nil, List.map_cons, List.map_nil, List.append_nil, List.mem_append,
    List.mem_singleton] at hj
  rcases hj with ((rfl | rfl) | rfl) | rfl
  · exact diskParse_endpoint
  · exact diskParse_interface.trans (congrArg some hinterface.symm)
  · exact diskParse_config.trans (congrArg some hconfig.symm)
  · exact diskParse_device.trans (congrArg some hdevice.symm)

theorem json_round_trip_disk :
    disk.InJson ∧ ∃ device, diskLibrary.parse (disk.getJsonString diskLibrary) = some device ∧
      SameDevice disk (UsbDevice.ofJson device) ∧ ¬ GivesBack disk (UsbDevice.ofJson device) :=
  ⟨disk_inJson, json_round_trip diskLibrary disk disk_inJson disk_faithful⟩

/-- The serial number of the disk comes back as one NUL and not as the empty string. -/
theorem disk_serial_not_empty :
    ∃ device, diskLibrary.parse (disk.getJsonString diskLibrary) = some device ∧
      (UsbDevice.ofJson device).serial = "\x00" ∧ ¬ GivesBack disk (UsbDevice.ofJson device) := by
  have hserial : (UsbDevice.ofJson diskJson).serial = "\x00" := UsbDevice.ofJson_serial _ disk
  refine ⟨diskJson, diskParse_device, hserial, fun hback => ?_⟩
  have hempty := hback.serial
  rw [hserial] at hempty
  exact absurd hempty (by decide)

end UsbManager
