import Mathlib.Data.Nat.Bitwise
import UsbManager.Js.Bridge

/-!
# Devices that come back from JavaScript

What is left of a device that an application hands back as it got it.
-/

namespace UsbManager.Js

open Json Napi Parcel

/-! ## Fields -/

section

variable {α : Type} {kind : String} {read? : JsValue → Option α} {object : JsValue} {fieldStr : String}

theorem reads_jsObjectTo {field : JsValue} {value : α} (hfield : object.member? fieldStr = some field)
    (hvalue : read? field = some value) (fieldRef : α) :
    Reads (jsObjectTo kind read? object fieldStr fieldRef) value := by
  unfold jsObjectTo
  apply Reads.bind (reads_getNamedProperty object fieldStr)
  rw [hfield]
  dsimp only
  rw [hvalue]
  exact Reads.pure value

end

theorem reads_int {object : JsValue} {fieldStr : String} {n : Int} (hfield : object.member? fieldStr = some (.ofInt n))
    (h : IsInt32 n) : Reads (jsObjectToInt object fieldStr) n :=
  reads_jsObjectTo hfield (JsValue.number?_ofInt_of_lt h.1 h.2) 0

theorem reads_uint32 {object : JsValue} {fieldStr : String} {v : UInt32}
    (hfield : object.member? fieldStr = some (uint32 v)) :
    Reads (jsObjectToInt object fieldStr) ((v.toNat : Int).bmod 4294967296) :=
  reads_jsObjectTo hfield (JsValue.number?_ofInt _) 0

theorem isInt32_uint8 (v : UInt8) : IsInt32 v.toNat := by
  have := v.toNat_lt
  unfold IsInt32
  omega

theorem ofInt_bmod (v : UInt32) : UInt32.ofInt ((v.toNat : Int).bmod 4294967296) = v := by
  have hemod : (v.toNat : Int).bmod 4294967296 % 2 ^ 32 = (v.toNat : Int) % 2 ^ 32 := Int.bmod_emod
  calc UInt32.ofInt ((v.toNat : Int).bmod 4294967296)
      = UInt32.ofInt v.toNat := by rw [UInt32.ofInt, UInt32.ofInt, hemod]
    _ = v := ofInt_toNat32 v

theorem isInt32_int8 (v : Int8) : IsInt32 v.toInt := by
  have hlow := v.le_toInt
  have hhigh := v.toInt_lt
  unfold IsInt32
  omega

/-- The id that went out as a signed number is stored in eight bits again. -/
theorem ofInt_getInterfaceId (e : USBEndpoint) : UInt8.ofInt (getInterfaceId e).toInt = e.interfaceId := by
  have hsigned : (getInterfaceId e).toInt = (e.interfaceId.toNat : Int).bmod 256 := by
    rw [getInterfaceId, Int8.toInt, UInt8.toBitVec_toInt8, BitVec.toInt_eq_toNat_bmod, UInt8.toNat_toBitVec]
  have hemod : (e.interfaceId.toNat : Int).bmod 256 % 2 ^ 8 = (e.interfaceId.toNat : Int) % 2 ^ 8 := Int.bmod_emod
  calc UInt8.ofInt (getInterfaceId e).toInt
      = UInt8.ofInt e.interfaceId.toNat := by rw [hsigned, UInt8.ofInt, UInt8.ofInt, hemod]
    _ = e.interfaceId := ofInt_toNat8 e.interfaceId

theorem direction_cases (v : UInt32) : ((v &&& usbEndpointDirMask).toNat : Int).bmod 4294967296 = 0x80 ∨
    ((v &&& usbEndpointDirMask).toNat : Int).bmod 4294967296 = 0 := by
  have hbit : (v &&& usbEndpointDirMask).toNat = (v.toNat.testBit 7).toNat * 2 ^ 7 := by
    rw [UInt32.toNat_and]
    exact Nat.and_two_pow v.toNat 7
  rw [hbit]
  rcases v.toNat.testBit 7 <;> decide

/-! ## Endpoints, interfaces, configurations -/

theorem reads_endpoint {e : USBEndpoint} (h : e.Typed) : Reads (parseEndpointObj (ctoJSUsbEndpoint e)) e := by
  unfold parseEndpointObj
  apply Reads.bind (reads_uint32 (v := e.address) rfl)
  apply Reads.bind (reads_uint32 (v := e.attributes) rfl)
  apply Reads.bind (reads_int rfl h.interval)
  apply Reads.bind (reads_int rfl h.maxPacketSize)
  apply Reads.bind (reads_uint32 (v := e.address &&& usbEndpointDirMask) rfl)
  rw [if_pos (direction_cases e.address)]
  apply Reads.bind (reads_uint32 (v := e.address &&& usbEndpointNumberMask) rfl)
  apply Reads.bind (reads_uint32 (v := e.attributes &&& usbEndpointXfertypeMask) rfl)
  apply Reads.bind (reads_int rfl (isInt32_int8 (getInterfaceId e)))
  rw [ofInt_bmod, ofInt_bmod, ofInt_getInterfaceId]
  exact Reads.pure e

theorem reads_parseObjs {α β : Type} {owner field : String} {parse : JsValue → NapiM α} {object : JsValue}
    {f : β → JsValue} {g : β → α} {l : List β} (hfield : object.member? field = some (.array (l.map f)))
    (h : ∀ b ∈ l, Reads (parse (f b)) (g b)) : Reads (parseObjs owner field parse object) (some (l.map g)) := by
  unfold parseObjs
  apply Reads.bind (reads_getNamedProperty object field)
  rw [hfield]
  exact Reads.forElements h

theorem reads_bool {object : JsValue} {fieldStr : String} {b : Bool}
    (hfield : object.member? fieldStr = some (.boolean b)) :
    Reads (jsObjectToBool object fieldStr) b := by
  have hbool : (JsValue.boolean b).boolean? = some b := rfl
  exact reads_jsObjectTo hfield hbool false

section

variable (getValueStringUtf8 : Nat → String → String)

/-- A text on its way to JavaScript and back. -/
def keptText (bufLen : Nat) (s : String) : String := cStr (getValueStringUtf8 bufLen (cStr s))

theorem reads_text {object : JsValue} {fieldStr s : String} {bufLen : Nat}
    (hfield : object.member? fieldStr = some (utf8 s)) :
    Reads (jsObjectToString getValueStringUtf8 object fieldStr bufLen) (keptText getValueStringUtf8 bufLen s) := by
  have htext : text? getValueStringUtf8 bufLen (utf8 s) = some (keptText getValueStringUtf8 bufLen s) := rfl
  exact reads_jsObjectTo hfield htext ""

/-- The name is lost with everything that JavaScript does not see. -/
def keptInterface (i : UsbInterface) : UsbInterface :=
  { id := i.id, protocol := i.protocol, klass := i.klass, subClass := i.subClass,
    alternateSetting := i.alternateSetting, endpoints := i.endpoints }

/-- The power comes back in milliamperes and counts as units again. -/
def keptConfig (c : USBConfig) : USBConfig :=
  { id := c.id, attributes := c.attributes, name := keptText getValueStringUtf8 defaultDescriptionSize c.name,
    maxPower := c.maxPower * 2, interfaces := c.interfaces.map keptInterface }

def keptDevice (d : UsbDevice) : UsbDevice :=
  { name := keptText getValueStringUtf8 defaultDescriptionSize d.name
    manufacturerName := keptText getValueStringUtf8 defaultDescriptionSize d.manufacturerName
    productName := keptText getValueStringUtf8 defaultDescriptionSize d.productName
    version := keptText getValueStringUtf8 defaultDescriptionSize d.version
    devAddr := d.devAddr, busNum := d.busNum, vendorId := d.vendorId, productId := d.productId
    baseClass := d.baseClass, subClass := d.subClass, protocol := d.protocol
    configs := d.configs.map (keptConfig getValueStringUtf8) }

theorem reads_interface {i : UsbInterface} (h : i.Typed) :
    Reads (parseInterfaceObj getValueStringUtf8 (ctoJSUsbInterface i)) (keptInterface i) := by
  unfold parseInterfaceObj
  apply Reads.bind (reads_int rfl h.id)
  apply Reads.bind (reads_int rfl h.protocol)
  apply Reads.bind (reads_int rfl h.klass)
  apply Reads.bind (reads_int rfl h.subClass)
  apply Reads.bind (reads_int rfl h.alternateSetting)
  apply Reads.bind (reads_text getValueStringUtf8 rfl)
  apply Reads.bind (reads_parseObjs (g := id) rfl fun e he => reads_endpoint (h.endpoints e he))
  rw [List.map_id]
  exact Reads.pure (keptInterface i)

theorem reads_config {c : USBConfig} (h : c.Typed) (hpower : IsInt32 (c.maxPower * 2)) :
    Reads (parseConfigObj getValueStringUtf8 (ctoJSUsbConfig c)) (keptConfig getValueStringUtf8 c) := by
  unfold parseConfigObj
  apply Reads.bind (reads_int rfl h.id)
  apply Reads.bind (reads_uint32 (v := c.attributes) rfl)
  apply Reads.bind (reads_int rfl hpower)
  apply Reads.bind (reads_text getValueStringUtf8 rfl)
  apply Reads.bind (reads_bool rfl)
  apply Reads.bind (reads_bool rfl)
  apply Reads.bind (reads_parseObjs rfl fun i hi => reads_interface getValueStringUtf8 (h.interfaces i hi))
  rw [ofInt_bmod]
  exact Reads.pure (keptConfig getValueStringUtf8 c)

theorem reads_configs {d : UsbDevice} (h : d.Typed) (hpower : ∀ c ∈ d.configs, IsInt32 (c.maxPower * 2)) :
    Reads (parseConfigsObjs getValueStringUtf8 (ctoJSUsbDevice d)) (d.configs.map (keptConfig getValueStringUtf8)) := by
  have hfield : (ctoJSUsbDevice d).member? "configs" = some (.array (d.configs.map ctoJSUsbConfig)) := rfl
  unfold parseConfigsObjs
  apply Reads.bind (reads_getNamedProperty _ "configs")
  rw [hfield]
  exact Reads.mapM fun c hc => reads_config getValueStringUtf8 (h.configs c hc) (hpower c hc)

/-- A device that comes back from JavaScript as it went there raises no exception. Its address, its numbers and its
endpoints are as before; the serial number, the names of interfaces and the rest of the descriptors are gone, long texts
are cut, and the power of every configuration has doubled. -/
theorem device_through_js {d : UsbDevice} (h : d.Typed) (hpower : ∀ c ∈ d.configs, IsInt32 (c.maxPower * 2)) :
    (parseDeviceObj getValueStringUtf8 (ctoJSUsbDevice d)).run none = (keptDevice getValueStringUtf8 d, none) := by
  have hreads : Reads (parseDeviceObj getValueStringUtf8 (ctoJSUsbDevice d)) (keptDevice getValueStringUtf8 d) := by
    unfold parseDeviceObj
    apply Reads.bind (reads_text getValueStringUtf8 rfl)
    apply Reads.bind (reads_text getValueStringUtf8 rfl)
    apply Reads.bind (reads_text getValueStringUtf8 rfl)
    apply Reads.bind (reads_text getValueStringUtf8 rfl)
    apply Reads.bind (reads_text getValueStringUtf8 rfl)
    apply Reads.bind (reads_int rfl (isInt32_uint8 d.devAddr))
    apply Reads.bind (reads_int rfl (isInt32_uint8 d.busNum))
    apply Reads.bind (reads_int rfl h.vendorId)
    apply Reads.bind (reads_int rfl h.productId)
    apply Reads.bind (reads_int rfl h.baseClass)
    apply Reads.bind (reads_int rfl h.subClass)
    apply Reads.bind (reads_int rfl h.protocol)
    apply Reads.bind (reads_configs getValueStringUtf8 h hpower)
    rw [ofInt_toNat8, ofInt_toNat8]
    exact Reads.pure (keptDevice getValueStringUtf8 d)
  exact hreads

end

theorem disk_typed : disk.Typed := by
  have hint : ∀ n : Nat, n < 65536 → IsInt32 n := by
    intro n hn
    unfold IsInt32
    omega
  have hendpoint : diskEndpoint.Typed := ⟨hint 0 (by decide), hint 512 (by decide)⟩
  have hinterface : diskInterface.Typed :=
    ⟨hint 0 (by decide), hint 80 (by decide), hint 8 (by decide), hint 6 (by decide), hint 0 (by decide),
      List.forall_mem_singleton.mpr hendpoint, by decide⟩
  have hconfig : diskConfig.Typed :=
    ⟨hint 1 (by decide), hint 50 (by decide), List.forall_mem_singleton.mpr hinterface, by decide⟩
  exact ⟨hint 4660 (by decide), hint 22136 (by decide), hint 0 (by decide), hint 0 (by decide), hint 0 (by decide),
    List.forall_mem_singleton.mpr hconfig, by decide⟩

theorem device_through_js_disk :
    (parseDeviceObj (fun _ s => s) (ctoJSUsbDevice disk)).run none = (keptDevice (fun _ s => s) disk, none) ∧
      (keptDevice (fun _ s => s) disk).configs.map USBConfig.maxPower = [100] := by
  have hpower : ∀ c ∈ disk.configs, IsInt32 (c.maxPower * 2) := by
    refine List.forall_mem_singleton.mpr ?_
    unfold IsInt32
    decide
  exact ⟨device_through_js (fun _ s => s) disk_typed hpower, rfl⟩

end UsbManager.Js
