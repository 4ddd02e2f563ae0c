import UsbManager.Lib.Fifo
import UsbManager.Types

/-!
# Devices in a parcel

`Marshalling` and `Unmarshalling` of `usb_device.h`, `usb_config.h`, `usb_interface.h` and `usb_endpoint.h`. A
parcel is a queue of typed values, in which an `Int32` and a `Uint32` are the same word. Every list is written
with its whole length and without its elements from the 129th on, and the readers stop at the same place.
-/

namespace UsbManager

open Fifo

/-! ## Parcels -/

/-- One entry of a parcel. `int32_t` and `uint32_t` are the same word. -/
inductive Value
  | uint8 (v : UInt8)
  | uint16 (v : UInt16)
  | word (v : UInt32)
  | string (v : String)
  deriving DecidableEq, Repr

/-- What is still to be read. -/
abbrev Parcel := List Value

namespace Parcel

def uint32 (v : UInt32) : Value := .word v

def int32 (v : Int) : Value := .word (Int32.ofInt v).toUInt32

def readUint8 : Reader Value UInt8
  | .uint8 v :: rest => some (v, rest)
  | _ => none

def readUint16 : Reader Value UInt16
  | .uint16 v :: rest => some (v, rest)
  | _ => none

def readUint32 : Reader Value UInt32
  | .word v :: rest => some (v, rest)
  | _ => none

def readInt32 : Reader Value Int
  | .word v :: rest => some (v.toInt32.toInt, rest)
  | _ => none

def readString : Reader Value String
  | .string v :: rest => some (v, rest)
  | _ => none

/-- The loop over the elements that stops at `count` and at `max`. -/
def writeList {α : Type} (count : UInt32) (max : Nat) (marshalling : α → Parcel) (l : List α) : Parcel :=
  (l.take (min count.toNat max)).flatMap marshalling

/-- A count above `max` is cut to it. What is left stays in the parcel. -/
def readList {α : Type} (count : UInt32) (max : Nat) (unmarshalling : Reader Value α) : Reader Value (List α) :=
  times unmarshalling (min count.toNat max)

/-- A value that an `int32_t` holds. -/
def IsInt32 (n : Int) : Prop := -2 ^ 31 ≤ n ∧ n < 2 ^ 31

theorem recovers_uint8 (v : UInt8) : Recovers readUint8 [.uint8 v] v := fun _ => rfl

theorem recovers_uint16 (v : UInt16) : Recovers readUint16 [.uint16 v] v := fun _ => rfl

theorem recovers_uint32 (v : UInt32) : Recovers readUint32 [uint32 v] v := fun _ => rfl

theorem recovers_string (v : String) : Recovers readString [.string v] v := fun _ => rfl

theorem recovers_int32 (n : Int) (h : IsInt32 n) : Recovers readInt32 [int32 n] n := by
  intro rest
  show some ((Int32.ofInt n).toUInt32.toInt32.toInt, rest) = some (n, rest)
  rw [Int32.toInt32_toUInt32, Int32.toInt_ofInt_of_le h.1 h.2]

theorem recovers_count (count : UInt32) : Recovers readUint32 [int32 count.toInt32.toInt] count := by
  intro rest
  show some ((Int32.ofInt count.toInt32.toInt).toUInt32, rest) = some (count, rest)
  rw [Int32.ofInt_toInt, UInt32.toUInt32_toInt32]

theorem recovers_list {α : Type} {marshalling : α → Parcel} {unmarshalling : Reader Value α} {back : α → α}
    (max : Nat) (l : List α) (hlen : l.length < 2 ^ 31) (h : ∀ x ∈ l, Recovers unmarshalling (marshalling x) (back x)) :
    Recovers (readList (UInt32.ofNat l.length) max unmarshalling)
      (writeList (UInt32.ofNat l.length) max marshalling l) ((l.take max).map back) := by
  unfold readList writeList
  have hcount : (UInt32.ofNat l.length).toNat = l.length := by
    rw [UInt32.toNat_ofNat']
    omega
  have htake : l.take (min l.length max) = l.take max := by
    rw [List.take_eq_take_iff]
    omega
  rw [hcount, htake, show min l.length max = (l.take max).length by rw [List.length_take]; omega]
  apply Recovers.times
  intro x hx
  exact h x (List.mem_of_mem_take hx)

end Parcel

open Parcel

/-! ## Endpoints -/

def USBEndpoint.marshalling (e : USBEndpoint) : Parcel :=
  [uint32 e.address, uint32 e.attributes, int32 e.interval, int32 e.maxPacketSize, .uint8 e.interfaceId]

def USBEndpoint.unmarshalling : Reader Value USBEndpoint := do
  let address ← readUint32
  let attributes ← readUint32
  let interval ← readInt32
  let maxPacketSize ← readInt32
  let interfaceId ← readUint8
  return { address, attributes, interval, maxPacketSize, interfaceId }

/-- The signed fields hold what an `int32_t` can hold. -/
structure USBEndpoint.Typed (e : USBEndpoint) : Prop where
  interval : IsInt32 e.interval
  maxPacketSize : IsInt32 e.maxPacketSize

theorem USBEndpoint.recovers (e : USBEndpoint) (h : e.Typed) : Recovers unmarshalling e.marshalling e := by
  unfold unmarshalling marshalling
  apply Recovers.cons (recovers_uint32 _)
  apply Recovers.cons (recovers_uint32 _)
  apply Recovers.cons (recovers_int32 _ h.interval)
  apply Recovers.cons (recovers_int32 _ h.maxPacketSize)
  apply Recovers.cons (recovers_uint8 _)
  exact Recovers.pure e

/-! ## Interfaces -/

def usbEndpointMaxNum : Nat := 128

def UsbInterface.marshalling (i : UsbInterface) : Parcel :=
  let epCount := UInt32.ofNat i.endpoints.length
  [int32 i.id, int32 i.protocol, int32 i.klass, int32 i.subClass, int32 i.alternateSetting, .string i.name,
    .uint8 i.iInterface, uint32 epCount] ++ writeList epCount usbEndpointMaxNum USBEndpoint.marshalling i.endpoints

def UsbInterface.unmarshalling : Reader Value UsbInterface := do
  let id ← readInt32
  let protocol ← readInt32
  let klass ← readInt32
  let subClass ← readInt32
  let alternateSetting ← readInt32
  let name ← readString
  let iInterface ← readUint8
  let epCount ← readUint32
  let endpoints ← readList epCount usbEndpointMaxNum USBEndpoint.unmarshalling
  return { id, protocol, klass, subClass, alternateSetting, name, iInterface, endpoints }

/-- The signed fields and the count fit an `int32_t`, and so do those of the endpoints. -/
structure UsbInterface.Typed (i : UsbInterface) : Prop where
  id : IsInt32 i.id
  protocol : IsInt32 i.protocol
  klass : IsInt32 i.klass
  subClass : IsInt32 i.subClass
  alternateSetting : IsInt32 i.alternateSetting
  endpoints : ∀ e ∈ i.endpoints, e.Typed
  epCount : i.endpoints.length < 2 ^ 31

/-- What of an interface goes through a parcel: not whether it is authorised, and 128 endpoints. -/
def UsbInterface.marshalled (i : UsbInterface) : UsbInterface :=
  { i with authorized := true, endpoints := i.endpoints.take 128 }

theorem UsbInterface.recovers (i : UsbInterface) (h : i.Typed) : Recovers unmarshalling i.marshalling i.marshalled := by
  unfold unmarshalling marshalling
  apply Recovers.cons (recovers_int32 _ h.id)
  apply Recovers.cons (recovers_int32 _ h.protocol)
  apply Recovers.cons (recovers_int32 _ h.klass)
  apply Recovers.cons (recovers_int32 _ h.subClass)
  apply Recovers.cons (recovers_int32 _ h.alternateSetting)
  apply Recovers.cons (recovers_string _)
  apply Recovers.cons (recovers_uint8 _)
  apply Recovers.cons (recovers_uint32 _)
  have hlist := recovers_list usbEndpointMaxNum i.endpoints h.epCount fun e he => e.recovers (h.endpoints e he)
  rw [List.map_id'] at hlist
  exact hlist.last

/-! ## Configurations -/

def usbInterfaceMaxNum : Nat := 128

def USBConfig.marshalling (c : USBConfig) : Parcel :=
  let infCount := UInt32.ofNat c.interfaces.length
  [int32 c.id, uint32 c.attributes, int32 c.maxPower, .uint8 c.iConfiguration, .string c.name, uint32 infCount] ++
    writeList infCount usbInterfaceMaxNum UsbInterface.marshalling c.interfaces

def USBConfig.unmarshalling : Reader Value USBConfig := do
  let id ← readInt32
  let attributes ← readUint32
  let maxPower ← readInt32
  let iConfiguration ← readUint8
  let name ← readString
  let infCount ← readUint32
  let interfaces ← readList infCount usbInterfaceMaxNum UsbInterface.unmarshalling
  return { id, attributes, maxPower, iConfiguration, name, interfaces }

structure USBConfig.Typed (c : USBConfig) : Prop where
  id : IsInt32 c.id
  maxPower : IsInt32 c.maxPower
  interfaces : ∀ i ∈ c.interfaces, i.Typed
  infCount : c.interfaces.length < 2 ^ 31

/-- What of a configuration goes through a parcel: 128 interfaces. -/
def USBConfig.marshalled (c : USBConfig) : USBConfig :=
  { c with interfaces := (c.interfaces.take 128).map UsbInterface.marshalled }

theorem USBConfig.recovers (c : USBConfig) (h : c.Typed) : Recovers unmarshalling c.marshalling c.marshalled := by
  unfold unmarshalling marshalling
  apply Recovers.cons (recovers_int32 _ h.id)
  apply Recovers.cons (recovers_uint32 _)
  apply Recovers.cons (recovers_int32 _ h.maxPower)
  apply Recovers.cons (recovers_uint8 _)
  apply Recovers.cons (recovers_string _)
  apply Recovers.cons (recovers_uint32 _)
  have hlist := recovers_list usbInterfaceMaxNum c.interfaces h.infCount fun i hi => i.recovers (h.interfaces i hi)
  exact hlist.last

/-! ## Devices -/

def usbConfigMaxNum : Nat := 128

def UsbDevice.marshalling (d : UsbDevice) : Parcel :=
  let configCount := UInt32.ofNat d.configs.length
  [.uint8 d.busNum, .uint8 d.devAddr, int32 d.vendorId, int32 d.productId, int32 d.baseClass, int32 d.subClass,
    int32 d.protocol, .uint8 d.iManufacturer, .uint8 d.iProduct, .uint8 d.iSerialNumber, .uint8 d.bMaxPacketSize0,
    .uint16 d.bcdUSB, .uint16 d.bcdDevice, .string d.name, .string d.manufacturerName, .string d.productName,
    .string d.version, .string d.serial, int32 configCount.toInt32.toInt] ++
    writeList configCount usbConfigMaxNum USBConfig.marshalling d.configs

def UsbDevice.unmarshalling : Reader Value UsbDevice := do
  let busNum ← readUint8
  let devAddr ← readUint8
  let vendorId ← readInt32
  let productId ← readInt32
  let baseClass ← readInt32
  let subClass ← readInt32
  let protocol ← readInt32
  let iManufacturer ← readUint8
  let iProduct ← readUint8
  let iSerialNumber ← readUint8
  let bMaxPacketSize0 ← readUint8
  let bcdUSB ← readUint16
  let bcdDevice ← readUint16
  let name ← readString
  let manufacturerName ← readString
  let productName ← readString
  let version ← readString
  let serial ← readString
  let configCount ← readUint32
  let configs ← readList configCount usbConfigMaxNum USBConfig.unmarshalling
  return { busNum, devAddr, vendorId, productId, baseClass, subClass, protocol, iManufacturer, iProduct,
           iSerialNumber, bMaxPacketSize0, bcdUSB, bcdDevice, name, manufacturerName, productName, version, serial,
           configs }

structure UsbDevice.Typed (d : UsbDevice) : Prop where
  vendorId : IsInt32 d.vendorId
  productId : IsInt32 d.productId
  baseClass : IsInt32 d.baseClass
  subClass : IsInt32 d.subClass
  protocol : IsInt32 d.protocol
  configs : ∀ c ∈ d.configs, c.Typed
  configCount : d.configs.length < 2 ^ 31

/-- What of a device goes through a parcel: not its status, not the count of configurations, and 128 of them. -/
def UsbDevice.marshalled (d : UsbDevice) : UsbDevice :=
  { d with authorizeStatus := .enabled, descConfigCount := 255, configs := (d.configs.take 128).map USBConfig.marshalled }

theorem UsbDevice.recovers (d : UsbDevice) (h : d.Typed) : Recovers unmarshalling d.marshalling d.marshalled := by
  unfold unmarshalling marshalling
  apply Recovers.cons (recovers_uint8 _)
  apply Recovers.cons (recovers_uint8 _)
  apply Recovers.cons (recovers_int32 _ h.vendorId)
  apply Recovers.cons (recovers_int32 _ h.productId)
  apply Recovers.cons (recovers_int32 _ h.baseClass)
  apply Recovers.cons (recovers_int32 _ h.subClass)
  apply Recovers.cons (recovers_int32 _ h.protocol)
  apply Recovers.cons (recovers_uint8 _)
  apply Recovers.cons (recovers_uint8 _)
  apply Recovers.cons (recovers_uint8 _)
  apply Recovers.cons (recovers_uint8 _)
  apply Recovers.cons (recovers_uint16 _)
  apply Recovers.cons (recovers_uint16 _)
  apply Recovers.cons (recovers_string _)
  apply Recovers.cons (recovers_string _)
  apply Recovers.cons (recovers_string _)
  apply Recovers.cons (recovers_string _)
  apply Recovers.cons (recovers_string _)
  apply Recovers.cons (recovers_count _)
  have hlist := recovers_list usbConfigMaxNum d.configs h.configCount fun c hc => c.recovers (h.configs c hc)
  exact hlist.last

/-- Reading undoes writing, up to what is not written, and leaves what follows. -/
theorem unmarshalling_marshalling (d : UsbDevice) (h : d.Typed) (rest : Parcel) :
    UsbDevice.unmarshalling (d.marshalling ++ rest) = some (d.marshalled, rest) :=
  d.recovers h rest

/-- Of 130 configurations the last two are lost, and the string behind them is the next to be read. -/
theorem unmarshalling_marshalling_cut :
    UsbDevice.unmarshalling ((UsbDevice.marshalling { configs := List.replicate 130 {} }) ++ [.string "next"]) =
      some ({ configs := List.replicate 128 {} }, [.string "next"]) := by
  have hconfig : USBConfig.Typed {} :=
    ⟨⟨by decide, by decide⟩, ⟨by decide, by decide⟩, fun _ h => (List.not_mem_nil h).elim, by decide⟩
  have htyped : UsbDevice.Typed { configs := List.replicate 130 {} } := by
    refine ⟨⟨by decide, by decide⟩, ⟨by decide, by decide⟩, ⟨by decide, by decide⟩, ⟨by decide, by decide⟩,
      ⟨by decide, by decide⟩, fun c hc => ?_, by simp⟩
    rw [List.eq_of_mem_replicate hc]
    exact hconfig
  rw [unmarshalling_marshalling _ htyped]
  rfl

end UsbManager
