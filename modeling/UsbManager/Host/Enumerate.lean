import UsbManager.Descriptor.Errors
import UsbManager.Host.State

/-!
# Enumeration

`GetDeviceInfo`: what the manager reads from a device before it is added. The wait for the
device node is left out, its outcome is never used.
-/

namespace UsbManager.Host

open Descriptor

/-- Four hexadecimal digits. -/
def bcdToString (bcdUsb : UInt16) : String :=
  let digits := (Nat.toDigits 16 bcdUsb.toNat).map Char.toUpper
  String.ofList (List.replicate (4 - digits.length) '0' ++ digits)

/-- Bytes are `unsigned char` here, as on the targets of the service. -/
def utf16leToUtf8 (env : Env) (utf16leBytes : List UInt8) : String :=
  if utf16leBytes.length % 2 ≠ 0 then " "
  else
    let text := if utf16leBytes.take 2 = [0xFF, 0xFE] then utf16leBytes.drop 2 else utf16leBytes
    if text.length / 2 = 0 then " "
    else
      match env.iconv text with
      | none => " "
      | some str => String.ofList (str.toList.takeWhile (· ≠ '\x00'))

def descriptorTypeString : UInt8 := 3

/-- The text behind its header. What cannot be read is a blank. -/
def getDevStringValFromIdx (env : Env) (dev : UsbDev) (idx : UInt8) (s : HostState) : String × HostState :=
  if idx = 0 then (" ", s)
  else if !env.usbHostInterface then (" ", s)
  else
    let (ret, strV) := env.hdiGetStringDescriptor s.now dev idx
    let s := s.emit (.getStringDescriptor dev idx ret)
    if ret ≠ .ok then (" ", s)
    else if strV.length < 2 || strV.getD 1 0 ≠ descriptorTypeString then (" ", s)
    else (utf16leToUtf8 env (strV.drop 2), s)

def fillInterfaceName (env : Env) (dev : UsbDev) (i : UsbInterface) (s : HostState) : UsbInterface × HostState :=
  let (name, s) := getDevStringValFromIdx env dev i.iInterface s
  ({ i with name := name }, s)

def fillConfigName (env : Env) (dev : UsbDev) (c : USBConfig) (s : HostState) : USBConfig × HostState :=
  let (name, s) := getDevStringValFromIdx env dev c.iConfiguration s
  let (interfaces, s) := Loop.mapState (fillInterfaceName env dev) c.interfaces s
  ({ c with name := name, interfaces := interfaces }, s)

/-- The texts of the device, of its configurations and of their interfaces. -/
def fillDevStrings (env : Env) (d : UsbDevice) (s : HostState) : Ret × UsbDevice × HostState :=
  let (manufacturerName, s) := getDevStringValFromIdx env d.dev d.iManufacturer s
  let (productName, s) := getDevStringValFromIdx env d.dev d.iProduct s
  let (serial, s) := getDevStringValFromIdx env d.dev d.iSerialNumber s
  let (configs, s) := Loop.mapState (fillConfigName env d.dev) d.configs s
  (.ok, { d with
    version := bcdToString d.bcdUSB
    manufacturerName := manufacturerName
    productName := productName
    serial := serial
    configs := configs }, s)

/-- A read outside the buffer would be undefined. `parseConfigDescriptors_eq_walk` and
`parseDeviceDescriptor_total` show that a buffer below 4 GiB has none. -/
def orInvalid {α : Type} (a : α) : Except Fault (Ret × α) → Ret × α
  | .ok r => r
  | .error _ => (.uec .serviceInvalidValue, a)

/-- The configurations stand behind the device descriptor. -/
def cursorInit : Nat := 18

/-- A failed parse leaves the configurations of the device alone. -/
def getConfigDescriptor (env : Env) (d : UsbDevice) (descriptor : List UInt8) (s : HostState) :
    Ret × UsbDevice × HostState :=
  let (ret, configs) := orInvalid [] (parseConfigDescriptors descriptor cursorInit [])
  if ret ≠ .ok then (ret, d, s) else fillDevStrings env { d with configs := configs } s

def getRawDescriptor (env : Env) (dev : UsbDev) (s : HostState) : Ret × List UInt8 × HostState :=
  let ret := env.host (env.hdiGetRawDescriptor s.now dev).1
  (ret, if env.usbHostInterface then (env.hdiGetRawDescriptor s.now dev).2 else [], s.emit (.getRawDescriptor dev ret))

def getDeviceInfoDescriptor (env : Env) (uDev : UsbDev) (d : UsbDevice) (s : HostState) :
    Ret × List UInt8 × UsbDevice × HostState :=
  let (ret, descriptor, s) := getRawDescriptor env uDev s
  if ret ≠ .ok then (ret, descriptor, d, s)
  else if descriptor.length % 2 ^ 32 = 0 then (.uec .serviceInvalidValue, descriptor, d, s)
  else
    let d := { d with busNum := uDev.busNum, devAddr := uDev.devAddr, name := uDev.name }
    let (ret, d) := orInvalid d (parseDeviceDescriptor descriptor d)
    (ret, descriptor, d, s)

/-- A failed close hides the error before it. -/
def getDeviceInfo (env : Env) (uDev : UsbDev) (d : UsbDevice) (s : HostState) : Ret × UsbDevice × HostState :=
  let (ret, s) := openDevice env uDev s
  if ret ≠ .ok then (ret, d, s)
  else
    let (ret, descriptor, d, s) := getDeviceInfoDescriptor env uDev d s
    if ret ≠ .ok then
      let (res, s) := close env uDev s
      (if res ≠ .ok then res else ret, d, s)
    else
      let (res, d, s) := getConfigDescriptor env d descriptor s
      let (ret, s) := close env uDev s
      (if ret ≠ .ok then ret else res, d, s)

/-! ## What enumeration leaves alone -/

theorem getDevStringValFromIdx_devices (env : Env) (dev : UsbDev) (idx : UInt8) (s : HostState) :
    (getDevStringValFromIdx env dev idx s).2.devices = s.devices := by
  unfold getDevStringValFromIdx
  simp only
  split_ifs <;> rfl

theorem fillDevStrings_devices (env : Env) (d : UsbDevice) (s : HostState) :
    (fillDevStrings env d s).2.2.devices = s.devices := by
  have hintf : ∀ (i : UsbInterface) (s : HostState), (fillInterfaceName env d.dev i s).2.devices = s.devices :=
    fun i s => getDevStringValFromIdx_devices env d.dev i.iInterface s
  have hconfig : ∀ (c : USBConfig) (s : HostState), (fillConfigName env d.dev c s).2.devices = s.devices :=
    fun c s => (mapState_devices _ hintf _ _).trans (getDevStringValFromIdx_devices env d.dev c.iConfiguration s)
  unfold fillDevStrings
  simp only
  rw [mapState_devices _ hconfig, getDevStringValFromIdx_devices, getDevStringValFromIdx_devices, getDevStringValFromIdx_devices]

theorem getConfigDescriptor_devices (env : Env) (d : UsbDevice) (descriptor : List UInt8) (s : HostState) :
    (getConfigDescriptor env d descriptor s).2.2.devices = s.devices := by
  unfold getConfigDescriptor
  simp only
  split
  · rfl
  · exact fillDevStrings_devices env _ s

theorem getDeviceInfoDescriptor_devices (env : Env) (uDev : UsbDev) (d : UsbDevice) (s : HostState) :
    (getDeviceInfoDescriptor env uDev d s).2.2.2.devices = s.devices := by
  unfold getDeviceInfoDescriptor
  simp only
  split_ifs <;> rfl

theorem getDeviceInfo_devices (env : Env) (uDev : UsbDev) (d : UsbDevice) (s : HostState) :
    (getDeviceInfo env uDev d s).2.2.devices = s.devices := by
  have hinfo : (getDeviceInfoDescriptor env uDev d (openDevice env uDev s).2).2.2.2.devices = s.devices :=
    getDeviceInfoDescriptor_devices env uDev d _
  unfold getDeviceInfo
  simp only
  split
  · rfl
  split
  · exact hinfo
  · exact (getConfigDescriptor_devices env _ _ _).trans hinfo

/-! ## The address of an enumerated device -/

theorem parseDeviceDescriptor_dev (buffer : List UInt8) (d d' : UsbDevice) (ret : Ret)
    (h : parseDeviceDescriptor buffer d = .ok (ret, d')) : d'.dev = d.dev := by
  unfold parseDeviceDescriptor at h
  simp only [bind, Except.bind, pure, Except.pure] at h
  split_ifs at h
  · cases h; rfl
  · cases h; rfl
  · split at h
    · cases h
    · split_ifs at h <;> cases h <;> rfl

theorem getDeviceInfoDescriptor_dev (env : Env) (uDev : UsbDev) (d : UsbDevice) (s : HostState)
    (h : (getDeviceInfoDescriptor env uDev d s).1 = .ok) : (getDeviceInfoDescriptor env uDev d s).2.2.1.dev = uDev := by
  unfold getDeviceInfoDescriptor at h ⊢
  simp only at h ⊢
  split_ifs at h ⊢ with hraw hempty
  · exact absurd h hraw
  · obtain ⟨⟨ret, d'⟩, hparse⟩ := parseDeviceDescriptor_total (getRawDescriptor env uDev s).2.1
      { d with busNum := uDev.busNum, devAddr := uDev.devAddr, name := uDev.name }
    rw [hparse]
    exact parseDeviceDescriptor_dev _ _ _ _ hparse

theorem getConfigDescriptor_dev (env : Env) (d : UsbDevice) (descriptor : List UInt8) (s : HostState) :
    (getConfigDescriptor env d descriptor s).2.1.dev = d.dev := by
  unfold getConfigDescriptor
  simp only
  split <;> rfl

theorem getDeviceInfo_dev (env : Env) (uDev : UsbDev) (d : UsbDevice) (s : HostState)
    (h : (getDeviceInfo env uDev d s).1 = .ok) : (getDeviceInfo env uDev d s).2.1.dev = uDev := by
  unfold getDeviceInfo at h ⊢
  simp only at h ⊢
  split_ifs at h ⊢ with hopen hinfo hclose hclose
  · exact absurd h hopen
  · exact absurd h hclose
  · exact absurd h hinfo
  · exact absurd h hclose
  · rw [getConfigDescriptor_dev]
    exact getDeviceInfoDescriptor_dev env uDev d _ (not_not.mp hinfo)

/-! ## The bytes of a device -/

theorem getConfigDescriptor_of_error (env : Env) (d : UsbDevice) (descriptor : List UInt8) (s : HostState) (ret : Ret)
    (configs : List USBConfig) (h : parseConfigDescriptors descriptor cursorInit [] = .ok (ret, configs))
    (hret : ret ≠ .ok) : getConfigDescriptor env d descriptor s = (ret, d, s) := by
  rw [getConfigDescriptor, h]
  exact if_pos hret

/-- Whatever a device sends, the walk ends, reads inside the buffer, and fails only on a descriptor that is
bad where it stands. -/
theorem descriptor_walk_safe (descriptor : List UInt8) (hsize : descriptor.length < 2 ^ 32) :
    (∀ (offset : Nat) (configs : List USBConfig),
      (∃ ret found, parseConfigDescriptors descriptor offset configs = .ok (ret, found) ∧
        (ret ≠ .ok ↔ ∃ before r after,
          Chain.records (descriptor.drop offset) = before ++ r :: after ∧ Bad configs before r)) ∧
      ∀ cursor found, Reaches descriptor descriptor.length offset configs cursor found →
        offset ≤ cursor ∧ ∃ t, turn descriptor descriptor.length cursor found = .ok t ∧
          ∀ bLength found', t = .inr (bLength, found') → cursor + bLength.toNat ≤ descriptor.length) ∧
    ∀ (env : Env) (d : UsbDevice) (s : HostState) (ret : Ret) (found : List USBConfig),
      parseConfigDescriptors descriptor cursorInit [] = .ok (ret, found) → ret ≠ .ok →
      getConfigDescriptor env d descriptor s = (ret, d, s) := by
  refine ⟨fun offset configs => ⟨⟨_, _, parseConfigDescriptors_eq_walk descriptor hsize offset configs, ?_⟩, ?_⟩, ?_⟩
  · exact walk_error_iff _ configs
  · intro cursor found h
    exact ⟨(reaches_le descriptor hsize offset cursor configs found h).1, turn_spec descriptor cursor found⟩
  · intro env d s ret found h hret
    exact getConfigDescriptor_of_error env d descriptor s ret found h hret

/-- A device descriptor, then an interface without a configuration. -/
def orphanInterface : List UInt8 := List.replicate 18 0 ++ [9, 4, 0, 0, 0, 3, 1, 1, 0]

theorem descriptor_walk_safe_orphan :
    parseConfigDescriptors orphanInterface cursorInit [] = .ok (.uec .serviceInvalidValue, []) ∧
    (∃ before r after, Chain.records (orphanInterface.drop cursorInit) = before ++ r :: after ∧ Bad [] before r) ∧
    ∀ (env : Env) (d : UsbDevice) (s : HostState),
      getConfigDescriptor env d orphanInterface s = (.uec .serviceInvalidValue, d, s) := by
  have hparse : parseConfigDescriptors orphanInterface cursorInit [] = .ok (.uec .serviceInvalidValue, []) := by
    decide +kernel
  obtain ⟨hwalk, hget⟩ := descriptor_walk_safe orphanInterface (by decide)
  obtain ⟨⟨ret, found, h, hiff⟩, -⟩ := hwalk cursorInit []
  obtain ⟨rfl, rfl⟩ := Prod.mk.inj (Except.ok.inj (hparse.symm.trans h))
  exact ⟨hparse, hiff.mp (by decide), fun env d s => hget env d s _ _ hparse (by decide)⟩

end UsbManager.Host
