import UsbManager.Accessory.Manager

/-!
# Keys of accessory rights

The record of an attached accessory has its serial number replaced by a hash of fixed width. The key
of a right joins manufacturer, product, version and the serial number of the caller's handle, which
may carry the bundle name in front. So the key depends on the form of the handle, and different
records can have the same key.
-/

namespace UsbManager.Accessory

/-! ## The record -/

/-- `std::hex`, `std::setw(16)` and `std::setfill('0')`. -/
def hexSerial (hashValue : UInt32) : String := String.ofList ((Nat.toDigits 16 hashValue.toNat).leftpad 16 '0')

/-- `std::hash` of strings and of 64-bit integers. -/
structure Hashes where
  string : String → UInt64
  int : UInt64 → UInt64

/-- The combined hash is cut to 32 bits before it is printed. -/
def serialValueHash (hashes : Hashes) (timestamp : UInt64) (serialValue : String) : String :=
  hexSerial (hashes.string serialValue ^^^ (hashes.int timestamp <<< 1)).toUInt32

/-- Fewer than five strings leave the record as it was. -/
def USBAccessory.setAccessory (access : USBAccessory) : List String → USBAccessory
  | manufacturer :: product :: description :: version :: serialNumber :: _ =>
    ⟨manufacturer, product, description, version, serialNumber⟩
  | _ => access

/-- The branch of `ProcessAccessoryStart` for a device that is in accessory mode and was not started. -/
def processAccessoryStart (hashes : Hashes) (timestamp : UInt64) (accessorys : List String) (m : AccessoryManager) :
    AccessoryManager :=
  let access := m.accessory.setAccessory accessorys
  ⟨{ access with serialNumber := serialValueHash hashes timestamp access.serialNumber }, .start⟩

/-- The handle that an application gets carries the name of its bundle in front of the serial number. -/
def getAccessoryList (m : AccessoryManager) (bundleName : String) : List USBAccessory :=
  if m.accStatus = .start then [{ m.accessory with serialNumber := bundleName ++ m.accessory.serialNumber }] else []

/-- A record as an attach stores it. -/
structure StoredAccessory extends USBAccessory where
  hashValue : UInt32
  hashed : serialNumber = hexSerial hashValue

def StoredAccessory.started (A : StoredAccessory) : AccessoryManager := ⟨A.toUSBAccessory, .start⟩

theorem processAccessoryStart_stored (hashes : Hashes) (timestamp : UInt64) (accessorys : List String)
    (m : AccessoryManager) :
    ∃ A : StoredAccessory, processAccessoryStart hashes timestamp accessorys m = A.started :=
  ⟨⟨(processAccessoryStart hashes timestamp accessorys m).accessory, _, rfl⟩, rfl⟩

theorem hexSerial_length (v : UInt32) : (hexSerial v).toList.length = 16 := by
  have hdigits : (Nat.toDigits 16 v.toNat).length ≤ 8 :=
    (Nat.length_toDigits_le_iff (by decide) (by decide)).mpr v.toNat_lt
  simp only [hexSerial, String.toList_ofList, List.length_leftpad]
  omega

theorem StoredAccessory.serial_length (A : StoredAccessory) : A.serialNumber.toList.length = 16 := by
  rw [A.hashed]
  exact hexSerial_length A.hashValue

/-! ## The key -/

/-- What the key holds of the name of the bundle. -/
def bundlePart (A : StoredAccessory) (bundleName : String) (access : USBAccessory) : String :=
  if access.serialNumber = A.serialNumber then "" else bundleName

/-- The key without the hash at its end. -/
def keyPart (A : StoredAccessory) (bundleName : String) (access : USBAccessory) : String :=
  A.manufacturer ++ A.product ++ A.version ++ bundlePart A bundleName access

theorem key_of_accepted (A : StoredAccessory) (bundleName : String) (access : USBAccessory) (key : String)
    (h : getAccessorySerialNumber A.started access bundleName = .ok key) :
    key = keyPart A bundleName access ++ A.serialNumber := by
  unfold getAccessorySerialNumber at h
  rw [if_neg (by simp [StoredAccessory.started])] at h
  split at h
  · rename_i hmatch
    simp only [Bool.and_eq_true, Bool.or_eq_true, decide_eq_true_eq] at hmatch
    simp only [StoredAccessory.started] at hmatch
    obtain ⟨⟨⟨⟨hman, hprod⟩, -⟩, hver⟩, hserial⟩ := hmatch
    obtain rfl := Except.ok.inj h
    unfold keyPart bundlePart
    rw [← hman, ← hprod, ← hver]
    by_cases hplain : access.serialNumber = A.serialNumber
    · simp [hplain]
    · have hprefixed := hserial.resolve_left fun hp => hplain hp.symm
      rw [if_neg hplain, ← hprefixed]
      simp only [String.append_assoc]
  · cases h

theorem keys_eq_iff (A B : StoredAccessory) (x y : String) :
    x ++ A.serialNumber = y ++ B.serialNumber ↔ x = y ∧ A.serialNumber = B.serialNumber := by
  constructor
  · intro h
    have hlist := congrArg String.toList h
    rw [String.toList_append, String.toList_append] at hlist
    obtain ⟨hx, hserial⟩ := List.append_inj' hlist (A.serial_length.trans B.serial_length.symm)
    exact ⟨String.toList_inj.mp hx, String.toList_inj.mp hserial⟩
  · rintro ⟨rfl, hserial⟩
    rw [hserial]

/-! ## When a key names one accessory -/

def SameIdentity (A B : StoredAccessory) : Prop :=
  A.manufacturer = B.manufacturer ∧ A.product = B.product ∧ A.version = B.version ∧ A.serialNumber = B.serialNumber

/-- Two handles of one accessory have the same form, and two accessories with the same hash do not
join to the same text. -/
structure KeysTellApart (A B : StoredAccessory) (bundleName : String) (a a' : USBAccessory) : Prop where
  sameForm : SameIdentity A B →
    bundleName = "" ∨ (a.serialNumber = A.serialNumber ↔ a'.serialNumber = B.serialNumber)
  apart : A.serialNumber = B.serialNumber → ¬ SameIdentity A B → keyPart A bundleName a ≠ keyPart B bundleName a'

theorem bundlePart_eq_iff (A B : StoredAccessory) (bundleName : String) (a a' : USBAccessory) :
    bundlePart A bundleName a = bundlePart B bundleName a' ↔
      bundleName = "" ∨ (a.serialNumber = A.serialNumber ↔ a'.serialNumber = B.serialNumber) := by
  unfold bundlePart
  by_cases ha : a.serialNumber = A.serialNumber
  · by_cases ha' : a'.serialNumber = B.serialNumber
    · simp [ha, ha']
    · simp [ha, ha', eq_comm]
  · by_cases ha' : a'.serialNumber = B.serialNumber
    · simp [ha, ha']
    · simp [ha, ha']

theorem keyPart_eq_iff (A B : StoredAccessory) (bundleName : String) (a a' : USBAccessory) (h : SameIdentity A B) :
    keyPart A bundleName a = keyPart B bundleName a' ↔
      bundleName = "" ∨ (a.serialNumber = A.serialNumber ↔ a'.serialNumber = B.serialNumber) := by
  obtain ⟨hman, hprod, hver, -⟩ := h
  rw [← bundlePart_eq_iff, keyPart, keyPart, hman, hprod, hver]
  exact String.append_right_inj _

/-- The keys of two accepted handles are equal exactly for the same accessory, if and only if the
handles have the same form and the texts do not run together. -/
theorem accessory_keys_iff (A B : StoredAccessory) (bundleName : String) (a a' : USBAccessory) (key key' : String)
    (ha : getAccessorySerialNumber A.started a bundleName = .ok key)
    (ha' : getAccessorySerialNumber B.started a' bundleName = .ok key') :
    (key = key' ↔ SameIdentity A B) ↔ KeysTellApart A B bundleName a a' := by
  rw [key_of_accepted A bundleName a key ha, key_of_accepted B bundleName a' key' ha', keys_eq_iff]
  constructor
  · intro h
    refine ⟨fun hsame => (keyPart_eq_iff A B bundleName a a' hsame).mp (h.mpr hsame).1, ?_⟩
    intro hserial hdiff hpart
    exact hdiff (h.mp ⟨hpart, hserial⟩)
  · intro h
    constructor
    · rintro ⟨hpart, hserial⟩
      by_contra hdiff
      exact h.apart hserial hdiff hpart
    · intro hsame
      exact ⟨(keyPart_eq_iff A B bundleName a a' hsame).mpr (h.sameForm hsame), hsame.2.2.2⟩

def pedometer : StoredAccessory := ⟨⟨"AB", "C", "", "1", hexSerial 0xbeef⟩, 0xbeef, rfl⟩

def pulseMeter : StoredAccessory := ⟨⟨"A", "BC", "", "1", hexSerial 0xbeef⟩, 0xbeef, rfl⟩

theorem accessory_keys_listed :
    let listed : USBAccessory := { pedometer.toUSBAccessory with serialNumber := "reader" ++ pedometer.serialNumber }
    getAccessoryList pedometer.started "reader" = [listed] ∧
      getAccessorySerialNumber pedometer.started listed "reader" = .ok "ABC1reader000000000000beef" ∧
      KeysTellApart pedometer pedometer "reader" listed listed := by
  intro listed
  have hkey : getAccessorySerialNumber pedometer.started listed "reader" = .ok "ABC1reader000000000000beef" := by
    decide +kernel
  exact ⟨rfl, hkey, (accessory_keys_iff pedometer pedometer "reader" listed listed _ _ hkey hkey).mp
    ⟨fun _ => ⟨rfl, rfl, rfl, rfl⟩, fun _ => rfl⟩⟩

/-- The handle of the attach event and the handle of the list have different keys, and two
accessories have the same one. -/
theorem accessory_keys_fail :
    let listed : USBAccessory := { pedometer.toUSBAccessory with serialNumber := "reader" ++ pedometer.serialNumber }
    getAccessorySerialNumber pedometer.started pedometer.toUSBAccessory "reader" = .ok "ABC1000000000000beef" ∧
      getAccessorySerialNumber pedometer.started listed "reader" = .ok "ABC1reader000000000000beef" ∧
      ¬ ("ABC1000000000000beef" = "ABC1reader000000000000beef" ↔ SameIdentity pedometer pedometer) ∧
      getAccessorySerialNumber pulseMeter.started pulseMeter.toUSBAccessory "reader" = .ok "ABC1000000000000beef" ∧
      ¬ ("ABC1000000000000beef" = "ABC1000000000000beef" ↔ SameIdentity pedometer pulseMeter) := by
  intro listed
  refine ⟨by decide +kernel, by decide +kernel, fun h => ?_, by decide +kernel, fun h => ?_⟩
  · exact absurd (h.mpr ⟨rfl, rfl, rfl, rfl⟩) (by decide)
  · exact absurd (h.mp rfl).1 (by decide)

end UsbManager.Accessory
