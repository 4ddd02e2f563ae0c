import UsbManager.Accessory.Keys
import UsbManager.Js.RoundTrip
import UsbManager.Service.Operations

/-!
# Accessories that come back from JavaScript

An application is told to open the accessories of `getAccessoryList`. The service compares what it gets with the record
of the attached accessory, so a text that is cut on the way is not found.
-/

namespace UsbManager.Js

open Accessory Json Napi Rights Service

/-! ## Texts -/

theorem noNul_cStr (s : String) : NoNul (cStr s) := by
  unfold NoNul cStr
  rw [String.toList_ofList]
  intro hmem
  exact absurd (List.mem_takeWhile_imp hmem) (by simp)

theorem utf8ByteSize_cStr_le (s : String) : (cStr s).utf8ByteSize ≤ s.utf8ByteSize := by
  have hsplit : s = cStr s ++ String.ofList (s.toList.dropWhile (· ≠ '\x00')) := by
    unfold cStr
    rw [← String.ofList_append, List.takeWhile_append_dropWhile, String.ofList_toList]
  calc (cStr s).utf8ByteSize
      ≤ (cStr s ++ String.ofList (s.toList.dropWhile (· ≠ '\x00'))).utf8ByteSize := by
        rw [String.utf8ByteSize_append]
        exact Nat.le_add_right _ _
    _ = s.utf8ByteSize := by rw [← hsplit]

/-- A text that fits into the buffer is whole, and no text is longer than the buffer. -/
structure Utf8Buffer (getValueStringUtf8 : Nat → String → String) : Prop where
  fits : ∀ bufLen s, s.utf8ByteSize ≤ bufLen → getValueStringUtf8 bufLen s = s
  bounded : ∀ bufLen s, (getValueStringUtf8 bufLen s).utf8ByteSize ≤ bufLen

/-- The text comes back whole from a buffer of so many bytes. -/
def Survives (bufLen : Nat) (s : String) : Prop := NoNul s ∧ s.utf8ByteSize ≤ bufLen

instance (bufLen : Nat) (s : String) : Decidable (Survives bufLen s) :=
  inferInstanceAs (Decidable ('\x00' ∉ s.toList ∧ s.utf8ByteSize ≤ bufLen))

section

variable {getValueStringUtf8 : Nat → String → String} (hbuffer : Utf8Buffer getValueStringUtf8)
include hbuffer

theorem keptText_eq_iff (bufLen : Nat) (s : String) : keptText getValueStringUtf8 bufLen s = s ↔ Survives bufLen s := by
  unfold keptText
  constructor
  · intro hkept
    have hnul : NoNul s := hkept ▸ noNul_cStr _
    rw [cStr_eq hnul] at hkept
    refine ⟨hnul, ?_⟩
    calc s.utf8ByteSize
        = (cStr (getValueStringUtf8 bufLen s)).utf8ByteSize := by rw [hkept]
      _ ≤ (getValueStringUtf8 bufLen s).utf8ByteSize := utf8ByteSize_cStr_le _
      _ ≤ bufLen := hbuffer.bounded bufLen s
  · rintro ⟨hnul, hsize⟩
    rw [cStr_eq hnul, hbuffer.fits bufLen s hsize, cStr_eq hnul]

end

/-! ## Accessories -/

section

variable (getValueStringUtf8 : Nat → String → String)

def keptAccessory (access : USBAccessory) : USBAccessory :=
  let kept := keptText getValueStringUtf8 defaultAccessoryDescriptionSize
  ⟨kept access.manufacturer, kept access.product, kept access.description, kept access.version,
    kept access.serialNumber⟩

theorem reads_accessory (access : USBAccessory) :
    Reads (parseAccessoryObj getValueStringUtf8 (ctoJSUSBAccessory access))
      (keptAccessory getValueStringUtf8 access) := by
  unfold parseAccessoryObj
  apply Reads.bind (reads_text getValueStringUtf8 rfl)
  apply Reads.bind (reads_text getValueStringUtf8 rfl)
  apply Reads.bind (reads_text getValueStringUtf8 rfl)
  apply Reads.bind (reads_text getValueStringUtf8 rfl)
  apply Reads.bind (reads_text getValueStringUtf8 rfl)
  exact Reads.pure (keptAccessory getValueStringUtf8 access)

/-- The texts that are compared come back whole. The serial number may also lose the name of the bundle. -/
structure Recognised (accessory : USBAccessory) (bundleName : String) : Prop where
  manufacturer : Survives defaultAccessoryDescriptionSize accessory.manufacturer
  product : Survives defaultAccessoryDescriptionSize accessory.product
  description : Survives defaultAccessoryDescriptionSize accessory.description
  version : Survives defaultAccessoryDescriptionSize accessory.version
  serialNumber : Survives defaultAccessoryDescriptionSize (bundleName ++ accessory.serialNumber) ∨
    keptText getValueStringUtf8 defaultAccessoryDescriptionSize (bundleName ++ accessory.serialNumber) =
      accessory.serialNumber

variable {getValueStringUtf8}

theorem matched_iff (hbuffer : Utf8Buffer getValueStringUtf8) {m : AccessoryManager} {bundleName : String}
    {access : USBAccessory} (hlisted : access ∈ getAccessoryList m bundleName) :
    (∃ key, getAccessorySerialNumber m (keptAccessory getValueStringUtf8 access) bundleName = .ok key) ↔
      Recognised getValueStringUtf8 m.accessory bundleName := by
  unfold getAccessoryList at hlisted
  split at hlisted
  case isFalse => cases hlisted
  case isTrue hstart =>
    obtain rfl := List.mem_singleton.mp hlisted
    have hkept := keptText_eq_iff hbuffer defaultAccessoryDescriptionSize
    unfold getAccessorySerialNumber keptAccessory
    rw [if_neg (not_not.mpr hstart)]
    split
    case isTrue hsame =>
      simp only [Bool.and_eq_true, Bool.or_eq_true, decide_eq_true_eq] at hsame
      obtain ⟨⟨⟨⟨hmanufacturer, hproduct⟩, hdescription⟩, hversion⟩, hserial⟩ := hsame
      refine iff_of_true ⟨_, rfl⟩ ⟨(hkept _).mp hmanufacturer.symm, (hkept _).mp hproduct.symm,
        (hkept _).mp hdescription.symm, (hkept _).mp hversion.symm, ?_⟩
      rcases hserial with hserial | hserial
      · exact .inr hserial.symm
      · exact .inl ((hkept _).mp hserial.symm)
    case isFalse hdiffers =>
      refine iff_of_false (by rintro ⟨key, hkey⟩; cases hkey) fun h => hdiffers ?_
      simp only [Bool.and_eq_true, Bool.or_eq_true, decide_eq_true_eq]
      refine ⟨⟨⟨⟨((hkept _).mpr h.manufacturer).symm, ((hkept _).mpr h.product).symm⟩,
        ((hkept _).mpr h.description).symm⟩, ((hkept _).mpr h.version).symm⟩, ?_⟩
      rcases h.serialNumber with hserial | hserial
      · exact .inr ((hkept _).mpr hserial).symm
      · exact .inl hserial.symm

/-! ## Opening -/

theorem getAccessorySerialNumber_error {m : AccessoryManager} {access : USBAccessory} {bundleName : String} {ret : Ret}
    (h : getAccessorySerialNumber m access bundleName = .error ret) : ret = .uec .serviceAccessoryNotMatch := by
  unfold getAccessorySerialNumber at h
  split at h
  · exact (Except.error.inj h).symm
  · split at h
    · cases h
    · exact (Except.error.inj h).symm

theorem managerOpenAccessory_ne (hdi : AccessoryHdi) :
    managerOpenAccessory hdi ≠ .error (.ret (.uec .serviceAccessoryNotMatch)) := by
  unfold managerOpenAccessory
  split
  · simp
  · split
    · simp
    · split <;> simp

variable {ρ : Type} {c : Clients ρ} {m : AccessoryManager} {caller : Caller} {info : CallingInfo}
  (hm : c.service.usbAccessoryManager = some m) (hinfo : getCallingInfo caller = some info)
include hm hinfo

theorem openAccessory_notMatch_iff (env : RightEnv) (hdi : AccessoryHdi) (access : USBAccessory) :
    (openAccessory env hdi caller access c).1 = .error (.ret (.uec .serviceAccessoryNotMatch)) ↔
      ¬ ∃ key, getAccessorySerialNumber m access info.bundleName = .ok key := by
  unfold openAccessory
  rw [hm, hinfo]
  dsimp only
  rcases hkey : getAccessorySerialNumber m access info.bundleName with ret | key
  · rw [getAccessorySerialNumber_error hkey]
    exact iff_of_true rfl (by simp)
  · refine iff_of_false ?_ (by simp)
    -- The error of a missing right is another one, and so are those of the manager.
    dsimp only
    split
    · split
      · simp
      · rename_i ret hopen
        intro hret
        exact managerOpenAccessory_ne hdi (hopen.trans (congrArg Except.error (Except.error.inj hret)))
    · simp

/-- An application that opens an accessory of its list is not told that there is no such accessory, unless one of the
texts has a null or does not fit into the buffer on the way back. -/
theorem listed_accessory_found_iff (hbuffer : Utf8Buffer getValueStringUtf8) {access : USBAccessory}
    (hlisted : access ∈ getAccessoryList m info.bundleName) (env : RightEnv) (hdi : AccessoryHdi) :
    ∃ handed, (parseAccessoryObj getValueStringUtf8 (ctoJSUSBAccessory access)).run none = (handed, none) ∧
      ((openAccessory env hdi caller handed c).1 ≠ .error (.ret (.uec .serviceAccessoryNotMatch)) ↔
        Recognised getValueStringUtf8 m.accessory info.bundleName) := by
  refine ⟨keptAccessory getValueStringUtf8 access, reads_accessory getValueStringUtf8 access, ?_⟩
  rw [ne_eq, openAccessory_notMatch_iff hm hinfo, not_not]
  exact matched_iff hbuffer hlisted

end

/-- Texts that do not fit are left out. -/
def wholeTexts (bufLen : Nat) (s : String) : String := if s.utf8ByteSize ≤ bufLen then s else ""

theorem wholeTexts_buffer : Utf8Buffer wholeTexts := by
  constructor
  · intro bufLen s hsize
    exact if_pos hsize
  · intro bufLen s
    unfold wholeTexts
    split
    · assumption
    · exact Nat.zero_le bufLen

/-- A service with the pedometer attached. -/
def pedometerService : Clients Nat :=
  ⟨{ justStarted with usbAccessoryManager := some pedometer.started }, Host.Client.ClientState.empty, [], 0, []⟩

theorem listed_accessory_found_pedometer :
    let listed : USBAccessory := { pedometer.toUSBAccessory with serialNumber := "reader" ++ pedometer.serialNumber }
    let caller : Caller := ⟨537, false, some ("reader", 100)⟩
    getAccessoryList pedometer.started "reader" = [listed] ∧
      Recognised wholeTexts pedometer.toUSBAccessory "reader" ∧
      ∃ handed, (parseAccessoryObj wholeTexts (ctoJSUSBAccessory listed)).run none = (handed, none) ∧
        (openAccessory expiryDay ⟨true, (0, 7), .ok⟩ caller handed pedometerService).1 ≠
          .error (.ret (.uec .serviceAccessoryNotMatch)) := by
  intro listed caller
  have hm : pedometerService.service.usbAccessoryManager = some pedometer.started := rfl
  have hinfo : getCallingInfo caller = some ⟨"reader", toString caller.tokenId.toNat, 100⟩ := rfl
  have hlisted : listed ∈ getAccessoryList pedometer.started "reader" := List.mem_singleton_self listed
  have hrecognised : Recognised wholeTexts pedometer.toUSBAccessory "reader" :=
    ⟨by decide +kernel, by decide +kernel, by decide +kernel, by decide +kernel, .inl (by decide +kernel)⟩
  obtain ⟨handed, hparse, hopen⟩ :=
    listed_accessory_found_iff hm hinfo wholeTexts_buffer hlisted expiryDay ⟨true, (0, 7), .ok⟩
  exact ⟨rfl, hrecognised, handed, hparse, hopen.mpr hrecognised⟩

end UsbManager.Js
