import UsbManager.Accessory.Manager
import UsbManager.Lib.Json

/-!
# Accessories as JSON

`GetJsonString` of `usb_accessory.h` and the constructor that reads the document.
-/

namespace UsbManager.Accessory

open Json

/-- The texts go out up to their first NUL. -/
def USBAccessory.members (access : USBAccessory) : List (String × Json) := [
  ("manufacturer", .string (cStr access.manufacturer)),
  ("product", .string (cStr access.product)),
  ("description", .string (cStr access.description)),
  ("version", .string (cStr access.version)),
  ("serialNumber", .string (cStr access.serialNumber))]

def USBAccessory.toJson (access : USBAccessory) : Json := .object access.members

def USBAccessory.getJsonString (cjson : Library) (access : USBAccessory) : String :=
  cjson.printUnformatted access.toJson

/-- What the constructor reads from a JSON object. -/
def USBAccessory.ofJson (accessory : Json) : USBAccessory where
  manufacturer := accessory.getStringValue "manufacturer"
  product := accessory.getStringValue "product"
  description := accessory.getStringValue "description"
  version := accessory.getStringValue "version"
  serialNumber := accessory.getStringValue "serialNumber"

structure USBAccessory.InJson (access : USBAccessory) : Prop where
  manufacturer : NoNul access.manufacturer
  product : NoNul access.product
  description : NoNul access.description
  version : NoNul access.version
  serialNumber : NoNul access.serialNumber

theorem USBAccessory.plain {access : USBAccessory} (h : access.InJson) : access.toJson.Plain := by
  apply Plain.object
  unfold members
  simp only [List.mem_cons, List.not_mem_nil, or_false, forall_eq_or_imp, forall_eq, cStr_eq h.manufacturer,
    cStr_eq h.product, cStr_eq h.description, cStr_eq h.version, cStr_eq h.serialNumber]
  exact ⟨.string h.manufacturer, .string h.product, .string h.description, .string h.version, .string h.serialNumber⟩

theorem USBAccessory.item {access : USBAccessory} {key : String} {j : Json} (h : (key, j) ∈ access.members) :
    access.toJson.getObjectItem key = some j := by
  refine getObjectItem_of_mem ?_ h
  show (["manufacturer", "product", "description", "version", "serialNumber"].map lower).Nodup
  decide

theorem USBAccessory.ofJson_toJson {access : USBAccessory} (h : access.InJson) : ofJson access.toJson = access := by
  have hitem : ∀ key s, NoNul s → (key, Json.string (cStr s)) ∈ access.members →
      access.toJson.getStringValue key = s := by
    intro key s hs hmem
    rw [getStringValue_eq (item hmem), cStr_eq hs]
  unfold ofJson
  rw [hitem "manufacturer" _ h.manufacturer (by simp [members]), hitem "product" _ h.product (by simp [members]),
    hitem "description" _ h.description (by simp [members]), hitem "version" _ h.version (by simp [members]),
    hitem "serialNumber" _ h.serialNumber (by simp [members])]

end UsbManager.Accessory
