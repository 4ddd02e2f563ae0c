import UsbManager.Types

/-!
# The accessory manager

`usb_accessory_manager.cpp`: which accessory is attached, and the string that names it in the
rights table.
-/

namespace UsbManager.Accessory

structure USBAccessory where
  manufacturer : String := ""
  product : String := ""
  description : String := ""
  version : String := ""
  serialNumber : String := ""
  deriving DecidableEq, Repr

/-- How far the gadget is on its way to an accessory. -/
inductive AccessoryMode
  | none
  | configuring
  | start
  | stop
  | send
  deriving DecidableEq, Repr

/-- The record of the accessory, and the mode. -/
structure AccessoryManager where
  accessory : USBAccessory
  accStatus : AccessoryMode

/-- The serial number may carry the name of the bundle in front. `compare` of the source is equality,
and the manufacturer is compared twice. -/
def getAccessorySerialNumber (m : AccessoryManager) (access : USBAccessory) (bundleName : String) : Except Ret String :=
  if m.accStatus ≠ .start then .error (.uec .serviceAccessoryNotMatch)
  else if m.accessory.manufacturer = access.manufacturer && m.accessory.product = access.product &&
      m.accessory.description = access.description && m.accessory.version = access.version &&
      (m.accessory.serialNumber = access.serialNumber ||
        bundleName ++ m.accessory.serialNumber = access.serialNumber) then
    .ok (access.manufacturer ++ access.product ++ access.version ++ access.serialNumber)
  else .error (.uec .serviceAccessoryNotMatch)

end UsbManager.Accessory
