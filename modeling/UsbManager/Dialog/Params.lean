import UsbManager.Accessory.Json
import UsbManager.Service.Grants

/-!
# What the dialog is told

`ShowUsbDialog` and `ShowSerialDialog` of `usb_right_manager.cpp` fill one map of parameters, which is sent to the dialog
as a message when the connection to it is up.
-/

namespace UsbManager.Dialog

open Rights Accessory Service Json

/-! ## Requests -/

/-- What the user is asked about. A device is named by its bus and its address. -/
inductive Target
  | device (busDev : String)
  | accessory (access : USBAccessory)
  | serial (portId : Int)

/-- The arguments of the three `GetUserAgreementByDiag`. -/
structure Request where
  target : Target
  deviceName : String
  bundleName : String
  tokenId : String
  userId : Int

/-- The key of the rows that answer the request. -/
def Request.key (r : Request) : RightKey := ⟨r.userId, r.deviceName, r.bundleName, r.tokenId⟩

/-- The bundle manager and the service, which are asked for names, and the printer of JSON. -/
structure Labels where
  cjson : Library
  appName : String → Option String
  productName : String → Option String

/-! ## Parameters -/

/-- The parameters of the dialog, by name. -/
abbrev DialogParams := StdMap String String

/-- `clear` and the assignments. -/
def fill (values : List (String × String)) : DialogParams := values.foldl (fun m v => m.set v.1 v.2) StdMap.empty

/-- A dialog for a port does not show the application under its own name. -/
def defaultSerialBundleName : String := "com.example.serial"

def defaultSerialDeviceName : String := "1-1"

/-- The token as an `int32_t`. A text that is no number and a token from 2^31 on show no dialog. -/
def castId? (tokenId : String) : Option Int :=
  if tokenId = "" || !isAllDigits tokenId then none
  else
    let castId := (accessTokenId tokenId).toInt32.toInt
    if castId < 0 then none else some castId

/-- An application or a device without a name is shown under its key. -/
def showUsbDialog (labels : Labels) (busDev bundleName tokenId : String) : DialogParams :=
  fill [
    ("bundleName", bundleName),
    ("deviceName", busDev),
    ("tokenId", tokenId),
    ("appName", (labels.appName bundleName).getD bundleName),
    ("productName", (labels.productName busDev).getD busDev)]

/-- `GetAccessoryName` always gives the product. -/
def showAccessoryDialog (labels : Labels) (access : USBAccessory) (seriaValue bundleName tokenId : String) : DialogParams :=
  fill [
    ("bundleName", bundleName),
    ("deviceName", seriaValue),
    ("tokenId", tokenId),
    ("appName", (labels.appName bundleName).getD bundleName),
    ("productName", access.product),
    ("accessory", access.getJsonString labels.cjson)]

def showSerialDialog (labels : Labels) (portId castId : Int) (bundleName : String) : DialogParams :=
  fill [
    ("portId", toString portId),
    ("tokenId", toString castId),
    ("bundleName", defaultSerialBundleName),
    ("deviceName", defaultSerialDeviceName),
    ("appName", (labels.appName bundleName).getD bundleName),
    ("productName", "COM" ++ toString portId)]

/-- `none` if no dialog is shown. -/
def Request.params? (labels : Labels) (r : Request) : Option DialogParams :=
  match r.target with
  | .device busDev => some (showUsbDialog labels busDev r.bundleName r.tokenId)
  | .accessory access => some (showAccessoryDialog labels access r.deviceName r.bundleName r.tokenId)
  | .serial portId => (castId? r.tokenId).map fun castId => showSerialDialog labels portId castId r.bundleName

/-- The message of `OnAbilityConnectDone`. -/
def dialogMessage (params : DialogParams) : List (String × String) :=
  params.entries.map (fun e => (e.1, cStr e.2)) ++ [("ability.want.params.uiExtensionType", "sysDialog/common")]

end UsbManager.Dialog
