import UsbManager.Dialog.Params
import UsbManager.Js.Accessories

/-!
# What the dialog grants

The button of `UsbDialog.ets` that allows the access, and the three functions of `usb_info.cpp` and `serial_info.cpp`
that it calls. The dialog knows the three forms of a request by the keys that are there. Numbers go through an `int32_t`
and texts through a buffer on the way to the service. The features for hosts and for gadgets are both there.
-/

namespace UsbManager.Dialog

open Accessory Service Json Napi Js

/-! ## The bindings -/

/-- What the JavaScript engine does: `JSON.parse`, and the texts that it copies into a buffer. -/
structure Engine where
  jsonParse : String → Option JsValue
  getValueStringUtf8 : Nat → String → String

/-- The bytes of a text that the bindings read. -/
def strDefaultSize : Nat := 256

section

variable (engine : Engine)

/-- `none` is an exception. -/
def deviceAddAccessRight (tokenId deviceName : JsValue) : Option Grant := do
  let tokenId ← text? engine.getValueStringUtf8 strDefaultSize tokenId
  let deviceName ← text? engine.getValueStringUtf8 strDefaultSize deviceName
  return .addAccessRight tokenId deviceName

/-- An exception from within the accessory does not keep the right from being added. -/
def deviceAddAccessoryRight (tokenId accessoryObj : JsValue) : Option Grant := do
  let tokenId ← tokenId.number?
  if accessoryObj.isObject then
    return .addAccessoryRight (UInt32.ofInt tokenId) ((parseAccessoryObj engine.getValueStringUtf8 accessoryObj).run none).1
  else none

/-- The values that the variables start with are taken as failures. -/
def serialAddRightNapi (tokenId portId : JsValue) : Option Grant := do
  let tokenIdValue ← tokenId.number?
  if tokenIdValue = 0 then none
  else
    let portIdValue ← portId.number?
    if portIdValue = -1 then none else return .addSerialRight (UInt32.ofInt tokenIdValue) portIdValue

/-! ## The button -/

def naturalOf (digits : List Char) : Option Nat :=
  if digits ≠ [] ∧ digits.all Char.isDigit then some (Decimal.value digits) else none

def numeral? (text : String) : Option Int :=
  if text.toList.head? = some '-' then (naturalOf text.toList.tail).map fun (n : Nat) => -(n : Int)
  else (naturalOf text.toList).map fun (n : Nat) => (n : Int)

/-- `Number` and `parseInt`, which agree on numerals; no other texts come here. -/
def numberOf (text? : Option String) : JsValue := .number ((text?.bind numeral?).map fun (n : Int) => (n : Rat))

def valueOf (text? : Option String) : JsValue := text?.elim .undefined .string

/-- An exception, `none`, only closes the dialog. -/
def allow (want : List (String × String)) : Option Grant :=
  match want.lookup "accessory" with
  | none =>
    match want.lookup "portId" with
    | none => deviceAddAccessRight engine (valueOf (want.lookup "tokenId")) (valueOf (want.lookup "deviceName"))
    | some portId => serialAddRightNapi (numberOf (want.lookup "tokenId")) (numberOf (some portId))
  | some accessory => do
    let accessoryInfo ← engine.jsonParse accessory
    deviceAddAccessoryRight engine (numberOf (want.lookup "tokenId")) accessoryInfo

end

end UsbManager.Dialog
