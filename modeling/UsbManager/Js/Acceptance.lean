import Mathlib.Tactic.Tauto
import UsbManager.Js.Bridge

/-!
# Objects that are taken as devices

Which objects of an application are read as a device without an exception, and what is read of them. A property that is
missing counts as zero or as the empty text.
-/

namespace UsbManager.Js

open Napi

/-! ## Properties -/

/-- The property is missing, or it has the type that is read. -/
def FieldOk {α : Type} (read? : JsValue → Option α) (object : JsValue) (fieldStr : String) : Prop :=
  ∀ field ∈ object.member? fieldStr, (read? field).isSome

/-- The same for several properties of one type. -/
def FieldsOk {α : Type} (read? : JsValue → Option α) (object : JsValue) (fields : List String) : Prop :=
  ∀ fieldStr ∈ fields, FieldOk read? object fieldStr

theorem fieldsOk_nil {α : Type} (read? : JsValue → Option α) (object : JsValue) : FieldsOk read? object [] := by
  intro fieldStr hmem
  cases hmem

theorem fieldsOk_cons {α : Type} (read? : JsValue → Option α) (object : JsValue) (fieldStr : String)
    (fields : List String) :
    FieldsOk read? object (fieldStr :: fields) ↔ FieldOk read? object fieldStr ∧ FieldsOk read? object fields :=
  List.forall_mem_cons

/-- The property is there, and it is an array of items that are all taken. -/
def ArrayOk (object : JsValue) (field : String) (P : JsValue → Prop) : Prop :=
  ∃ items, object.member? field = some (.array items) ∧ ∀ item ∈ items, P item

/-- What is read of a number: zero for one that is missing. -/
def intField (object : JsValue) (fieldStr : String) : Int :=
  ((object.member? fieldStr).bind JsValue.number?).getD 0

theorem accepts_jsObjectTo {α : Type} (kind : String) (read? : JsValue → Option α) (object : JsValue)
    (fieldStr : String) (fieldRef : α) :
    Accepts (jsObjectTo kind read? object fieldStr fieldRef) (FieldOk read? object fieldStr) := by
  unfold jsObjectTo FieldOk
  apply accepts_property (Q := fun field? => ∀ field ∈ field?, (read? field).isSome)
  intro field?
  rcases field? with - | field
  · exact (accepts_pure fieldRef).congr (by simp)
  · rcases hvalue : read? field with - | value
    · simp only [hvalue]
      exact (accepts_failure _ fieldRef).congr (by simp [hvalue])
    · simp only [hvalue]
      exact (accepts_pure value).congr (by simp [hvalue])

theorem accepts_int (object : JsValue) (fieldStr : String) :
    Accepts (jsObjectToInt object fieldStr) (FieldOk JsValue.number? object fieldStr) :=
  accepts_jsObjectTo _ _ _ _ _

theorem accepts_bool (object : JsValue) (fieldStr : String) :
    Accepts (jsObjectToBool object fieldStr) (FieldOk JsValue.boolean? object fieldStr) :=
  accepts_jsObjectTo _ _ _ _ _

theorem int_run (object : JsValue) (fieldStr : String) :
    ((jsObjectToInt object fieldStr).run none).1 = intField object fieldStr := by
  unfold jsObjectToInt jsObjectTo intField
  rw [(reads_getNamedProperty object fieldStr).run_bind]
  rcases object.member? fieldStr with - | field
  · rfl
  · rcases hvalue : field.number? with - | value
    · simp only [hvalue, Option.bind_some]
      rfl
    · simp only [hvalue, Option.bind_some]
      rfl

theorem accepts_parseObjs {α : Type} {parse : JsValue → NapiM α} {P : JsValue → Prop}
    (h : ∀ v, Accepts (parse v) (P v)) (owner field : String) (object : JsValue) :
    Accepts (parseObjs owner field parse object) (ArrayOk object field P) := by
  unfold parseObjs ArrayOk
  apply accepts_property (Q := fun objs? => ∃ items, objs? = some (.array items) ∧ ∀ item ∈ items, P item)
  intro objs?
  rcases objs? with - | objs
  · exact (accepts_failure _ none).congr (by simp)
  · cases objs with
    | array items => exact (Accepts.forElements h items).congr (by simp)
    | _ => exact (accepts_failure _ none).congr (by simp)

/-! ## Endpoints -/

/-- An endpoint that is taken goes in or out. -/
def EndpointOk (v : JsValue) : Prop :=
  FieldsOk JsValue.number? v
      ["address", "attributes", "interval", "maxPacketSize", "direction", "number", "type", "interfaceId"] ∧
    (intField v "direction" = 0x80 ∨ intField v "direction" = 0)

theorem accepts_endpoint (v : JsValue) : Accepts (parseEndpointObj v) (EndpointOk v) := by
  unfold parseEndpointObj
  refine ((accepts_int v "address").bind fun address => (accepts_int v "attributes").bind fun attributes =>
    (accepts_int v "interval").bind fun interval => (accepts_int v "maxPacketSize").bind fun maxPacketSize =>
    (accepts_int v "direction").bind (Q := fun direction => (direction = 0x80 ∨ direction = 0) ∧
      FieldsOk JsValue.number? v ["number", "type", "interfaceId"]) fun direction => ?_).congr ?_
  · split
    case isTrue hdirection =>
      apply ((accepts_int v "number").bind fun _ => (accepts_int v "type").bind fun _ =>
        (accepts_int v "interfaceId").bind fun _ => accepts_pure _).congr
      simp only [fieldsOk_cons, fieldsOk_nil, hdirection, true_and]
    case isFalse hdirection =>
      exact (accepts_failure _ _).congr (by simp [hdirection])
  · rw [int_run]
    simp only [EndpointOk, fieldsOk_cons]
    tauto

section

variable (getValueStringUtf8 : Nat → String → String)

theorem accepts_text (object : JsValue) (fieldStr : String) (bufLen : Nat) :
    Accepts (jsObjectToString getValueStringUtf8 object fieldStr bufLen) (FieldOk JsValue.string? object fieldStr) := by
  apply (accepts_jsObjectTo _ _ _ _ _).congr
  unfold FieldOk text?
  simp only [Option.isSome_map]

/-! ## Interfaces and configurations -/

/-- The name and the numbers may be missing, the endpoints may not. -/
def InterfaceOk (v : JsValue) : Prop :=
  FieldsOk JsValue.number? v ["id", "protocol", "clazz", "subClass", "alternateSetting"] ∧
    FieldsOk JsValue.string? v ["name"] ∧ ArrayOk v "endpoints" EndpointOk

theorem accepts_interface (v : JsValue) : Accepts (parseInterfaceObj getValueStringUtf8 v) (InterfaceOk v) := by
  unfold parseInterfaceObj
  apply ((accepts_int v "id").bind fun _ => (accepts_int v "protocol").bind fun _ =>
    (accepts_int v "clazz").bind fun _ => (accepts_int v "subClass").bind fun _ =>
    (accepts_int v "alternateSetting").bind fun _ => (accepts_text getValueStringUtf8 v "name" _).bind fun _ =>
    (accepts_parseObjs accepts_endpoint "interface" "endpoints" v).bind fun _ => accepts_pure _).congr
  simp only [InterfaceOk, fieldsOk_cons, fieldsOk_nil]
  tauto

def ConfigOk (v : JsValue) : Prop :=
  FieldsOk JsValue.number? v ["id", "attributes", "maxPower"] ∧ FieldsOk JsValue.string? v ["name"] ∧
    FieldsOk JsValue.boolean? v ["isRemoteWakeup", "isSelfPowered"] ∧ ArrayOk v "interfaces" InterfaceOk

theorem accepts_config (v : JsValue) : Accepts (parseConfigObj getValueStringUtf8 v) (ConfigOk v) := by
  unfold parseConfigObj
  apply ((accepts_int v "id").bind fun _ => (accepts_int v "attributes").bind fun _ =>
    (accepts_int v "maxPower").bind fun _ => (accepts_text getValueStringUtf8 v "name" _).bind fun _ =>
    (accepts_bool v "isRemoteWakeup").bind fun _ => (accepts_bool v "isSelfPowered").bind fun _ =>
    (accepts_parseObjs (accepts_interface getValueStringUtf8) "config" "interfaces" v).bind fun _ =>
    accepts_pure _).congr
  simp only [ConfigOk, fieldsOk_cons, fieldsOk_nil]
  tauto

/-! ## Devices -/

/-- Any object will do for the configurations, and one that is not an array has none. -/
def ConfigsOk (v : JsValue) : Prop :=
  ∃ configsObj, v.member? "configs" = some configsObj ∧ configsObj.isObject ∧
    ∀ c ∈ configsObj.array?.getD [], ConfigOk c

theorem accepts_configs (v : JsValue) : Accepts (parseConfigsObjs getValueStringUtf8 v) (ConfigsOk v) := by
  unfold parseConfigsObjs ConfigsOk
  apply accepts_property
    (Q := fun configs? => ∃ configsObj, configs? = some configsObj ∧ configsObj.isObject ∧
      ∀ c ∈ configsObj.array?.getD [], ConfigOk c)
  intro configs?
  rcases configs? with - | configsObj
  · exact (accepts_failure _ []).congr (by simp)
  · dsimp only
    split
    case isTrue hobject =>
      exact (Accepts.mapM (accepts_config getValueStringUtf8) _).congr (by simp [hobject])
    case isFalse hobject =>
      exact (accepts_failure _ []).congr (by simp [hobject])

/-- What a device has to be to raise no exception. -/
def DeviceOk (v : JsValue) : Prop :=
  FieldsOk JsValue.string? v ["name", "manufacturerName", "productName", "version", "serial"] ∧
    FieldsOk JsValue.number? v ["devAddress", "busNum", "vendorId", "productId", "clazz", "subClass", "protocol"] ∧
    ConfigsOk v

theorem accepts_device (deviceObj : JsValue) :
    ((parseDeviceObj getValueStringUtf8 deviceObj).run none).2 = none ↔ DeviceOk deviceObj := by
  have haccepts : Accepts (parseDeviceObj getValueStringUtf8 deviceObj) (DeviceOk deviceObj) := by
    have text := fun fieldStr => accepts_text getValueStringUtf8 deviceObj fieldStr defaultDescriptionSize
    have int := accepts_int deviceObj
    unfold parseDeviceObj
    apply ((text "name").bind fun _ => (text "manufacturerName").bind fun _ => (text "productName").bind fun _ =>
      (text "version").bind fun _ => (text "serial").bind fun _ => (int "devAddress").bind fun _ =>
      (int "busNum").bind fun _ => (int "vendorId").bind fun _ => (int "productId").bind fun _ =>
      (int "clazz").bind fun _ => (int "subClass").bind fun _ => (int "protocol").bind fun _ =>
      (accepts_configs getValueStringUtf8 deviceObj).bind fun _ => accepts_pure _).congr
    simp only [DeviceOk, fieldsOk_cons, fieldsOk_nil]
    tauto
  exact haccepts.quiet

/-! ## What is read -/

/-- What is read of a text: the empty one if it is missing. -/
def textField (object : JsValue) (fieldStr : String) : String :=
  ((object.member? fieldStr).bind (text? getValueStringUtf8 defaultDescriptionSize)).getD ""

/-- What is read of an array: no items if it is missing. -/
def arrayField (object : JsValue) (field : String) : List JsValue :=
  ((object.member? field).bind JsValue.array?).getD []

/-- The direction, the number and the type are not kept. -/
def readEndpoint (v : JsValue) : USBEndpoint :=
  ⟨UInt32.ofInt (intField v "address"), UInt32.ofInt (intField v "attributes"), intField v "interval",
    intField v "maxPacketSize", UInt8.ofInt (intField v "interfaceId")⟩

/-- The name is not kept. -/
def readInterface (v : JsValue) : UsbInterface :=
  { id := intField v "id", protocol := intField v "protocol", klass := intField v "clazz"
    subClass := intField v "subClass", alternateSetting := intField v "alternateSetting"
    endpoints := (arrayField v "endpoints").map readEndpoint }

/-- The attributes stand for the two flags, which are not kept. -/
def readConfig (v : JsValue) : USBConfig :=
  { id := intField v "id", attributes := UInt32.ofInt (intField v "attributes")
    name := textField getValueStringUtf8 v "name", maxPower := intField v "maxPower"
    interfaces := (arrayField v "interfaces").map readInterface }

/-- The serial number is not kept. -/
def readDevice (v : JsValue) : UsbDevice :=
  { name := textField getValueStringUtf8 v "name"
    manufacturerName := textField getValueStringUtf8 v "manufacturerName"
    productName := textField getValueStringUtf8 v "productName"
    version := textField getValueStringUtf8 v "version"
    devAddr := UInt8.ofInt (intField v "devAddress"), busNum := UInt8.ofInt (intField v "busNum")
    vendorId := intField v "vendorId", productId := intField v "productId"
    baseClass := intField v "clazz", subClass := intField v "subClass", protocol := intField v "protocol"
    configs := (arrayField v "configs").map (readConfig getValueStringUtf8) }

section

variable {getValueStringUtf8}

theorem reads_field {α : Type} {kind : String} {read? : JsValue → Option α} {object : JsValue} {fieldStr : String}
    (h : FieldOk read? object fieldStr) (fieldRef : α) :
    Reads (jsObjectTo kind read? object fieldStr fieldRef) (((object.member? fieldStr).bind read?).getD fieldRef) := by
  unfold jsObjectTo
  apply Reads.bind (reads_getNamedProperty object fieldStr)
  rcases hfield : object.member? fieldStr with - | field
  · exact Reads.pure fieldRef
  · obtain ⟨value, hvalue⟩ := Option.isSome_iff_exists.mp (h field hfield)
    simp only [hvalue, Option.bind_some, Option.getD_some]
    exact Reads.pure value

theorem reads_ints {object : JsValue} {fields : List String} (h : FieldsOk JsValue.number? object fields)
    {fieldStr : String} (hmem : fieldStr ∈ fields) :
    Reads (jsObjectToInt object fieldStr) (intField object fieldStr) :=
  reads_field (h fieldStr hmem) 0

theorem reads_texts {object : JsValue} {fields : List String} (h : FieldsOk JsValue.string? object fields)
    {fieldStr : String} (hmem : fieldStr ∈ fields) :
    Reads (jsObjectToString getValueStringUtf8 object fieldStr defaultDescriptionSize)
      (textField getValueStringUtf8 object fieldStr) := by
  refine reads_field (fun field hfield => ?_) ""
  rw [text?, Option.isSome_map]
  exact h fieldStr hmem field hfield

theorem reads_items {α : Type} {parse : JsValue → NapiM α} {read : JsValue → α} {P : JsValue → Prop}
    {object : JsValue} {field : String} (h : ArrayOk object field P) (hitems : ∀ v, P v → Reads (parse v) (read v))
    (owner : String) : Reads (parseObjs owner field parse object) (some ((arrayField object field).map read)) := by
  obtain ⟨items, hmember, hok⟩ := h
  unfold parseObjs arrayField
  apply Reads.bind (reads_getNamedProperty object field)
  rw [hmember]
  have hread : Reads (forElements parse (items.map id)) (some (items.map read)) :=
    Reads.forElements fun v hv => hitems v (hok v hv)
  rwa [List.map_id] at hread

theorem reads_readEndpoint {v : JsValue} (h : EndpointOk v) : Reads (parseEndpointObj v) (readEndpoint v) := by
  unfold parseEndpointObj
  apply Reads.bind (reads_ints h.1 (by decide))
  apply Reads.bind (reads_ints h.1 (by decide))
  apply Reads.bind (reads_ints h.1 (by decide))
  apply Reads.bind (reads_ints h.1 (by decide))
  apply Reads.bind (reads_ints h.1 (by decide))
  rw [if_pos h.2]
  apply Reads.bind (reads_ints h.1 (by decide))
  apply Reads.bind (reads_ints h.1 (by decide))
  apply Reads.bind (reads_ints h.1 (by decide))
  exact Reads.pure (readEndpoint v)

theorem reads_readInterface {v : JsValue} (h : InterfaceOk v) :
    Reads (parseInterfaceObj getValueStringUtf8 v) (readInterface v) := by
  obtain ⟨hints, htexts, hendpoints⟩ := h
  unfold parseInterfaceObj
  apply Reads.bind (reads_ints hints (by decide))
  apply Reads.bind (reads_ints hints (by decide))
  apply Reads.bind (reads_ints hints (by decide))
  apply Reads.bind (reads_ints hints (by decide))
  apply Reads.bind (reads_ints hints (by decide))
  apply Reads.bind (reads_texts htexts (by decide))
  apply Reads.bind (reads_items hendpoints (fun _ => reads_readEndpoint) "interface")
  exact Reads.pure (readInterface v)

theorem reads_readConfig {v : JsValue} (h : ConfigOk v) :
    Reads (parseConfigObj getValueStringUtf8 v) (readConfig getValueStringUtf8 v) := by
  obtain ⟨hints, htexts, hbools, hinterfaces⟩ := h
  unfold parseConfigObj
  apply Reads.bind (reads_ints hints (by decide))
  apply Reads.bind (reads_ints hints (by decide))
  apply Reads.bind (reads_ints hints (by decide))
  apply Reads.bind (reads_texts htexts (by decide))
  apply Reads.bind (reads_field (hbools "isRemoteWakeup" (by decide)) false)
  apply Reads.bind (reads_field (hbools "isSelfPowered" (by decide)) false)
  apply Reads.bind (reads_items hinterfaces (fun _ => reads_readInterface) "config")
  exact Reads.pure (readConfig getValueStringUtf8 v)

theorem reads_readConfigs {v : JsValue} (h : ConfigsOk v) :
    Reads (parseConfigsObjs getValueStringUtf8 v)
      ((arrayField v "configs").map (readConfig getValueStringUtf8)) := by
  obtain ⟨configsObj, hmember, hobject, hok⟩ := h
  unfold parseConfigsObjs arrayField
  apply Reads.bind (reads_getNamedProperty v "configs")
  simp only [hmember, Option.bind_some, hobject, if_true]
  have hread : Reads ((configsObj.array?.getD []).map id |>.mapM (parseConfigObj getValueStringUtf8))
      ((configsObj.array?.getD []).map (readConfig getValueStringUtf8)) :=
    Reads.mapM fun c hc => reads_readConfig (hok c hc)
  rwa [List.map_id] at hread

theorem reads_readDevice {v : JsValue} (h : DeviceOk v) :
    Reads (parseDeviceObj getValueStringUtf8 v) (readDevice getValueStringUtf8 v) := by
  obtain ⟨htexts, hints, hconfigs⟩ := h
  unfold parseDeviceObj
  iterate 5 apply Reads.bind (reads_texts htexts (by decide))
  iterate 7 apply Reads.bind (reads_ints hints (by decide))
  apply Reads.bind (reads_readConfigs hconfigs)
  exact Reads.pure (readDevice getValueStringUtf8 v)

end

/-- A device is taken without an exception exactly if its properties have their types wherever they are there, its
configurations and the arrays of interfaces and endpoints are there, and every endpoint goes in or out. Then what is
read is what the properties hold, with zero and the empty text for those that are missing. -/
theorem device_taken_iff (deviceObj : JsValue) :
    (((parseDeviceObj getValueStringUtf8 deviceObj).run none).2 = none ↔ DeviceOk deviceObj) ∧
      (DeviceOk deviceObj →
        ((parseDeviceObj getValueStringUtf8 deviceObj).run none).1 = readDevice getValueStringUtf8 deviceObj) :=
  ⟨accepts_device getValueStringUtf8 deviceObj, fun h => congrArg Prod.fst (reads_readDevice h)⟩

end

end UsbManager.Js
