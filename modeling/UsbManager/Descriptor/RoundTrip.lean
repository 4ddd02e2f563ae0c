import UsbManager.Descriptor.Walk

/-!
# Parsing undoes serialisation

A configuration tree written in USB layout, other descriptors in between, a cut-off
descriptor at the end: `parseConfigDescriptors` returns the tree. The only limit is the
32-bit length of the buffer.
-/

namespace UsbManager.Descriptor

/-! ## What is written -/

/-- `audio` holds the last two bytes of the 9-byte form. -/
structure EndpointNode where
  bEndpointAddress : UInt8
  bmAttributes : UInt8
  wMaxPacketSize : UInt16
  bInterval : UInt8
  audio : Option (UInt8 × UInt8)

/-- The fields of an interface descriptor that the parser keeps. -/
structure InterfaceHead where
  bInterfaceNumber : UInt8
  bAlternateSetting : UInt8
  bNumEndpoints : UInt8
  bInterfaceClass : UInt8
  bInterfaceSubClass : UInt8
  bInterfaceProtocol : UInt8
  iInterface : UInt8

structure InterfaceNode extends InterfaceHead where
  endpoints : List EndpointNode

/-- The fields of a configuration descriptor that the parser keeps. -/
structure ConfigHead where
  wTotalLength : UInt16
  bNumInterfaces : UInt8
  bConfigurationValue : UInt8
  iConfiguration : UInt8
  bmAttributes : UInt8
  bMaxPower : UInt8

structure ConfigNode extends ConfigHead where
  interfaces : List InterfaceNode

/-- A descriptor of 2 to 255 bytes with a type that the parser skips. -/
structure OtherDescriptor where
  bDescriptorType : UInt8
  body : List UInt8
  fits : body.length ≤ 253
  unknown : bDescriptorType ≠ 2 ∧ bDescriptorType ≠ 4 ∧ bDescriptorType ≠ 5

/-- One descriptor of a written tree. -/
inductive Desc
  | config (d : ConfigHead)
  | interface (d : InterfaceHead)
  | endpoint (d : EndpointNode)
  | other (d : OtherDescriptor)

/-- Words are written with the low byte first. -/
def lo (w : UInt16) : UInt8 := UInt8.ofNat (w.toNat % 256)

def hi (w : UInt16) : UInt8 := UInt8.ofNat (w.toNat / 256)

def Desc.encode : Desc → List UInt8
  | .config d => [9, 2, lo d.wTotalLength, hi d.wTotalLength, d.bNumInterfaces, d.bConfigurationValue,
      d.iConfiguration, d.bmAttributes, d.bMaxPower]
  | .interface d => [9, 4, d.bInterfaceNumber, d.bAlternateSetting, d.bNumEndpoints, d.bInterfaceClass,
      d.bInterfaceSubClass, d.bInterfaceProtocol, d.iInterface]
  | .endpoint d =>
    match d.audio with
    | none => [7, 5, d.bEndpointAddress, d.bmAttributes, lo d.wMaxPacketSize, hi d.wMaxPacketSize, d.bInterval]
    | some (bRefresh, bSynchAddress) => [9, 5, d.bEndpointAddress, d.bmAttributes, lo d.wMaxPacketSize,
        hi d.wMaxPacketSize, d.bInterval, bRefresh, bSynchAddress]
  | .other d => UInt8.ofNat (d.body.length + 2) :: d.bDescriptorType :: d.body

def Desc.isOther : Desc → Bool
  | .other _ => true
  | _ => false

def encodeAll (ds : List Desc) : List UInt8 := (ds.map Desc.encode).flatten

/-- Depth first, the node before what is under it. -/
def InterfaceNode.flat (i : InterfaceNode) : List Desc :=
  .interface i.toInterfaceHead :: i.endpoints.map .endpoint

def ConfigNode.flat (c : ConfigNode) : List Desc :=
  .config c.toConfigHead :: c.interfaces.flatMap InterfaceNode.flat

/-- `ds` is the tree with other descriptors in between. -/
def Interleaves (ds : List Desc) (tree : List ConfigNode) : Prop :=
  ds.filter (fun d => !d.isOther) = tree.flatMap ConfigNode.flat

/-! ## What it means -/

/-- What the parser makes of a written endpoint. -/
def EndpointNode.meaning (bInterfaceNumber : UInt8) (e : EndpointNode) : USBEndpoint where
  address := e.bEndpointAddress.toUInt32
  attributes := e.bmAttributes.toUInt32
  interval := e.bInterval.toNat
  maxPacketSize := e.wMaxPacketSize.toNat
  interfaceId := bInterfaceNumber

def InterfaceHead.meaning (i : InterfaceHead) : UsbInterface where
  id := i.bInterfaceNumber.toNat
  protocol := i.bInterfaceProtocol.toNat
  klass := i.bInterfaceClass.toNat
  subClass := i.bInterfaceSubClass.toNat
  alternateSetting := i.bAlternateSetting.toNat
  iInterface := i.iInterface

def InterfaceNode.meaning (i : InterfaceNode) : UsbInterface :=
  { i.toInterfaceHead.meaning with endpoints := i.endpoints.map (EndpointNode.meaning i.bInterfaceNumber) }

def ConfigHead.meaning (c : ConfigHead) : USBConfig where
  id := c.bConfigurationValue.toNat
  attributes := c.bmAttributes.toUInt32
  maxPower := c.bMaxPower.toNat
  iConfiguration := c.iConfiguration

def ConfigNode.meaning (c : ConfigNode) : USBConfig :=
  { c.toConfigHead.meaning with interfaces := c.interfaces.map InterfaceNode.meaning }

/-! ## One descriptor -/

theorem u16_lo_hi (w : UInt16) : u16 (lo w) (hi w) = w := by
  have hw : w.toNat < 65536 := w.toNat_lt
  have hlo : (lo w).toNat = w.toNat % 256 := by simp only [lo, UInt8.toNat_ofNat']; omega
  have hhi : (hi w).toNat = w.toNat / 256 := by simp only [hi, UInt8.toNat_ofNat']; omega
  rw [u16, hlo, hhi, show w.toNat % 256 + 256 * (w.toNat / 256) = w.toNat by omega]
  exact UInt16.ofNat_toNat

theorem encode_isRecord (d : Desc) : Chain.IsRecord d.encode := by
  match d with
  | .config d => exact ⟨by simp [Desc.encode], rfl⟩
  | .interface d => exact ⟨by simp [Desc.encode], rfl⟩
  | .endpoint d =>
    obtain ⟨_, _, _, _, _ | ⟨a, b⟩⟩ := d
    · exact ⟨by simp [Desc.encode], rfl⟩
    · exact ⟨by simp [Desc.encode], rfl⟩
  | .other d =>
    have := d.fits
    refine ⟨by simp [Desc.encode], ?_⟩
    simp only [Desc.encode, List.getD_cons_zero, UInt8.toNat_ofNat', List.length_cons]
    omega

theorem absorb_config (configs : List USBConfig) (d : ConfigHead) :
    absorb configs (Desc.config d).encode = (.ok, configs ++ [d.meaning]) := by
  rfl

theorem absorb_interface (configs : List USBConfig) (c : USBConfig) (d : InterfaceHead) :
    absorb (configs ++ [c]) (Desc.interface d).encode =
      (.ok, configs ++ [{ c with interfaces := c.interfaces ++ [d.meaning] }]) := by
  have : absorb (configs ++ [c]) (Desc.interface d).encode =
      addInterface (configs ++ [c]) (.ofBytes (Desc.interface d).encode) := rfl
  rw [this, addInterface, List.getLast?_concat]
  simp only [List.dropLast_concat]
  rfl

theorem absorb_endpoint (configs : List USBConfig) (c : USBConfig) (is : List UsbInterface)
    (i : UsbInterface) (n : UInt8) (hn : i.id = n.toNat) (d : EndpointNode) :
    absorb (configs ++ [{ c with interfaces := is ++ [i] }]) (Desc.endpoint d).encode =
      (.ok, configs ++ [{ c with
        interfaces := is ++ [{ i with endpoints := i.endpoints ++ [d.meaning n] }] }]) := by
  obtain ⟨addr, attr, w, interval, audio⟩ := d
  have h : absorb (configs ++ [{ c with interfaces := is ++ [i] }]) (Desc.endpoint ⟨addr, attr, w, interval, audio⟩).encode =
      addEndpoint (configs ++ [{ c with interfaces := is ++ [i] }])
        ⟨if audio = none then 7 else 9, 5, addr, attr, u16 (lo w) (hi w), interval⟩ := by
    rcases audio with _ | ⟨a, b⟩ <;> rfl
  rw [h, addEndpoint, List.getLast?_concat]
  simp only [List.getLast?_concat, List.dropLast_concat, u16_lo_hi, hn, ofInt_id]
  rfl

theorem absorb_other (configs : List USBConfig) (d : OtherDescriptor) :
    absorb configs (Desc.other d).encode = (.ok, configs) := by
  obtain ⟨h2, h4, h5⟩ := d.unknown
  simp [absorb, Desc.encode, descriptorTypeConfig, descriptorTypeInterface, descriptorTypeEndpoint, h2, h4, h5]

/-! ## The tree -/

theorem walk_filter (ds : List Desc) (configs : List USBConfig) :
    walk (ds.map Desc.encode) configs =
      walk ((ds.filter fun d => !d.isOther).map Desc.encode) configs := by
  induction ds generalizing configs with
  | nil => rfl
  | cons d ds ih =>
    cases d with
    | other o =>
      rw [List.map_cons, walk_cons_ok _ _ _ _ (absorb_other configs o), ih]
      rfl
    | config | interface | endpoint =>
      simp only [List.map_cons, List.filter_cons, Desc.isOther, Bool.not_false, if_true, walk, ih]

theorem walk_endpoints (es : List EndpointNode) (rest : List (List UInt8)) (configs : List USBConfig)
    (c : USBConfig) (is : List UsbInterface) (i : UsbInterface) (n : UInt8) (hn : i.id = n.toNat) :
    walk ((es.map Desc.endpoint).map Desc.encode ++ rest) (configs ++ [{ c with interfaces := is ++ [i] }]) =
      walk rest (configs ++ [{ c with
        interfaces := is ++ [{ i with endpoints := i.endpoints ++ es.map (EndpointNode.meaning n) }] }]) := by
  induction es generalizing i with
  | nil => simp
  | cons e es ih =>
    rw [List.map_cons, List.map_cons, List.cons_append,
      walk_cons_ok _ _ _ _ (absorb_endpoint configs c is i n hn e),
      ih { i with endpoints := i.endpoints ++ [e.meaning n] } hn]
    simp

theorem walk_interfaces (is : List InterfaceNode) (rest : List (List UInt8)) (configs : List USBConfig)
    (c : USBConfig) :
    walk ((is.flatMap InterfaceNode.flat).map Desc.encode ++ rest) (configs ++ [c]) =
      walk rest (configs ++ [{ c with interfaces := c.interfaces ++ is.map InterfaceNode.meaning }]) := by
  induction is generalizing c with
  | nil => simp
  | cons i is ih =>
    rw [List.flatMap_cons, List.map_append, List.append_assoc, InterfaceNode.flat, List.map_cons,
      List.cons_append, walk_cons_ok _ _ _ _ (absorb_interface configs c _),
      walk_endpoints _ _ configs c c.interfaces _ i.bInterfaceNumber rfl, ih]
    simp [InterfaceNode.meaning, InterfaceHead.meaning]

theorem walk_configs (tree : List ConfigNode) (configs : List USBConfig) :
    walk ((tree.flatMap ConfigNode.flat).map Desc.encode) configs =
      (.ok, configs ++ tree.map ConfigNode.meaning) := by
  induction tree generalizing configs with
  | nil => simp [walk]
  | cons c tree ih =>
    rw [List.flatMap_cons, List.map_append, ConfigNode.flat, List.map_cons, List.cons_append,
      walk_cons_ok _ _ _ _ (absorb_config configs _), walk_interfaces, ih]
    simp [ConfigNode.meaning, ConfigHead.meaning]

theorem records_encodeAll (ds : List Desc) (tail : List UInt8) (htail : Chain.Stops tail) :
    Chain.records (encodeAll ds ++ tail) = ds.map Desc.encode := by
  apply Chain.records_flatten_append _ _ _ htail
  intro r hr
  obtain ⟨d, -, rfl⟩ := List.mem_map.mp hr
  exact encode_isRecord d

theorem walk_interleaved (tree : List ConfigNode) (ds : List Desc) (hds : Interleaves ds tree)
    (configs : List USBConfig) :
    walk (ds.map Desc.encode) configs = (.ok, configs ++ tree.map ConfigNode.meaning) := by
  rw [walk_filter, hds, walk_configs]

/-! ## The round trip -/

/-- Every buffer below 4 GiB that holds a written tree parses to the tree. -/
theorem parse_written_tree (tree : List ConfigNode) (ds : List Desc) (hds : Interleaves ds tree)
    (before tail : List UInt8) (htail : Chain.Stops tail)
    (hsize : (before ++ (encodeAll ds ++ tail)).length < 2 ^ 32) (configs : List USBConfig) :
    parseConfigDescriptors (before ++ (encodeAll ds ++ tail)) before.length configs =
      .ok (.ok, configs ++ tree.map ConfigNode.meaning) := by
  rw [parseConfigDescriptors_eq_walk _ hsize, List.drop_left, records_encodeAll ds tail htail,
    walk_interleaved tree ds hds]

/-- One configuration, one interface with an endpoint of each size. -/
def sampleTree : List ConfigNode :=
  [⟨⟨41, 1, 3, 4, 0x80, 50⟩, [⟨⟨7, 1, 2, 8, 6, 0x50, 5⟩,
    [⟨0x81, 2, 512, 0, none⟩, ⟨0x02, 1, 0x1234, 4, some (0, 0x83)⟩]⟩]⟩]

def sampleDescs : List Desc :=
  .other ⟨11, [0, 1, 2], by decide, by decide⟩ :: sampleTree.flatMap ConfigNode.flat

theorem parse_written_tree_sample :
    parseConfigDescriptors ([0xAA] ++ (encodeAll sampleDescs ++ [9, 2])) 1 [] =
      .ok (.ok, [] ++ sampleTree.map ConfigNode.meaning) :=
  parse_written_tree sampleTree sampleDescs rfl [0xAA] [9, 2] (by decide) (by decide) []

theorem parseConfigDescriptors_of_size_zero (descriptor : List UInt8) (h : descriptor.length % 2 ^ 32 = 0)
    (offset : Nat) (configs : List USBConfig) :
    parseConfigDescriptors descriptor offset configs = .ok (.ok, configs) := by
  rw [parseConfigDescriptors, h]
  exact if_neg (Nat.not_lt_zero offset)

/-- A 4 GiB buffer: the configuration at its end is not seen. -/
theorem parse_written_tree_fails_at_4GiB :
    ¬ ∀ (tree : List ConfigNode) (ds : List Desc) (before tail : List UInt8), Interleaves ds tree →
      Chain.Stops tail → before.length < 2 ^ 32 →
      parseConfigDescriptors (before ++ (encodeAll ds ++ tail)) before.length [] =
        .ok (.ok, tree.map ConfigNode.meaning) := by
  intro h
  obtain ⟨before, hbefore⟩ : ∃ before : List UInt8, before.length = 2 ^ 32 - 9 :=
    ⟨_, List.length_replicate (n := 2 ^ 32 - 9) (a := 0)⟩
  let c : ConfigNode := ⟨⟨9, 0, 1, 0, 0x80, 50⟩, []⟩
  have hwritten : (encodeAll [.config c.toConfigHead] ++ []).length = 9 := rfl
  have hc := h [c] [.config c.toConfigHead] before [] rfl (by decide) (by omega)
  rw [parseConfigDescriptors_of_size_zero] at hc
  · simp at hc
  · rw [List.length_append, hwritten]
    omega

end UsbManager.Descriptor
