import UsbManager.Descriptor.RoundTrip

/-!
# The parser for one configuration

`ParseConfigDescriptor` with `ParseInterfaceDescriptor` and `ParseEndpointDescriptor`; the
service calls only the list parser. `buffer` holds the bytes that are there (none for a null
pointer), `length` is what the caller says. The loops to the next interface or endpoint test
the length of a header the wrong way round: `bLength >= 2` is an error, `bLength = 0` is not.
-/

namespace UsbManager.Descriptor

/-- `a - b` of two `uint32_t`. -/
def sub32 (a b : Nat) : Nat := (2 ^ 32 + a - b) % 2 ^ 32

/-! ## The three functions -/

/-- The loop to the next descriptor of one type. `.ok` means that it was left with `break` or at the end. -/
def skipTo (descriptorType : UInt8) (buffer : List UInt8) (length : Nat) : Nat → Nat → Except Fault (Ret × Nat)
  | 0, _ => .error .outOfFuel
  | fuel + 1, cursor =>
    if cursor < length then
      if headerSize ≥ length - cursor then .ok (.uec .serviceInvalidValue, cursor)
      else do
        let header ← headerAt buffer cursor
        if header.bLength.toNat ≥ headerSize then return (.uec .serviceInvalidValue, cursor)
        if header.bDescriptorType = descriptorType then return (.ok, cursor)
        skipTo descriptorType buffer length fuel ((cursor + header.bLength.toNat) % 2 ^ 32)
    else .ok (.ok, cursor)

/-- The room is compared with the size of an interface descriptor. -/
def parseEndpointDescriptor (fuel : Nat) (buffer : List UInt8) (length cursor : Nat) (ep : USBEndpoint) :
    Except Fault (Ret × Nat × USBEndpoint) := do
  if length = 0 then return (.uec .serviceInvalidValue, cursor, ep)
  let (ret, cursor) ← skipTo descriptorTypeEndpoint buffer length fuel cursor
  if ret ≠ .ok then return (ret, cursor, ep)
  if sub32 length cursor < interfaceDescriptorSize then return (.uec .serviceInvalidValue, cursor, ep)
  let d ← endpointDescriptorAt buffer cursor
  if d.bLength ≠ normalEndpointDescriptor ∧ d.bLength ≠ audioEndpointDescriptor then
    return (.uec .serviceInvalidValue, cursor, ep)
  return (.ok, (cursor + d.bLength.toNat) % 2 ^ 32, { ep with
    address := d.bEndpointAddress.toUInt32
    attributes := d.bmAttributes.toUInt32
    interval := d.bInterval.toNat
    maxPacketSize := d.wMaxPacketSize.toNat })

/-- The `for` loop over the endpoints. What `parseEndpointDescriptor` returns is not looked at. -/
def parseEndpoints (fuel : Nat) (buffer : List UInt8) (length : Nat) (bInterfaceNumber : UInt8) :
    Nat → Nat → List USBEndpoint → Except Fault (Nat × List USBEndpoint)
  | 0, cursor, eps => .ok (cursor, eps)
  | count + 1, cursor, eps => do
    let (_, epCursor, ep) ← parseEndpointDescriptor fuel (buffer.drop cursor) (sub32 length cursor) 0 {}
    parseEndpoints fuel buffer length bInterfaceNumber count ((cursor + epCursor) % 2 ^ 32)
      (eps ++ [{ ep with interfaceId := bInterfaceNumber }])

/-- The endpoints follow the interface in the same buffer. -/
def parseInterfaceDescriptor (fuel : Nat) (buffer : List UInt8) (length cursor : Nat) (interface : UsbInterface) :
    Except Fault (Ret × Nat × UsbInterface) := do
  if length = 0 then return (.uec .serviceInvalidValue, cursor, interface)
  let (ret, cursor) ← skipTo descriptorTypeInterface buffer length fuel cursor
  if ret ≠ .ok then return (ret, cursor, interface)
  if sub32 length cursor < interfaceDescriptorSize then return (.uec .serviceInvalidValue, cursor, interface)
  let d ← interfaceDescriptorAt buffer cursor
  if d.bLength.toNat ≠ interfaceDescriptorSize then return (.uec .serviceInvalidValue, cursor, interface)
  let cursor := (cursor + d.bLength.toNat) % 2 ^ 32
  let interface := { interface with
    id := d.bInterfaceNumber.toNat
    protocol := d.bInterfaceProtocol.toNat
    alternateSetting := d.bAlternateSetting.toNat
    klass := d.bInterfaceClass.toNat
    subClass := d.bInterfaceSubClass.toNat
    iInterface := d.iInterface }
  let (cursor, eps) ← parseEndpoints fuel buffer length d.bInterfaceNumber d.bNumEndpoints.toNat cursor []
  return (.ok, cursor, { interface with endpoints := eps })

/-- A repeated number does not count, and takes the place of the first one if it has endpoints. -/
def keepInterface (i : Nat) (interfaces : List UsbInterface) (interface : UsbInterface) : Nat × List UsbInterface :=
  let iter := interfaces.findIdx (·.id = interface.id)
  let endpointCount : Int := interface.endpoints.length
  if endpointCount ≥ 0 ∧ ¬ iter < interfaces.length then (i + 1, interfaces ++ [interface])
  else if endpointCount > 0 ∧ iter < interfaces.length then (i, interfaces.set iter interface)
  else (i, interfaces)

/-- The `for` loop over the interfaces. -/
def parseInterfaces (buffer : List UInt8) (length : Nat) (bNumInterfaces : UInt8) :
    Nat → Nat → Nat → List UsbInterface → Except Fault (Ret × Nat × List UsbInterface)
  | 0, _, _, _ => .error .outOfFuel
  | fuel + 1, i, cursor, interfaces =>
    if i < bNumInterfaces.toNat ∧ cursor < length then do
      let (ret, interfaceCursor, interface) ←
        parseInterfaceDescriptor fuel (buffer.drop cursor) (length - cursor) 0 {}
      if ret ≠ .ok then return (.uec .serviceInvalidValue, cursor, interfaces)
      let (i, interfaces) := keepInterface i interfaces interface
      parseInterfaces buffer length bNumInterfaces fuel i ((cursor + interfaceCursor) % 2 ^ 32) interfaces
    else .ok (.ok, cursor, interfaces)

/-- The descriptor is read from the start of the buffer, before the length is checked. -/
def parseConfigDescriptor (fuel : Nat) (buffer : List UInt8) (length cursor : Nat) (config : USBConfig) :
    Except Fault (Ret × Nat × USBConfig) := do
  if length = 0 then return (.uec .serviceInvalidValue, cursor, config)
  let d ← configDescriptorAt buffer 0
  if length < configDescriptorSize ∨ d.bLength.toNat ≠ configDescriptorSize then
    return (.uec .serviceInvalidValue, cursor, config)
  let cursor := (cursor + configDescriptorSize) % 2 ^ 32
  let config := { config with
    id := d.bConfigurationValue.toNat
    attributes := d.bmAttributes.toUInt32
    maxPower := d.bMaxPower.toNat
    iConfiguration := d.iConfiguration }
  let (ret, cursor, interfaces) ← parseInterfaces buffer length d.bNumInterfaces fuel 0 cursor []
  if ret ≠ .ok then return (ret, cursor, config)
  return (.ok, cursor, { config with interfaces := interfaces })

/-! ## Where the loop does not end -/

/-- A header of length 0 that is not wanted, behind headers of length 1, with a byte left after it. -/
def Stuck (wanted : UInt8) (l : List UInt8) : Prop :=
  ∃ k t rest, l = List.replicate k 1 ++ 0 :: t :: rest ∧ t ≠ wanted ∧ rest ≠ []

theorem stuck_cons (wanted a : UInt8) (l : List UInt8) :
    Stuck wanted (a :: l) ↔
      (a = 0 ∧ ∃ t rest, l = t :: rest ∧ t ≠ wanted ∧ rest ≠ []) ∨ (a = 1 ∧ Stuck wanted l) := by
  constructor
  · rintro ⟨k, t, rest, h, ht, hrest⟩
    cases k with
    | zero =>
      obtain ⟨rfl, rfl⟩ := List.cons.inj h
      exact .inl ⟨rfl, t, rest, rfl, ht, hrest⟩
    | succ k =>
      obtain ⟨rfl, rfl⟩ := List.cons.inj h
      exact .inr ⟨rfl, k, t, rest, rfl, ht, hrest⟩
  · rintro (⟨rfl, t, rest, rfl, ht, hrest⟩ | ⟨rfl, k, t, rest, rfl, ht, hrest⟩)
    · exact ⟨0, t, rest, rfl, ht, hrest⟩
    · exact ⟨k + 1, t, rest, rfl, ht, hrest⟩

theorem stuck_length (wanted : UInt8) (l : List UInt8) (h : Stuck wanted l) : 3 ≤ l.length := by
  obtain ⟨k, t, rest, rfl, -, hrest⟩ := h
  have : 0 < rest.length := List.length_pos_of_ne_nil hrest
  simp only [List.length_append, List.length_replicate, List.length_cons]
  omega

theorem stuck_kind (wanted a b : UInt8) (l : List UInt8) (h0 : wanted ≠ 0) (h1 : wanted ≠ 1)
    (h : Stuck wanted (a :: b :: l)) : b ≠ wanted := by
  rw [stuck_cons] at h
  rcases h with ⟨-, t, rest, h, ht, -⟩ | ⟨-, h⟩
  · obtain ⟨rfl, -⟩ := List.cons.inj h
    exact ht
  · rw [stuck_cons] at h
    rcases h with ⟨rfl, -⟩ | ⟨rfl, -⟩
    · exact h0.symm
    · exact h1.symm

theorem toNat_lt_two (a : UInt8) : a.toNat < 2 ↔ a = 0 ∨ a = 1 := by
  rw [← UInt8.toNat_inj, ← UInt8.toNat_inj]
  simp only [UInt8.toNat_zero, UInt8.toNat_one]
  omega

theorem three_left (buffer : List UInt8) (cursor : Nat) (h : cursor + 2 < buffer.length) :
    ∃ a b c rest, buffer.drop cursor = a :: b :: c :: rest := by
  rw [List.drop_eq_getElem_cons (by omega), List.drop_eq_getElem_cons (by omega),
    List.drop_eq_getElem_cons (by omega)]
  exact ⟨_, _, _, _, rfl⟩

section

variable (wanted : UInt8) (buffer : List UInt8) (fuel cursor : Nat)

theorem skipTo_short (hc : cursor < buffer.length) (h : buffer.length ≤ cursor + 2) :
    skipTo wanted buffer buffer.length (fuel + 1) cursor = .ok (.uec .serviceInvalidValue, cursor) := by
  rw [skipTo, if_pos hc, if_pos (by simp only [headerSize]; omega)]

theorem skipTo_turn (hc : cursor + 2 < buffer.length) (a b : UInt8) (l : List UInt8)
    (hdrop : buffer.drop cursor = a :: b :: l) :
    skipTo wanted buffer buffer.length (fuel + 1) cursor =
      if 2 ≤ a.toNat then .ok (.uec .serviceInvalidValue, cursor)
      else if b = wanted then .ok (.ok, cursor)
      else skipTo wanted buffer buffer.length fuel ((cursor + a.toNat) % 2 ^ 32) := by
  rw [skipTo, if_pos (by omega), if_neg (by simp only [headerSize]; omega), headerAt_ok _ _ (by omega), hdrop]
  rfl

/-- What is left of the loop: no fuel, a refused header, or the wanted type under a length of 0 or 1. -/
theorem skipTo_cases (hsize : buffer.length < 2 ^ 32) (hc : cursor < buffer.length) :
    skipTo wanted buffer buffer.length fuel cursor = .error .outOfFuel ∨
    (∃ c, skipTo wanted buffer buffer.length fuel cursor = .ok (.uec .serviceInvalidValue, c)) ∨
    ∃ c, skipTo wanted buffer buffer.length fuel cursor = .ok (.ok, c) ∧ c < buffer.length ∧
      ((buffer.drop c).getD 0 0).toNat < 2 := by
  induction fuel generalizing cursor with
  | zero => exact .inl rfl
  | succ fuel ih =>
    by_cases h : cursor + 2 < buffer.length
    · obtain ⟨a, b, c, rest, hdrop⟩ := three_left buffer cursor h
      rw [skipTo_turn wanted buffer fuel cursor h a b (c :: rest) hdrop]
      split_ifs with ha hb
      · exact .inr (.inl ⟨cursor, rfl⟩)
      · refine .inr (.inr ⟨cursor, rfl, hc, ?_⟩)
        rw [hdrop, List.getD_cons_zero]
        omega
      · apply ih
        rw [Nat.mod_eq_of_lt (by omega)]
        omega
    · exact .inr (.inl ⟨cursor, skipTo_short wanted buffer fuel cursor hc (by omega)⟩)

theorem skipTo_stuck (hsize : buffer.length < 2 ^ 32) (h0 : wanted ≠ 0) (h1 : wanted ≠ 1)
    (hstuck : Stuck wanted (buffer.drop cursor)) :
    skipTo wanted buffer buffer.length fuel cursor = .error .outOfFuel := by
  induction fuel generalizing cursor with
  | zero => rfl
  | succ fuel ih =>
    have h3 := stuck_length wanted _ hstuck
    rw [List.length_drop] at h3
    obtain ⟨a, b, c, rest, hdrop⟩ := three_left buffer cursor (by omega)
    have hcons : Stuck wanted (a :: b :: c :: rest) := by rwa [hdrop] at hstuck
    have hb := stuck_kind wanted a b _ h0 h1 hcons
    rw [skipTo_turn wanted buffer fuel cursor (by omega) a b _ hdrop]
    rw [stuck_cons] at hcons
    rcases hcons with ⟨rfl, -⟩ | ⟨rfl, hnext⟩
    · -- The cursor does not move.
      rw [if_neg (by decide), if_neg hb, UInt8.toNat_zero, Nat.add_zero, Nat.mod_eq_of_lt (by omega)]
      exact ih cursor hstuck
    · rw [if_neg (by decide), if_neg hb, UInt8.toNat_one, Nat.mod_eq_of_lt (by omega)]
      apply ih
      rwa [← List.drop_drop, hdrop]

theorem skipTo_ends (hsize : buffer.length < 2 ^ 32) (hc : cursor < buffer.length)
    (hfuel : buffer.length - cursor < fuel) (hstuck : ¬ Stuck wanted (buffer.drop cursor)) :
    skipTo wanted buffer buffer.length fuel cursor ≠ .error .outOfFuel := by
  induction fuel generalizing cursor with
  | zero => omega
  | succ fuel ih =>
    by_cases h : cursor + 2 < buffer.length
    · obtain ⟨a, b, c, rest, hdrop⟩ := three_left buffer cursor h
      rw [skipTo_turn wanted buffer fuel cursor h a b (c :: rest) hdrop]
      rw [hdrop, stuck_cons] at hstuck
      split_ifs with ha hb
      · simp
      · simp
      · rcases (toNat_lt_two a).mp (by omega) with rfl | rfl
        · exact absurd (.inl ⟨rfl, b, c :: rest, rfl, hb, by simp⟩) hstuck
        · rw [UInt8.toNat_one, Nat.mod_eq_of_lt (by omega)]
          apply ih (cursor + 1) (by omega) (by omega)
          rw [← List.drop_drop, hdrop]
          exact fun h => hstuck (.inr ⟨rfl, h⟩)
    · rw [skipTo_short wanted buffer fuel cursor hc (by omega)]
      simp

end

/-! ## No interface is ever read -/

theorem sub32_eq (a b : Nat) (ha : a < 2 ^ 32) (h : b ≤ a) : sub32 a b = a - b := by
  rw [sub32]
  omega

section

variable (buffer : List UInt8) (fuel : Nat) (hsize : buffer.length < 2 ^ 32) (hne : 0 < buffer.length)

include hsize hne

theorem parseInterfaceDescriptor_cases (interface : UsbInterface) :
    (skipTo descriptorTypeInterface buffer buffer.length fuel 0 = .error .outOfFuel ∧
      parseInterfaceDescriptor fuel buffer buffer.length 0 interface = .error .outOfFuel) ∨
    (skipTo descriptorTypeInterface buffer buffer.length fuel 0 ≠ .error .outOfFuel ∧
      ∃ c, parseInterfaceDescriptor fuel buffer buffer.length 0 interface =
        .ok (.uec .serviceInvalidValue, c, interface)) := by
  unfold parseInterfaceDescriptor
  rw [if_neg (by omega)]
  rcases skipTo_cases descriptorTypeInterface buffer fuel 0 hsize hne with h | ⟨c, h⟩ | ⟨c, h, hc, hlen⟩
  · exact .inl ⟨h, by rw [h]; rfl⟩
  · exact .inr ⟨by simp [h], c, by rw [h]; rfl⟩
  · refine .inr ⟨by simp [h], c, ?_⟩
    rw [h]
    simp only [bind, Except.bind, pure, Except.pure, ne_eq, not_true_eq_false, if_false]
    rw [sub32_eq _ _ hsize (by omega)]
    by_cases h9 : buffer.length - c < interfaceDescriptorSize
    · rw [if_pos h9]
    · have hbad : (((buffer.drop c).take interfaceDescriptorSize).getD 0 0).toNat ≠ interfaceDescriptorSize := by
        rw [getD_take _ _ _ (by decide)]
        simp only [interfaceDescriptorSize]
        omega
      rw [if_neg h9, interfaceDescriptorAt, structAt_ok _ _ _ (by omega)]
      simp only [bind, Except.bind, pure, Except.pure, UsbdInterfaceDescriptor.ofBytes]
      rw [if_pos hbad]

end

section

variable (buffer : List UInt8) (fuel : Nat) (bNumInterfaces : UInt8) (cursor : Nat)
  (hsize : buffer.length < 2 ^ 32) (hc : cursor < buffer.length) (hn : bNumInterfaces ≠ 0)

include hsize hc hn

theorem parseInterfaces_succ :
    parseInterfaces buffer buffer.length bNumInterfaces (fuel + 1) 0 cursor [] =
      if skipTo descriptorTypeInterface (buffer.drop cursor) (buffer.drop cursor).length fuel 0 = .error .outOfFuel then
        .error .outOfFuel
      else .ok (.uec .serviceInvalidValue, cursor, []) := by
  have hlen : (buffer.drop cursor).length = buffer.length - cursor := List.length_drop
  have hpos : 0 < bNumInterfaces.toNat := UInt8.pos_iff_ne_zero.mpr hn
  have hcases := parseInterfaceDescriptor_cases (buffer.drop cursor) fuel (by omega) (by omega) {}
  rw [parseInterfaces, if_pos ⟨hpos, hc⟩, ← hlen]
  rcases hcases with ⟨hskip, h⟩ | ⟨hskip, c, h⟩
  · rw [h, if_pos hskip]
    rfl
  · rw [h, if_neg hskip]
    rfl

theorem parseInterfaces_stuck (hstuck : Stuck descriptorTypeInterface (buffer.drop cursor)) :
    parseInterfaces buffer buffer.length bNumInterfaces fuel 0 cursor [] = .error .outOfFuel := by
  cases fuel with
  | zero => rfl
  | succ fuel =>
    rw [parseInterfaces_succ buffer fuel bNumInterfaces cursor hsize hc hn]
    apply if_pos
    exact skipTo_stuck _ _ fuel 0 (by rw [List.length_drop]; omega) (by decide) (by decide) hstuck

theorem parseInterfaces_ends (hstuck : ¬ Stuck descriptorTypeInterface (buffer.drop cursor)) :
    parseInterfaces buffer buffer.length bNumInterfaces (buffer.length + 2) 0 cursor [] =
      .ok (.uec .serviceInvalidValue, cursor, []) := by
  rw [parseInterfaces_succ buffer _ bNumInterfaces cursor hsize hc hn]
  apply if_neg
  have hlen : (buffer.drop cursor).length = buffer.length - cursor := List.length_drop
  exact skipTo_ends _ _ _ 0 (by omega) (by omega) (by omega) hstuck

theorem parseInterfaces_cases :
    parseInterfaces buffer buffer.length bNumInterfaces fuel 0 cursor [] = .error .outOfFuel ∨
    parseInterfaces buffer buffer.length bNumInterfaces fuel 0 cursor [] =
      .ok (.uec .serviceInvalidValue, cursor, []) := by
  cases fuel with
  | zero => exact .inl rfl
  | succ fuel =>
    rw [parseInterfaces_succ buffer fuel bNumInterfaces cursor hsize hc hn]
    split_ifs
    · exact .inl rfl
    · exact .inr rfl

end

/-! ## The configuration -/

/-- What the first nine bytes say. -/
def configOf (d : UsbdConfigDescriptor) : USBConfig where
  id := d.bConfigurationValue.toNat
  attributes := d.bmAttributes.toUInt32
  maxPower := d.bMaxPower.toNat
  iConfiguration := d.iConfiguration

section

variable (fuel : Nat) (buffer : List UInt8) (cursor : Nat)

theorem parseConfigDescriptor_short (hne : buffer ≠ []) (h : buffer.length < 9) :
    parseConfigDescriptor fuel buffer buffer.length cursor {} = .error .outOfBounds := by
  have hpos : 0 < buffer.length := List.length_pos_of_ne_nil hne
  rw [parseConfigDescriptor, if_neg (by omega), configDescriptorAt, structAt,
    if_neg (by simp only [configDescriptorSize]; omega)]
  rfl

theorem parseConfigDescriptor_eq (h9 : configDescriptorSize ≤ buffer.length) (d : UsbdConfigDescriptor)
    (hd : d = .ofBytes (buffer.take configDescriptorSize)) :
    parseConfigDescriptor fuel buffer buffer.length cursor {} =
      if d.bLength.toNat ≠ configDescriptorSize then .ok (.uec .serviceInvalidValue, cursor, {})
      else do
        let (ret, cursor, interfaces) ←
          parseInterfaces buffer buffer.length d.bNumInterfaces fuel 0 ((cursor + configDescriptorSize) % 2 ^ 32) []
        if ret ≠ .ok then return (ret, cursor, configOf d)
        return (.ok, cursor, { configOf d with interfaces := interfaces }) := by
  have hpos : 0 < configDescriptorSize := by decide
  rw [parseConfigDescriptor, if_neg (by omega), configDescriptorAt, structAt_ok _ _ _ (by omega), List.drop_zero]
  simp only [← hd, bind, Except.bind, pure, Except.pure]
  by_cases h : d.bLength.toNat ≠ configDescriptorSize
  · rw [if_pos h, if_pos (Or.inr h)]
  · rw [if_neg h, if_neg (by omega)]
    rfl

end

/-- The first descriptor is as long as a configuration. -/
def StartsConfig (buffer : List UInt8) : Prop := configDescriptorSize ≤ buffer.length ∧ buffer.getD 0 0 = 9

/-- What is read as the configuration, from a buffer of any length. -/
def firstConfig (buffer : List UInt8) : UsbdConfigDescriptor := .ofBytes (buffer.take configDescriptorSize)

theorem firstConfig_bLength (buffer : List UInt8) : (firstConfig buffer).bLength = buffer.getD 0 0 :=
  getD_take _ _ _ (by decide)

theorem firstConfig_bNumInterfaces (buffer : List UInt8) : (firstConfig buffer).bNumInterfaces = buffer.getD 4 0 :=
  getD_take _ _ _ (by decide)

section

variable (fuel : Nat) (buffer : List UInt8) (cursor : Nat)

theorem parseConfigDescriptor_refused (h9 : configDescriptorSize ≤ buffer.length) (h0 : buffer.getD 0 0 ≠ 9) :
    parseConfigDescriptor fuel buffer buffer.length cursor {} = .ok (.uec .serviceInvalidValue, cursor, {}) := by
  rw [parseConfigDescriptor_eq fuel buffer cursor h9 (firstConfig buffer) rfl, firstConfig_bLength]
  apply if_pos
  exact fun h => h0 (UInt8.toNat_inj.mp h)

theorem parseConfigDescriptor_starts (h : StartsConfig buffer) :
    parseConfigDescriptor fuel buffer buffer.length cursor {} = (do
      let (ret, cursor, interfaces) ←
        parseInterfaces buffer buffer.length (buffer.getD 4 0) fuel 0 ((cursor + configDescriptorSize) % 2 ^ 32) []
      if ret ≠ .ok then return (ret, cursor, configOf (firstConfig buffer))
      return (.ok, cursor, { configOf (firstConfig buffer) with interfaces := interfaces })) := by
  rw [parseConfigDescriptor_eq fuel buffer cursor h.1 (firstConfig buffer) rfl, firstConfig_bLength,
    firstConfig_bNumInterfaces, h.2]
  rfl

theorem parseConfigDescriptor_alone (h : StartsConfig buffer)
    (hnone : buffer.getD 4 0 = 0 ∨ buffer.length ≤ (cursor + configDescriptorSize) % 2 ^ 32) :
    parseConfigDescriptor (fuel + 1) buffer buffer.length cursor {} =
      .ok (.ok, (cursor + configDescriptorSize) % 2 ^ 32, configOf (firstConfig buffer)) := by
  have hloop : ¬ (0 < (buffer.getD 4 0).toNat ∧ (cursor + configDescriptorSize) % 2 ^ 32 < buffer.length) := by
    rintro ⟨hpos, hlt⟩
    rcases hnone with h | h
    · rw [h] at hpos
      exact absurd hpos (by decide)
    · omega
  rw [parseConfigDescriptor_starts _ _ _ h, parseInterfaces, if_neg hloop]
  rfl

variable (hsize : buffer.length < 2 ^ 32) (h : StartsConfig buffer) (h4 : buffer.getD 4 0 ≠ 0)
  (hc : (cursor + configDescriptorSize) % 2 ^ 32 < buffer.length)

include hsize h h4 hc

theorem parseConfigDescriptor_stuck
    (hstuck : Stuck descriptorTypeInterface (buffer.drop ((cursor + configDescriptorSize) % 2 ^ 32))) :
    parseConfigDescriptor fuel buffer buffer.length cursor {} = .error .outOfFuel := by
  rw [parseConfigDescriptor_starts _ _ _ h, parseInterfaces_stuck _ _ _ _ hsize hc h4 hstuck]
  rfl

theorem parseConfigDescriptor_ends
    (hstuck : ¬ Stuck descriptorTypeInterface (buffer.drop ((cursor + configDescriptorSize) % 2 ^ 32))) :
    parseConfigDescriptor (buffer.length + 2) buffer buffer.length cursor {} =
      .ok (.uec .serviceInvalidValue, (cursor + configDescriptorSize) % 2 ^ 32, configOf (firstConfig buffer)) := by
  rw [parseConfigDescriptor_starts _ _ _ h, parseInterfaces_ends _ _ _ hsize hc h4 hstuck]
  rfl

theorem parseConfigDescriptor_cases :
    parseConfigDescriptor fuel buffer buffer.length cursor {} = .error .outOfFuel ∨
    parseConfigDescriptor fuel buffer buffer.length cursor {} =
      .ok (.uec .serviceInvalidValue, (cursor + configDescriptorSize) % 2 ^ 32, configOf (firstConfig buffer)) := by
  rw [parseConfigDescriptor_starts _ _ _ h]
  rcases parseInterfaces_cases buffer fuel (buffer.getD 4 0) _ hsize hc h4 with hi | hi
  · exact .inl (by rw [hi]; rfl)
  · exact .inr (by rw [hi]; rfl)

end

/-! ## Against the list parser -/

/-- `buffer` is the configuration `c` as it is written, other descriptors in between. -/
structure Serialises (buffer : List UInt8) (c : ConfigNode) (rest : List Desc) : Prop where
  bytes : buffer = encodeAll (.config c.toConfigHead :: rest)
  tree : Interleaves (.config c.toConfigHead :: rest) [c]
  interfaceCount : c.bNumInterfaces.toNat = c.interfaces.length
  endpointCount : ∀ i ∈ c.interfaces, i.bNumEndpoints.toNat = i.endpoints.length
  numbers : (c.interfaces.map (·.bInterfaceNumber)).Nodup

/-- It ends, reads nothing outside, and from a written configuration gets what the list parser gets. -/
structure Agrees (buffer : List UInt8) (cursor : Nat) : Prop where
  ends : ∃ fuel, parseConfigDescriptor fuel buffer buffer.length cursor {} ≠ .error .outOfFuel
  inside : ∀ fuel, parseConfigDescriptor fuel buffer buffer.length cursor {} ≠ .error .outOfBounds
  same : cursor = 0 → ∀ c rest, Serialises buffer c rest → ∃ fuel cursor' config,
    parseConfigDescriptor fuel buffer buffer.length cursor {} = .ok (.ok, cursor', config) ∧
    parseConfigDescriptors buffer 0 [] = .ok (.ok, [config])

section

variable {buffer : List UInt8} {c : ConfigNode} {rest : List Desc} (h : Serialises buffer c rest)

include h

theorem Serialises.starts : StartsConfig buffer := by
  obtain ⟨rfl, -⟩ := h
  exact ⟨by simp [encodeAll, Desc.encode, configDescriptorSize], rfl⟩

theorem Serialises.bNumInterfaces : buffer.getD 4 0 = c.bNumInterfaces := by
  obtain ⟨rfl, -⟩ := h
  rfl

theorem Serialises.length_lt (hn : c.interfaces ≠ []) : configDescriptorSize < buffer.length := by
  obtain ⟨rfl, htree, -⟩ := h
  have hrest : rest ≠ [] := by
    rintro rfl
    obtain ⟨i, is, hi⟩ := List.exists_cons_of_ne_nil hn
    simp [Interleaves, ConfigNode.flat, InterfaceNode.flat, Desc.isOther, hi] at htree
  obtain ⟨d, ds, rfl⟩ := List.exists_cons_of_ne_nil hrest
  have hd := (encode_isRecord d).1
  have h9 : (Desc.config c.toConfigHead).encode.length = configDescriptorSize := rfl
  simp only [encodeAll, List.map_cons, List.flatten_cons, List.length_append]
  omega

theorem Serialises.parseConfigDescriptors (hsize : buffer.length < 2 ^ 32) :
    parseConfigDescriptors buffer 0 [] = .ok (.ok, [c.meaning]) := by
  have hrecords := records_encodeAll (.config c.toConfigHead :: rest) [] (by decide)
  rw [List.append_nil, ← h.bytes] at hrecords
  rw [parseConfigDescriptors_eq_walk buffer hsize, List.drop_zero, hrecords, walk_interleaved [c] _ h.tree]
  rfl

theorem Serialises.meaning (hn : c.interfaces = []) : configOf (firstConfig buffer) = c.meaning := by
  obtain ⟨rfl, -⟩ := h
  rw [ConfigNode.meaning, hn]
  rfl

end

theorem not_parsed_of_interfaces (buffer : List UInt8) (hsize : buffer.length < 2 ^ 32) (c : ConfigNode)
    (rest : List Desc) (h : Serialises buffer c rest) (h4 : buffer.getD 4 0 ≠ 0) (fuel cursor' : Nat)
    (config : USBConfig) : parseConfigDescriptor fuel buffer buffer.length 0 {} ≠ .ok (.ok, cursor', config) := by
  have hn : c.interfaces ≠ [] := by
    intro hnil
    have hcount := h.interfaceCount
    rw [hnil, ← h.bNumInterfaces] at hcount
    exact h4 (UInt8.toNat_inj.mp hcount)
  have hlt : (0 + configDescriptorSize) % 2 ^ 32 < buffer.length := by
    have := h.length_lt hn
    omega
  rcases parseConfigDescriptor_cases fuel buffer 0 hsize h.starts h4 hlt with h | h
  · simp [h]
  · simp [h]

theorem same_of_no_interfaces (buffer : List UInt8) (hsize : buffer.length < 2 ^ 32) (c : ConfigNode)
    (rest : List Desc) (h : Serialises buffer c rest) (h4 : buffer.getD 4 0 = 0) :
    parseConfigDescriptor 1 buffer buffer.length 0 {} = .ok (.ok, 9, c.meaning) ∧
    parseConfigDescriptors buffer 0 [] = .ok (.ok, [c.meaning]) := by
  have hn : c.interfaces = [] := by
    apply List.eq_nil_of_length_eq_zero
    rw [← h.interfaceCount, ← h.bNumInterfaces, h4]
    rfl
  rw [parseConfigDescriptor_alone 0 buffer 0 h.starts (.inl h4), h.meaning hn]
  exact ⟨rfl, h.parseConfigDescriptors hsize⟩

theorem ends_iff_of_announced (buffer : List UInt8) (hsize : buffer.length < 2 ^ 32) (cursor : Nat)
    (h : StartsConfig buffer) (h4 : buffer.getD 4 0 ≠ 0) :
    (∃ fuel, parseConfigDescriptor fuel buffer buffer.length cursor {} ≠ .error .outOfFuel) ↔
      ¬ Stuck 4 (buffer.drop ((cursor + 9) % 2 ^ 32)) := by
  by_cases hc : (cursor + 9) % 2 ^ 32 < buffer.length
  · constructor
    · rintro ⟨fuel, hfuel⟩ hstuck
      exact hfuel (parseConfigDescriptor_stuck fuel buffer cursor hsize h h4 hc hstuck)
    · intro hstuck
      refine ⟨buffer.length + 2, ?_⟩
      rw [parseConfigDescriptor_ends buffer cursor hsize h h4 hc hstuck]
      simp
  · have hle : buffer.length ≤ (cursor + configDescriptorSize) % 2 ^ 32 := Nat.le_of_not_lt hc
    refine iff_of_true ⟨1, ?_⟩ ?_
    · rw [parseConfigDescriptor_alone 0 buffer cursor h (.inr hle)]
      simp
    · intro hstuck
      have := stuck_length 4 _ hstuck
      rw [List.length_drop] at this
      omega

theorem inside_of_starts (buffer : List UInt8) (hsize : buffer.length < 2 ^ 32) (cursor : Nat)
    (h : StartsConfig buffer) (fuel : Nat) :
    parseConfigDescriptor fuel buffer buffer.length cursor {} ≠ .error .outOfBounds := by
  by_cases hloop : buffer.getD 4 0 = 0 ∨ buffer.length ≤ (cursor + configDescriptorSize) % 2 ^ 32
  · cases fuel with
    | zero =>
      rw [parseConfigDescriptor_starts 0 buffer cursor h]
      simp [parseInterfaces, bind, Except.bind]
    | succ fuel =>
      rw [parseConfigDescriptor_alone fuel buffer cursor h hloop]
      simp
  · rw [not_or, Nat.not_le] at hloop
    rcases parseConfigDescriptor_cases fuel buffer cursor hsize h hloop.1 hloop.2 with h | h
    · simp [h]
    · simp [h]

theorem Agrees.room {buffer : List UInt8} {cursor : Nat} (h : Agrees buffer cursor) :
    buffer = [] ∨ 9 ≤ buffer.length := by
  by_contra hshort
  rw [not_or, Nat.not_le] at hshort
  exact h.inside 0 (parseConfigDescriptor_short 0 buffer cursor hshort.1 hshort.2)

theorem agrees_nil (cursor : Nat) : Agrees [] cursor := by
  have hempty : ∀ fuel, parseConfigDescriptor fuel [] 0 cursor {} = .ok (.uec .serviceInvalidValue, cursor, {}) :=
    fun _ => rfl
  refine ⟨⟨0, by simp [hempty]⟩, fun fuel => by simp [hempty], ?_⟩
  intro _ c rest h
  exact absurd h.starts.2 (by decide)

theorem agrees_of_refused (buffer : List UInt8) (cursor : Nat) (h9 : 9 ≤ buffer.length) (h0 : buffer.getD 0 0 ≠ 9) :
    Agrees buffer cursor := by
  have hrefused := fun fuel => parseConfigDescriptor_refused fuel buffer cursor h9 h0
  refine ⟨⟨0, by simp [hrefused]⟩, fun fuel => by simp [hrefused], ?_⟩
  intro _ c rest h
  exact absurd h.starts.2 h0

theorem agrees_of_no_interfaces (buffer : List UInt8) (hsize : buffer.length < 2 ^ 32) (cursor : Nat)
    (h : StartsConfig buffer) (h4 : buffer.getD 4 0 = 0) : Agrees buffer cursor := by
  refine ⟨⟨1, ?_⟩, inside_of_starts buffer hsize cursor h, ?_⟩
  · rw [parseConfigDescriptor_alone 0 buffer cursor h (.inl h4)]
    simp
  · rintro rfl c rest hc
    exact ⟨1, 9, c.meaning, same_of_no_interfaces buffer hsize c rest hc h4⟩

/-- Exactly when the two parsers agree: the buffer is empty or has nine bytes, and where interfaces are announced it
is no written configuration and the loop to the first interface is not stuck. -/
theorem parseConfigDescriptor_agrees_iff (buffer : List UInt8) (hsize : buffer.length < 2 ^ 32) (cursor : Nat) :
    Agrees buffer cursor ↔
      (buffer = [] ∨ 9 ≤ buffer.length) ∧
      (buffer.getD 0 0 = 9 → buffer.getD 4 0 ≠ 0 →
        ¬ Stuck 4 (buffer.drop ((cursor + 9) % 2 ^ 32)) ∧ (cursor = 0 → ¬ ∃ c rest, Serialises buffer c rest)) := by
  constructor
  · intro h
    refine ⟨h.room, fun h0 h4 => ?_⟩
    have hstarts : StartsConfig buffer := by
      refine ⟨h.room.resolve_left ?_, h0⟩
      rintro rfl
      exact absurd h0 (by decide)
    refine ⟨(ends_iff_of_announced buffer hsize cursor hstarts h4).mp h.ends, ?_⟩
    rintro rfl ⟨c, rest, hc⟩
    obtain ⟨fuel, cursor', config, hok, -⟩ := h.same rfl c rest hc
    exact not_parsed_of_interfaces buffer hsize c rest hc h4 fuel cursor' config hok
  · rintro ⟨rfl | h9, hcond⟩
    · exact agrees_nil cursor
    by_cases h0 : buffer.getD 0 0 = 9
    · by_cases h4 : buffer.getD 4 0 = 0
      · exact agrees_of_no_interfaces buffer hsize cursor ⟨h9, h0⟩ h4
      · obtain ⟨hstuck, hnot⟩ := hcond h0 h4
        refine ⟨(ends_iff_of_announced buffer hsize cursor ⟨h9, h0⟩ h4).mpr hstuck,
          inside_of_starts buffer hsize cursor ⟨h9, h0⟩, ?_⟩
        intro hzero c rest h
        exact absurd ⟨c, rest, h⟩ (hnot hzero)
    · exact agrees_of_refused buffer cursor h9 h0

/-- A configuration that announces no interface. -/
def bareConfig : List UInt8 := [9, 2, 9, 0, 0, 1, 0, 0x80, 50]

theorem parseConfigDescriptor_agrees_bareConfig : Agrees bareConfig 0 := by
  rw [parseConfigDescriptor_agrees_iff bareConfig (by decide) 0]
  exact ⟨.inr (by decide), fun _ h4 => absurd rfl h4⟩

/-- One interface without endpoints. -/
def keyboard : ConfigNode := ⟨⟨18, 1, 1, 0, 0x80, 50⟩, [⟨⟨0, 0, 0, 3, 1, 1, 0⟩, []⟩]⟩

/-- A configuration with a header of length 0 behind it. -/
def zeroHeader : List UInt8 := [9, 2, 12, 0, 1, 1, 0, 0x80, 50, 0, 0, 0]

/-- A written keyboard is refused, a header of length 0 is read again and again, one byte is read as nine. -/
theorem parseConfigDescriptor_disagrees :
    (Serialises (encodeAll keyboard.flat) keyboard keyboard.flat.tail ∧
      parseConfigDescriptors (encodeAll keyboard.flat) 0 [] = .ok (.ok, [keyboard.meaning]) ∧
      (∀ fuel cursor' config,
        parseConfigDescriptor fuel (encodeAll keyboard.flat) 18 0 {} ≠ .ok (.ok, cursor', config)) ∧
      ¬ Agrees (encodeAll keyboard.flat) 0) ∧
    (∀ fuel, parseConfigDescriptor fuel zeroHeader 12 0 {} = .error .outOfFuel) ∧
    ∀ fuel, parseConfigDescriptor fuel [9] 1 0 {} = .error .outOfBounds := by
  have hwritten : Serialises (encodeAll keyboard.flat) keyboard keyboard.flat.tail :=
    ⟨rfl, rfl, rfl, by simp [keyboard], by simp [keyboard]⟩
  have hnever : ∀ fuel cursor' config,
      parseConfigDescriptor fuel (encodeAll keyboard.flat) 18 0 {} ≠ .ok (.ok, cursor', config) :=
    not_parsed_of_interfaces _ (by decide) keyboard _ hwritten (by decide)
  refine ⟨⟨hwritten, hwritten.parseConfigDescriptors (by decide), hnever, ?_⟩, fun fuel => ?_, fun fuel => ?_⟩
  · intro h
    obtain ⟨fuel, cursor', config, hok, -⟩ := h.same rfl keyboard _ hwritten
    exact hnever fuel cursor' config hok
  · exact parseConfigDescriptor_stuck fuel zeroHeader 0 (by decide) (by unfold StartsConfig; decide) (by decide)
      (by decide) ⟨0, 0, [0], rfl, by decide, by decide⟩
  · exact parseConfigDescriptor_short fuel [9] 0 (by decide) (by decide)

end UsbManager.Descriptor
