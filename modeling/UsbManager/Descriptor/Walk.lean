import UsbManager.Lib.Chain
import UsbManager.Descriptor.Parser

/-!
# The parser walks the chain of records

The loop over cursors computes a fold over the records of the bytes behind the offset.
It reads no byte outside the buffer and its cursor does not wrap.
-/

namespace UsbManager.Descriptor

/-- What one whole descriptor `r` adds to the list. -/
def absorb (configs : List USBConfig) (r : List UInt8) : Ret × List USBConfig :=
  if r.getD 1 0 = descriptorTypeConfig then
    if r.length ≠ configDescriptorSize then (.uec .serviceInvalidValue, configs)
    else addConfig configs (.ofBytes r)
  else if r.getD 1 0 = descriptorTypeInterface then
    if r.length ≠ interfaceDescriptorSize then (.uec .serviceInvalidValue, configs)
    else addInterface configs (.ofBytes r)
  else if r.getD 1 0 = descriptorTypeEndpoint then
    if r.length ≠ 7 ∧ r.length ≠ 9 then (.uec .serviceInvalidValue, configs)
    else addEndpoint configs (.ofBytes (r.take endpointDescriptorSize))
  else (.ok, configs)

/-- Descriptor after descriptor, up to the first error. -/
def walk : List (List UInt8) → List USBConfig → Ret × List USBConfig
  | [], configs => (.ok, configs)
  | r :: rs, configs =>
    let (ret, configs) := absorb configs r
    if ret ≠ .ok then (ret, configs) else walk rs configs

theorem walk_cons_ok (r : List UInt8) (rs : List (List UInt8)) (configs configs' : List USBConfig)
    (h : absorb configs r = (.ok, configs')) : walk (r :: rs) configs = walk rs configs' := by
  simp [walk, h]

/-! ## Reads inside one record -/

theorem structAt_ok (buffer : List UInt8) (cursor size : Nat) (h : cursor + size ≤ buffer.length) :
    structAt buffer cursor size = .ok ((buffer.drop cursor).take size) := by
  rw [structAt, if_pos h]

theorem getD_take (l : List UInt8) (n i : Nat) (h : i < n) : (l.take n).getD i 0 = l.getD i 0 := by
  simp [List.getD_eq_getElem?_getD, h]

theorem headerAt_ok (buffer : List UInt8) (cursor : Nat) (h : cursor + 2 ≤ buffer.length) :
    headerAt buffer cursor =
      .ok ⟨(buffer.drop cursor).getD 0 0, (buffer.drop cursor).getD 1 0⟩ := by
  rw [headerAt, structAt_ok _ _ _ (by simpa [headerSize] using h)]
  simp only [headerSize, UsbdDescriptorHeader.ofBytes, bind, Except.bind, pure, Except.pure,
    getD_take _ _ _ (by omega : (0 : Nat) < 2), getD_take _ _ _ (by omega : (1 : Nat) < 2)]

theorem parseDescriptor_eq (buffer r : List UInt8) (cursor : Nat) (configs : List USBConfig)
    (hr : Chain.IsRecord r) (hat : (buffer.drop cursor).take r.length = r)
    (hin : cursor + r.length ≤ buffer.length) :
    parseDescriptor buffer cursor ⟨r.getD 0 0, r.getD 1 0⟩ configs = .ok (absorb configs r) := by
  obtain ⟨-, hlen⟩ := hr
  unfold parseDescriptor absorb
  simp only [hlen]
  by_cases hc : r.getD 1 0 = descriptorTypeConfig
  · simp only [if_pos hc]
    split_ifs with h9
    · rfl
    · have h9 : r.length = configDescriptorSize := not_not.mp h9
      rw [configDescriptorAt, ← h9, structAt_ok _ _ _ hin, hat]
      rfl
  simp only [if_neg hc]
  by_cases hi : r.getD 1 0 = descriptorTypeInterface
  · simp only [if_pos hi]
    split_ifs with h9
    · rfl
    · have h9 : r.length = interfaceDescriptorSize := not_not.mp h9
      rw [interfaceDescriptorAt, ← h9, structAt_ok _ _ _ hin, hat]
      rfl
  simp only [if_neg hi]
  by_cases he : r.getD 1 0 = descriptorTypeEndpoint
  · -- A 9-byte endpoint is read through the 7-byte struct.
    have h7 : r.getD 0 0 = normalEndpointDescriptor ↔ r.length = 7 := by
      rw [← hlen, ← UInt8.toNat_inj]; rfl
    have h9 : r.getD 0 0 = audioEndpointDescriptor ↔ r.length = 9 := by
      rw [← hlen, ← UInt8.toNat_inj]; rfl
    simp only [if_pos he, ne_eq, h7, h9]
    split_ifs with hbad
    · rfl
    · have h7le : endpointDescriptorSize ≤ r.length := by simp only [endpointDescriptorSize]; omega
      have htake : (buffer.drop cursor).take endpointDescriptorSize = r.take endpointDescriptorSize := by
        conv_rhs => rw [← hat, List.take_take, Nat.min_eq_left h7le]
      rw [endpointDescriptorAt, structAt_ok _ _ _ (by omega), htake]
      rfl
  · rw [if_neg he, if_neg he]

/-! ## The loop -/

/-- One turn of the loop: the result, or what is added to the cursor. -/
def turn (buffer : List UInt8) (length cursor : Nat) (configs : List USBConfig) :
    Except Fault (Ret × List USBConfig ⊕ UInt8 × List USBConfig) :=
  if cursor < length then
    if length - cursor < headerSize then .ok (.inl (.ok, configs))
    else do
      let header ← headerAt buffer cursor
      if header.bLength.toNat < headerSize ∨ header.bLength.toNat > length - cursor then
        return .inl (.ok, configs)
      let (ret, configs) ← parseDescriptor buffer cursor header configs
      if ret ≠ .ok then return .inl (ret, configs)
      return .inr (header.bLength, configs)
  else .ok (.inl (.ok, configs))

theorem parseLoop_succ (buffer : List UInt8) (length fuel cursor : Nat) (configs : List USBConfig) :
    parseLoop buffer length (fuel + 1) cursor configs = (do
      match ← turn buffer length cursor configs with
      | .inl r => return r
      | .inr (bLength, configs) => parseLoop buffer length fuel ((cursor + bLength.toNat) % 2 ^ 32) configs) := by
  conv_lhs => unfold parseLoop
  unfold turn
  simp only [bind, Except.bind, pure, Except.pure]
  split_ifs
  · rfl
  · cases headerAt buffer cursor with
    | error e => rfl
    | ok header =>
      simp only
      split_ifs
      · rfl
      · cases parseDescriptor buffer cursor header configs with
        | error e => rfl
        | ok r =>
          simp only
          split_ifs <;> rfl
  · rfl

theorem turn_eq (buffer : List UInt8) (cursor : Nat) (configs : List USBConfig) :
    turn buffer buffer.length cursor configs =
      .ok (if Chain.Stops (buffer.drop cursor) then .inl (.ok, configs)
        else
          let bLength := (buffer.drop cursor).getD 0 0
          let r := absorb configs ((buffer.drop cursor).take bLength.toNat)
          if r.1 ≠ .ok then .inl r else .inr (bLength, r.2)) := by
  have hdrop : (buffer.drop cursor).length = buffer.length - cursor := List.length_drop
  unfold turn
  by_cases hstop : Chain.Stops (buffer.drop cursor)
  · rw [if_pos hstop]
    rw [Chain.Stops, hdrop] at hstop
    by_cases h2 : buffer.length - cursor < 2
    · simp [headerSize, h2]
    · rw [if_pos (by omega), if_neg (by simpa [headerSize] using h2), headerAt_ok _ _ (by omega)]
      simp only [headerSize, bind, Except.bind]
      rw [if_pos (by omega)]
      rfl
  · rw [if_neg hstop]
    have hrec := Chain.isRecord_of_not_stops _ hstop
    rw [Chain.Stops, hdrop] at hstop
    generalize hb : (buffer.drop cursor).getD 0 0 = bLength at *
    have hlen : ((buffer.drop cursor).take bLength.toNat).length = bLength.toNat := by
      rw [List.length_take, hdrop]
      omega
    have hpd := parseDescriptor_eq buffer ((buffer.drop cursor).take bLength.toNat) cursor configs hrec
      (by rw [hlen]) (by omega)
    rw [getD_take _ _ _ (by omega), getD_take _ _ _ (by omega), hb] at hpd
    rw [if_pos (by omega), if_neg (by simp only [headerSize]; omega), headerAt_ok _ _ (by omega)]
    simp only [headerSize, bind, Except.bind, hb, hpd]
    rw [if_neg (by omega)]
    split_ifs <;> rfl

theorem parseLoop_eq_walk (buffer : List UInt8) (hsize : buffer.length < 2 ^ 32) (fuel cursor : Nat)
    (configs : List USBConfig) (hfuel : buffer.length - cursor < fuel) :
    parseLoop buffer buffer.length fuel cursor configs =
      .ok (walk (Chain.records (buffer.drop cursor)) configs) := by
  induction fuel generalizing cursor configs with
  | zero => omega
  | succ fuel ih =>
    rw [parseLoop_succ, turn_eq]
    by_cases hstop : Chain.Stops (buffer.drop cursor)
    · rw [Chain.records_of_stops _ hstop, if_pos hstop]
      rfl
    · rw [Chain.records_of_not_stops _ hstop, if_neg hstop]
      rw [Chain.Stops, List.length_drop] at hstop
      generalize (buffer.drop cursor).getD 0 0 = bLength at *
      simp only [walk]
      by_cases hret : (absorb configs ((buffer.drop cursor).take bLength.toNat)).1 ≠ .ok
      · rw [if_pos hret, if_pos hret]
        rfl
      · rw [if_neg hret, if_neg hret]
        simp only [bind, Except.bind]
        rw [Nat.mod_eq_of_lt (by omega), ih _ _ (by omega), List.drop_drop]

theorem parseConfigDescriptors_eq_walk (descriptor : List UInt8) (hsize : descriptor.length < 2 ^ 32)
    (offset : Nat) (configs : List USBConfig) :
    parseConfigDescriptors descriptor offset configs =
      .ok (walk (Chain.records (descriptor.drop offset)) configs) := by
  rw [parseConfigDescriptors, Nat.mod_eq_of_lt hsize]
  exact parseLoop_eq_walk descriptor hsize _ _ _ (by omega)

/-! ## No read outside the buffer -/

theorem parseDeviceDescriptor_total (buffer : List UInt8) (d : UsbDevice) :
    ∃ r, parseDeviceDescriptor buffer d = .ok r := by
  unfold parseDeviceDescriptor
  simp only [bind, Except.bind, pure, Except.pure, deviceDescriptorAt]
  split_ifs with h0 h18
  · exact ⟨_, rfl⟩
  · exact ⟨_, rfl⟩
  · have hle : 0 + deviceDescriptorSize ≤ buffer.length := by
      have := Nat.mod_le buffer.length (2 ^ 32)
      omega
    rw [structAt_ok _ _ _ hle]
    simp only
    split_ifs
    · exact ⟨_, rfl⟩
    · exact ⟨_, rfl⟩

end UsbManager.Descriptor
