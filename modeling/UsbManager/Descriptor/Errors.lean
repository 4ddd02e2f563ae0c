import UsbManager.Descriptor.Walk

/-!
# The errors of the configuration list

When `parseConfigDescriptors` fails, in terms of the records behind the offset: one of
them has a wrong length for its type, or comes before the descriptor it belongs to.
-/

namespace UsbManager.Descriptor

/-! ## What is wrong with a descriptor -/

/-- The second byte, `bDescriptorType`. -/
def kind (r : List UInt8) : UInt8 := r.getD 1 0

/-- A record is as long as its `bLength`. -/
def WrongLength (r : List UInt8) : Prop :=
  (kind r = 2 ∧ r.length ≠ 9) ∨ (kind r = 4 ∧ r.length ≠ 9) ∨ (kind r = 5 ∧ r.length ≠ 7 ∧ r.length ≠ 9)

def HasConfig (configs : List USBConfig) (before : List (List UInt8)) : Prop :=
  configs ≠ [] ∨ ∃ q ∈ before, kind q = 2

/-- The configuration the list ends with has an interface. -/
def LastHasInterface (configs : List USBConfig) : Prop :=
  ∃ config, configs.getLast? = some config ∧ config.interfaces ≠ []

/-- An interface with no configuration after it. -/
def InterfaceOpen (before : List (List UInt8)) : Prop :=
  ∃ a i b, before = a ++ i :: b ∧ kind i = 4 ∧ ∀ q ∈ b, kind q ≠ 2

/-- The latest configuration has an interface: one of `before`, or one that was there. -/
def LatestHasInterface (configs : List USBConfig) (before : List (List UInt8)) : Prop :=
  InterfaceOpen before ∨ (LastHasInterface configs ∧ ∀ q ∈ before, kind q ≠ 2)

/-- `r` comes after the records `before`, which add to `configs`. -/
def Misplaced (configs : List USBConfig) (before : List (List UInt8)) (r : List UInt8) : Prop :=
  (kind r = 4 ∧ ¬ HasConfig configs before) ∨ (kind r = 5 ∧ ¬ LatestHasInterface configs before)

/-- What makes the walk fail at `r`. -/
def Bad (configs : List USBConfig) (before : List (List UInt8)) (r : List UInt8) : Prop :=
  WrongLength r ∨ Misplaced configs before r

/-! ## One descriptor -/

theorem hasConfig_nil (configs : List USBConfig) : HasConfig configs [] ↔ configs ≠ [] := by
  simp [HasConfig]

theorem latestHasInterface_nil (configs : List USBConfig) :
    LatestHasInterface configs [] ↔ LastHasInterface configs := by
  simp [LatestHasInterface, InterfaceOpen]

theorem hasConfig_cons (configs : List USBConfig) (r : List UInt8) (before : List (List UInt8)) :
    HasConfig configs (r :: before) ↔ kind r = 2 ∨ HasConfig configs before := by
  simp only [HasConfig, List.mem_cons, exists_eq_or_imp]
  tauto

theorem latestHasInterface_cons (configs : List USBConfig) (r : List UInt8) (before : List (List UInt8)) :
    LatestHasInterface configs (r :: before) ↔
      InterfaceOpen before ∨ ((kind r = 4 ∨ kind r ≠ 2 ∧ LastHasInterface configs) ∧ ∀ q ∈ before, kind q ≠ 2) := by
  constructor
  · rintro (⟨a, i, b, h, hi, hb⟩ | ⟨hl, hall⟩)
    · cases a with
      | nil =>
        obtain ⟨rfl, rfl⟩ := List.cons.inj h
        exact .inr ⟨.inl hi, hb⟩
      | cons a as => exact .inl ⟨as, i, b, (List.cons.inj h).2, hi, hb⟩
    · obtain ⟨hr, hall⟩ := List.forall_mem_cons.mp hall
      exact .inr ⟨.inr ⟨hr, hl⟩, hall⟩
  · rintro (⟨a, i, b, rfl, hi, hb⟩ | ⟨hr | ⟨hr, hl⟩, hall⟩)
    · exact .inl ⟨r :: a, i, b, rfl, hi, hb⟩
    · exact .inl ⟨[], r, before, rfl, hr, hall⟩
    · exact .inr ⟨hl, List.forall_mem_cons.mpr ⟨hr, hall⟩⟩

theorem lastHasInterface_concat (configs : List USBConfig) (config : USBConfig) :
    LastHasInterface (configs ++ [config]) ↔ config.interfaces ≠ [] := by
  simp [LastHasInterface]

/-- What a descriptor that is taken leaves behind. -/
structure Takes (configs : List USBConfig) (r : List UInt8) (configs' : List USBConfig) : Prop where
  nonempty : configs' ≠ [] ↔ kind r = 2 ∨ configs ≠ []
  interface : LastHasInterface configs' ↔ kind r = 4 ∨ kind r ≠ 2 ∧ LastHasInterface configs

theorem addConfig_takes (configs : List USBConfig) (r : List UInt8) (d : UsbdConfigDescriptor) (hr : kind r = 2) :
    (addConfig configs d).1 = .ok ∧ Takes configs r (addConfig configs d).2 := by
  refine ⟨rfl, by simp [addConfig, hr], ?_⟩
  rw [addConfig, lastHasInterface_concat]
  simp [hr]

theorem addInterface_takes (configs : List USBConfig) (r : List UInt8) (d : UsbdInterfaceDescriptor)
    (hr : kind r = 4) (h : configs ≠ []) :
    (addInterface configs d).1 = .ok ∧ Takes configs r (addInterface configs d).2 := by
  obtain ⟨configs, config, rfl⟩ := List.eq_nil_or_concat' configs |>.resolve_left h
  simp only [addInterface, List.getLast?_concat, List.dropLast_concat, true_and]
  refine ⟨by simp, ?_⟩
  rw [lastHasInterface_concat]
  simp [hr]

theorem addEndpoint_takes (configs : List USBConfig) (r : List UInt8) (d : UsbdEndpointDescriptor)
    (hr : kind r = 5) (h : LastHasInterface configs) :
    (addEndpoint configs d).1 = .ok ∧ Takes configs r (addEndpoint configs d).2 := by
  have hne : configs ≠ [] := by
    rintro rfl
    simp [LastHasInterface] at h
  obtain ⟨configs, config, rfl⟩ := List.eq_nil_or_concat' configs |>.resolve_left hne
  rw [lastHasInterface_concat] at h
  obtain ⟨interfaces, intf, hi⟩ := List.eq_nil_or_concat' config.interfaces |>.resolve_left h
  simp only [addEndpoint, List.getLast?_concat, hi, List.dropLast_concat, true_and]
  refine ⟨by simp, ?_⟩
  rw [lastHasInterface_concat, lastHasInterface_concat]
  simp [hr, hi]

theorem addInterface_nil (d : UsbdInterfaceDescriptor) : (addInterface [] d).1 ≠ .ok := by simp [addInterface]

theorem addEndpoint_error (configs : List USBConfig) (d : UsbdEndpointDescriptor) (h : ¬ LastHasInterface configs) :
    (addEndpoint configs d).1 ≠ .ok := by
  unfold addEndpoint
  split
  · simp
  · rename_i config hc
    have : config.interfaces = [] := by
      by_contra hi
      exact h ⟨config, hc, hi⟩
    simp [this]

theorem absorb_of_config (configs : List USBConfig) (r : List UInt8) (h : kind r = 2) :
    absorb configs r = if r.length ≠ 9 then (.uec .serviceInvalidValue, configs) else addConfig configs (.ofBytes r) := by
  exact if_pos h

theorem absorb_of_interface (configs : List USBConfig) (r : List UInt8) (h : kind r = 4) :
    absorb configs r =
      if r.length ≠ 9 then (.uec .serviceInvalidValue, configs) else addInterface configs (.ofBytes r) := by
  have h2 : r.getD 1 0 ≠ descriptorTypeConfig := by
    rw [show r.getD 1 0 = 4 from h]
    decide
  rw [absorb, if_neg h2]
  exact if_pos h

theorem absorb_of_endpoint (configs : List USBConfig) (r : List UInt8) (h : kind r = 5) :
    absorb configs r =
      if r.length ≠ 7 ∧ r.length ≠ 9 then (.uec .serviceInvalidValue, configs)
      else addEndpoint configs (.ofBytes (r.take endpointDescriptorSize)) := by
  have h2 : r.getD 1 0 ≠ descriptorTypeConfig := by
    rw [show r.getD 1 0 = 5 from h]
    decide
  have h4 : r.getD 1 0 ≠ descriptorTypeInterface := by
    rw [show r.getD 1 0 = 5 from h]
    decide
  rw [absorb, if_neg h2, if_neg h4]
  exact if_pos h

theorem absorb_of_other (configs : List USBConfig) (r : List UInt8) (h2 : kind r ≠ 2) (h4 : kind r ≠ 4)
    (h5 : kind r ≠ 5) : absorb configs r = (.ok, configs) := by
  exact (if_neg h2).trans ((if_neg h4).trans (if_neg h5))

theorem absorb_takes (configs : List USBConfig) (r : List UInt8) (h : ¬ Bad configs [] r) :
    (absorb configs r).1 = .ok ∧ Takes configs r (absorb configs r).2 := by
  simp only [Bad, WrongLength, Misplaced, hasConfig_nil, latestHasInterface_nil, not_or, not_and, not_not] at h
  obtain ⟨⟨h2, h4, h5⟩, hi, he⟩ := h
  by_cases c2 : kind r = 2
  · rw [absorb_of_config configs r c2, if_neg (not_not.mpr (h2 c2))]
    exact addConfig_takes configs r _ c2
  by_cases c4 : kind r = 4
  · rw [absorb_of_interface configs r c4, if_neg (not_not.mpr (h4 c4))]
    exact addInterface_takes configs r _ c4 (hi c4)
  by_cases c5 : kind r = 5
  · rw [absorb_of_endpoint configs r c5, if_neg fun hl => hl.2 (h5 c5 hl.1)]
    exact addEndpoint_takes configs r _ c5 (he c5)
  · rw [absorb_of_other configs r c2 c4 c5]
    exact ⟨rfl, by simp [c2], by simp [c2, c4]⟩

theorem absorb_error (configs : List USBConfig) (r : List UInt8) (h : Bad configs [] r) :
    (absorb configs r).1 ≠ .ok := by
  simp only [Bad, WrongLength, Misplaced, hasConfig_nil, latestHasInterface_nil, not_not] at h
  rcases h with (⟨hk, hl⟩ | ⟨hk, hl⟩ | ⟨hk, hl⟩) | ⟨hk, rfl⟩ | ⟨hk, hl⟩
  · simp [absorb_of_config configs r hk, hl]
  · simp [absorb_of_interface configs r hk, hl]
  · simp [absorb_of_endpoint configs r hk, hl]
  · rw [absorb_of_interface [] r hk]
    split
    · simp
    · exact addInterface_nil _
  · rw [absorb_of_endpoint configs r hk]
    split
    · simp
    · exact addEndpoint_error configs _ hl

/-! ## The chain -/

theorem bad_cons (configs configs' : List USBConfig) (r q : List UInt8) (before : List (List UInt8))
    (h : Takes configs r configs') : Bad configs (r :: before) q ↔ Bad configs' before q := by
  have hconfig : HasConfig configs (r :: before) ↔ HasConfig configs' before := by
    rw [hasConfig_cons, HasConfig, HasConfig, h.nonempty, or_assoc]
  have hintf : LatestHasInterface configs (r :: before) ↔ LatestHasInterface configs' before := by
    rw [latestHasInterface_cons, LatestHasInterface, h.interface]
  rw [Bad, Bad, Misplaced, Misplaced, hconfig, hintf]

theorem walk_error_iff (rs : List (List UInt8)) (configs : List USBConfig) :
    (walk rs configs).1 ≠ .ok ↔ ∃ before r after, rs = before ++ r :: after ∧ Bad configs before r := by
  induction rs generalizing configs with
  | nil => simp [walk]
  | cons r rs ih =>
    by_cases hbad : Bad configs [] r
    · have herr := absorb_error configs r hbad
      have hwalk : (walk (r :: rs) configs).1 ≠ .ok := by simp [walk, herr]
      exact iff_of_true hwalk ⟨[], r, rs, rfl, hbad⟩
    · obtain ⟨hok, htakes⟩ := absorb_takes configs r hbad
      rw [walk_cons_ok r rs configs _ (Prod.ext hok rfl), ih]
      constructor
      · rintro ⟨before, q, after, rfl, hq⟩
        exact ⟨r :: before, q, after, rfl, (bad_cons _ _ _ _ _ htakes).mpr hq⟩
      · rintro ⟨before, q, after, h, hq⟩
        cases before with
        | nil =>
          obtain ⟨rfl, -⟩ := List.cons.inj h
          exact absurd hq hbad
        | cons b before =>
          obtain ⟨rfl, rfl⟩ := List.cons.inj h
          exact ⟨before, q, after, rfl, (bad_cons _ _ _ _ _ htakes).mp hq⟩

/-! ## The cursor -/

/-- Where the loop gets to, with the list it has by then. -/
inductive Reaches (buffer : List UInt8) (length offset : Nat) (configs : List USBConfig) :
    Nat → List USBConfig → Prop
  | start : Reaches buffer length offset configs offset configs
  | next {cursor : Nat} {bLength : UInt8} {found found' : List USBConfig}
      (before : Reaches buffer length offset configs cursor found)
      (h : turn buffer length cursor found = .ok (.inr (bLength, found'))) :
      Reaches buffer length offset configs ((cursor + bLength.toNat) % 2 ^ 32) found'

theorem turn_spec (buffer : List UInt8) (cursor : Nat) (configs : List USBConfig) :
    ∃ t, turn buffer buffer.length cursor configs = .ok t ∧
      ∀ bLength found, t = .inr (bLength, found) → cursor + bLength.toNat ≤ buffer.length := by
  refine ⟨_, turn_eq buffer cursor configs, fun bLength found h => ?_⟩
  split at h
  · cases h
  · rename_i hstop
    rw [Chain.Stops, List.length_drop] at hstop
    simp only at h
    split at h
    · cases h
    · obtain ⟨rfl, -⟩ := Prod.mk.inj (Sum.inr.inj h)
      omega

theorem reaches_le (buffer : List UInt8) (hsize : buffer.length < 2 ^ 32) (offset cursor : Nat)
    (configs found : List USBConfig) (h : Reaches buffer buffer.length offset configs cursor found) :
    offset ≤ cursor ∧ cursor ≤ max offset buffer.length := by
  induction h with
  | start => omega
  | @next cursor bLength found found' _ hturn ih =>
    obtain ⟨t, ht, hle⟩ := turn_spec buffer cursor found
    rw [hturn] at ht
    have hle := hle bLength found' (Except.ok.inj ht).symm
    rw [Nat.mod_eq_of_lt (by omega)]
    omega

end UsbManager.Descriptor
