import UsbManager.Lib.Bits
import UsbManager.Lib.Separated
import UsbManager.Gadget.Manager

/-!
# The names of the functions

`ConvertFromString` cuts a list of names at its commas and looks each name up. A mask and the error come back in the
same 32-bit value; bit 6 of the error tells them apart, because no function has it.
-/

namespace UsbManager.Gadget

/-! ## The table -/

/-- The codes of the functions that only the table names. -/
def functionNone : UInt32 := 0

def functionAcm : UInt32 := 1

def functionEcm : UInt32 := (1 : UInt32) <<< 1

def functionRndis : UInt32 := (1 : UInt32) <<< 5

def functionNcm : UInt32 := (1 : UInt32) <<< 8

/-- In the order of the keys. -/
def functionMappingN2C : StdMap (List UInt8) UInt32 where
  entries := [
    (ascii "acm", functionAcm),
    (ascii "devmode_auth", functionDevmodeAuth),
    (ascii "ecm", functionEcm),
    (ascii "hdc", functionHdc),
    (ascii "mtp", functionMtp),
    (ascii "ncm", functionNcm),
    (ascii "none", functionNone),
    (ascii "ptp", functionPtp),
    (ascii "rndis", functionRndis),
    (ascii "storage", functionStorage)]
  nodup := by decide

example : functionMappingN2C.keys.Pairwise (· < ·) := by decide

/-! ## The error value -/

/-- `ErrCodeOffset`: the subsystem stands from bit 21 on and the module from bit 16 on. -/
def errCodeOffset (subsystem module : UInt32) : UInt32 := subsystem <<< 21 ||| module <<< 16

def usbOffset : UInt32 := 100

/-- The number of the subsystem is a constant of `errors.h`, and the module of the service is 0. -/
def usbfwkServiceErrOffset (subsysUsb : UInt32) : UInt32 := errCodeOffset subsysUsb 0

/-- The third code from `UEC_SERVICE_NO_MEMORY` on. -/
def uecServiceInvalidValue (subsysUsb : UInt32) : UInt32 := usbfwkServiceErrOffset subsysUsb + usbOffset + 2

/-! ## The parser -/

def comma : UInt8 := 44

/-- The loop over the items; `none` is the return from within it. -/
def orCodes : UInt32 → List (List UInt8) → Option UInt32
  | ret, [] => some ret
  | ret, item :: items =>
    match functionMappingN2C.find? item with
    | some code => orCodes (ret ||| code) items
    | none => none

/-- The text `none` is taken before the list is split, but it is also a name in a list. -/
def convertFromString (subsysUsb : UInt32) (strFun : List UInt8) : UInt32 :=
  if strFun = ascii "none" then functionNone
  else if strFun.length = 0 then uecServiceInvalidValue subsysUsb
  else (orCodes 0 (Separated.split comma strFun 0)).getD (uecServiceInvalidValue subsysUsb)

/-! ## The grammar -/

/-- The text is the list of these names, with or without a comma at its end. -/
structure Lists (strFun : List UInt8) (names : List (List UInt8)) : Prop where
  nonempty : names ≠ []
  known : ∀ name ∈ names, name ∈ functionMappingN2C.keys
  text : strFun = [comma].intercalate names ∨ strFun = [comma].intercalate names ++ [comma]

/-- The bit of a name, or 0 for `none`. -/
def codeOf (name : List UInt8) : UInt32 := (functionMappingN2C.find? name).getD 0

def maskOf (names : List (List UInt8)) : UInt32 := names.foldl (fun mask name => mask ||| codeOf name) 0

theorem known_name (name : List UInt8) (h : name ∈ functionMappingN2C.keys) : name ≠ [] ∧ comma ∉ name := by
  revert name
  decide

theorem Lists.split {strFun : List UInt8} {names : List (List UInt8)} (h : Lists strFun names) :
    Separated.split comma strFun 0 = names := by
  obtain ⟨hplain, htrailing⟩ :=
    Separated.split_intercalate comma names h.nonempty fun name hname => known_name name (h.known name hname)
  rcases h.text with rfl | rfl
  · exact hplain
  · exact htrailing

theorem lists_of_split (strFun : List UInt8) (hne : strFun ≠ [])
    (h : ∀ item ∈ Separated.split comma strFun 0, item ∈ functionMappingN2C.keys) :
    Lists strFun (Separated.split comma strFun 0) := by
  obtain ⟨hitems, htext⟩ := Separated.intercalate_split comma strFun hne
  exact ⟨hitems, h, htext⟩

theorem find?_of_known {name : List UInt8} (h : name ∈ functionMappingN2C.keys) :
    functionMappingN2C.find? name = some (codeOf name) := by
  obtain ⟨code, hcode⟩ := Option.isSome_iff_exists.mp ((functionMappingN2C.find?_isSome name).mpr h)
  rw [codeOf, hcode]
  rfl

theorem orCodes_eq (ret : UInt32) (items : List (List UInt8)) :
    orCodes ret items =
      if ∀ item ∈ items, item ∈ functionMappingN2C.keys then
        some (items.foldl (fun mask name => mask ||| codeOf name) ret)
      else none := by
  induction items generalizing ret with
  | nil => simp [orCodes]
  | cons item items ih =>
    unfold orCodes
    by_cases hitem : item ∈ functionMappingN2C.keys
    · rw [find?_of_known hitem]
      simp [ih, hitem]
    · rw [(functionMappingN2C.find?_eq_none item).mpr hitem]
      simp [hitem]

/-! ## Masks and the error -/

theorem codeOf_cases (name : List UInt8) : codeOf name = 0 ∨ (name, codeOf name) ∈ functionMappingN2C.entries := by
  unfold codeOf
  rcases hcode : functionMappingN2C.find? name with - | code
  · exact .inl rfl
  · exact .inr ((functionMappingN2C.find?_eq_some name code).mp hcode)

theorem bit_maskOf (names : List (List UInt8)) (i : Nat) :
    Bits.bit (maskOf names) i = names.any fun name => Bits.bit (codeOf name) i := by
  rw [maskOf, Bits.bit_foldl_or, Bits.bit_zero, Bool.false_or]

theorem bit6_maskOf (names : List (List UInt8)) : Bits.bit (maskOf names) 6 = false := by
  have htable : ∀ e ∈ functionMappingN2C.entries, Bits.bit e.2 6 = false := by decide
  rw [bit_maskOf, List.any_eq_false]
  intro name _
  rcases codeOf_cases name with hcode | hcode
  · simp [hcode]
  · simp [htable _ hcode]

theorem bit6_uecServiceInvalidValue (subsysUsb : UInt32) : Bits.bit (uecServiceInvalidValue subsysUsb) 6 = true := by
  unfold Bits.bit uecServiceInvalidValue usbfwkServiceErrOffset errCodeOffset usbOffset
  rw [← BitVec.testBit_toNat, Nat.testBit_eq_decide_div_mod_eq]
  simp
  omega

theorem maskOf_ne_error (subsysUsb : UInt32) (names : List (List UInt8)) :
    maskOf names ≠ uecServiceInvalidValue subsysUsb := by
  intro h
  have hbit := bit6_maskOf names
  rw [h, bit6_uecServiceInvalidValue] at hbit
  cases hbit

theorem none_lists : Lists (ascii "none") [ascii "none"] :=
  ⟨List.cons_ne_nil _ _, by decide, .inl (by decide)⟩

theorem Lists.convert {strFun : List UInt8} {names : List (List UInt8)} (h : Lists strFun names)
    (subsysUsb : UInt32) : convertFromString subsysUsb strFun = maskOf names := by
  unfold convertFromString
  split
  · rename_i hnone
    have hnames : names = [ascii "none"] := by
      rw [← h.split, hnone]
      exact none_lists.split
    rw [hnames]
    rfl
  · have hne : strFun.length ≠ 0 := by
      intro hlen
      apply h.nonempty
      rw [← h.split, List.eq_nil_of_length_eq_zero hlen]
      simp [Separated.split]
    rw [if_neg hne, h.split, orCodes_eq, if_pos h.known]
    rfl

theorem convert_unlisted (subsysUsb : UInt32) (strFun : List UInt8) (h : ¬ ∃ names, Lists strFun names) :
    convertFromString subsysUsb strFun = uecServiceInvalidValue subsysUsb := by
  unfold convertFromString
  split
  · rename_i hnone
    exact absurd ⟨_, hnone ▸ none_lists⟩ h
  · split
    · rfl
    · rename_i hlen
      rw [orCodes_eq, if_neg]
      · rfl
      · intro hknown
        have hne : strFun ≠ [] := fun hnil => hlen (by rw [hnil]; rfl)
        exact h ⟨_, lists_of_split strFun hne hknown⟩

/-- A list of names gives the mask of their codes, which is never the error, and everything else gives the error. -/
theorem convertFromString_grammar (subsysUsb : UInt32) (strFun : List UInt8) :
    (∀ names, Lists strFun names →
      convertFromString subsysUsb strFun = maskOf names ∧ maskOf names ≠ uecServiceInvalidValue subsysUsb) ∧
    ((¬ ∃ names, Lists strFun names) → convertFromString subsysUsb strFun = uecServiceInvalidValue subsysUsb) := by
  constructor
  · intro names h
    exact ⟨h.convert subsysUsb, maskOf_ne_error subsysUsb names⟩
  · exact convert_unlisted subsysUsb strFun

theorem convertFromString_grammar_trailing :
    Lists (ascii "hdc,storage,") [ascii "hdc", ascii "storage"] ∧
      convertFromString 24 (ascii "hdc,storage,") = functionHdc ||| functionStorage := by
  have h : Lists (ascii "hdc,storage,") [ascii "hdc", ascii "storage"] :=
    ⟨List.cons_ne_nil _ _, by decide, .inr (by decide)⟩
  exact ⟨h, ((convertFromString_grammar 24 _).1 _ h).1⟩

end UsbManager.Gadget
