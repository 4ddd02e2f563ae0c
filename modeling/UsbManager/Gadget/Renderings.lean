import UsbManager.Gadget.FunctionNames

/-!
# Three renderings of the functions

The list of names, the mask and the parameters of the broadcast. `ConvertToString` prints nothing above
`functionSettable_`, which leaves out one function of the table: `devmode_auth` is read but printed as `none`.
-/

namespace UsbManager.Gadget

/-! ## The printer -/

/-- All functions of the table but `devmode_auth`. It is also the largest mask that is printed. -/
def functionSettable : UInt32 :=
  functionHdc ||| functionAcm ||| functionEcm ||| functionMtp ||| functionPtp ||| functionRndis ||| functionNcm |||
    functionStorage

/-- One turn of the loop over the table; the state is `stream` and `flag`. -/
def printName (function : UInt32) (printed : List UInt8 × Bool) (entry : List UInt8 × UInt32) : List UInt8 × Bool :=
  if function &&& entry.2 ≠ 0 then ((if printed.2 then printed.1 ++ [comma] else printed.1) ++ entry.1, true)
  else printed

/-- The names in the order of the table, with commas between them. -/
def convertToString (function : UInt32) : List UInt8 :=
  if function ≤ functionNone ∨ function > functionSettable then ascii "none"
  else (functionMappingN2C.entries.foldl (printName function) ([], false)).1

/-- The names of the table that a mask has. -/
def namesOf (function : UInt32) (entries : List (List UInt8 × UInt32)) : List (List UInt8) :=
  (entries.filter fun entry => function &&& entry.2 ≠ 0).map Prod.fst

theorem foldl_printName (function : UInt32) (entries : List (List UInt8 × UInt32)) (stream : List UInt8) :
    (entries.foldl (printName function) (stream, true)).1 =
        [comma].intercalate (stream :: namesOf function entries) ∧
      (entries.foldl (printName function) ([], false)).1 = [comma].intercalate (namesOf function entries) := by
  induction entries generalizing stream with
  | nil => simp [namesOf]
  | cons entry entries ih =>
    rw [List.foldl_cons, List.foldl_cons]
    by_cases hentry : function &&& entry.2 = 0
    · simpa [printName, namesOf, hentry] using ih stream
    · have hnames : namesOf function (entry :: entries) = entry.1 :: namesOf function entries := by
        simp [namesOf, hentry]
      have hturn : ∀ printed, printName function printed entry =
          ((if printed.2 then printed.1 ++ [comma] else printed.1) ++ entry.1, true) := fun _ => if_pos hentry
      rw [hnames, hturn, hturn]
      constructor
      · exact ((ih _).1.trans (by simp [Separated.intercalate_append_cons]))
      · exact (ih entry.1).1

theorem convertToString_eq (function : UInt32) (hne : function ≠ 0) (hle : function ≤ functionSettable) :
    convertToString function = [comma].intercalate (namesOf function functionMappingN2C.entries) := by
  unfold convertToString
  rw [if_neg]
  · exact (foldl_printName function functionMappingN2C.entries []).2
  · rintro (hzero | habove)
    · exact hne (UInt32.le_zero_iff.mp hzero)
    · exact absurd habove (UInt32.not_lt.mpr hle)

/-! ## The broadcast -/

def connectedKey : List UInt8 := ascii "connected"

/-- The loop over the bits. It ends when no bit is left, and `none` stands for the turns that are not enough. -/
def setBitParams : Nat → UInt32 → UInt32 → List (List UInt8 × Bool) → Option (List (List UInt8 × Bool))
  | 0, remainderFunc, _, params => if remainderFunc = 0 then some params else none
  | turns + 1, remainderFunc, bit, params =>
    if remainderFunc = 0 then some params
    else if remainderFunc &&& bit ≠ 0 then
      setBitParams turns (remainderFunc &&& ~~~bit) (bit <<< 1) (params ++ [(convertToString bit, true)])
    else setBitParams turns remainderFunc (bit <<< 1) params

/-- The parameters of the want of `BroadcastFuncChange`, in at most 32 turns. -/
def broadcastParams (connected : Bool) (currentFunc : UInt32) : Option (List (List UInt8 × Bool)) :=
  setBitParams 32 currentFunc 1 [(connectedKey, connected)]

/-- The entry for one bit, under the name that is printed for it. -/
def bitParam (i : Nat) : List UInt8 × Bool := (convertToString (Bits.single i), true)

theorem setBitParams_eq (turns k : Nat) (hk : turns + k = 32) (remainderFunc : UInt32)
    (hclear : ∀ j, j < k → Bits.bit remainderFunc j = false) (params : List (List UInt8 × Bool)) :
    setBitParams turns remainderFunc (Bits.single k) params =
      some (params ++ ((List.range' k turns).filter (Bits.bit remainderFunc)).map bitParam) := by
  induction turns generalizing k remainderFunc params with
  | zero =>
    have hzero : remainderFunc = 0 := by
      rw [Bits.eq_zero_iff]
      intro i
      rcases Nat.lt_or_ge i 32 with hi | hi
      · exact hclear i (by omega)
      · exact Bits.bit_of_le _ _ hi
    simp [setBitParams, hzero]
  | succ turns ih =>
    unfold setBitParams
    split
    · rename_i hzero
      rw [List.filter_eq_nil_iff.mpr]
      · simp
      · intro i _
        simp [hzero]
    · rw [List.range'_succ, Bits.single_succ]
      split
      · rename_i hbit
        rw [Bits.and_single_ne_zero] at hbit
        have hclear' : ∀ j, j < k + 1 → Bits.bit (remainderFunc &&& ~~~Bits.single k) j = false := by
          intro j hj
          rw [Bits.bit_clear _ _ _ (by omega)]
          rcases Nat.lt_succ_iff_lt_or_eq.mp hj with hj | rfl
          · simp [hclear j hj]
          · simp
        have hrest : ∀ j ∈ List.range' (k + 1) turns,
            Bits.bit (remainderFunc &&& ~~~Bits.single k) j = Bits.bit remainderFunc j := by
          intro j hj
          have := List.mem_range'_1.mp hj
          have hjk : j ≠ k := by omega
          rw [Bits.bit_clear _ _ _ (by omega)]
          simp [hjk]
        rw [ih (k + 1) (by omega) _ hclear', List.filter_congr hrest, List.filter_cons_of_pos hbit]
        simp [bitParam]
      · rename_i hbit
        rw [Bits.and_single_ne_zero, Bool.not_eq_true] at hbit
        have hclear' : ∀ j, j < k + 1 → Bits.bit remainderFunc j = false := by
          intro j hj
          rcases Nat.lt_succ_iff_lt_or_eq.mp hj with hj | rfl
          · exact hclear j hj
          · exact hbit
        rw [ih (k + 1) (by omega) _ hclear', List.filter_cons_of_neg (by simp [hbit])]

theorem broadcastParams_eq (connected : Bool) (currentFunc : UInt32) :
    broadcastParams connected currentFunc =
      some ((connectedKey, connected) :: ((List.range' 0 32).filter (Bits.bit currentFunc)).map bitParam) := by
  unfold broadcastParams
  rw [← Bits.single_zero, setBitParams_eq 32 0 rfl currentFunc (fun j hj => absurd hj (Nat.not_lt_zero j))]
  rfl

/-! ## Masks of names -/

theorem codeOf_entry {name : List UInt8} {code : UInt32} (h : (name, code) ∈ functionMappingN2C.entries) :
    codeOf name = code := by
  rw [codeOf, (functionMappingN2C.find?_eq_some name code).mpr h]
  rfl

theorem entry_of_known {name : List UInt8} (h : name ∈ functionMappingN2C.keys) :
    (name, codeOf name) ∈ functionMappingN2C.entries :=
  (functionMappingN2C.find?_eq_some name _).mp (find?_of_known h)

theorem maskOf_and_ne_zero (names : List (List UInt8)) (code : UInt32) :
    maskOf names &&& code ≠ 0 ↔ ∃ name ∈ names, codeOf name &&& code ≠ 0 := by
  simp only [Bits.ne_zero_iff, Bits.bit_and, bit_maskOf, Bool.and_eq_true, List.any_eq_true]
  constructor
  · rintro ⟨i, ⟨name, hname, hbit⟩, hcode⟩
    exact ⟨name, hname, i, hbit, hcode⟩
  · rintro ⟨name, hname, i, hbit, hcode⟩
    exact ⟨i, ⟨name, hname, hbit⟩, hcode⟩

theorem table_disjoint : ∀ e ∈ functionMappingN2C.entries, ∀ e' ∈ functionMappingN2C.entries,
    e.2 &&& e'.2 ≠ 0 ↔ e.1 = e'.1 ∧ e'.1 ≠ ascii "none" := by
  decide +kernel

theorem mem_namesOf_maskOf {names : List (List UInt8)} (h : ∀ name ∈ names, name ∈ functionMappingN2C.keys)
    (name : List UInt8) :
    name ∈ namesOf (maskOf names) functionMappingN2C.entries ↔ name ∈ names ∧ name ≠ ascii "none" := by
  simp only [namesOf, List.mem_map, List.mem_filter, decide_eq_true_eq, maskOf_and_ne_zero]
  constructor
  · rintro ⟨e, ⟨he, name', hname', hand⟩, rfl⟩
    obtain ⟨rfl, hnone⟩ := (table_disjoint _ (entry_of_known (h name' hname')) e he).mp hand
    exact ⟨hname', hnone⟩
  · rintro ⟨hname, hnone⟩
    have hentry := entry_of_known (h name hname)
    exact ⟨_, ⟨hentry, name, hname, (table_disjoint _ hentry _ hentry).mpr ⟨rfl, hnone⟩⟩, rfl⟩

theorem maskOf_eq_of_mem {names names' : List (List UInt8)}
    (h : ∀ name, name ∈ names' ↔ name ∈ names ∧ name ≠ ascii "none") : maskOf names' = maskOf names := by
  apply Bits.ext
  intro i
  rw [Bool.eq_iff_iff, bit_maskOf, bit_maskOf, List.any_eq_true, List.any_eq_true]
  constructor
  · rintro ⟨name, hname, hbit⟩
    exact ⟨name, ((h name).mp hname).1, hbit⟩
  · rintro ⟨name, hname, hbit⟩
    refine ⟨name, (h name).mpr ⟨hname, ?_⟩, hbit⟩
    rintro rfl
    rw [codeOf_entry (show (ascii "none", functionNone) ∈ _ by decide), functionNone, Bits.bit_zero] at hbit
    cases hbit

theorem table_settable : ∀ e ∈ functionMappingN2C.entries, e.1 ≠ ascii "devmode_auth" →
    ∀ i, Bits.bit e.2 i = true → Bits.bit functionSettable i = true := by
  intro e he hne i hbit
  have hand : ∀ e ∈ functionMappingN2C.entries, e.1 ≠ ascii "devmode_auth" → e.2 &&& functionSettable = e.2 := by
    decide
  rw [← hand e he hne, Bits.bit_and, Bool.and_eq_true] at hbit
  exact hbit.2

theorem settable_of_mask {names : List (List UInt8)} (h : ∀ name ∈ names, name ∈ functionMappingN2C.keys) :
    maskOf names ≤ functionSettable ↔ ascii "devmode_auth" ∉ names := by
  constructor
  · intro hle hmem
    -- The bit of `devmode_auth` lies above all the settable ones.
    have hbit : Bits.bit (maskOf names) 12 = true := by
      rw [bit_maskOf, List.any_eq_true]
      exact ⟨_, hmem, by decide⟩
    have hge : 2 ^ 12 ≤ (maskOf names).toNat := by
      apply Nat.ge_two_pow_of_testBit
      rw [← hbit]
      exact BitVec.testBit_toNat _
    have hle' : (maskOf names).toNat ≤ functionSettable.toNat := UInt32.le_iff_toNat_le.mp hle
    have hval : functionSettable.toNat = 831 := rfl
    omega
  · intro hnot
    have hand : maskOf names &&& functionSettable = maskOf names := by
      apply Bits.ext
      intro i
      rw [Bits.bit_and, Bool.and_eq_left_iff_imp, bit_maskOf, List.any_eq_true]
      rintro ⟨name, hname, hbit⟩
      exact table_settable _ (entry_of_known (h name hname)) (fun heq => hnot (heq ▸ hname)) i hbit
    rw [← hand]
    exact UInt32.and_le_right

/-! ## Agreement -/

/-- The printed mask is read back, and its names and those of the broadcast are the names of the list but `none`. -/
structure RenderingsAgree (subsysUsb : UInt32) (connected : Bool) (function : UInt32) (names : List (List UInt8)) :
    Prop where
  reparsed : convertFromString subsysUsb (convertToString function) = function
  printed : ∃ printed, Lists (convertToString function) printed ∧
    ∀ name, name ∈ printed ↔ name ∈ names ∧ name ≠ ascii "none"
  broadcast : ∃ params, broadcastParams connected function = some params ∧
    ∀ name, name ≠ connectedKey → ((name, true) ∈ params ↔ name ∈ names ∧ name ≠ ascii "none")

theorem convertToString_devmodeAuth {names : List (List UInt8)}
    (h : ∀ name ∈ names, name ∈ functionMappingN2C.keys) (hmem : ascii "devmode_auth" ∈ names) :
    convertToString (maskOf names) = ascii "none" := by
  unfold convertToString
  refine if_pos (.inr ?_)
  by_contra hle
  exact (settable_of_mask h).mp (UInt32.not_lt.mp hle) hmem

theorem lists_convertToString {names : List (List UInt8)} (h : ∀ name ∈ names, name ∈ functionMappingN2C.keys)
    (hne : maskOf names ≠ 0) (hnot : ascii "devmode_auth" ∉ names) :
    Lists (convertToString (maskOf names)) (namesOf (maskOf names) functionMappingN2C.entries) := by
  refine ⟨fun hnil => hne ?_, fun name hname => ?_, .inl (convertToString_eq _ hne ((settable_of_mask h).mpr hnot))⟩
  · rw [← maskOf_eq_of_mem (mem_namesOf_maskOf h), hnil]
    rfl
  · exact h name ((mem_namesOf_maskOf h name).mp hname).1

theorem table_printed : ∀ e ∈ functionMappingN2C.entries, e.1 ≠ ascii "devmode_auth" →
    (∀ i < 32, Bits.bit e.2 i = true → convertToString (Bits.single i) = e.1 ∧ e.1 ≠ ascii "none") ∧
    (e.1 ≠ ascii "none" → ∃ i < 32, Bits.bit e.2 i = true) := by
  decide +kernel

theorem mem_broadcastParams {names : List (List UInt8)} (h : ∀ name ∈ names, name ∈ functionMappingN2C.keys)
    (hnot : ascii "devmode_auth" ∉ names) (name : List UInt8) :
    (name, true) ∈ ((List.range' 0 32).filter (Bits.bit (maskOf names))).map bitParam ↔
      name ∈ names ∧ name ≠ ascii "none" := by
  have htable : ∀ n ∈ names, _ := fun n hn => table_printed _ (entry_of_known (h n hn)) fun heq => hnot (heq ▸ hn)
  simp only [List.mem_map, List.mem_filter, List.mem_range'_1, bit_maskOf, List.any_eq_true, bitParam,
    Prod.mk.injEq, and_true]
  constructor
  · rintro ⟨i, ⟨⟨-, hi⟩, n, hn, hbit⟩, rfl⟩
    obtain ⟨hprinted, hnone⟩ := (htable n hn).1 i (by omega) hbit
    rw [hprinted]
    exact ⟨hn, hnone⟩
  · rintro ⟨hname, hnone⟩
    obtain ⟨i, hi, hbit⟩ := (htable name hname).2 hnone
    exact ⟨i, ⟨⟨Nat.zero_le i, by omega⟩, name, hname, hbit⟩, ((htable name hname).1 i hi hbit).1⟩

/-- The renderings of an accepted list with a mask agree exactly if it does not name `devmode_auth`, and the loop of
the broadcast ends for every mask. -/
theorem renderings_agree_iff (subsysUsb : UInt32) (connected : Bool) (strFun : List UInt8) (names : List (List UInt8))
    (h : Lists strFun names) (hne : convertFromString subsysUsb strFun ≠ 0) :
    (RenderingsAgree subsysUsb connected (convertFromString subsysUsb strFun) names ↔
      ascii "devmode_auth" ∉ names) ∧
    ∀ mask, ∃ params, broadcastParams connected mask = some params := by
  refine ⟨?_, fun mask => ⟨_, broadcastParams_eq connected mask⟩⟩
  rw [h.convert subsysUsb] at hne ⊢
  constructor
  · intro hagree hmem
    obtain ⟨printed, hprinted, hnames⟩ := hagree.printed
    rw [convertToString_devmodeAuth h.known hmem] at hprinted
    have hdevmode : ascii "devmode_auth" ∈ printed := (hnames _).mpr ⟨hmem, by decide⟩
    rw [← hprinted.split, none_lists.split] at hdevmode
    exact absurd hdevmode (by decide)
  · intro hnot
    have hprinted := lists_convertToString h.known hne hnot
    refine ⟨?_, ⟨_, hprinted, mem_namesOf_maskOf h.known⟩, ⟨_, broadcastParams_eq connected _, fun name hname => ?_⟩⟩
    · rw [hprinted.convert subsysUsb]
      exact maskOf_eq_of_mem (mem_namesOf_maskOf h.known)
    · rw [List.mem_cons, Prod.mk.injEq, mem_broadcastParams h.known hnot]
      simp [hname]

theorem hdc_storage_lists : Lists (ascii "hdc,storage") [ascii "hdc", ascii "storage"] :=
  ⟨List.cons_ne_nil _ _, by decide, .inl (by decide)⟩

theorem renderings_agree_hdc_storage :
    convertFromString 24 (ascii "hdc,storage") ≠ 0 ∧
      RenderingsAgree 24 true (convertFromString 24 (ascii "hdc,storage")) [ascii "hdc", ascii "storage"] := by
  have hne : convertFromString 24 (ascii "hdc,storage") ≠ 0 := by
    rw [hdc_storage_lists.convert]
    decide
  exact ⟨hne, (renderings_agree_iff 24 true _ _ hdc_storage_lists hne).1.mpr (by decide)⟩

/-- The list is accepted with a mask, which is printed as `none` and read back as 0. -/
theorem devmodeAuth_printed_as_none :
    ∃ strFun names, Lists strFun names ∧ convertFromString 24 strFun = functionHdc ||| functionDevmodeAuth ∧
      convertToString (functionHdc ||| functionDevmodeAuth) = ascii "none" ∧
      convertFromString 24 (ascii "none") = 0 ∧
      ¬ RenderingsAgree 24 true (convertFromString 24 strFun) names := by
  have h : Lists (ascii "hdc,devmode_auth") [ascii "hdc", ascii "devmode_auth"] :=
    ⟨List.cons_ne_nil _ _, by decide, .inl (by decide)⟩
  have hmask : convertFromString 24 (ascii "hdc,devmode_auth") = functionHdc ||| functionDevmodeAuth :=
    (h.convert 24).trans (by decide)
  have hprinted : convertToString (functionHdc ||| functionDevmodeAuth) = ascii "none" := by decide
  have hread : convertFromString 24 (ascii "none") = 0 := (none_lists.convert 24).trans (by decide)
  refine ⟨_, _, h, hmask, hprinted, hread, fun hagree => ?_⟩
  have hreparsed := hagree.reparsed
  rw [hmask, hprinted, hread] at hreparsed
  exact absurd hreparsed (by decide)

end UsbManager.Gadget
