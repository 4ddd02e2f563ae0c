import UsbManager.Dialog.Allow
import UsbManager.Service.Request

/-!
# The user agrees

From the request of an application to the row of its right. The dialog is told what was asked for, it grants that, and
the request finds the right when it looks again. A serial port is named by a number and the token is passed as an
`int32_t`, so that half of the tokens never see the dialog.
-/

namespace UsbManager.Dialog

open Rights Accessory Serial Service Json Napi Js Parcel

/-! ## What the service asks for -/

/-- `RequestAccessoryRight`. The second component is the result that goes with `UEC_OK`. -/
def requestAccessoryRight (env : RightEnv) (dialog : Service.Dialog) (caller : Caller) (access : USBAccessory)
    (s : ServiceState) : Requested × Bool × ServiceState :=
  if !s.usbRightManager then (⟨.uec .serviceInvalidValue, false⟩, false, s)
  else
    match s.usbAccessoryManager with
    | none => (⟨.uec .serviceInvalidValue, false⟩, false, s)
    | some m =>
      match getCallingInfo caller with
      | none => (⟨.uec .serviceGetTokenInfoFailed, false⟩, false, s)
      | some info =>
        match getAccessorySerialNumber m access info.bundleName with
        | .error ret => (⟨ret, false⟩, false, s)
        | .ok serialNum =>
          let (result, db) := managerRequestRight env dialog (info.key serialNum info.tokenId) s.rights
          (⟨.ok, result.dialog⟩, result.ret = .ok, s.setRights db)

/-- Whether the service asks the user. -/
def asksUser (env : RightEnv) (dialog : Service.Dialog) (caller : Caller) (s : ServiceState) : Target → Bool
  | .device deviceName => (requestRight env dialog caller deviceName s).1.dialog
  | .serial portId => (requestSerialRight env dialog caller portId s).1.dialog
  | .accessory access => (requestAccessoryRight env dialog caller access s).1.dialog

/-- The request that the service hands over, for a caller with calling information. -/
def requestOf (info : CallingInfo) (target : Target) (deviceName : String) : Request :=
  ⟨target, deviceName, info.bundleName, info.tokenId, info.userId⟩

/-- The request that the service makes for a caller, with the name that the tables have for the device. -/
inductive Asked (info : CallingInfo) (s : ServiceState) : Request → Prop
  | device (deviceName name : String) (hname : s.deviceVidPidMap.find? deviceName = some name) :
      Asked info s (requestOf info (.device deviceName) name)
  | serial (portId : Int) (busDev name : String) (hname : s.serialVidPidMap.find? portId = some (busDev, name)) :
      Asked info s (requestOf info (.serial portId) name)
  | accessory (m : AccessoryManager) (access : USBAccessory) (serialNum : String)
      (hmanager : s.usbAccessoryManager = some m)
      (hname : getAccessorySerialNumber m access info.bundleName = .ok serialNum) :
      Asked info s (requestOf info (.accessory access) serialNum)

theorem asked_of_asksUser {env : RightEnv} {dialog : Service.Dialog} {caller : Caller} {s : ServiceState}
    {target : Target} (h : asksUser env dialog caller s target = true) :
    ∃ info r, getCallingInfo caller = some info ∧ Asked info s r ∧ r.target = target := by
  cases target with
  | device deviceName =>
    simp only [asksUser] at h
    unfold requestRight at h
    split at h
    · cases h
    split at h
    · cases h
    rename_i name hname
    split at h
    · cases h
    split at h
    · cases h
    rename_i info hinfo
    exact ⟨info, _, hinfo, .device deviceName name hname, rfl⟩
  | serial portId =>
    simp only [asksUser] at h
    unfold requestSerialRight at h
    split at h
    · cases h
    split at h
    · split at h
      · cases h
      rename_i busDev name hname
      split at h
      · cases h
      split at h
      · cases h
      rename_i info hinfo
      exact ⟨info, _, hinfo, .serial portId busDev name hname, rfl⟩
    · cases h
  | accessory access =>
    simp only [asksUser] at h
    unfold requestAccessoryRight at h
    split at h
    · cases h
    split at h
    · cases h
    rename_i m hmanager
    split at h
    · cases h
    rename_i info hinfo
    split at h
    · cases h
    rename_i serialNum hname
    exact ⟨info, _, hinfo, .accessory m access serialNum hmanager hname, rfl⟩

/-- Every text of the accessory fits the buffer of the bindings. -/
structure FitsBuffer (access : USBAccessory) : Prop where
  manufacturer : Survives defaultAccessoryDescriptionSize access.manufacturer
  product : Survives defaultAccessoryDescriptionSize access.product
  description : Survives defaultAccessoryDescriptionSize access.description
  version : Survives defaultAccessoryDescriptionSize access.version
  serialNumber : Survives defaultAccessoryDescriptionSize access.serialNumber

/-- The texts fit, `JSON.parse` reads what was printed, and the number of the port is not the one that the binding takes
for a failure. -/
def Target.Sendable (engine : Engine) (cjson : Library) : Target → Prop
  | .device busDev => Survives strDefaultSize busDev
  | .accessory access => FitsBuffer access ∧ NoNul (access.getJsonString cjson) ∧
      engine.jsonParse (access.getJsonString cjson) = some (ctoJSUSBAccessory access)
  | .serial portId => IsInt32 portId ∧ portId ≠ -1

/-! ## Messages -/

theorem lookup_dialogMessage (values : List (String × String)) (k : String)
    (hk : k ≠ "ability.want.params.uiExtensionType") :
    (dialogMessage (fill values)).lookup k = ((values.reverse.find? fun v => v.1 = k).map Prod.snd).map cStr := by
  have hlast : List.lookup k [("ability.want.params.uiExtensionType", "sysDialog/common")] = none := by
    rw [List.lookup_cons, beq_false_of_ne hk]
    rfl
  have hparams : (fill values).find? k = (values.reverse.find? fun v => v.1 = k).map Prod.snd := by
    unfold fill
    rw [StdMap.find?_foldl_set, StdMap.find?]
    exact Option.or_none
  unfold dialogMessage
  rw [List.lookup_append, hlast, Option.or_none, ← hparams]
  exact StdMap.find?_mapVal (fill values) cStr k

theorem noNul_of_digits {s : String} (h : isAllDigits s = true) : NoNul s := by
  intro hmem
  have := List.all_eq_true.mp h _ hmem
  simp at this

theorem isAllDigits_tokenIdText (tokenId : UInt32) : isAllDigits (tokenIdText tokenId) = true := by
  unfold isAllDigits tokenIdText
  rw [List.all_eq_true, Nat.toString_eq_repr, Nat.toList_repr]
  intro c hc
  exact Nat.isDigit_of_mem_toDigits (by omega) (by omega) hc

theorem accessTokenId_tokenIdText (tokenId : UInt32) : accessTokenId (tokenIdText tokenId) = tokenId := by
  unfold accessTokenId tokenIdText Decimal.value
  rw [Nat.toString_eq_repr, Nat.toList_repr]
  simp

theorem digits_repr (n : Nat) : n.repr.toList ≠ [] ∧ n.repr.toList.all Char.isDigit = true := by
  rw [Nat.toList_repr]
  refine ⟨Nat.toDigits_ne_nil, List.all_eq_true.mpr fun c hc => ?_⟩
  exact Nat.isDigit_of_mem_toDigits (by omega) (by omega) hc

theorem noNul_repr (n : Int) : NoNul n.repr := by
  intro hmem
  rw [Int.repr_eq_if] at hmem
  split at hmem
  · simpa using List.all_eq_true.mp (digits_repr n.toNat).2 _ hmem
  · simp only [String.toList_append, List.mem_append] at hmem
    rcases hmem with hmem | hmem
    · simp at hmem
    · simpa using List.all_eq_true.mp (digits_repr (-n).toNat).2 _ hmem

theorem naturalOf_repr (n : Nat) : naturalOf n.repr.toList = some n := by
  unfold naturalOf Decimal.value
  rw [if_pos (digits_repr n), Nat.toList_repr, Nat.ofDigitChars_ten_toDigits]

theorem numeral?_repr (n : Int) : numeral? (cStr n.repr) = some n := by
  rw [cStr_eq (noNul_repr n), Int.repr_eq_if]
  unfold numeral?
  split
  · rename_i hpos
    have hhead : n.toNat.repr.toList.head? ≠ some '-' := fun h =>
      absurd (List.all_eq_true.mp (digits_repr n.toNat).2 _ (List.mem_of_head? h)) (by decide)
    rw [if_neg hhead, naturalOf_repr]
    exact congrArg some (Int.toNat_of_nonneg hpos)
  · rename_i hneg
    have hlist : ("-" ++ (-n).toNat.repr).toList = '-' :: (-n).toNat.repr.toList := by
      rw [String.toList_append]
      rfl
    rw [hlist, List.head?_cons, if_pos rfl, List.tail_cons, naturalOf_repr]
    refine congrArg some ?_
    show -((-n).toNat : Int) = n
    omega

theorem numberOf_repr (n : Int) : numberOf (some (cStr n.repr)) = .ofInt n := by
  simp [numberOf, numeral?_repr, JsValue.ofInt]

theorem utf8ByteSize_ofList_le (l : List Char) : (String.ofList l).utf8ByteSize ≤ 4 * l.length := by
  induction l with
  | nil => simp
  | cons c l ih =>
    have hchar := Char.utf8Size_le_four c
    rw [← List.singleton_append, String.ofList_append, String.utf8ByteSize_append, ← String.singleton_eq_ofList,
      String.utf8ByteSize_singleton, List.length_append, List.length_singleton]
    omega

theorem survives_tokenIdText (tokenId : UInt32) : Survives strDefaultSize (tokenIdText tokenId) := by
  have hlt := tokenId.toNat_lt
  have hlength : (tokenIdText tokenId).toList.length ≤ 10 := by
    unfold tokenIdText
    rw [Nat.toString_eq_repr, Nat.toList_repr, Nat.length_toDigits_le_iff (by decide) (by decide)]
    omega
  have hsize := utf8ByteSize_ofList_le (tokenIdText tokenId).toList
  rw [String.ofList_toList] at hsize
  exact ⟨noNul_of_digits (isAllDigits_tokenIdText tokenId), by unfold strDefaultSize; omega⟩

theorem castId?_tokenIdText (tokenId : UInt32) :
    castId? (tokenIdText tokenId) = if tokenId.toNat < 2 ^ 31 then some (tokenId.toNat : Int) else none := by
  have hne : tokenIdText tokenId ≠ "" := fun h => (digits_repr tokenId.toNat).1 (congrArg String.toList h)
  have hcast : tokenId.toInt32.toInt = (tokenId.toNat : Int).bmod (2 ^ 32) :=
    BitVec.toInt_eq_toNat_bmod tokenId.toBitVec
  have hlt := tokenId.toNat_lt
  have hbmod := Int.bmod_def (tokenId.toNat : Int) (2 ^ 32)
  unfold castId?
  simp only [hne, isAllDigits_tokenIdText, accessTokenId_tokenIdText, hcast, decide_false, Bool.not_true, Bool.or_self,
    Bool.false_eq_true, if_false]
  by_cases hfits : tokenId.toNat < 2 ^ 31
  · have hvalue : (tokenId.toNat : Int).bmod (2 ^ 32) = tokenId.toNat := by
      split at hbmod <;> omega
    rw [hvalue, if_neg (by omega), if_pos hfits]
  · have hnegative : (tokenId.toNat : Int).bmod (2 ^ 32) < 0 := by
      split at hbmod <;> omega
    rw [if_pos hnegative, if_neg hfits]

/-! ## What is allowed -/

section Allow

variable (labels : Labels) (tokenId : UInt32) {engine : Engine} (hbuffer : Utf8Buffer engine.getValueStringUtf8)
include hbuffer

theorem text?_valueOf {bufLen : Nat} {s : String} (h : Survives bufLen s) :
    text? engine.getValueStringUtf8 bufLen (valueOf (some s)) = some s := by
  unfold text? valueOf
  simp only [Option.elim_some, JsValue.string?, Option.map_some, hbuffer.fits bufLen s h.2, cStr_eq h.1]

theorem allow_device (busDev bundleName : String) (hbusDev : Survives strDefaultSize busDev) :
    allow engine (dialogMessage (showUsbDialog labels busDev bundleName (tokenIdText tokenId))) =
      some (.addAccessRight (tokenIdText tokenId) busDev) := by
  have htoken := survives_tokenIdText tokenId
  unfold allow showUsbDialog
  simp [lookup_dialogMessage, cStr_eq hbusDev.1, cStr_eq htoken.1, deviceAddAccessRight,
    text?_valueOf hbuffer hbusDev, text?_valueOf hbuffer htoken]

omit hbuffer in
theorem allow_serial (portId : Int) (bundleName : String) (hportId : IsInt32 portId) (hport : portId ≠ -1)
    (hfits : tokenId.toNat < 2 ^ 31) (htoken : tokenId ≠ 0) :
    allow engine (dialogMessage (showSerialDialog labels portId tokenId.toNat bundleName)) =
      some (.addSerialRight tokenId portId) := by
  have hnonzero : tokenId.toNat ≠ 0 := fun hzero => htoken (UInt32.toNat_inj.mp hzero)
  have hnumber : (JsValue.ofInt tokenId.toNat).number? = some (tokenId.toNat : Int) :=
    JsValue.number?_ofInt_of_lt (by omega) (by omega)
  unfold allow showSerialDialog
  simp [lookup_dialogMessage, numberOf_repr, serialAddRightNapi, JsValue.number?_ofInt_of_lt hportId.1 hportId.2,
    hnumber, hnonzero, hport, ofInt_toNat32]

theorem keptAccessory_eq {access : USBAccessory} (h : FitsBuffer access) :
    keptAccessory engine.getValueStringUtf8 access = access := by
  have hkept := fun s => (keptText_eq_iff hbuffer defaultAccessoryDescriptionSize s).mpr
  unfold keptAccessory
  simp only [hkept _ h.manufacturer, hkept _ h.product, hkept _ h.description, hkept _ h.version,
    hkept _ h.serialNumber]

theorem allow_accessory (access : USBAccessory) (seriaValue bundleName : String)
    (hsendable : (Target.accessory access).Sendable engine labels.cjson) :
    allow engine (dialogMessage (showAccessoryDialog labels access seriaValue bundleName (tokenIdText tokenId))) =
      some (.addAccessoryRight tokenId access) := by
  obtain ⟨hfits, hnul, hparse⟩ := hsendable
  have hread : ((parseAccessoryObj engine.getValueStringUtf8 (ctoJSUSBAccessory access)).run none).1 = access :=
    (congrArg Prod.fst (reads_accessory engine.getValueStringUtf8 access)).trans (keptAccessory_eq hbuffer hfits)
  have hobject : (ctoJSUSBAccessory access).isObject = true := rfl
  have hnumber : numberOf (some (cStr (tokenIdText tokenId))) = Js.uint32 tokenId := numberOf_repr tokenId.toNat
  unfold allow showAccessoryDialog
  simp [lookup_dialogMessage, cStr_eq hnul, hparse, deviceAddAccessoryRight, hread, hobject, hnumber, Js.uint32,
    JsValue.number?_ofInt, ofInt_bmod]

end Allow

theorem getCallingInfo_tokenId {caller : Caller} {info : CallingInfo} (h : getCallingInfo caller = some info) :
    caller.hapTokenInfo = some (info.bundleName, info.userId) ∧ info.tokenId = tokenIdText caller.tokenId := by
  obtain ⟨hap, hhap, rfl⟩ := Option.map_eq_some_iff.mp h
  exact ⟨hhap, rfl⟩

section Asked

variable {caller : Caller} {info : CallingInfo} {s : ServiceState} {r : Request} {labels : Labels} {engine : Engine}
  (hinfo : getCallingInfo caller = some info) (hasked : Asked info s r)
include hinfo hasked

theorem Asked.params?_none :
    r.params? labels = none ↔ (∃ portId, r.target = .serial portId) ∧ 2 ^ 31 ≤ caller.tokenId.toNat := by
  obtain ⟨-, htokenId⟩ := getCallingInfo_tokenId hinfo
  cases hasked with
  | device deviceName name hname => simp [Request.params?, requestOf]
  | serial portId busDev name hname =>
    simp only [Request.params?, requestOf, htokenId, castId?_tokenIdText]
    split <;> simp <;> omega
  | accessory m access serialNum hmanager hname => simp [Request.params?, requestOf]

theorem Asked.allows {params : DialogParams} (hparams : r.params? labels = some params)
    (hbuffer : Utf8Buffer engine.getValueStringUtf8) (hsendable : r.target.Sendable engine labels.cjson)
    (htoken : caller.tokenId ≠ 0) (env : GrantEnv)
    (hkit : env.hapTokenInfo caller.tokenId = caller.hapTokenInfo) (grantor : Grantor) :
    ∃ g, allow engine (dialogMessage params) = some g ∧ g.key? env grantor s = some r.key := by
  obtain ⟨hhap, htokenId⟩ := getCallingInfo_tokenId hinfo
  rw [hhap] at hkit
  cases hasked with
  | device deviceName name hname =>
    simp only [Request.params?, requestOf, htokenId, Option.some.injEq] at hparams
    refine ⟨_, hparams ▸ allow_device labels caller.tokenId hbuffer deviceName info.bundleName hsendable, ?_⟩
    simp [Grant.key?, hname, accessTokenId_tokenIdText, hkit, Request.key, requestOf, htokenId]
  | serial portId busDev name hname =>
    simp only [Request.params?, requestOf, htokenId, castId?_tokenIdText] at hparams
    split at hparams
    · rename_i hfits
      simp only [Option.map_some, Option.some.injEq] at hparams
      refine ⟨_, hparams ▸ allow_serial labels caller.tokenId portId info.bundleName hsendable.1 hsendable.2 hfits
        htoken, ?_⟩
      simp [Grant.key?, hname, accessTokenId_tokenIdText, hkit, Request.key, requestOf, htokenId]
    · simp at hparams
  | accessory m access serialNum hmanager hname =>
    simp only [Request.params?, requestOf, htokenId, Option.some.injEq] at hparams
    refine ⟨_, hparams ▸ allow_accessory labels caller.tokenId hbuffer access serialNum info.bundleName hsendable, ?_⟩
    simp [Grant.key?, hmanager, hname, accessTokenId_tokenIdText, hkit, Request.key, requestOf, htokenId,
      Except.toOption]

end Asked

/-! ## The request finds the right -/

theorem granted_row_later (env : GrantEnv) (hepoch : env.now.toNat < 2 ^ 63) (key : RightKey) (later : RightEnv)
    (hclock : later.ClockRead) (hafter : env.now ≤ later.now)
    (hperiod : later.now.toNat - env.now.toNat < usbRightValidPeriodSet.toNat) :
    let row := (grantInfo env key.uid key.bundleName).values key.deviceName key.bundleName key.tokenId
    live later.now key row = true ∧ later.cleansUp row = false := by
  intro row
  have htime : row.requestTime = env.now.toNat := by
    simp only [row, UsbRightAppInfo.values, grantInfo]
    exact putLong_of_lt env.now hepoch
  have hvalid : row.validPeriod = usbRightValidPeriodSet.toNat := by
    simp only [row, UsbRightAppInfo.values, grantInfo]
    exact putLong_of_lt usbRightValidPeriodSet (by decide)
  have hstandard : row.Standard := by
    refine ⟨?_, .inl hvalid⟩
    rw [htime]
    omega
  have hle := UInt64.le_iff_toNat_le.mp hafter
  have hvalidAt : row.ValidAt later.now.toNat := by
    refine ⟨by omega, .inr (.inr ?_)⟩
    rw [htime, hvalid]
    omega
  refine ⟨(live_iff row hstandard later.now key).mpr ⟨rfl, rfl, rfl, rfl, hvalidAt⟩, ?_⟩
  rw [RightEnv.cleansUp, Bool.and_eq_false_iff, Bool.eq_false_iff (b := tooOld _ _ _)]
  exact .inr fun hold => not_validAt_of_tooOld later hclock _ row hstandard hold _ (Int.le_refl _) hvalidAt

/-- The names are those of the bundle and of the device. -/
def noLabels : Labels := ⟨⟨fun _ => "", fun _ => none⟩, fun _ => none, fun _ => none⟩

/-- It parses nothing: a port is named by a number. -/
def wholeEngine : Engine := ⟨fun _ => none, wholeTexts⟩

def portReader : Caller := ⟨537, false, some ("com.example.reader", 100)⟩

def dialogHost : Grantor := ⟨⟨1, true, some ("com.example.systemui", 100)⟩, true, none⟩

end UsbManager.Dialog
