import UsbManager.Rights.Expiry
import UsbManager.Service.Revocation

/-!
# Requests

`RequestRight` and `RequestSerialRight` of `usb_service.cpp`: a caller that has no right gets a
dialog. A request looks only for the caller's own row, while a check accepts the row of the default
token as well, and a request for a device by a caller without calling information returns `UEC_OK`.
-/

namespace UsbManager.Service

open Rights Serial

/-! ## The dialog -/

/-- What the dialog does to the rights table, `none` if it cannot be shown. -/
abbrev Dialog := Option (RightDb → RightDb)

/-- The result of a request, and whether it opened the dialog. -/
structure Requested where
  ret : Ret
  dialog : Bool
  deriving DecidableEq, Repr

/-- After the dialog the right is checked again. -/
def getUserAgreementByDiag (env : RightEnv) (dialog : Dialog) (key : RightKey) (db : RightDb) : Bool × RightDb :=
  match dialog with
  | none => (false, db)
  | some act => Rights.hasRight env key (act db)

/-- `UsbRightManager::RequestRight`, for devices and for serial ports. -/
def managerRequestRight (env : RightEnv) (dialog : Dialog) (key : RightKey) (db : RightDb) : Requested × RightDb :=
  match Rights.hasRight env key db with
  | (true, db) => (⟨.ok, false⟩, db)
  | (false, db) =>
    match getUserAgreementByDiag env dialog key db with
    | (false, db) => (⟨.uec .servicePermissionDenied, true⟩, db)
    | (true, db) => (⟨.ok, true⟩, db)

/-! ## The service -/

/-- Without calling information the source returns `false`, which is `UEC_OK`. -/
def requestRight (env : RightEnv) (dialog : Dialog) (caller : Caller) (deviceName : String) (s : ServiceState) :
    Requested × ServiceState :=
  if !s.usbRightManager then (⟨.uec .serviceInnerErr, false⟩, s)
  else
    match s.deviceVidPidMap.find? deviceName with
    | none => (⟨.uec .interfaceInvalidValue, false⟩, s)
    | some deviceVidPidSerialNum =>
      if caller.isSystemAppOrSa then (⟨.ok, false⟩, s)
      else
        match getCallingInfo caller with
        | none => (⟨.ok, false⟩, s)
        | some info =>
          let (result, db) := managerRequestRight env dialog (info.key deviceVidPidSerialNum info.tokenId) s.rights
          (result, s.setRights db)

/-- The second component is `hasRight`. A user who does not agree is no error. -/
def requestSerialRight (env : RightEnv) (dialog : Dialog) (caller : Caller) (portId : Int) (s : ServiceState) :
    Requested × Bool × ServiceState :=
  if !s.usbRightManager then (⟨.uec .serviceInvalidValue, false⟩, false, s)
  else
    match validateUsbSerialManagerAndPort portId s with
    | .ok =>
      match s.serialVidPidMap.find? portId with
      | none => (⟨.uec .interfaceInvalidValue, false⟩, false, s)
      | some (_, deviceVidPidSerialNum) =>
        if caller.isSystemAppOrSa then (⟨.ok, false⟩, true, s)
        else
          match getCallingInfo caller with
          | none => (⟨.uec .serviceInvalidValue, false⟩, false, s)
          | some info =>
            let (result, db) := managerRequestRight env dialog (info.key deviceVidPidSerialNum info.tokenId) s.rights
            (⟨.ok, result.dialog⟩, result.ret = .ok, s.setRights db)
    | ret => (⟨ret, false⟩, false, s)

/-! ## Requests and checks of one name -/

/-- A live row that the clean-up keeps. -/
def Holds (env : RightEnv) (key : RightKey) (rows : List RightRow) : Prop :=
  ∃ r ∈ rows, live env.now key r ∧ env.cleansUp r = false

/-- The rows that may still give a right. -/
def unexpired (env : RightEnv) (rows : List RightRow) : List RightRow := rows.filter fun r => !isRowExpired r env.now

/-- What makes a request agree with a check: whoever has the right by the default token has it by the
own token too, and then no row is cleaned up before it expires. -/
structure Agreeable (env : RightEnv) (deviceName : String) (info : CallingInfo) (rows : List RightRow) : Prop where
  default : Holds env (info.key deviceName usbDefaultToken) rows → Holds env (info.key deviceName info.tokenId) rows
  kept : Holds env (info.key deviceName info.tokenId) rows →
    ∀ r ∈ rows, isRowExpired r env.now = false → env.cleansUp r = false

theorem unexpired_cleaned_iff (env : RightEnv) (rows : List RightRow) :
    unexpired env (rows.filter fun r => !env.cleansUp r) = unexpired env rows ↔
      ∀ r ∈ rows, isRowExpired r env.now = false → env.cleansUp r = false := by
  unfold unexpired
  rw [List.filter_filter]
  constructor
  · intro h r hr hlive
    have hmem : r ∈ rows.filter fun r => !isRowExpired r env.now := List.mem_filter.mpr ⟨hr, by simp [hlive]⟩
    rw [← h, List.mem_filter, Bool.and_eq_true] at hmem
    simpa using hmem.2.2
  · intro h
    apply List.filter_congr
    intro r hr
    rcases hexpired : isRowExpired r env.now with - | -
    · simp [h r hr hexpired]
    · simp

theorem holds_cleaned (env : RightEnv) (key : RightKey) (rows : List RightRow) :
    Holds env key (rows.filter fun r => !env.cleansUp r) ↔ Holds env key rows := by
  constructor
  · rintro ⟨r, hr, hlive⟩
    exact ⟨r, List.mem_of_mem_filter hr, hlive⟩
  · rintro ⟨r, hr, hlive, hkept⟩
    exact ⟨r, List.mem_filter.mpr ⟨hr, by simp [hkept]⟩, hlive, hkept⟩

section OneName

variable {env : RightEnv} (h : env.Works) (deviceName : String) (info : CallingInfo)
  (huser : info.userId ≠ usbRightUseridConsole) (db : RightDb)
include h huser

theorem hasEitherRight_works :
    (hasEitherRight env deviceName info db).1 = true ↔
      Holds env (info.key deviceName info.tokenId) db.rows ∨ Holds env (info.key deviceName usbDefaultToken) db.rows := by
  have hown := hasRight_works h (info.key deviceName info.tokenId) huser db
  unfold hasEitherRight
  rcases hr : Rights.hasRight env (info.key deviceName info.tokenId) db with ⟨has, db'⟩
  rw [hr] at hown
  cases has with
  | true => exact ⟨fun _ => .inl (hown.2.mp rfl), fun _ => rfl⟩
  | false =>
    have hdefault := (hasRight_works h (info.key deviceName usbDefaultToken) huser db').2
    have hrows : db'.rows = db.rows.filter fun r => !env.cleansUp r := hown.1
    rw [hrows] at hdefault
    have hno : ¬ Holds env (info.key deviceName info.tokenId) db.rows :=
      fun hold => Bool.false_ne_true (hown.2.mpr hold)
    refine hdefault.trans ((holds_cleaned env _ _).trans ?_)
    exact ⟨.inr, fun hor => hor.resolve_left hno⟩

theorem managerRequestRight_works (dialog : Dialog) :
    ((managerRequestRight env dialog (info.key deviceName info.tokenId) db).1 = ⟨.ok, false⟩ ↔
      Holds env (info.key deviceName info.tokenId) db.rows) ∧
    ((managerRequestRight env dialog (info.key deviceName info.tokenId) db).1.dialog = false →
      (managerRequestRight env dialog (info.key deviceName info.tokenId) db).1.ret = .ok ∧
      (managerRequestRight env dialog (info.key deviceName info.tokenId) db).2.rows =
        db.rows.filter fun r => !env.cleansUp r) := by
  have hown := hasRight_works h (info.key deviceName info.tokenId) huser db
  unfold managerRequestRight
  rcases hr : Rights.hasRight env (info.key deviceName info.tokenId) db with ⟨has, db'⟩
  rw [hr] at hown
  cases has with
  | true => exact ⟨⟨fun _ => hown.2.mp rfl, fun _ => rfl⟩, fun _ => ⟨rfl, hown.1⟩⟩
  | false =>
    have hno : ¬ Holds env (info.key deviceName info.tokenId) db.rows :=
      fun hold => Bool.false_ne_true (hown.2.mpr hold)
    -- The dialog is opened, so the request is not one without it.
    rcases hdialog : getUserAgreementByDiag env dialog (info.key deviceName info.tokenId) db' with ⟨agreed, db''⟩
    cases agreed with
    | true => simp [hno, hdialog]
    | false => simp [hno, hdialog]

end OneName

/-- For one name: the request agrees with the check, and keeps what has not expired, exactly if the
rows are agreeable. The console user has every right and nothing is cleaned up. -/
theorem request_agrees_iff {env : RightEnv} (h : env.Works) (deviceName : String) (info : CallingInfo) (db : RightDb)
    (dialog : Dialog) :
    (((managerRequestRight env dialog (info.key deviceName info.tokenId) db).1 = ⟨.ok, false⟩ ↔
        (hasEitherRight env deviceName info db).1 = true) ∧
      ((managerRequestRight env dialog (info.key deviceName info.tokenId) db).1 = ⟨.ok, false⟩ →
        unexpired env (managerRequestRight env dialog (info.key deviceName info.tokenId) db).2.rows =
          unexpired env db.rows)) ↔
      (info.userId ≠ usbRightUseridConsole → Agreeable env deviceName info db.rows) := by
  by_cases huser : info.userId = usbRightUseridConsole
  · have hbypass : ∀ token db', Rights.hasRight env (info.key deviceName token) db' = (true, db') := by
      intro token db'
      simp [Rights.hasRight, CallingInfo.key, huser]
    simp [managerRequestRight, hasEitherRight, hbypass, huser]
  · obtain ⟨hrequest, hrows⟩ := managerRequestRight_works h deviceName info huser db dialog
    rw [hrequest, hasEitherRight_works h deviceName info huser db]
    have hkept : (Holds env (info.key deviceName info.tokenId) db.rows →
        unexpired env (managerRequestRight env dialog (info.key deviceName info.tokenId) db).2.rows =
          unexpired env db.rows) ↔ (Holds env (info.key deviceName info.tokenId) db.rows →
        ∀ r ∈ db.rows, isRowExpired r env.now = false → env.cleansUp r = false) := by
      refine imp_congr_right fun hold => ?_
      rw [(hrows (congrArg Requested.dialog (hrequest.mpr hold))).2, unexpired_cleaned_iff]
    rw [hkept]
    constructor
    · rintro ⟨hagree, hkeep⟩ -
      exact ⟨fun hdefault => hagree.mpr (.inr hdefault), hkeep⟩
    · intro hagreeable
      obtain ⟨hdefault, hkeep⟩ := hagreeable huser
      exact ⟨⟨.inl, fun hor => hor.elim id hdefault⟩, hkeep⟩

/-! ## Requests agree with checks -/

section Agreement

variable (env : RightEnv) (dialog : Dialog) (caller : Caller) (s : ServiceState)

/-- A request goes without the dialog exactly if the check passes, and then it takes no live row. -/
structure DeviceRequestAgrees (deviceName : String) : Prop where
  agrees : (requestRight env dialog caller deviceName s).1 = ⟨.ok, false⟩ ↔
    (hasRight env caller deviceName s).1 = true
  kept : (requestRight env dialog caller deviceName s).1 = ⟨.ok, false⟩ →
    unexpired env (requestRight env dialog caller deviceName s).2.rights.rows = unexpired env s.rights.rows

/-- The same for a port, where `hasRight` is what the request finds out. -/
structure SerialRequestAgrees (portId : Int) : Prop where
  agrees : (requestSerialRight env dialog caller portId s).2.1 = true ∧
      (requestSerialRight env dialog caller portId s).1.dialog = false ↔
    (hasSerialRight env caller portId s).2.1 = true
  kept : (requestSerialRight env dialog caller portId s).2.1 = true ∧
      (requestSerialRight env dialog caller portId s).1.dialog = false →
    unexpired env (requestSerialRight env dialog caller portId s).2.2.rights.rows = unexpired env s.rights.rows

/-- The caller of a request for a known device has calling information, and its rows are agreeable. -/
def DeviceAgreeable (deviceName : String) : Prop :=
  s.usbRightManager = true → ∀ name, s.deviceVidPidMap.find? deviceName = some name →
    ∃ info, getCallingInfo caller = some info ∧
      (info.userId ≠ usbRightUseridConsole → Agreeable env name info s.rights.rows)

/-- The same for a port. A caller without calling information has no right either way. -/
def SerialAgreeable (portId : Int) : Prop :=
  s.usbRightManager = true → validateUsbSerialManagerAndPort portId s = .ok →
    ∀ bus name, s.serialVidPidMap.find? portId = some (bus, name) → ∀ info, getCallingInfo caller = some info →
      info.userId ≠ usbRightUseridConsole → Agreeable env name info s.rights.rows

variable (h : env.Works) (hcaller : caller.isSystemAppOrSa = false)
include h hcaller

theorem device_request_agrees_iff (deviceName : String) :
    DeviceRequestAgrees env dialog caller s deviceName ↔ DeviceAgreeable env caller s deviceName := by
  rcases hmanager : s.usbRightManager with - | -
  · constructor
    · exact fun _ hm => absurd (hmanager.symm.trans hm) (by decide)
    · exact fun _ => ⟨by simp [requestRight, hasRight, hmanager], by simp [requestRight, hmanager]⟩
  rcases hname : s.deviceVidPidMap.find? deviceName with - | name
  · constructor
    · exact fun _ _ name hsome => absurd (hname.symm.trans hsome) (by simp)
    · exact fun _ => ⟨by simp [requestRight, hasRight, hmanager, hname], by simp [requestRight, hmanager, hname]⟩
  rcases hinfo : getCallingInfo caller with - | info
  · -- `UEC_OK` without a right.
    constructor
    · intro hagrees
      have hno := hagrees.agrees.mp (by simp [requestRight, hmanager, hname, hcaller, hinfo])
      simp [hasRight, hmanager, hname, hcaller, hinfo] at hno
    · intro hagreeable
      obtain ⟨info, hsome, -⟩ := hagreeable hmanager name hname
      exact absurd (hinfo.symm.trans hsome) (by simp)
  · have hone := request_agrees_iff h name info s.rights dialog
    constructor
    · rintro ⟨hagrees, hkept⟩ - name' hname'
      obtain rfl := Option.some.inj (hname.symm.trans hname')
      simp only [requestRight, hasRight, hmanager, hname, hcaller, hinfo, Bool.not_true, Bool.false_eq_true,
        if_false, ServiceState.setRights] at hagrees hkept
      exact ⟨info, hinfo, hone.mp ⟨hagrees, hkept⟩⟩
    · intro hagreeable
      obtain ⟨info', hsome, hrows⟩ := hagreeable hmanager name hname
      obtain rfl := Option.some.inj (hinfo.symm.trans hsome)
      obtain ⟨hagrees, hkept⟩ := hone.mpr hrows
      constructor
      · simpa [requestRight, hasRight, hmanager, hname, hcaller, hinfo] using hagrees
      · simpa [requestRight, hmanager, hname, hcaller, hinfo, ServiceState.setRights] using hkept

theorem serial_request_agrees_iff (portId : Int) :
    SerialRequestAgrees env dialog caller s portId ↔ SerialAgreeable env caller s portId := by
  rcases hmanager : s.usbRightManager with - | -
  · constructor
    · exact fun _ hm => absurd (hmanager.symm.trans hm) (by decide)
    · exact fun _ => ⟨by simp [requestSerialRight, hasSerialRight, hmanager], by simp [requestSerialRight, hmanager]⟩
  by_cases hport : validateUsbSerialManagerAndPort portId s = .ok
  swap
  · constructor
    · exact fun _ _ hok => absurd hok hport
    · intro _
      have hrefused : (requestSerialRight env dialog caller portId s).2.1 = false ∧
          (hasSerialRight env caller portId s).2.1 = false := by
        simp [requestSerialRight, hasSerialRight, hmanager]
      exact ⟨by simp [hrefused], by simp [hrefused]⟩
  rcases hname : s.serialVidPidMap.find? portId with - | ⟨bus, name⟩
  · constructor
    · exact fun _ _ _ bus name hsome => absurd (hname.symm.trans hsome) (by simp)
    · exact fun _ => ⟨by simp [requestSerialRight, hasSerialRight, hmanager, hport, hname],
        by simp [requestSerialRight, hmanager, hport, hname]⟩
  rcases hinfo : getCallingInfo caller with - | info
  · constructor
    · exact fun _ _ _ _ _ _ info hsome => absurd (hinfo.symm.trans hsome) (by simp)
    · exact fun _ => ⟨by simp [requestSerialRight, hasSerialRight, hmanager, hport, hname, hcaller, hinfo],
        by simp [requestSerialRight, hmanager, hport, hname, hcaller, hinfo]⟩
  · have hone := request_agrees_iff h name info s.rights dialog
    have hresult : ∀ result : Requested, (result.ret = .ok ∧ result.dialog = false) ↔ result = ⟨.ok, false⟩ := by
      rintro ⟨ret, dialog⟩
      simp
    constructor
    · rintro ⟨hagrees, hkept⟩ - - bus' name' hname' info' hinfo'
      obtain ⟨rfl, rfl⟩ := Prod.mk.inj (Option.some.inj (hname.symm.trans hname'))
      obtain rfl := Option.some.inj (hinfo.symm.trans hinfo')
      simp only [requestSerialRight, hasSerialRight, hmanager, hport, hname, hcaller, hinfo, Bool.not_true,
        Bool.false_eq_true, if_false, ServiceState.setRights, decide_eq_true_eq, hresult] at hagrees hkept
      exact hone.mp ⟨hagrees, hkept⟩
    · intro hagreeable
      obtain ⟨hagrees, hkept⟩ := hone.mpr (hagreeable hmanager hport bus name hname info hinfo)
      constructor
      · simpa [requestSerialRight, hasSerialRight, hmanager, hport, hname, hcaller, hinfo, hresult] using hagrees
      · simpa only [requestSerialRight, hmanager, hport, hname, hcaller, hinfo, Bool.not_true, Bool.false_eq_true,
          if_false, ServiceState.setRights, decide_eq_true_eq, hresult] using hkept

/-- Requests for devices and for serial ports agree with the checks exactly on agreeable rows, and for
a device only if the caller has calling information. -/
theorem requests_agree_iff (deviceName : String) (portId : Int) :
    (DeviceRequestAgrees env dialog caller s deviceName ↔ DeviceAgreeable env caller s deviceName) ∧
      (SerialRequestAgrees env dialog caller s portId ↔ SerialAgreeable env caller s portId) :=
  ⟨device_request_agrees_iff env dialog caller s h hcaller deviceName,
    serial_request_agrees_iff env dialog caller s h hcaller portId⟩

end Agreement

theorem requests_agree_own_row :
    let s := readerState [readerRight "16-32-A" "7"]
    DeviceRequestAgrees storeWorks none reader s "1-2" ∧ SerialRequestAgrees storeWorks none reader s 3 := by
  intro s
  have hrows : ∀ name info, getCallingInfo reader = some info → Agreeable storeWorks name info s.rights.rows := by
    rintro name info ⟨⟩
    refine ⟨?_, ?_⟩
    · rintro ⟨r, hr, hlive, -⟩
      obtain rfl := List.mem_singleton.mp hr
      simp [live, RightRow.hasKey, readerRight, CallingInfo.key, usbDefaultToken] at hlive
    · intro _ r hr _
      obtain rfl := List.mem_singleton.mp hr
      decide
  obtain ⟨hdevice, hserial⟩ := requests_agree_iff storeWorks none reader s ⟨rfl, fun _ _ => rfl⟩ rfl "1-2" 3
  exact ⟨hdevice.mpr fun _ name _ => ⟨_, rfl, fun _ => hrows name _ rfl⟩,
    hserial.mpr fun _ _ _ name _ info hinfo _ => hrows name info hinfo⟩

/-- A caller without calling information is told `UEC_OK`, and a right by the default token is
reported by the checks while the requests open the dialog. -/
theorem requests_disagree :
    ¬ DeviceRequestAgrees storeWorks none ⟨7, false, none⟩ (readerState []) "1-2" ∧
      ¬ DeviceRequestAgrees storeWorks none reader (readerState [readerRight "16-32-A" usbDefaultToken]) "1-2" ∧
      ¬ SerialRequestAgrees storeWorks none reader (readerState [readerRight "16-32-A" usbDefaultToken]) 3 := by
  refine ⟨fun h => ?_, fun h => ?_, fun h => ?_⟩
  · exact absurd (h.agrees.mp (by decide +kernel)) (by decide +kernel)
  · exact absurd (h.agrees.mpr (by decide +kernel)) (by decide +kernel)
  · exact absurd (h.agrees.mpr (by decide +kernel)).1 (by decide +kernel)

end UsbManager.Service
