import UsbManager.Rights.Grant
import UsbManager.Service.Functions
import UsbManager.Service.Rights

/-!
# Grants and removals in the service

`AddRight`, `AddAccessRight`, `AddSerialRight` and `AddAccessoryRight` of `usb_service.cpp`. Only a system application
with the permission gets through. `AddRight` is given a bundle name and stores the right of that bundle for the user of
its own caller, under the default token; the others are given a token. `CheckDbAbility` always succeeds. The removals
are the three of `Service.Rights`.
-/

namespace UsbManager.Service

open Rights Serial Accessory

/-- The codes of `UsbErrCode` that only these functions and the operations on devices return. -/
inductive ServiceErr
  | interfaceNameNotFound
  | interfaceInvalidOperation
  | serialDatebaseError
  | servicePreManageInterfaceFailed
  | accessoryReopen
  | accessoryOpenNativeNodeFailed
  deriving DecidableEq, Repr

/-- A code of either enumeration. -/
inductive ServiceRet
  | ret (r : Ret)
  | err (e : ServiceErr)
  deriving DecidableEq, Repr

/-- A caller with what `CheckSysApiPermission` asks about it. -/
structure Grantor extends Caller where
  verifyPermission : Bool
  hapApiVersion : Option Int

def Grantor.permissions (g : Grantor) : Permissions := ⟨g.isSystemAppOrSa, g.verifyPermission, g.hapApiVersion⟩

/-! ## The four forms -/

/-- `std::to_string(tokenId)`. -/
def tokenIdText (tokenId : UInt32) : String := toString tokenId.toNat

/-- The right goes to the default token, for the user of the caller. -/
def addRight (env : GrantEnv) (grantor : Grantor) (bundleName deviceName : String) (s : ServiceState) :
    Ret × ServiceState :=
  if !s.usbRightManager then (.uec .serviceInvalidValue, s)
  else
    match checkSysApiPermission grantor.permissions with
    | .ok =>
      match s.deviceVidPidMap.find? deviceName with
      | none => (.uec .interfaceInvalidValue, s)
      | some deviceVidPidSerialNum =>
        match grantor.hapTokenInfo with
        | none => (.uec .serviceInvalidValue, s)
        | some (_, userId) =>
          match addDeviceRight env deviceVidPidSerialNum bundleName usbDefaultToken userId s.rights with
          | (false, db) => (.uec .serviceInnerErr, s.setRights db)
          | (true, db) => (.ok, s.setRights db)
    | ret => (ret, s)

/-- The token is a text here, and it goes into the row as it stands. -/
def addAccessRight (env : GrantEnv) (grantor : Grantor) (tokenId deviceName : String) (s : ServiceState) :
    Ret × ServiceState :=
  if !s.usbRightManager then (.uec .serviceInvalidValue, s)
  else
    match checkSysApiPermission grantor.permissions with
    | .ok =>
      match s.deviceVidPidMap.find? deviceName with
      | none => (.uec .interfaceInvalidValue, s)
      | some deviceVidPidSerialNum =>
        match addDeviceRightByToken env deviceVidPidSerialNum tokenId s.rights with
        | (false, db) => (.uec .serviceInnerErr, s.setRights db)
        | (true, db) => (.ok, s.setRights db)
    | ret => (ret, s)

/-- The device is the one behind the port. -/
def addSerialRight (env : GrantEnv) (grantor : Grantor) (tokenId : UInt32) (portId : Int) (s : ServiceState) :
    ServiceRet × ServiceState :=
  if !s.usbRightManager then (.ret (.uec .serviceInvalidValue), s)
  else
    match checkSysApiPermission grantor.permissions with
    | .ok =>
      match validateUsbSerialManagerAndPort portId s with
      | .ok =>
        match s.serialVidPidMap.find? portId with
        | none => (.ret (.uec .interfaceInvalidValue), s)
        | some (_, deviceVidPidSerialNum) =>
          match addDeviceRightByToken env deviceVidPidSerialNum (tokenIdText tokenId) s.rights with
          | (false, db) => (.err .serialDatebaseError, s.setRights db)
          | (true, db) => (.ret .ok, s.setRights db)
      | ret => (.ret ret, s)
    | ret => (.ret ret, s)

/-- The token is asked for its bundle here and again when the right is added. -/
def addAccessoryRight (env : GrantEnv) (grantor : Grantor) (tokenId : UInt32) (access : USBAccessory)
    (s : ServiceState) : Ret × ServiceState :=
  if !s.usbRightManager then (.uec .serviceInvalidValue, s)
  else
    match s.usbAccessoryManager with
    | none => (.uec .serviceInvalidValue, s)
    | some m =>
      match checkSysApiPermission grantor.permissions with
      | .ok =>
        match env.hapTokenInfo tokenId with
        | none => (.uec .serviceGetTokenInfoFailed, s)
        | some (bundleName, _) =>
          match getAccessorySerialNumber m access bundleName with
          | .error ret => (ret, s)
          | .ok serialNum =>
            match addDeviceRightByToken env serialNum (tokenIdText tokenId) s.rights with
            | (false, db) => (.uec .serviceDatabaseOperationFailed, s.setRights db)
            | (true, db) => (.ok, s.setRights db)
      | ret => (ret, s)

/-! ## The family -/

inductive Grant
  | addRight (bundleName deviceName : String)
  | addAccessRight (tokenId deviceName : String)
  | addSerialRight (tokenId : UInt32) (portId : Int)
  | addAccessoryRight (tokenId : UInt32) (access : USBAccessory)

def Grant.run (env : GrantEnv) (grantor : Grantor) : Grant → ServiceState → ServiceRet × ServiceState
  | .addRight bundleName deviceName, s =>
    (.ret (Service.addRight env grantor bundleName deviceName s).1, (Service.addRight env grantor bundleName deviceName s).2)
  | .addAccessRight tokenId deviceName, s =>
    (.ret (Service.addAccessRight env grantor tokenId deviceName s).1,
      (Service.addAccessRight env grantor tokenId deviceName s).2)
  | .addSerialRight tokenId portId, s => Service.addSerialRight env grantor tokenId portId s
  | .addAccessoryRight tokenId access, s =>
    (.ret (Service.addAccessoryRight env grantor tokenId access s).1,
      (Service.addAccessoryRight env grantor tokenId access s).2)

/-- Who gets what: the name of the device, the bundle, the token as text and the user. -/
def Grant.key? (env : GrantEnv) (grantor : Grantor) : Grant → ServiceState → Option RightKey
  | .addRight bundleName deviceName, s =>
    (s.deviceVidPidMap.find? deviceName).bind fun name =>
      grantor.hapTokenInfo.map fun info => ⟨info.2, name, bundleName, usbDefaultToken⟩
  | .addAccessRight tokenId deviceName, s =>
    (s.deviceVidPidMap.find? deviceName).bind fun name =>
      (env.hapTokenInfo (accessTokenId tokenId)).map fun info => ⟨info.2, name, info.1, tokenId⟩
  | .addSerialRight tokenId portId, s =>
    (s.serialVidPidMap.find? portId).bind fun names =>
      (env.hapTokenInfo (accessTokenId (tokenIdText tokenId))).map fun info =>
        ⟨info.2, names.2, info.1, tokenIdText tokenId⟩
  | .addAccessoryRight tokenId access, s =>
    s.usbAccessoryManager.bind fun m =>
      (env.hapTokenInfo tokenId).bind fun named =>
        (getAccessorySerialNumber m access named.1).toOption.bind fun serialNum =>
          (env.hapTokenInfo (accessTokenId (tokenIdText tokenId))).map fun info =>
            ⟨info.2, serialNum, info.1, tokenIdText tokenId⟩

/-- The row that a grant stores. The console user needs none. -/
def Grant.row? (env : GrantEnv) (grantor : Grantor) (g : Grant) (s : ServiceState) : Option RightRow :=
  (g.key? env grantor s).bind fun key =>
    if key.uid = usbRightUseridConsole then none
    else some ((grantInfo env key.uid key.bundleName).values key.deviceName key.bundleName key.tokenId)

/-! ## What a grant does -/

theorem granted_sub {key : RightKey} {info : UsbRightAppInfo} {rows : List RightRow} {r : RightRow}
    (h : r ∈ granted key info rows) : r = info.values key.deviceName key.bundleName key.tokenId ∨ r ∈ rows := by
  unfold granted at h
  simp only at h
  split at h
  · obtain ⟨r', hr', heq⟩ := List.mem_map.mp h
    split at heq
    · exact .inl heq.symm
    · exact .inr (heq ▸ hr')
  · rcases List.mem_append.mp h with h | h
    · exact .inr h
    · exact .inl (List.mem_singleton.mp h)

theorem addDeviceRight_effect (env : GrantEnv) (deviceName bundleName tokenId : String) (userId : Int) (db : RightDb) :
    ∀ r ∈ (addDeviceRight env deviceName bundleName tokenId userId db).2.rows,
      r ∈ db.rows ∨ (addDeviceRight env deviceName bundleName tokenId userId db).1 = true ∧
        userId ≠ usbRightUseridConsole ∧
        r = (grantInfo env userId bundleName).values deviceName bundleName tokenId := by
  have hspec := addOrUpdateRightRecord_spec env.toStoreEnv env.outRowId ⟨userId, deviceName, bundleName, tokenId⟩
    (grantInfo env userId bundleName) db
  intro r hr
  unfold addDeviceRight at hr ⊢
  by_cases huser : userId = usbRightUseridConsole
  · simp only [huser, if_true] at hr
    exact .inl hr
  · simp only [huser, if_false] at hr ⊢
    split at hspec
    · rw [hspec.2.1] at hr
      rcases granted_sub hr with rfl | hr
      · refine .inr ⟨?_, huser, rfl⟩
        rw [hspec.1]
        rfl
      · exact .inl hr
    · rw [hspec.2.1] at hr
      exact .inl hr

theorem addDeviceRightByToken_effect (env : GrantEnv) (deviceName tokenIdStr : String) (db : RightDb) :
    ∀ r ∈ (addDeviceRightByToken env deviceName tokenIdStr db).2.rows,
      r ∈ db.rows ∨ (addDeviceRightByToken env deviceName tokenIdStr db).1 = true ∧
        ∃ info, env.hapTokenInfo (accessTokenId tokenIdStr) = some info ∧ info.2 ≠ usbRightUseridConsole ∧
          r = (grantInfo env info.2 info.1).values deviceName info.1 tokenIdStr := by
  unfold addDeviceRightByToken
  split
  · exact fun r hr => .inl hr
  split
  · exact fun r hr => .inl hr
  split
  · exact fun r hr => .inl hr
  · rename_i bundleName uid hinfo
    intro r hr
    rcases addDeviceRight_effect env deviceName bundleName tokenIdStr uid db r hr with hr | ⟨hret, huser, hrow⟩
    · exact .inl hr
    · exact .inr ⟨hret, (bundleName, uid), hinfo, huser, hrow⟩

/-- A row after a grant that was not there before: the grant reported success, its caller is a system application with
the permission, and the row is the one that the grant is about. -/
def Grant.Stored (env : GrantEnv) (grantor : Grantor) (g : Grant) (s : ServiceState) (r : RightRow) : Prop :=
  r ∈ s.rights.rows ∨ (g.run env grantor s).1 = .ret .ok ∧ checkSysApiPermission grantor.permissions = .ok ∧
    g.row? env grantor s = some r

theorem addRight_stored (env : GrantEnv) (grantor : Grantor) (bundleName deviceName : String) (s : ServiceState) :
    ∀ r ∈ (addRight env grantor bundleName deviceName s).2.rights.rows,
      (Grant.addRight bundleName deviceName).Stored env grantor s r := by
  unfold Grant.Stored Grant.row? Grant.key? Grant.run addRight
  intro r hr
  split at hr
  · exact .inl hr
  rename_i hmanager
  split at hr
  · rename_i hpermission
    rcases hname : s.deviceVidPidMap.find? deviceName with - | name
    · rw [hname] at hr
      exact .inl hr
    rcases hinfo : grantor.hapTokenInfo with - | ⟨bundle, uid⟩
    · rw [hname, hinfo] at hr
      exact .inl hr
    have heffect := addDeviceRight_effect env name bundleName usbDefaultToken uid s.rights r
    simp only [hname, hinfo] at hr
    rcases hadd : addDeviceRight env name bundleName usbDefaultToken uid s.rights with ⟨- | -, db⟩
    all_goals
      rw [hadd] at heffect
      simp only [hadd] at hr
      rcases heffect hr with hr | ⟨hret, huser, hrow⟩
      · exact .inl hr
    · cases hret
    · exact .inr ⟨by simp [hmanager, hname, hadd], hpermission, by simp [hname, huser, hrow]⟩
  · exact .inl hr

theorem addAccessRight_stored (env : GrantEnv) (grantor : Grantor) (tokenId deviceName : String) (s : ServiceState) :
    ∀ r ∈ (addAccessRight env grantor tokenId deviceName s).2.rights.rows,
      (Grant.addAccessRight tokenId deviceName).Stored env grantor s r := by
  unfold Grant.Stored Grant.row? Grant.key? Grant.run addAccessRight
  intro r hr
  split at hr
  · exact .inl hr
  rename_i hmanager
  split at hr
  · rename_i hpermission
    rcases hname : s.deviceVidPidMap.find? deviceName with - | name
    · rw [hname] at hr
      exact .inl hr
    have heffect := addDeviceRightByToken_effect env name tokenId s.rights r
    simp only [hname] at hr
    rcases hadd : addDeviceRightByToken env name tokenId s.rights with ⟨- | -, db⟩
    all_goals
      rw [hadd] at heffect
      simp only [hadd] at hr
      rcases heffect hr with hr | ⟨hret, info, hinfo, huser, hrow⟩
      · exact .inl hr
    · cases hret
    · exact .inr ⟨by simp [hmanager, hname, hadd], hpermission, by simp [hname, hinfo, huser, hrow]⟩
  · exact .inl hr

theorem addSerialRight_stored (env : GrantEnv) (grantor : Grantor) (tokenId : UInt32) (portId : Int)
    (s : ServiceState) :
    ∀ r ∈ (addSerialRight env grantor tokenId portId s).2.rights.rows,
      (Grant.addSerialRight tokenId portId).Stored env grantor s r := by
  unfold Grant.Stored Grant.row? Grant.key? Grant.run addSerialRight
  intro r hr
  split at hr
  · exact .inl hr
  rename_i hmanager
  split at hr
  · rename_i hpermission
    split at hr
    · rename_i hport
      rcases hname : s.serialVidPidMap.find? portId with - | ⟨busDev, name⟩
      · rw [hname] at hr
        exact .inl hr
      have heffect := addDeviceRightByToken_effect env name (tokenIdText tokenId) s.rights r
      simp only [hname] at hr
      rcases hadd : addDeviceRightByToken env name (tokenIdText tokenId) s.rights with ⟨- | -, db⟩
      all_goals
        rw [hadd] at heffect
        simp only [hadd] at hr
        rcases heffect hr with hr | ⟨hret, info, hinfo, huser, hrow⟩
        · exact .inl hr
      · cases hret
      · exact .inr ⟨by simp [hmanager, hport, hname, hadd], hpermission, by simp [hname, hinfo, huser, hrow]⟩
    · exact .inl hr
  · exact .inl hr

theorem addAccessoryRight_stored (env : GrantEnv) (grantor : Grantor) (tokenId : UInt32) (access : USBAccessory)
    (s : ServiceState) :
    ∀ r ∈ (addAccessoryRight env grantor tokenId access s).2.rights.rows,
      (Grant.addAccessoryRight tokenId access).Stored env grantor s r := by
  unfold Grant.Stored Grant.row? Grant.key? Grant.run addAccessoryRight
  intro r hr
  split at hr
  · exact .inl hr
  rename_i hmanager
  rcases hacc : s.usbAccessoryManager with - | m
  · rw [hacc] at hr
    exact .inl hr
  simp only [hacc] at hr
  split at hr
  · rename_i hpermission
    rcases hnamed : env.hapTokenInfo tokenId with - | ⟨bundleName, uid⟩
    · rw [hnamed] at hr
      exact .inl hr
    simp only [hnamed] at hr
    rcases hserial : getAccessorySerialNumber m access bundleName with e | serialNum
    · rw [hserial] at hr
      exact .inl hr
    have heffect := addDeviceRightByToken_effect env serialNum (tokenIdText tokenId) s.rights r
    simp only [hserial] at hr
    rcases hadd : addDeviceRightByToken env serialNum (tokenIdText tokenId) s.rights with ⟨- | -, db⟩
    all_goals
      rw [hadd] at heffect
      simp only [hadd] at hr
      rcases heffect hr with hr | ⟨hret, info, hinfo, huser, hrow⟩
      · exact .inl hr
    · cases hret
    · exact .inr ⟨by simp [hmanager, hacc, hnamed, hserial, hadd], hpermission,
        by simp [hacc, hnamed, hserial, Except.toOption, hinfo, huser, hrow]⟩
  · exact .inl hr

theorem Grant.run_stored (env : GrantEnv) (grantor : Grantor) (g : Grant) (s : ServiceState) :
    ∀ r ∈ (g.run env grantor s).2.rights.rows, g.Stored env grantor s r := by
  cases g with
  | addRight bundleName deviceName => exact addRight_stored env grantor bundleName deviceName s
  | addAccessRight tokenId deviceName => exact addAccessRight_stored env grantor tokenId deviceName s
  | addSerialRight tokenId portId => exact addSerialRight_stored env grantor tokenId portId s
  | addAccessoryRight tokenId access => exact addAccessoryRight_stored env grantor tokenId access s

/-! ## A grant that succeeds -/

theorem addDeviceRight_added (env : GrantEnv) (deviceName bundleName tokenId : String) (userId : Int) (db : RightDb)
    (huser : userId ≠ usbRightUseridConsole)
    (h : (addDeviceRight env deviceName bundleName tokenId userId db).1 = true) :
    (grantInfo env userId bundleName).values deviceName bundleName tokenId ∈
      (addDeviceRight env deviceName bundleName tokenId userId db).2.rows := by
  rw [addDeviceRight_rows env deviceName bundleName tokenId userId db huser h]
  exact mem_granted ⟨userId, deviceName, bundleName, tokenId⟩ (grantInfo env userId bundleName) rfl db.rows

theorem addDeviceRightByToken_added (env : GrantEnv) (deviceName tokenIdStr bundleName : String) (userId : Int)
    (db : RightDb) (hinfo : env.hapTokenInfo (accessTokenId tokenIdStr) = some (bundleName, userId))
    (huser : userId ≠ usbRightUseridConsole) (h : (addDeviceRightByToken env deviceName tokenIdStr db).1 = true) :
    (grantInfo env userId bundleName).values deviceName bundleName tokenIdStr ∈
      (addDeviceRightByToken env deviceName tokenIdStr db).2.rows := by
  obtain ⟨-, -, heq⟩ := addDeviceRightByToken_eq env deviceName tokenIdStr bundleName userId db hinfo h
  rw [heq] at h ⊢
  exact addDeviceRight_added env deviceName bundleName tokenIdStr userId db huser h

theorem addRight_ok {env : GrantEnv} {grantor : Grantor} {bundleName deviceName name bundle : String} {uid : Int}
    {s : ServiceState} (hname : s.deviceVidPidMap.find? deviceName = some name)
    (hinfo : grantor.hapTokenInfo = some (bundle, uid)) (h : (addRight env grantor bundleName deviceName s).1 = .ok) :
    (addDeviceRight env name bundleName usbDefaultToken uid s.rights).1 = true ∧
      (addRight env grantor bundleName deviceName s).2.rights =
        (addDeviceRight env name bundleName usbDefaultToken uid s.rights).2 := by
  unfold addRight at h ⊢
  rcases hmanager : s.usbRightManager with - | -
  · simp [hmanager] at h
  rcases hpermission : checkSysApiPermission grantor.permissions with - | e | code
  all_goals simp only [hmanager, hpermission, hname, hinfo, Bool.not_true, Bool.false_eq_true, if_false] at h ⊢
  · rcases hadd : addDeviceRight env name bundleName usbDefaultToken uid s.rights with ⟨- | -, db⟩
    · simp [hadd] at h
    · exact ⟨rfl, rfl⟩
  all_goals cases h

theorem addAccessRight_ok {env : GrantEnv} {grantor : Grantor} {tokenId deviceName name : String} {s : ServiceState}
    (hname : s.deviceVidPidMap.find? deviceName = some name)
    (h : (addAccessRight env grantor tokenId deviceName s).1 = .ok) :
    (addDeviceRightByToken env name tokenId s.rights).1 = true ∧
      (addAccessRight env grantor tokenId deviceName s).2.rights = (addDeviceRightByToken env name tokenId s.rights).2 := by
  unfold addAccessRight at h ⊢
  rcases hmanager : s.usbRightManager with - | -
  · simp [hmanager] at h
  rcases hpermission : checkSysApiPermission grantor.permissions with - | e | code
  all_goals simp only [hmanager, hpermission, hname, Bool.not_true, Bool.false_eq_true, if_false] at h ⊢
  · rcases hadd : addDeviceRightByToken env name tokenId s.rights with ⟨- | -, db⟩
    · simp [hadd] at h
    · exact ⟨rfl, rfl⟩
  all_goals cases h

theorem addSerialRight_ok {env : GrantEnv} {grantor : Grantor} {tokenId : UInt32} {portId : Int} {busDev name : String}
    {s : ServiceState} (hname : s.serialVidPidMap.find? portId = some (busDev, name))
    (h : (addSerialRight env grantor tokenId portId s).1 = .ret .ok) :
    (addDeviceRightByToken env name (tokenIdText tokenId) s.rights).1 = true ∧
      (addSerialRight env grantor tokenId portId s).2.rights =
        (addDeviceRightByToken env name (tokenIdText tokenId) s.rights).2 := by
  unfold addSerialRight at h ⊢
  rcases hmanager : s.usbRightManager with - | -
  · simp [hmanager] at h
  rcases hpermission : checkSysApiPermission grantor.permissions with - | e | code
  all_goals simp only [hmanager, hpermission, hname, Bool.not_true, Bool.false_eq_true, if_false] at h ⊢
  · rcases hport : validateUsbSerialManagerAndPort portId s with - | e | code
    all_goals simp only [hport] at h ⊢
    · rcases hadd : addDeviceRightByToken env name (tokenIdText tokenId) s.rights with ⟨- | -, db⟩
      · simp [hadd] at h
      · exact ⟨rfl, rfl⟩
    all_goals simp at h
  all_goals simp at h

theorem addAccessoryRight_ok {env : GrantEnv} {grantor : Grantor} {tokenId : UInt32} {access : USBAccessory}
    {m : AccessoryManager} {named : String × Int} {serialNum : String} {s : ServiceState}
    (hmanager : s.usbAccessoryManager = some m) (hnamed : env.hapTokenInfo tokenId = some named)
    (hserial : getAccessorySerialNumber m access named.1 = .ok serialNum)
    (h : (addAccessoryRight env grantor tokenId access s).1 = .ok) :
    (addDeviceRightByToken env serialNum (tokenIdText tokenId) s.rights).1 = true ∧
      (addAccessoryRight env grantor tokenId access s).2.rights =
        (addDeviceRightByToken env serialNum (tokenIdText tokenId) s.rights).2 := by
  unfold addAccessoryRight at h ⊢
  rcases hright : s.usbRightManager with - | -
  · simp [hright] at h
  rcases hpermission : checkSysApiPermission grantor.permissions with - | e | code
  all_goals
    simp only [hright, hmanager, hpermission, hnamed, hserial, Bool.not_true, Bool.false_eq_true, if_false] at h ⊢
  · rcases hadd : addDeviceRightByToken env serialNum (tokenIdText tokenId) s.rights with ⟨- | -, db⟩
    · simp [hadd] at h
    · exact ⟨rfl, rfl⟩
  all_goals cases h

theorem Grant.run_added {env : GrantEnv} {grantor : Grantor} {g : Grant} {s : ServiceState} {key : RightKey}
    (hok : (g.run env grantor s).1 = .ret .ok) (hkey : g.key? env grantor s = some key)
    (huser : key.uid ≠ usbRightUseridConsole) :
    (grantInfo env key.uid key.bundleName).values key.deviceName key.bundleName key.tokenId ∈
      (g.run env grantor s).2.rights.rows := by
  cases g with
  | addRight bundleName deviceName =>
    simp only [Grant.key?, Option.bind_eq_some_iff, Option.map_eq_some_iff] at hkey
    obtain ⟨name, hname, ⟨bundle, uid⟩, hinfo, rfl⟩ := hkey
    obtain ⟨hadd, hrights⟩ := addRight_ok hname hinfo (ServiceRet.ret.inj hok)
    simp only [Grant.run, hrights]
    exact addDeviceRight_added env name bundleName usbDefaultToken uid s.rights huser hadd
  | addAccessRight tokenId deviceName =>
    simp only [Grant.key?, Option.bind_eq_some_iff, Option.map_eq_some_iff] at hkey
    obtain ⟨name, hname, ⟨bundle, uid⟩, hinfo, rfl⟩ := hkey
    obtain ⟨hadd, hrights⟩ := addAccessRight_ok hname (ServiceRet.ret.inj hok)
    simp only [Grant.run, hrights]
    exact addDeviceRightByToken_added env name tokenId bundle uid s.rights hinfo huser hadd
  | addSerialRight tokenId portId =>
    simp only [Grant.key?, Option.bind_eq_some_iff, Option.map_eq_some_iff] at hkey
    obtain ⟨⟨busDev, name⟩, hname, ⟨bundle, uid⟩, hinfo, rfl⟩ := hkey
    obtain ⟨hadd, hrights⟩ := addSerialRight_ok hname hok
    simp only [Grant.run, hrights]
    exact addDeviceRightByToken_added env name (tokenIdText tokenId) bundle uid s.rights hinfo huser hadd
  | addAccessoryRight tokenId access =>
    simp only [Grant.key?, Option.bind_eq_some_iff, Option.map_eq_some_iff] at hkey
    obtain ⟨m, hm, named, hnamed, serialNum, hserial, ⟨bundle, uid⟩, hinfo, rfl⟩ := hkey
    have hserial' : getAccessorySerialNumber m access named.1 = .ok serialNum := by
      rcases hs : getAccessorySerialNumber m access named.1 with e | serialNum'
      · simp [hs, Except.toOption] at hserial
      · simpa [hs, Except.toOption] using hserial
    obtain ⟨hadd, hrights⟩ := addAccessoryRight_ok hm hnamed hserial' (ServiceRet.ret.inj hok)
    simp only [Grant.run, hrights]
    exact addDeviceRightByToken_added env serialNum (tokenIdText tokenId) bundle uid s.rights hinfo huser hadd

/-! ## Removals -/

inductive Removal
  | removeRight (deviceName : String)
  | cancelSerialRight (hdi portId : Int)
  | cancelAccessoryRight (access : USBAccessory)

def Removal.run (env : RightEnv) (caller : Caller) : Removal → ServiceState → Ret × ServiceState
  | .removeRight deviceName, s => Service.removeRight env caller deviceName s
  | .cancelSerialRight hdi portId, s => Service.cancelSerialRight env hdi caller portId s
  | .cancelAccessoryRight access, s => Service.cancelAccessoryRight env caller access s

/-- The device in the rights table, for a caller that needs a right. -/
def Removal.name? (caller : Caller) (info : CallingInfo) : Removal → ServiceState → Option String
  | .removeRight deviceName, s => if caller.isSystemAppOrSa then none else s.deviceVidPidMap.find? deviceName
  | .cancelSerialRight _ portId, s =>
    if caller.isSystemAppOrSa then none else (s.serialVidPidMap.find? portId).map Prod.snd
  | .cancelAccessoryRight access, s =>
    s.usbAccessoryManager.bind fun m => (getAccessorySerialNumber m access info.bundleName).toOption

/-- The key that a removal took. An accessory has no row under the default token, and the failed deletion of its right
is not reported. -/
def Removal.taken? (env : RightEnv) (info : CallingInfo) (name : String) (db : RightDb) : Removal → Option RightKey
  | .cancelAccessoryRight _ =>
    if (removeDeviceRight env (info.key name info.tokenId) db).1 then some (info.key name info.tokenId) else none
  | _ =>
    if (removeDeviceRight env (info.key name info.tokenId) db).1 then some (info.key name info.tokenId)
    else some (info.key name usbDefaultToken)

/-- The key of the rows that are gone after a removal that reported success. The console user has no rows. -/
def Removal.removed? (env : RightEnv) (caller : Caller) (x : Removal) (s : ServiceState) : Option RightKey :=
  if (x.run env caller s).1 = .ok then
    (getCallingInfo caller).bind fun info =>
      if info.userId = usbRightUseridConsole then none
      else (x.name? caller info s).bind fun name => x.taken? env info name s.rights
  else none

theorem removeDeviceRight_takes (env : RightEnv) (key : RightKey) (db : RightDb) :
    ∀ r ∈ (removeDeviceRight env key db).2.rows, r ∈ db.rows ∧
      (key.uid ≠ usbRightUseridConsole → (removeDeviceRight env key db).1 = true → r.hasKey key = false) := by
  intro r hr
  by_cases huser : key.uid = usbRightUseridConsole
  · simp only [removeDeviceRight, huser, if_true] at hr
    exact ⟨hr, fun hne => absurd huser hne⟩
  obtain ⟨hrows, hret, -⟩ := removeDeviceRight_spec env key huser db
  rw [hrows] at hr
  split at hr
  · obtain ⟨hmem, hkey⟩ := List.mem_filter.mp hr
    exact ⟨hmem, fun _ _ => by simpa using hkey⟩
  · rename_i hdeletes
    exact ⟨hr, fun _ h => absurd (hret.mp h).1 hdeletes⟩

theorem removeEitherRight_takes (env : RightEnv) (name : String) (info : CallingInfo) (db : RightDb) (x : Removal)
    (hx : ∀ access, x ≠ .cancelAccessoryRight access) :
    ∀ r ∈ (removeEitherRight env name info db).2.rows, r ∈ db.rows ∧
      (info.userId ≠ usbRightUseridConsole → (removeEitherRight env name info db).1 = true →
        ∀ key, x.taken? env info name db = some key → r.hasKey key = false) := by
  have htaken : x.taken? env info name db = if (removeDeviceRight env (info.key name info.tokenId) db).1 then
      some (info.key name info.tokenId) else some (info.key name usbDefaultToken) := by
    cases x with
    | cancelAccessoryRight access => exact absurd rfl (hx access)
    | removeRight deviceName => rfl
    | cancelSerialRight hdi portId => rfl
  have hown := removeDeviceRight_takes env (info.key name info.tokenId) db
  rw [htaken]
  unfold removeEitherRight
  rcases hfirst : removeDeviceRight env (info.key name info.tokenId) db with ⟨- | -, db'⟩
  all_goals
    rw [hfirst] at hown
    intro r hr
    dsimp only at hr ⊢
  · obtain ⟨hmem, hdefault⟩ := removeDeviceRight_takes env (info.key name usbDefaultToken) db' r hr
    refine ⟨(hown r hmem).1, fun huser hret key hkey => ?_⟩
    obtain rfl : info.key name usbDefaultToken = key := by simpa using hkey
    exact hdefault huser hret
  · refine ⟨(hown r hr).1, fun huser _ key hkey => ?_⟩
    obtain rfl : info.key name info.tokenId = key := by simpa using hkey
    exact (hown r hr).2 huser rfl

theorem Removal.removed?_some {env : RightEnv} {caller : Caller} {x : Removal} {s : ServiceState} {key : RightKey}
    (h : x.removed? env caller s = some key) :
    (x.run env caller s).1 = .ok ∧ ∃ info, getCallingInfo caller = some info ∧
      info.userId ≠ usbRightUseridConsole ∧ ∃ name, x.name? caller info s = some name ∧
        x.taken? env info name s.rights = some key := by
  unfold Removal.removed? at h
  split at h
  · rename_i hok
    obtain ⟨info, hinfo, h⟩ := Option.bind_eq_some_iff.mp h
    split at h
    · cases h
    · rename_i huser
      obtain ⟨name, hname, htaken⟩ := Option.bind_eq_some_iff.mp h
      exact ⟨hok, info, hinfo, huser, name, hname, htaken⟩
  · cases h

/-- After a removal there is nothing new in the table, and nothing of the key that it took. -/
def Removal.Taken (env : RightEnv) (caller : Caller) (x : Removal) (s : ServiceState) (r : RightRow) : Prop :=
  r ∈ s.rights.rows ∧ ∀ key, x.removed? env caller s = some key → r.hasKey key = false

theorem removeRight_taken (env : RightEnv) (caller : Caller) (deviceName : String) (s : ServiceState) :
    ∀ r ∈ (removeRight env caller deviceName s).2.rights.rows, (Removal.removeRight deviceName).Taken env caller s r := by
  intro r hr
  constructor
  · unfold removeRight at hr
    repeat' split at hr
    any_goals exact hr
    all_goals
      rename_i name _ _ _ info _ _ db hremove
      have htakes := removeEitherRight_takes env name info s.rights (.removeRight deviceName) (by simp) r
      rw [hremove] at htakes
      exact (htakes hr).1
  · intro key hkey
    obtain ⟨hok, info, hinfo, huser, name, hname, htaken⟩ := Removal.removed?_some hkey
    rcases hsystem : caller.isSystemAppOrSa with - | -
    all_goals simp only [Removal.name?, hsystem, Bool.false_eq_true, if_false, if_true, reduceCtorEq] at hname
    rcases hmanager : s.usbRightManager with - | -
    all_goals simp [Removal.run, removeRight, hname, hinfo, hsystem, hmanager] at hok hr
    have htakes := removeEitherRight_takes env name info s.rights (.removeRight deviceName) (by simp) r
    rcases hremove : removeEitherRight env name info s.rights with ⟨- | -, db⟩
    all_goals
      rw [hremove] at hok hr htakes
      simp at hok
    exact (htakes hr).2 huser rfl key htaken

theorem cancelSerialRight_taken (env : RightEnv) (caller : Caller) (hdi portId : Int) (s : ServiceState) :
    ∀ r ∈ (cancelSerialRight env hdi caller portId s).2.rights.rows,
      (Removal.cancelSerialRight hdi portId).Taken env caller s r := by
  intro r hr
  constructor
  · unfold cancelSerialRight at hr
    repeat' split at hr
    any_goals exact hr
    all_goals
      rename_i name _ _ _ info _ _ db hremove
      have htakes := removeEitherRight_takes env name info s.rights (.cancelSerialRight hdi portId) (by simp) r
      rw [hremove] at htakes
      exact (htakes hr).1
  · intro key hkey
    obtain ⟨hok, info, hinfo, huser, name, hname, htaken⟩ := Removal.removed?_some hkey
    rcases hsystem : caller.isSystemAppOrSa with - | -
    all_goals simp only [Removal.name?, hsystem, Bool.false_eq_true, if_false, if_true, reduceCtorEq] at hname
    obtain ⟨⟨busDev, name'⟩, hfind, rfl⟩ := Option.map_eq_some_iff.mp hname
    rcases hmanager : s.usbRightManager with - | -
    all_goals simp [Removal.run, cancelSerialRight, hfind, hinfo, hsystem, hmanager] at hok hr
    have htakes := removeEitherRight_takes env name' info s.rights (.cancelSerialRight hdi portId) (by simp) r
    split at hok
    · rename_i hport
      simp only [hport] at hr
      rcases hremove : removeEitherRight env name' info s.rights with ⟨- | -, db⟩
      all_goals
        rw [hremove] at hok hr htakes
        simp at hok
      exact (htakes hr).2 huser rfl key htaken
    · rename_i hport
      exact absurd hok hport

theorem cancelAccessoryRight_taken (env : RightEnv) (caller : Caller) (access : USBAccessory) (s : ServiceState) :
    ∀ r ∈ (cancelAccessoryRight env caller access s).2.rights.rows,
      (Removal.cancelAccessoryRight access).Taken env caller s r := by
  -- `CancelDeviceRight` deletes what `RemoveDeviceRight` deletes.
  have hsame : ∀ key db, (cancelDeviceRight env key db).2 = (removeDeviceRight env key db).2 := by
    intro key db
    unfold cancelDeviceRight removeDeviceRight
    split
    · rfl
    · rcases deleteRightRecord env.toStoreEnv key db with ⟨- | -, db'⟩ <;> rfl
  intro r hr
  constructor
  · unfold cancelAccessoryRight at hr
    iterate 4
      split at hr
      · exact hr
    rename_i info _ _ serialNum _
    have htakes := removeDeviceRight_takes env (info.key serialNum info.tokenId) s.rights r
    rw [← hsame] at htakes
    split at hr
    all_goals
      rename_i hcancel
      rw [hcancel] at htakes
      exact (htakes hr).1
  · intro key hkey
    obtain ⟨hok, info, hinfo, huser, name, hname, htaken⟩ := Removal.removed?_some hkey
    rcases hmanager : s.usbRightManager with - | -
    all_goals simp [Removal.run, cancelAccessoryRight, hinfo, hmanager] at hok hr
    obtain ⟨m, hm, hserial⟩ := Option.bind_eq_some_iff.mp hname
    rcases hget : getAccessorySerialNumber m access info.bundleName with e | serialNum
    all_goals simp [hget, Except.toOption] at hserial
    subst hserial
    have htakes := removeDeviceRight_takes env (info.key serialNum info.tokenId) s.rights r
    simp only [hm, hget] at hr
    have hdb : r ∈ (removeDeviceRight env (info.key serialNum info.tokenId) s.rights).2.rows := by
      rw [← hsame]
      split at hr
      all_goals
        rename_i hcancel
        rw [hcancel]
        exact hr
    unfold Removal.taken? at htaken
    dsimp only at htaken
    split at htaken
    · rename_i hret
      exact Option.some.inj htaken ▸ (htakes hdb).2 huser hret
    · cases htaken

theorem Removal.run_taken (env : RightEnv) (caller : Caller) (x : Removal) (s : ServiceState) :
    ∀ r ∈ (x.run env caller s).2.rights.rows, x.Taken env caller s r := by
  cases x with
  | removeRight deviceName => exact removeRight_taken env caller deviceName s
  | cancelSerialRight hdi portId => exact cancelSerialRight_taken env caller hdi portId s
  | cancelAccessoryRight access => exact cancelAccessoryRight_taken env caller access s

end UsbManager.Service
