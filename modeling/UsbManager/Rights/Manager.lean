import UsbManager.Rights.Database
import UsbManager.Types

/-!
# The rights manager

`usb_right_db_helper.cpp` and `usb_right_manager.cpp`: who may use a device, for how long, and
what is cleaned up on the way. The two singletons are never null. The results of the clean-ups are
only logged.
-/

namespace UsbManager.Rights

/-! ## Records -/

/-- What a right is for: the user, the device, the application and its token. -/
structure RightKey where
  uid : Int
  deviceName : String
  bundleName : String
  tokenId : String
  deriving DecidableEq, Repr

def RightRow.hasKey (r : RightRow) (k : RightKey) : Bool :=
  r.uid = k.uid && r.deviceName = k.deviceName && r.bundleName = k.bundleName && r.tokenId = k.tokenId

/-- The period of a temporary right. -/
def usbRightValidPeriodMin : Int := 0

/-- The period of a right for ever. -/
def usbRightValidPeriodMax : Int := 0xFFFFFFFF

/-- The period of every right that is granted, in seconds. -/
def usbRightValidPeriodSet : UInt64 := 0x0FFFFFFF

/-- The user that has every right. -/
def usbRightUseridConsole : Int := 0

/-- The columns are read into unsigned integers. The last two branches of the source both expire. -/
def isRowExpired (info : RightRow) (expiredTime : UInt64) : Bool :=
  let requestTime := UInt64.ofInt info.requestTime
  let validPeriod := UInt64.ofInt info.validPeriod
  if expiredTime < requestTime then true
  else if validPeriod = UInt64.ofInt usbRightValidPeriodMin then false
  else if validPeriod = UInt64.ofInt usbRightValidPeriodMax then false
  else if expiredTime - requestTime < validPeriod then false
  else true

def queryRightRecord (env : StoreEnv) (key : RightKey) (db : RightDb) : Except RightErr (List RightRow) × RightDb :=
  queryAndGetResult env none (fun r => r.hasKey key) db

/-- No record and no answer count as expired. -/
def isRecordExpired (env : StoreEnv) (key : RightKey) (expiredTime : UInt64) (db : RightDb) : Bool × RightDb :=
  match queryRightRecord env key db with
  | (.error _, db) => (true, db)
  | (.ok infos, db) => (infos.all fun info => isRowExpired info expiredTime, db)

def queryAppRightRecord (env : StoreEnv) (uid : Int) (bundleName : String) (db : RightDb) :
    Except RightErr (List RightRow) × RightDb :=
  queryAndGetResult env (some bundleName) (fun r => r.uid = uid && r.bundleName = bundleName) db

def queryRightRecordUids (env : StoreEnv) (db : RightDb) : Except RightErr (List Int) × RightDb :=
  queryAndGetResultColumnValues env (fun _ => true) RightRow.uid db

def queryRightRecordApps (env : StoreEnv) (uid : Int) (db : RightDb) : Except RightErr (List String) × RightDb :=
  queryAndGetResultColumnValues env (fun r => r.uid = uid) RightRow.bundleName db

def deleteRightRecord (env : StoreEnv) (key : RightKey) (db : RightDb) : Except RightErr Unit × RightDb :=
  deleteAndNoOtherOperation env (fun r => r.hasKey key) db

def deleteAppRightRecord (env : StoreEnv) (uid : Int) (bundleName : String) (db : RightDb) :
    Except RightErr Unit × RightDb :=
  deleteAndNoOtherOperation env (fun r => r.uid = uid && r.bundleName = bundleName) db

def deleteAppsRightRecord (env : StoreEnv) (uid : Int) (bundleNames : List String) (db : RightDb) :
    Except RightErr Unit × RightDb :=
  deleteByPredicates env (fun r => r.uid = uid && bundleNames.contains r.bundleName) db

def deleteUidRightRecord (env : StoreEnv) (uid : Int) (db : RightDb) : Except RightErr Unit × RightDb :=
  deleteAndNoOtherOperation env (fun r => r.uid = uid) db

/-- Rows that are older than the period that is granted, whatever their own is. Two periods never pass. -/
def deleteNormalExpiredRightRecord (env : StoreEnv) (uid : Int) (expiredTime : UInt64) (db : RightDb) :
    Except RightErr Unit × RightDb :=
  let relativeExpiredTime := if expiredTime ≤ usbRightValidPeriodSet then 0 else expiredTime - usbRightValidPeriodSet
  deleteAndNoOtherOperation env (fun r => r.uid = uid && r.requestTime < (relativeExpiredTime.toNat : Int) &&
    r.validPeriod ≠ usbRightValidPeriodMin && r.validPeriod ≠ usbRightValidPeriodMax) db

def deleteValidPeriodRightRecord (env : StoreEnv) (validPeriod : Int) (deviceName : String) (db : RightDb) :
    Except RightErr Unit × RightDb :=
  deleteAndNoOtherOperation env (fun r => r.validPeriod = validPeriod && r.deviceName = deviceName) db

/-! ## Clean-up -/

/-- The store, the clock, the user of the calling process, and the bundle and account managers. The
clock is read once more when expired records are cleaned up. -/
structure RightEnv extends StoreEnv where
  now : UInt64
  tidyNow : UInt64
  currentUserId : Int
  isAppInstalled : Int → String → Bool
  bundleInstallTime : Int → String → Option UInt64
  isOsAccountExists : Int → Option Bool

/-- The rows of applications that are gone. -/
def cleanUpRightAppUninstalled (env : RightEnv) (uid : Int) (db : RightDb) : RightDb :=
  match queryRightRecordApps env.toStoreEnv uid db with
  | (.error _, db) => db
  | (.ok apps, db) => apps.foldl (fun db app =>
      if env.isAppInstalled uid app then db else (deleteAppRightRecord env.toStoreEnv uid app db).2) db

def cleanUpRightUserDeleted (env : RightEnv) (db : RightDb) : RightDb :=
  match queryRightRecordUids env.toStoreEnv db with
  | (.error _, db) => db
  | (.ok uids, db) => uids.foldl (fun db uid =>
      match env.isOsAccountExists uid with
      | some false => (deleteUidRightRecord env.toStoreEnv uid db).2
      | _ => db) db

/-- Run before every check. -/
def cleanUpRightNormalExpired (env : RightEnv) (uid : Int) (db : RightDb) : RightDb :=
  (deleteNormalExpiredRightRecord env.toStoreEnv uid env.tidyNow db).2

def stringVectorSortAndUniq (strings : List String) : List String :=
  (strings.mergeSort fun a b => a ≤ b).dedup

/-- The applications with a row from another installation, `none` at the first failure. -/
def reinstalledApps (env : RightEnv) (uid : Int) : List String → RightDb → Option (List String) × RightDb
  | [], db => (some [], db)
  | bundleName :: rest, db =>
    match queryAppRightRecord env.toStoreEnv uid bundleName db with
    | (.error _, db) => (none, db)
    | (.ok infos, db) =>
      match env.bundleInstallTime uid bundleName with
      | none => (none, db)
      | some installTime =>
        match reinstalledApps env uid rest db with
        | (none, db) => (none, db)
        | (some names, db) =>
          (some (if infos.any fun info => UInt64.ofInt info.installTime ≠ installTime then bundleName :: names
            else names), db)

/-- One lookup that fails keeps the rows of all applications. -/
def cleanUpRightAppReinstalled (env : RightEnv) (uid : Int) (db : RightDb) : RightDb :=
  match queryRightRecordApps env.toStoreEnv uid db with
  | (.error _, db) => db
  | (.ok [], db) => db
  | (.ok apps, db) =>
    match reinstalledApps env uid (stringVectorSortAndUniq apps) db with
    | (none, db) => db
    | (some deleteBundleNames, db) =>
      (deleteAppsRightRecord env.toStoreEnv uid (stringVectorSortAndUniq deleteBundleNames) db).2

/-- The bits of the mask of `TidyUpRight`. -/
structure TidyChoice where
  appUninstalled : Bool
  userDeleted : Bool
  expired : Bool
  appReinstalled : Bool

def tightUpUsbRightRecordExpired : TidyChoice := ⟨false, false, true, false⟩

def tightUpUsbRightRecordAll : TidyChoice := ⟨true, true, true, true⟩

/-- For the console user nothing is cleaned up. -/
def tidyUpRight (env : RightEnv) (choose : TidyChoice) (db : RightDb) : RightDb :=
  let uid := env.currentUserId
  if uid = usbRightUseridConsole then db
  else
    let db := if choose.appUninstalled then cleanUpRightAppUninstalled env uid db else db
    let db := if choose.userDeleted then cleanUpRightUserDeleted env db else db
    let db := if choose.expired then cleanUpRightNormalExpired env uid db else db
    if choose.appReinstalled then cleanUpRightAppReinstalled env uid db else db

/-! ## Rights -/

/-- The console user has every right. -/
def hasRight (env : RightEnv) (key : RightKey) (db : RightDb) : Bool × RightDb :=
  if key.uid = usbRightUseridConsole then (true, db)
  else
    let db := tidyUpRight env tightUpUsbRightRecordExpired db
    let (expired, db) := isRecordExpired env.toStoreEnv key env.now db
    (!expired, db)

/-- Nothing to delete is a failure. -/
def removeDeviceRight (env : RightEnv) (key : RightKey) (db : RightDb) : Bool × RightDb :=
  if key.uid = usbRightUseridConsole then (true, db)
  else
    match deleteRightRecord env.toStoreEnv key db with
    | (.error _, db) => (false, db)
    | (.ok _, db) => (true, db)

/-- A failed deletion is only logged. -/
def cancelDeviceRight (env : RightEnv) (key : RightKey) (db : RightDb) : Ret × RightDb :=
  if key.uid = usbRightUseridConsole then (.uec .serviceInvalidValue, db)
  else (.ok, (deleteRightRecord env.toStoreEnv key db).2)

/-- The dialog of the user interface is left out. -/
def removeDeviceAllRight (env : RightEnv) (deviceName : String) (db : RightDb) : RightDb :=
  tidyUpRight env tightUpUsbRightRecordAll
    (deleteValidPeriodRightRecord env.toStoreEnv usbRightValidPeriodMin deviceName db).2

/-! ## What a check sees -/

theorem toNat_ofInt (x : Int) : ((UInt64.ofInt x).toNat : Int) = x % 2 ^ 64 := by
  unfold UInt64.ofInt
  rw [UInt64.toNat_ofNat']
  omega

/-- What a check counts. -/
def live (now : UInt64) (key : RightKey) (r : RightRow) : Bool := r.hasKey key && !isRowExpired r now

theorem tidyExpired_sub (env : RightEnv) (db : RightDb) :
    ∀ r ∈ (tidyUpRight env tightUpUsbRightRecordExpired db).rows, r ∈ db.rows := by
  unfold tidyUpRight
  simp only [tightUpUsbRightRecordExpired, Bool.false_eq_true, if_false, if_true]
  split
  · exact fun r hr => hr
  · exact deleteAndNoOtherOperation_sub env.toStoreEnv _ db

theorem isRecordExpired_spec (env : StoreEnv) (key : RightKey) (t : UInt64) (db : RightDb) :
    (isRecordExpired env key t db).2.rows = db.rows ∧
      ((isRecordExpired env key t db).1 = false → ∃ r ∈ db.rows, live t key r) := by
  obtain ⟨hrows, hset⟩ := queryAndGetResult_spec env none (fun r => r.hasKey key) db
  unfold isRecordExpired queryRightRecord
  rcases hq : queryAndGetResult env none (fun r => r.hasKey key) db with ⟨ret, db'⟩
  rw [hq] at hrows hset
  rcases ret with e | infos
  · exact ⟨hrows, fun h => by cases h⟩
  · refine ⟨hrows, fun h => ?_⟩
    obtain ⟨r, hr, hlive⟩ := List.all_eq_false.mp h
    obtain ⟨hmem, hkey⟩ := hset infos rfl r hr
    exact ⟨r, hmem, by simp [live, hkey, hlive]⟩

theorem hasRight_sound (env : RightEnv) (key : RightKey) (hkey : key.uid ≠ usbRightUseridConsole) (db : RightDb) :
    (∀ r ∈ (hasRight env key db).2.rows, r ∈ db.rows) ∧
      ((hasRight env key db).1 = true → ∃ r ∈ db.rows, live env.now key r) := by
  obtain ⟨hrows, hlive⟩ := isRecordExpired_spec env.toStoreEnv key env.now
    (tidyUpRight env tightUpUsbRightRecordExpired db)
  have hsub := tidyExpired_sub env db
  unfold hasRight
  simp only [hkey, if_false]
  refine ⟨fun r hr => hsub r (hrows ▸ hr), fun h => ?_⟩
  obtain ⟨r, hr, hl⟩ := hlive (by simpa using h)
  exact ⟨r, hsub r hr, hl⟩

theorem isRecordExpired_answers {env : StoreEnv} (h : env.Answers) (key : RightKey) (t : UInt64) (db : RightDb) :
    (isRecordExpired env key t db).1 = false ↔ ∃ r ∈ db.rows, live t key r := by
  have hquery := queryAndGetResult_answers h none (fun r => r.hasKey key) db
  unfold isRecordExpired queryRightRecord
  rcases hq : queryAndGetResult env none (fun r => r.hasKey key) db with ⟨ret, db'⟩
  rw [hq] at hquery
  obtain rfl : ret = .ok (db.rows.filter fun r => r.hasKey key) := hquery
  simp [live]

theorem hasRight_answers {env : RightEnv} (h : env.Answers) (key : RightKey)
    (hkey : key.uid ≠ usbRightUseridConsole) (db : RightDb) :
    (hasRight env key db).2.rows = (tidyUpRight env tightUpUsbRightRecordExpired db).rows ∧
      ((hasRight env key db).1 = true ↔
        ∃ r ∈ (tidyUpRight env tightUpUsbRightRecordExpired db).rows, live env.now key r) := by
  unfold hasRight
  simp only [hkey, if_false, Bool.not_eq_true']
  exact ⟨(isRecordExpired_spec env.toStoreEnv key env.now _).1, isRecordExpired_answers h key env.now _⟩

def RightEnv.keepsRows (env : RightEnv) : RightEnv := { env with toStoreEnv := env.toStoreEnv.keepsRows }

theorem hasRight_keepsRows (env : RightEnv) (hstore : env.store = true) (key : RightKey)
    (hkey : key.uid ≠ usbRightUseridConsole) (db : RightDb) :
    (hasRight env.keepsRows key db).2.rows = db.rows ∧
      ((hasRight env.keepsRows key db).1 = true ↔ ∃ r ∈ db.rows, live env.now key r) := by
  have htidy : (tidyUpRight env.keepsRows tightUpUsbRightRecordExpired db).rows = db.rows := by
    unfold tidyUpRight
    simp only [tightUpUsbRightRecordExpired, Bool.false_eq_true, if_false, if_true]
    split
    · rfl
    · exact deleteAndNoOtherOperation_keepsRows env.toStoreEnv _ db
  have hhas := @hasRight_answers env.keepsRows (keepsRows_answers env.toStoreEnv hstore) key hkey db
  rw [htidy] at hhas
  exact hhas

/-! ## What a revocation does -/

theorem removeDeviceRight_spec (env : RightEnv) (key : RightKey) (hkey : key.uid ≠ usbRightUseridConsole)
    (db : RightDb) :
    (removeDeviceRight env key db).2.rows =
        (if env.deletes db.calls then db.rows.filter fun r => !r.hasKey key else db.rows) ∧
      ((removeDeviceRight env key db).1 = true ↔ env.deletes db.calls ∧ ∃ r ∈ db.rows, r.hasKey key) ∧
      (removeDeviceRight env key db).2.calls = env.afterDelete db.calls := by
  have hspec := deleteAndNoOtherOperation_spec env.toStoreEnv (fun r => r.hasKey key) db
  unfold removeDeviceRight deleteRightRecord
  simp only [hkey, if_false]
  rcases hd : deleteAndNoOtherOperation env.toStoreEnv (fun r => r.hasKey key) db with ⟨ret, db'⟩
  rw [hd] at hspec
  obtain ⟨hrows, hret, hcalls⟩ := hspec
  rcases ret with e | u
  · refine ⟨hrows, ?_, hcalls⟩
    rw [← hret]
    simp
  · refine ⟨hrows, ?_, hcalls⟩
    rw [← hret]
    simp

end UsbManager.Rights
