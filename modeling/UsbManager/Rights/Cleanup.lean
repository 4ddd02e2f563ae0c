import Mathlib.Data.List.Dedup
import UsbManager.Lib.Loop
import UsbManager.Rights.Expiry
import UsbManager.Rights.Reinstall

/-!
# Clean-ups

What `usb_right_manager.cpp` deletes on its own: when a package or a user goes, when the service starts, and when a
device is unplugged. A clean-up looks before it deletes, and every call of the store may fail, but a row is only
ever deleted for a reason that it has itself.
-/

namespace UsbManager.Rights

/-! ## The clean-ups of the events -/

/-- `USB_RIGHT_OK`, `USB_RIGHT_NOP` or an error. -/
inductive CleanUpRet
  | ok
  | nop
  | err (e : RightErr)
  deriving DecidableEq, Repr

def CleanUpRet.ofExcept : Except RightErr Unit → CleanUpRet
  | .ok _ => .ok
  | .error e => .err e

/-- `CleanUpRightAppUninstalled` for one application. -/
def cleanUpRightBundleRemoved (env : StoreEnv) (uid : Int) (bundleName : String) (db : RightDb) :
    CleanUpRet × RightDb :=
  match queryRightRecordApps env uid db with
  | (.error _, db) => (.nop, db)
  | (.ok apps, db) =>
    if bundleName ∈ apps then
      let (ret, db) := deleteAppRightRecord env uid bundleName db
      (.ofExcept ret, db)
    else (.nop, db)

def cleanUpRightUserStopped (env : StoreEnv) (uid : Int) (db : RightDb) : CleanUpRet × RightDb :=
  let (ret, db) := deleteUidRightRecord env uid db
  (.ofExcept ret, db)

/-- Rows that were granted for as long as the device is there. -/
def cleanUpRightTemporaryExpired (env : StoreEnv) (deviceName : String) (db : RightDb) : Except RightErr Unit × RightDb :=
  deleteValidPeriodRightRecord env usbRightValidPeriodMin deviceName db

/-- Run when the service starts. The results of the devices are only logged. -/
def cleanUpRightExpired (env : RightEnv) (devices : List String) (db : RightDb) : Except RightErr Unit × RightDb :=
  let db := devices.foldl (fun db dev => (cleanUpRightTemporaryExpired env.toStoreEnv dev db).2) db
  deleteNormalExpiredRightRecord env.toStoreEnv env.currentUserId env.tidyNow db

/-- The common events that change the table. Three package events and two user events are handled alike. -/
inductive RightEvent
  | packageRemoved (userId : Int) (bundleName : String)
  | userRemoved
  | userStopped (code : Int)

/-- `RightSubscriber::OnReceiveEvent`. The clean-up of deleted users always reports success. -/
def onReceiveEvent (env : RightEnv) : RightEvent → RightDb → CleanUpRet × RightDb
  | .packageRemoved userId bundleName, db => cleanUpRightBundleRemoved env.toStoreEnv userId bundleName db
  | .userRemoved, db => (.ok, cleanUpRightUserDeleted env db)
  | .userStopped code, db => cleanUpRightUserStopped env.toStoreEnv code db

/-! ## Tables from which rows were deleted -/

/-- Nothing was added, and only rows that `p` allows were deleted. -/
structure Deletes (p : RightRow → Prop) (db db' : RightDb) : Prop where
  sub : ∀ r ∈ db'.rows, r ∈ db.rows
  kept : ∀ r ∈ db.rows, ¬ p r → r ∈ db'.rows

namespace Deletes

variable {p q : RightRow → Prop} {db db' db'' : RightDb}

theorem of_rows_eq (h : db'.rows = db.rows) : Deletes p db db' := by
  constructor
  · intro r hr
    rwa [h] at hr
  · intro r hr _
    rwa [h]

theorem trans (h : Deletes p db db') (h' : Deletes p db' db'') : Deletes p db db'' :=
  ⟨fun r hr => h.sub r (h'.sub r hr), fun r hr hp => h'.kept r (h.kept r hr hp) hp⟩

theorem mono (h : Deletes p db db') (hpq : ∀ r ∈ db.rows, p r → q r) : Deletes q db db' :=
  ⟨h.sub, fun r hr hq => h.kept r hr fun hp => hq (hpq r hr hp)⟩

theorem foldl {α : Type} (f : RightDb → α → RightDb) (l : List α) (hf : ∀ db, ∀ a ∈ l, Deletes p db (f db a))
    (db : RightDb) : Deletes p db (l.foldl f db) :=
  Loop.foldl_rel (Deletes p) (fun _ => of_rows_eq rfl) (fun _ _ _ h h' => h.trans h') f l hf db

end Deletes

theorem deleteAndNoOtherOperation_deletes (env : StoreEnv) (p : RightRow → Bool) (db : RightDb) :
    Deletes (fun r => p r) db (deleteAndNoOtherOperation env p db).2 := by
  refine ⟨deleteAndNoOtherOperation_sub env p db, fun r hr hp => ?_⟩
  rw [(deleteAndNoOtherOperation_spec env p db).1]
  split
  · exact List.mem_filter.mpr ⟨hr, by simpa using hp⟩
  · exact hr

theorem deleteAndNoOtherOperation_gone {env : StoreEnv} {p : RightRow → Bool} {db : RightDb}
    (h : (deleteAndNoOtherOperation env p db).1 = .ok ()) :
    ∀ r ∈ (deleteAndNoOtherOperation env p db).2.rows, p r = false := by
  obtain ⟨hrows, hret, -⟩ := deleteAndNoOtherOperation_spec env p db
  intro r hr
  rw [hrows, if_pos (hret.mp h).1, List.mem_filter] at hr
  simpa using hr.2

theorem readColumn_rows {α : Type} (env : StoreEnv) (column : RightRow → α) (rows : List RightRow) (db : RightDb) :
    (readColumn env column rows db).2.rows = db.rows ∧
      ∀ values, (readColumn env column rows db).1 = .ok values → ∀ v ∈ values, ∃ r ∈ rows, column r = v := by
  induction rows generalizing db with
  | nil =>
    refine ⟨rfl, fun values h v hv => ?_⟩
    rw [← Except.ok.inj h] at hv
    exact absurd hv List.not_mem_nil
  | cons row rest ih =>
    obtain ⟨hrows, hvalues⟩ := ih db.tick.tick
    rw [readColumn]
    split
    · exact ⟨rfl, fun values h => by cases h⟩
    · rcases hr : readColumn env column rest db.tick.tick with ⟨e | rest', db'⟩
      · rw [hr] at hrows
        exact ⟨hrows, fun values h => by cases h⟩
      · rw [hr] at hrows hvalues
        refine ⟨hrows, fun values h v hv => ?_⟩
        have hrest : v ∈ rest' → ∃ r ∈ row :: rest, column r = v := fun hv => by
          obtain ⟨r, hr, hcol⟩ := hvalues rest' rfl v hv
          exact ⟨r, List.mem_cons_of_mem row hr, hcol⟩
        simp only [Except.ok.injEq] at h
        subst h
        split at hv
        · rcases List.mem_cons.mp hv with rfl | hv
          · exact ⟨row, List.mem_cons_self, rfl⟩
          · exact hrest hv
        · exact hrest hv

theorem queryAndGetResultColumnValues_spec {α : Type} [DecidableEq α] (env : StoreEnv) (p : RightRow → Bool)
    (column : RightRow → α) (db : RightDb) :
    (queryAndGetResultColumnValues env p column db).2.rows = db.rows ∧
      ∀ values, (queryAndGetResultColumnValues env p column db).1 = .ok values →
        ∀ v ∈ values, ∃ r ∈ db.rows, p r ∧ column r = v := by
  obtain ⟨hrows, hset⟩ := queryInTransaction_spec env none p db
  unfold queryAndGetResultColumnValues
  rcases hq : queryInTransaction env none p db with ⟨e | resultSet, db'⟩
  · rw [hq] at hrows
    exact ⟨hrows, fun values h => by cases h⟩
  rw [hq] at hrows hset
  simp only
  split
  · exact ⟨hrows, fun values h => by cases h⟩
  · obtain ⟨hread, hvalues⟩ := readColumn_rows env column
      (resultSet.pwFilter fun r r' => column r ≠ column r') db'.tick
    refine ⟨hread.trans hrows, fun values h v hv => ?_⟩
    obtain ⟨r, hr, hcol⟩ := hvalues values h v hv
    have hmem := List.pwFilter_subset _ hr
    rw [hset resultSet rfl, List.mem_filter] at hmem
    exact ⟨r, hmem.1, hmem.2, hcol⟩

/-! ## Why a row may be deleted -/

/-- Some row of the application is from another installation. -/
def Reinstalled (env : RightEnv) (rows : List RightRow) (r : RightRow) : Prop :=
  ∃ installTime, env.bundleInstallTime r.uid r.bundleName = some installTime ∧
    ∃ r' ∈ rows, r'.uid = r.uid ∧ r'.bundleName = r.bundleName ∧ UInt64.ofInt r'.installTime ≠ installTime

/-- The reasons of `TidyUpRight`. All but the second are about the current user. -/
inductive Outlived (env : RightEnv) (rows : List RightRow) (r : RightRow) : Prop
  | appUninstalled (huid : r.uid = env.currentUserId) (h : env.isAppInstalled r.uid r.bundleName = false)
  | userDeleted (h : env.isOsAccountExists r.uid = some false)
  | expired (h : tooOld env.currentUserId (relativeExpiredTime env.tidyNow) r = true)
  | appReinstalled (huid : r.uid = env.currentUserId) (h : Reinstalled env rows r)

theorem Outlived.mono {env : RightEnv} {rows rows' : List RightRow} {r : RightRow} (h : Outlived env rows' r)
    (hsub : ∀ r ∈ rows', r ∈ rows) : Outlived env rows r := by
  cases h with
  | appUninstalled huid h => exact .appUninstalled huid h
  | userDeleted h => exact .userDeleted h
  | expired h => exact .expired h
  | appReinstalled huid h =>
    obtain ⟨installTime, htime, r', hr', hkey⟩ := h
    exact .appReinstalled huid ⟨installTime, htime, r', hsub r' hr', hkey⟩

theorem cleanUpRightAppUninstalled_deletes (env : RightEnv) (uid : Int) (db : RightDb) :
    Deletes (fun r => r.uid = uid ∧ env.isAppInstalled r.uid r.bundleName = false) db
      (cleanUpRightAppUninstalled env uid db) := by
  obtain ⟨hrows, -⟩ := queryAndGetResultColumnValues_spec env.toStoreEnv (fun r => r.uid = uid) RightRow.bundleName db
  unfold cleanUpRightAppUninstalled queryRightRecordApps
  rcases hq : queryAndGetResultColumnValues env.toStoreEnv (fun r => decide (r.uid = uid)) RightRow.bundleName db with
    ⟨e | apps, db'⟩
  all_goals rw [hq] at hrows
  · exact .of_rows_eq hrows
  · refine .trans (.of_rows_eq hrows) (.foldl _ apps (fun db app _ => ?_) db')
    split
    · exact .of_rows_eq rfl
    · rename_i hnot
      refine (deleteAndNoOtherOperation_deletes env.toStoreEnv _ db).mono fun r _ hr => ?_
      simp only [Bool.and_eq_true, decide_eq_true_eq] at hr
      rw [hr.1, hr.2]
      exact ⟨rfl, by simpa using hnot⟩

theorem cleanUpRightUserDeleted_deletes (env : RightEnv) (db : RightDb) :
    Deletes (fun r => env.isOsAccountExists r.uid = some false) db (cleanUpRightUserDeleted env db) := by
  obtain ⟨hrows, -⟩ := queryAndGetResultColumnValues_spec env.toStoreEnv (fun _ => true) RightRow.uid db
  unfold cleanUpRightUserDeleted queryRightRecordUids
  rcases hq : queryAndGetResultColumnValues env.toStoreEnv (fun _ => true) RightRow.uid db with ⟨e | uids, db'⟩
  all_goals rw [hq] at hrows
  · exact .of_rows_eq hrows
  · refine .trans (.of_rows_eq hrows) (.foldl _ uids (fun db uid _ => ?_) db')
    split
    · rename_i hgone
      refine (deleteAndNoOtherOperation_deletes env.toStoreEnv _ db).mono fun r _ hr => ?_
      rw [of_decide_eq_true hr]
      exact hgone
    · exact .of_rows_eq rfl

theorem cleanUpRightNormalExpired_deletes (env : RightEnv) (uid : Int) (db : RightDb) :
    Deletes (fun r => tooOld uid (relativeExpiredTime env.tidyNow) r = true) db (cleanUpRightNormalExpired env uid db) :=
  deleteAndNoOtherOperation_deletes env.toStoreEnv _ db

theorem cleanUpRightExpired_deletes (env : RightEnv) (devices : List String) (db : RightDb) :
    Deletes (fun r => r.validPeriod = usbRightValidPeriodMin ∨
      tooOld env.currentUserId (relativeExpiredTime env.tidyNow) r = true) db (cleanUpRightExpired env devices db).2 := by
  refine (Deletes.foldl (fun db dev => (cleanUpRightTemporaryExpired env.toStoreEnv dev db).2) devices
    (fun db dev _ => ?_) db).trans ?_
  · refine (deleteAndNoOtherOperation_deletes env.toStoreEnv _ db).mono fun r _ h => .inl ?_
    simp only [Bool.and_eq_true, decide_eq_true_eq] at h
    exact h.1
  · exact (cleanUpRightNormalExpired_deletes env env.currentUserId _).mono fun r _ h => .inr h

theorem reinstalledApps_found (env : RightEnv) (uid : Int) (apps : List String) (db : RightDb) :
    (reinstalledApps env uid apps db).2.rows = db.rows ∧
      ∀ names, (reinstalledApps env uid apps db).1 = some names → ∀ app ∈ names,
        ∃ installTime, env.bundleInstallTime uid app = some installTime ∧
          ∃ r ∈ db.rows, r.uid = uid ∧ r.bundleName = app ∧ UInt64.ofInt r.installTime ≠ installTime := by
  induction apps generalizing db with
  | nil =>
    refine ⟨rfl, fun names h app happ => ?_⟩
    rw [← Option.some.inj h] at happ
    exact absurd happ List.not_mem_nil
  | cons app rest ih =>
    obtain ⟨hquery, hinfos⟩ := queryAndGetResult_spec env.toStoreEnv (some app)
      (fun r => r.uid = uid && r.bundleName = app) db
    rw [reinstalledApps, queryAppRightRecord]
    rcases hq : queryAndGetResult env.toStoreEnv (some app) (fun r => r.uid = uid && r.bundleName = app) db with
      ⟨e | infos, db₁⟩
    all_goals rw [hq] at hquery hinfos
    · exact ⟨hquery, fun names h => by cases h⟩
    rcases htime : env.bundleInstallTime uid app with - | installTime
    · exact ⟨hquery, fun names h => by cases h⟩
    obtain ⟨hrows, hrest⟩ := ih db₁
    dsimp only
    rcases hr : reinstalledApps env uid rest db₁ with ⟨- | names', db₂⟩
    all_goals rw [hr] at hrows hrest
    · exact ⟨hrows.trans hquery, fun names h => by cases h⟩
    refine ⟨hrows.trans hquery, fun names h a ha => ?_⟩
    simp only [Option.some.injEq] at h
    subst h
    have hother : a ∈ names' → _ := hrest names' rfl a
    rw [hquery] at hother
    split at ha
    · rename_i hany
      rcases List.mem_cons.mp ha with rfl | ha
      · obtain ⟨info, hmem, hne⟩ := List.any_eq_true.mp hany
        obtain ⟨hrow, hkey⟩ := hinfos infos rfl info hmem
        simp only [Bool.and_eq_true, decide_eq_true_eq] at hkey
        exact ⟨installTime, htime, info, hrow, hkey.1, hkey.2, of_decide_eq_true hne⟩
      · exact hother ha
    · exact hother ha

theorem cleanUpRightAppReinstalled_deletes (env : RightEnv) (uid : Int) (db : RightDb) :
    Deletes (fun r => r.uid = uid ∧ Reinstalled env db.rows r) db (cleanUpRightAppReinstalled env uid db) := by
  obtain ⟨hrows, -⟩ := queryAndGetResultColumnValues_spec env.toStoreEnv (fun r => r.uid = uid) RightRow.bundleName db
  unfold cleanUpRightAppReinstalled queryRightRecordApps
  rcases hq : queryAndGetResultColumnValues env.toStoreEnv (fun r => decide (r.uid = uid)) RightRow.bundleName db with
    ⟨e | _ | ⟨app, apps⟩, db'⟩
  all_goals rw [hq] at hrows
  · exact .of_rows_eq hrows
  · exact .of_rows_eq hrows
  simp only
  obtain ⟨hloop, hfound⟩ := reinstalledApps_found env uid (stringVectorSortAndUniq (app :: apps)) db'
  rcases hr : reinstalledApps env uid (stringVectorSortAndUniq (app :: apps)) db' with ⟨- | names, db''⟩
  all_goals rw [hr] at hloop hfound
  · exact .of_rows_eq (hloop.trans hrows)
  · refine .trans (.of_rows_eq (hloop.trans hrows)) ?_
    simp only [deleteAppsRightRecord, deleteByPredicates_snd]
    refine (deleteAndNoOtherOperation_deletes env.toStoreEnv _ db'').mono fun r _ hp => ?_
    simp only [Bool.and_eq_true, decide_eq_true_eq, List.contains_iff_mem, mem_stringVectorSortAndUniq] at hp
    obtain ⟨installTime, htime, r', hr', huid, happ, hne⟩ := hfound names rfl r.bundleName hp.2
    rw [hrows] at hr'
    refine ⟨hp.1, installTime, ?_, r', hr', ?_, happ, hne⟩
    · rw [hp.1]
      exact htime
    · rw [huid, hp.1]

theorem tidyUpRight_deletes (env : RightEnv) (choose : TidyChoice) (db : RightDb) :
    Deletes (Outlived env db.rows) db (tidyUpRight env choose db) := by
  unfold tidyUpRight
  simp only
  split
  · exact .of_rows_eq rfl
  set db₁ := if choose.appUninstalled then cleanUpRightAppUninstalled env env.currentUserId db else db with hdb₁
  set db₂ := if choose.userDeleted then cleanUpRightUserDeleted env db₁ else db₁ with hdb₂
  set db₃ := if choose.expired then cleanUpRightNormalExpired env env.currentUserId db₂ else db₂ with hdb₃
  have h₁ : Deletes (Outlived env db.rows) db db₁ := by
    rw [hdb₁]
    split
    · exact (cleanUpRightAppUninstalled_deletes env _ db).mono fun r _ h => .appUninstalled h.1 h.2
    · exact .of_rows_eq rfl
  have h₂ : Deletes (Outlived env db.rows) db db₂ := by
    refine h₁.trans ?_
    rw [hdb₂]
    split
    · exact (cleanUpRightUserDeleted_deletes env db₁).mono fun r _ h => .userDeleted h
    · exact .of_rows_eq rfl
  have h₃ : Deletes (Outlived env db.rows) db db₃ := by
    refine h₂.trans ?_
    rw [hdb₃]
    split
    · exact (cleanUpRightNormalExpired_deletes env _ db₂).mono fun r _ h => .expired h
    · exact .of_rows_eq rfl
  refine h₃.trans ?_
  split
  · exact (cleanUpRightAppReinstalled_deletes env _ db₃).mono fun r _ h =>
      (Outlived.appReinstalled h.1 h.2).mono h₃.sub
  · exact .of_rows_eq rfl

theorem hasRight_deletes (env : RightEnv) (key : RightKey) (db : RightDb) :
    Deletes (Outlived env db.rows) db (hasRight env key db).2 := by
  unfold hasRight
  split
  · exact .of_rows_eq rfl
  · refine (tidyUpRight_deletes env tightUpUsbRightRecordExpired db).trans (.of_rows_eq ?_)
    exact (isRecordExpired_spec env.toStoreEnv key env.now _).1

theorem removeDeviceAllRight_deletes (env : RightEnv) (deviceName : String) (db : RightDb) :
    Deletes (fun r => r.validPeriod = usbRightValidPeriodMin ∧ r.deviceName = deviceName ∨ Outlived env db.rows r) db
      (removeDeviceAllRight env deviceName db) := by
  have htemporary := deleteAndNoOtherOperation_deletes env.toStoreEnv
    (fun r => r.validPeriod = usbRightValidPeriodMin && r.deviceName = deviceName) db
  refine (htemporary.mono fun r _ h => ?_).trans ?_
  · simp only [Bool.and_eq_true, decide_eq_true_eq] at h
    exact .inl h
  · exact (tidyUpRight_deletes env tightUpUsbRightRecordAll _).mono fun r _ h => .inr (h.mono htemporary.sub)

end UsbManager.Rights
