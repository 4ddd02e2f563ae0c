import Mathlib.Data.List.Dedup
import UsbManager.Rights.Manager

/-!
# Reinstalled applications

`CleanUpRightAppReinstalled` looks up every application of a user and deletes the records of those
with another install time, all at once. A lookup that fails ends it before the deletion. The
clean-ups of uninstalled applications and of deleted users go on with the next one.
-/

namespace UsbManager.Rights

/-- Only the record queries of some applications fail. -/
structure StoreEnv.LooksUp (env : StoreEnv) (queryFails : String → Bool) : Prop where
  store : env.store = true
  app : ∀ app n, env.succeeds (.query (some app)) n = !queryFails app
  call : ∀ c n, (∀ app, c ≠ .query (some app)) → env.succeeds c n = true

/-! ## Queries -/

section LooksUp

variable {env : StoreEnv} {queryFails : String → Bool} (h : env.LooksUp queryFails)
include h

theorem queryAppRightRecord_looksUp (uid : Int) (app : String) (db : RightDb) :
    (queryAppRightRecord env uid app db).1 =
      if queryFails app then .error .rdbExecuteFailture
      else .ok (db.rows.filter fun r => r.uid = uid && r.bundleName = app) := by
  rcases hfails : queryFails app with - | -
  · have hquery : (env.queryOutcome (some app) db.calls).1 = none := by
      simp [StoreEnv.queryOutcome, h.store, h.app, h.call, hfails]
    refine queryAndGetResult_ok hquery (fun n => ?_) (fun n => ?_) (fun n => ?_) _
    all_goals simp [h.call]
  · have hquery : (env.queryOutcome (some app) db.calls).1 = some .rdbExecuteFailture := by
      simp [StoreEnv.queryOutcome, h.store, h.app, h.call, hfails]
    exact queryAndGetResult_error hquery _

theorem readColumn_looksUp {α : Type} (column : RightRow → α) (rows : List RightRow) (db : RightDb) :
    (readColumn env column rows db).1 = .ok (rows.map column) ∧ (readColumn env column rows db).2.rows = db.rows := by
  induction rows generalizing db with
  | nil => exact ⟨rfl, rfl⟩
  | cons row rest ih =>
    obtain ⟨hvalues, hrows⟩ := ih db.tick.tick
    rcases hr : readColumn env column rest db.tick.tick with ⟨ret, db'⟩
    rw [hr] at hvalues hrows
    obtain rfl : ret = .ok (rest.map column) := hvalues
    simp [readColumn, StoreEnv.call, h.call, hr]
    exact hrows

theorem queryRightRecordApps_looksUp (uid : Int) (db : RightDb) :
    ∃ apps, (queryRightRecordApps env uid db).1 = .ok apps ∧ (queryRightRecordApps env uid db).2.rows = db.rows ∧
      ∀ app, app ∈ apps ↔ ∃ r ∈ db.rows, r.uid = uid ∧ r.bundleName = app := by
  have hquery : (env.queryOutcome none db.calls).1 = none := by
    simp [StoreEnv.queryOutcome, h.store, h.call]
  obtain ⟨hset, hrows, -⟩ := queryInTransaction_eq env none (fun r => r.uid = uid) db
  rw [hquery] at hset
  rcases hq : queryInTransaction env none (fun r => r.uid = uid) db with ⟨ret, db'⟩
  rw [hq] at hset hrows
  obtain rfl : ret = .ok (db.rows.filter fun r => r.uid = uid) := hset
  obtain ⟨hvalues, hread⟩ := readColumn_looksUp h RightRow.bundleName
    ((db.rows.filter fun r => r.uid = uid).pwFilter fun r r' => r.bundleName ≠ r'.bundleName) db'.tick
  have hcolumn : queryRightRecordApps env uid db = readColumn env RightRow.bundleName
      ((db.rows.filter fun r => r.uid = uid).pwFilter fun r r' => r.bundleName ≠ r'.bundleName) db'.tick := by
    simp [queryRightRecordApps, queryAndGetResultColumnValues, hq, StoreEnv.call, h.call]
  rw [hcolumn]
  refine ⟨((db.rows.filter fun r => r.uid = uid).map RightRow.bundleName).dedup, ?_, hread.trans hrows, fun app => ?_⟩
  · rw [hvalues, List.dedup, List.pwFilter_map]
  · simp [and_assoc]

end LooksUp

/-! ## The loop -/

/-- The two questions that the loop has about an application are answered. -/
def lookupSucceeds (env : RightEnv) (queryFails : String → Bool) (uid : Int) (app : String) : Bool :=
  !queryFails app && (env.bundleInstallTime uid app).isSome

/-- One row is from another installation. -/
def isReinstalled (env : RightEnv) (uid : Int) (rows : List RightRow) (app : String) : Bool :=
  (env.bundleInstallTime uid app).any fun installTime =>
    rows.any fun r => r.uid = uid && r.bundleName = app && UInt64.ofInt r.installTime ≠ installTime

theorem isReinstalled_row {env : RightEnv} {uid : Int} {rows : List RightRow} {app : String}
    (h : isReinstalled env uid rows app = true) : ∃ r ∈ rows, r.uid = uid ∧ r.bundleName = app := by
  obtain ⟨installTime, -, hany⟩ := (Option.any_eq_true _ _).mp h
  obtain ⟨r, hr, hother⟩ := List.any_eq_true.mp hany
  simp only [Bool.and_eq_true, decide_eq_true_eq] at hother
  exact ⟨r, hr, hother.1⟩

variable {env : RightEnv} {queryFails : String → Bool}

theorem reinstalledApps_cons (h : env.LooksUp queryFails) (uid : Int) (app : String) (rest : List String)
    (db : RightDb) : ∃ db', db'.rows = db.rows ∧ reinstalledApps env uid (app :: rest) db =
      if lookupSucceeds env queryFails uid app then
        ((reinstalledApps env uid rest db').1.map fun names =>
          if isReinstalled env uid db.rows app then app :: names else names, (reinstalledApps env uid rest db').2)
      else (none, db') := by
  have hquery := queryAppRightRecord_looksUp h uid app db
  have hrows : (queryAppRightRecord env.toStoreEnv uid app db).2.rows = db.rows :=
    (queryAndGetResult_spec env.toStoreEnv (some app) _ db).1
  rw [reinstalledApps]
  rcases hq : queryAppRightRecord env.toStoreEnv uid app db with ⟨ret, db'⟩
  rw [hq] at hquery hrows
  refine ⟨db', hrows, ?_⟩
  rcases hfails : queryFails app with - | -
  · obtain rfl : ret = .ok (db.rows.filter fun r => r.uid = uid && r.bundleName = app) := by
      simpa [hfails] using hquery
    rcases htime : env.bundleInstallTime uid app with - | installTime
    · simp [lookupSucceeds, htime]
    · have hany : (db.rows.filter fun r => r.uid = uid && r.bundleName = app).any
          (fun info => UInt64.ofInt info.installTime ≠ installTime) = isReinstalled env uid db.rows app := by
        simp [isReinstalled, htime, List.any_filter]
      simp only [hany]
      rcases reinstalledApps env uid rest db' with ⟨names | -, db''⟩
      all_goals simp [lookupSucceeds, hfails, htime]
  · obtain rfl : ret = .error .rdbExecuteFailture := by
      simpa [hfails] using hquery
    simp [lookupSucceeds, hfails]

theorem reinstalledApps_spec (h : env.LooksUp queryFails) (uid : Int) (apps : List String) (db : RightDb) :
    (reinstalledApps env uid apps db).2.rows = db.rows ∧
      (reinstalledApps env uid apps db).1 =
        if apps.all (lookupSucceeds env queryFails uid) then some (apps.filter (isReinstalled env uid db.rows))
        else none := by
  induction apps generalizing db with
  | nil => exact ⟨rfl, rfl⟩
  | cons app rest ih =>
    obtain ⟨db', hrows, hturn⟩ := reinstalledApps_cons h uid app rest db
    obtain ⟨hrest, hnames⟩ := ih db'
    rw [hrows] at hrest hnames
    rw [hturn, List.all_cons]
    rcases lookupSucceeds env queryFails uid app with - | -
    · exact ⟨hrows, rfl⟩
    · refine ⟨hrest, ?_⟩
      simp only [if_true, hnames, Bool.true_and, List.filter_cons]
      rcases rest.all (lookupSucceeds env queryFails uid) with - | -
      · rfl
      · rfl

theorem mem_stringVectorSortAndUniq (strings : List String) (s : String) :
    s ∈ stringVectorSortAndUniq strings ↔ s ∈ strings := by
  simp [stringVectorSortAndUniq]

theorem deleteAppsRightRecord_reinstalled (h : env.LooksUp queryFails) {uid : Int} {rows : List RightRow}
    {apps : List String} (hmem : ∀ app, app ∈ apps ↔ ∃ r ∈ rows, r.uid = uid ∧ r.bundleName = app) {db : RightDb}
    (hrows : db.rows = rows) :
    (deleteAppsRightRecord env.toStoreEnv uid (stringVectorSortAndUniq
        ((stringVectorSortAndUniq apps).filter (isReinstalled env uid rows))) db).2.rows =
      rows.filter fun r => !(r.uid = uid && isReinstalled env uid rows r.bundleName) := by
  have hdeletes : env.deletes db.calls = true := by
    simp [StoreEnv.deletes, h.store, h.call]
  rw [deleteAppsRightRecord, deleteByPredicates_rows, if_pos hdeletes, hrows]
  refine List.filter_congr fun r hr => ?_
  by_cases huid : r.uid = uid
  · have hin : r.bundleName ∈ apps := (hmem r.bundleName).mpr ⟨r, hr, huid, rfl⟩
    simp [huid, mem_stringVectorSortAndUniq, hin]
  · simp [huid]

theorem cleanUpRightAppReinstalled_rows (h : env.LooksUp queryFails) (uid : Int) (db : RightDb) :
    (cleanUpRightAppReinstalled env uid db).rows =
      if ∀ r ∈ db.rows, r.uid = uid → lookupSucceeds env queryFails uid r.bundleName then
        db.rows.filter fun r => !(r.uid = uid && isReinstalled env uid db.rows r.bundleName)
      else db.rows := by
  obtain ⟨apps, happs, hrows, hmem⟩ := queryRightRecordApps_looksUp h uid db
  unfold cleanUpRightAppReinstalled
  rcases hq : queryRightRecordApps env.toStoreEnv uid db with ⟨ret, db'⟩
  rw [hq] at happs hrows
  obtain rfl : ret = .ok apps := happs
  have hall : (stringVectorSortAndUniq apps).all (lookupSucceeds env queryFails uid) = true ↔
      ∀ r ∈ db.rows, r.uid = uid → lookupSucceeds env queryFails uid r.bundleName := by
    simp only [List.all_eq_true, mem_stringVectorSortAndUniq, hmem]
    constructor
    · intro hsucc r hr huid
      exact hsucc r.bundleName ⟨r, hr, huid, rfl⟩
    · rintro hsucc app ⟨r, hr, huid, rfl⟩
      exact hsucc r hr huid
  obtain ⟨hloop, hnames⟩ := reinstalledApps_spec h uid (stringVectorSortAndUniq apps) db'
  rcases apps with - | ⟨app, rest⟩
  · -- without an application there is no row to delete
    have hnone : ∀ r ∈ db.rows, r.uid ≠ uid := fun r hr huid => nomatch (hmem r.bundleName).mpr ⟨r, hr, huid, rfl⟩
    have hkept : (db.rows.filter fun r => !(r.uid = uid && isReinstalled env uid db.rows r.bundleName)) = db.rows :=
      List.filter_eq_self.mpr fun r hr => by simp [hnone r hr]
    rw [hkept, ite_self]
    exact hrows
  simp only
  rcases hr : reinstalledApps env uid (stringVectorSortAndUniq (app :: rest)) db' with ⟨names, db''⟩
  rw [hr, hrows] at hloop hnames
  by_cases hsucc : ∀ r ∈ db.rows, r.uid = uid → lookupSucceeds env queryFails uid r.bundleName
  · rw [if_pos (hall.mpr hsucc)] at hnames
    obtain rfl := hnames
    rw [if_pos hsucc]
    exact deleteAppsRightRecord_reinstalled h hmem hloop
  · rw [if_neg (mt hall.mp hsucc)] at hnames
    obtain rfl := hnames
    rw [if_neg hsucc]
    exact hloop

/-- Reinstalled applications whose lookups succeed lose their rows, all other rows stay as they
are. -/
structure LoseRights (env : RightEnv) (queryFails : String → Bool) (uid : Int) (before after : List RightRow) : Prop
    where
  lost : ∀ app, lookupSucceeds env queryFails uid app → isReinstalled env uid before app →
    ∀ r ∈ after, r.uid = uid → r.bundleName ≠ app
  kept : (after.filter fun r => !(r.uid = uid && lookupSucceeds env queryFails uid r.bundleName &&
      isReinstalled env uid before r.bundleName)) =
    before.filter fun r => !(r.uid = uid && lookupSucceeds env queryFails uid r.bundleName &&
      isReinstalled env uid before r.bundleName)

theorem reinstalled_lose_rights_iff (h : env.LooksUp queryFails) (uid : Int) (db : RightDb) :
    LoseRights env queryFails uid db.rows (cleanUpRightAppReinstalled env uid db).rows ↔
      (∀ r ∈ db.rows, r.uid = uid → lookupSucceeds env queryFails uid r.bundleName) ∨
        ∀ app, lookupSucceeds env queryFails uid app → isReinstalled env uid db.rows app = false := by
  rw [cleanUpRightAppReinstalled_rows h uid db]
  by_cases hsucc : ∀ r ∈ db.rows, r.uid = uid → lookupSucceeds env queryFails uid r.bundleName
  · rw [if_pos hsucc]
    refine ⟨fun _ => .inl hsucc, fun _ => ⟨?_, ?_⟩⟩
    · rintro app - hre r hr huid rfl
      obtain ⟨-, hnot⟩ := List.mem_filter.mp hr
      simp [huid, hre] at hnot
    · rw [List.filter_filter]
      refine List.filter_congr fun r hr => ?_
      by_cases huid : r.uid = uid
      · simp [huid, hsucc r hr huid]
      · simp [huid]
  · rw [if_neg hsucc]
    constructor
    · refine fun hlose => .inr fun app hlook => ?_
      rcases hre : isReinstalled env uid db.rows app with - | -
      · rfl
      · obtain ⟨r, hr, huid, happ⟩ := isReinstalled_row hre
        exact absurd happ (hlose.lost app hlook hre r hr huid)
    · rintro (hall | hnone)
      · exact absurd hall hsucc
      · refine ⟨fun app hlook hre => ?_, rfl⟩
        rw [hnone app hlook] at hre
        cases hre

def installedAt (bundleInstallTime : Int → String → Option UInt64) : RightEnv where
  store := true
  succeeds := fun _ _ => true
  now := 100
  tidyNow := 100
  currentUserId := 100
  isAppInstalled := fun _ _ => true
  bundleInstallTime := bundleInstallTime
  isOsAccountExists := fun _ => some true

theorem installedAt_looksUp (bundleInstallTime : Int → String → Option UInt64) :
    (installedAt bundleInstallTime).LooksUp fun _ => false :=
  ⟨rfl, fun _ _ => rfl, fun _ _ _ => rfl⟩

def recordOf (uid : Int) (bundleName : String) : RightRow := ⟨uid, 5, 5, 50, 0x0FFFFFFF, "7-1- ", bundleName, "537"⟩

theorem reinstalled_lose_rights_reader :
    let env := installedAt fun _ app => if app = "reader" then some 9 else some 5
    let db : RightDb := ⟨[recordOf 100 "reader", recordOf 100 "writer", recordOf 101 "reader"], none, 0⟩
    LoseRights env (fun _ => false) 100 db.rows (cleanUpRightAppReinstalled env 100 db).rows ∧
      (cleanUpRightAppReinstalled env 100 db).rows = [recordOf 100 "writer", recordOf 101 "reader"] := by
  intro env db
  refine ⟨(reinstalled_lose_rights_iff (installedAt_looksUp _) 100 db).mpr (.inl ?_), ?_⟩
  · decide +kernel
  · rw [cleanUpRightAppReinstalled_rows (installedAt_looksUp _)]
    decide +kernel

/-- The install time of the writer is not found, and the reader keeps its rights. -/
theorem reinstalled_reader_keeps_rights :
    let env := installedAt fun _ app => if app = "reader" then some 9 else none
    let db : RightDb := ⟨[recordOf 100 "reader", recordOf 100 "writer"], none, 0⟩
    env.LooksUp (fun _ => false) ∧
      ¬ LoseRights env (fun _ => false) 100 db.rows (cleanUpRightAppReinstalled env 100 db).rows := by
  intro env db
  refine ⟨installedAt_looksUp _, fun hlose => ?_⟩
  rw [cleanUpRightAppReinstalled_rows (installedAt_looksUp _)] at hlose
  have hlost := hlose.lost "reader" (by decide +kernel) (by decide +kernel) (recordOf 100 "reader")
    (by decide +kernel) rfl
  exact hlost rfl

end UsbManager.Rights
