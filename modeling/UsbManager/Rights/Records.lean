import UsbManager.Lib.Run
import UsbManager.Rights.Manager

/-!
# Records

`AddOrUpdateRightRecord` of `usb_right_db_helper.cpp`. The schema has no unique constraint: that a
key has one row comes from a query, and an insertion or an update after it, in one transaction. The
status that decides about the rollback also carries the id of the inserted row, cut to 32 bits.
-/

namespace UsbManager.Rights

/-! ## Insertion and update -/

/-- The codes are negative. -/
def RightErr.code : RightErr → Int
  | .failure => -1
  | .rdbExecuteFailture => -2
  | .rdbNoInit => -3
  | .rdbEmpty => -4

/-- What `INTEGER PRIMARY KEY AUTOINCREMENT` gives to a new row. -/
structure RowId where
  val : Nat
  pos : 0 < val
  lt : val < 2 ^ 63

/-- What a record holds besides the names. -/
structure UsbRightAppInfo where
  uid : Int
  installTime : UInt64
  updateTime : UInt64
  requestTime : UInt64
  validPeriod : UInt64
  deriving DecidableEq, Repr

/-- `PutLong` takes a signed integer. -/
def putLong (value : UInt64) : Int := (value.toNat : Int).bmod (2 ^ 64)

/-- The row that is written. -/
def UsbRightAppInfo.values (info : UsbRightAppInfo) (deviceName bundleName tokenId : String) : RightRow where
  uid := info.uid
  installTime := putLong info.installTime
  updateTime := putLong info.updateTime
  requestTime := putLong info.requestTime
  validPeriod := putLong info.validPeriod
  deviceName := deviceName
  bundleName := bundleName
  tokenId := tokenId

/-- `outRowId` is the id that the store gives if the insertion succeeds. -/
def insert (env : StoreEnv) (outRowId : RowId) (values : RightRow) (db : RightDb) : Int × RightDb :=
  if !env.store then (RightErr.rdbNoInit.code, db)
  else if env.call .insert db then (outRowId.val, { db.tick with txn := some (db.table ++ [values]) })
  else (RightErr.rdbExecuteFailture.code, db.tick)

/-- The number of changed rows is not looked at. -/
def update (env : StoreEnv) (values : RightRow) (p : RightRow → Bool) (db : RightDb) : Int × RightDb :=
  if !env.store then (RightErr.rdbNoInit.code, db)
  else if env.call .update db then
    (0, { db.tick with txn := some (db.table.map fun r => if p r then values else r) })
  else (RightErr.rdbExecuteFailture.code, db.tick)

/-! ## The transaction -/

/-- Whether there is a row of the key already. An error ends the transaction. -/
def checkIfNeedUpdateEx (env : StoreEnv) (key : RightKey) (db : RightDb) : Except RightErr Bool × RightDb :=
  match query env none (fun r => r.hasKey key) db with
  | (none, db) => (.error .rdbExecuteFailture, rollBack env db)
  | (some resultSet, db) =>
    if env.call .getRowCount db then (.ok (0 < resultSet.length), db.tick)
    else (.error .rdbExecuteFailture, rollBack env db.tick)

/-- `int32_t ret` of the source takes the 64 bits of the row id. -/
def toInt32 (x : Int) : Int := x.bmod (2 ^ 32)

/-- An update goes by the user of `info`, an insertion returns its row id. -/
def addOrUpdateRightRecordEx (env : StoreEnv) (outRowId : RowId) (isUpdate : Bool) (key : RightKey)
    (info : UsbRightAppInfo) (db : RightDb) : Int × RightDb :=
  let values := info.values key.deviceName key.bundleName key.tokenId
  let (ret, db) :=
    if isUpdate then update env values (fun r => r.hasKey { key with uid := info.uid }) db
    else (toInt32 (insert env outRowId values db).1, (insert env outRowId values db).2)
  if ret < 0 then (ret, rollBack env db) else (ret, db)

/-- One transaction for the check, the statement and the commit. -/
def addOrUpdateRightRecord (env : StoreEnv) (outRowId : RowId) (key : RightKey) (info : UsbRightAppInfo)
    (db : RightDb) : Int × RightDb :=
  match beginTransaction env db with
  | (.error e, db) => (e.code, db)
  | (.ok _, db) =>
    match checkIfNeedUpdateEx env key db with
    | (.error e, db) => (e.code, db)
    | (.ok isUpdate, db) =>
      let (ret, db) := addOrUpdateRightRecordEx env outRowId isUpdate key info db
      if ret < 0 then (ret, db)
      else
        match commit env db with
        | (.error e, db) => (e.code, rollBack env db)
        | (.ok _, db) => (0, db)

def deleteDeviceRightRecord (env : StoreEnv) (uid : Int) (deviceName : String) (db : RightDb) :
    Except RightErr Unit × RightDb :=
  deleteAndNoOtherOperation env (fun r => r.uid = uid && r.deviceName = deviceName) db

/-! ## What the transaction does -/

/-- A grant that starts at time `t` goes through. -/
def StoreEnv.grants (env : StoreEnv) (isUpdate : Bool) (t : Nat) : Bool :=
  env.store && env.succeeds .beginTransaction t && env.succeeds (.query none) (t + 1) &&
    env.succeeds .getRowCount (t + 2) && env.succeeds (if isUpdate then .update else .insert) (t + 3) &&
    env.succeeds .commit (t + 4)

/-- The table after a grant that goes through. -/
def granted (key : RightKey) (info : UsbRightAppInfo) (rows : List RightRow) : List RightRow :=
  let values := info.values key.deviceName key.bundleName key.tokenId
  if rows.any fun r => r.hasKey key then
    rows.map fun r => if r.hasKey { key with uid := info.uid } then values else r
  else rows ++ [values]

theorem filter_length_pos (p : RightRow → Bool) (rows : List RightRow) :
    decide (0 < (rows.filter p).length) = rows.any p := by
  rw [Bool.eq_iff_iff]
  simp [List.length_pos_iff_exists_mem]

theorem addOrUpdateRightRecordEx_spec (env : StoreEnv) (hstore : env.store = true) (outRowId : RowId)
    (isUpdate : Bool) (key : RightKey) (info : UsbRightAppInfo) (rows : List RightRow) (t : Nat) :
    if env.succeeds (if isUpdate then .update else .insert) t ∧ (isUpdate ∨ 0 ≤ toInt32 outRowId.val) then
      0 ≤ (addOrUpdateRightRecordEx env outRowId isUpdate key info ⟨rows, some rows, t⟩).1 ∧
        (addOrUpdateRightRecordEx env outRowId isUpdate key info ⟨rows, some rows, t⟩).2 =
          ⟨rows, some (if isUpdate then rows.map fun r =>
              if r.hasKey { key with uid := info.uid } then info.values key.deviceName key.bundleName key.tokenId else r
            else rows ++ [info.values key.deviceName key.bundleName key.tokenId]), t + 1⟩
    else
      (addOrUpdateRightRecordEx env outRowId isUpdate key info ⟨rows, some rows, t⟩).1 < 0 ∧
        (addOrUpdateRightRecordEx env outRowId isUpdate key info ⟨rows, some rows, t⟩).2.rows = rows ∧
        (addOrUpdateRightRecordEx env outRowId isUpdate key info ⟨rows, some rows, t⟩).2.txn = none := by
  cases isUpdate with
  | true =>
    rcases hu : env.succeeds .update t with - | -
    · simp [addOrUpdateRightRecordEx, update, rollBack, StoreEnv.call, RightDb.tick, RightErr.code, hstore, hu]
    · simp [addOrUpdateRightRecordEx, update, StoreEnv.call, RightDb.tick, RightDb.table, hstore, hu]
  | false =>
    rcases hi : env.succeeds .insert t with - | -
    · have hneg : toInt32 RightErr.rdbExecuteFailture.code < 0 := by decide
      simp [addOrUpdateRightRecordEx, insert, rollBack, StoreEnv.call, RightDb.tick, hstore, hi, hneg]
    · by_cases hid : 0 ≤ toInt32 outRowId.val
      · simp [addOrUpdateRightRecordEx, insert, StoreEnv.call, RightDb.tick, RightDb.table, hstore, hi, hid,
          Int.not_lt.mpr hid]
      · -- The row was inserted, but its id looks like an error.
        have hneg : toInt32 outRowId.val < 0 := Int.not_le.mp hid
        simp [addOrUpdateRightRecordEx, insert, rollBack, StoreEnv.call, RightDb.tick, hstore, hi, hid, hneg]

theorem addOrUpdateRightRecord_spec (env : StoreEnv) (outRowId : RowId) (key : RightKey) (info : UsbRightAppInfo)
    (db : RightDb) :
    if env.grants (db.rows.any fun r => r.hasKey key) db.calls ∧
        ((db.rows.any fun r => r.hasKey key) ∨ 0 ≤ toInt32 outRowId.val) then
      (addOrUpdateRightRecord env outRowId key info db).1 = 0 ∧
        (addOrUpdateRightRecord env outRowId key info db).2.rows = granted key info db.rows ∧
        (addOrUpdateRightRecord env outRowId key info db).2.txn = none
    else
      (addOrUpdateRightRecord env outRowId key info db).1 < 0 ∧
        (addOrUpdateRightRecord env outRowId key info db).2.rows = db.rows ∧
        (db.txn = none → (addOrUpdateRightRecord env outRowId key info db).2.txn = none) := by
  rcases hs : env.store with - | -
  · simp [addOrUpdateRightRecord, beginTransaction, StoreEnv.grants, RightErr.code, hs]
  rcases hb : env.succeeds .beginTransaction db.calls with - | -
  · simp [addOrUpdateRightRecord, beginTransaction, StoreEnv.grants, StoreEnv.call, RightDb.tick, RightErr.code, hs, hb]
  rcases hq : env.succeeds (.query none) (db.calls + 1) with - | -
  · simp [addOrUpdateRightRecord, beginTransaction, checkIfNeedUpdateEx, query, rollBack, StoreEnv.grants,
      StoreEnv.call, RightDb.tick, RightErr.code, hs, hb, hq]
  rcases hr : env.succeeds .getRowCount (db.calls + 2) with - | -
  · simp [addOrUpdateRightRecord, beginTransaction, checkIfNeedUpdateEx, query, rollBack, StoreEnv.grants,
      StoreEnv.call, RightDb.tick, RightErr.code, hs, hb, hq, hr]
  have hex := addOrUpdateRightRecordEx_spec env hs outRowId (db.rows.any fun r => r.hasKey key) key info db.rows
    (db.calls + 3)
  simp only [addOrUpdateRightRecord, beginTransaction, checkIfNeedUpdateEx, query, StoreEnv.call, RightDb.tick,
    RightDb.table, StoreEnv.grants, hs, hb, hq, hr, Option.getD_some, filter_length_pos, Bool.not_true,
    Bool.false_eq_true, if_false, if_true, Bool.true_and]
  generalize addOrUpdateRightRecordEx env outRowId _ key info ⟨db.rows, some db.rows, db.calls + 3⟩ = result at hex ⊢
  obtain ⟨ret, db'⟩ := result
  simp only at hex ⊢
  by_cases hdone : env.succeeds (if (db.rows.any fun r => r.hasKey key) then .update else .insert) (db.calls + 3) ∧
      ((db.rows.any fun r => r.hasKey key) ∨ 0 ≤ toInt32 outRowId.val)
  · rw [if_pos hdone] at hex
    obtain ⟨hret, rfl⟩ := hex
    rcases hc : env.succeeds .commit (db.calls + 4) with - | -
    · simp [commit, rollBack, StoreEnv.call, RightDb.tick, RightErr.code, hs, hc, Int.not_lt.mpr hret]
    · simpa [commit, StoreEnv.call, RightDb.tick, RightDb.table, granted, hs, hc, Int.not_lt.mpr hret] using hdone
  · rw [if_neg hdone] at hex
    obtain ⟨hret, hrows, htxn⟩ := hex
    have hno : ¬ ((env.succeeds (if (db.rows.any fun r => r.hasKey key) then .update else .insert) (db.calls + 3) &&
        env.succeeds .commit (db.calls + 4)) = true ∧
        ((db.rows.any fun r => r.hasKey key) ∨ 0 ≤ toInt32 outRowId.val)) := by
      rintro ⟨hcalls, hid⟩
      exact hdone ⟨(Bool.and_eq_true _ _ ▸ hcalls).1, hid⟩
    rw [if_neg hno, if_pos hret]
    exact ⟨hret, hrows, fun _ => htxn⟩

/-! ## Keys -/

def RightRow.key (r : RightRow) : RightKey := ⟨r.uid, r.deviceName, r.bundleName, r.tokenId⟩

theorem hasKey_iff (r : RightRow) (k : RightKey) : r.hasKey k = true ↔ r.key = k := by
  obtain ⟨uid, dev, bundle, token⟩ := k
  simp [RightRow.hasKey, RightRow.key, and_assoc]

theorem hasKey_other (r : RightRow) (key k : RightKey) (hk : k ≠ key) (hr : r.hasKey key) : r.hasKey k = false := by
  rw [Bool.eq_false_iff, Ne, hasKey_iff, (hasKey_iff r key).mp hr]
  exact Ne.symm hk

def rowsOf (key : RightKey) (rows : List RightRow) : List RightRow := rows.filter fun r => r.hasKey key

def OneRowPerKey (rows : List RightRow) : Prop := ∀ key, (rowsOf key rows).length ≤ 1

theorem rowsOf_filter (key : RightKey) (p : RightRow → Bool) (rows : List RightRow) :
    rowsOf key (rows.filter p) = (rowsOf key rows).filter p := by
  simp only [rowsOf, List.filter_filter, Bool.and_comm]

theorem OneRowPerKey.filter {rows : List RightRow} (h : OneRowPerKey rows) (p : RightRow → Bool) :
    OneRowPerKey (rows.filter p) := by
  intro key
  rw [rowsOf_filter]
  exact Nat.le_trans (List.length_filter_le _ _) (h key)

theorem rowsOf_eq_nil (key : RightKey) (rows : List RightRow) (h : (rows.any fun r => r.hasKey key) = false) :
    rowsOf key rows = [] := by
  rw [rowsOf, List.filter_eq_nil_iff]
  simpa using h

/-! ## What a grant does to the rows of a key -/

section Replace

variable {α : Type} (p q : α → Bool) (v : α) (l : List α)

theorem filter_replace_of_disjoint (hv : q v = false) (hpq : ∀ a, p a → q a = false) :
    (l.map fun a => if p a then v else a).filter q = l.filter q := by
  induction l with
  | nil => rfl
  | cons a l ih =>
    by_cases ha : p a
    · simp [ha, hv, hpq a ha, ih]
    · simp [ha, List.filter_cons, ih]

theorem filter_replace_self (hv : p v) :
    (l.map fun a => if p a then v else a).filter p = (l.filter p).map fun _ => v := by
  induction l with
  | nil => rfl
  | cons a l ih =>
    by_cases ha : p a
    · simp [ha, hv, ih]
    · simp [ha, ih]

end Replace

section Granted

variable (key : RightKey) (info : UsbRightAppInfo) (huid : info.uid = key.uid) (rows : List RightRow)
include huid

theorem values_key : (info.values key.deviceName key.bundleName key.tokenId).key = key := by
  simp [UsbRightAppInfo.values, RightRow.key, huid]

theorem rowsOf_granted_other (k : RightKey) (hk : k ≠ key) : rowsOf k (granted key info rows) = rowsOf k rows := by
  have hvalues : (info.values key.deviceName key.bundleName key.tokenId).hasKey k = false :=
    hasKey_other _ key k hk ((hasKey_iff _ key).mpr (values_key key info huid))
  unfold granted
  simp only [huid]
  split
  · exact filter_replace_of_disjoint _ _ _ _ hvalues fun r hr => hasKey_other r key k hk hr
  · simp [rowsOf, List.filter_append, hvalues]

theorem rowsOf_granted_self (hone : (rowsOf key rows).length ≤ 1) :
    rowsOf key (granted key info rows) = [info.values key.deviceName key.bundleName key.tokenId] := by
  have hvalues := (hasKey_iff _ key).mpr (values_key key info huid)
  unfold granted
  simp only [huid]
  split
  · rename_i hany
    have hreplaced := filter_replace_self (fun r => RightRow.hasKey r key) _ rows hvalues
    have hlength : (rowsOf key rows).length = 1 := by
      obtain ⟨r, hr, hkey⟩ := List.any_eq_true.mp hany
      have : 0 < (rowsOf key rows).length := List.length_pos_of_mem (List.mem_filter.mpr ⟨hr, hkey⟩)
      omega
    obtain ⟨r, hr⟩ := List.length_eq_one_iff.mp hlength
    rw [rowsOf] at hr ⊢
    rw [hreplaced, hr]
    rfl
  · rename_i hany
    rw [Bool.not_eq_true] at hany
    have hnil := rowsOf_eq_nil key rows hany
    rw [rowsOf] at hnil ⊢
    simp [List.filter_append, hnil, hvalues]

theorem oneRowPerKey_granted (hone : OneRowPerKey rows) : OneRowPerKey (granted key info rows) := by
  intro k
  by_cases hk : k = key
  · rw [hk, rowsOf_granted_self key info huid rows (hone key)]
    exact Nat.le_refl 1
  · rw [rowsOf_granted_other key info huid rows k hk]
    exact hone k

end Granted

/-! ## A check sees only the rows of its key -/

theorem queryInTransaction_congr (env : StoreEnv) (app : Option String) (p : RightRow → Bool) (db db' : RightDb)
    (hcalls : db.calls = db'.calls) (hrows : db.rows.filter p = db'.rows.filter p) :
    (queryInTransaction env app p db).1 = (queryInTransaction env app p db').1 ∧
      (queryInTransaction env app p db).2.calls = (queryInTransaction env app p db').2.calls := by
  obtain ⟨hret, -, hafter⟩ := queryInTransaction_eq env app p db
  obtain ⟨hret', -, hafter'⟩ := queryInTransaction_eq env app p db'
  rw [hret, hret', hafter, hafter', hcalls, hrows]
  exact ⟨rfl, rfl⟩

theorem readRows_congr (env : StoreEnv) (rows : List RightRow) (db db' : RightDb) (hcalls : db.calls = db'.calls) :
    (readRows env rows db).1 = (readRows env rows db').1 := by
  induction rows generalizing db db' with
  | nil => rfl
  | cons row rest ih =>
    have hrest := ih db.tick.tick db'.tick.tick (by simp [RightDb.tick, hcalls])
    rcases hgo : env.succeeds .goToRow db'.calls with - | -
    · simp [readRows, StoreEnv.call, hcalls, hgo]
    · rcases hget : env.succeeds .getRow (db'.calls + 1) with - | -
      all_goals simpa [readRows, StoreEnv.call, RightDb.tick, hcalls, hgo, hget] using hrest

theorem queryAndGetResult_congr (env : StoreEnv) (app : Option String) (p : RightRow → Bool) (db db' : RightDb)
    (hcalls : db.calls = db'.calls) (hrows : db.rows.filter p = db'.rows.filter p) :
    (queryAndGetResult env app p db).1 = (queryAndGetResult env app p db').1 := by
  obtain ⟨hret, hafter⟩ := queryInTransaction_congr env app p db db' hcalls hrows
  unfold queryAndGetResult
  rcases hq : queryInTransaction env app p db with ⟨ret, db₁⟩
  rcases hq' : queryInTransaction env app p db' with ⟨ret', db₁'⟩
  rw [hq, hq'] at hret hafter
  obtain rfl : ret = ret' := hret
  simp only at hafter
  rcases ret with e | resultSet
  · rfl
  · have hread := readRows_congr env resultSet db₁.tick db₁'.tick (by simp [RightDb.tick, hafter])
    rcases hinfo : env.succeeds .getTableInfo db₁'.calls with - | -
    · simp [StoreEnv.call, hafter, hinfo]
    · simp [StoreEnv.call, hafter, hinfo, hread]

theorem isRecordExpired_congr (env : StoreEnv) (key : RightKey) (t : UInt64) (db db' : RightDb)
    (hcalls : db.calls = db'.calls) (hrows : rowsOf key db.rows = rowsOf key db'.rows) :
    (isRecordExpired env key t db).1 = (isRecordExpired env key t db').1 := by
  have hquery := queryAndGetResult_congr env none (fun r => r.hasKey key) db db' hcalls hrows
  unfold isRecordExpired queryRightRecord
  rcases hq : queryAndGetResult env none (fun r => r.hasKey key) db with ⟨ret, db₁⟩
  rcases hq' : queryAndGetResult env none (fun r => r.hasKey key) db' with ⟨ret', db₁'⟩
  rw [hq, hq'] at hquery
  obtain rfl : ret = ret' := hquery
  cases ret <;> rfl

theorem tidyExpired_congr (env : RightEnv) (key : RightKey) (db db' : RightDb) (hcalls : db.calls = db'.calls)
    (hrows : rowsOf key db.rows = rowsOf key db'.rows) :
    (tidyUpRight env tightUpUsbRightRecordExpired db).calls = (tidyUpRight env tightUpUsbRightRecordExpired db').calls ∧
      rowsOf key (tidyUpRight env tightUpUsbRightRecordExpired db).rows =
        rowsOf key (tidyUpRight env tightUpUsbRightRecordExpired db').rows := by
  unfold tidyUpRight
  simp only [tightUpUsbRightRecordExpired, Bool.false_eq_true, if_false, if_true]
  split
  · exact ⟨hcalls, hrows⟩
  · unfold cleanUpRightNormalExpired deleteNormalExpiredRightRecord
    simp only [(deleteAndNoOtherOperation_spec env.toStoreEnv _ _).1,
      (deleteAndNoOtherOperation_spec env.toStoreEnv _ _).2.2, hcalls]
    refine ⟨trivial, ?_⟩
    split
    · rw [rowsOf_filter, rowsOf_filter, hrows]
    · exact hrows

theorem hasRight_congr (env : RightEnv) (key : RightKey) (db db' : RightDb) (hcalls : db.calls = db'.calls)
    (hrows : rowsOf key db.rows = rowsOf key db'.rows) : (hasRight env key db).1 = (hasRight env key db').1 := by
  obtain ⟨htidyCalls, htidyRows⟩ := tidyExpired_congr env key db db' hcalls hrows
  unfold hasRight
  split
  · rfl
  · simp only [isRecordExpired_congr env.toStoreEnv key env.now _ _ htidyCalls htidyRows]

/-! ## Runs -/

/-- Every operation comes with what the store does during it. -/
inductive RecordOp
  | addOrUpdate (env : StoreEnv) (outRowId : RowId) (key : RightKey) (info : UsbRightAppInfo)
  | deleteRight (env : StoreEnv) (key : RightKey)
  | deleteDevice (env : StoreEnv) (uid : Int) (deviceName : String)
  | deleteApp (env : StoreEnv) (uid : Int) (bundleName : String)
  | deleteApps (env : StoreEnv) (uid : Int) (bundleNames : List String)
  | deleteUid (env : StoreEnv) (uid : Int)
  | deleteNormalExpired (env : StoreEnv) (uid : Int) (expiredTime : UInt64)
  | deleteValidPeriod (env : StoreEnv) (validPeriod : Int) (deviceName : String)

def RecordOp.step : RecordOp → RightDb → RightDb
  | .addOrUpdate env outRowId key info, db => (addOrUpdateRightRecord env outRowId key info db).2
  | .deleteRight env key, db => (deleteRightRecord env key db).2
  | .deleteDevice env uid deviceName, db => (deleteDeviceRightRecord env uid deviceName db).2
  | .deleteApp env uid bundleName, db => (deleteAppRightRecord env uid bundleName db).2
  | .deleteApps env uid bundleNames, db => (deleteAppsRightRecord env uid bundleNames db).2
  | .deleteUid env uid, db => (deleteUidRightRecord env uid db).2
  | .deleteNormalExpired env uid expiredTime, db => (deleteNormalExpiredRightRecord env uid expiredTime db).2
  | .deleteValidPeriod env validPeriod deviceName, db => (deleteValidPeriodRightRecord env validPeriod deviceName db).2

/-- Every caller passes the user of `info`. -/
def RecordOp.WellCalled : RecordOp → RightDb → Prop
  | .addOrUpdate _ _ key info, _ => info.uid = key.uid
  | _, _ => True

def RecordOp.key? : RecordOp → Option RightKey
  | .addOrUpdate _ _ key _ => some key
  | .deleteRight _ key => some key
  | _ => none

theorem addOrUpdateRightRecord_rows (env : StoreEnv) (outRowId : RowId) (key : RightKey) (info : UsbRightAppInfo)
    (db : RightDb) :
    (addOrUpdateRightRecord env outRowId key info db).2.rows = granted key info db.rows ∨
      (addOrUpdateRightRecord env outRowId key info db).2.rows = db.rows := by
  have hspec := addOrUpdateRightRecord_spec env outRowId key info db
  split at hspec
  · exact .inl hspec.2.1
  · exact .inr hspec.2.1

theorem oneRowPerKey_delete (env : StoreEnv) (p : RightRow → Bool) (db : RightDb) (h : OneRowPerKey db.rows) :
    OneRowPerKey (deleteAndNoOtherOperation env p db).2.rows := by
  rw [(deleteAndNoOtherOperation_spec env p db).1]
  split
  · exact h.filter _
  · exact h

theorem RecordOp.step_oneRowPerKey (op : RecordOp) (db : RightDb) (hop : op.WellCalled db)
    (h : OneRowPerKey db.rows) : OneRowPerKey (op.step db).rows := by
  cases op with
  | addOrUpdate env outRowId key info =>
    rw [RecordOp.step]
    obtain hrows | hrows := addOrUpdateRightRecord_rows env outRowId key info db
    · rw [hrows]
      exact oneRowPerKey_granted key info hop db.rows h
    · rw [hrows]
      exact h
  | deleteApps env uid bundleNames =>
    rw [RecordOp.step, deleteAppsRightRecord, deleteByPredicates_snd]
    exact oneRowPerKey_delete env _ db h
  | deleteRight env key => exact oneRowPerKey_delete env _ db h
  | deleteDevice env uid deviceName => exact oneRowPerKey_delete env _ db h
  | deleteApp env uid bundleName => exact oneRowPerKey_delete env _ db h
  | deleteUid env uid => exact oneRowPerKey_delete env _ db h
  | deleteNormalExpired env uid expiredTime => exact oneRowPerKey_delete env _ db h
  | deleteValidPeriod env validPeriod deviceName => exact oneRowPerKey_delete env _ db h

theorem rowsOf_delete_other (env : StoreEnv) (key k : RightKey) (hk : k ≠ key) (db : RightDb) :
    rowsOf k (deleteRightRecord env key db).2.rows = rowsOf k db.rows := by
  rw [deleteRightRecord, (deleteAndNoOtherOperation_spec env _ db).1]
  split
  · rw [rowsOf_filter, List.filter_eq_self]
    intro r hr
    have hrk : r.hasKey k := (List.mem_filter.mp hr).2
    rw [hasKey_other r k key (Ne.symm hk) hrk]
    rfl
  · rfl

theorem RecordOp.step_rowsOf_other (op : RecordOp) (db : RightDb) (hop : op.WellCalled db) (key k : RightKey)
    (hkey : op.key? = some key) (hk : k ≠ key) : rowsOf k (op.step db).rows = rowsOf k db.rows := by
  cases op with
  | addOrUpdate env outRowId key' info =>
    obtain rfl := Option.some.inj hkey
    rw [RecordOp.step]
    obtain hrows | hrows := addOrUpdateRightRecord_rows env outRowId key' info db
    · rw [hrows]
      exact rowsOf_granted_other key' info hop db.rows k hk
    · rw [hrows]
  | deleteRight env key' =>
    obtain rfl := Option.some.inj hkey
    exact rowsOf_delete_other env key' k hk db
  | _ => cases hkey

def RightDb.Empty (db : RightDb) : Prop := db.rows = [] ∧ db.txn = none

/-- A key has at most one row in every run, and an operation on one key changes neither the rows of
another key nor the answer of any check of it, whatever the store does during the check. -/
theorem one_row_per_key (db : RightDb) (h : Run.Reachable RightDb.Empty RecordOp.step RecordOp.WellCalled db) :
    OneRowPerKey db.rows ∧
      ∀ (op : RecordOp) (key k : RightKey), op.WellCalled db → op.key? = some key → k ≠ key →
        rowsOf k (op.step db).rows = rowsOf k db.rows ∧
          ∀ (env : RightEnv) (calls : Nat), (hasRight env k ⟨(op.step db).rows, none, calls⟩).1 =
            (hasRight env k ⟨db.rows, none, calls⟩).1 := by
  refine ⟨?_, ?_⟩
  · refine h.invariant ?_ fun op db hop hdb => op.step_oneRowPerKey db hop hdb
    intro db hempty key
    rw [hempty.1]
    exact Nat.zero_le 1
  · intro op key k hop hkey hk
    have hrows := op.step_rowsOf_other db hop key k hkey hk
    exact ⟨hrows, fun env calls => hasRight_congr env k _ _ rfl hrows⟩

def storeAnswers : StoreEnv := ⟨true, fun _ _ => true⟩

def grantedAt (uid : Int) (requestTime : UInt64) : UsbRightAppInfo := ⟨uid, 5, 5, requestTime, usbRightValidPeriodSet⟩

theorem one_row_per_key_granted_twice :
    let key : RightKey := ⟨100, "7-1- ", "com.example.reader", "537"⟩
    let failing : StoreEnv := ⟨true, fun c _ => c ≠ .commit⟩
    let first := (RecordOp.addOrUpdate storeAnswers ⟨1, by decide, by decide⟩ key (grantedAt 100 50)).step ⟨[], none, 0⟩
    let second := (RecordOp.addOrUpdate failing ⟨2, by decide, by decide⟩ key (grantedAt 100 60)).step first
    let third := (RecordOp.addOrUpdate storeAnswers ⟨2, by decide, by decide⟩ key (grantedAt 100 70)).step second
    OneRowPerKey third.rows ∧ third.rows.length = 1 := by
  intro key failing first second third
  have hfirst : Run.Reachable RightDb.Empty RecordOp.step RecordOp.WellCalled first :=
    .step _ (.init ⟨rfl, rfl⟩) rfl
  refine ⟨(one_row_per_key third (.step _ (.step _ hfirst rfl) rfl)).1, ?_⟩
  decide +kernel

/-! ## All or nothing -/

theorem toInt32_nonneg (n : Nat) : 0 ≤ toInt32 n ↔ n % 2 ^ 32 < 2 ^ 31 := by
  unfold toInt32
  rw [Int.bmod_def]
  split <;> omega

theorem ofInt_putLong (v : UInt64) : UInt64.ofInt (putLong v) = v := by
  have hlt := v.toNat_lt
  apply UInt64.toNat_inj.mp
  have hmod := toNat_ofInt (putLong v)
  unfold putLong at hmod ⊢
  rw [Int.bmod_def] at hmod ⊢
  split at hmod <;> split <;> omega

/-- Read back as unsigned integers, the columns are those of `info`. -/
structure RightRow.Carries (r : RightRow) (info : UsbRightAppInfo) : Prop where
  uid : r.uid = info.uid
  installTime : UInt64.ofInt r.installTime = info.installTime
  updateTime : UInt64.ofInt r.updateTime = info.updateTime
  requestTime : UInt64.ofInt r.requestTime = info.requestTime
  validPeriod : UInt64.ofInt r.validPeriod = info.validPeriod

theorem values_carries (info : UsbRightAppInfo) (deviceName bundleName tokenId : String) :
    (info.values deviceName bundleName tokenId).Carries info := by
  constructor
  all_goals simp only [UsbRightAppInfo.values, ofInt_putLong]

section AllOrNothing

variable (env : StoreEnv) (outRowId : RowId) (key : RightKey) (info : UsbRightAppInfo) (rows : List RightRow)
  (calls : Nat)

/-- A grant on a table without an open transaction. -/
structure AllOrNothing : Prop where
  failed : (addOrUpdateRightRecord env outRowId key info ⟨rows, none, calls⟩).1 < 0 →
    (addOrUpdateRightRecord env outRowId key info ⟨rows, none, calls⟩).2.rows = rows ∧
      (addOrUpdateRightRecord env outRowId key info ⟨rows, none, calls⟩).2.txn = none
  succeeded : env.grants (rows.any fun r => r.hasKey key) calls →
    0 ≤ (addOrUpdateRightRecord env outRowId key info ⟨rows, none, calls⟩).1 ∧
      ∃ r, rowsOf { key with uid := info.uid } (addOrUpdateRightRecord env outRowId key info ⟨rows, none, calls⟩).2.rows =
        [r] ∧ r.Carries info

/-- A grant for which every call of the store succeeds is a success exactly if the key has a row
already, or the id of the new row is not negative in 32 bits. Nothing else breaks the law. -/
theorem grant_all_or_nothing_iff (hone : OneRowPerKey rows) (huid : info.uid = key.uid) :
    AllOrNothing env outRowId key info rows calls ↔
      (env.grants (rows.any fun r => r.hasKey key) calls →
        (∃ r ∈ rows, r.hasKey key) ∨ outRowId.val % 2 ^ 32 < 2 ^ 31) := by
  have hspec := addOrUpdateRightRecord_spec env outRowId key info ⟨rows, none, calls⟩
  simp only at hspec
  rw [← toInt32_nonneg, ← List.any_eq_true]
  constructor
  · intro h hgrants
    by_contra hid
    rw [if_neg fun hc => hid hc.2] at hspec
    exact absurd (h.succeeded hgrants).1 (Int.not_le.mpr hspec.1)
  · intro h
    by_cases hgrants : env.grants (rows.any fun r => r.hasKey key) calls
    · rw [if_pos ⟨hgrants, h hgrants⟩] at hspec
      obtain ⟨hret, hrows, -⟩ := hspec
      refine ⟨fun hneg => ?_, fun _ => ⟨?_, ?_⟩⟩
      · rw [hret] at hneg
        exact absurd hneg (Int.lt_irrefl 0)
      · exact Int.le_of_eq hret.symm
      · refine ⟨info.values key.deviceName key.bundleName key.tokenId, ?_, values_carries _ _ _ _⟩
        rw [hrows, huid]
        exact rowsOf_granted_self key info huid rows (hone key)
    · rw [if_neg fun hc => hgrants hc.1] at hspec
      exact ⟨fun _ => ⟨hspec.2.1, hspec.2.2 trivial⟩, fun hg => absurd hg hgrants⟩

end AllOrNothing

theorem grant_all_or_nothing_first_row :
    AllOrNothing storeAnswers ⟨1, by decide, by decide⟩ ⟨100, "7-1- ", "com.example.reader", "537"⟩ (grantedAt 100 50)
      [] 0 := by
  refine (grant_all_or_nothing_iff _ _ _ _ [] 0 ?_ rfl).mpr fun _ => .inr (by decide)
  intro key
  exact Nat.zero_le 1

/-- The row with the id `2 ^ 31` is inserted and rolled back, and the grant fails. -/
theorem grant_lost_at_row_id :
    ¬ AllOrNothing storeAnswers ⟨2 ^ 31, by decide, by decide⟩ ⟨100, "7-1- ", "com.example.reader", "537"⟩
      (grantedAt 100 50) [] 0 := by
  intro h
  exact absurd (h.succeeded (by decide +kernel)).1 (by decide +kernel)

end UsbManager.Rights
