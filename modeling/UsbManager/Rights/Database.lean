import Mathlib.Data.List.Basic

/-!
# The rights table and its store

`usb_right_database.cpp` over a relational store. Every call of the store may fail on its own: its
outcome depends on what is called and on how many calls came before. The store is transactional:
a statement sees and changes the table of the open transaction, and only a commit that succeeds
makes the change last.
-/

namespace UsbManager.Rights

/-- The negative codes of `UsbRightErrCode`. -/
inductive RightErr
  | failure
  | rdbExecuteFailture
  | rdbNoInit
  | rdbEmpty
  deriving DecidableEq, Repr

/-- A row of `usbRightInfoTable`. Integer columns are 64 bits wide and signed. -/
structure RightRow where
  uid : Int
  installTime : Int
  updateTime : Int
  requestTime : Int
  validPeriod : Int
  deviceName : String
  bundleName : String
  tokenId : String
  deriving DecidableEq, Repr

/-- The calls of the store that may fail. -/
inductive StoreCall
  | beginTransaction
  | commit
  | rollBack
  | delete
  | insert
  | update
  /-- A query for the records of one application names it. -/
  | query (app : Option String)
  | getRowCount
  | getTableInfo
  | goToRow
  | getRow
  deriving DecidableEq, Repr

/-- What the store does. Every call is told how many calls came before. -/
structure StoreEnv where
  /-- `store_` is not null. -/
  store : Bool
  /-- Does this call succeed, if it is the `n`-th? -/
  succeeds : StoreCall → Nat → Bool

/-- `txn` is the table as the open transaction sees it. -/
structure RightDb where
  rows : List RightRow
  txn : Option (List RightRow)
  calls : Nat

def StoreEnv.call (env : StoreEnv) (c : StoreCall) (db : RightDb) : Bool := env.succeeds c db.calls

def RightDb.tick (db : RightDb) : RightDb := { db with calls := db.calls + 1 }

/-- The table as the next call sees it. -/
def RightDb.table (db : RightDb) : List RightRow := db.txn.getD db.rows

/-- What was left of an earlier transaction is gone. -/
def beginTransaction (env : StoreEnv) (db : RightDb) : Except RightErr Unit × RightDb :=
  if !env.store then (.error .rdbNoInit, db)
  else if env.call .beginTransaction db then (.ok (), { db.tick with txn := some db.rows })
  else (.error .rdbExecuteFailture, db.tick)

/-- A commit that fails leaves the transaction open. -/
def commit (env : StoreEnv) (db : RightDb) : Except RightErr Unit × RightDb :=
  if !env.store then (.error .rdbNoInit, db)
  else if env.call .commit db then (.ok (), { db.tick with rows := db.table, txn := none })
  else (.error .rdbExecuteFailture, db.tick)

/-- No caller looks at the result, and what was not committed is gone either way. -/
def rollBack (env : StoreEnv) (db : RightDb) : RightDb :=
  if !env.store then db else { db.tick with txn := none }

/-- The number of rows that are gone. -/
def delete (env : StoreEnv) (p : RightRow → Bool) (db : RightDb) : Except RightErr Nat × RightDb :=
  if !env.store then (.error .rdbNoInit, db)
  else if env.call .delete db then
    (.ok (db.table.countP p), { db.tick with txn := some (db.table.filter fun r => !p r) })
  else (.error .rdbExecuteFailture, db.tick)

/-- A null result set is `none`. -/
def query (env : StoreEnv) (app : Option String) (p : RightRow → Bool) (db : RightDb) :
    Option (List RightRow) × RightDb :=
  if !env.store then (none, db)
  else if env.call (.query app) db then (some (db.table.filter p), db.tick)
  else (none, db.tick)

/-! ## Transactions of the helper -/

/-- `DeleteAndNoOtherOperation` with a where clause. -/
def deleteAndNoOtherOperation (env : StoreEnv) (p : RightRow → Bool) (db : RightDb) : Except RightErr Unit × RightDb :=
  match beginTransaction env db with
  | (.error e, db) => (.error e, db)
  | (.ok _, db) =>
    match delete env p db with
    | (.error e, db) => (.error e, rollBack env db)
    | (.ok changedRows, db) =>
      match commit env db with
      | (.error e, db) => (.error (if changedRows = 0 then .rdbEmpty else e), rollBack env db)
      | (.ok _, db) => (if changedRows = 0 then .error .rdbEmpty else .ok (), db)

/-- `DeleteAndNoOtherOperation` with predicates does not look at the number of rows. -/
def deleteByPredicates (env : StoreEnv) (p : RightRow → Bool) (db : RightDb) : Except RightErr Unit × RightDb :=
  match beginTransaction env db with
  | (.error e, db) => (.error e, db)
  | (.ok _, db) =>
    match delete env p db with
    | (.error e, db) => (.error e, rollBack env db)
    | (.ok _, db) =>
      match commit env db with
      | (.error e, db) => (.error e, rollBack env db)
      | (.ok _, db) => (.ok (), db)

/-- The transaction of every query: the result set is read after the commit. -/
def queryInTransaction (env : StoreEnv) (app : Option String) (p : RightRow → Bool) (db : RightDb) :
    Except RightErr (List RightRow) × RightDb :=
  match beginTransaction env db with
  | (.error e, db) => (.error e, db)
  | (.ok _, db) =>
    match query env app p db with
    | (none, db) => (.error .rdbExecuteFailture, rollBack env db)
    | (some resultSet, db) =>
      match commit env db with
      | (.error e, db) => (.error e, rollBack env db)
      | (.ok _, db) => (.ok resultSet, db)

/-- The loop of `GetResultRightRecordEx`: a row that cannot be reached ends it, a row that cannot be
read is left out. A result set is not ended before its last row. -/
def readRows (env : StoreEnv) : List RightRow → RightDb → List RightRow × RightDb
  | [], db => ([], db)
  | row :: rest, db =>
    if !env.call .goToRow db then ([], db.tick)
    else
      let read := env.call .getRow db.tick
      let (infos, db) := readRows env rest db.tick.tick
      (if read then row :: infos else infos, db)

/-- The records are read after the transaction has ended. -/
def queryAndGetResult (env : StoreEnv) (app : Option String) (p : RightRow → Bool) (db : RightDb) :
    Except RightErr (List RightRow) × RightDb :=
  match queryInTransaction env app p db with
  | (.error e, db) => (.error e, db)
  | (.ok resultSet, db) =>
    if !env.call .getTableInfo db then (.error .rdbExecuteFailture, db.tick)
    else
      let (infos, db) := readRows env resultSet db.tick
      (.ok infos, db)

/-- The loop of `QueryAndGetResultColumnValues`: here a row that cannot be reached is an error. -/
def readColumn {α : Type} (env : StoreEnv) (column : RightRow → α) :
    List RightRow → RightDb → Except RightErr (List α) × RightDb
  | [], db => (.ok [], db)
  | row :: rest, db =>
    if !env.call .goToRow db then (.error .rdbExecuteFailture, db.tick)
    else
      let read := env.call .getRow db.tick
      match readColumn env column rest db.tick.tick with
      | (.error e, db) => (.error e, db)
      | (.ok values, db) => (.ok (if read then column row :: values else values), db)

/-- Each value of the column once. -/
def queryAndGetResultColumnValues {α : Type} [DecidableEq α] (env : StoreEnv) (p : RightRow → Bool)
    (column : RightRow → α) (db : RightDb) : Except RightErr (List α) × RightDb :=
  match queryInTransaction env none p db with
  | (.error e, db) => (.error e, db)
  | (.ok resultSet, db) =>
    if !env.call .getTableInfo db then (.error .rdbExecuteFailture, db.tick)
    else readColumn env column (resultSet.pwFilter fun r r' => column r ≠ column r') db.tick

/-! ## What a transaction does -/

/-- A deletion that starts at time `t` goes through. -/
def StoreEnv.deletes (env : StoreEnv) (t : Nat) : Bool :=
  env.store && env.succeeds .beginTransaction t && env.succeeds .delete (t + 1) && env.succeeds .commit (t + 2)

/-- When the next transaction starts after a deletion at time `t`: a failed statement or commit is
followed by a rollback. -/
def StoreEnv.afterDelete (env : StoreEnv) (t : Nat) : Nat :=
  if !env.store then t
  else if !env.succeeds .beginTransaction t then t + 1
  else if !env.succeeds .delete (t + 1) then t + 3
  else if !env.succeeds .commit (t + 2) then t + 4
  else t + 3

theorem deleteAndNoOtherOperation_spec (env : StoreEnv) (p : RightRow → Bool) (db : RightDb) :
    (deleteAndNoOtherOperation env p db).2.rows =
        (if env.deletes db.calls then db.rows.filter fun r => !p r else db.rows) ∧
      ((deleteAndNoOtherOperation env p db).1 = .ok () ↔ env.deletes db.calls ∧ ∃ r ∈ db.rows, p r) ∧
      (deleteAndNoOtherOperation env p db).2.calls = env.afterDelete db.calls := by
  have hcount : db.rows.countP p = 0 ↔ ¬ ∃ r ∈ db.rows, p r := by
    simp [List.countP_eq_zero]
  rcases hs : env.store with - | -
  · simp [deleteAndNoOtherOperation, beginTransaction, StoreEnv.deletes, StoreEnv.afterDelete, hs]
  rcases hb : env.succeeds .beginTransaction db.calls with - | -
  · simp [deleteAndNoOtherOperation, beginTransaction, StoreEnv.deletes, StoreEnv.afterDelete, StoreEnv.call,
      RightDb.tick, hs, hb]
  rcases hd : env.succeeds .delete (db.calls + 1) with - | -
  · simp [deleteAndNoOtherOperation, beginTransaction, delete, rollBack, StoreEnv.deletes, StoreEnv.afterDelete,
      StoreEnv.call, RightDb.tick, hs, hb, hd]
  rcases hc : env.succeeds .commit (db.calls + 2) with - | -
  · simp [deleteAndNoOtherOperation, beginTransaction, delete, commit, rollBack, StoreEnv.deletes,
      StoreEnv.afterDelete, StoreEnv.call, RightDb.tick, hs, hb, hd, hc]
  · by_cases hnone : db.rows.countP p = 0
    · simp [deleteAndNoOtherOperation, beginTransaction, delete, commit, StoreEnv.deletes, StoreEnv.afterDelete,
        StoreEnv.call, RightDb.tick, RightDb.table, hs, hb, hd, hc, hnone, hcount.mp hnone]
    · simp [deleteAndNoOtherOperation, beginTransaction, delete, commit, StoreEnv.deletes, StoreEnv.afterDelete,
        StoreEnv.call, RightDb.tick, RightDb.table, hs, hb, hd, hc, hnone, not_not.mp (mt hcount.mpr hnone)]

theorem deleteAndNoOtherOperation_sub (env : StoreEnv) (p : RightRow → Bool) (db : RightDb) :
    ∀ r ∈ (deleteAndNoOtherOperation env p db).2.rows, r ∈ db.rows := by
  intro r hr
  rw [(deleteAndNoOtherOperation_spec env p db).1] at hr
  split at hr
  · exact List.mem_of_mem_filter hr
  · exact hr

theorem deleteByPredicates_snd (env : StoreEnv) (p : RightRow → Bool) (db : RightDb) :
    (deleteByPredicates env p db).2 = (deleteAndNoOtherOperation env p db).2 := by
  unfold deleteByPredicates deleteAndNoOtherOperation
  rcases beginTransaction env db with ⟨e | u, db₁⟩
  · rfl
  simp only
  rcases delete env p db₁ with ⟨e | changedRows, db₂⟩
  · rfl
  simp only
  rcases commit env db₂ with ⟨e | u, db₃⟩
  · rfl
  · rfl

theorem deleteByPredicates_rows (env : StoreEnv) (p : RightRow → Bool) (db : RightDb) :
    (deleteByPredicates env p db).2.rows =
      if env.deletes db.calls then db.rows.filter fun r => !p r else db.rows := by
  rw [deleteByPredicates_snd]
  exact (deleteAndNoOtherOperation_spec env p db).1

/-- The error of a query at time `t`, if there is one, and the time after the query. -/
def StoreEnv.queryOutcome (env : StoreEnv) (app : Option String) (t : Nat) : Option RightErr × Nat :=
  if !env.store then (some .rdbNoInit, t)
  else if !env.succeeds .beginTransaction t then (some .rdbExecuteFailture, t + 1)
  else if !env.succeeds (.query app) (t + 1) then (some .rdbExecuteFailture, t + 3)
  else if !env.succeeds .commit (t + 2) then (some .rdbExecuteFailture, t + 4)
  else (none, t + 3)

theorem queryInTransaction_eq (env : StoreEnv) (app : Option String) (p : RightRow → Bool) (db : RightDb) :
    (queryInTransaction env app p db).1 = (env.queryOutcome app db.calls).1.elim (.ok (db.rows.filter p)) .error ∧
      (queryInTransaction env app p db).2.rows = db.rows ∧
      (queryInTransaction env app p db).2.calls = (env.queryOutcome app db.calls).2 := by
  rcases hs : env.store with - | -
  · simp [queryInTransaction, beginTransaction, StoreEnv.queryOutcome, hs]
  rcases hb : env.succeeds .beginTransaction db.calls with - | -
  · simp [queryInTransaction, beginTransaction, StoreEnv.queryOutcome, StoreEnv.call, RightDb.tick, hs, hb]
  rcases hq : env.succeeds (.query app) (db.calls + 1) with - | -
  · simp [queryInTransaction, beginTransaction, query, rollBack, StoreEnv.queryOutcome, StoreEnv.call, RightDb.tick,
      hs, hb, hq]
  rcases hc : env.succeeds .commit (db.calls + 2) with - | -
  · simp [queryInTransaction, beginTransaction, query, commit, rollBack, StoreEnv.queryOutcome, StoreEnv.call,
      RightDb.tick, hs, hb, hq, hc]
  · simp [queryInTransaction, beginTransaction, query, commit, StoreEnv.queryOutcome, StoreEnv.call, RightDb.tick,
      RightDb.table, hs, hb, hq, hc]

theorem queryInTransaction_spec (env : StoreEnv) (app : Option String) (p : RightRow → Bool) (db : RightDb) :
    (queryInTransaction env app p db).2.rows = db.rows ∧
      ∀ resultSet, (queryInTransaction env app p db).1 = .ok resultSet → resultSet = db.rows.filter p := by
  obtain ⟨hret, hrows, -⟩ := queryInTransaction_eq env app p db
  refine ⟨hrows, fun resultSet h => ?_⟩
  rw [hret] at h
  rcases ho : (env.queryOutcome app db.calls).1 with - | e
  all_goals rw [ho] at h
  · exact (Except.ok.inj h).symm
  · cases h

theorem readRows_spec (env : StoreEnv) (rows : List RightRow) (db : RightDb) :
    (readRows env rows db).2.rows = db.rows ∧ ∀ r ∈ (readRows env rows db).1, r ∈ rows := by
  induction rows generalizing db with
  | nil => simp [readRows]
  | cons row rest ih =>
    rw [readRows]
    split
    · simp [RightDb.tick]
    · obtain ⟨hrows, hsub⟩ := ih db.tick.tick
      refine ⟨hrows, fun r hr => ?_⟩
      simp only at hr
      split at hr
      · rcases List.mem_cons.mp hr with rfl | hr
        · exact List.mem_cons_self
        · exact List.mem_cons_of_mem row (hsub r hr)
      · exact List.mem_cons_of_mem row (hsub r hr)

theorem readRows_eq {env : StoreEnv} (hgo : ∀ n, env.succeeds .goToRow n = true)
    (hget : ∀ n, env.succeeds .getRow n = true) (rows : List RightRow) (db : RightDb) :
    (readRows env rows db).1 = rows := by
  induction rows generalizing db with
  | nil => rfl
  | cons row rest ih => simp [readRows, StoreEnv.call, hgo, hget, ih db.tick.tick]

theorem queryAndGetResult_spec (env : StoreEnv) (app : Option String) (p : RightRow → Bool) (db : RightDb) :
    (queryAndGetResult env app p db).2.rows = db.rows ∧
      ∀ infos, (queryAndGetResult env app p db).1 = .ok infos → ∀ r ∈ infos, r ∈ db.rows ∧ p r := by
  obtain ⟨hrows, hset⟩ := queryInTransaction_spec env app p db
  unfold queryAndGetResult
  rcases hq : queryInTransaction env app p db with ⟨ret, db'⟩
  rw [hq] at hrows hset
  rcases ret with e | resultSet
  · exact ⟨hrows, fun infos h => by cases h⟩
  simp only
  split
  · exact ⟨hrows, fun infos h => by cases h⟩
  · obtain ⟨hread, hsub⟩ := readRows_spec env resultSet db'.tick
    refine ⟨hread.trans hrows, fun infos h r hr => ?_⟩
    obtain rfl := Except.ok.inj h
    have hmem := hsub r hr
    rw [hset resultSet rfl, List.mem_filter] at hmem
    exact hmem

theorem queryAndGetResult_error {env : StoreEnv} {app : Option String} {db : RightDb} {e : RightErr}
    (hquery : (env.queryOutcome app db.calls).1 = some e) (p : RightRow → Bool) :
    (queryAndGetResult env app p db).1 = .error e := by
  obtain ⟨hret, -, -⟩ := queryInTransaction_eq env app p db
  unfold queryAndGetResult
  rcases hq : queryInTransaction env app p db with ⟨ret, db'⟩
  rw [hq, hquery] at hret
  obtain rfl : ret = .error e := hret
  rfl

theorem queryAndGetResult_ok {env : StoreEnv} {app : Option String} {db : RightDb}
    (hquery : (env.queryOutcome app db.calls).1 = none) (hinfo : ∀ n, env.succeeds .getTableInfo n = true)
    (hgo : ∀ n, env.succeeds .goToRow n = true) (hget : ∀ n, env.succeeds .getRow n = true) (p : RightRow → Bool) :
    (queryAndGetResult env app p db).1 = .ok (db.rows.filter p) := by
  obtain ⟨hret, -, -⟩ := queryInTransaction_eq env app p db
  unfold queryAndGetResult
  rcases hq : queryInTransaction env app p db with ⟨ret, db'⟩
  rw [hq, hquery] at hret
  obtain rfl : ret = .ok (db.rows.filter p) := hret
  simp [StoreEnv.call, hinfo, readRows_eq hgo hget]

/-! ## A store that answers -/

/-- Every call succeeds, apart from deletions, which may fail. -/
structure StoreEnv.Answers (env : StoreEnv) : Prop where
  store : env.store = true
  call : ∀ c n, c ≠ .delete → env.succeeds c n = true

theorem queryAndGetResult_answers {env : StoreEnv} (h : env.Answers) (app : Option String) (p : RightRow → Bool)
    (db : RightDb) : (queryAndGetResult env app p db).1 = .ok (db.rows.filter p) := by
  have hquery : (env.queryOutcome app db.calls).1 = none := by
    simp [StoreEnv.queryOutcome, h.store, h.call]
  refine queryAndGetResult_ok hquery (fun n => ?_) (fun n => ?_) (fun n => ?_) p
  all_goals simp [h.call]

structure StoreEnv.Works (env : StoreEnv) : Prop where
  store : env.store = true
  call : ∀ c n, env.succeeds c n = true

theorem StoreEnv.Works.answers {env : StoreEnv} (h : env.Works) : env.Answers := ⟨h.store, fun c n _ => h.call c n⟩

theorem StoreEnv.Works.deletes {env : StoreEnv} (h : env.Works) (t : Nat) : env.deletes t = true := by
  simp [StoreEnv.deletes, h.store, h.call]

/-! ## A store that only refuses to delete -/

/-- Every deletion fails, and nothing else does. -/
def StoreEnv.keepsRows (env : StoreEnv) : StoreEnv := { env with succeeds := fun c _ => c ≠ .delete }

theorem keepsRows_answers (env : StoreEnv) (hstore : env.store = true) : env.keepsRows.Answers :=
  ⟨hstore, fun _ _ hc => decide_eq_true hc⟩

theorem deleteAndNoOtherOperation_keepsRows (env : StoreEnv) (p : RightRow → Bool) (db : RightDb) :
    (deleteAndNoOtherOperation env.keepsRows p db).2.rows = db.rows := by
  have hno : env.keepsRows.deletes db.calls = false := by
    simp [StoreEnv.deletes, StoreEnv.keepsRows]
  rw [(deleteAndNoOtherOperation_spec env.keepsRows p db).1, hno]
  rfl

end UsbManager.Rights
