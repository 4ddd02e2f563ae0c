import UsbManager.Rights.Manager

/-!
# Expiry

Two rules decide that a record is too old: the check compares it with the clock in C++, and the
clean-up that every check starts deletes by an SQL predicate with a threshold, at a later reading of
the clock. On the records that the service writes they agree, so the clean-up cannot be seen.
-/

namespace UsbManager.Rights

/-! ## Who is entitled -/

/-- A record as the service writes it. -/
structure RightRow.Standard (r : RightRow) : Prop where
  requestTime : 0 ≤ r.requestTime ∧ r.requestTime < 2 ^ 63
  validPeriod : r.validPeriod = usbRightValidPeriodSet.toNat ∨ r.validPeriod = usbRightValidPeriodMin ∨
    r.validPeriod = usbRightValidPeriodMax

/-- The right was granted by then and its period has not passed. Two periods never pass. -/
def RightRow.ValidAt (r : RightRow) (t : Int) : Prop :=
  r.requestTime ≤ t ∧ (r.validPeriod = usbRightValidPeriodMin ∨ r.validPeriod = usbRightValidPeriodMax ∨
    t - r.requestTime < r.validPeriod)

/-- The console user is, and whoever has a valid record. -/
def Entitled (t : Int) (key : RightKey) (rows : List RightRow) : Prop :=
  key.uid = usbRightUseridConsole ∨
    ∃ r ∈ rows, r.uid = key.uid ∧ r.deviceName = key.deviceName ∧ r.bundleName = key.bundleName ∧
      r.tokenId = key.tokenId ∧ r.ValidAt t

theorem toNat_ofInt_of_lt (x : Int) (hlo : 0 ≤ x) (hhi : x < 2 ^ 63) : ((UInt64.ofInt x).toNat : Int) = x := by
  rw [toNat_ofInt]
  omega

theorem ofInt_eq_iff (x y : Int) (hx : 0 ≤ x ∧ x < 2 ^ 63) (hy : 0 ≤ y ∧ y < 2 ^ 63) :
    UInt64.ofInt x = UInt64.ofInt y ↔ x = y := by
  have hx' := toNat_ofInt_of_lt x hx.1 hx.2
  have hy' := toNat_ofInt_of_lt y hy.1 hy.2
  rw [← UInt64.toNat_inj]
  omega

theorem RightRow.Standard.period_bounds {r : RightRow} (hr : r.Standard) :
    0 ≤ r.validPeriod ∧ r.validPeriod < 2 ^ 63 := by
  rcases hr.validPeriod with h | h | h <;> rw [h] <;> decide

theorem isRowExpired_iff (r : RightRow) (hr : r.Standard) (t : UInt64) :
    isRowExpired r t = false ↔ r.ValidAt t.toNat := by
  have hreq := toNat_ofInt_of_lt r.requestTime hr.requestTime.1 hr.requestTime.2
  have hper := toNat_ofInt_of_lt r.validPeriod hr.period_bounds.1 hr.period_bounds.2
  have hmin := ofInt_eq_iff r.validPeriod usbRightValidPeriodMin hr.period_bounds (by decide)
  have hmax := ofInt_eq_iff r.validPeriod usbRightValidPeriodMax hr.period_bounds (by decide)
  unfold isRowExpired RightRow.ValidAt
  simp only [hmin, hmax]
  by_cases hfuture : t < UInt64.ofInt r.requestTime
  · -- The record is from the future.
    have hlt := UInt64.lt_iff_toNat_lt.mp hfuture
    simp only [hfuture, if_true, Bool.true_eq_false, false_iff, not_and]
    omega
  · have hle : UInt64.ofInt r.requestTime ≤ t := UInt64.not_lt.mp hfuture
    have hle' := UInt64.le_iff_toNat_le.mp hle
    have hsub := UInt64.toNat_sub_of_le t _ hle
    have hage : t - UInt64.ofInt r.requestTime < UInt64.ofInt r.validPeriod ↔
        (t.toNat : Int) - r.requestTime < r.validPeriod := by
      rw [UInt64.lt_iff_toNat_lt, hsub]
      omega
    simp only [hfuture, if_false, hage]
    have hpast : r.requestTime ≤ t.toNat := by omega
    by_cases hm : r.validPeriod = usbRightValidPeriodMin
    · simp [hm, hpast]
    by_cases hM : r.validPeriod = usbRightValidPeriodMax
    · simp [hM, hpast]
    · by_cases hyoung : (t.toNat : Int) - r.requestTime < r.validPeriod
      · simp [hm, hM, hyoung, hpast]
      · simp [hm, hM, hyoung]

theorem live_iff (r : RightRow) (hr : r.Standard) (t : UInt64) (key : RightKey) :
    live t key r = true ↔ r.uid = key.uid ∧ r.deviceName = key.deviceName ∧ r.bundleName = key.bundleName ∧
      r.tokenId = key.tokenId ∧ r.ValidAt t.toNat := by
  rw [live, Bool.and_eq_true, Bool.not_eq_true', isRowExpired_iff r hr t]
  simp [RightRow.hasKey, and_assoc]

theorem live_exists_iff (rows : List RightRow) (hrows : ∀ r ∈ rows, r.Standard) (t : UInt64) (key : RightKey)
    (hkey : key.uid ≠ usbRightUseridConsole) : (∃ r ∈ rows, live t key r) ↔ Entitled t.toNat key rows := by
  constructor
  · rintro ⟨r, hr, hlive⟩
    exact .inr ⟨r, hr, (live_iff r (hrows r hr) t key).mp hlive⟩
  · rintro (hconsole | ⟨r, hr, hvalid⟩)
    · exact absurd hconsole hkey
    · exact ⟨r, hr, (live_iff r (hrows r hr) t key).mpr hvalid⟩

/-! ## The clean-up -/

/-- The time before which a record is too old, not below zero. -/
def relativeExpiredTime (expiredTime : UInt64) : UInt64 :=
  if expiredTime ≤ usbRightValidPeriodSet then 0 else expiredTime - usbRightValidPeriodSet

/-- The where clause of `DeleteNormalExpiredRightRecord`. -/
def tooOld (uid : Int) (threshold : UInt64) (r : RightRow) : Bool :=
  r.uid = uid && r.requestTime < (threshold.toNat : Int) && r.validPeriod ≠ usbRightValidPeriodMin &&
    r.validPeriod ≠ usbRightValidPeriodMax

theorem deleteNormalExpiredRightRecord_eq (env : StoreEnv) (uid : Int) (expiredTime : UInt64) (db : RightDb) :
    deleteNormalExpiredRightRecord env uid expiredTime db =
      deleteAndNoOtherOperation env (tooOld uid (relativeExpiredTime expiredTime)) db := rfl

theorem tidyExpired_rows (env : RightEnv) (db : RightDb) :
    (tidyUpRight env tightUpUsbRightRecordExpired db).rows =
      if env.currentUserId ≠ usbRightUseridConsole ∧ env.deletes db.calls then
        db.rows.filter fun r => !tooOld env.currentUserId (relativeExpiredTime env.tidyNow) r
      else db.rows := by
  unfold tidyUpRight
  simp only [tightUpUsbRightRecordExpired, Bool.false_eq_true, if_false, if_true]
  by_cases huser : env.currentUserId = usbRightUseridConsole
  · simp [huser]
  · simp only [huser, if_false, ne_eq, not_false_eq_true, true_and]
    rw [cleanUpRightNormalExpired, deleteNormalExpiredRightRecord_eq]
    exact (deleteAndNoOtherOperation_spec env.toStoreEnv _ db).1

/-- The clean-up of the check deletes this row. -/
def RightEnv.cleansUp (env : RightEnv) (r : RightRow) : Bool :=
  env.currentUserId ≠ usbRightUseridConsole && tooOld env.currentUserId (relativeExpiredTime env.tidyNow) r

theorem hasRight_works {env : RightEnv} (h : env.Works) (key : RightKey) (hkey : key.uid ≠ usbRightUseridConsole)
    (db : RightDb) :
    (hasRight env key db).2.rows = (db.rows.filter fun r => !env.cleansUp r) ∧
      ((hasRight env key db).1 = true ↔ ∃ r ∈ db.rows, live env.now key r ∧ env.cleansUp r = false) := by
  have htidy : (tidyUpRight env tightUpUsbRightRecordExpired db).rows = db.rows.filter fun r => !env.cleansUp r := by
    rw [tidyExpired_rows]
    by_cases huser : env.currentUserId = usbRightUseridConsole
    · simp [RightEnv.cleansUp, huser]
    · simp [RightEnv.cleansUp, huser, h.deletes]
  have hhas := hasRight_answers h.answers key hkey db
  rw [htidy] at hhas
  refine ⟨hhas.1, hhas.2.trans ?_⟩
  simp only [List.mem_filter, Bool.not_eq_true']
  constructor
  · rintro ⟨r, ⟨hr, hkept⟩, hlive⟩
    exact ⟨r, hr, hlive, hkept⟩
  · rintro ⟨r, hr, hlive, hkept⟩
    exact ⟨r, ⟨hr, hkept⟩, hlive⟩

/-- The clean-up reads the clock in the same second as the check, or in the next. -/
def RightEnv.ClockRead (env : RightEnv) : Prop := env.tidyNow = env.now ∨ env.tidyNow = env.now + 1

theorem not_validAt_of_tooOld (env : RightEnv) (hclock : env.ClockRead) (uid : Int) (r : RightRow)
    (hr : r.Standard) (hold : tooOld uid (relativeExpiredTime env.tidyNow) r) (u : Int)
    (hu : (env.now.toNat : Int) ≤ u) : ¬ r.ValidAt u := by
  simp only [tooOld, Bool.and_eq_true, decide_eq_true_eq] at hold
  obtain ⟨⟨⟨-, hreq⟩, hmin⟩, hmax⟩ := hold
  have hper : r.validPeriod = usbRightValidPeriodSet.toNat :=
    hr.validPeriod.resolve_right fun h => h.elim hmin hmax
  have hpos := hr.requestTime.1
  have hnext : env.tidyNow.toNat ≤ env.now.toNat + 1 := by
    rcases hclock with h | h
    · rw [h]
      omega
    · rw [h, UInt64.toNat_add]
      exact Nat.mod_le _ _
  have hset : (usbRightValidPeriodSet.toNat : Int) = 0x0FFFFFFF := rfl
  unfold relativeExpiredTime at hreq
  split at hreq
  · -- The clock is early: the threshold is 0 and no record is before it.
    simp only [UInt64.toNat_zero] at hreq
    omega
  · rename_i hlate
    have hle : usbRightValidPeriodSet ≤ env.tidyNow := UInt64.le_of_lt (UInt64.not_le.mp hlate)
    have hle' := UInt64.le_iff_toNat_le.mp hle
    rw [UInt64.toNat_sub_of_le _ _ hle] at hreq
    rintro ⟨-, h | h | h⟩
    · exact hmin h
    · exact hmax h
    · omega

theorem tidyExpired_standard (env : RightEnv) (db : RightDb) (hrows : ∀ r ∈ db.rows, r.Standard) :
    ∀ r ∈ (tidyUpRight env tightUpUsbRightRecordExpired db).rows, r.Standard :=
  fun r hr => hrows r (tidyExpired_sub env db r hr)

theorem tidyExpired_entitled (env : RightEnv) (hclock : env.ClockRead) (db : RightDb)
    (hrows : ∀ r ∈ db.rows, r.Standard) (u : Int) (hu : (env.now.toNat : Int) ≤ u) (key : RightKey) :
    Entitled u key (tidyUpRight env tightUpUsbRightRecordExpired db).rows ↔ Entitled u key db.rows := by
  refine or_congr_right ⟨?_, ?_⟩
  · rintro ⟨r, hr, hvalid⟩
    exact ⟨r, tidyExpired_sub env db r hr, hvalid⟩
  · rintro ⟨r, hr, hvalid⟩
    refine ⟨r, ?_, hvalid⟩
    rw [tidyExpired_rows]
    split
    · rw [List.mem_filter, Bool.not_eq_true', Bool.eq_false_iff]
      refine ⟨hr, fun hold => ?_⟩
      exact not_validAt_of_tooOld env hclock _ r (hrows r hr) hold u hu hvalid.2.2.2.2
    · exact hr

/-! ## The check -/

theorem hasRight_iff (env : RightEnv) (h : env.Answers) (hclock : env.ClockRead) (db : RightDb)
    (hrows : ∀ r ∈ db.rows, r.Standard) (key : RightKey) :
    (hasRight env key db).1 = true ↔ Entitled env.now.toNat key db.rows := by
  by_cases hkey : key.uid = usbRightUseridConsole
  · simp [hasRight, hkey, Entitled]
  · rw [(hasRight_answers h key hkey db).2,
      live_exists_iff _ (tidyExpired_standard env db hrows) env.now key hkey]
    exact tidyExpired_entitled env hclock db hrows _ (Int.le_refl _) key

/-- The check without the clean-up before it. -/
def hasRightUntidied (env : RightEnv) (key : RightKey) (db : RightDb) : Bool :=
  key.uid = usbRightUseridConsole || !(isRecordExpired env.toStoreEnv key env.now db).1

theorem hasRightUntidied_iff (env : RightEnv) (h : env.Answers) (db : RightDb) (hrows : ∀ r ∈ db.rows, r.Standard)
    (key : RightKey) : hasRightUntidied env key db = true ↔ Entitled env.now.toNat key db.rows := by
  by_cases hkey : key.uid = usbRightUseridConsole
  · simp [hasRightUntidied, hkey, Entitled]
  · rw [← live_exists_iff _ hrows env.now key hkey, ← isRecordExpired_answers h]
    simp [hasRightUntidied, hkey]

/-! ## Subtraction of unsigned integers -/

/-- Nothing if the subtraction wraps. -/
def checkedSub (a b : UInt64) : Option UInt64 := if b ≤ a then some (a - b) else none

/-- `isRowExpired`, with nothing returned if its subtraction wraps. -/
def isRowExpiredChecked (info : RightRow) (expiredTime : UInt64) : Option Bool :=
  let requestTime := UInt64.ofInt info.requestTime
  let validPeriod := UInt64.ofInt info.validPeriod
  if expiredTime < requestTime then some true
  else if validPeriod = UInt64.ofInt usbRightValidPeriodMin then some false
  else if validPeriod = UInt64.ofInt usbRightValidPeriodMax then some false
  else (checkedSub expiredTime requestTime).map fun age => if age < validPeriod then false else true

/-- `relativeExpiredTime`, with nothing returned if its subtraction wraps. -/
def relativeExpiredTimeChecked (expiredTime : UInt64) : Option UInt64 :=
  if expiredTime ≤ usbRightValidPeriodSet then some 0 else checkedSub expiredTime usbRightValidPeriodSet

theorem isRowExpiredChecked_eq (info : RightRow) (expiredTime : UInt64) :
    isRowExpiredChecked info expiredTime = some (isRowExpired info expiredTime) := by
  unfold isRowExpiredChecked isRowExpired checkedSub
  by_cases hfuture : expiredTime < UInt64.ofInt info.requestTime
  · simp [hfuture]
  · simp only [hfuture, if_false, UInt64.not_lt.mp hfuture, if_true, Option.map_some]
    split
    · rfl
    · split <;> rfl

theorem relativeExpiredTimeChecked_eq (expiredTime : UInt64) :
    relativeExpiredTimeChecked expiredTime = some (relativeExpiredTime expiredTime) := by
  unfold relativeExpiredTimeChecked relativeExpiredTime checkedSub
  split
  · rfl
  · rename_i hlate
    rw [if_pos (UInt64.le_of_lt (UInt64.not_le.mp hlate))]

/-! ## The check meets its specification -/

/-- The answer is right, the clean-up is seen by no check, and no subtraction wraps. -/
structure CheckMeetsSpec (env : RightEnv) (db : RightDb) : Prop where
  answer : ∀ key, (hasRight env key db).1 = true ↔ Entitled env.now.toNat key db.rows
  thisCheck : ∀ key, (hasRight env key db).1 = hasRightUntidied env key db
  laterChecks : ∀ later : RightEnv, later.Answers → later.ClockRead → env.now ≤ later.now → ∀ key key',
    (hasRight later key' (hasRight env key db).2).1 = (hasRight later key' db).1
  noWrap : (∀ r ∈ db.rows, isRowExpiredChecked r env.now = some (isRowExpired r env.now)) ∧
    relativeExpiredTimeChecked env.tidyNow = some (relativeExpiredTime env.tidyNow)

theorem hasRight_entitled (env : RightEnv) (h : env.Answers) (hclock : env.ClockRead) (db : RightDb)
    (hrows : ∀ r ∈ db.rows, r.Standard) (key : RightKey) (u : Int) (hu : (env.now.toNat : Int) ≤ u) (key' : RightKey) :
    Entitled u key' (hasRight env key db).2.rows ↔ Entitled u key' db.rows := by
  by_cases hkey : key.uid = usbRightUseridConsole
  · simp [hasRight, hkey]
  · rw [(hasRight_answers h key hkey db).1]
    exact tidyExpired_entitled env hclock db hrows u hu key'

theorem hasRight_standard (env : RightEnv) (h : env.Answers) (db : RightDb) (hrows : ∀ r ∈ db.rows, r.Standard)
    (key : RightKey) : ∀ r ∈ (hasRight env key db).2.rows, r.Standard := by
  by_cases hkey : key.uid = usbRightUseridConsole
  · simpa [hasRight, hkey] using hrows
  · rw [(hasRight_answers h key hkey db).1]
    exact tidyExpired_standard env db hrows

theorem has_right_meets_spec (env : RightEnv) (db : RightDb) (h : env.Answers) (hclock : env.ClockRead)
    (hrows : ∀ r ∈ db.rows, r.Standard) : CheckMeetsSpec env db := by
  refine ⟨hasRight_iff env h hclock db hrows, ?_, ?_, ?_⟩
  · intro key
    rw [Bool.eq_iff_iff, hasRight_iff env h hclock db hrows, hasRightUntidied_iff env h db hrows]
  · intro later hlater hlaterClock hle key key'
    have hu : (env.now.toNat : Int) ≤ later.now.toNat := Int.ofNat_le.mpr (UInt64.le_iff_toNat_le.mp hle)
    rw [Bool.eq_iff_iff, hasRight_iff later hlater hlaterClock db hrows,
      hasRight_iff later hlater hlaterClock _ (hasRight_standard env h db hrows key)]
    exact hasRight_entitled env h hclock db hrows key _ hu key'
  · exact ⟨fun r _ => isRowExpiredChecked_eq r env.now, relativeExpiredTimeChecked_eq env.tidyNow⟩

/-- A day when records start to expire, and a clean-up one second after the check. -/
def expiryDay : RightEnv where
  store := true
  succeeds := fun _ _ => true
  now := 0x10000031
  tidyNow := 0x10000032
  currentUserId := 100
  isAppInstalled := fun _ _ => true
  bundleInstallTime := fun _ _ => some 0
  isOsAccountExists := fun _ => some true

def grantedRow (requestTime : Int) : RightRow :=
  ⟨100, 0, 0, requestTime, 0x0FFFFFFF, "7-1- ", "com.example.reader", "537"⟩

/-- The record of second `0x32` has expired and is deleted, that of second `0x33` gives the right. -/
theorem has_right_meets_spec_expiryDay :
    CheckMeetsSpec expiryDay ⟨[grantedRow 0x32], none, 0⟩ ∧ CheckMeetsSpec expiryDay ⟨[grantedRow 0x33], none, 0⟩ ∧
      (hasRight expiryDay ⟨100, "7-1- ", "com.example.reader", "537"⟩ ⟨[grantedRow 0x32], none, 0⟩).1 = false ∧
      (hasRight expiryDay ⟨100, "7-1- ", "com.example.reader", "537"⟩ ⟨[grantedRow 0x32], none, 0⟩).2.rows = [] ∧
      (hasRight expiryDay ⟨100, "7-1- ", "com.example.reader", "537"⟩ ⟨[grantedRow 0x33], none, 0⟩).1 = true := by
  have hstandard : ∀ t, 0 ≤ t → t < 2 ^ 63 → ∀ r ∈ [grantedRow t], r.Standard := by
    intro t hlo hhi r hr
    rw [List.mem_singleton] at hr
    subst hr
    exact ⟨⟨hlo, hhi⟩, .inl rfl⟩
  refine ⟨has_right_meets_spec expiryDay _ ⟨rfl, fun _ _ _ => rfl⟩ (.inr rfl) (hstandard _ (by decide) (by decide)),
    has_right_meets_spec expiryDay _ ⟨rfl, fun _ _ _ => rfl⟩ (.inr rfl) (hstandard _ (by decide) (by decide)),
    ?_, ?_, ?_⟩
  all_goals decide +kernel

end UsbManager.Rights
