import UsbManager.Lib.Decimal
import UsbManager.Rights.Expiry
import UsbManager.Rights.Records

/-!
# Granting a right

`AddDeviceRight` of `usb_right_manager.cpp`, by the calling information or by a token given as text.
The text is stored as it is, while a check looks for the decimal numeral of the 32-bit token.
-/

namespace UsbManager.Rights

/-! ## The two forms -/

/-- What a grant asks besides the store and the clock: the update time of a bundle, the bundle name and
the user of a token, and the id of a new row. -/
structure GrantEnv extends RightEnv where
  bundleUpdateTime : Int → String → UInt64
  hapTokenInfo : UInt32 → Option (String × Int)
  outRowId : RowId

/-- Both times are there, or none. -/
def getBundleInstallAndUpdateTime (env : GrantEnv) (uid : Int) (bundleName : String) : Option (UInt64 × UInt64) :=
  (env.bundleInstallTime uid bundleName).map fun installTime => (installTime, env.bundleUpdateTime uid bundleName)

/-- A bundle without times gets the current time. -/
def grantInfo (env : GrantEnv) (uid : Int) (bundleName : String) : UsbRightAppInfo :=
  let times := (getBundleInstallAndUpdateTime env uid bundleName).getD (env.now, env.now)
  ⟨uid, times.1, times.2, env.now, usbRightValidPeriodSet⟩

/-- A grant for the console user is a success that stores nothing. -/
def addDeviceRight (env : GrantEnv) (deviceName bundleName tokenId : String) (userId : Int) (db : RightDb) :
    Bool × RightDb :=
  if userId = usbRightUseridConsole then (true, db)
  else
    let (ret, db) := addOrUpdateRightRecord env.toStoreEnv env.outRowId ⟨userId, deviceName, bundleName, tokenId⟩
      (grantInfo env userId bundleName) db
    (!decide (ret < 0), db)

/-- The empty string passes. -/
def isAllDigits (s : String) : Bool := s.toList.all Char.isDigit

/-- `strtoull` of digits sets `ERANGE` if the value does not fit. -/
def isWithinUint64Range (numberStr : String) : Bool :=
  if numberStr = "" then false else Decimal.value numberStr.toList < 2 ^ 64

/-- `(AccessTokenID) std::stoul(tokenIdStr)`. -/
def accessTokenId (tokenIdStr : String) : UInt32 := UInt32.ofNat (Decimal.value tokenIdStr.toList)

/-- Both forms store the same record once the user is known. -/
def addDeviceRightByToken (env : GrantEnv) (deviceName tokenIdStr : String) (db : RightDb) : Bool × RightDb :=
  if !isAllDigits tokenIdStr then (false, db)
  else if !isWithinUint64Range tokenIdStr then (false, db)
  else
    match env.hapTokenInfo (accessTokenId tokenIdStr) with
    | none => (false, db)
    | some (bundleName, uid) => addDeviceRight env deviceName bundleName tokenIdStr uid db

/-! ## What a grant stores -/

theorem addDeviceRight_rows (env : GrantEnv) (deviceName bundleName tokenId : String) (userId : Int) (db : RightDb)
    (huser : userId ≠ usbRightUseridConsole)
    (h : (addDeviceRight env deviceName bundleName tokenId userId db).1 = true) :
    (addDeviceRight env deviceName bundleName tokenId userId db).2.rows =
      granted ⟨userId, deviceName, bundleName, tokenId⟩ (grantInfo env userId bundleName) db.rows := by
  have hspec := addOrUpdateRightRecord_spec env.toStoreEnv env.outRowId ⟨userId, deviceName, bundleName, tokenId⟩
    (grantInfo env userId bundleName) db
  unfold addDeviceRight at h ⊢
  simp only [huser, if_false, Bool.not_eq_true', decide_eq_false_iff_not] at h ⊢
  split at hspec
  · exact hspec.2.1
  · exact absurd hspec.1 h

theorem mem_granted (key : RightKey) (info : UsbRightAppInfo) (huid : info.uid = key.uid) (rows : List RightRow) :
    info.values key.deviceName key.bundleName key.tokenId ∈ granted key info rows := by
  unfold granted
  simp only [huid]
  split
  · rename_i hany
    obtain ⟨r, hr, hkey⟩ := List.any_eq_true.mp hany
    exact List.mem_map.mpr ⟨r, hr, if_pos hkey⟩
  · exact List.mem_append_right _ List.mem_cons_self

/-! ## The right is seen by the application -/

theorem live_exists_rowsOf (t : UInt64) (key : RightKey) (q : RightRow → Prop) (rows : List RightRow) :
    (∃ r ∈ rows, live t key r ∧ q r) ↔ ∃ r ∈ rowsOf key rows, live t key r ∧ q r := by
  constructor
  · rintro ⟨r, hr, hlive, hq⟩
    have hkey : r.hasKey key = true := by
      rw [live, Bool.and_eq_true] at hlive
      exact hlive.1
    exact ⟨r, List.mem_filter.mpr ⟨hr, hkey⟩, hlive, hq⟩
  · rintro ⟨r, hr, hlive, hq⟩
    exact ⟨r, List.mem_of_mem_filter hr, hlive, hq⟩

theorem putLong_of_lt (v : UInt64) (h : v.toNat < 2 ^ 63) : putLong v = v.toNat := by
  unfold putLong
  have hdef := Int.bmod_def (v.toNat : Int) (2 ^ 64)
  split at hdef <;> omega

section Seen

variable (env : GrantEnv) (hclock : env.ClockRead) (hepoch : env.now.toNat < 2 ^ 63)
include hclock hepoch

theorem granted_row_live (key : RightKey) (bundleName : String) :
    let row := (grantInfo env key.uid bundleName).values key.deviceName key.bundleName key.tokenId
    live env.now key row = true ∧ env.cleansUp row = false := by
  intro row
  have htime : row.requestTime = env.now.toNat := by
    simp only [row, UsbRightAppInfo.values, grantInfo]
    exact putLong_of_lt env.now hepoch
  have hperiod : row.validPeriod = usbRightValidPeriodSet.toNat := by
    simp only [row, UsbRightAppInfo.values, grantInfo]
    exact putLong_of_lt usbRightValidPeriodSet (by decide)
  have hstandard : row.Standard := by
    refine ⟨?_, .inl hperiod⟩
    rw [htime]
    omega
  have hvalid : row.ValidAt env.now.toNat := by
    refine ⟨Int.le_of_eq htime, .inr (.inr ?_)⟩
    rw [htime, hperiod, Int.sub_self]
    decide
  refine ⟨(live_iff row hstandard env.now key).mpr ⟨rfl, rfl, rfl, rfl, hvalid⟩, ?_⟩
  rw [RightEnv.cleansUp, Bool.and_eq_false_iff, Bool.eq_false_iff (b := tooOld _ _ _)]
  exact .inr fun hold => not_validAt_of_tooOld env.toRightEnv hclock _ row hstandard hold _ (Int.le_refl _) hvalid

end Seen

/-- The text is the decimal numeral of a 32-bit number. -/
def CanonicalToken (tokenIdStr : String) : Prop :=
  Decimal.value tokenIdStr.toList < 2 ^ 32 ∧ (tokenIdStr = "0" ∨ tokenIdStr.toList.head? ≠ some '0')

theorem canonicalToken_iff (tokenIdStr : String) (hdigits : isAllDigits tokenIdStr = true) (hne : tokenIdStr ≠ "") :
    tokenIdStr = toString (accessTokenId tokenIdStr).toNat ↔ CanonicalToken tokenIdStr := by
  have hnil : tokenIdStr.toList ≠ [] := fun h => hne (String.toList_inj.mp h)
  have hzero : tokenIdStr = "0" ↔ tokenIdStr.toList = ['0'] := by
    rw [← String.toList_inj]
    rfl
  have hmod : (accessTokenId tokenIdStr).toNat = Decimal.value tokenIdStr.toList % 2 ^ 32 := UInt32.toNat_ofNat'
  rw [CanonicalToken, hzero, ← Decimal.toDigits_value_mod_iff _ (List.all_eq_true.mp hdigits) hnil _ (by decide), hmod,
    ← String.toList_inj, Nat.toString_eq_repr, Nat.toList_repr]
  exact eq_comm

theorem addDeviceRightByToken_eq (env : GrantEnv) (deviceName tokenIdStr bundleName : String) (user : Int) (db : RightDb)
    (hinfo : env.hapTokenInfo (accessTokenId tokenIdStr) = some (bundleName, user))
    (hadd : (addDeviceRightByToken env deviceName tokenIdStr db).1 = true) :
    isAllDigits tokenIdStr = true ∧ tokenIdStr ≠ "" ∧
      addDeviceRightByToken env deviceName tokenIdStr db = addDeviceRight env deviceName bundleName tokenIdStr user db := by
  unfold addDeviceRightByToken at hadd ⊢
  by_cases hdigits : isAllDigits tokenIdStr = true
  · by_cases hrange : isWithinUint64Range tokenIdStr = true
    · have hne : tokenIdStr ≠ "" := by
        rintro rfl
        simp [isWithinUint64Range] at hrange
      simp [hdigits, hrange, hinfo, hne]
    · simp [hdigits, hrange] at hadd
  · simp [hdigits] at hadd

/-- The right that was granted is seen under the key of the token's own calls exactly if the text is
canonical, or if such a record was there before. -/
theorem granted_right_seen_iff (env : GrantEnv) (hworks : env.Works) (hclock : env.ClockRead)
    (hepoch : env.now.toNat < 2 ^ 63) (deviceName tokenIdStr bundleName : String) (user : Int) (db : RightDb)
    (hinfo : env.hapTokenInfo (accessTokenId tokenIdStr) = some (bundleName, user))
    (huser : user ≠ usbRightUseridConsole)
    (hadd : (addDeviceRightByToken env deviceName tokenIdStr db).1 = true) :
    (hasRight env.toRightEnv ⟨user, deviceName, bundleName, toString (accessTokenId tokenIdStr).toNat⟩
        (addDeviceRightByToken env deviceName tokenIdStr db).2).1 = true ↔
      CanonicalToken tokenIdStr ∨
        ∃ r ∈ db.rows, live env.now ⟨user, deviceName, bundleName, toString (accessTokenId tokenIdStr).toNat⟩ r ∧
          env.cleansUp r = false := by
  obtain ⟨hdigits, hne, heq⟩ := addDeviceRightByToken_eq env deviceName tokenIdStr bundleName user db hinfo hadd
  rw [heq] at hadd ⊢
  have hrows := addDeviceRight_rows env deviceName bundleName tokenIdStr user db huser hadd
  rw [← canonicalToken_iff tokenIdStr hdigits hne, (hasRight_works hworks _ huser _).2, hrows]
  generalize toString (accessTokenId tokenIdStr).toNat = token
  by_cases htoken : tokenIdStr = token
  · subst htoken
    have hmem := mem_granted ⟨user, deviceName, bundleName, tokenIdStr⟩ (grantInfo env user bundleName) rfl db.rows
    have hlive := granted_row_live env hclock hepoch ⟨user, deviceName, bundleName, tokenIdStr⟩ bundleName
    exact ⟨fun _ => .inl rfl, fun _ => ⟨_, hmem, hlive⟩⟩
  · -- The grant is for another key, so it changes no row of this one.
    have hkeep := rowsOf_granted_other ⟨user, deviceName, bundleName, tokenIdStr⟩ (grantInfo env user bundleName) rfl
      db.rows ⟨user, deviceName, bundleName, token⟩ fun h => htoken (RightKey.mk.inj h).2.2.2.symm
    rw [live_exists_rowsOf, hkeep, ← live_exists_rowsOf]
    simp [htoken]

def oneReader : GrantEnv where
  toRightEnv := expiryDay
  bundleUpdateTime := fun _ _ => 0
  hapTokenInfo := fun token => if token = 537 then some ("com.example.reader", 100) else none
  outRowId := ⟨1, by decide, by decide⟩

theorem granted_right_seen_537 :
    (addDeviceRightByToken oneReader "7-1- " "537" ⟨[], none, 0⟩).1 = true ∧
      (hasRight oneReader.toRightEnv ⟨100, "7-1- ", "com.example.reader", "537"⟩
        (addDeviceRightByToken oneReader "7-1- " "537" ⟨[], none, 0⟩).2).1 = true := by
  have hadd : (addDeviceRightByToken oneReader "7-1- " "537" ⟨[], none, 0⟩).1 = true := by decide +kernel
  refine ⟨hadd, ?_⟩
  exact (granted_right_seen_iff oneReader ⟨rfl, fun _ _ => rfl⟩ (.inr rfl) (by decide) "7-1- " "537"
    "com.example.reader" 100 ⟨[], none, 0⟩ (by decide +kernel) (by decide) hadd).mpr
    (.inl ⟨by decide +kernel, .inr (by decide +kernel)⟩)

/-- With a leading zero the grant succeeds and the application has no right. -/
theorem granted_right_unseen_0537 :
    (addDeviceRightByToken oneReader "7-1- " "0537" ⟨[], none, 0⟩).1 = true ∧ accessTokenId "0537" = 537 ∧
      oneReader.hapTokenInfo 537 = some ("com.example.reader", 100) ∧
      (hasRight oneReader.toRightEnv ⟨100, "7-1- ", "com.example.reader", toString (537 : UInt32).toNat⟩
        (addDeviceRightByToken oneReader "7-1- " "0537" ⟨[], none, 0⟩).2).1 = false := by
  refine ⟨?_, ?_, ?_, ?_⟩
  all_goals decide +kernel

end UsbManager.Rights
