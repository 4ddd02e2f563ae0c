import UsbManager.Service.Rights

/-!
# Revocation

A check accepts the caller's own row or the row of the default token, a revocation removes only one
of them, and the revocation of an accessory right ignores a deletion that failed. So a revocation
that returns `UEC_OK` is effective exactly if the row it left behind gives no right.
-/

namespace UsbManager.Service

open Rights Serial Accessory

/-! ## One key -/

/-- The same store pointer and clock, but other outcomes of the calls. -/
def withOutcomes (env : RightEnv) (succeeds : StoreCall → Nat → Bool) : RightEnv := { env with succeeds := succeeds }

theorem hasRight_never_iff (env : RightEnv) (hstore : env.store = true) (key : RightKey)
    (hkey : key.uid ≠ usbRightUseridConsole) (db : RightDb) :
    (∀ succeeds, (Rights.hasRight (withOutcomes env succeeds) key db).1 = false) ↔
      ∀ r ∈ db.rows, live env.now key r = false := by
  constructor
  · intro h r hr
    rw [Bool.eq_false_iff]
    intro hlive
    have hhas := (hasRight_keepsRows env hstore key hkey db).2.mpr ⟨r, hr, hlive⟩
    exact absurd (hhas.symm.trans (h _)) (by decide)
  · intro h succeeds
    rw [Bool.eq_false_iff]
    intro hhas
    obtain ⟨r, hr, hlive⟩ := (hasRight_sound (withOutcomes env succeeds) key hkey db).2 hhas
    exact absurd (hlive.symm.trans (h r hr)) (by decide)

theorem hasRight_no_store (env : RightEnv) (hstore : env.store = false) (key : RightKey)
    (hkey : key.uid ≠ usbRightUseridConsole) (db : RightDb) : (Rights.hasRight env key db).1 = false := by
  simp [Rights.hasRight, hkey, isRecordExpired, queryRightRecord, queryAndGetResult, queryInTransaction,
    beginTransaction, hstore]

/-! ## Both keys -/

section Either

variable (env : RightEnv) (deviceName : String) (info : CallingInfo) (db : RightDb)
  (huser : info.userId ≠ usbRightUseridConsole)
include huser

theorem hasEitherRight_sound (h : (hasEitherRight env deviceName info db).1 = true) :
    ∃ r ∈ db.rows, live env.now (info.key deviceName info.tokenId) r ∨
      live env.now (info.key deviceName usbDefaultToken) r := by
  obtain ⟨hsub, hown⟩ := hasRight_sound env (info.key deviceName info.tokenId) huser db
  unfold hasEitherRight at h
  rcases hr : Rights.hasRight env (info.key deviceName info.tokenId) db with ⟨has, db'⟩
  rw [hr] at h hsub hown
  cases has with
  | true =>
    obtain ⟨r, hmem, hlive⟩ := hown rfl
    exact ⟨r, hmem, .inl hlive⟩
  | false =>
    obtain ⟨r, hmem, hlive⟩ := (hasRight_sound env (info.key deviceName usbDefaultToken) huser db').2 h
    exact ⟨r, hsub r hmem, .inr hlive⟩

theorem hasEitherRight_keepsRows (hstore : env.store = true) :
    (hasEitherRight env.keepsRows deviceName info db).1 = true ↔
      ∃ r ∈ db.rows, live env.now (info.key deviceName info.tokenId) r ∨
        live env.now (info.key deviceName usbDefaultToken) r := by
  refine ⟨hasEitherRight_sound env.keepsRows deviceName info db huser, fun ⟨r, hmem, hlive⟩ => ?_⟩
  obtain ⟨hrows, hown⟩ := hasRight_keepsRows env hstore (info.key deviceName info.tokenId) huser db
  unfold hasEitherRight
  rcases hr : Rights.hasRight env.keepsRows (info.key deviceName info.tokenId) db with ⟨has, db'⟩
  rw [hr] at hrows hown
  cases has with
  | true => rfl
  | false =>
    refine (hasRight_keepsRows env hstore (info.key deviceName usbDefaultToken) huser db').2.mpr ⟨r, ?_, ?_⟩
    · rw [hrows]
      exact hmem
    · exact hlive.resolve_left fun h => Bool.false_ne_true (hown.mpr ⟨r, hmem, h⟩)

theorem hasEitherRight_never_iff (hstore : env.store = true) :
    (∀ succeeds, (hasEitherRight (withOutcomes env succeeds) deviceName info db).1 = false) ↔
      ∀ r ∈ db.rows, live env.now (info.key deviceName info.tokenId) r = false ∧
        live env.now (info.key deviceName usbDefaultToken) r = false := by
  constructor
  · intro h r hr
    have hnot : ¬ (live env.now (info.key deviceName info.tokenId) r ∨
        live env.now (info.key deviceName usbDefaultToken) r) := fun hlive => by
      have hhas := (hasEitherRight_keepsRows env deviceName info db huser hstore).mpr ⟨r, hr, hlive⟩
      exact absurd (hhas.symm.trans (h _)) (by decide)
    simpa using not_or.mp hnot
  · intro h succeeds
    rw [Bool.eq_false_iff]
    intro hhas
    obtain ⟨r, hr, hlive⟩ := hasEitherRight_sound (withOutcomes env succeeds) deviceName info db huser hhas
    obtain ⟨hown, hdefault⟩ := h r hr
    rcases hlive with hlive | hlive
    · exact absurd (hlive.symm.trans hown) (by decide)
    · exact absurd (hlive.symm.trans hdefault) (by decide)

end Either

/-! ## The revocation of both keys -/

/-- The row that is left gives no right: the row of the default token, if the own row was there and
was removed, and the own row, if its removal failed and the default row was removed in its place. -/
structure LeavesNothing (env : RightEnv) (deviceName : String) (info : CallingInfo) (db : RightDb) : Prop where
  own : env.deletes db.calls → (∃ r ∈ db.rows, r.hasKey (info.key deviceName info.tokenId)) →
    ∀ r ∈ db.rows, live env.now (info.key deviceName usbDefaultToken) r = false
  default : env.deletes db.calls = false → env.deletes (env.afterDelete db.calls) →
    (∃ r ∈ db.rows, r.hasKey (info.key deviceName usbDefaultToken)) →
    ∀ r ∈ db.rows, live env.now (info.key deviceName info.tokenId) r = false

theorem store_of_deletes (env : StoreEnv) (t : Nat) (h : env.deletes t) : env.store = true := by
  simp only [StoreEnv.deletes, Bool.and_eq_true] at h
  exact h.1.1.1

theorem live_of_not_hasKey (t : UInt64) (k : RightKey) (r : RightRow) (h : r.hasKey k = false) : live t k r = false := by
  simp [live, h]

theorem hasKey_tokenId (r : RightRow) (k : RightKey) (h : r.hasKey k) : r.tokenId = k.tokenId := by
  simp only [RightRow.hasKey, Bool.and_eq_true, decide_eq_true_eq] at h
  exact h.2

theorem hasKey_apart (r : RightRow) (k k' : RightKey) (hne : k.tokenId ≠ k'.tokenId) (h : r.hasKey k) :
    r.hasKey k' = false := by
  rw [Bool.eq_false_iff]
  intro h'
  exact hne ((hasKey_tokenId r k h).symm.trans (hasKey_tokenId r k' h'))

theorem live_after_filter_iff (t : UInt64) (k k' : RightKey) (hne : k.tokenId ≠ k'.tokenId) (rows : List RightRow) :
    (∀ r ∈ rows.filter fun r => !r.hasKey k, live t k r = false ∧ live t k' r = false) ↔
      ∀ r ∈ rows, live t k' r = false := by
  constructor
  · intro h r hr
    cases hk : r.hasKey k with
    | true => exact live_of_not_hasKey t k' r (hasKey_apart r k k' hne hk)
    | false => exact (h r (List.mem_filter.mpr ⟨hr, by simp [hk]⟩)).2
  · intro h r hr
    obtain ⟨hr, hk⟩ := List.mem_filter.mp hr
    exact ⟨live_of_not_hasKey t k r (by simpa using hk), h r hr⟩

theorem own_left_iff (env : RightEnv) (deviceName : String) (info : CallingInfo) (db db₁ : RightDb)
    (hrows : db₁.rows = if env.deletes db.calls then
      db.rows.filter fun r => !r.hasKey (info.key deviceName info.tokenId) else db.rows)
    (hnone : ¬ (env.deletes db.calls ∧ ∃ r ∈ db.rows, r.hasKey (info.key deviceName info.tokenId)))
    (hdel : env.deletes (env.afterDelete db.calls))
    (hmem : ∃ r ∈ db₁.rows, r.hasKey (info.key deviceName usbDefaultToken)) :
    (∀ r ∈ db₁.rows, live env.now (info.key deviceName info.tokenId) r = false) ↔
      LeavesNothing env deviceName info db := by
  constructor
  · intro h
    refine ⟨fun hown hmem => absurd ⟨hown, hmem⟩ hnone, fun hno _ _ => ?_⟩
    have hkept : db₁.rows = db.rows := by simpa [hno] using hrows
    rw [← hkept]
    exact h
  · intro h
    cases hown : env.deletes db.calls with
    | true =>
      -- the own rows are gone or never were
      rw [if_pos hown] at hrows
      intro r hr
      rw [hrows] at hr
      exact live_of_not_hasKey env.now _ r (by simpa using (List.mem_filter.mp hr).2)
    | false =>
      have hkept : db₁.rows = db.rows := by simpa [hown] using hrows
      rw [hkept] at hmem ⊢
      exact h.default hown hdel hmem

theorem removeEitherRight_effective_iff (env : RightEnv) (deviceName : String) (info : CallingInfo) (db : RightDb)
    (huser : info.userId ≠ usbRightUseridConsole) (htoken : info.tokenId ≠ usbDefaultToken) :
    ((removeEitherRight env deviceName info db).1 = true → ∀ succeeds,
      (hasEitherRight (withOutcomes env succeeds) deviceName info (removeEitherRight env deviceName info db).2).1 =
        false) ↔
    LeavesNothing env deviceName info db := by
  set own := info.key deviceName info.tokenId with hown
  set dflt := info.key deviceName usbDefaultToken with hdflt
  obtain ⟨hrows, hret, hcalls⟩ := removeDeviceRight_spec env own huser db
  unfold removeEitherRight
  rw [← hown, ← hdflt]
  rcases hfirst : removeDeviceRight env own db with ⟨ok, db₁⟩
  rw [hfirst] at hrows hret hcalls
  dsimp only at hrows hcalls
  cases ok with
  | true =>
    obtain ⟨hdel, hmem⟩ := hret.mp rfl
    rw [if_pos hdel] at hrows
    simp only [true_implies]
    rw [hasEitherRight_never_iff env deviceName info db₁ huser (store_of_deletes _ _ hdel), hrows,
      live_after_filter_iff env.now own dflt htoken]
    exact ⟨fun h => ⟨fun _ _ => h, fun hno => absurd (hdel.symm.trans hno) (by decide)⟩, fun h => h.own hdel hmem⟩
  | false =>
    have hnone : ¬ (env.deletes db.calls ∧ ∃ r ∈ db.rows, r.hasKey own) := fun h => Bool.false_ne_true (hret.mpr h)
    have hkept : env.deletes db.calls = false → db₁.rows = db.rows := fun h => by simpa [h] using hrows
    obtain ⟨hrows₂, hret₂, -⟩ := removeDeviceRight_spec env dflt huser db₁
    rw [hcalls] at hrows₂ hret₂
    dsimp only
    rcases hsecond : removeDeviceRight env dflt db₁ with ⟨ok, db₂⟩
    rw [hsecond] at hrows₂ hret₂
    cases ok with
    | false =>
      refine ⟨fun _ => ⟨fun hdel hmem => absurd ⟨hdel, hmem⟩ hnone, fun hno hdel hmem => ?_⟩,
        fun _ h => absurd h Bool.false_ne_true⟩
      rw [← hkept hno] at hmem
      exact absurd (hret₂.mpr ⟨hdel, hmem⟩) Bool.false_ne_true
    | true =>
      obtain ⟨hdel₂, hmem₂⟩ := hret₂.mp rfl
      rw [if_pos hdel₂] at hrows₂
      dsimp only at hrows₂
      simp only [true_implies]
      rw [hasEitherRight_never_iff env deviceName info db₂ huser (store_of_deletes _ _ hdel₂), hrows₂]
      simp only [and_comm (a := live env.now (info.key deviceName info.tokenId) _ = false)]
      rw [live_after_filter_iff env.now dflt own htoken.symm]
      exact own_left_iff env deviceName info db db₁ hrows hnone hdel₂ hmem₂

/-! ## The revocation of one key -/

theorem cancelDeviceRight_effective_iff (env : RightEnv) (key : RightKey) (hkey : key.uid ≠ usbRightUseridConsole)
    (db : RightDb) :
    (∀ succeeds, (Rights.hasRight (withOutcomes env succeeds) key (cancelDeviceRight env key db).2).1 = false) ↔
      (env.store = true → env.deletes db.calls = false → ∀ r ∈ db.rows, live env.now key r = false) := by
  have hrows := (deleteAndNoOtherOperation_spec env.toStoreEnv (fun r => r.hasKey key) db).1
  unfold cancelDeviceRight deleteRightRecord
  simp only [hkey, if_false]
  cases hstore : env.store with
  | false =>
    exact ⟨fun _ h => absurd h Bool.false_ne_true,
      fun _ succeeds => hasRight_no_store (withOutcomes env succeeds) hstore key hkey _⟩
  | true =>
    rw [hasRight_never_iff env hstore key hkey, hrows]
    cases hdel : env.deletes db.calls with
    | true =>
      simp only [if_true]
      refine ⟨fun _ _ h => absurd h (by decide), fun _ r hr => live_of_not_hasKey env.now key r ?_⟩
      simpa using (List.mem_filter.mp hr).2
    | false => simp

/-! ## The three services -/

theorem getCallingInfo_tokenId (caller : Caller) (info : CallingInfo) (h : getCallingInfo caller = some info) :
    info.tokenId ≠ usbDefaultToken := by
  unfold getCallingInfo at h
  obtain ⟨-, -, rfl⟩ := Option.map_eq_some_iff.mp h
  intro htoken
  have hlist : Nat.toDigits 10 caller.tokenId.toNat = usbDefaultToken.toList := by
    rw [← htoken]
    exact Nat.toList_repr.symm
  have hmem : 'U' ∈ Nat.toDigits 10 caller.tokenId.toNat := by
    rw [hlist]
    decide
  exact absurd (Nat.isDigit_of_mem_toDigits (by decide) (by decide) hmem) (by decide)

/-- After `UEC_OK` no check finds the right, whatever the store does meanwhile. -/
def RemoveRightEffective (env : RightEnv) (caller : Caller) (deviceName : String) (s : ServiceState) : Prop :=
  (removeRight env caller deviceName s).1 = .ok → ∀ succeeds,
    (hasRight (withOutcomes env succeeds) caller deviceName (removeRight env caller deviceName s).2).1 = false

/-- HDI closes the port. -/
def CancelSerialRightEffective (env : RightEnv) (caller : Caller) (portId : Int) (s : ServiceState) : Prop :=
  (cancelSerialRight env 0 caller portId s).1 = .ok →
    (∀ succeeds, (hasSerialRight (withOutcomes env succeeds) caller portId
      (cancelSerialRight env 0 caller portId s).2).2.1 = false) ∧
    ∀ m, (cancelSerialRight env 0 caller portId s).2.usbSerialManager = some m →
      m.portTokenMap.find? portId ≠ some caller.tokenId

def CancelAccessoryRightEffective (env : RightEnv) (caller : Caller) (access : USBAccessory) (s : ServiceState) :
    Prop :=
  (cancelAccessoryRight env caller access s).1 = .ok → ∀ succeeds,
    (hasAccessoryRight (withOutcomes env succeeds) caller access (cancelAccessoryRight env caller access s).2).1 ≠
      .ok true

/-! What each service leaves behind gives no right. -/

def RemoveRightComplete (env : RightEnv) (caller : Caller) (deviceName : String) (s : ServiceState) : Prop :=
  ∀ deviceVidPidSerialNum info, s.usbRightManager = true →
    s.deviceVidPidMap.find? deviceName = some deviceVidPidSerialNum → getCallingInfo caller = some info →
    LeavesNothing env deviceVidPidSerialNum info s.rights

def CancelSerialRightComplete (env : RightEnv) (caller : Caller) (portId : Int) (s : ServiceState) : Prop :=
  ∀ deviceName deviceVidPidSerialNum info, s.usbRightManager = true →
    validateUsbSerialManagerAndPort portId s = .ok →
    s.serialVidPidMap.find? portId = some (deviceName, deviceVidPidSerialNum) →
    getCallingInfo caller = some info → LeavesNothing env deviceVidPidSerialNum info s.rights

/-- There is a store, so a deletion that does not go through leaves the row. -/
def CancelAccessoryRightComplete (env : RightEnv) (caller : Caller) (access : USBAccessory) (s : ServiceState) : Prop :=
  s.usbRightManager = true → ∀ m, s.usbAccessoryManager = some m → ∀ info, getCallingInfo caller = some info →
    ∀ serialNum, getAccessorySerialNumber m access info.bundleName = .ok serialNum → env.store = true → env.deletes s.rights.calls = false →
    ∀ r ∈ s.rights.rows, live env.now (info.key serialNum info.tokenId) r = false

section Services

variable (env : RightEnv) (caller : Caller) (hsys : caller.isSystemAppOrSa = false)
  (huser : ∀ info, getCallingInfo caller = some info → info.userId ≠ usbRightUseridConsole) (s : ServiceState)

include hsys huser

theorem removeRight_effective_iff (deviceName : String) :
    RemoveRightEffective env caller deviceName s ↔ RemoveRightComplete env caller deviceName s := by
  unfold RemoveRightEffective RemoveRightComplete
  cases hm : s.usbRightManager with
  | false => simp [removeRight, hm]
  | true =>
    cases hd : s.deviceVidPidMap.find? deviceName with
    | none => simp [removeRight, hm, hd]
    | some n =>
      cases hi : getCallingInfo caller with
      | none => simp [removeRight, hasRight, hm, hd, hi, hsys]
      | some info =>
        have hiff := removeEitherRight_effective_iff env n info s.rights (huser info hi)
          (getCallingInfo_tokenId caller info hi)
        rcases hr : removeEitherRight env n info s.rights with ⟨ok, db⟩
        rw [hr] at hiff
        cases ok <;> simp [removeRight, hasRight, hm, hd, hi, hsys, hr, ServiceState.setRights, ← hiff]

theorem cancelSerialRight_effective_iff (portId : Int) :
    CancelSerialRightEffective env caller portId s ↔ CancelSerialRightComplete env caller portId s := by
  unfold CancelSerialRightEffective CancelSerialRightComplete
  cases hm : s.usbRightManager with
  | false => simp [cancelSerialRight, hm]
  | true =>
    cases hsm : s.usbSerialManager with
    | none => simp [cancelSerialRight, validateUsbSerialManagerAndPort, hm, hsm]
    | some m =>
      cases hp : isPortIdExist m portId with
      | false => simp [cancelSerialRight, validateUsbSerialManagerAndPort, hm, hsm, hp]
      | true =>
        cases hd : s.serialVidPidMap.find? portId with
        | none => simp [cancelSerialRight, validateUsbSerialManagerAndPort, hm, hsm, hp, hd]
        | some names =>
          cases hi : getCallingInfo caller with
          | none => simp [cancelSerialRight, validateUsbSerialManagerAndPort, hm, hsm, hp, hd, hi, hsys]
          | some info =>
            obtain ⟨name, n⟩ := names
            have hiff := removeEitherRight_effective_iff env n info s.rights (huser info hi)
              (getCallingInfo_tokenId caller info hi)
            have hdisown := serialClose_disowns caller.tokenId portId m
            have hport : isPortIdExist (serialClose 0 caller.tokenId portId m).2 portId = true := by
              rw [isPortIdExist, serialClose_serialPortMap]
              exact hp
            rcases hr : removeEitherRight env n info s.rights with ⟨ok, db⟩
            rw [hr] at hiff
            cases ok <;> simp [cancelSerialRight, hasSerialRight, validateUsbSerialManagerAndPort, closeSerial, hm, hsm,
              hp, hd, hi, hsys, hr, hport, hdisown, ServiceState.setRights, ← hiff]

omit hsys in
theorem cancelAccessoryRight_effective_iff (access : USBAccessory) :
    CancelAccessoryRightEffective env caller access s ↔ CancelAccessoryRightComplete env caller access s := by
  unfold CancelAccessoryRightEffective CancelAccessoryRightComplete
  cases hm : s.usbRightManager with
  | false => simp [cancelAccessoryRight, hm]
  | true =>
    cases ha : s.usbAccessoryManager with
    | none => simp [cancelAccessoryRight, hm, ha]
    | some m =>
      cases hi : getCallingInfo caller with
      | none => simp [cancelAccessoryRight, hm, ha, hi]
      | some info =>
        cases hn : getAccessorySerialNumber m access info.bundleName with
        | error ret => simp [cancelAccessoryRight, hasAccessoryRight, hm, ha, hi, hn]
        | ok serialNum =>
          have hkey : (info.key serialNum info.tokenId).uid ≠ usbRightUseridConsole := huser info hi
          have hiff := cancelDeviceRight_effective_iff env _ hkey s.rights
          have hok : (cancelDeviceRight env (info.key serialNum info.tokenId) s.rights).1 = .ok := by
            simp [cancelDeviceRight, hkey]
          rcases hc : cancelDeviceRight env (info.key serialNum info.tokenId) s.rights with ⟨ret, db⟩
          rw [hc] at hok hiff
          obtain rfl := hok
          simp [cancelAccessoryRight, hasAccessoryRight, hm, ha, hi, hn, hc, ServiceState.setRights, ← hiff]

/-- A revocation that returns `UEC_OK` is effective exactly if what it leaves behind gives no right. -/
theorem revocation_effective_iff (deviceName : String) (portId : Int) (access : USBAccessory) :
    (RemoveRightEffective env caller deviceName s ↔ RemoveRightComplete env caller deviceName s) ∧
      (CancelSerialRightEffective env caller portId s ↔ CancelSerialRightComplete env caller portId s) ∧
      (CancelAccessoryRightEffective env caller access s ↔ CancelAccessoryRightComplete env caller access s) :=
  ⟨removeRight_effective_iff env caller hsys huser s deviceName,
    cancelSerialRight_effective_iff env caller hsys huser s portId,
    cancelAccessoryRight_effective_iff env caller huser s access⟩

end Services

def storeWorks : RightEnv where
  store := true
  succeeds := fun _ _ => true
  now := 1000
  tidyNow := 1000
  currentUserId := 100
  isAppInstalled := fun _ _ => true
  bundleInstallTime := fun _ _ => some 0
  isOsAccountExists := fun _ => some true

def reader : Caller := ⟨7, false, some ("reader", 100)⟩

def readerRight (deviceName tokenId : String) : RightRow := ⟨100, 0, 0, 500, 0, deviceName, "reader", tokenId⟩

def handset : USBAccessory := { manufacturer := "M", product := "P", version := "1", serialNumber := "S" }

/-- A device that is also serial port 3 and was opened by the reader, and an accessory. -/
def readerState (rows : List RightRow) : ServiceState where
  host := Host.HostState.init
  deviceVidPidMap := StdMap.empty.insert "1-2" "16-32-A"
  serialVidPidMap := StdMap.empty.insert 3 ("1-2", "16-32-A")
  usbRightManager := true
  usbSerialManager := some ⟨true, StdMap.empty.insert 3 ⟨3, 1, 2, 16, 32, "A"⟩, StdMap.empty.insert 3 7, [], [],
    fun h => by cases h⟩
  usbAccessoryManager := some ⟨handset, .start⟩
  rights := ⟨rows, none, 0⟩

theorem revocation_effective_own_rows :
    let s := readerState [readerRight "16-32-A" "7", readerRight "MP1S" "7"]
    RemoveRightEffective storeWorks reader "1-2" s ∧ CancelSerialRightEffective storeWorks reader 3 s ∧
      CancelAccessoryRightEffective storeWorks reader handset s := by
  intro s
  have hall := revocation_effective_iff storeWorks reader rfl (fun info h => by cases h; decide) s "1-2" 3 handset
  have hrows : ∀ n info, getCallingInfo reader = some info → LeavesNothing storeWorks n info s.rights := by
    rintro n info h
    cases h
    refine ⟨fun _ _ r hr => live_of_not_hasKey _ _ r ?_, fun h => absurd h (by decide)⟩
    simp only [s, readerState, List.mem_cons, List.not_mem_nil, or_false] at hr
    rcases hr with rfl | rfl <;> simp [RightRow.hasKey, readerRight, CallingInfo.key, usbDefaultToken]
  exact ⟨hall.1.mpr fun n info _ _ h => hrows n info h, hall.2.1.mpr fun _ n info _ _ _ h => hrows n info h,
    hall.2.2.mpr fun _ _ _ _ _ _ _ _ h => absurd h (by decide)⟩

/-- The own row goes, the row of the default token stays and still gives the right. An accessory
right stays if the store refuses to delete it. -/
theorem revocation_leaves_right :
    let s := readerState [readerRight "16-32-A" "7", readerRight "16-32-A" usbDefaultToken, readerRight "MP1S" "7"]
    ¬ RemoveRightEffective storeWorks reader "1-2" s ∧ ¬ CancelSerialRightEffective storeWorks reader 3 s ∧
      ¬ CancelAccessoryRightEffective storeWorks.keepsRows reader handset s := by
  intro s
  have hdevice : (removeRight storeWorks reader "1-2" s).1 = .ok := by decide +kernel
  have hserial : (cancelSerialRight storeWorks 0 reader 3 s).1 = .ok := by decide +kernel
  have haccessory : (cancelAccessoryRight storeWorks.keepsRows reader handset s).1 = .ok := by decide +kernel
  refine ⟨fun h => absurd (h hdevice fun _ _ => true) (by decide +kernel),
    fun h => absurd ((h hserial).1 fun _ _ => true) (by decide +kernel), fun h => h haccessory (fun _ _ => true) ?_⟩
  rfl

end UsbManager.Service
