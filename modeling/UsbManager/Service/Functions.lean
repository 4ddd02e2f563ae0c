import UsbManager.Gadget.Manager

/-!
# Switching the functions of the gadget

`UsbService::SetCurrentFunctions`. The same fact is kept three times: by the driver, by the device manager and as
`HDC_STATUS` in the settings. The setting is written before the driver is asked, and the manager is not told when
the driver has the functions already.
-/

namespace UsbManager.Service

open Gadget

/-! ## The checks -/

/-- What the access token kit says about the caller; `hapApiVersion` is there if it is a hap. -/
structure Permissions where
  isSystemAppOrSa : Bool
  verifyPermission : Bool
  hapApiVersion : Option Int

/-- From this version on a missing permission has a code of its own. -/
def apiVersionId18 : Int := 18

def getHapApiVersion (permissions : Permissions) : Int := permissions.hapApiVersion.getD apiVersionId18

/-- A system application needs the permission too. -/
def checkSysApiPermission (permissions : Permissions) : Ret :=
  if !permissions.isSystemAppOrSa then .uec .servicePermissionDeniedSysapi
  else if !permissions.verifyPermission then
    if getHapApiVersion permissions < apiVersionId18 then .uec .servicePermissionDeniedSysapi
    else .uec .servicePermissionDeniedSysapiFailed
  else .ok

/-- The parameters `persist.hdc.control` and `const.security.developermode.state`. -/
structure HdcParameters where
  hdcControl : String
  developerMode : Bool

/-- Only hdc needs more than the permission. -/
def hasSetFuncRight (parameters : HdcParameters) (functions : UInt32) : Ret :=
  if !hasFunction functions functionHdc then .ok
  else if parameters.hdcControl ≠ "true" then .uec .servicePermissionCheckHdc
  else if !parameters.developerMode then .uec .servicePermissionCheckHdc
  else .ok

/-! ## The switch -/

/-- `hdcStatus` is the value of `HDC_STATUS` in the settings, if there is a row for it. -/
structure FunctionService where
  usbRightManager : Bool
  usbDeviceManager : Option UsbDeviceManager
  hdcStatus : Option String

/-- The row after `Update` of the settings, which inserts it if there is none. Writes succeed. -/
def updateSettings (value : String) : Option String := some value

/-- The setting says whether hdc is among the functions. -/
def setSettingsDataHdcStatus (func : UInt32) (hdcStatus : Option String) : Bool × Option String :=
  if hasFunction func functionHdc then
    if hdcStatus = some "true" then (true, hdcStatus) else (true, updateSettings "true")
  else
    if hdcStatus = some "false" then (false, hdcStatus) else (true, updateSettings "false")

structure FunctionEnv where
  permissions : Permissions
  parameters : HdcParameters
  hdi : FunctionHdi

/-- A failure to write the setting is only logged. -/
def setCurrentFunctions (env : FunctionEnv) (functions : UInt32) (s : FunctionService) : Ret × FunctionService :=
  if !s.usbRightManager then (.uec .serviceInvalidValue, s)
  else
    match checkSysApiPermission env.permissions with
    | .ok =>
      match hasSetFuncRight env.parameters functions with
      | .ok =>
        match s.usbDeviceManager with
        | none => (.uec .serviceInvalidValue, s)
        | some m =>
          let (_, hdcStatus) := setSettingsDataHdcStatus functions s.hdcStatus
          let (ret, m) := Gadget.setCurrentFunctions env.hdi functions m
          (ret, { s with usbDeviceManager := some m, hdcStatus := hdcStatus })
      | ret => (ret, s)
    | ret => (ret, s)

/-! ## All or nothing -/

/-- The value of `HDC_STATUS` that goes with the functions. -/
def hdcStatusOf (functions : UInt32) : String := if hasFunction functions functionHdc then "true" else "false"

/-- What the driver and the manager have. -/
def held (s : FunctionService) : Option (UInt32 × UInt32) :=
  s.usbDeviceManager.map fun m => (m.hdiFunction, m.currentFunctions)

/-- The driver, the manager and the setting change together, and only if the call succeeds. -/
structure AllOrNothing (functions : UInt32) (s : FunctionService) (ret : Ret) (s' : FunctionService) : Prop where
  all : ret = .ok → held s' = some (functions, functions) ∧ s'.hdcStatus = some (hdcStatusOf functions)
  nothing : ret ≠ .ok → held s' = held s ∧ s'.hdcStatus = s.hdcStatus

theorem setSettingsDataHdcStatus_snd (func : UInt32) (hdcStatus : Option String) :
    (setSettingsDataHdcStatus func hdcStatus).2 = some (hdcStatusOf func) := by
  unfold setSettingsDataHdcStatus hdcStatusOf updateSettings
  split_ifs <;> simp_all

theorem updateFunctions_hdiFunction (func : UInt32) (m : UsbDeviceManager) :
    (updateFunctions func m).hdiFunction = m.hdiFunction ∧ (updateFunctions func m).currentFunctions = func := by
  have hnotifier : ∀ connected m, (processFunctionNotifier connected func m).hdiFunction = m.hdiFunction ∧
      (processFunctionNotifier connected func m).currentFunctions = m.currentFunctions := by
    intro connected m
    unfold processFunctionNotifier
    dsimp only
    split_ifs <;> exact ⟨rfl, rfl⟩
  unfold updateFunctions
  split
  · rename_i h
    exact ⟨rfl, h.symm⟩
  · rw [(hnotifier _ _).1, (hnotifier _ _).2]
    split_ifs <;> exact ⟨rfl, rfl⟩

theorem setCurrentFunctions_cases (hdi : FunctionHdi) (funcs : UInt32) (m : UsbDeviceManager) :
    let r := Gadget.setCurrentFunctions hdi funcs m
    let silent := m.usbDeviceInterface = false ∨ hdi.getCurrentFunctions ≠ .ok
    (silent ∧ r.1 ≠ .ok ∧ r.2 = m) ∨ (¬ silent ∧ m.hdiFunction = funcs ∧ r.1 = .ok ∧ r.2 = m) ∨
      (¬ silent ∧ m.hdiFunction ≠ funcs ∧ hdi.setCurrentFunctions funcs ≠ .ok ∧ r.1 ≠ .ok ∧ r.2 = m) ∨
      (¬ silent ∧ m.hdiFunction ≠ funcs ∧ hdi.setCurrentFunctions funcs = .ok ∧ r.1 = .ok ∧
        r.2.hdiFunction = funcs ∧ r.2.currentFunctions = funcs) := by
  obtain ⟨hhdi, hcurrent⟩ := updateFunctions_hdiFunction funcs { m with hdiFunction := funcs }
  unfold Gadget.setCurrentFunctions
  dsimp only
  split_ifs with hface hget hsame hset hsupport <;> simp_all

/-- The call gets past its checks and reaches the manager. -/
structure Admitted (env : FunctionEnv) (functions : UInt32) (s : FunctionService) (m : UsbDeviceManager) : Prop where
  usbRightManager : s.usbRightManager = true
  permission : checkSysApiPermission env.permissions = .ok
  right : hasSetFuncRight env.parameters functions = .ok
  usbDeviceManager : s.usbDeviceManager = some m

/-- What is needed where HDI answers, and where it does not. -/
def Switchable (hdi : FunctionHdi) (functions : UInt32) (hdcStatus : Option String) (m : UsbDeviceManager) : Prop :=
  if m.usbDeviceInterface = false ∨ hdi.getCurrentFunctions ≠ .ok then hdcStatus = some (hdcStatusOf functions)
  else if m.hdiFunction = functions then m.currentFunctions = functions
  else hdi.setCurrentFunctions functions ≠ .ok → hdcStatus = some (hdcStatusOf functions)

theorem setCurrentFunctions_admitted (env : FunctionEnv) (functions : UInt32) (s : FunctionService)
    (m : UsbDeviceManager) (h : Admitted env functions s m) :
    setCurrentFunctions env functions s =
      ((Gadget.setCurrentFunctions env.hdi functions m).1,
        { s with
          usbDeviceManager := some (Gadget.setCurrentFunctions env.hdi functions m).2
          hdcStatus := some (hdcStatusOf functions) }) := by
  unfold setCurrentFunctions
  rw [h.usbRightManager, h.permission, h.right, h.usbDeviceManager]
  simp only [Bool.not_true, Bool.false_eq_true, if_false]
  rw [← setSettingsDataHdcStatus_snd functions s.hdcStatus]

theorem setCurrentFunctions_refused (env : FunctionEnv) (functions : UInt32) (s : FunctionService)
    (h : ∀ m, ¬ Admitted env functions s m) :
    (setCurrentFunctions env functions s).1 ≠ .ok ∧ (setCurrentFunctions env functions s).2 = s := by
  unfold setCurrentFunctions
  rcases hrights : s.usbRightManager with - | -
  · simp
  simp only [Bool.not_true, Bool.false_eq_true, if_false]
  split
  · rename_i hpermission
    split
    · rename_i hright
      rcases hm : s.usbDeviceManager with - | m
      · simp
      · exact absurd ⟨hrights, hpermission, hright, hm⟩ (h m)
    · rename_i hright
      exact ⟨fun hok => hright hok, rfl⟩
  · rename_i hpermission
    exact ⟨fun hok => hpermission hok, rfl⟩

theorem switchable_iff (env : FunctionEnv) (functions : UInt32) (s : FunctionService) (m : UsbDeviceManager)
    (h : Admitted env functions s m) :
    AllOrNothing functions s (setCurrentFunctions env functions s).1 (setCurrentFunctions env functions s).2 ↔
      Switchable env.hdi functions s.hdcStatus m := by
  have hheld : held s = some (m.hdiFunction, m.currentFunctions) := by rw [held, h.usbDeviceManager]; rfl
  rw [setCurrentFunctions_admitted env functions s m h]
  unfold Switchable
  rcases setCurrentFunctions_cases env.hdi functions m with ⟨hsilent, hret, hm⟩ | ⟨hanswers, hsame, hret, hm⟩ |
    ⟨hanswers, hdiffers, hset, hret, hm⟩ | ⟨hanswers, hdiffers, hset, hret, hhdi, hcurrent⟩
  · rw [if_pos hsilent, hm]
    constructor
    · intro hall
      exact (hall.nothing hret).2.symm
    · intro hstatus
      exact ⟨fun hok => absurd hok hret, fun _ => ⟨hheld.symm, hstatus.symm⟩⟩
  · rw [if_neg hanswers, if_pos hsame, hm, hret]
    constructor
    · intro hall
      exact (Prod.mk.inj (Option.some.inj (hall.all rfl).1)).2
    · intro hcurrent
      refine ⟨fun _ => ⟨?_, rfl⟩, fun hne => absurd rfl hne⟩
      exact congrArg some (Prod.ext hsame hcurrent)
  · rw [if_neg hanswers, if_neg hdiffers, hm]
    constructor
    · intro hall _
      exact (hall.nothing hret).2.symm
    · intro hstatus
      exact ⟨fun hok => absurd hok hret, fun _ => ⟨hheld.symm, (hstatus hset).symm⟩⟩
  · rw [if_neg hanswers, if_neg hdiffers, hret]
    constructor
    · intro _ hne
      exact absurd hset hne
    · intro _
      refine ⟨fun _ => ⟨?_, rfl⟩, fun hne => absurd rfl hne⟩
      exact congrArg some (Prod.ext hhdi hcurrent)

/-- The switch is all or nothing exactly if the manager knows what the driver has already, and the setting
needs no change where the driver refuses. -/
theorem set_current_functions_all_or_nothing (env : FunctionEnv) (functions : UInt32) (s : FunctionService) :
    AllOrNothing functions s (setCurrentFunctions env functions s).1 (setCurrentFunctions env functions s).2 ↔
      ∀ m, Admitted env functions s m → Switchable env.hdi functions s.hdcStatus m := by
  by_cases h : ∃ m, Admitted env functions s m
  · obtain ⟨m, hm⟩ := h
    rw [switchable_iff env functions s m hm]
    constructor
    · intro hswitch m' hm'
      obtain rfl := Option.some.inj (hm.usbDeviceManager.symm.trans hm'.usbDeviceManager)
      exact hswitch
    · intro hswitch
      exact hswitch m hm
  · obtain ⟨hret, hkept⟩ := setCurrentFunctions_refused env functions s (not_exists.mp h)
    constructor
    · intro _ m hm
      exact absurd ⟨m, hm⟩ h
    · intro _
      refine ⟨fun hok => absurd hok hret, fun _ => ?_⟩
      rw [hkept]
      exact ⟨rfl, rfl⟩

def systemService : FunctionEnv := ⟨⟨true, true, none⟩, ⟨"true", true⟩, ⟨.ok, fun _ => .hdi (-1)⟩⟩

/-- Right after the start. The driver has the storage function, and the manager still takes it for hdc after a
successful call. The driver refuses a function, and the setting is changed all the same. -/
theorem set_current_functions_partly :
    let started : FunctionService := ⟨true, some (UsbDeviceManager.new true functionStorage), some "false"⟩
    let started' : FunctionService := ⟨true, some (UsbDeviceManager.new true functionHdc), some "true"⟩
    let (ret, s) := setCurrentFunctions systemService functionStorage started
    let (ret', s') := setCurrentFunctions systemService functionMtp started'
    (ret = .ok ∧ held s = some (functionStorage, functionHdc) ∧ ¬ AllOrNothing functionStorage started ret s) ∧
      ret' = .hdi (-1) ∧ s'.hdcStatus = some "false" ∧ ¬ AllOrNothing functionMtp started' ret' s' := by
  refine ⟨⟨by decide, by decide, fun h => ?_⟩, by decide, by decide, fun h => ?_⟩
  · exact absurd (h.all (by decide)).1 (by decide)
  · exact absurd (h.nothing (by decide)).2 (by decide)

end UsbManager.Service
