import UsbManager.Lib.Simulation
import UsbManager.Lib.StdMap
import UsbManager.Types

/-!
# The port manager

`usb_port_manager.cpp`: the ports with their roles, and the supported modes in a map of their own that only
`Init` fills.
-/

namespace UsbManager.Port

/-- What a port is at the moment. -/
structure UsbPortStatus where
  currentMode : Int
  currentPowerRole : Int
  currentDataRole : Int
  deriving DecidableEq, Repr

structure UsbPort where
  id : Int
  supportedModes : Int
  usbPortStatus : UsbPortStatus
  deriving DecidableEq, Repr

/-- A port is stored under its own id. -/
structure UsbPortManager where
  portMap : StdMap Int UsbPort
  supportedModeMap : StdMap Int Int
  keyed : ∀ p port, portMap.find? p = some port → port.id = p

/-- What HDI answers: whether the interface is there, and the result of `QueryPorts`. -/
structure PortHdi where
  usbPortInterface : Bool
  queryPorts : Ret × List UsbPort

/-- The roles and modes that the manager tells apart. -/
def dataRoleHost : Int := 1

def dataRoleDevice : Int := 2

def portModeDevice : Int := 1

def portModeHost : Int := 2

/-! ## Adding and updating ports -/

theorem keyed_insert (m : UsbPortManager) (port : UsbPort) (p : Int) (port' : UsbPort)
    (h : (m.portMap.insert port.id port).find? p = some port') : port'.id = p := by
  rw [StdMap.find?_insert] at h
  split at h
  · rename_i hp
    rw [← Option.some.inj h, hp.1]
  · exact m.keyed p port' h

/-- A port that is there keeps its entry. -/
def addPort (port : UsbPort) (m : UsbPortManager) : UsbPortManager :=
  { m with portMap := m.portMap.insert port.id port, keyed := keyed_insert m port }

/-- The arguments stand in another order than the fields. -/
def addPortInfo (portId supportedModes currentMode currentDataRole currentPowerRole : Int) (m : UsbPortManager) :
    UsbPortManager :=
  addPort ⟨portId, supportedModes, ⟨currentMode, currentPowerRole, currentDataRole⟩⟩ m

/-- The modes are copied once, from the ports that are there. -/
def addSupportedMode (m : UsbPortManager) : UsbPortManager :=
  { m with
    supportedModeMap := m.portMap.entries.foldl (fun modes e => modes.set e.1 e.2.supportedModes) StdMap.empty }

/-- A failed query leaves the ports as they were. -/
def queryPort (hdi : PortHdi) (m : UsbPortManager) : Ret × UsbPortManager :=
  if !hdi.usbPortInterface then (.uec .serviceInvalidValue, m)
  else
    let (ret, portList) := hdi.queryPorts
    if ret ≠ .ok then (ret, m)
    else
      (ret, portList.foldl (fun m it => addPortInfo it.id it.supportedModes it.usbPortStatus.currentMode
        it.usbPortStatus.currentDataRole it.usbPortStatus.currentPowerRole m) m)

/-- The result of the query is only logged. -/
def init (hdi : PortHdi) (m : UsbPortManager) : UsbPortManager := addSupportedMode (queryPort hdi m).2

def ports (m : UsbPortManager) : List UsbPort := m.portMap.entries.map Prod.snd

/-- The ports are queried again as long as there are none. -/
def getPorts (hdi : PortHdi) (m : UsbPortManager) : Ret × List UsbPort × UsbPortManager :=
  if m.portMap.entries.length > 0 then (.ok, ports m, m)
  else
    let (ret, m) := queryPort hdi m
    if ret = .ok then (ret, ports m, m) else (.uec .serviceInvalidValue, [], m)

/-- Answered from the copy of the modes. -/
def getSupportedModes (portId : Int) (m : UsbPortManager) : Except UsbErrCode Int :=
  match m.supportedModeMap.find? portId with
  | some supportedModes => .ok supportedModes
  | none => .error .serviceInvalidValue

/-- The mode follows the data role, so the one that is reported is not used. -/
def UsbPort.setRoles (powerRole dataRole : Int) (port : UsbPort) : UsbPort :=
  { port with
    usbPortStatus :=
      { currentPowerRole := powerRole
        currentDataRole := dataRole
        currentMode :=
          if dataRole = dataRoleHost then portModeHost
          else if dataRole = dataRoleDevice then portModeDevice
          else port.usbPortStatus.currentMode } }

theorem keyed_modify (m : UsbPortManager) (portId powerRole dataRole p : Int) (port : UsbPort)
    (h : (m.portMap.modify portId (UsbPort.setRoles powerRole dataRole)).find? p = some port) : port.id = p := by
  rw [StdMap.find?_modify] at h
  split at h
  · obtain ⟨old, hold, rfl⟩ := Option.map_eq_some_iff.mp h
    exact m.keyed p old hold
  · exact m.keyed p port h

/-- Only a port that is there is changed. -/
def updatePort (portId powerRole dataRole _mode : Int) (m : UsbPortManager) : UsbPortManager :=
  match m.portMap.find? portId with
  | some port =>
    if port.id = portId then
      { m with
        portMap := m.portMap.modify portId (UsbPort.setRoles powerRole dataRole)
        keyed := keyed_modify m portId powerRole dataRole }
    else m
  | none => m

/-- The form with the supported modes does not store them either. -/
def updatePortModes (portId powerRole dataRole mode _supportedModes : Int) (m : UsbPortManager) : UsbPortManager :=
  updatePort portId powerRole dataRole mode m

theorem keyed_erase (m : UsbPortManager) (portId p : Int) (port : UsbPort)
    (h : (m.portMap.erase portId).find? p = some port) : port.id = p := by
  rw [StdMap.find?_erase] at h
  split at h
  · cases h
  · exact m.keyed p port h

/-- The modes of the port stay in their own map. -/
def removePort (portId : Int) (m : UsbPortManager) : UsbPortManager :=
  { m with portMap := m.portMap.erase portId, keyed := keyed_erase m portId }

/-! ## The two views -/

/-- The supported modes of the ports as `GetSupportedModes` and as `GetPorts` give them. -/
def ViewsAgree (m : UsbPortManager) : Prop :=
  ∀ p modes, getSupportedModes p m = .ok modes ↔ ∃ port ∈ ports m, port.id = p ∧ port.supportedModes = modes

theorem mem_ports (m : UsbPortManager) (p : Int) (port : UsbPort) :
    port ∈ ports m ∧ port.id = p ↔ m.portMap.find? p = some port := by
  unfold ports
  rw [List.mem_map]
  constructor
  · rintro ⟨⟨⟨k, port'⟩, he, rfl⟩, rfl⟩
    have hfind := (m.portMap.find?_eq_some k port').mpr he
    rwa [m.keyed k port' hfind]
  · intro h
    exact ⟨⟨(p, port), (m.portMap.find?_eq_some p port).mp h, rfl⟩, m.keyed p port h⟩

theorem getSupportedModes_ok (p modes : Int) (m : UsbPortManager) :
    getSupportedModes p m = .ok modes ↔ m.supportedModeMap.find? p = some modes := by
  unfold getSupportedModes
  split
  · rename_i hfind
    rw [hfind, Except.ok.injEq, Option.some.injEq]
  · rename_i hfind
    simp [hfind]

theorem viewsAgree_iff (m : UsbPortManager) :
    ViewsAgree m ↔ ∀ p, m.supportedModeMap.find? p = (m.portMap.find? p).map UsbPort.supportedModes := by
  unfold ViewsAgree
  refine forall_congr' fun p => ?_
  rw [Option.ext_iff]
  refine forall_congr' fun modes => ?_
  rw [getSupportedModes_ok, Option.map_eq_some_iff]
  simp only [← mem_ports, and_assoc]

theorem addSupportedMode_find? (m : UsbPortManager) (p : Int) :
    (addSupportedMode m).supportedModeMap.find? p = (m.portMap.find? p).map UsbPort.supportedModes := by
  unfold addSupportedMode
  have hfold := StdMap.find?_foldl_set (fun e : Int × UsbPort => e.1) (fun e => e.2.supportedModes) m.portMap.entries
    StdMap.empty p
  rw [StdMap.find?_empty, Option.or_none] at hfold
  rw [← m.portMap.find?_reverse_entries, Option.map_map]
  exact hfold

/-! ## Steps -/

/-- The ports that the query adds. -/
def PortHdi.reported (hdi : PortHdi) : List UsbPort :=
  if hdi.usbPortInterface ∧ hdi.queryPorts.1 = .ok then hdi.queryPorts.2 else []

theorem queryPort_snd (hdi : PortHdi) (m : UsbPortManager) :
    (queryPort hdi m).2 = hdi.reported.foldl (fun m port => addPort port m) m := by
  unfold queryPort PortHdi.reported
  rcases hface : hdi.usbPortInterface with - | -
  · rfl
  rcases hquery : hdi.queryPorts with ⟨ret, portList⟩
  by_cases hret : ret = .ok
  · simp [hret, addPortInfo]
  · simp [hret]

theorem queryPort_supportedModeMap (hdi : PortHdi) (m : UsbPortManager) :
    (queryPort hdi m).2.supportedModeMap = m.supportedModeMap := by
  rw [queryPort_snd]
  generalize hdi.reported = l
  induction l generalizing m with
  | nil => rfl
  | cons port l ih => rw [List.foldl_cons, ih]; rfl

theorem queryPort_find? (hdi : PortHdi) (m : UsbPortManager) (p : Int) :
    (queryPort hdi m).2.portMap.find? p = (m.portMap.find? p).or (hdi.reported.find? fun port => port.id = p) := by
  have hmap : (queryPort hdi m).2.portMap = hdi.reported.foldl (fun map port => map.insert port.id port) m.portMap := by
    rw [queryPort_snd]
    generalize hdi.reported = l
    induction l generalizing m with
    | nil => rfl
    | cons port l ih => rw [List.foldl_cons, ih, List.foldl_cons]; rfl
  have hfold := StdMap.find?_foldl_insert UsbPort.id (fun port => port) hdi.reported m.portMap p
  rw [Option.map_id'] at hfold
  rw [hmap, hfold]

theorem updatePort_modes (portId powerRole dataRole mode : Int) (m : UsbPortManager) (p : Int) :
    ((updatePort portId powerRole dataRole mode m).portMap.find? p).map UsbPort.supportedModes =
      (m.portMap.find? p).map UsbPort.supportedModes := by
  unfold updatePort
  split
  · split
    · simp only [StdMap.find?_modify]
      split
      · rw [Option.map_map]
        rfl
      · rfl
    · rfl
  · rfl

theorem updatePort_supportedModeMap (portId powerRole dataRole mode : Int) (m : UsbPortManager) :
    (updatePort portId powerRole dataRole mode m).supportedModeMap = m.supportedModeMap := by
  unfold updatePort
  split
  · split <;> rfl
  · rfl

/-- A call of the port manager, with what HDI answers. -/
inductive Op
  | init (hdi : PortHdi)
  | getPorts (hdi : PortHdi)
  | updatePort (portId powerRole dataRole mode : Int)
  | updatePortModes (portId powerRole dataRole mode supportedModes : Int)
  | removePort (portId : Int)

def Op.step : Op → UsbPortManager → UsbPortManager
  | .init hdi, m => Port.init hdi m
  | .getPorts hdi, m => (Port.getPorts hdi m).2.2
  | .updatePort portId powerRole dataRole mode, m => Port.updatePort portId powerRole dataRole mode m
  | .updatePortModes portId powerRole dataRole mode supportedModes, m =>
    Port.updatePortModes portId powerRole dataRole mode supportedModes m
  | .removePort portId, m => Port.removePort portId m

/-- No call of `GetPorts` is the one that first finds ports, and no port is removed. -/
def Op.sound : Op → UsbPortManager → Prop
  | .getPorts hdi, m => ports m ≠ [] ∨ hdi.reported = []
  | .removePort portId, m => ∀ port ∈ ports m, port.id ≠ portId
  | _, _ => True

theorem getPorts_snd (hdi : PortHdi) (m : UsbPortManager) :
    (getPorts hdi m).2.2 = if ports m = [] then (queryPort hdi m).2 else m := by
  unfold getPorts ports
  rcases hentries : m.portMap.entries with - | ⟨e, l⟩
  · simp only [List.length_nil, gt_iff_lt, Nat.lt_irrefl, if_false, List.map_nil, if_true]
    rcases queryPort hdi m with ⟨ret, m'⟩
    by_cases hret : ret = .ok <;> simp [hret]
  · simp

theorem find?_of_ports_nil (m : UsbPortManager) (h : ports m = []) (p : Int) : m.portMap.find? p = none := by
  rcases hfind : m.portMap.find? p with - | port
  · rfl
  · have := ((mem_ports m p port).mpr hfind).1
    rw [h] at this
    cases this

theorem step_getPorts_iff (hdi : PortHdi) (m : UsbPortManager) (hm : ViewsAgree m) :
    ViewsAgree (getPorts hdi m).2.2 ↔ (Op.getPorts hdi).sound m := by
  unfold Op.sound
  rw [getPorts_snd]
  by_cases hports : ports m = []
  · rw [if_pos hports]
    rw [viewsAgree_iff] at hm
    constructor
    · -- The first port of the answer would be in the map of ports and not in the other one.
      intro h
      right
      cases hrep : hdi.reported with
      | nil => rfl
      | cons port l =>
        have hmodes := (viewsAgree_iff _).mp h port.id
        rw [queryPort_supportedModeMap, hm, queryPort_find?, find?_of_ports_nil m hports, hrep] at hmodes
        simp at hmodes
    · rintro (h | h)
      · exact absurd hports h
      · rw [queryPort_snd, h]
        exact (viewsAgree_iff m).mpr hm
  · rw [if_neg hports]
    exact ⟨fun _ => .inl hports, fun _ => hm⟩

theorem step_removePort_iff (portId : Int) (m : UsbPortManager) (hm : ViewsAgree m) :
    ViewsAgree (removePort portId m) ↔ (Op.removePort portId).sound m := by
  unfold Op.sound
  have hmodes := (viewsAgree_iff m).mp hm
  rw [viewsAgree_iff]
  simp only [removePort, StdMap.find?_erase, hmodes]
  constructor
  · intro h port hport hid
    have := h portId
    rw [if_pos rfl, (mem_ports m portId port).mp ⟨hport, hid⟩] at this
    cases this
  · intro h p
    split
    · rename_i hp
      rcases hfind : m.portMap.find? p with - | port
      · rfl
      · obtain ⟨hport, hid⟩ := (mem_ports m p port).mpr hfind
        exact absurd (hid.trans hp) (h port hport)
    · rfl

theorem Op.step_viewsAgree_iff (op : Op) (m : UsbPortManager) (hm : ViewsAgree m) :
    ViewsAgree (op.step m) ↔ op.sound m := by
  have hmodes := (viewsAgree_iff m).mp hm
  cases op with
  | init hdi => exact ⟨fun _ => trivial, fun _ => (viewsAgree_iff _).mpr (addSupportedMode_find? _)⟩
  | getPorts hdi => exact step_getPorts_iff hdi m hm
  | updatePort portId powerRole dataRole mode =>
    refine ⟨fun _ => trivial, fun _ => (viewsAgree_iff _).mpr fun p => ?_⟩
    simp only [Op.step, updatePort_supportedModeMap, updatePort_modes, hmodes]
  | updatePortModes portId powerRole dataRole mode supportedModes =>
    refine ⟨fun _ => trivial, fun _ => (viewsAgree_iff _).mpr fun p => ?_⟩
    show (Port.updatePort portId powerRole dataRole mode m).supportedModeMap.find? p =
      ((Port.updatePort portId powerRole dataRole mode m).portMap.find? p).map UsbPort.supportedModes
    rw [updatePort_supportedModeMap, updatePort_modes, hmodes]
  | removePort portId => exact step_removePort_iff portId m hm

/-! ## Every run -/

def UsbPortManager.new : UsbPortManager := ⟨StdMap.empty, StdMap.empty, by simp⟩

abbrev Reachable (C : Op → UsbPortManager → Prop) : UsbPortManager → Prop :=
  Run.Reachable (· = UsbPortManager.new) Op.step C

/-- The views agree in every run of sound calls, and no longer after the first call that is not sound. -/
theorem views_agree (m : UsbPortManager) (hm : Reachable Op.sound m) :
    ViewsAgree m ∧ ∀ op : Op, ¬ op.sound m → ¬ ViewsAgree (op.step m) := by
  refine hm.exact ?_ fun op m h => op.step_viewsAgree_iff m h
  rintro - rfl
  exact (viewsAgree_iff _).mpr fun _ => rfl

def queried : PortHdi := ⟨true, .ok, [⟨1, 3, ⟨1, 2, 2⟩⟩]⟩

/-- After the start the port changes its roles, the ports are listed, and a port that is not there is removed. -/
def queriedRun : List Op :=
  [.init queried, .updatePort 1 2 1 2, .getPorts ⟨true, .hdi (-1), []⟩, .removePort 2]

def listed : UsbPortManager := queriedRun.foldl (fun m op => op.step m) .new

theorem views_agree_after_init : ports listed = [⟨1, 3, ⟨2, 2, 1⟩⟩] ∧ ViewsAgree listed := by
  have hports : ports (queriedRun.take 3 |>.foldl (fun m op => op.step m) .new) = [⟨1, 3, ⟨2, 2, 1⟩⟩] := by
    decide +kernel
  have hallowed : Simulation.Allowed Op.step Op.sound queriedRun .new := by
    refine ⟨trivial, trivial, .inl (by decide +kernel), fun port hport => ?_, trivial⟩
    rw [show port = ⟨1, 3, ⟨2, 2, 1⟩⟩ from List.mem_singleton.mp (hports ▸ hport)]
    decide
  exact ⟨by decide +kernel, (views_agree listed (Simulation.reachable_foldl (.init rfl) hallowed)).1⟩

/-- HDI answers only after the start: `GetPorts` lists the port and `GetSupportedModes` does not know it. -/
theorem views_differ_after_late_query :
    let m := (Op.getPorts queried).step ((Op.init ⟨true, .hdi (-1), []⟩).step UsbPortManager.new)
    Reachable (fun _ _ => True) m ∧ ports m = [⟨1, 3, ⟨1, 2, 2⟩⟩] ∧
      getSupportedModes 1 m = .error .serviceInvalidValue ∧ ¬ ViewsAgree m := by
  intro m
  have hports : ports m = [⟨1, 3, ⟨1, 2, 2⟩⟩] := by decide +kernel
  have hmodes : getSupportedModes 1 m = .error .serviceInvalidValue := by rfl
  refine ⟨.step _ (.step _ (.init rfl) trivial) trivial, hports, hmodes, fun h => ?_⟩
  have := (h 1 3).mpr ⟨_, by rw [hports]; exact List.mem_cons_self, rfl, rfl⟩
  rw [hmodes] at this
  cases this

end UsbManager.Port
