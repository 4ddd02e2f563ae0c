import UsbManager.Host.Policy
import UsbManager.Lib.Run
import UsbManager.Serial.Dump
import UsbManager.Service.Rights

/-!
# The tables of serial ports

The manager remembers every port that it was ever told of, with its last device. The service keeps the devices whose
rights it checks in a table of its own, which it builds anew from the lists that it asks for itself. Lists that the
host manager or a dump asks for do not reach it.
-/

namespace UsbManager.Service

open Serial

/-! ## Asking for the list -/

/-- The name that the rights go by. -/
def deviceVidPidSerialNum (ele : SerialPort) : String :=
  toString ele.vid ++ "-" ++ toString ele.pid ++ "-" ++ ele.serialNum

/-- The table is cleared first, and a port that is listed twice keeps its first entry. -/
def updateDeviceVidPidMap (serialPortList : List SerialPort) (s : ServiceState) : ServiceState :=
  { s with
    serialVidPidMap := serialPortList.foldl
      (fun map ele => map.insert ele.portId (UsbDev.name ⟨ele.busNum, ele.devAddr⟩, deviceVidPidSerialNum ele))
      StdMap.empty }

/-- A manager that is there stays. -/
def startSerial (serial : Bool) (s : ServiceState) : ServiceState :=
  match s.usbSerialManager with
  | some _ => s
  | none => { s with usbSerialManager := some (SerialManager.new serial) }

/-- `serial` says that a manager that is built now finds the HDI interface. -/
structure SerialEnv where
  checkForTtyUSB : Bool
  serial : Bool
  portList : Ret × List SerialPort

/-- Without a port on the system no manager is built. -/
def tryStartSerial (env : SerialEnv) (s : ServiceState) : ServiceState :=
  if env.checkForTtyUSB then startSerial env.serial s else s

/-- Only this caller refreshes the table of the service. -/
def serialGetPortList (env : SerialEnv) (s : ServiceState) : Ret × List SerialPort × ServiceState :=
  let s := tryStartSerial env s
  match s.usbSerialManager with
  | none => (.ok, [], s)
  | some m =>
    match Serial.serialGetPortList env.portList m with
    | (.ok, serialPortList, m) =>
      (.ok, serialPortList, updateDeviceVidPidMap serialPortList { s with usbSerialManager := some m })
    | (ret, _, m) => (ret, [], { s with usbSerialManager := some m })

/-- The host manager asks the manager of the service. -/
def addUsbSerialDevice (env : Host.Env) (portList : Ret × List SerialPort) (d : UsbDevice) (s : ServiceState) :
    ServiceState :=
  match s.usbSerialManager with
  | none => s
  | some m =>
    let (ret, serialList, m) := Serial.serialGetPortList portList m
    let addresses := serialList.map fun port => (⟨port.busNum, port.devAddr⟩ : UsbDev)
    { s with
      usbSerialManager := some m
      host := Host.addUsbSerialDevice { env with serialGetPortList := some (ret, addresses) } d s.host }

/-- The other commands do not come to the serial manager, or only have it print its help. -/
def doDump (hdi : Nat → PortHdi) (portList : Ret × List SerialPort) (callingTokenId : UInt32) (argList : List String)
    (m : SerialManager) : Dumped :=
  if argList.head? = some usbList then ([], serialPortListDump portList argList m)
  else if argList.head? = some usbGett then serialGetAttributeDump hdi portList callingTokenId argList m
  else ([], m)

/-- Builds a manager if there is none, whatever the command is. -/
def dump (env : SerialEnv) (hdi : Nat → PortHdi) (callingTokenId : UInt32) (argList : List String)
    (s : ServiceState) : List Int × ServiceState :=
  let s := startSerial env.serial s
  match s.usbSerialManager with
  | none => ([], s)
  | some m =>
    let (opened, m) := doDump hdi env.portList callingTokenId argList m
    (opened, { s with usbSerialManager := some m })

/-! ## Steps -/

/-- Whatever calls the serial manager or builds it, apart from the owners of ports. -/
inductive PortOp
  | startSerial (serial : Bool)
  | serialGetPortList (env : SerialEnv)
  | addUsbSerialDevice (env : Host.Env) (portList : Ret × List SerialPort) (d : UsbDevice)
  | dump (env : SerialEnv) (hdi : Nat → PortHdi) (callingTokenId : UInt32) (argList : List String)

def PortOp.step : PortOp → ServiceState → ServiceState
  | .startSerial serial, s => Service.startSerial serial s
  | .serialGetPortList env, s => (Service.serialGetPortList env s).2.2
  | .addUsbSerialDevice env portList d, s => Service.addUsbSerialDevice env portList d s
  | .dump env hdi callingTokenId argList, s => (Service.dump env hdi callingTokenId argList s).2

/-- The ports that the step opened, with their new owner: only a dump opens one. -/
def PortOp.opened : PortOp → ServiceState → List (Int × UInt32)
  | .dump env hdi callingTokenId argList, s =>
    (Service.dump env hdi callingTokenId argList s).1.map fun portId => (portId, callingTokenId)
  | _, _ => []

/-- The list that the step records. -/
def PortOp.listed? : PortOp → ServiceState → Option (List SerialPort)
  | .startSerial _, _ => none
  | .serialGetPortList env, s => (tryStartSerial env s).usbSerialManager.bind (Serial.listed? env.portList)
  | .addUsbSerialDevice _ portList _, s => s.usbSerialManager.bind (Serial.listed? portList)
  | .dump env _ _ argList, s =>
    if listsPorts argList then (Service.startSerial env.serial s).usbSerialManager.bind (Serial.listed? env.portList)
    else none

/-- Only this call shows the list to the service. -/
def PortOp.fromService : PortOp → Bool
  | .serialGetPortList _ => true
  | _ => false

/-! ## What a step does to the tables -/

def serialPort? (s : ServiceState) (p : Int) : Option SerialPort :=
  s.usbSerialManager.bind fun m => m.serialPortMap.find? p

@[simp] theorem startSerial_serialPort? (serial : Bool) (s : ServiceState) (p : Int) :
    serialPort? (startSerial serial s) p = serialPort? s p := by
  unfold startSerial serialPort?
  split
  · rfl
  · rename_i h
    rw [h]
    rfl

@[simp] theorem startSerial_serialVidPidMap (serial : Bool) (s : ServiceState) :
    (startSerial serial s).serialVidPidMap = s.serialVidPidMap := by
  unfold startSerial
  split <;> rfl

@[simp] theorem tryStartSerial_serialPort? (env : SerialEnv) (s : ServiceState) (p : Int) :
    serialPort? (tryStartSerial env s) p = serialPort? s p := by
  unfold tryStartSerial
  split
  · exact startSerial_serialPort? env.serial s p
  · rfl

@[simp] theorem tryStartSerial_serialVidPidMap (env : SerialEnv) (s : ServiceState) :
    (tryStartSerial env s).serialVidPidMap = s.serialVidPidMap := by
  unfold tryStartSerial
  split
  · exact startSerial_serialVidPidMap env.serial s
  · rfl

/-- The last entry of a port in the list counts for the manager. -/
def lastPort? (list : List SerialPort) (p : Int) : Option SerialPort := list.reverse.find? fun it => it.portId = p

/-- The first one counts for the service. -/
def firstPort? (list : List SerialPort) (p : Int) : Option SerialPort := list.find? fun it => it.portId = p

theorem updateDeviceVidPidMap_find? (list : List SerialPort) (s : ServiceState) (p : Int) :
    ((updateDeviceVidPidMap list s).serialVidPidMap.find? p).map Prod.snd =
      (firstPort? list p).map deviceVidPidSerialNum := by
  have hfind := StdMap.find?_foldl_insert SerialPort.portId
    (fun ele => (UsbDev.name ⟨ele.busNum, ele.devAddr⟩, deviceVidPidSerialNum ele)) list StdMap.empty p
  unfold updateDeviceVidPidMap firstPort?
  dsimp only
  rw [hfind, StdMap.find?_empty, Option.none_or, Option.map_map]
  rfl

theorem serialGetPortList_find? (hdi : Ret × List SerialPort) (m : SerialManager) (p : Int) :
    (Serial.serialGetPortList hdi m).2.2.serialPortMap.find? p =
      ((Serial.listed? hdi m).bind (lastPort? · p)).or (m.serialPortMap.find? p) := by
  obtain ⟨hlisted, heq⟩ | ⟨hlisted, ret, list, -, heq⟩ := serialGetPortList_cases hdi m
  · rw [hlisted, heq]
    exact updateSerialPortMap_find? hdi.2 m p
  · rw [hlisted, heq]
    rfl

theorem doDump_serialPortMap (hdi : Nat → PortHdi) (portList : Ret × List SerialPort) (callingTokenId : UInt32)
    (argList : List String) (m : SerialManager) :
    (doDump hdi portList callingTokenId argList m).2.serialPortMap =
      if listsPorts argList then (Serial.serialGetPortList portList m).2.2.serialPortMap else m.serialPortMap := by
  have hne : usbGett ≠ usbList := by decide
  unfold doDump
  split
  · rename_i hlist
    have hnot : argList ≠ [usbGett] := by
      rintro rfl
      exact hne (Option.some.inj hlist)
    simp only [serialPortListDump, listsPorts, hnot, decide_false, Bool.or_false, decide_eq_true_eq]
    split <;> rfl
  · rename_i hlist
    have hnot : argList ≠ [usbList] := by
      rintro rfl
      exact hlist rfl
    simp only [listsPorts, hnot, decide_false, Bool.false_or, decide_eq_true_eq]
    split
    · rename_i hgett
      obtain ⟨rest, rfl⟩ : ∃ rest, argList = usbGett :: rest := by
        cases argList with
        | nil => cases hgett
        | cons a rest => exact ⟨rest, by rw [Option.some.inj hgett]⟩
      rw [serialGetAttributeDump_serialPortMap]
      cases rest <;> simp
    · rename_i hgett
      rw [if_neg]
      rintro rfl
      exact hgett rfl

theorem serialGetPortList_tables (env : SerialEnv) (s : ServiceState) (p : Int) :
    serialPort? (serialGetPortList env s).2.2 p =
        (((PortOp.serialGetPortList env).listed? s).bind (lastPort? · p)).or (serialPort? s p) ∧
      ((serialGetPortList env s).2.2.serialVidPidMap.find? p).map Prod.snd =
        match (PortOp.serialGetPortList env).listed? s with
        | some list => (firstPort? list p).map deviceVidPidSerialNum
        | none => (s.serialVidPidMap.find? p).map Prod.snd := by
  rw [← tryStartSerial_serialPort? env s p, ← tryStartSerial_serialVidPidMap env s]
  dsimp only [serialGetPortList, PortOp.listed?]
  generalize tryStartSerial env s = t
  cases hm : t.usbSerialManager with
  | none => simp
  | some m =>
    have hfind := serialGetPortList_find? env.portList m p
    have hold : serialPort? t p = m.serialPortMap.find? p := by simp [serialPort?, hm]
    rw [hold]
    obtain ⟨hlisted, heq⟩ | ⟨hlisted, ret, list, hret, heq⟩ := serialGetPortList_cases env.portList m
    · rw [heq, hlisted] at hfind
      simp only [heq, Option.bind_some, hlisted]
      exact ⟨hfind, updateDeviceVidPidMap_find? _ _ _⟩
    · simp [heq, hlisted, serialPort?]

theorem PortOp.step_serialPort? (op : PortOp) (s : ServiceState) (p : Int) :
    serialPort? (op.step s) p = ((op.listed? s).bind (lastPort? · p)).or (serialPort? s p) := by
  cases op with
  | startSerial serial => exact startSerial_serialPort? serial s p
  | serialGetPortList env => exact (serialGetPortList_tables env s p).1
  | addUsbSerialDevice env portList d =>
    dsimp only [PortOp.step, Service.addUsbSerialDevice, PortOp.listed?, serialPort?]
    cases hm : s.usbSerialManager with
    | none => simp [hm]
    | some m => exact serialGetPortList_find? portList m p
  | dump env hdi callingTokenId argList =>
    rw [← startSerial_serialPort? env.serial s p]
    dsimp only [PortOp.step, Service.dump, PortOp.listed?, serialPort?]
    cases hm : (Service.startSerial env.serial s).usbSerialManager with
    | none => simp [hm]
    | some m =>
      simp only [Option.bind_some]
      rw [doDump_serialPortMap]
      split
      · exact serialGetPortList_find? env.portList m p
      · rfl

theorem PortOp.step_serialVidPidMap (op : PortOp) (s : ServiceState) (h : op.fromService = false) :
    (op.step s).serialVidPidMap = s.serialVidPidMap := by
  cases op with
  | startSerial serial => exact startSerial_serialVidPidMap serial s
  | serialGetPortList env => cases h
  | addUsbSerialDevice env portList d =>
    dsimp only [PortOp.step, Service.addUsbSerialDevice]
    split <;> rfl
  | dump env hdi callingTokenId argList =>
    dsimp only [PortOp.step, Service.dump]
    split <;> exact startSerial_serialVidPidMap env.serial s

/-! ## Agreement -/

/-- The service lets a port through if and only if it knows the device there, and it knows the device of the manager. -/
structure PortTablesAgree (s : ServiceState) : Prop where
  ports : ∀ p, (∃ m, s.usbSerialManager = some m ∧ isPortIdExist m p = true) ↔ (s.serialVidPidMap.find? p).isSome = true
  devices : ∀ p port entry, serialPort? s p = some port → s.serialVidPidMap.find? p = some entry →
    entry.2 = deviceVidPidSerialNum port

/-- The device at the port, by the manager. -/
def recordName? (s : ServiceState) (p : Int) : Option String := (serialPort? s p).map deviceVidPidSerialNum

/-- The device at the port, by the service. -/
def entryName? (s : ServiceState) (p : Int) : Option String := (s.serialVidPidMap.find? p).map Prod.snd

theorem portTablesAgree_iff (s : ServiceState) : PortTablesAgree s ↔ ∀ p, entryName? s p = recordName? s p := by
  have hport : ∀ p, (∃ m, s.usbSerialManager = some m ∧ isPortIdExist m p = true) ↔ (serialPort? s p).isSome = true := by
    intro p
    unfold serialPort? isPortIdExist
    cases s.usbSerialManager <;> simp
  unfold entryName? recordName?
  constructor
  · rintro ⟨hports, hdevices⟩ p
    have hiff := (hport p).symm.trans (hports p)
    cases hp : serialPort? s p with
    | none =>
      rw [hp] at hiff
      simpa using hiff
    | some port =>
      rw [hp] at hiff
      obtain ⟨entry, hentry⟩ := Option.isSome_iff_exists.mp (hiff.mp rfl)
      rw [hentry, Option.map_some, Option.map_some, hdevices p port entry hp hentry]
  · intro h
    refine ⟨fun p => (hport p).trans ?_, fun p port entry hp hentry => ?_⟩
    · have hsome := congrArg Option.isSome (h p)
      rw [Option.isSome_map, Option.isSome_map] at hsome
      rw [hsome]
    · have hname := h p
      rw [hp, hentry] at hname
      exact Option.some.inj hname

/-- What a list must be like. The service needs every port that the manager knows on it, and no port twice with
different devices. A list for others may only repeat what the service knows already. -/
def ListSound (fromService : Bool) (list : List SerialPort) (s : ServiceState) : Prop :=
  if fromService then
    (∀ p, (serialPort? s p).isSome = true → ∃ port ∈ list, port.portId = p) ∧
      ∀ p, (firstPort? list p).map deviceVidPidSerialNum = (lastPort? list p).map deviceVidPidSerialNum
  else ∀ p port, lastPort? list p = some port → entryName? s p = some (deviceVidPidSerialNum port)

def PortOp.sound (op : PortOp) (s : ServiceState) : Prop :=
  ∀ list, op.listed? s = some list → ListSound op.fromService list s

theorem lastPort?_eq_none (list : List SerialPort) (p : Int) :
    lastPort? list p = none ↔ ∀ port ∈ list, port.portId ≠ p := by
  simp [lastPort?]

theorem PortOp.step_recordName? (op : PortOp) (s : ServiceState) (p : Int) :
    recordName? (op.step s) p =
      (((op.listed? s).bind (lastPort? · p)).map deviceVidPidSerialNum).or (recordName? s p) := by
  unfold recordName?
  rw [op.step_serialPort? s p, Option.map_or]

theorem PortOp.step_entryName? (op : PortOp) (s : ServiceState) (p : Int) :
    entryName? (op.step s) p =
      match op.listed? s with
      | some list => if op.fromService then (firstPort? list p).map deviceVidPidSerialNum else entryName? s p
      | none => entryName? s p := by
  cases hfrom : op.fromService with
  | true =>
    cases op with
    | serialGetPortList env => exact (serialGetPortList_tables env s p).2
    | startSerial serial => cases hfrom
    | addUsbSerialDevice env portList d => cases hfrom
    | dump env hdi callingTokenId argList => cases hfrom
  | false =>
    unfold entryName?
    rw [op.step_serialVidPidMap s hfrom]
    cases op.listed? s <;> rfl

theorem refreshed_iff (list : List SerialPort) (s : ServiceState) :
    (∀ p, (firstPort? list p).map deviceVidPidSerialNum =
      ((lastPort? list p).map deviceVidPidSerialNum).or (recordName? s p)) ↔
    (∀ p, (serialPort? s p).isSome = true → ∃ port ∈ list, port.portId = p) ∧
      ∀ p, (firstPort? list p).map deviceVidPidSerialNum = (lastPort? list p).map deviceVidPidSerialNum := by
  -- A port is missing at both ends of the list or at none.
  have hmissing : ∀ p, lastPort? list p = none → firstPort? list p = none := by
    intro p h
    simpa [firstPort?] using (lastPort?_eq_none list p).mp h
  constructor
  · intro h
    have hsame : ∀ p, (firstPort? list p).map deviceVidPidSerialNum = (lastPort? list p).map deviceVidPidSerialNum := by
      intro p
      rw [h p]
      cases hlast : lastPort? list p with
      | none =>
        have hp := h p
        rw [hlast, hmissing p hlast] at hp
        exact hp.symm
      | some port => rfl
    refine ⟨fun p hp => ?_, hsame⟩
    by_contra hnot
    have hlast := (lastPort?_eq_none list p).mpr fun port hport hid => hnot ⟨port, hport, hid⟩
    obtain ⟨port, hport⟩ := Option.isSome_iff_exists.mp hp
    have hrecord := h p
    rw [hlast, hmissing p hlast, recordName?, hport] at hrecord
    cases hrecord
  · rintro ⟨hknown, hsame⟩ p
    rw [hsame p]
    cases hlast : lastPort? list p with
    | none =>
      cases hport : serialPort? s p with
      | none => simp [recordName?, hport]
      | some port =>
        obtain ⟨port', hmem, hid⟩ := hknown p (by rw [hport]; rfl)
        exact absurd hid ((lastPort?_eq_none list p).mp hlast port' hmem)
    | some port => rfl

theorem repeated_iff (list : List SerialPort) (s : ServiceState) (hs : ∀ p, entryName? s p = recordName? s p) :
    (∀ p, entryName? s p = ((lastPort? list p).map deviceVidPidSerialNum).or (recordName? s p)) ↔
      ∀ p port, lastPort? list p = some port → entryName? s p = some (deviceVidPidSerialNum port) := by
  constructor
  · intro h p port hlast
    rw [h p, hlast]
    rfl
  · intro h p
    cases hlast : lastPort? list p with
    | none => exact hs p
    | some port => exact h p port hlast

theorem PortOp.step_agree_iff (op : PortOp) (s : ServiceState) (hs : PortTablesAgree s) :
    PortTablesAgree (op.step s) ↔ op.sound s := by
  rw [portTablesAgree_iff] at hs ⊢
  unfold PortOp.sound
  cases hlisted : op.listed? s with
  | none =>
    simp only [reduceCtorEq, false_implies, implies_true, iff_true]
    intro p
    rw [op.step_recordName? s p, hlisted, op.step_entryName? s p, hlisted]
    simpa using hs p
  | some list =>
    simp only [Option.some.injEq, forall_eq']
    have hrecord : ∀ p, recordName? (op.step s) p =
        ((lastPort? list p).map deviceVidPidSerialNum).or (recordName? s p) := by
      intro p
      rw [op.step_recordName? s p, hlisted]
      rfl
    have hentry : ∀ p, entryName? (op.step s) p =
        if op.fromService then (firstPort? list p).map deviceVidPidSerialNum else entryName? s p := by
      intro p
      rw [op.step_entryName? s p, hlisted]
    simp only [hrecord, hentry, ListSound]
    cases op.fromService with
    | true => exact refreshed_iff list s
    | false => exact repeated_iff list s hs

/-! ## Runs -/

/-- Right after the start there is no manager, or one that was not asked yet. -/
def NothingListed (s : ServiceState) : Prop :=
  s.serialVidPidMap = StdMap.empty ∧ ∀ m, s.usbSerialManager = some m → m.serialPortMap = StdMap.empty

theorem NothingListed.agree {s : ServiceState} (h : NothingListed s) : PortTablesAgree s := by
  rw [portTablesAgree_iff]
  intro p
  have hport : serialPort? s p = none := by
    unfold serialPort?
    cases hm : s.usbSerialManager with
    | none => rfl
    | some m => simp [h.2 m hm]
  rw [entryName?, recordName?, h.1, hport]
  rfl

/-- In every run of sound lists the tables agree, and no longer after the first list that is not sound. -/
theorem port_tables_agree (s : ServiceState) (hs : Run.Reachable NothingListed PortOp.step PortOp.sound s) :
    PortTablesAgree s ∧ ∀ op : PortOp, ¬ op.sound s → ¬ PortTablesAgree (op.step s) :=
  hs.exact (fun _ => NothingListed.agree) PortOp.step_agree_iff

def modem : SerialPort := ⟨0, 1, 2, 7, 1, "a"⟩

def printer : SerialPort := ⟨0, 1, 3, 8, 1, "b"⟩

def scanner : SerialPort := ⟨1, 1, 4, 9, 1, "c"⟩

def booted : ServiceState :=
  ⟨Host.HostState.init, StdMap.empty, StdMap.empty, true, some (SerialManager.new true), none, ⟨[], none, 0⟩⟩

theorem booted_nothingListed : NothingListed booted := by
  refine ⟨rfl, fun m hm => ?_⟩
  obtain rfl := Option.some.inj hm
  rfl

def modemListed : ServiceState := (PortOp.serialGetPortList ⟨true, true, .ok, [modem]⟩).step booted

theorem modemListed_reachable : Run.Reachable NothingListed PortOp.step PortOp.sound modemListed := by
  refine .step _ (.init booted_nothingListed) ?_
  intro list hlist
  obtain rfl : list = [modem] := (Option.some.inj hlist).symm
  refine ⟨fun p hp => ?_, fun p => rfl⟩
  cases hp

/-- A client asks for the list, a second device is found, and a dump lists both again. -/
def scannerListed : ServiceState :=
  (PortOp.dump ⟨true, true, .ok, [modem, scanner]⟩ (fun _ => ⟨0, 0, 0⟩) 2000 ["-l"]).step
    ((PortOp.serialGetPortList ⟨true, true, .ok, [modem, scanner]⟩).step modemListed)

theorem port_tables_agree_modem : entryName? scannerListed 1 = some "9-1-c" ∧ PortTablesAgree scannerListed := by
  refine ⟨by decide +kernel, (port_tables_agree scannerListed ?_).1⟩
  refine .step _ (.step _ modemListed_reachable ?_) ?_
  · intro list hlist
    obtain rfl : list = [modem, scanner] := (Option.some.inj hlist).symm
    refine ⟨fun p hp => ⟨modem, List.mem_cons_self, ?_⟩, fun p => ?_⟩
    · by_contra hne
      rw [modemListed, PortOp.step_serialPort?] at hp
      have hlast : lastPort? [modem] p = none := by simpa [lastPort?] using hne
      have hbefore : serialPort? booted p = none := rfl
      rw [show PortOp.listed? _ booted = some [modem] from rfl, Option.bind_some, hlast, hbefore] at hp
      cases hp
    · by_cases hmodem : modem.portId = p
      · subst hmodem
        rfl
      · by_cases hscanner : scanner.portId = p
        · subst hscanner
          rfl
        · simp [firstPort?, lastPort?, hmodem, hscanner]
  · intro list hlist
    obtain rfl : list = [modem, scanner] := (Option.some.inj hlist).symm
    intro p port hport
    have hmem : port ∈ [modem, scanner] := List.mem_reverse.mp (List.mem_of_find?_eq_some hport)
    have hid : port.portId = p := by simpa using List.find?_some hport
    subst hid
    rcases List.mem_cons.mp hmem with rfl | hmem
    · decide +kernel
    · obtain rfl := List.mem_singleton.mp hmem
      decide +kernel

/-- The modem is gone, and a printer that takes its port is recorded by the manager alone: the rights on the port
still go by the modem. -/
theorem port_tables_differ_after_attach :
    let s := (PortOp.addUsbSerialDevice Host.Env.succeeding (.ok, [printer]) { busNum := 1, devAddr := 3 }).step modemListed
    Run.Reachable NothingListed PortOp.step (fun _ _ => True) s ∧ entryName? s 0 = some "7-1-a" ∧
      serialPort? s 0 = some printer ∧ ¬ PortTablesAgree s := by
  intro s
  have hentry : entryName? s 0 = some "7-1-a" := by decide +kernel
  have hport : serialPort? s 0 = some printer := by decide +kernel
  refine ⟨.step _ (.step _ (.init booted_nothingListed) trivial) trivial, hentry, hport, fun h => ?_⟩
  have hname := (portTablesAgree_iff s).mp h 0
  rw [hentry, recordName?, hport] at hname
  have hne : some "7-1-a" ≠ some (deviceVidPidSerialNum printer) := by decide +kernel
  exact hne hname

end UsbManager.Service
