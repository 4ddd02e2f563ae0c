import Mathlib.Algebra.Order.Group.Unbundled.Int
import UsbManager.Serial.Manager

/-!
# Operations on serial ports

`SerialOpen`, `SerialRead`, `SerialWrite`, the attributes and `FreeTokenId` of `serial_manager.cpp`.
The first read and the first write after an open are reported. What is only handed through to HDI or
from it (bytes, attributes, time-outs) is left out, and so are the reports of opens and closes.
-/

namespace UsbManager.Serial

/-! ## Opening and freeing -/

/-- The key is new here, so the assignment to `portTokenMap_[portId]` is an insertion. -/
def SerialManager.own (m : SerialManager) (portId : Int) (tokenId : UInt32) (hserial : m.serial = true) :
    SerialManager :=
  { m with
    portTokenMap := m.portTokenMap.insert portId tokenId
    unopened := fun h => by rw [hserial] at h; cases h }

/-- A port has one owner at a time, also if that is the caller. -/
def serialOpen (hdi : Int) (callingTokenId : UInt32) (portId : Int) (m : SerialManager) : Ret × SerialManager :=
  if hserial : m.serial then
    if (m.portTokenMap.find? portId).isSome then (.uec .serialPortRepeatOpen, m)
    else if hdi ≠ 0 then (.uec (errorCodeWrap hdi), m)
    else (.ok, m.own portId callingTokenId hserial)
  else (.uec .serviceInvalidValue, m)

theorem SerialManager.unopened_erase (m : SerialManager) (portId : Int) (h : m.serial = false) :
    m.portTokenMap.erase portId = StdMap.empty := by
  rw [m.unopened h, erase_empty]

/-- Nobody owns the port, but what it was used for stays. -/
def SerialManager.disown (m : SerialManager) (portId : Int) : SerialManager :=
  { m with
    portTokenMap := m.portTokenMap.erase portId
    unopened := m.unopened_erase portId }

/-- Called when a client dies. The source returns nothing: the flag says that it got past the guard.
HDI is asked to close the port, and its answer is not looked at. -/
def freeTokenId (portId : Int) (tokenId : UInt32) (m : SerialManager) : Bool × SerialManager :=
  if m.portTokenMap.find? portId = some tokenId then (true, m.disown portId) else (false, m)

/-! ## Reads, writes and attributes -/

/-- The two kinds of use that are reported. -/
inductive Transfer
  | read
  | write
  deriving DecidableEq, Repr

/-- `portsHasBeenRead_` or `portsHasBeenWritten_`. -/
def SerialManager.seen (m : SerialManager) : Transfer → List Int
  | .read => m.portsHasBeenRead
  | .write => m.portsHasBeenWritten

/-- Whether this is the first read of the port since it was closed. -/
def queryAndRecordFirstRead (portId : Int) (m : SerialManager) : Bool × SerialManager :=
  if portId ∈ m.portsHasBeenRead then (false, m)
  else (true, { m with portsHasBeenRead := portId :: m.portsHasBeenRead })

def queryAndRecordFirstWrite (portId : Int) (m : SerialManager) : Bool × SerialManager :=
  if portId ∈ m.portsHasBeenWritten then (false, m)
  else (true, { m with portsHasBeenWritten := portId :: m.portsHasBeenWritten })

/-- `actualSize` is set only on success. -/
structure TransferResult where
  ret : Ret
  actualSize : Option UInt32
  reported : Bool
  deriving DecidableEq, Repr

/-- Reading and writing differ in the set that they record. A result of HDI that is not negative is
the number of bytes. -/
def serialTransfer (queryAndRecordFirst : Int → SerialManager → Bool × SerialManager) (hdi : Int)
    (callingTokenId : UInt32) (portId : Int) (m : SerialManager) : TransferResult × SerialManager :=
  match checkPortAndTokenId m callingTokenId portId with
  | .ok =>
    if hdi < 0 then (⟨.uec (errorCodeWrap hdi), none, false⟩, m)
    else
      let (first, m) := queryAndRecordFirst portId m
      (⟨.ok, some (UInt32.ofInt hdi), first⟩, m)
  | ret => (⟨ret, none, false⟩, m)

def serialRead (hdi : Int) (callingTokenId : UInt32) (portId : Int) (m : SerialManager) :
    TransferResult × SerialManager :=
  serialTransfer queryAndRecordFirstRead hdi callingTokenId portId m

def serialWrite (hdi : Int) (callingTokenId : UInt32) (portId : Int) (m : SerialManager) :
    TransferResult × SerialManager :=
  serialTransfer queryAndRecordFirstWrite hdi callingTokenId portId m

/-- Getting and setting differ only in what HDI is asked. -/
def serialAttribute (hdi : Int) (callingTokenId : UInt32) (portId : Int) (m : SerialManager) : Ret :=
  match checkPortAndTokenId m callingTokenId portId with
  | .ok => if hdi ≠ 0 then .uec (errorCodeWrap hdi) else .ok
  | ret => ret

def serialGetAttribute (hdi : Int) (callingTokenId : UInt32) (portId : Int) (m : SerialManager) : Ret :=
  serialAttribute hdi callingTokenId portId m

def serialSetAttribute (hdi : Int) (callingTokenId : UInt32) (portId : Int) (m : SerialManager) : Ret :=
  serialAttribute hdi callingTokenId portId m

/-! ## The list of the ports -/

def SerialManager.new (serial : Bool) : SerialManager := ⟨serial, StdMap.empty, StdMap.empty, [], [], fun _ => rfl⟩

/-- A port that is no longer listed stays. -/
def updateSerialPortMap (serialPortList : List SerialPort) (m : SerialManager) : SerialManager :=
  { m with serialPortMap := serialPortList.foldl (fun map it => map.set it.portId it) m.serialPortMap }

/-- `hdi` is the result of HDI, with the list that it filled. -/
def serialGetPortList (hdi : Ret × List SerialPort) (m : SerialManager) : Ret × List SerialPort × SerialManager :=
  if !m.serial then (.uec .serviceInvalidValue, [], m)
  else if hdi.1 ≠ .ok then (hdi.1, hdi.2, m)
  else (.ok, hdi.2, updateSerialPortMap hdi.2 m)

/-! ## What one operation does -/

theorem own_find? (m : SerialManager) (portId : Int) (tokenId : UInt32) (h : m.serial = true)
    (hfree : m.portTokenMap.find? portId = none) (p : Int) :
    (m.own portId tokenId h).portTokenMap.find? p = if p = portId then some tokenId else m.portTokenMap.find? p := by
  rw [SerialManager.own, StdMap.find?_insert]
  simp [(m.portTokenMap.find?_eq_none portId).mp hfree]

@[simp] theorem release_find? (m : SerialManager) (portId p : Int) :
    (m.release portId).portTokenMap.find? p = if p = portId then none else m.portTokenMap.find? p :=
  StdMap.find?_erase _ _ _

@[simp] theorem disown_find? (m : SerialManager) (portId p : Int) :
    (m.disown portId).portTokenMap.find? p = if p = portId then none else m.portTokenMap.find? p :=
  StdMap.find?_erase _ _ _

section Specs

variable (hdi : Int) (callingTokenId : UInt32) (portId : Int) (m : SerialManager)

theorem serialOpen_cases :
    (∃ e, serialOpen hdi callingTokenId portId m = (.uec e, m)) ∨
      ∃ hserial, m.portTokenMap.find? portId = none ∧
        serialOpen hdi callingTokenId portId m = (.ok, m.own portId callingTokenId hserial) := by
  unfold serialOpen
  split
  · rename_i hserial
    split
    · exact .inl ⟨_, rfl⟩
    · rename_i hfree
      split
      · exact .inl ⟨_, rfl⟩
      · exact .inr ⟨hserial, by simpa using hfree, rfl⟩
  · exact .inl ⟨_, rfl⟩

theorem checkPortAndTokenId_cases :
    (∃ e, checkPortAndTokenId m callingTokenId portId = .uec e) ∨
      checkPortAndTokenId m callingTokenId portId = .ok ∧ m.portTokenMap.find? portId = some callingTokenId := by
  unfold checkPortAndTokenId checkTokenIdValidity
  split
  · exact .inl ⟨_, rfl⟩
  · split
    · exact .inl ⟨_, rfl⟩
    · rename_i howner
      exact .inr ⟨rfl, by simpa using howner⟩

theorem serialClose_cases :
    (∃ e, serialClose hdi callingTokenId portId m = (.uec e, m)) ∨
      m.portTokenMap.find? portId = some callingTokenId ∧
        serialClose hdi callingTokenId portId m = (.ok, m.release portId) := by
  unfold serialClose
  obtain ⟨e, he⟩ | ⟨hok, howner⟩ := checkPortAndTokenId_cases callingTokenId portId m
  · rw [he]
    exact .inl ⟨e, rfl⟩
  · rw [hok]
    simp only
    split
    · exact .inl ⟨_, rfl⟩
    · exact .inr ⟨howner, rfl⟩

theorem serialTransfer_cases (first : Int → SerialManager → Bool × SerialManager) :
    (∃ e, serialTransfer first hdi callingTokenId portId m = (⟨.uec e, none, false⟩, m)) ∨
      m.portTokenMap.find? portId = some callingTokenId ∧
        serialTransfer first hdi callingTokenId portId m =
          (⟨.ok, some (UInt32.ofInt hdi), (first portId m).1⟩, (first portId m).2) := by
  unfold serialTransfer
  obtain ⟨e, he⟩ | ⟨hok, howner⟩ := checkPortAndTokenId_cases callingTokenId portId m
  · rw [he]
    exact .inl ⟨e, rfl⟩
  · rw [hok]
    simp only
    split
    · exact .inl ⟨_, rfl⟩
    · exact .inr ⟨howner, rfl⟩

theorem serialAttribute_ok (h : serialAttribute hdi callingTokenId portId m = .ok) :
    m.portTokenMap.find? portId = some callingTokenId := by
  unfold serialAttribute at h
  obtain ⟨e, he⟩ | ⟨-, howner⟩ := checkPortAndTokenId_cases callingTokenId portId m
  · rw [he] at h
    cases h
  · exact howner

theorem serialOpen_serialPortMap :
    (serialOpen hdi callingTokenId portId m).2.serialPortMap = m.serialPortMap := by
  obtain ⟨e, he⟩ | ⟨hserial, -, hok⟩ := serialOpen_cases hdi callingTokenId portId m
  · rw [he]
  · rw [hok]
    rfl

end Specs

/-- The list counts only if HDI is there and answers. -/
def listed? (hdi : Ret × List SerialPort) (m : SerialManager) : Option (List SerialPort) :=
  if m.serial = true ∧ hdi.1 = .ok then some hdi.2 else none

theorem serialGetPortList_cases (hdi : Ret × List SerialPort) (m : SerialManager) :
    (listed? hdi m = some hdi.2 ∧ serialGetPortList hdi m = (.ok, hdi.2, updateSerialPortMap hdi.2 m)) ∨
      (listed? hdi m = none ∧ ∃ ret list, ret ≠ Ret.ok ∧ serialGetPortList hdi m = (ret, list, m)) := by
  unfold serialGetPortList listed?
  rcases hserial : m.serial with - | -
  · right
    exact ⟨by simp, .uec .serviceInvalidValue, [], by simp, by simp⟩
  · by_cases hret : hdi.1 = .ok
    · left
      simp [hret]
    · right
      exact ⟨by simp [hret], hdi.1, hdi.2, hret, by simp [hret]⟩

theorem updateSerialPortMap_find? (list : List SerialPort) (m : SerialManager) (p : Int) :
    (updateSerialPortMap list m).serialPortMap.find? p =
      (list.reverse.find? fun it => it.portId = p).or (m.serialPortMap.find? p) := by
  have hfind := StdMap.find?_foldl_set SerialPort.portId id list m.serialPortMap p
  simpa [updateSerialPortMap] using hfind

end UsbManager.Serial
