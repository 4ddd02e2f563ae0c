import UsbManager.Lib.Decimal
import UsbManager.Serial.Operations

/-!
# Dumps of serial ports

What `DoDump` of `usb_service.cpp` has the serial manager print: the list of the ports, the attributes of all of them, or
those of one. To read the attributes of a port that is not the caller's a dump opens it, and no right is asked for. The
printed text is left out.
-/

namespace UsbManager.Serial

/-- What HDI answers for one port. -/
structure PortHdi where
  serialGetAttribute : Int
  serialOpen : Int
  serialClose : Int

/-- The ports that a dump opened, the newest first, and what it left. The list is a ghost. -/
abbrev Dumped := List Int × SerialManager

/-- One turn of the loop for all ports. What opening and closing return is not looked at. -/
def dumpAttribute (hdi : PortHdi) (callingTokenId : UInt32) (portId : Int) (m : SerialManager) : Dumped :=
  if serialGetAttribute hdi.serialGetAttribute callingTokenId portId m = .ok then ([], m)
  else
    let (ret, m) := serialOpen hdi.serialOpen callingTokenId portId m
    (if ret = .ok then [portId] else [], (serialClose hdi.serialClose callingTokenId portId m).2)

/-- HDI answers turn by turn. -/
def dumpAttributes (callingTokenId : UInt32) : List SerialPort → (Nat → PortHdi) → SerialManager → Dumped
  | [], _, m => ([], m)
  | port :: serialPortList, hdi, m =>
    let (opened, m) := dumpAttribute (hdi 0) callingTokenId port.portId m
    let (later, m) := dumpAttributes callingTokenId serialPortList (fun turn => hdi (turn + 1)) m
    (later ++ opened, m)

/-- What is not all digits is refused. A number that does not fit makes `std::stoi` throw, which ends the process before
a port is touched. -/
def portIdOf? (arg : String) : Option Int :=
  if arg.toList ≠ [] ∧ arg.toList.all Char.isDigit ∧ Decimal.value arg.toList < 2 ^ 31 then
    some (Decimal.value arg.toList)
  else none

/-- Unlike the loop, this one stops when the port cannot be opened. -/
def checkDataAndProcessPortId (hdi : PortHdi) (callingTokenId : UInt32) (arg : String) (m : SerialManager) :
    Bool × Dumped :=
  match portIdOf? arg with
  | none => (false, [], m)
  | some portId =>
    if serialGetAttribute hdi.serialGetAttribute callingTokenId portId m = .ok then (true, [], m)
    else
      match serialOpen hdi.serialOpen callingTokenId portId m with
      | (.ok, m) => (true, [portId], (serialClose hdi.serialClose callingTokenId portId m).2)
      | (_, m) => (false, [], m)

/-- With one argument all ports are dumped, with two the one that is named. -/
def serialGetAttributeDump (hdi : Nat → PortHdi) (portList : Ret × List SerialPort) (callingTokenId : UInt32)
    (args : List String) (m : SerialManager) : Dumped :=
  match args with
  | [_] =>
    match serialGetPortList portList m with
    | (.ok, serialPortList, m) => dumpAttributes callingTokenId serialPortList hdi m
    | (_, _, m) => ([], m)
  | [_, arg] => (checkDataAndProcessPortId (hdi 0) callingTokenId arg m).2
  | _ => ([], m)

/-- The commands that ask about ports. -/
def usbList : String := "-l"

def usbGett : String := "-g"

/-- The result of the list is not looked at. -/
def serialPortListDump (portList : Ret × List SerialPort) (args : List String) (m : SerialManager) : SerialManager :=
  if args = [usbList] then (serialGetPortList portList m).2.2 else m

/-! ## What a dump does -/

/-- Whether the dump asks for the list of the ports. -/
def listsPorts (args : List String) : Bool := args = [usbList] || args = [usbGett]

section

variable (hdi : PortHdi) (callingTokenId : UInt32) (m : SerialManager)

theorem dumpAttribute_serialPortMap (portId : Int) :
    (dumpAttribute hdi callingTokenId portId m).2.serialPortMap = m.serialPortMap := by
  unfold dumpAttribute
  split
  · rfl
  · exact (serialClose_serialPortMap _ _ _ _).trans (serialOpen_serialPortMap _ _ _ _)

theorem dumpAttributes_serialPortMap (list : List SerialPort) (hdi : Nat → PortHdi) (m : SerialManager) :
    (dumpAttributes callingTokenId list hdi m).2.serialPortMap = m.serialPortMap := by
  induction list generalizing hdi m with
  | nil => rfl
  | cons port list ih => exact (ih _ _).trans (dumpAttribute_serialPortMap (hdi 0) callingTokenId m port.portId)

theorem checkDataAndProcessPortId_serialPortMap (arg : String) :
    (checkDataAndProcessPortId hdi callingTokenId arg m).2.2.serialPortMap = m.serialPortMap := by
  unfold checkDataAndProcessPortId
  split
  · rfl
  rename_i portId _
  have hopen := serialOpen_serialPortMap hdi.serialOpen callingTokenId portId m
  split
  · rfl
  split
  all_goals
    rename_i heq
    rw [heq] at hopen
  · exact (serialClose_serialPortMap _ _ _ _).trans hopen
  · exact hopen

/-- Every owner after the dump is the caller on a port that it opened, or an old owner on a port that it did not. -/
def OpenedBy (opened : List Int) (m m' : SerialManager) : Prop :=
  ∀ p t, m'.portTokenMap.find? p = some t →
    (p ∈ opened ∧ t = callingTokenId) ∨ (p ∉ opened ∧ m.portTokenMap.find? p = some t)

theorem OpenedBy.refl : OpenedBy callingTokenId [] m m := fun _ _ h => .inr ⟨List.not_mem_nil, h⟩

variable {callingTokenId m}

theorem OpenedBy.trans {opened later : List Int} {m' m'' : SerialManager} (h : OpenedBy callingTokenId opened m m')
    (h' : OpenedBy callingTokenId later m' m'') : OpenedBy callingTokenId (later ++ opened) m m'' := by
  intro p t howner
  rcases h' p t howner with ⟨hp, ht⟩ | ⟨hp, howner⟩
  · exact .inl ⟨List.mem_append_left opened hp, ht⟩
  · rcases h p t howner with ⟨hp', ht⟩ | ⟨hp', howner⟩
    · exact .inl ⟨List.mem_append_right later hp', ht⟩
    · exact .inr ⟨fun hmem => (List.mem_append.mp hmem).elim hp hp', howner⟩

variable (callingTokenId m)

theorem serialClose_openedBy (hdi portId : Int) : OpenedBy callingTokenId [] m (serialClose hdi callingTokenId portId m).2 := by
  obtain ⟨e, he⟩ | ⟨-, hok⟩ := serialClose_cases hdi callingTokenId portId m
  · rw [he]
    exact .refl callingTokenId m
  · rw [hok]
    intro p t howner
    rw [release_find?] at howner
    split at howner
    · cases howner
    · exact .inr ⟨List.not_mem_nil, howner⟩

theorem own_openedBy (portId : Int) (hserial : m.serial = true) (hfree : m.portTokenMap.find? portId = none) :
    OpenedBy callingTokenId [portId] m (m.own portId callingTokenId hserial) := by
  intro p t howner
  rw [own_find? m portId callingTokenId hserial hfree] at howner
  split at howner
  · rename_i hp
    exact .inl ⟨List.mem_singleton.mpr hp, (Option.some.inj howner).symm⟩
  · rename_i hp
    exact .inr ⟨fun hmem => hp (List.mem_singleton.mp hmem), howner⟩

theorem dumpAttribute_openedBy (portId : Int) :
    OpenedBy callingTokenId (dumpAttribute hdi callingTokenId portId m).1 m
      (dumpAttribute hdi callingTokenId portId m).2 := by
  unfold dumpAttribute
  split
  · exact .refl callingTokenId m
  · obtain ⟨e, he⟩ | ⟨hserial, hfree, hok⟩ := serialOpen_cases hdi.serialOpen callingTokenId portId m
    · rw [he]
      exact serialClose_openedBy callingTokenId m hdi.serialClose portId
    · rw [hok]
      exact (own_openedBy callingTokenId m portId hserial hfree).trans
        (serialClose_openedBy callingTokenId _ hdi.serialClose portId)

theorem dumpAttributes_openedBy (list : List SerialPort) (hdi : Nat → PortHdi) (m : SerialManager) :
    OpenedBy callingTokenId (dumpAttributes callingTokenId list hdi m).1 m (dumpAttributes callingTokenId list hdi m).2 := by
  induction list generalizing hdi m with
  | nil => exact .refl callingTokenId m
  | cons port list ih => exact (dumpAttribute_openedBy (hdi 0) callingTokenId m port.portId).trans (ih _ _)

theorem checkDataAndProcessPortId_openedBy (arg : String) :
    OpenedBy callingTokenId (checkDataAndProcessPortId hdi callingTokenId arg m).2.1 m
      (checkDataAndProcessPortId hdi callingTokenId arg m).2.2 := by
  unfold checkDataAndProcessPortId
  split
  · exact .refl callingTokenId m
  rename_i portId _
  split
  · exact .refl callingTokenId m
  · obtain ⟨e, he⟩ | ⟨hserial, hfree, hok⟩ := serialOpen_cases hdi.serialOpen callingTokenId portId m
    · rw [he]
      exact .refl callingTokenId m
    · rw [hok]
      exact (own_openedBy callingTokenId m portId hserial hfree).trans
        (serialClose_openedBy callingTokenId _ hdi.serialClose portId)

/-- The dump of one port frees no port that was open, since it closes only what it has opened itself. The dump of all
ports closes a port of the caller whose attributes cannot be read. -/
theorem checkDataAndProcessPortId_keeps (arg : String) {p : Int} {t : UInt32}
    (h : m.portTokenMap.find? p = some t) :
    (checkDataAndProcessPortId hdi callingTokenId arg m).2.2.portTokenMap.find? p = some t := by
  unfold checkDataAndProcessPortId
  split
  · exact h
  rename_i portId _
  split
  · exact h
  obtain ⟨e, he⟩ | ⟨hserial, hfree, hok⟩ := serialOpen_cases hdi.serialOpen callingTokenId portId m
  · rw [he]
    exact h
  · rw [hok]
    have hp : p ≠ portId := by
      rintro rfl
      rw [hfree] at h
      cases h
    have howned : (m.own portId callingTokenId hserial).portTokenMap.find? p = some t := by
      rw [own_find? m portId callingTokenId hserial hfree, if_neg hp, h]
    dsimp only
    obtain ⟨e, he⟩ | ⟨-, hclosed⟩ := serialClose_cases hdi.serialClose callingTokenId portId
      (m.own portId callingTokenId hserial)
    · rw [he]
      exact howned
    · rw [hclosed, release_find?, if_neg hp]
      exact howned

end

theorem serialGetAttributeDump_openedBy (hdi : Nat → PortHdi) (portList : Ret × List SerialPort)
    (callingTokenId : UInt32) (args : List String) (m : SerialManager) :
    OpenedBy callingTokenId (serialGetAttributeDump hdi portList callingTokenId args m).1 m
      (serialGetAttributeDump hdi portList callingTokenId args m).2 := by
  unfold serialGetAttributeDump
  split
  · obtain ⟨-, heq⟩ | ⟨-, ret, list, hret, heq⟩ := serialGetPortList_cases portList m
    · rw [heq]
      exact dumpAttributes_openedBy callingTokenId _ hdi _
    · rw [heq]
      split
      · rename_i h
        exact absurd (congrArg Prod.fst h) hret
      · rename_i h
        rw [← (Prod.mk.inj (Prod.mk.inj h).2).2]
        exact .refl callingTokenId m
  · exact checkDataAndProcessPortId_openedBy (hdi 0) callingTokenId m _
  · exact .refl callingTokenId m

theorem serialGetAttributeDump_serialPortMap (hdi : Nat → PortHdi) (portList : Ret × List SerialPort)
    (callingTokenId : UInt32) (args : List String) (m : SerialManager) :
    (serialGetAttributeDump hdi portList callingTokenId args m).2.serialPortMap =
      if args.length = 1 then (serialGetPortList portList m).2.2.serialPortMap else m.serialPortMap := by
  unfold serialGetAttributeDump
  split
  · split
    · rename_i h
      rw [h]
      exact dumpAttributes_serialPortMap callingTokenId _ hdi _
    · rename_i h
      rw [h]
      rfl
  · exact checkDataAndProcessPortId_serialPortMap (hdi 0) callingTokenId m _
  · rename_i hone _
    rw [if_neg]
    intro hlen
    obtain ⟨a, rfl⟩ := List.length_eq_one_iff.mp hlen
    exact hone a rfl

end UsbManager.Serial
