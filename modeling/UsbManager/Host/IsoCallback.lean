import UsbManager.Lib.Fifo
import UsbManager.Types

/-!
# Completions of isochronous transfers

The service writes the result of a transfer into a parcel, and `UsbdStubCallBack` reads it in the process of the
client. The limit on the number of packets is checked by the reader alone.
-/

namespace UsbManager.Iso

open Fifo

/-! ## The parcel -/

/-- One entry of a parcel. Signed and unsigned words are the same. -/
inductive MessageValue
  | token (descriptor : String)
  | word (v : UInt32)
  | uint64 (v : UInt64)
  deriving DecidableEq, Repr

def uint32 (v : UInt32) : MessageValue := .word v

def int32 (v : Int32) : MessageValue := .word v.toUInt32

def readInterfaceToken : List MessageValue → String × List MessageValue
  | .token descriptor :: rest => (descriptor, rest)
  | rest => ("", rest)

def readUint32 : Reader MessageValue UInt32
  | .word v :: rest => some (v, rest)
  | _ => none

def readInt32 : Reader MessageValue Int32
  | .word v :: rest => some (v.toInt32, rest)
  | _ => none

/-- Without a place for the value a failed read gives 0. -/
def readInt32D : Reader MessageValue Int32
  | .word v :: rest => some (v.toInt32, rest)
  | rest => some (0, rest)

def readUint64 : Reader MessageValue UInt64
  | .uint64 v :: rest => some (v, rest)
  | _ => none

/-- Whether one more entry can be written behind the ones that are there. -/
abbrev Writable := List MessageValue → Bool

/-- A body stands behind a 1, and a null pointer is a 0. -/
def writeParcelable (marshalling : Writable → Output MessageValue Unit) (writable : Writable) :
    Output MessageValue Unit := do
  write (int32 1) writable
  marshalling writable

/-- The number in front says whether there is a body. -/
def readParcelable {α : Type} (unmarshalling : Reader MessageValue α) : Reader MessageValue α := do
  let size ← readInt32D
  if size = 0 then failure else unmarshalling

/-! ## Packets -/

/-- The descriptors of the versions 1.2 and 2.0 of HDI have the same fields. -/
structure UsbIsoPacketDescriptor where
  isoLength : Int32
  isoActualLength : Int32
  isoStatus : Int32
  deriving DecidableEq, Repr

/-- Both versions of HDI have this body. -/
def marshallingIso (isoInfo : UsbIsoPacketDescriptor) (writable : Writable) : Output MessageValue Unit := do
  write (int32 isoInfo.isoLength) writable
  write (int32 isoInfo.isoActualLength) writable
  write (int32 isoInfo.isoStatus) writable

def UsbIsoParcel.marshalling := marshallingIso

def UsbPassIsoParcel.marshalling := marshallingIso

def UsbIsoParcel.unmarshalling : Reader MessageValue UsbIsoPacketDescriptor := do
  let isoLength ← readInt32D
  let isoActualLength ← readInt32D
  let isoStatus ← readInt32D
  return { isoLength, isoActualLength, isoStatus }

/-- The count is cut to 32 bits, and as many packets follow. -/
def marshallingVec (marshalling : UsbIsoPacketDescriptor → Writable → Output MessageValue Unit)
    (isoInfoVec : List UsbIsoPacketDescriptor) (writable : Writable) : Output MessageValue Unit := do
  let vecSize := UInt32.ofNat isoInfoVec.length
  write (uint32 vecSize) writable
  (isoInfoVec.take vecSize.toNat).forM fun isoInfo => writeParcelable (marshalling isoInfo) writable

def UsbIsoVecParcel.marshalling := marshallingVec UsbIsoParcel.marshalling

def UsbPassIsoVecParcel.marshalling := marshallingVec UsbPassIsoParcel.marshalling

/-- More packets than this are not read. -/
def maxNumOfIsoPackage : UInt32 := 15000

def UsbIsoVecParcel.unmarshalling : Reader MessageValue (List UsbIsoPacketDescriptor) := do
  let vecSize ← readUint32
  if vecSize > maxNumOfIsoPackage then failure
  else times (readParcelable UsbIsoParcel.unmarshalling) vecSize.toNat

/-! ## The service -/

inductive CallbackCode
  | cmdUsbdTransferCallbackWrite
  | cmdUsbdTransferCallbackRead
  deriving DecidableEq, Repr

structure Completion where
  status : Int32
  actLength : Int32
  isoInfo : List UsbIsoPacketDescriptor
  userData : UInt64
  deriving DecidableEq, Repr

/-- Every write may fail, and then nothing is sent. -/
def writeCallback (marshalling : List UsbIsoPacketDescriptor → Writable → Output MessageValue Unit)
    (descriptor : String) (completion : Completion) (writable : Writable) : Output MessageValue Unit := do
  write (.token descriptor) writable
  writeParcelable (marshalling completion.isoInfo) writable
  write (int32 completion.status) writable
  write (int32 completion.actLength) writable
  write (.uint64 completion.userData) writable

/-- The request that is sent to the object of the client, which has a descriptor. -/
def onTransferCallback (marshalling : List UsbIsoPacketDescriptor → Writable → Output MessageValue Unit)
    (code : CallbackCode) (remote : Option String) (completion : Completion) (writable : Writable) :
    Except Ret (CallbackCode × List MessageValue) :=
  match remote with
  | none => .error (.uec .serviceInvalidValue)
  | some descriptor =>
    match writeCallback marshalling descriptor completion writable [] with
    | none => .error (.uec .serviceInvalidValue)
    | some (_, data) => .ok (code, data)

def UsbTransferCallbackImpl.onTransferWriteCallback :=
  onTransferCallback UsbPassIsoVecParcel.marshalling .cmdUsbdTransferCallbackWrite

def UsbTransferCallbackImpl.onTransferReadCallback :=
  onTransferCallback UsbPassIsoVecParcel.marshalling .cmdUsbdTransferCallbackRead

def UsbdTransferCallbackImpl.onTransferWriteCallback :=
  onTransferCallback UsbIsoVecParcel.marshalling .cmdUsbdTransferCallbackWrite

def UsbdTransferCallbackImpl.onTransferReadCallback :=
  onTransferCallback UsbIsoVecParcel.marshalling .cmdUsbdTransferCallbackRead

/-- The service over version 2.0 of HDI and over version 1.2. -/
inductive Service
  | usbTransferCallbackImpl
  | usbdTransferCallbackImpl
  deriving DecidableEq, Repr

def Service.callback :
    Service → CallbackCode → Option String → Completion → Writable → Except Ret (CallbackCode × List MessageValue)
  | .usbTransferCallbackImpl, .cmdUsbdTransferCallbackWrite => UsbTransferCallbackImpl.onTransferWriteCallback
  | .usbTransferCallbackImpl, .cmdUsbdTransferCallbackRead => UsbTransferCallbackImpl.onTransferReadCallback
  | .usbdTransferCallbackImpl, .cmdUsbdTransferCallbackWrite => UsbdTransferCallbackImpl.onTransferWriteCallback
  | .usbdTransferCallbackImpl, .cmdUsbdTransferCallbackRead => UsbdTransferCallbackImpl.onTransferReadCallback

/-! ## The client -/

/-- `none` is `UEC_SERVICE_WRITE_PARCEL_ERROR`. -/
def readCompletion : Reader MessageValue Completion := do
  let isoInfo ← readParcelable UsbIsoVecParcel.unmarshalling
  let status ← readInt32
  let actLength ← readInt32
  let userData ← readUint64
  return { status, actLength, isoInfo, userData }

/-- The callback that is called, and with what. -/
def UsbdStubCallBack.transferWriteCallback (data : List MessageValue) : Option (CallbackCode × Completion) :=
  (readCompletion data).map fun r => (.cmdUsbdTransferCallbackWrite, r.1)

def UsbdStubCallBack.transferReadCallback (data : List MessageValue) : Option (CallbackCode × Completion) :=
  (readCompletion data).map fun r => (.cmdUsbdTransferCallbackRead, r.1)

/-- What the callback returns is dropped. -/
def UsbdStubCallBack.onRemoteRequest (descriptor : String) (code : CallbackCode) (data : List MessageValue) :
    Ret × Option (CallbackCode × Completion) :=
  let (remoteDescriptor, data) := readInterfaceToken data
  if descriptor ≠ remoteDescriptor then (.uec .interfacePermissionDenied, none)
  else
    match code with
    | .cmdUsbdTransferCallbackWrite => (.ok, UsbdStubCallBack.transferWriteCallback data)
    | .cmdUsbdTransferCallbackRead => (.ok, UsbdStubCallBack.transferReadCallback data)

/-! ## What is written -/

def isoValues (isoInfo : UsbIsoPacketDescriptor) : List MessageValue :=
  [int32 isoInfo.isoLength, int32 isoInfo.isoActualLength, int32 isoInfo.isoStatus]

/-- The packets that the count of 32 bits leaves. -/
def counted (isoInfo : List UsbIsoPacketDescriptor) : List UsbIsoPacketDescriptor :=
  isoInfo.take (UInt32.ofNat isoInfo.length).toNat

def vecValues (isoInfo : List UsbIsoPacketDescriptor) : List MessageValue :=
  uint32 (UInt32.ofNat isoInfo.length) :: (counted isoInfo).flatMap fun i => int32 1 :: isoValues i

/-- The whole message, if every write succeeds. -/
def callbackValues (descriptor : String) (completion : Completion) : List MessageValue :=
  .token descriptor :: (int32 1 :: vecValues completion.isoInfo ++
    [int32 completion.status, int32 completion.actLength, .uint64 completion.userData])

theorem appends_iso (isoInfo : UsbIsoPacketDescriptor) : Appends (marshallingIso isoInfo) (isoValues isoInfo) :=
  (appends_write _).seq ((appends_write _).seq (appends_write _))

theorem appends_parcelable {marshalling : Writable → Output MessageValue Unit} {written : List MessageValue}
    (h : Appends marshalling written) : Appends (writeParcelable marshalling) (int32 1 :: written) :=
  (appends_write _).seq h

theorem appends_vec (isoInfo : List UsbIsoPacketDescriptor) :
    Appends (marshallingVec marshallingIso isoInfo) (vecValues isoInfo) := by
  apply (appends_write _).seq
  apply Appends.forM
  intro i _
  exact appends_parcelable (appends_iso i)

theorem appends_callback (descriptor : String) (completion : Completion) :
    Appends (writeCallback (marshallingVec marshallingIso) descriptor completion)
      (callbackValues descriptor completion) :=
  (appends_write _).seq ((appends_parcelable (appends_vec _)).seq
    ((appends_write _).seq ((appends_write _).seq (appends_write _))))

theorem Service.callback_eq (service : Service) (code : CallbackCode) :
    service.callback code = onTransferCallback (marshallingVec marshallingIso) code := by
  cases service <;> cases code <;> rfl

theorem callback_only {service : Service} {code : CallbackCode} {descriptor : String} {completion : Completion}
    {writable : Writable} {request : CallbackCode × List MessageValue}
    (h : service.callback code (some descriptor) completion writable = .ok request) :
    request = (code, callbackValues descriptor completion) := by
  rw [service.callback_eq] at h
  unfold onTransferCallback at h
  dsimp only at h
  split at h
  · cases h
  · rename_i data hdata
    cases h
    rw [(appends_callback descriptor completion).only _ _ _ hdata, List.nil_append]

theorem callback_all (service : Service) (code : CallbackCode) (descriptor : String) (completion : Completion) :
    service.callback code (some descriptor) completion (fun _ => true) =
      .ok (code, callbackValues descriptor completion) := by
  rw [service.callback_eq]
  unfold onTransferCallback
  dsimp only
  rw [(appends_callback descriptor completion).all, List.nil_append]

/-! ## What is read -/

theorem recovers_int32 (v : Int32) : Recovers readInt32 [int32 v] v := by
  intro rest
  show some (v.toUInt32.toInt32, rest) = some (v, rest)
  rw [Int32.toInt32_toUInt32]

theorem recovers_int32D (v : Int32) : Recovers readInt32D [int32 v] v := by
  intro rest
  show some (v.toUInt32.toInt32, rest) = some (v, rest)
  rw [Int32.toInt32_toUInt32]

theorem recovers_parcelable {α : Type} {unmarshalling : Reader MessageValue α} {written : List MessageValue} {a : α}
    (h : Recovers unmarshalling written a) : Recovers (readParcelable unmarshalling) (int32 1 :: written) a := by
  unfold readParcelable
  apply Recovers.cons (recovers_int32D 1)
  exact h

theorem recovers_iso (isoInfo : UsbIsoPacketDescriptor) :
    Recovers UsbIsoParcel.unmarshalling (isoValues isoInfo) isoInfo := by
  unfold UsbIsoParcel.unmarshalling isoValues
  apply Recovers.cons (recovers_int32D _)
  apply Recovers.cons (recovers_int32D _)
  apply Recovers.cons (recovers_int32D _)
  exact Recovers.pure isoInfo

theorem length_counted (isoInfo : List UsbIsoPacketDescriptor) :
    (counted isoInfo).length = (UInt32.ofNat isoInfo.length).toNat := by
  rw [counted, List.length_take, UInt32.toNat_ofNat']
  omega

theorem recovers_vec (isoInfo : List UsbIsoPacketDescriptor)
    (h : ¬ UInt32.ofNat isoInfo.length > maxNumOfIsoPackage) :
    Recovers UsbIsoVecParcel.unmarshalling (vecValues isoInfo) (counted isoInfo) := by
  unfold UsbIsoVecParcel.unmarshalling vecValues
  apply Recovers.cons (a := UInt32.ofNat isoInfo.length) (fun _ => rfl)
  rw [if_neg h, ← length_counted]
  have hpackets : Recovers _ _ ((counted isoInfo).map id) :=
    Recovers.times (counted isoInfo) fun i _ => recovers_parcelable (recovers_iso i)
  rwa [List.map_id] at hpackets

theorem readCompletion_above (completion : Completion) (rest : List MessageValue)
    (h : UInt32.ofNat completion.isoInfo.length > maxNumOfIsoPackage) :
    readCompletion (int32 1 :: vecValues completion.isoInfo ++ rest) = none := by
  have hvec : ∀ rest, UsbIsoVecParcel.unmarshalling (vecValues completion.isoInfo ++ rest) = none := by
    intro rest
    show (if UInt32.ofNat completion.isoInfo.length > maxNumOfIsoPackage then failure
      else times (readParcelable UsbIsoParcel.unmarshalling) _ : Reader MessageValue _) _ = none
    rw [if_pos h]
    rfl
  show (UsbIsoVecParcel.unmarshalling (vecValues completion.isoInfo ++ rest)).bind _ = none
  rw [hvec]
  rfl

theorem recovers_completion (completion : Completion)
    (h : ¬ UInt32.ofNat completion.isoInfo.length > maxNumOfIsoPackage) :
    Recovers readCompletion
      (int32 1 :: vecValues completion.isoInfo ++
        [int32 completion.status, int32 completion.actLength, .uint64 completion.userData])
      { completion with isoInfo := counted completion.isoInfo } := by
  unfold readCompletion
  apply Recovers.bind (recovers_parcelable (recovers_vec _ h))
  apply Recovers.cons (recovers_int32 _)
  apply Recovers.cons (recovers_int32 _)
  apply Recovers.cons (a := completion.userData) (fun _ => rfl)
  exact Recovers.pure _

theorem onRemoteRequest_values (descriptor : String) (code : CallbackCode) (completion : Completion) :
    UsbdStubCallBack.onRemoteRequest descriptor code (callbackValues descriptor completion) =
      (.ok,
        if UInt32.ofNat completion.isoInfo.length > maxNumOfIsoPackage then none
        else some (code, { completion with isoInfo := counted completion.isoInfo })) := by
  have hread : UsbdStubCallBack.onRemoteRequest descriptor code (callbackValues descriptor completion) =
      (.ok, (readCompletion (int32 1 :: vecValues completion.isoInfo ++
        [int32 completion.status, int32 completion.actLength, .uint64 completion.userData])).map
          fun r => (code, r.1)) := by
    unfold UsbdStubCallBack.onRemoteRequest callbackValues
    rw [readInterfaceToken]
    cases code <;> simp [UsbdStubCallBack.transferWriteCallback, UsbdStubCallBack.transferReadCallback]
  rw [hread]
  split
  · rename_i habove
    rw [readCompletion_above completion _ habove]
    rfl
  · rename_i hbelow
    have hall := recovers_completion completion hbelow []
    rw [List.append_nil] at hall
    rw [hall]
    rfl

/-! ## The round trip -/

/-- Whenever the service has written its parcel, the client calls the callback with what was written. -/
def Delivered (service : Service) (code : CallbackCode) (descriptor : String) (completion : Completion) : Prop :=
  ∀ writable request, service.callback code (some descriptor) completion writable = .ok request →
    UsbdStubCallBack.onRemoteRequest descriptor request.1 request.2 = (.ok, some (code, completion))

theorem counted_eq_iff (isoInfo : List UsbIsoPacketDescriptor) :
    ¬ UInt32.ofNat isoInfo.length > maxNumOfIsoPackage ∧ counted isoInfo = isoInfo ↔ isoInfo.length ≤ 15000 := by
  have hmax : maxNumOfIsoPackage.toNat = 15000 := rfl
  rw [gt_iff_lt, UInt32.lt_iff_toNat_lt, hmax, UInt32.toNat_ofNat']
  constructor
  · rintro ⟨hbelow, hcounted⟩
    have hlen := congrArg List.length hcounted
    rw [length_counted, UInt32.toNat_ofNat'] at hlen
    omega
  · intro hle
    refine ⟨by omega, List.take_of_length_le ?_⟩
    rw [UInt32.toNat_ofNat']
    omega

theorem counted_of_delivered {service : Service} {code : CallbackCode} {descriptor : String} {completion : Completion}
    (h : Delivered service code descriptor completion) :
    ¬ UInt32.ofNat completion.isoInfo.length > maxNumOfIsoPackage ∧
      counted completion.isoInfo = completion.isoInfo := by
  have hall := h (fun _ => true) _ (callback_all service code descriptor completion)
  rw [onRemoteRequest_values] at hall
  split at hall
  · cases hall
  · rename_i hbelow
    refine ⟨hbelow, ?_⟩
    simp only [Prod.mk.injEq, Option.some.injEq, true_and] at hall
    exact congrArg Completion.isoInfo hall

/-- A completion is delivered unchanged exactly if it has at most 15000 packets. -/
theorem completion_delivered_iff (service : Service) (code : CallbackCode) (descriptor : String)
    (completion : Completion) :
    Delivered service code descriptor completion ↔ completion.isoInfo.length ≤ 15000 := by
  rw [← counted_eq_iff]
  constructor
  · exact counted_of_delivered
  · rintro ⟨hbelow, hcounted⟩ writable request hrequest
    rw [callback_only hrequest, onRemoteRequest_values, if_neg hbelow, hcounted]

/-- One packet more than the reader takes: the parcel is written and nothing is called. -/
theorem completion_lost_above_limit :
    ∃ completion : Completion, completion.isoInfo.length = 15001 ∧
      ¬ Delivered .usbTransferCallbackImpl .cmdUsbdTransferCallbackRead "" completion := by
  refine ⟨⟨0, 0, List.replicate 15001 ⟨0, 0, 0⟩, 0⟩, List.length_replicate, fun h => ?_⟩
  have hlen := (counted_eq_iff _).mp (counted_of_delivered h)
  rw [List.length_replicate] at hlen
  omega

end UsbManager.Iso
