import UsbManager.Lib.Run
import UsbManager.Serial.Operations

/-!
# Sessions on serial ports

Runs of the serial manager with any clients and any answers of HDI. The history of a run says who
owns a port: the client of the latest open that succeeded, unless a close succeeded or the port was
freed since. It also says which read and which write is the first of a session.
-/

namespace UsbManager.Serial

/-! ## Calls -/

inductive SerialRequest
  | serialOpen
  | serialClose
  | transfer (kind : Transfer)
  | serialGetAttribute
  | serialSetAttribute
  | freeTokenId
  deriving DecidableEq, Repr

/-- `tokenId` is the caller, or the client that died. -/
structure SerialOp where
  request : SerialRequest
  hdi : Int
  tokenId : UInt32
  portId : Int
  deriving DecidableEq, Repr

/-- `FreeTokenId` returns nothing, but it may do nothing. -/
inductive SerialReply
  | returned (ret : Ret) (reported : Bool)
  | freed (effective : Bool)
  deriving DecidableEq, Repr

/-- The operation did what it is for. -/
def SerialReply.done : SerialReply → Bool
  | .returned ret _ => ret = .ok
  | .freed effective => effective

def SerialReply.reported : SerialReply → Bool
  | .returned _ reported => reported
  | .freed _ => false

/-- The operation, with what it returns. -/
def SerialOp.call (op : SerialOp) (m : SerialManager) : SerialReply × SerialManager :=
  match op.request with
  | .serialOpen =>
    (.returned (serialOpen op.hdi op.tokenId op.portId m).1 false, (serialOpen op.hdi op.tokenId op.portId m).2)
  | .serialClose =>
    (.returned (serialClose op.hdi op.tokenId op.portId m).1 false, (serialClose op.hdi op.tokenId op.portId m).2)
  | .transfer .read =>
    (.returned (serialRead op.hdi op.tokenId op.portId m).1.ret (serialRead op.hdi op.tokenId op.portId m).1.reported,
      (serialRead op.hdi op.tokenId op.portId m).2)
  | .transfer .write =>
    (.returned (serialWrite op.hdi op.tokenId op.portId m).1.ret
      (serialWrite op.hdi op.tokenId op.portId m).1.reported, (serialWrite op.hdi op.tokenId op.portId m).2)
  | .serialGetAttribute => (.returned (serialGetAttribute op.hdi op.tokenId op.portId m) false, m)
  | .serialSetAttribute => (.returned (serialSetAttribute op.hdi op.tokenId op.portId m) false, m)
  | .freeTokenId =>
    (.freed (freeTokenId op.portId op.tokenId m).1, (freeTokenId op.portId op.tokenId m).2)

/-! ## What a call can do -/

def queryAndRecordFirst : Transfer → Int → SerialManager → Bool × SerialManager
  | .read => queryAndRecordFirstRead
  | .write => queryAndRecordFirstWrite

/-- The port counts as used. -/
def SerialManager.record (m : SerialManager) (kind : Transfer) (portId : Int) : SerialManager :=
  (queryAndRecordFirst kind portId m).2

theorem queryAndRecordFirst_fst (kind : Transfer) (portId : Int) (m : SerialManager) :
    (queryAndRecordFirst kind portId m).1 = decide (portId ∉ m.seen kind) := by
  cases kind <;> simp only [queryAndRecordFirst, queryAndRecordFirstRead, queryAndRecordFirstWrite,
    SerialManager.seen] <;> split <;> simp_all

@[simp] theorem record_portTokenMap (m : SerialManager) (kind : Transfer) (portId : Int) :
    (m.record kind portId).portTokenMap = m.portTokenMap := by
  cases kind <;> simp only [SerialManager.record, queryAndRecordFirst, queryAndRecordFirstRead,
    queryAndRecordFirstWrite] <;> split <;> rfl

theorem mem_seen_record (m : SerialManager) (kind kind' : Transfer) (portId p : Int) :
    p ∈ (m.record kind portId).seen kind' ↔ (kind' = kind ∧ p = portId) ∨ p ∈ m.seen kind' := by
  cases kind <;> cases kind' <;> simp only [SerialManager.record, queryAndRecordFirst, queryAndRecordFirstRead,
    queryAndRecordFirstWrite, SerialManager.seen] <;> split <;> simp_all

@[simp] theorem own_seen (m : SerialManager) (portId : Int) (tokenId : UInt32) (h : m.serial = true)
    (kind : Transfer) : (m.own portId tokenId h).seen kind = m.seen kind := by
  cases kind <;> rfl

@[simp] theorem disown_seen (m : SerialManager) (portId : Int) (kind : Transfer) :
    (m.disown portId).seen kind = m.seen kind := by
  cases kind <;> rfl

theorem mem_seen_release (m : SerialManager) (portId p : Int) (kind : Transfer) :
    p ∈ (m.release portId).seen kind ↔ p ∈ m.seen kind ∧ p ≠ portId := by
  cases kind <;> simp [SerialManager.release, SerialManager.seen]

/-- The reply and the new state of every call, with the guard that it passed. -/
inductive Effect (op : SerialOp) (m : SerialManager) : SerialReply → SerialManager → Prop
  | failed (e : UsbErrCode) : Effect op m (.returned (.uec e) false) m
  | opened (hreq : op.request = .serialOpen) (hserial : m.serial = true)
      (hfree : m.portTokenMap.find? op.portId = none) :
      Effect op m (.returned .ok false) (m.own op.portId op.tokenId hserial)
  | closed (hreq : op.request = .serialClose) (howner : m.portTokenMap.find? op.portId = some op.tokenId) :
      Effect op m (.returned .ok false) (m.release op.portId)
  | transferred (kind : Transfer) (hreq : op.request = .transfer kind)
      (howner : m.portTokenMap.find? op.portId = some op.tokenId) :
      Effect op m (.returned .ok (decide (op.portId ∉ m.seen kind))) (m.record kind op.portId)
  | answered (hreq : op.request = .serialGetAttribute ∨ op.request = .serialSetAttribute)
      (howner : m.portTokenMap.find? op.portId = some op.tokenId) : Effect op m (.returned .ok false) m
  | freed (hreq : op.request = .freeTokenId) (howner : m.portTokenMap.find? op.portId = some op.tokenId) :
      Effect op m (.freed true) (m.disown op.portId)
  | ignored (hreq : op.request = .freeTokenId) (hnot : m.portTokenMap.find? op.portId ≠ some op.tokenId) :
      Effect op m (.freed false) m

theorem serialTransfer_effect (kind : Transfer) (op : SerialOp) (m : SerialManager)
    (hreq : op.request = .transfer kind) :
    Effect op m (.returned (serialTransfer (queryAndRecordFirst kind) op.hdi op.tokenId op.portId m).1.ret
        (serialTransfer (queryAndRecordFirst kind) op.hdi op.tokenId op.portId m).1.reported)
      (serialTransfer (queryAndRecordFirst kind) op.hdi op.tokenId op.portId m).2 := by
  obtain ⟨e, he⟩ | ⟨howner, hok⟩ :=
    serialTransfer_cases op.hdi op.tokenId op.portId m (queryAndRecordFirst kind)
  · rw [he]
    exact .failed e
  · rw [hok, queryAndRecordFirst_fst]
    exact .transferred kind hreq howner

theorem serialAttribute_effect (op : SerialOp) (m : SerialManager)
    (hreq : op.request = .serialGetAttribute ∨ op.request = .serialSetAttribute) :
    Effect op m (.returned (serialAttribute op.hdi op.tokenId op.portId m) false) m := by
  rcases hret : serialAttribute op.hdi op.tokenId op.portId m with - | e | code
  · exact .answered hreq (serialAttribute_ok op.hdi op.tokenId op.portId m hret)
  · exact .failed e
  · -- An error of HDI is wrapped, so it is never returned as it is.
    unfold serialAttribute at hret
    obtain ⟨e, he⟩ | ⟨hok, -⟩ := checkPortAndTokenId_cases op.tokenId op.portId m
    · rw [he] at hret
      cases hret
    · rw [hok] at hret
      simp only at hret
      split at hret <;> cases hret

theorem SerialOp.effect (op : SerialOp) (m : SerialManager) : Effect op m (op.call m).1 (op.call m).2 := by
  unfold SerialOp.call
  split
  case h_1 hreq =>
    obtain ⟨e, he⟩ | ⟨hserial, hfree, hok⟩ := serialOpen_cases op.hdi op.tokenId op.portId m
    · rw [he]
      exact .failed e
    · rw [hok]
      exact .opened hreq hserial hfree
  case h_2 hreq =>
    obtain ⟨e, he⟩ | ⟨howner, hok⟩ := serialClose_cases op.hdi op.tokenId op.portId m
    · rw [he]
      exact .failed e
    · rw [hok]
      exact .closed hreq howner
  case h_3 hreq => exact serialTransfer_effect .read op m hreq
  case h_4 hreq => exact serialTransfer_effect .write op m hreq
  case h_5 hreq => exact serialAttribute_effect op m (.inl hreq)
  case h_6 hreq => exact serialAttribute_effect op m (.inr hreq)
  case h_7 hreq =>
    unfold freeTokenId
    split
    · rename_i howner
      exact .freed hreq howner
    · rename_i hnot
      exact .ignored hreq hnot

/-! ## Runs -/

structure SerialEvent where
  op : SerialOp
  reply : SerialReply

/-- The latest event is the first of `log`. -/
structure SerialRun where
  manager : SerialManager
  log : List SerialEvent

def SerialOp.step (op : SerialOp) (run : SerialRun) : SerialRun :=
  ⟨(op.call run.manager).2, ⟨op, (op.call run.manager).1⟩ :: run.log⟩

theorem SerialOp.step_effect (op : SerialOp) (run : SerialRun) :
    ∃ reply m, op.step run = ⟨m, ⟨op, reply⟩ :: run.log⟩ ∧ Effect op run.manager reply m :=
  ⟨_, _, rfl, op.effect run.manager⟩

structure SerialRun.Started (run : SerialRun) : Prop where
  unowned : run.manager.portTokenMap = StdMap.empty
  unseen : ∀ kind, run.manager.seen kind = []
  log : run.log = []

/-- The operation was this one on this port, and it was done. -/
def SerialEvent.did (e : SerialEvent) (request : SerialRequest) (portId : Int) : Bool :=
  e.reply.done && e.op.request = request && e.op.portId = portId

/-! ## Owners -/

/-- The owner of a port, by the log alone. -/
def ownerOf (portId : Int) : List SerialEvent → Option UInt32
  | [] => none
  | e :: log =>
    if e.did .serialOpen portId then some e.op.tokenId
    else if e.did .serialClose portId || e.did .freeTokenId portId then none
    else ownerOf portId log

/-- The tokens of the manager are the owners of the log. -/
def SerialRun.OwnersAgree (run : SerialRun) : Prop :=
  ∀ portId, run.manager.portTokenMap.find? portId = ownerOf portId run.log

theorem step_ownersAgree (op : SerialOp) (run : SerialRun) (hrun : run.OwnersAgree) : (op.step run).OwnersAgree := by
  intro p
  obtain ⟨reply, m, hstep, heffect⟩ := op.step_effect run
  rw [hstep]
  cases heffect with
  | failed e => simp [ownerOf, SerialEvent.did, SerialReply.done, hrun p]
  | opened hreq hserial hfree =>
    rw [own_find? _ _ _ hserial hfree]
    by_cases hp : p = op.portId
    · simp [ownerOf, SerialEvent.did, SerialReply.done, hreq, hp]
    · simp [ownerOf, SerialEvent.did, SerialReply.done, hreq, hp, Ne.symm hp, hrun p]
  | closed hreq howner =>
    by_cases hp : p = op.portId
    · simp [ownerOf, SerialEvent.did, SerialReply.done, hreq, hp]
    · simp [ownerOf, SerialEvent.did, SerialReply.done, hreq, hp, Ne.symm hp, hrun p]
  | transferred kind hreq howner => simp [ownerOf, SerialEvent.did, SerialReply.done, hreq, hrun p]
  | answered hreq howner =>
    rcases hreq with hreq | hreq
    all_goals simp [ownerOf, SerialEvent.did, SerialReply.done, hreq, hrun p]
  | freed hreq howner =>
    by_cases hp : p = op.portId
    · simp [ownerOf, SerialEvent.did, SerialReply.done, hreq, hp]
    · simp [ownerOf, SerialEvent.did, SerialReply.done, hreq, hp, Ne.symm hp, hrun p]
  | ignored hreq hnot => simp [ownerOf, SerialEvent.did, SerialReply.done, hrun p]

theorem ownersAgree_started (run : SerialRun) (h : run.Started) : run.OwnersAgree := by
  intro p
  rw [h.unowned, h.log]
  rfl

/-- The managers differ at most in the owner of this port. -/
structure SameButOwner (portId : Int) (m m' : SerialManager) : Prop where
  serial : m'.serial = m.serial
  serialPortMap : m'.serialPortMap = m.serialPortMap
  portsHasBeenRead : m'.portsHasBeenRead = m.portsHasBeenRead
  portsHasBeenWritten : m'.portsHasBeenWritten = m.portsHasBeenWritten
  others : ∀ p ≠ portId, m'.portTokenMap.find? p = m.portTokenMap.find? p

/-- Only the owner of a port uses it, and an operation that fails changes no owner. -/
structure SerialRun.OneOwner (run : SerialRun) : Prop where
  unique : ∀ portId t t', (portId, t) ∈ run.manager.portTokenMap.entries →
    (portId, t') ∈ run.manager.portTokenMap.entries → t = t'
  owner : ∀ portId t, (portId, t) ∈ run.manager.portTokenMap.entries ↔ ownerOf portId run.log = some t
  used : ∀ (op : SerialOp) reported, op.request ≠ .serialOpen →
    (op.call run.manager).1 = .returned .ok reported → ownerOf op.portId run.log = some op.tokenId
  error : ∀ (op : SerialOp) ret reported, (op.call run.manager).1 = .returned ret reported → ret ≠ .ok →
    (op.call run.manager).2.portTokenMap = run.manager.portTokenMap
  freed : ∀ portId t, run.manager.portTokenMap.find? portId = some t →
    (freeTokenId portId t run.manager).2.portTokenMap.find? portId = none ∧
      SameButOwner portId run.manager (freeTokenId portId t run.manager).2
  kept : ∀ portId t, run.manager.portTokenMap.find? portId ≠ some t →
    (freeTokenId portId t run.manager).2 = run.manager

theorem used_by_owner (op : SerialOp) (m : SerialManager) (reported : Bool) (hopen : op.request ≠ .serialOpen)
    (h : (op.call m).1 = .returned .ok reported) : m.portTokenMap.find? op.portId = some op.tokenId := by
  have heffect := op.effect m
  rw [h] at heffect
  generalize (op.call m).2 = m' at heffect
  generalize hok : SerialReply.returned .ok reported = reply at heffect
  cases heffect with
  | failed e => cases hok
  | opened hreq => exact absurd hreq hopen
  | closed hreq howner => exact howner
  | transferred kind hreq howner => exact howner
  | answered hreq howner => exact howner
  | freed hreq => cases hok
  | ignored hreq => cases hok

theorem error_keeps_owners (op : SerialOp) (m : SerialManager) (ret : Ret) (reported : Bool)
    (h : (op.call m).1 = .returned ret reported) (hret : ret ≠ .ok) :
    (op.call m).2.portTokenMap = m.portTokenMap := by
  have heffect := op.effect m
  rw [h] at heffect
  generalize (op.call m).2 = m' at heffect ⊢
  generalize herr : SerialReply.returned ret reported = reply at heffect
  cases heffect with
  | failed e => rfl
  | ignored hreq => rfl
  | freed hreq => cases herr
  | opened hreq => exact absurd (SerialReply.returned.inj herr).1 hret
  | closed hreq => exact absurd (SerialReply.returned.inj herr).1 hret
  | transferred kind hreq => exact absurd (SerialReply.returned.inj herr).1 hret
  | answered hreq => exact absurd (SerialReply.returned.inj herr).1 hret

theorem serial_port_one_owner (run : SerialRun)
    (h : Run.Reachable SerialRun.Started SerialOp.step (fun _ _ => True) run) : run.OneOwner := by
  have howners : run.OwnersAgree :=
    h.invariant ownersAgree_started fun op run _ hrun => step_ownersAgree op run hrun
  refine ⟨?_, ?_, ?_, ?_, ?_, ?_⟩
  · intro portId t t' ht ht'
    rw [← StdMap.find?_eq_some] at ht ht'
    exact Option.some.inj (ht.symm.trans ht')
  · intro portId t
    rw [← StdMap.find?_eq_some, howners]
  · intro op reported hopen hok
    rw [← howners]
    exact used_by_owner op run.manager reported hopen hok
  · intro op ret reported hret herr
    exact error_keeps_owners op run.manager ret reported hret herr
  · intro portId t ht
    rw [freeTokenId, if_pos ht]
    refine ⟨by simp, rfl, rfl, rfl, rfl, ?_⟩
    intro p hp
    rw [disown_find?, if_neg hp]
  · intro portId t ht
    rw [freeTokenId, if_neg ht]

def idleManager : SerialManager := ⟨true, StdMap.empty, StdMap.empty, [], [], fun _ => rfl⟩

def idle : SerialRun := ⟨idleManager, []⟩

theorem idle_started : idle.Started := ⟨rfl, fun kind => by cases kind <;> rfl, rfl⟩

theorem serial_port_one_owner_port5 :
    let run := (SerialOp.mk .serialOpen 0 8 5).step ((SerialOp.mk .serialOpen 0 7 5).step idle)
    run.OneOwner ∧ ownerOf 5 run.log = some 7 ∧
      ((SerialOp.mk (.transfer .read) 3 7 5).call run.manager).1 = .returned .ok true ∧
      ((SerialOp.mk (.transfer .read) 3 8 5).call run.manager).1 = .returned (.uec .serialPortNotOpen) false := by
  intro run
  refine ⟨serial_port_one_owner run (.step _ (.step _ (.init idle_started) trivial) trivial), ?_, ?_, ?_⟩
  all_goals decide +kernel

/-! ## First reads and writes -/

/-- Every port that counts as read or written is owned, and the first read and the first write after
an open are reported. -/
structure SerialRun.Audited (run : SerialRun) : Prop where
  owned : ∀ kind portId, portId ∈ run.manager.seen kind → ∃ t, run.manager.portTokenMap.find? portId = some t
  reported : ∀ kind portId newer first between opening older,
    run.log = newer ++ first :: (between ++ opening :: older) → opening.did .serialOpen portId →
    first.did (.transfer kind) portId → (∀ e ∈ between, e.did (.transfer kind) portId = false) →
    first.reply.reported

/-- No client dies after it read from its port or wrote to it. -/
def SerialOp.keepsAudit (op : SerialOp) (run : SerialRun) : Prop :=
  op.request = .freeTokenId → run.manager.portTokenMap.find? op.portId = some op.tokenId →
    ∀ kind, op.portId ∉ run.manager.seen kind

/-- The port was used in this way since it was last opened, by the log alone. -/
def usedSinceOpen (kind : Transfer) (portId : Int) : List SerialEvent → Bool
  | [] => false
  | e :: log =>
    if e.did .serialOpen portId then false
    else e.did (.transfer kind) portId || usedSinceOpen kind portId log

/-- Every first use since an open was reported. -/
def FirstsReported : List SerialEvent → Prop
  | [] => True
  | e :: log =>
    (∀ kind portId, e.did (.transfer kind) portId → usedSinceOpen kind portId log = false → e.reply.reported) ∧
      FirstsReported log

/-- What a step keeps: a port that counts as used was used in the session of its owner. -/
structure SerialRun.InSession (run : SerialRun) : Prop where
  owned : ∀ kind portId, portId ∈ run.manager.seen kind → ∃ t, run.manager.portTokenMap.find? portId = some t
  used : ∀ kind portId, portId ∈ run.manager.seen kind → usedSinceOpen kind portId run.log
  firsts : FirstsReported run.log

theorem usedSinceOpen_append (kind : Transfer) (portId : Int) (between older : List SerialEvent)
    (opening : SerialEvent) (hopen : opening.did .serialOpen portId)
    (hbetween : ∀ e ∈ between, e.did (.transfer kind) portId = false) :
    usedSinceOpen kind portId (between ++ opening :: older) = false := by
  induction between with
  | nil => simp [usedSinceOpen, hopen]
  | cons e rest ih =>
    have he := hbetween e List.mem_cons_self
    have hrest := ih fun e' he' => hbetween e' (List.mem_cons_of_mem e he')
    simp [usedSinceOpen, he, hrest]

theorem firstsReported_of_append (newer log : List SerialEvent) (h : FirstsReported (newer ++ log)) :
    FirstsReported log := by
  induction newer with
  | nil => exact h
  | cons e rest ih => exact ih h.2

theorem SerialRun.InSession.audited {run : SerialRun} (h : run.InSession) : run.Audited := by
  refine ⟨h.owned, ?_⟩
  intro kind portId newer first between opening older hlog hopen hfirst hbetween
  have hfirsts := h.firsts
  rw [hlog] at hfirsts
  exact (firstsReported_of_append newer _ hfirsts).1 kind portId hfirst
    (usedSinceOpen_append kind portId between older opening hopen hbetween)

theorem SerialRun.InSession.quiet {run : SerialRun} (hrun : run.InSession) (e : SerialEvent) (m : SerialManager)
    (hopen : ∀ portId, e.did .serialOpen portId = false)
    (htransfer : ∀ kind portId, e.did (.transfer kind) portId = false)
    (hseen : ∀ kind portId, portId ∈ m.seen kind → portId ∈ run.manager.seen kind ∧
      m.portTokenMap.find? portId = run.manager.portTokenMap.find? portId) :
    SerialRun.InSession ⟨m, e :: run.log⟩ := by
  refine ⟨?_, ?_, ?_, hrun.firsts⟩
  · intro kind portId hmem
    obtain ⟨hbefore, howner⟩ := hseen kind portId hmem
    rw [howner]
    exact hrun.owned kind portId hbefore
  · intro kind portId hmem
    simp [usedSinceOpen, hopen, htransfer, hrun.used kind portId (hseen kind portId hmem).1]
  · intro kind portId hdid
    rw [htransfer] at hdid
    cases hdid

theorem SerialRun.InSession.opened {run : SerialRun} (hrun : run.InSession) {op : SerialOp}
    (hreq : op.request = .serialOpen) (hserial : run.manager.serial = true)
    (hfree : run.manager.portTokenMap.find? op.portId = none) :
    SerialRun.InSession ⟨run.manager.own op.portId op.tokenId hserial, ⟨op, .returned .ok false⟩ :: run.log⟩ := by
  -- The port was free, so it does not count as used.
  have hnew : ∀ kind, op.portId ∉ run.manager.seen kind := by
    intro kind hmem
    obtain ⟨t, ht⟩ := hrun.owned kind _ hmem
    rw [hfree] at ht
    cases ht
  refine ⟨?_, ?_, ?_, hrun.firsts⟩
  · intro kind p hp
    rw [own_seen] at hp
    rw [own_find? _ _ _ hserial hfree]
    split
    · exact ⟨_, rfl⟩
    · exact hrun.owned kind p hp
  · intro kind p hp
    rw [own_seen] at hp
    have hne : op.portId ≠ p := fun h => hnew kind (h ▸ hp)
    simpa [usedSinceOpen, SerialEvent.did, SerialReply.done, hreq, hne] using hrun.used kind p hp
  · simp [SerialEvent.did, hreq]

theorem SerialRun.InSession.transferred {run : SerialRun} (hrun : run.InSession) {op : SerialOp} {kind : Transfer}
    (hreq : op.request = .transfer kind) (howner : run.manager.portTokenMap.find? op.portId = some op.tokenId) :
    SerialRun.InSession ⟨run.manager.record kind op.portId,
      ⟨op, .returned .ok (decide (op.portId ∉ run.manager.seen kind))⟩ :: run.log⟩ := by
  refine ⟨?_, ?_, ?_, hrun.firsts⟩
  · intro kind' p hp
    rw [record_portTokenMap]
    rcases (mem_seen_record _ _ _ _ _).mp hp with ⟨-, rfl⟩ | hseen
    · exact ⟨_, howner⟩
    · exact hrun.owned kind' p hseen
  · intro kind' p hp
    rcases (mem_seen_record _ _ _ _ _).mp hp with ⟨rfl, rfl⟩ | hseen
    · simp [usedSinceOpen, SerialEvent.did, SerialReply.done, hreq]
    · simp [usedSinceOpen, SerialEvent.did, hreq, hrun.used kind' p hseen]
  · intro kind' p hdid hfirst
    simp only [SerialEvent.did, hreq, Bool.and_eq_true, decide_eq_true_eq,
      SerialRequest.transfer.injEq] at hdid
    obtain ⟨⟨-, rfl⟩, rfl⟩ := hdid
    have hnew : op.portId ∉ run.manager.seen kind := fun hmem => by
      rw [hrun.used kind op.portId hmem] at hfirst
      cases hfirst
    simpa [SerialReply.reported] using hnew

theorem step_inSession (op : SerialOp) (run : SerialRun) (hrun : run.InSession) (hop : op.keepsAudit run) :
    (op.step run).InSession := by
  obtain ⟨reply, m, hstep, heffect⟩ := op.step_effect run
  rw [hstep]
  cases heffect with
  | failed e =>
    apply hrun.quiet
    · simp [SerialEvent.did, SerialReply.done]
    · simp [SerialEvent.did, SerialReply.done]
    · exact fun kind p hp => ⟨hp, rfl⟩
  | opened hreq hserial hfree => exact hrun.opened hreq hserial hfree
  | closed hreq howner =>
    apply hrun.quiet
    · simp [SerialEvent.did, hreq]
    · simp [SerialEvent.did, hreq]
    · intro kind p hp
      obtain ⟨hseen, hne⟩ := (mem_seen_release _ _ _ _).mp hp
      rw [release_find?, if_neg hne]
      exact ⟨hseen, rfl⟩
  | transferred kind hreq howner => exact hrun.transferred hreq howner
  | answered hreq howner =>
    rcases hreq with hreq | hreq
    all_goals
      apply hrun.quiet
      · simp [SerialEvent.did, hreq]
      · simp [SerialEvent.did, hreq]
      · exact fun kind p hp => ⟨hp, rfl⟩
  | freed hreq howner =>
    apply hrun.quiet
    · simp [SerialEvent.did, hreq]
    · simp [SerialEvent.did, hreq]
    · intro kind p hp
      rw [disown_seen] at hp
      have hne : p ≠ op.portId := fun h => hop hreq howner kind (h ▸ hp)
      rw [disown_find?, if_neg hne]
      exact ⟨hp, rfl⟩
  | ignored hreq hnot =>
    apply hrun.quiet
    · simp [SerialEvent.did, hreq]
    · simp [SerialEvent.did, hreq]
    · exact fun kind p hp => ⟨hp, rfl⟩

theorem inSession_started (run : SerialRun) (h : run.Started) : run.InSession := by
  refine ⟨?_, ?_, ?_⟩
  · intro kind p hp
    rw [h.unseen] at hp
    cases hp
  · intro kind p hp
    rw [h.unseen] at hp
    cases hp
  · rw [h.log]
    trivial

theorem not_audited_after_death (op : SerialOp) (run : SerialRun) (hop : ¬ op.keepsAudit run) :
    ¬ (op.step run).Audited := by
  unfold SerialOp.keepsAudit at hop
  push Not at hop
  obtain ⟨hreq, howner, kind, hseen⟩ := hop
  intro h
  have hstep : (op.step run).manager = run.manager.disown op.portId := by
    simp [SerialOp.step, SerialOp.call, hreq, freeTokenId, howner]
  obtain ⟨t, ht⟩ := h.owned kind op.portId (by rw [hstep, disown_seen]; exact hseen)
  rw [hstep, disown_find?, if_pos rfl] at ht
  cases ht

/-- As long as no client dies after a read or a write, every first read and write is reported. The
first such death ends it. -/
theorem serial_sessions_audited (run : SerialRun)
    (h : Run.Reachable SerialRun.Started SerialOp.step SerialOp.keepsAudit run) :
    run.Audited ∧ ∀ op : SerialOp, ¬ op.keepsAudit run → ¬ (op.step run).Audited := by
  have hrun : run.InSession :=
    h.invariant inSession_started fun op run hop hrun => step_inSession op run hrun hop
  exact ⟨hrun.audited, fun op hop => not_audited_after_death op run hop⟩

theorem serial_sessions_audited_closed :
    ((SerialOp.mk (.transfer .read) 3 8 5).step ((SerialOp.mk .serialOpen 0 8 5).step
      ((SerialOp.mk .serialClose 0 7 5).step ((SerialOp.mk (.transfer .read) 3 7 5).step
        ((SerialOp.mk .serialOpen 0 7 5).step idle))))).Audited := by
  have hopen : Run.Reachable SerialRun.Started SerialOp.step SerialOp.keepsAudit
      ((SerialOp.mk .serialOpen 0 7 5).step idle) := .step _ (.init idle_started) fun h => by cases h
  have hclose := (hopen.step (SerialOp.mk (.transfer .read) 3 7 5) fun h => by cases h).step
    (SerialOp.mk .serialClose 0 7 5) fun h => by cases h
  have hagain := (hclose.step (SerialOp.mk .serialOpen 0 8 5) fun h => by cases h).step
    (SerialOp.mk (.transfer .read) 3 8 5) fun h => by cases h
  exact (serial_sessions_audited _ hagain).1

/-- The first client dies after its read, and the first read of the next one is not reported. -/
theorem serial_session_unaudited :
    let died := (SerialOp.mk .freeTokenId 0 7 5).step ((SerialOp.mk (.transfer .read) 3 7 5).step
      ((SerialOp.mk .serialOpen 0 7 5).step idle))
    let run := (SerialOp.mk (.transfer .read) 3 8 5).step ((SerialOp.mk .serialOpen 0 8 5).step died)
    Run.Reachable SerialRun.Started SerialOp.step (fun _ _ => True) run ∧ ¬ died.Audited ∧ ¬ run.Audited := by
  intro died run
  refine ⟨.step _ (.step _ (.step _ (.step _ (.step _ (.init idle_started) trivial) trivial) trivial) trivial)
    trivial, ?_, ?_⟩
  · apply not_audited_after_death
    intro h
    exact h rfl (by decide +kernel) .read (by decide +kernel)
  · intro h
    have hsilent := h.reported .read 5 [] _ [] _ _ rfl (by decide +kernel) (by decide +kernel) (by simp)
    exact absurd hsilent (by decide +kernel)

end UsbManager.Serial
