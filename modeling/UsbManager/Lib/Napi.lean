import Mathlib.Data.Rat.Defs

/-!
# Values of JavaScript behind Node-API

Plain values, how their properties are looked up, and the exception that is pending. While an exception is pending no
property is found, and the first exception is the one that stays.
-/

namespace Napi

/-- The number of `none` is not finite. -/
inductive JsValue
  | undefined
  | null
  | boolean (value : Bool)
  | number (value : Option Rat)
  | string (value : String)
  | array (items : List JsValue)
  | object (members : List (String × JsValue))

namespace JsValue

def member? : JsValue → String → Option JsValue
  | .object members, field => (members.find? fun m => m.1 = field).map Prod.snd
  | _, _ => none

/-- The bottom 32 bits of what is left without the fraction, and zero if there is no such number. -/
def int32Of : Option Rat → Int
  | none => 0
  | some q => (q.num.tdiv q.den).bmod 4294967296

def ofInt (n : Int) : JsValue := .number (some n)

def number? : JsValue → Option Int
  | .number v => some (int32Of v)
  | _ => none

def string? : JsValue → Option String
  | .string s => some s
  | _ => none

def boolean? : JsValue → Option Bool
  | .boolean b => some b
  | _ => none

def array? : JsValue → Option (List JsValue)
  | .array items => some items
  | _ => none

def isObject : JsValue → Bool
  | .array _ | .object _ => true
  | _ => false

theorem number?_ofInt (n : Int) : (ofInt n).number? = some (n.bmod 4294967296) := by
  simp [ofInt, number?, int32Of]

theorem number?_ofInt_of_lt {n : Int} (h : -2147483648 ≤ n) (h' : n < 2147483648) : (ofInt n).number? = some n := by
  rw [number?_ofInt, Int.bmod_eq_of_le (by omega) (by omega)]

end JsValue

/-! ## Pending exceptions -/

/-- The state is the exception that is pending, if there is one. -/
abbrev NapiM := StateM (Option String)

/-- The first exception stays. -/
def raise (msg : String) : NapiM Unit := modify fun pending => pending.or (some msg)

/-- Nothing is found while an exception is pending. -/
def getNamedProperty (object : JsValue) (field : String) : NapiM (Option JsValue) :=
  fun pending => (if pending.isSome then none else object.member? field, pending)

/-- Looks without clearing. -/
def isExceptionPending : NapiM Bool := fun pending => (pending.isSome, pending)

/-- The loop over the elements of an array. It ends with `none` if an exception is pending before the next one. -/
def forElements {α : Type} (parse : JsValue → NapiM α) : List JsValue → NapiM (Option (List α))
  | [] => pure (some [])
  | item :: items => do
    if ← isExceptionPending then pure none
    else
      let a ← parse item
      let rest ← forElements parse items
      pure (rest.map (a :: ·))

section

variable {α β : Type}

/-- Without a pending exception the result is `a`, and none is pending after. -/
def Reads (x : NapiM α) (a : α) : Prop := x.run none = (a, none)

theorem Reads.pure (a : α) : Reads (pure a : NapiM α) a := rfl

theorem Reads.run_bind {x : NapiM α} {a : α} (h : Reads x a) (f : α → NapiM β) :
    (x >>= f).run none = (f a).run none := by
  unfold Reads at h
  rw [StateT.run_bind, h]
  rfl

theorem Reads.bind {x : NapiM α} {f : α → NapiM β} {a : α} {b : β} (h : Reads x a) (h' : Reads (f a) b) :
    Reads (x >>= f) b :=
  (h.run_bind f).trans h'

theorem reads_getNamedProperty (object : JsValue) (field : String) :
    Reads (getNamedProperty object field) (object.member? field) := rfl

theorem Reads.mapM {parse : JsValue → NapiM α} {f : β → JsValue} {g : β → α} {l : List β}
    (h : ∀ b ∈ l, Reads (parse (f b)) (g b)) : Reads ((l.map f).mapM parse) (l.map g) := by
  induction l with
  | nil => exact Reads.pure []
  | cons b l ih =>
    rw [List.map_cons, List.mapM_cons]
    apply Reads.bind (h b List.mem_cons_self)
    apply Reads.bind (ih fun c hc => h c (List.mem_cons_of_mem b hc))
    exact Reads.pure _

theorem Reads.forElements {parse : JsValue → NapiM α} {f : β → JsValue} {g : β → α} {l : List β}
    (h : ∀ b ∈ l, Reads (parse (f b)) (g b)) : Reads (forElements parse (l.map f)) (some (l.map g)) := by
  induction l with
  | nil => exact Reads.pure (some [])
  | cons b l ih =>
    have hpending : Reads isExceptionPending false := rfl
    apply Reads.bind hpending
    apply Reads.bind (h b List.mem_cons_self)
    apply Reads.bind (ih fun c hc => h c (List.mem_cons_of_mem b hc))
    exact Reads.pure _

/-! ## What raises no exception -/

/-- A pending exception stays, and without one none is raised exactly if `P` holds. -/
structure Accepts (x : NapiM α) (P : Prop) : Prop where
  sticky : ∀ e, (x.run (some e)).2 = some e
  quiet : (x.run none).2 = none ↔ P

theorem Accepts.congr {x : NapiM α} {P Q : Prop} (h : Accepts x P) (hiff : P ↔ Q) : Accepts x Q :=
  ⟨h.sticky, h.quiet.trans hiff⟩

theorem accepts_pure (a : α) : Accepts (pure a : NapiM α) True := ⟨fun _ => rfl, iff_of_true rfl trivial⟩

theorem accepts_raise (msg : String) : Accepts (raise msg) False := ⟨fun _ => rfl, by simp [raise]⟩

theorem accepts_getNamedProperty (object : JsValue) (field : String) : Accepts (getNamedProperty object field) True :=
  ⟨fun _ => rfl, iff_of_true rfl trivial⟩

theorem accepts_isExceptionPending : Accepts isExceptionPending True := ⟨fun _ => rfl, iff_of_true rfl trivial⟩

theorem Accepts.bind {x : NapiM α} {f : α → NapiM β} {P : Prop} {Q : α → Prop} (h : Accepts x P)
    (h' : ∀ a, Accepts (f a) (Q a)) : Accepts (x >>= f) (P ∧ Q (x.run none).1) := by
  constructor
  · intro e
    have hx := h.sticky e
    rw [StateT.run_bind]
    rcases hrun : x.run (some e) with ⟨a, pending⟩
    rw [hrun] at hx
    obtain rfl : pending = some e := hx
    exact (h' a).sticky e
  · rw [← h.quiet, StateT.run_bind]
    rcases hrun : x.run none with ⟨a, pending⟩
    cases pending with
    | none => exact (h' a).quiet.trans ⟨fun h => ⟨rfl, h⟩, fun h => h.2⟩
    | some e =>
      refine iff_of_false (fun hnone => ?_) (by simp)
      exact absurd (((h' a).sticky e).symm.trans hnone) (by simp)

theorem Accepts.bind_of_reads {x : NapiM α} {f : α → NapiM β} {a : α} {Q : α → Prop} (hx : Accepts x True)
    (h : Reads x a) (h' : ∀ a, Accepts (f a) (Q a)) : Accepts (x >>= f) (Q a) := by
  apply (hx.bind h').congr
  rw [h, true_and]

theorem accepts_property {object : JsValue} {field : String} {f : Option JsValue → NapiM β} {Q : Option JsValue → Prop}
    (h : ∀ value?, Accepts (f value?) (Q value?)) :
    Accepts (getNamedProperty object field >>= f) (Q (object.member? field)) :=
  (accepts_getNamedProperty object field).bind_of_reads (reads_getNamedProperty object field) h

theorem accepts_failure (msg : String) (a : α) : Accepts (raise msg >>= fun _ => pure a) False :=
  ((accepts_raise msg).bind fun _ => accepts_pure a).congr (by simp)

theorem Accepts.mapM {parse : α → NapiM β} {P : α → Prop} (h : ∀ a, Accepts (parse a) (P a)) (l : List α) :
    Accepts (l.mapM parse) (∀ a ∈ l, P a) := by
  induction l with
  | nil => exact (accepts_pure []).congr (by simp)
  | cons a l ih =>
    rw [List.mapM_cons]
    exact ((h a).bind fun b => ih.bind fun bs => accepts_pure (b :: bs)).congr (by simp)

theorem Accepts.forElements {parse : JsValue → NapiM α} {P : JsValue → Prop} (h : ∀ v, Accepts (parse v) (P v))
    (l : List JsValue) : Accepts (forElements parse l) (∀ v ∈ l, P v) := by
  induction l with
  | nil => exact (accepts_pure (some [])).congr (by simp)
  | cons item items ih =>
    have hloop : ∀ pending, Accepts (if pending then pure none else do
        let a ← parse item
        let rest ← Napi.forElements parse items
        pure (rest.map (a :: ·))) (pending = true ∨ P item ∧ (∀ v ∈ items, P v) ∧ True) := by
      intro pending
      cases pending with
      | true => exact (accepts_pure none).congr (by simp)
      | false =>
        exact ((h item).bind fun a => ih.bind fun rest => accepts_pure (rest.map (a :: ·))).congr (by simp)
    exact (accepts_isExceptionPending.bind_of_reads rfl hloop).congr (by simp)

end

end Napi
