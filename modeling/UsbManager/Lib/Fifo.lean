import Mathlib.Init

/-!
# Reading a queue of values back

A reader takes values from the front of a queue. `Recovers` relates it to what a writer put there, whatever
follows, so that the rules for sequences and loops give the round trip of a whole format.
-/

namespace Fifo

variable {τ α β : Type}

/-- Takes what it reads off the front, or fails. -/
abbrev Reader (τ : Type) := StateT (List τ) Option

/-- The reader gives `a` back for what was written and stops right behind it. -/
def Recovers (r : Reader τ α) (written : List τ) (a : α) : Prop := ∀ rest, r (written ++ rest) = some (a, rest)

theorem Recovers.pure (a : α) : Recovers (Pure.pure a : Reader τ α) [] a := fun _ => rfl

theorem Recovers.bind {r : Reader τ α} {f : α → Reader τ β} {w w' : List τ} {a : α} {b : β} (h : Recovers r w a)
    (h' : Recovers (f a) w' b) : Recovers (r >>= f) (w ++ w') b := by
  intro rest
  rw [List.append_assoc]
  show (r (w ++ (w' ++ rest))).bind (fun x => f x.1 x.2) = some (b, rest)
  rw [h]
  exact h' rest

theorem Recovers.cons {r : Reader τ α} {f : α → Reader τ β} {v : τ} {w : List τ} {a : α} {b : β} (h : Recovers r [v] a)
    (h' : Recovers (f a) w b) : Recovers (r >>= f) (v :: w) b := h.bind h'

theorem Recovers.last {r : Reader τ α} {f : α → β} {w : List τ} {a : α} (h : Recovers r w a) :
    Recovers (r >>= fun x => Pure.pure (f x)) w (f a) := by
  rw [← List.append_nil w]
  apply h.bind
  exact Recovers.pure (f a)

def times (r : Reader τ α) : Nat → Reader τ (List α)
  | 0 => pure []
  | n + 1 => do
    let a ← r
    let rest ← times r n
    return a :: rest

/-- A loop of the reader over a loop of the writer: `back x` is what the reader makes of `x`. -/
theorem Recovers.times {r : Reader τ β} {write : α → List τ} {back : α → β} (l : List α)
    (h : ∀ x ∈ l, Recovers r (write x) (back x)) : Recovers (Fifo.times r l.length) (l.flatMap write) (l.map back) := by
  induction l with
  | nil => exact Recovers.pure []
  | cons x l ih =>
    rw [List.flatMap_cons]
    apply Recovers.bind (h x List.mem_cons_self)
    apply Recovers.last
    apply ih
    intro y hy
    exact h y (List.mem_cons_of_mem _ hy)

/-! ## Writing -/

/-- A writer appends to a queue until a write fails. -/
abbrev Output (τ : Type) := StateT (List τ) Option

/-- `writable` says which queues take one more value. -/
def write (v : τ) (writable : List τ → Bool) : Output τ Unit := fun q =>
  if writable q then some ((), q ++ [v]) else none

/-- The writer succeeds only with `written`, and it does succeed where every write does. -/
structure Appends (w : (List τ → Bool) → Output τ Unit) (written : List τ) : Prop where
  only : ∀ writable q q', w writable q = some ((), q') → q' = q ++ written
  all : ∀ q, w (fun _ => true) q = some ((), q ++ written)

theorem appends_write (v : τ) : Appends (write v) [v] := by
  refine ⟨fun writable q q' h => ?_, fun q => rfl⟩
  unfold write at h
  split at h
  · cases h
    rfl
  · cases h

theorem appends_nil : Appends (fun _ => (Pure.pure () : Output τ Unit)) [] := by
  refine ⟨fun writable q q' h => ?_, fun q => by rw [List.append_nil]; rfl⟩
  cases h
  exact (List.append_nil q).symm

theorem Appends.seq {w w' : (List τ → Bool) → Output τ Unit} {written written' : List τ} (h : Appends w written)
    (h' : Appends w' written') :
    Appends (fun writable => do w writable; w' writable) (written ++ written') := by
  constructor
  · intro writable q q' hq
    obtain ⟨⟨⟨⟩, q₁⟩, hfirst, hsecond⟩ := Option.bind_eq_some_iff.mp hq
    rw [h'.only writable q₁ q' hsecond, h.only writable q q₁ hfirst, List.append_assoc]
  · intro q
    show (w _ q).bind (fun x => w' _ x.2) = _
    rw [h.all, ← List.append_assoc]
    exact h'.all _

theorem Appends.forM {w : α → (List τ → Bool) → Output τ Unit} {written : α → List τ} (l : List α)
    (h : ∀ x ∈ l, Appends (w x) (written x)) :
    Appends (fun writable => l.forM fun x => w x writable) (l.flatMap written) := by
  induction l with
  | nil => exact appends_nil
  | cons x l ih =>
    rw [List.flatMap_cons]
    apply Appends.seq (h x List.mem_cons_self)
    apply ih
    intro y hy
    exact h y (List.mem_cons_of_mem _ hy)

end Fifo
