import UsbManager.Lib.StdMap

/-!
# One-shot timers

A timer service with tasks `τ`: registering a task gives an id that was never used before, unregistering
takes the task away, and a timer that fires is gone. An id that its owner still holds after that is harmless.
-/

/-- The tasks that are pending, by their ids. An id is never given twice. -/
structure Timers (τ : Type) where
  next : Nat
  pending : StdMap Nat τ
  fresh : ∀ id ∈ pending.keys, id < next

namespace Timers

variable {τ : Type}

def new : Timers τ := ⟨0, StdMap.empty, by simp⟩

def task? (t : Timers τ) (id : Nat) : Option τ := t.pending.find? id

def Idle (t : Timers τ) : Prop := ∀ id, t.task? id = none

theorem task?_next (t : Timers τ) : t.task? t.next = none := by
  rw [task?, StdMap.find?_eq_none]
  intro h
  exact absurd (t.fresh _ h) (Nat.lt_irrefl _)

theorem lt_next {t : Timers τ} {id : Nat} {task : τ} (h : t.task? id = some task) : id < t.next :=
  t.fresh id (t.pending.mem_keys_of_find? id task h)

theorem fresh_insert (t : Timers τ) (task : τ) (id : Nat) (h : id ∈ (t.pending.insert t.next task).keys) :
    id < t.next + 1 := by
  rw [← StdMap.find?_isSome, StdMap.find?_insert] at h
  split at h
  · omega
  · have := t.fresh id ((t.pending.find?_isSome id).mp h)
    omega

/-- The task gets the next id. -/
def register (task : τ) (t : Timers τ) : Nat × Timers τ :=
  (t.next, ⟨t.next + 1, t.pending.insert t.next task, t.fresh_insert task⟩)

theorem fresh_erase (t : Timers τ) (id' id : Nat) (h : id ∈ (t.pending.erase id').keys) : id < t.next := by
  rw [← StdMap.find?_isSome, StdMap.find?_erase] at h
  split at h
  · cases h
  · exact t.fresh id ((t.pending.find?_isSome id).mp h)

def unregister (id : Nat) (t : Timers τ) : Timers τ := ⟨t.next, t.pending.erase id, t.fresh_erase id⟩

/-- An owner that has not registered anything yet has no id. -/
def unregister? (id : Option Nat) (t : Timers τ) : Timers τ := id.elim t fun id => t.unregister id

@[simp] theorem next_unregister? (id : Option Nat) (t : Timers τ) : (t.unregister? id).next = t.next := by
  cases id <;> rfl

theorem task?_register (task : τ) (t : Timers τ) (id : Nat) :
    (t.register task).2.task? id = if id = t.next then some task else t.task? id := by
  have hnext : t.next ∉ t.pending.keys := (t.pending.find?_eq_none _).mp t.task?_next
  simp [register, task?, StdMap.find?_insert, hnext]

theorem task?_unregister (id' : Nat) (t : Timers τ) (id : Nat) :
    (t.unregister id').task? id = if id = id' then none else t.task? id := StdMap.find?_erase t.pending id' id

theorem task?_unregister? (id' : Option Nat) (t : Timers τ) (id : Nat) :
    (t.unregister? id').task? id = if id' = some id then none else t.task? id := by
  cases id' with
  | none => rfl
  | some id' =>
    simp only [unregister?, Option.elim_some, task?_unregister, Option.some.injEq]
    split <;> split <;> simp_all

end Timers
