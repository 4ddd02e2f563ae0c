import Mathlib.Data.List.Basic

/-!
# The bits of a 32-bit mask

A mask by its bits: what `|`, `&` and `~` do to each of them, and the masks with one bit.
-/

namespace Bits

/-- Counted from the low end. -/
def bit (m : UInt32) (i : Nat) : Bool := m.toBitVec.getLsbD i

/-- The mask with bit `k`, or 0 if there is no such bit. -/
def single (k : Nat) : UInt32 := ⟨BitVec.twoPow 32 k⟩

@[simp] theorem bit_zero (i : Nat) : bit 0 i = false := BitVec.getLsbD_zero

@[simp] theorem bit_or (m n : UInt32) (i : Nat) : bit (m ||| n) i = (bit m i || bit n i) := BitVec.getLsbD_or

@[simp] theorem bit_and (m n : UInt32) (i : Nat) : bit (m &&& n) i = (bit m i && bit n i) := BitVec.getLsbD_and

theorem bit_not (m : UInt32) (i : Nat) : bit (~~~m) i = (decide (i < 32) && !bit m i) := BitVec.getLsbD_not

@[simp] theorem bit_single (k i : Nat) : bit (single k) i = (decide (k < 32) && decide (k = i)) :=
  BitVec.getLsbD_twoPow k i

theorem bit_clear (m : UInt32) (k i : Nat) (hi : i < 32) :
    bit (m &&& ~~~single k) i = (bit m i && decide (i ≠ k)) := by
  rw [bit_and, bit_not, bit_single]
  by_cases hik : i = k
  · simp [hik]
  · simp [hi, hik, Ne.symm hik]

theorem bit_of_le (m : UInt32) (i : Nat) (h : 32 ≤ i) : bit m i = false := BitVec.getLsbD_of_ge m.toBitVec i h

theorem ext {m n : UInt32} (h : ∀ i, bit m i = bit n i) : m = n := by
  apply UInt32.toBitVec_inj.mp
  apply BitVec.eq_of_getLsbD_eq
  intro i _
  exact h i

theorem eq_zero_iff (m : UInt32) : m = 0 ↔ ∀ i, bit m i = false := by
  constructor
  · rintro rfl i
    exact bit_zero i
  · intro h
    apply ext
    intro i
    rw [h i, bit_zero]

theorem ne_zero_iff (m : UInt32) : m ≠ 0 ↔ ∃ i, bit m i = true := by
  rw [ne_eq, eq_zero_iff]
  simp

theorem and_single_ne_zero (m : UInt32) (k : Nat) : m &&& single k ≠ 0 ↔ bit m k = true := by
  rw [ne_zero_iff]
  constructor
  · rintro ⟨i, hi⟩
    simp only [bit_and, bit_single, Bool.and_eq_true, decide_eq_true_eq] at hi
    exact hi.2.2 ▸ hi.1
  · intro h
    have hk : k < 32 := by
      by_contra hk
      rw [bit_of_le m k (by omega)] at h
      cases h
    exact ⟨k, by simp [h, hk]⟩

theorem single_zero : single 0 = 1 := rfl

theorem single_succ (k : Nat) : single k <<< 1 = single (k + 1) := by
  apply UInt32.toBitVec_inj.mp
  show BitVec.twoPow 32 k <<< 1 = BitVec.twoPow 32 (k + 1)
  rw [BitVec.twoPow_eq, BitVec.twoPow_eq, BitVec.shiftLeft_add]

theorem bit_foldl_or {α : Type} (f : α → UInt32) (l : List α) (m : UInt32) (i : Nat) :
    bit (l.foldl (fun m a => m ||| f a) m) i = (bit m i || l.any fun a => bit (f a) i) := by
  induction l generalizing m with
  | nil => simp
  | cons a l ih => simp [ih, Bool.or_assoc]

end Bits
