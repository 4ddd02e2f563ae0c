import Mathlib.Data.List.Induction

/-!
# Decimal numerals

The value of a string of digits, and which strings are printed for their value.
-/

namespace Decimal

/-- Leading zeros do not count. -/
def value (l : List Char) : Nat := Nat.ofDigitChars 10 l 0

def AllDigits (l : List Char) : Prop := ∀ c ∈ l, c.isDigit = true

theorem value_append_singleton (l : List Char) (c : Char) : value (l ++ [c]) = 10 * value l + (c.toNat - 48) := by
  simp [value, Nat.ofDigitChars_append, Nat.ofDigitChars_cons]

theorem digit_bounds (c : Char) (h : c.isDigit = true) : 48 ≤ c.toNat ∧ c.toNat ≤ 57 := by
  simpa [Char.isDigit, UInt32.le_iff_toNat_le] using h

theorem digitChar_of_isDigit (c : Char) (h : c.isDigit = true) : Nat.digitChar (c.toNat - 48) = c := by
  have hb := digit_bounds c h
  apply Char.toNat_inj.mp
  rw [Nat.toNat_digitChar_of_lt_ten (by omega)]
  omega

theorem toDigits_digit (c : Char) (h : c.isDigit = true) : Nat.toDigits 10 (c.toNat - 48) = [c] := by
  have hb := digit_bounds c h
  rw [Nat.toDigits_of_lt_base (by omega), digitChar_of_isDigit c h]

theorem toDigits_value_of_head (l : List Char) (hd : AllDigits l) (hne : l ≠ []) (hhead : l.head? ≠ some '0') :
    Nat.toDigits 10 (value l) = l ∧ 0 < value l := by
  induction l using List.reverseRecOn with
  | nil => exact absurd rfl hne
  | append_singleton l c ih =>
    have hc : c.isDigit = true := hd c (by simp)
    have hb := digit_bounds c hc
    rw [value_append_singleton]
    rcases List.eq_nil_or_concat l with rfl | ⟨l', c', rfl⟩
    · have hzero : c.toNat ≠ 48 := by
        intro h
        apply hhead
        rw [List.nil_append, List.head?_cons, Char.toNat_inj.mp (h.trans (by rfl : (48 : Nat) = '0'.toNat))]
      have hval : value [] = 0 := rfl
      rw [hval, Nat.mul_zero, Nat.zero_add, toDigits_digit c hc]
      exact ⟨rfl, by omega⟩
    · have hhead' : (l'.concat c').head? ≠ some '0' := by
        rw [List.concat_eq_append] at hhead ⊢
        simpa [List.head?_append] using hhead
      obtain ⟨hdigits, hpos⟩ := ih (fun x hx => hd x (List.mem_append_left _ hx)) (by simp) hhead'
      refine ⟨?_, by omega⟩
      rw [← Nat.toDigits_append_toDigits (by decide) hpos (by omega), hdigits, toDigits_digit c hc]

theorem toDigits_head (n : Nat) (h : (Nat.toDigits 10 n).head? = some '0') : n = 0 := by
  induction n using Nat.base_induction 10 (by decide) with
  | single m hm =>
    rw [Nat.toDigits_of_lt_base hm, List.head?_cons, Option.some.injEq] at h
    have hval := Nat.toNat_digitChar_of_lt_ten hm
    rw [h] at hval
    have hzero : '0'.toNat = 48 := rfl
    omega
  | digit m k hk hm ih =>
    rw [← Nat.toDigits_append_toDigits (by decide) hm hk, List.head?_append] at h
    obtain ⟨c, hc⟩ := Option.isSome_iff_exists.mp (List.isSome_head?.mpr (Nat.toDigits_ne_nil (n := m) (b := 10)))
    rw [hc, Option.some_or] at h
    exact absurd (ih (hc.trans h)) (Nat.pos_iff_ne_zero.mp hm)

theorem toDigits_value_iff (l : List Char) (hd : AllDigits l) (hne : l ≠ []) :
    Nat.toDigits 10 (value l) = l ↔ l = ['0'] ∨ l.head? ≠ some '0' := by
  constructor
  · intro h
    by_cases hhead : l.head? = some '0'
    · rw [← h] at hhead
      have hzero := toDigits_head _ hhead
      rw [hzero] at h
      exact .inl h.symm
    · exact .inr hhead
  · rintro (rfl | hhead)
    · rfl
    · exact (toDigits_value_of_head l hd hne hhead).1

/-- Cut to a range, the value is printed as the string exactly if it was in the range and the string
has no leading zero. -/
theorem toDigits_value_mod_iff (l : List Char) (hd : AllDigits l) (hne : l ≠ []) (m : Nat) (hm : 0 < m) :
    Nat.toDigits 10 (value l % m) = l ↔ value l < m ∧ (l = ['0'] ∨ l.head? ≠ some '0') := by
  constructor
  · intro h
    have hmod : value l % m = value l := by
      have hval : value (Nat.toDigits 10 (value l % m)) = value l % m := Nat.ofDigitChars_ten_toDigits
      rw [h] at hval
      exact hval.symm
    have hlt : value l < m := by
      rw [← hmod]
      exact Nat.mod_lt _ hm
    rw [hmod] at h
    exact ⟨hlt, (toDigits_value_iff l hd hne).mp h⟩
  · rintro ⟨hlt, hlead⟩
    rw [Nat.mod_eq_of_lt hlt]
    exact (toDigits_value_iff l hd hne).mpr hlead

end Decimal
