import Mathlib.Data.List.Basic

/-!
# Items between separators

The usual loop that cuts a string at a separator: it looks for the next separator, takes what stands before it,
and stops at the end of the string. One separator at the end is not followed by an item.
-/

namespace Separated

variable {α : Type}

theorem intercalate_concat_nil (c : α) (items : List (List α)) (h : items ≠ []) :
    [c].intercalate (items ++ [[]]) = [c].intercalate items ++ [c] := by
  induction items with
  | nil => exact absurd rfl h
  | cons item items ih =>
    rcases items with - | ⟨item', items⟩
    · simp
    · have := ih (by simp)
      simp_all

theorem intercalate_append_cons (c : α) (a b : List α) (items : List (List α)) :
    [c].intercalate ((a ++ c :: b) :: items) = a ++ c :: [c].intercalate (b :: items) := by
  cases items <;> simp

variable [DecidableEq α]

/-- The first position from `pos` on that holds `c`. -/
def find (s : List α) (c : α) (pos : Nat) : Option Nat := ((s.drop pos).idxOf? c).map (pos + ·)

def substr (s : List α) (pos n : Nat) : List α := (s.drop pos).take n

theorem find_none {s : List α} {c : α} {pos : Nat} (h : find s c pos = none) : c ∉ s.drop pos := by
  simpa [find, List.idxOf?_eq_none_iff] using h

theorem find_some {s : List α} {c : α} {pos findPos : Nat} (h : find s c pos = some findPos) :
    pos ≤ findPos ∧ c ∉ substr s pos (findPos - pos) ∧
      s.drop pos = substr s pos (findPos - pos) ++ c :: s.drop (findPos + 1) := by
  unfold find at h
  obtain ⟨n, hn, rfl⟩ := Option.map_eq_some_iff.mp h
  obtain ⟨hlt, hget, hfirst⟩ := List.idxOf?_eq_some_iff.mp hn
  rw [substr, Nat.add_sub_cancel_left]
  refine ⟨Nat.le_add_right pos n, fun hmem => ?_, ?_⟩
  · obtain ⟨j, hj, hc⟩ := List.mem_take_iff_getElem.mp hmem
    exact hfirst j (by omega) hc
  · calc
      s.drop pos = (s.drop pos).take n ++ (s.drop pos).drop n := (List.take_append_drop n _).symm
      _ = (s.drop pos).take n ++ c :: s.drop (pos + n + 1) := by
        rw [List.drop_eq_getElem_cons hlt, hget, List.drop_drop, Nat.add_assoc]

theorem find_of_mem {s : List α} {c : α} (h : c ∈ s) : find s c 0 = some (s.idxOf c) := by
  unfold find
  rw [List.drop_zero]
  induction s with
  | nil => simp at h
  | cons a s ih =>
    by_cases hac : a = c
    · simp [hac, List.idxOf?_cons]
    · have hmem : c ∈ s := by simpa [Ne.symm hac] using h
      have hrest : List.idxOf? c s = some (s.idxOf c) := by simpa using ih hmem
      simp [List.idxOf?_cons, hac, hrest, List.idxOf_cons_ne s hac]

/-- The loop over `find`. A separator at the end leaves no empty item behind it. -/
def split (c : α) (s : List α) (pos : Nat) : List (List α) :=
  if pos < s.length then
    match _h : find s c pos with
    | none => [substr s pos (s.length - pos)]
    | some findPos => substr s pos (findPos - pos) :: split c s (findPos + 1)
  else []
termination_by s.length - pos
decreasing_by
  have := (find_some _h).1
  omega

/-- Without the empty item after a last separator. -/
def trim (items : List (List α)) : List (List α) := if items.getLast? = some [] then items.dropLast else items

theorem trim_cons (item : List α) {items : List (List α)} (h : items ≠ []) :
    trim (item :: items) = item :: trim items := by
  unfold trim
  rw [List.dropLast_cons_of_ne_nil h, List.getLast?_cons_of_ne_nil h]
  split <;> rfl

theorem split_eq_trim (c : α) (s : List α) (pos : Nat) : split c s pos = trim ((s.drop pos).splitOn c) := by
  fun_induction split c s pos with
  | case1 pos hpos hfind =>
    have hne : s.drop pos ≠ [] := by simpa using hpos
    rw [List.splitOn_eq_singleton (find_none hfind), substr, ← List.length_drop, List.take_length]
    simp [trim, hne]
  | case2 pos hpos findPos hfind ih =>
    obtain ⟨-, hnot, hdrop⟩ := find_some hfind
    rw [hdrop, List.splitOn_append_cons_self_of_not_mem hnot, trim_cons _ (List.splitOn_ne_nil _ _), ih]
  | case3 pos hpos =>
    rw [List.drop_eq_nil_of_le (by omega)]
    rfl

theorem intercalate_split (c : α) (s : List α) (hs : s ≠ []) :
    split c s 0 ≠ [] ∧
      (s = [c].intercalate (split c s 0) ∨ s = [c].intercalate (split c s 0) ++ [c]) := by
  have hjoin : [c].intercalate (s.splitOn c) = s := List.intercalate_splitOn c
  rw [split_eq_trim, List.drop_zero]
  unfold trim
  split
  · rename_i hlast
    obtain ⟨items, hitems⟩ := List.getLast?_eq_some_iff.mp hlast
    rw [hitems] at hjoin ⊢
    rw [List.dropLast_concat]
    have hne : items ≠ [] := by
      rintro rfl
      exact hs hjoin.symm
    exact ⟨hne, .inr (hjoin.symm.trans (intercalate_concat_nil c items hne))⟩
  · exact ⟨List.splitOn_ne_nil c s, .inl hjoin.symm⟩

theorem split_intercalate (c : α) (items : List (List α)) (hne : items ≠ [])
    (h : ∀ item ∈ items, item ≠ [] ∧ c ∉ item) :
    split c ([c].intercalate items) 0 = items ∧ split c ([c].intercalate items ++ [c]) 0 = items := by
  have hlast : items.getLast? ≠ some [] := fun hl => (h [] (List.mem_of_getLast? hl)).1 rfl
  have hnot : ∀ item ∈ items ++ [[]], c ∉ item := by
    intro item hitem
    rcases List.mem_append.mp hitem with hmem | hnil
    · exact (h item hmem).2
    · rw [List.mem_singleton.mp hnil]
      exact List.not_mem_nil
  rw [split_eq_trim, split_eq_trim, List.drop_zero, List.drop_zero, ← intercalate_concat_nil c items hne,
    List.splitOn_intercalate c (fun item hitem => (h item hitem).2) hne,
    List.splitOn_intercalate c hnot (by simp)]
  simp [trim, hlast]

end Separated
