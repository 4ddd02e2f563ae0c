import Mathlib.Data.List.GetD
import Mathlib.Order.Basic

/-!
# Chains of length-prefixed records

A byte string read as records that each start with their own length in bytes. A record
has at least `2` bytes. Reading stops at the first header that is cut off, too short to
be a record, or longer than what is left.
-/

namespace Chain

/-- The first byte of `r` is its length, and there is room for a length and a kind. -/
def IsRecord (r : List UInt8) : Prop := 2 ≤ r.length ∧ (r.getD 0 0).toNat = r.length

/-- Where reading stops: less than a header, or a length that does not fit. -/
def Stops (l : List UInt8) : Prop :=
  l.length < 2 ∨ (l.getD 0 0).toNat < 2 ∨ l.length < (l.getD 0 0).toNat

instance (l : List UInt8) : Decidable (Stops l) := by unfold Stops; infer_instance

/-- The records up to where reading stops. -/
def records (l : List UInt8) : List (List UInt8) :=
  if Stops l then [] else l.take (l.getD 0 0).toNat :: records (l.drop (l.getD 0 0).toNat)
termination_by l.length
decreasing_by
  rename_i h
  simp only [Stops, not_or] at h
  simp only [List.length_drop]
  omega

theorem records_of_stops (l : List UInt8) (h : Stops l) : records l = [] := by
  rw [records, if_pos h]

theorem records_of_not_stops (l : List UInt8) (h : ¬ Stops l) :
    records l = l.take (l.getD 0 0).toNat :: records (l.drop (l.getD 0 0).toNat) := by
  rw [records, if_neg h]

theorem isRecord_of_not_stops (l : List UInt8) (h : ¬ Stops l) : IsRecord (l.take (l.getD 0 0).toNat) := by
  simp only [Stops, not_or] at h
  obtain ⟨n, hn⟩ : ∃ n, (l.getD 0 0).toNat = n + 1 := ⟨(l.getD 0 0).toNat - 1, by omega⟩
  refine ⟨by rw [List.length_take]; omega, ?_⟩
  cases l with
  | nil => simp at h
  | cons a l =>
    rw [hn, List.take_succ_cons, List.getD_cons_zero, List.length_cons, List.length_take]
    rw [List.getD_cons_zero] at hn h
    rw [List.length_cons] at h
    omega

theorem not_stops_append (r rest : List UInt8) (h : IsRecord r) : ¬ Stops (r ++ rest) := by
  obtain ⟨h2, hlen⟩ := h
  have hget : (r ++ rest).getD 0 0 = r.getD 0 0 := List.getD_append _ _ _ _ (by omega)
  rw [Stops, hget, List.length_append]
  omega

theorem records_append (r rest : List UInt8) (h : IsRecord r) :
    records (r ++ rest) = r :: records rest := by
  have hget : (r ++ rest).getD 0 0 = r.getD 0 0 := List.getD_append _ _ _ _ (by have := h.1; omega)
  rw [records_of_not_stops _ (not_stops_append r rest h), hget, h.2]
  simp

theorem records_flatten_append (rs : List (List UInt8)) (tail : List UInt8)
    (hrs : ∀ r ∈ rs, IsRecord r) (ht : Stops tail) : records (rs.flatten ++ tail) = rs := by
  induction rs with
  | nil => simpa using records_of_stops tail ht
  | cons r rs ih =>
    rw [List.flatten_cons, List.append_assoc, records_append _ _ (hrs r List.mem_cons_self),
      ih fun r hr => hrs r (List.mem_cons_of_mem _ hr)]

end Chain
