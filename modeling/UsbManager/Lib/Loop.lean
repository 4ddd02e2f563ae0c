import Mathlib.Data.List.Basic

/-!
# Loops that thread a state

Rules for `foldl` and for a loop that rewrites the elements of a list while it threads a
state: a relation that is reflexive and transitive and holds for every turn holds for the loop.
-/

namespace Loop

variable {α σ : Type}

/-- A loop that changes each element in turn and threads the state. -/
def mapState (body : α → σ → α × σ) : List α → σ → List α × σ
  | [], s => ([], s)
  | a :: rest, s =>
    let (a, s) := body a s
    let (rest, s) := mapState body rest s
    (a :: rest, s)

section Rel

variable (R : σ → σ → Prop) (hrefl : ∀ s, R s s) (htrans : ∀ s t u, R s t → R t u → R s u)
include hrefl htrans

theorem foldl_rel (f : σ → α → σ) (l : List α) (hf : ∀ s, ∀ a ∈ l, R s (f s a)) (s : σ) : R s (l.foldl f s) := by
  induction l generalizing s with
  | nil => exact hrefl s
  | cons a l ih =>
    rw [List.foldl_cons]
    refine htrans _ _ _ (hf s a List.mem_cons_self) ?_
    exact ih (fun s b hb => hf s b (List.mem_cons_of_mem a hb)) (f s a)

theorem mapState_rel (body : α → σ → α × σ) (l : List α) (hbody : ∀ s, ∀ a ∈ l, R s (body a s).2) (s : σ) :
    R s (mapState body l s).2 := by
  induction l generalizing s with
  | nil => exact hrefl s
  | cons a l ih =>
    refine htrans _ _ _ (hbody s a List.mem_cons_self) ?_
    exact ih (fun s b hb => hbody s b (List.mem_cons_of_mem a hb)) (body a s).2

end Rel

/-! ## Folds in which at most one element acts -/

theorem foldl_fixed (f : σ → α → σ) (l : List α) (s : σ) (h : ∀ a ∈ l, f s a = s) : l.foldl f s = s := by
  induction l with
  | nil => rfl
  | cons a l ih =>
    rw [List.foldl_cons, h a List.mem_cons_self]
    exact ih fun b hb => h b (List.mem_cons_of_mem a hb)

theorem foldl_once (f : σ → α → σ) (l : List α) (hnd : l.Nodup) (a : α) (ha : a ∈ l) (s : σ)
    (hbefore : ∀ b ∈ l, b ≠ a → f s b = s) (hafter : ∀ b ∈ l, b ≠ a → f (f s a) b = f s a) :
    l.foldl f s = f s a := by
  induction l with
  | nil => cases ha
  | cons b l ih =>
    rw [List.nodup_cons] at hnd
    rw [List.foldl_cons]
    by_cases hb : b = a
    · subst hb
      refine foldl_fixed f l _ fun c hc => hafter c (List.mem_cons_of_mem b hc) fun hcb => ?_
      exact hnd.1 (hcb ▸ hc)
    · rw [hbefore b List.mem_cons_self hb]
      exact ih hnd.2 ((List.mem_cons.mp ha).resolve_left fun h => hb h.symm)
        (fun c hc => hbefore c (List.mem_cons_of_mem b hc)) fun c hc => hafter c (List.mem_cons_of_mem b hc)

/-! ## Loops that only rewrite -/

theorem mapState_fst (body : α → σ → α × σ) (g : α → α) (hg : ∀ a s, (body a s).1 = g a) (l : List α) (s : σ) :
    (mapState body l s).1 = l.map g := by
  induction l generalizing s with
  | nil => rfl
  | cons a l ih => simp only [mapState, List.map_cons, hg, ih]

theorem mapState_cons_snd (body : α → σ → α × σ) (a : α) (l : List α) (s : σ) :
    (mapState body (a :: l) s).2 = (mapState body l (body a s).2).2 := rfl

end Loop
