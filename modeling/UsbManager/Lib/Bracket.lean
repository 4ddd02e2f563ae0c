import Mathlib.Data.List.Basic

/-!
# Balanced runs

A run balances two kinds of events when it has as many of one as of the other and no prefix
has more `down`s than `up`s. Runs compose, and a balanced run may be put between `up`s and
as many `down`s.
-/

namespace Bracket

variable {ε : Type} (up down : ε → Bool)

/-- As many closes as opens at the end, and never more of them before. -/
structure Balanced (es : List ε) : Prop where
  settled : es.countP down = es.countP up
  sane : ∀ pre, pre <+: es → pre.countP down ≤ pre.countP up

theorem prefix_append_cases (xs ys pre : List ε) (h : pre <+: xs ++ ys) :
    pre <+: xs ∨ ∃ t, t <+: ys ∧ pre = xs ++ t := by
  obtain ⟨rest, h⟩ := h
  rcases List.append_eq_append_iff.mp h with ⟨t, rfl, -⟩ | ⟨t, rfl, ht⟩
  · exact .inl ⟨t, rfl⟩
  · exact .inr ⟨t, ⟨rest, ht.symm⟩, rfl⟩

theorem balanced_nil : Balanced up down ([] : List ε) :=
  ⟨rfl, fun pre h => by rw [List.prefix_nil.mp h]; exact Nat.le_refl _⟩

variable {up down}

theorem Balanced.append {xs ys : List ε} (hx : Balanced up down xs) (hy : Balanced up down ys) :
    Balanced up down (xs ++ ys) := by
  constructor
  · rw [List.countP_append, List.countP_append, hx.settled, hy.settled]
  · intro pre hpre
    rcases prefix_append_cases _ _ _ hpre with h | ⟨t, ht, rfl⟩
    · exact hx.sane pre h
    · rw [List.countP_append, List.countP_append, hx.settled]
      exact Nat.add_le_add_left (hy.sane t ht) _

theorem countP_of_none (p : ε → Bool) (es : List ε) (h : ∀ e ∈ es, p e = false) : es.countP p = 0 :=
  List.countP_eq_zero.mpr fun e he => by simp [h e he]

theorem balanced_of_neutral (es : List ε) (h : ∀ e ∈ es, up e = false ∧ down e = false) : Balanced up down es := by
  constructor
  · rw [countP_of_none up es fun e he => (h e he).1, countP_of_none down es fun e he => (h e he).2]
  · intro pre hpre
    rw [countP_of_none down pre fun e he => (h e (hpre.subset he)).2]
    exact Nat.zero_le _

theorem balanced_sandwich_iff (os ms cs : List ε) (ho : ∀ e ∈ os, down e = false) (hm : Balanced up down ms)
    (hc : ∀ e ∈ cs, up e = false) :
    Balanced up down (os ++ ms ++ cs) ↔ os.countP up = cs.countP down := by
  have hos : os.countP down = 0 := countP_of_none down os ho
  have hcs : cs.countP up = 0 := countP_of_none up cs hc
  have hms := hm.settled
  constructor
  · intro h
    have := h.settled
    simp only [List.countP_append] at this
    omega
  · intro heq
    constructor
    · simp only [List.countP_append]
      omega
    · intro pre hpre
      rcases prefix_append_cases _ _ _ hpre with hpre | ⟨t, ht, rfl⟩
      · rcases prefix_append_cases _ _ _ hpre with hpre | ⟨t, ht, rfl⟩
        · rw [countP_of_none down pre fun e he => ho e (hpre.subset he)]
          exact Nat.zero_le _
        · have := hm.sane t ht
          simp only [List.countP_append]
          omega
      · have : t.countP down ≤ cs.countP down := ht.sublist.countP_le
        simp only [List.countP_append]
        omega

theorem Balanced.wrap {ms : List ε} (hm : Balanced up down ms) (o c : ε) (ho : down o = false) (hc : up c = false)
    (heq : up o = down c) : Balanced up down (o :: ms ++ [c]) := by
  have h := (balanced_sandwich_iff [o] ms [c] (by simpa using ho) hm (by simpa using hc)).mpr
    (by simp [List.countP_cons, heq])
  simpa using h

end Bracket
