import Mathlib.Init

/-!
# Runs of a step function

The states that a machine reaches from its initial states when every operation it takes is one
that a condition allows.
-/

namespace Run

variable {ω σ : Type}

/-- Some run of allowed steps leads here. -/
inductive Reachable (init : σ → Prop) (step : ω → σ → σ) (C : ω → σ → Prop) : σ → Prop
  | init {s : σ} (hs : init s) : Reachable init step C s
  | step {s : σ} (op : ω) (hs : Reachable init step C s) (hop : C op s) : Reachable init step C (step op s)

section Invariant

variable {init : σ → Prop} {step : ω → σ → σ} {C : ω → σ → Prop}

/-- What holds at the start and is kept by every allowed step holds in every reachable state. -/
theorem Reachable.invariant {I : σ → Prop} (hinit : ∀ s, init s → I s)
    (hstep : ∀ op s, C op s → I s → I (step op s)) {s : σ} (h : Reachable init step C s) : I s := by
  induction h with
  | init hs => exact hinit _ hs
  | step op _ hop ih => exact hstep op _ hop ih

/-- Where a step keeps a property exactly if it is allowed, the first step that is not allowed ends it. -/
theorem Reachable.exact {P : σ → Prop} (hinit : ∀ s, init s → P s)
    (hstep : ∀ op s, P s → (P (step op s) ↔ C op s)) {s : σ} (h : Reachable init step C s) :
    P s ∧ ∀ op, ¬ C op s → ¬ P (step op s) := by
  have hs : P s := h.invariant hinit fun op s hop hs => (hstep op s hs).mpr hop
  refine ⟨hs, fun op hnot hkept => ?_⟩
  exact hnot ((hstep op s hs).mp hkept)

end Invariant

end Run
