import UsbManager.Lib.Run

/-!
# Traces of a specification

A specification takes events one at a time. A machine meets it if the events that it leaves behind, in every run, are
taken by the specification; a relation between the states of the two carries this from step to step.
-/

namespace Simulation

variable {σ ε : Type}

/-- From `s` the specification takes the events of the trace, the newest first, and is then in the last state. -/
inductive Accepts (next : σ → ε → σ → Prop) (s : σ) : List ε → σ → Prop
  | nil : Accepts next s [] s
  | cons {trace : List ε} {s' s'' : σ} {e : ε} (h : Accepts next s trace s') (he : next s' e s'') :
      Accepts next s (e :: trace) s''

variable {next : σ → ε → σ → Prop}

theorem Accepts.append {s s' s'' : σ} {old new : List ε} (h : Accepts next s old s') (h' : Accepts next s' new s'') :
    Accepts next s (new ++ old) s'' := by
  induction h' with
  | nil => exact h
  | cons _ he ih => exact .cons ih he

theorem Accepts.one {s s' : σ} {e : ε} (h : next s e s') : Accepts next s [e] s' := .cons .nil h

variable {ω μ : Type} {init : μ → Prop} {step : ω → μ → μ} {C : ω → μ → Prop}

/-- If every allowed step leaves events that the specification takes from a related state to a related one, the trace of
every run is accepted. -/
theorem accepts_of_reachable {trace : μ → List ε} (R : μ → σ → Prop) {s₀ : σ}
    (hinit : ∀ m, init m → trace m = [] ∧ R m s₀)
    (hstep : ∀ op m s, C op m → R m s →
      ∃ new s', trace (step op m) = new ++ trace m ∧ Accepts next s new s' ∧ R (step op m) s')
    {m : μ} (h : Run.Reachable init step C m) : ∃ s, Accepts next s₀ (trace m) s ∧ R m s := by
  refine h.invariant (I := fun m => ∃ s, Accepts next s₀ (trace m) s ∧ R m s) (fun m hm => ?_) ?_
  · obtain ⟨htrace, hrel⟩ := hinit m hm
    rw [htrace]
    exact ⟨s₀, .nil, hrel⟩
  · rintro op m hop ⟨s, haccepts, hrel⟩
    obtain ⟨new, s', htrace, hnew, hrel'⟩ := hstep op m s hop hrel
    rw [htrace]
    exact ⟨s', haccepts.append hnew, hrel'⟩

/-! ## Runs that are given as lists -/

/-- Every operation is allowed when its turn comes. -/
def Allowed (step : ω → μ → μ) (C : ω → μ → Prop) : List ω → μ → Prop
  | [], _ => True
  | op :: ops, m => C op m ∧ Allowed step C ops (step op m)

instance decidableAllowed [∀ op m, Decidable (C op m)] : ∀ (ops : List ω) (m : μ), Decidable (Allowed step C ops m)
  | [], _ => .isTrue trivial
  | op :: ops, m =>
    have := decidableAllowed ops (step op m)
    inferInstanceAs (Decidable (C op m ∧ Allowed step C ops (step op m)))

theorem reachable_foldl {ops : List ω} {m : μ} (h : Run.Reachable init step C m) (hops : Allowed step C ops m) :
    Run.Reachable init step C (ops.foldl (fun m op => step op m) m) := by
  induction ops generalizing m with
  | nil => exact h
  | cons op ops ih => exact ih (.step op h hops.1) hops.2

end Simulation
