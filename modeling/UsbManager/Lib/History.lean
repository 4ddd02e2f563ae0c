import Mathlib.Data.List.Basic

/-!
# Records that stand

A log with the newest event first. Some events write a record and some revoke it. A record stands if an event
wrote it and no later one has revoked it. A log is sound if every event was allowed by what came before it.
-/

namespace History

variable {ε ρ : Type}

/-- Some event has written `r`, and none after it has revoked it. -/
def Stands (writes revokes : ε → ρ → Prop) (log : List ε) (r : ρ) : Prop :=
  ∃ newer e older, log = newer ++ e :: older ∧ writes e r ∧ ∀ e' ∈ newer, ¬ revokes e' r

section

variable {writes revokes : ε → ρ → Prop} {r : ρ}

theorem stands_of_writes {e : ε} (h : writes e r) (log : List ε) : Stands writes revokes (e :: log) r :=
  ⟨[], e, log, rfl, h, fun _ h => absurd h List.not_mem_nil⟩

theorem Stands.append_right {new : List ε} (h : Stands writes revokes new r) (log : List ε) :
    Stands writes revokes (new ++ log) r := by
  obtain ⟨newer, e, older, rfl, hwrites, hkept⟩ := h
  exact ⟨newer, e, older ++ log, by simp, hwrites, hkept⟩

theorem Stands.append_left {log : List ε} (h : Stands writes revokes log r) {new : List ε}
    (hnew : ∀ e ∈ new, ¬ revokes e r) : Stands writes revokes (new ++ log) r := by
  obtain ⟨newer, e, older, rfl, hwrites, hkept⟩ := h
  refine ⟨new ++ newer, e, older, by simp, hwrites, fun e' he' => ?_⟩
  rcases List.mem_append.mp he' with he' | he'
  · exact hnew e' he'
  · exact hkept e' he'

theorem Stands.cases_append {new old : List ε} (h : Stands writes revokes (new ++ old) r) :
    Stands writes revokes new r ∨ ∃ e ∈ old, writes e r := by
  obtain ⟨newer, e, older, hlog, hwrites, hkept⟩ := h
  rcases List.append_eq_append_iff.mp hlog with ⟨as, -, hold⟩ | ⟨as, hnew, hrest⟩
  · refine .inr ⟨e, ?_, hwrites⟩
    rw [hold]
    exact List.mem_append_right as List.mem_cons_self
  · cases as with
    | nil =>
      rw [List.nil_append] at hrest
      exact .inr ⟨e, hrest ▸ List.mem_cons_self, hwrites⟩
    | cons e' as =>
      obtain ⟨rfl, -⟩ := List.cons.inj hrest
      exact .inl ⟨newer, e, as, hnew, hwrites, hkept⟩

end

/-! ## Tables -/

/-- Every record of the table after a step was written by the new events, or it was there before and none of
them revokes it. -/
structure Logged (writes revokes : ε → ρ → Prop) (new : List ε) (before after : List ρ) : Prop where
  stands : ∀ r ∈ after, Stands writes revokes new r ∨ r ∈ before ∧ ∀ e ∈ new, ¬ revokes e r

section

variable {writes revokes : ε → ρ → Prop}

theorem Logged.silent {before after : List ρ} (h : ∀ r ∈ after, r ∈ before) : Logged writes revokes [] before after :=
  ⟨fun r hr => .inr ⟨h r hr, fun _ he => absurd he List.not_mem_nil⟩⟩

theorem Logged.append {new log : List ε} {before after : List ρ} (h : Logged writes revokes new before after) {r : ρ}
    (hr : r ∈ after) (hbefore : r ∈ before → Stands writes revokes log r) : Stands writes revokes (new ++ log) r := by
  rcases h.stands r hr with hnew | ⟨hold, hkept⟩
  · exact hnew.append_right log
  · exact (hbefore hold).append_left hkept

end

/-! ## Sound logs -/

section

variable {P : List ε → ε → Prop}

/-- Every event had its reason in the log before it. -/
def Sound (P : List ε → ε → Prop) (log : List ε) : Prop := ∀ newer e older, log = newer ++ e :: older → P older e

theorem sound_nil : Sound P [] := by
  intro newer e older h
  simp at h

theorem Sound.cons {e : ε} {log : List ε} (h : Sound P log) (he : P log e) : Sound P (e :: log) := by
  intro newer e' older hlog
  cases newer with
  | nil =>
    obtain ⟨rfl, rfl⟩ := List.cons.inj hlog
    exact he
  | cons e'' newer =>
    exact h newer e' older (List.cons.inj hlog).2

theorem Sound.append {log : List ε} (h : Sound P log) {new : List ε} (hnew : ∀ e ∈ new, ∀ more, P (more ++ log) e) :
    Sound P (new ++ log) := by
  induction new with
  | nil => exact h
  | cons e new ih =>
    have hold := ih fun e' he' => hnew e' (List.mem_cons_of_mem e he')
    exact hold.cons (hnew e List.mem_cons_self new)

theorem Sound.append_short {log : List ε} (h : Sound P log) {new : List ε} (hshort : new.length ≤ 1)
    (hnew : ∀ e ∈ new, P log e) : Sound P (new ++ log) := by
  rcases new with - | ⟨e, - | ⟨e', rest⟩⟩
  · exact h
  · exact h.cons (hnew e List.mem_cons_self)
  · simp at hshort

end

end History
