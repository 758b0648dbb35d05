import Mathlib.Data.List.Basic

/-!
# Runs that keep a log

A system takes one step for each event, and each step appends to a log what it did.

* `mem_log_run` — an entry of the log comes from one step
* `prefix_run`, `invariant_run` — what every step keeps
-/

namespace Libreboot.Infra.RunLog

variable {σ ε α : Type}

/-- One step for each event. -/
def run (step : σ → ε → σ) (events : List ε) (s : σ) : σ := events.foldl step s

section Run

variable (step : σ → ε → σ)

theorem run_append (events events' : List ε) (s : σ) :
    run step (events ++ events') s = run step events' (run step events s) :=
  List.foldl_append

theorem run_concat (events : List ε) (e : ε) (s : σ) :
    run step (events ++ [e]) s = step (run step events s) e :=
  run_append step events [e] s

end Run

section Log

variable {step : σ → ε → σ} (log : σ → List α)

/-- What every step leaves in front of what it adds stays there for the whole run. -/
theorem prefix_run (h : ∀ s e, log s <+: log (step s e)) (events : List ε) (s : σ) :
    log s <+: log (run step events s) := by
  induction events generalizing s with
  | nil => exact List.prefix_refl _
  | cons e rest ih => exact (h s e).trans (ih (step s e))

/-- An invariant of the steps is one of the runs. -/
theorem invariant_run {P : σ → Prop} (h : ∀ s e, P s → P (step s e)) (events : List ε) {s : σ}
    (hs : P s) : P (run step events s) := by
  induction events generalizing s with
  | nil => exact hs
  | cons e rest ih => exact ih (h s e hs)

/-- **The log of a run:** what was there before, and what each step did in the state it was taken. -/
theorem mem_log_run {emits : σ → ε → List α} (h : ∀ s e, log (step s e) = log s ++ emits s e)
    {events : List ε} {s : σ} {x : α} :
    x ∈ log (run step events s)
      ↔ x ∈ log s ∨ ∃ earlier e later, events = earlier ++ e :: later
          ∧ x ∈ emits (run step earlier s) e := by
  induction events generalizing s with
  | nil =>
    constructor
    · exact Or.inl
    · rintro (hx | ⟨earlier, e, later, hnil, -⟩)
      · exact hx
      · cases earlier <;> cases hnil
  | cons e rest ih =>
    show x ∈ log (run step rest (step s e)) ↔ _
    rw [ih, h, List.mem_append, or_assoc]
    refine or_congr_right ⟨?_, ?_⟩
    · rintro (hx | ⟨earlier, e', later, rfl, hx⟩)
      · exact ⟨[], e, rest, rfl, hx⟩
      · exact ⟨e :: earlier, e', later, rfl, hx⟩
    · rintro ⟨earlier, e', later, heq, hx⟩
      cases earlier with
      | nil =>
        cases heq
        exact Or.inl hx
      | cons d earlier =>
        cases heq
        exact Or.inr ⟨earlier, e', later, rfl, hx⟩

end Log

end Libreboot.Infra.RunLog
