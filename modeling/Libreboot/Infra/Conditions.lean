import Libreboot.Infra.Script

/-!
# Conditions of a script

When a script gets through, together with what it has left then, put together from its commands.

* `Gives.both`, `gives_forEach` — one command after the other
* `gives_onPart` — a command about a part of the state
-/

namespace Libreboot.Infra.Script

variable {σ α : Type}

/-- The script has got through exactly under a condition, and what holds then. -/
structure Gives (result : Except σ σ) (good : Prop) (post : σ → Prop) : Prop where
  ok_iff : (∃ s', result = .ok s') ↔ good
  post : ∀ s', result = .ok s' → post s'

variable {first second : Command σ} {s : σ} {result : Except σ σ} {good good' : Prop}
  {post post' : σ → Prop}

theorem Gives.imp (h : Gives result good post) (hgood : good ↔ good')
    (hpost : good → ∀ s', post s' → post' s') : Gives result good' post' :=
  ⟨h.ok_iff.trans hgood, fun s' hrun => hpost (h.ok_iff.mp ⟨s', hrun⟩) s' (h.post s' hrun)⟩

/-- A command that always gets through. -/
theorem gives_ok (s : σ) : Gives (.ok s) True fun s' => s' = s :=
  ⟨iff_true_intro ⟨s, rfl⟩, fun _ hrun => (Except.ok.inj hrun).symm⟩

/-- **One command after the other.** The condition of the second one does not depend on the state. -/
theorem Gives.both (hfirst : Gives (first s) good post)
    (hsecond : good → ∀ mid, post mid → Gives (second mid) good' post') :
    Gives (both first second s) (good ∧ good') post' := by
  refine ⟨?_, fun s' hrun => ?_⟩
  · constructor
    · rintro ⟨s', hrun⟩
      obtain ⟨mid, hmid, hrest⟩ := both_eq_ok.mp hrun
      have hgood := hfirst.ok_iff.mp ⟨mid, hmid⟩
      exact ⟨hgood, (hsecond hgood mid (hfirst.post mid hmid)).ok_iff.mp ⟨s', hrest⟩⟩
    · rintro ⟨hgood, hgood'⟩
      obtain ⟨mid, hmid⟩ := hfirst.ok_iff.mpr hgood
      obtain ⟨s', hrest⟩ := (hsecond hgood mid (hfirst.post mid hmid)).ok_iff.mpr hgood'
      exact ⟨s', both_eq_ok.mpr ⟨mid, hmid, hrest⟩⟩
  · obtain ⟨mid, hmid, hrest⟩ := both_eq_ok.mp hrun
    exact (hsecond (hfirst.ok_iff.mp ⟨mid, hmid⟩) mid (hfirst.post mid hmid)).post s' hrest

/-- The first command leaves a known state. -/
theorem Gives.next {v : σ} (hfirst : Gives (first s) good fun s' => s' = v)
    (hsecond : good → Gives (second v) good' post') :
    Gives (Script.both first second s) (good ∧ good') post' :=
  hfirst.both fun hgood _ hmid => hmid ▸ hsecond hgood

/-- A loop whose rounds have conditions that do not depend on what the rounds before have left. -/
theorem gives_forEach {body : α → Command σ} {condition : α → Prop} {P : σ → Prop} {xs : List α}
    (h : ∀ x ∈ xs, ∀ s, P s → Gives (body x s) (condition x) P) (hs : P s) :
    Gives (forEach body xs s) (∀ x ∈ xs, condition x) P := by
  induction xs generalizing s with
  | nil => exact (gives_ok s).imp (by simp) fun _ _ hs' => hs' ▸ hs
  | cons x xs ih =>
    refine Gives.imp ((h x List.mem_cons_self s hs).both fun _ mid hmid =>
      ih (fun y hy => h y (List.mem_cons_of_mem _ hy)) hmid) ?_ fun _ _ hs' => hs'
    exact List.forall_mem_cons.symm

/-- A tool that changes nothing, or ends the script. -/
def tool (works : Bool) : Command σ := if works then .ok else .error

theorem gives_tool (works : Bool) (s : σ) : Gives (tool works s) (works = true) fun s' => s' = s := by
  cases works with
  | false => exact ⟨by simp [tool], fun _ hrun => by cases hrun⟩
  | true => exact (gives_ok s).imp (by simp) fun _ _ h => h

/-- A command about a part of the state. -/
theorem gives_onPart {τ : Type} {get : σ → τ} {set : τ → σ → σ} {command : Command τ}
    {post : τ → Prop} (h : Gives (command (get s)) good post) :
    Gives (onPart get set command s) good fun s' => ∃ v, post v ∧ s' = set v s := by
  refine ⟨Iff.trans ?_ h.ok_iff, fun s' hrun => ?_⟩
  · constructor
    · rintro ⟨s', hrun⟩
      obtain ⟨v, hv, -⟩ := onPart_eq_ok.mp hrun
      exact ⟨v, hv⟩
    · rintro ⟨v, hv⟩
      exact ⟨_, onPart_eq_ok.mpr ⟨v, hv, rfl⟩⟩
  · obtain ⟨v, hv, rfl⟩ := onPart_eq_ok.mp hrun
    exact ⟨v, h.post v hv, rfl⟩

end Libreboot.Infra.Script
