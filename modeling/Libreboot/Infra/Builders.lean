import Libreboot.Infra.FileCommands

/-!
# Builders that share a table

Several builders work on the same entries, one after the other, and any of them may end early. Each
collects what its pattern finds, so it must find nothing that another one has left.

* `Builders.keeps_clean` — what a builder leaves does not disturb the others
* `Builders.Clean.collects` — what a builder collects is what it has made
-/

namespace Libreboot.Infra.Script

variable {β κ ω : Type}

/-- What each builder collects, and what it makes. -/
structure Builders (β κ : Type) where
  finds : β → κ → Prop
  makes : β → κ → Prop
  /-- No builder collects what another one makes. -/
  apart : ∀ b b' x, finds b x → makes b' x → b = b'

namespace Builders

variable (B : Builders β κ) {b : β} {s s' : Entries κ ω}

/-- A builder finds nothing but what it makes itself. -/
def Clean (s : Entries κ ω) : Prop := ∀ b x, B.finds b x → s x ≠ none → B.makes b x

variable {B}

/-- Fewer entries are clean as well. -/
theorem Clean.mono (h : B.Clean s) (hsub : ∀ x, s' x ≠ none → s x ≠ none) : B.Clean s' :=
  fun b x hfinds hne => h b x hfinds (hsub x hne)

/-- **A builder keeps the entries clean,** also if it ends early. -/
theorem keeps_clean {names : κ → Prop} {command : Command (Entries κ ω)}
    (htouches : Touches names command)
    (hnames : ∀ b' x, B.finds b' x → names x → B.makes b x) : Keeps B.Clean command := by
  intro s hs b' x hfinds hne
  by_cases hx : names x
  · have hmakes := hnames b' x hfinds hx
    obtain rfl := B.apart b' b x hfinds hmakes
    exact hmakes
  · rw [htouches s x hx] at hne
    exact hs b' x hfinds hne

/-- **What a builder collects** is what it has made. -/
theorem Clean.collects (h : B.Clean s) {x : κ} (hfinds : B.finds b x) (hmakes : ¬ B.makes b x) :
    s x = none := by
  by_contra hne
  exact hmakes (h b x hfinds hne)

end Builders

end Libreboot.Infra.Script
