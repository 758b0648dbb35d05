import Mathlib.Data.List.Basic

/-!
# The `s` command of sed

`s/pattern/replacement/` replaces the first match on each line, for patterns of plain characters and
dots.
-/

namespace Libreboot.Infra.Sed

/-- A character of a pattern: it stands for itself, or is the dot. -/
inductive Atom (α : Type)
  | char (c : α)
  | any

variable {α : Type} [DecidableEq α]

def Atom.matches (c : α) : Atom α → Bool
  | char d => d = c
  | any => true

/-- The pattern matches at the beginning. -/
def matchesAt : List (Atom α) → List α → Bool
  | [], _ => true
  | _ :: _, [] => false
  | a :: pattern, c :: line => a.matches c && matchesAt pattern line

/-- The first match on a line. -/
def substituteLine (pattern : List (Atom α)) (replacement : List α) : List α → List α
  | [] => []
  | c :: line =>
    if matchesAt pattern (c :: line) then replacement ++ (c :: line).drop pattern.length
    else c :: substituteLine pattern replacement line

/-- `s/pattern/replacement/` -/
def substitute (newline : α) (pattern : List (Atom α)) (replacement text : List α) : List α :=
  [newline].intercalate ((text.splitOn newline).map (substituteLine pattern replacement))

end Libreboot.Infra.Sed
