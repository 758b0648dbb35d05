import Mathlib.Data.List.Infix

/-!
# File names and patterns

Names that a script puts together from words, and the patterns `front*back` that find them.

* `glob_iff` — what a pattern finds
* `ne_of_suffix` — names that end differently are different
-/

namespace Libreboot.Infra

/-- `front*back`, for the names of one directory. -/
def glob (front back name : String) : Bool :=
  front.toList.isPrefixOf name.toList && back.toList.isSuffixOf name.toList

theorem glob_iff {front back name : String} :
    glob front back name = true
      ↔ front.toList <+: name.toList ∧ back.toList <:+ name.toList := by
  rw [glob, Bool.and_eq_true, List.isPrefixOf_iff_prefix, List.isSuffixOf_iff_suffix]

theorem suffix_append (front back : String) : back.toList <:+ (front ++ back).toList := by
  rw [String.toList_append]
  exact List.suffix_append _ _

theorem prefix_append (front back : String) : front.toList <+: (front ++ back).toList := by
  rw [String.toList_append]
  exact List.prefix_append _ _

/-- Of two ends of one name, one is the end of the other. -/
theorem ne_of_suffix {a b : String} {u v : List Char} (ha : u <:+ a.toList) (hb : v <:+ b.toList)
    (huv : ¬ u <:+ v) (hvu : ¬ v <:+ u) : a ≠ b := by
  rintro rfl
  rcases List.suffix_or_suffix_of_suffix ha hb with h | h
  · exact huv h
  · exact hvu h

end Libreboot.Infra
