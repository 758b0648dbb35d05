import Mathlib.Order.CompletePartialOrder
import Mathlib.Order.Interval.Set.Disjoint
import Mathlib.Order.Interval.Set.LinearOrder

/-!
# Ranges of pages

A range of pages given by its first and its last page, both inclusive, as a set of addresses. A
range whose first page lies behind its last one is unused.

An inclusive range of pages is a half-open interval of addresses. In that form the questions about
a memory map (what is empty, what is disjoint, what covers what) are questions about interval ends.
-/

namespace Libreboot.Infra

/-- The pages `base` to `limit`. -/
structure PageRange where
  base : Nat
  limit : Nat

namespace PageRange

variable {page : Nat}

/-- The addresses in the range, when a page has `page` bytes. -/
def addresses (page : Nat) (r : PageRange) : Set Nat :=
  {a | r.base ≤ r.limit ∧ r.base * page ≤ a ∧ a ≤ r.limit * page + (page - 1)}

theorem addresses_eq_Ico (hpage : 0 < page) (r : PageRange) :
    r.addresses page = Set.Ico (r.base * page) ((r.limit + 1) * page) := by
  ext a
  have hsucc : (r.limit + 1) * page = r.limit * page + page := Nat.succ_mul _ _
  simp only [addresses, Set.mem_ofPred_eq, Set.mem_Ico]
  constructor
  · rintro ⟨_, hlo, hhi⟩
    exact ⟨hlo, by omega⟩
  · rintro ⟨hlo, hhi⟩
    refine ⟨?_, hlo, by omega⟩
    have hlt : r.base * page < (r.limit + 1) * page := by omega
    have := Nat.lt_of_mul_lt_mul_right hlt
    omega

theorem addresses_eq_empty {r : PageRange} (h : r.limit < r.base) : r.addresses page = ∅ := by
  ext a
  simp only [addresses, Set.mem_ofPred_eq, Set.mem_empty_iff_false, iff_false, not_and]
  intro hle
  omega

theorem nonempty_addresses_iff (hpage : 0 < page) (r : PageRange) :
    (r.addresses page).Nonempty ↔ r.base ≤ r.limit := by
  rw [addresses_eq_Ico hpage, Set.nonempty_Ico, Nat.mul_lt_mul_right hpage, Nat.lt_succ_iff]

/-- A range that is used covers the interval up to `hi` exactly when it ends there. -/
theorem addresses_eq_Ico_iff (hpage : 0 < page) (r : PageRange) (hi : Nat) :
    (r.addresses page).Nonempty ∧ r.addresses page = Set.Ico (r.base * page) hi
      ↔ r.base ≤ r.limit ∧ hi = (r.limit + 1) * page := by
  rw [nonempty_addresses_iff hpage]
  refine and_congr_right fun hused => ?_
  have hlt : r.base * page < (r.limit + 1) * page :=
    Nat.mul_lt_mul_of_pos_right (Nat.lt_succ_of_le hused) hpage
  rw [addresses_eq_Ico hpage, Set.Ico_eq_Ico_iff (Or.inl hlt)]
  simp only [true_and, eq_comm]

/-- Two ranges, one behind the other, cover an interval exactly when the second ends with it. -/
theorem covers_iff_of_adjacent (hpage : 0 < page) {r s : PageRange} (hr : r.base ≤ r.limit)
    (hadj : s.base = r.limit + 1) (hi : Nat) :
    ((s.addresses page).Nonempty ∧ Disjoint (r.addresses page) (s.addresses page)
        ∧ r.addresses page ∪ s.addresses page = Set.Ico (r.base * page) hi)
      ↔ s.base ≤ s.limit ∧ hi = (s.limit + 1) * page := by
  rw [nonempty_addresses_iff hpage]
  refine and_congr_right fun hused => ?_
  have hlo : r.base * page ≤ (r.limit + 1) * page :=
    Nat.mul_le_mul_right page (by omega)
  have hmid : (r.limit + 1) * page ≤ (s.limit + 1) * page :=
    Nat.mul_le_mul_right page (by omega)
  have hlt : r.base * page < (s.limit + 1) * page :=
    Nat.mul_lt_mul_of_pos_right (by omega) hpage
  rw [addresses_eq_Ico hpage, addresses_eq_Ico hpage, hadj, Set.Ico_union_Ico_eq_Ico hlo hmid,
    Set.Ico_eq_Ico_iff (Or.inl hlt)]
  simp only [Set.Ico_disjoint_Ico_same, true_and, eq_comm]

end PageRange

end Libreboot.Infra
