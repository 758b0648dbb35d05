import Mathlib.Data.List.Basic

/-!
# Splicing lists

A patch is put over the elements of a list from a given place on. What comes out is determined
element by element: the patch on its range, the list elsewhere. So patches with disjoint ranges can
be put in any order and any number of times.

* `getElem?_splice` — the elements after one patch
* `getElem?_spliceAll_of_covers` — the elements after several patches, of which no two disagree
* `spliceAll_congr` — only the set of patches matters
-/

namespace Libreboot.Infra

/-- What is put into a list, and where. -/
structure Patch (α : Type) where
  start : Nat
  content : List α

namespace Patch

variable {α : Type}

/-- The place behind the patch. -/
def stop (p : Patch α) : Nat := p.start + p.content.length

/-- The patch has an element for place `i`. -/
def Covers (p : Patch α) (i : Nat) : Prop := p.start ≤ i ∧ i < p.stop

instance (p : Patch α) (i : Nat) : Decidable (p.Covers i) := inferInstanceAs (Decidable (_ ∧ _))

/-- The list with the patch over it. -/
def splice (l : List α) (p : Patch α) : List α := l.take p.start ++ p.content ++ l.drop p.stop

variable {l : List α} {p q : Patch α}

theorem length_splice (h : p.stop ≤ l.length) : (splice l p).length = l.length := by
  unfold stop at h
  simp only [splice, List.length_append, List.length_take, List.length_drop, stop]
  omega

/-- **The elements after a patch.** -/
theorem getElem?_splice (h : p.stop ≤ l.length) (i : Nat) :
    (splice l p)[i]? = if p.Covers i then p.content[i - p.start]? else l[i]? := by
  have hstart : p.start ≤ l.length := by
    unfold stop at h
    omega
  have htake : (l.take p.start).length = p.start := by
    rw [List.length_take]
    omega
  unfold splice
  by_cases hin : p.Covers i
  · obtain ⟨hlo, hhi⟩ := hin
    have hcontent : i - p.start < p.content.length := by
      unfold stop at hhi
      omega
    rw [if_pos ⟨hlo, hhi⟩, List.append_assoc, List.getElem?_append_right (by omega), htake,
      List.getElem?_append_left hcontent]
  · rw [if_neg hin]
    by_cases hlt : i < p.start
    · rw [List.append_assoc, List.getElem?_append_left (by omega), List.getElem?_take, if_pos hlt]
    · have hstop : p.stop ≤ i := by
        by_contra hno
        exact hin ⟨by omega, by omega⟩
      have hlength : (l.take p.start ++ p.content).length = p.stop := by
        rw [List.length_append, htake, stop]
      rw [List.getElem?_append_right (by omega), hlength, List.getElem?_drop]
      congr 1
      omega

/-! ## Several patches -/

/-- The patches, one after the other. -/
def spliceAll (l : List α) (ps : List (Patch α)) : List α := ps.foldl splice l

/-- Two patches that are the same wherever both have an element. -/
def Agree (p q : Patch α) : Prop :=
  ∀ i, p.Covers i → q.Covers i → p.content[i - p.start]? = q.content[i - q.start]?

theorem length_spliceAll : ∀ {ps : List (Patch α)} {l : List α}, (∀ p ∈ ps, p.stop ≤ l.length) →
    (spliceAll l ps).length = l.length
  | [], _, _ => rfl
  | p :: ps, l, h => by
    have hp := length_splice (h p List.mem_cons_self)
    have ih : (spliceAll (splice l p) ps).length = (splice l p).length :=
      length_spliceAll fun q hq => by
        rw [hp]
        exact h q (List.mem_cons_of_mem _ hq)
    exact ih.trans hp

/-- Where no patch is, the list is as it was. -/
theorem getElem?_spliceAll_of_not_covers : ∀ {ps : List (Patch α)} {l : List α},
    (∀ p ∈ ps, p.stop ≤ l.length) → ∀ {i : Nat}, (∀ p ∈ ps, ¬ p.Covers i) →
      (spliceAll l ps)[i]? = l[i]?
  | [], _, _, _, _ => rfl
  | p :: ps, l, h, i, hi => by
    have hp := h p List.mem_cons_self
    have ih : (spliceAll (splice l p) ps)[i]? = (splice l p)[i]? :=
      getElem?_spliceAll_of_not_covers
        (fun q hq => by
          rw [length_splice hp]
          exact h q (List.mem_cons_of_mem _ hq))
        (fun q hq => hi q (List.mem_cons_of_mem _ hq))
    rw [getElem?_splice hp, if_neg (hi p List.mem_cons_self)] at ih
    exact ih

/-- **Where a patch is, the result is as the patch says.** -/
theorem getElem?_spliceAll_of_covers : ∀ {ps : List (Patch α)} {l : List α},
    (∀ p ∈ ps, p.stop ≤ l.length) → (∀ p ∈ ps, ∀ q ∈ ps, p.Agree q) → ∀ {p : Patch α}, p ∈ ps →
      ∀ {i : Nat}, p.Covers i → (spliceAll l ps)[i]? = p.content[i - p.start]?
  | [], _, _, _, _, hp, _, _ => absurd hp List.not_mem_nil
  | q :: ps, l, h, hagree, p, hp, i, hi => by
    have hq := h q List.mem_cons_self
    have hinside : ∀ r ∈ ps, r.stop ≤ (splice l q).length := fun r hr => by
      rw [length_splice hq]
      exact h r (List.mem_cons_of_mem _ hr)
    show (spliceAll (splice l q) ps)[i]? = _
    by_cases hlater : ∃ r ∈ ps, r.Covers i
    · -- the last patch decides, and it agrees with this one
      obtain ⟨r, hr, hri⟩ := hlater
      rw [getElem?_spliceAll_of_covers hinside (fun a ha b hb =>
        hagree a (List.mem_cons_of_mem _ ha) b (List.mem_cons_of_mem _ hb)) hr hri]
      exact hagree r (List.mem_cons_of_mem _ hr) p hp i hri hi
    · have hnot : ∀ r ∈ ps, ¬ r.Covers i := fun r hr hri => hlater ⟨r, hr, hri⟩
      rw [getElem?_spliceAll_of_not_covers hinside hnot]
      rcases List.mem_cons.mp hp with rfl | htail
      · rw [getElem?_splice hq, if_pos hi]
      · exact absurd hi (hnot p htail)

/-- **Order and repetition do not matter.** -/
theorem spliceAll_congr {ps qs : List (Patch α)} {l : List α} (h : ∀ p, p ∈ ps ↔ p ∈ qs)
    (hinside : ∀ p ∈ ps, p.stop ≤ l.length) (hagree : ∀ p ∈ ps, ∀ q ∈ ps, p.Agree q) :
    spliceAll l ps = spliceAll l qs := by
  have hinside' : ∀ p ∈ qs, p.stop ≤ l.length := fun p hp => hinside p ((h p).mpr hp)
  have hagree' : ∀ p ∈ qs, ∀ q ∈ qs, p.Agree q := fun p hp q hq =>
    hagree p ((h p).mpr hp) q ((h q).mpr hq)
  apply List.ext_getElem?
  intro i
  by_cases hcovered : ∃ p ∈ ps, p.Covers i
  · obtain ⟨p, hp, hi⟩ := hcovered
    rw [getElem?_spliceAll_of_covers hinside hagree hp hi,
      getElem?_spliceAll_of_covers hinside' hagree' ((h p).mp hp) hi]
  · have hnot : ∀ p ∈ ps, ¬ p.Covers i := fun p hp hi => hcovered ⟨p, hp, hi⟩
    rw [getElem?_spliceAll_of_not_covers hinside hnot,
      getElem?_spliceAll_of_not_covers hinside' fun p hp => hnot p ((h p).mpr hp)]

end Patch

end Libreboot.Infra
