import Mathlib.Data.List.Basic

/-!
# Two blocks at the end of a list

The last two blocks of a list can be exchanged, as a chipset with a top swap bit does with the end of
a flash chip. If the blocks are the same, the exchange is not seen.

Every list that is long enough is a `rest` with the block `below` and the block `top` behind it, and
all operations here only rearrange the three.

* `mirror` — a copy of the top block over the block below it
* `swap_eq_self_iff` — when the exchange is not seen
* `sameOutsideCopy_swap_withTop_iff` — what is seen of a list under a foreign top block
-/

namespace Libreboot.Infra.TopSwap

variable {α : Type} (size : Nat)

/-- What lies in front of the last two blocks. -/
def rest (l : List α) : List α := l.take (l.length - 2 * size)

/-- The block below the last one. -/
def below (l : List α) : List α := (l.drop (l.length - 2 * size)).take size

/-- The last block. -/
def top (l : List α) : List α := l.drop (l.length - size)

/-- The last two blocks change places. -/
def swap (l : List α) : List α := rest size l ++ top size l ++ below size l

/-- The last block is copied over the one below. -/
def mirror (l : List α) : List α := rest size l ++ top size l ++ top size l

/-- `l` with the last block of `m`. -/
def withTop (l m : List α) : List α := rest size l ++ below size l ++ top size m

/-- What is seen of a list. -/
def seen (swapped : Bool) (l : List α) : List α := if swapped then swap size l else l

/-- The last two blocks are the same. -/
def Mirrored (l : List α) : Prop := below size l = top size l

instance [DecidableEq α] (l : List α) : Decidable (Mirrored size l) :=
  inferInstanceAs (Decidable (_ = _))

/-- The lists differ at most in the block below the last one. -/
structure SameOutsideCopy (l m : List α) : Prop where
  rest : rest size l = rest size m
  top : top size l = top size m

variable {size}

/-! ## The three parts -/

section Parts

variable {a x y : List α}

theorem rest_append (hx : x.length = size) (hy : y.length = size) :
    rest size (a ++ x ++ y) = a := by
  have hlen : (a ++ x ++ y).length - 2 * size = a.length := by
    simp only [List.length_append]
    omega
  rw [rest, hlen, List.append_assoc, List.take_left' rfl]

theorem below_append (hx : x.length = size) (hy : y.length = size) :
    below size (a ++ x ++ y) = x := by
  have hlen : (a ++ x ++ y).length - 2 * size = a.length := by
    simp only [List.length_append]
    omega
  rw [below, hlen, List.append_assoc, List.drop_left' rfl, List.take_left' hx]

theorem top_append (hy : y.length = size) : top size (a ++ x ++ y) = y := by
  have hlen : (a ++ x ++ y).length - size = (a ++ x).length := by
    simp only [List.length_append]
    omega
  rw [top, hlen, List.drop_left' rfl]

end Parts

variable {l m : List α}

theorem length_below (h : 2 * size ≤ l.length) : (below size l).length = size := by
  rw [below, List.length_take, List.length_drop]
  omega

theorem length_top (h : 2 * size ≤ l.length) : (top size l).length = size := by
  rw [top, List.length_drop]
  omega

theorem parts (h : 2 * size ≤ l.length) :
    rest size l ++ below size l ++ top size l = l := by
  have htop : top size l = (l.drop (l.length - 2 * size)).drop size := by
    rw [top, List.drop_drop]
    congr 1
    omega
  rw [htop, below, List.append_assoc, List.take_append_drop, rest, List.take_append_drop]

/-- A list is given by its parts. -/
theorem ext_parts (hl : 2 * size ≤ l.length) (hm : 2 * size ≤ m.length)
    (hrest : rest size l = rest size m) (hbelow : below size l = below size m)
    (htop : top size l = top size m) : l = m := by
  rw [← parts hl, ← parts hm, hrest, hbelow, htop]

/-! ## The exchange -/

section Swap

variable (h : 2 * size ≤ l.length)
include h

theorem length_swap : (swap size l).length = l.length := by
  have hparts := congrArg List.length (parts h)
  simp only [List.length_append] at hparts
  simp only [swap, List.length_append]
  omega

theorem rest_swap : rest size (swap size l) = rest size l :=
  rest_append (length_top h) (length_below h)

theorem below_swap : below size (swap size l) = top size l :=
  below_append (length_top h) (length_below h)

theorem top_swap : top size (swap size l) = below size l := top_append (length_below h)

/-- **The exchange is not seen exactly if the blocks are the same.** -/
theorem swap_eq_self_iff : swap size l = l ↔ Mirrored size l := by
  constructor
  · intro heq
    have htop := top_swap h
    rw [heq] at htop
    exact htop.symm
  · intro hm
    have hm : below size l = top size l := hm
    calc swap size l = rest size l ++ below size l ++ top size l := by rw [swap, hm]
      _ = l := parts h

theorem seen_of_mirrored (hm : Mirrored size l) (swapped : Bool) : seen size swapped l = l := by
  cases swapped with
  | false => rfl
  | true => exact (swap_eq_self_iff h).mpr hm

end Swap

/-! ## The copy -/

section Mirror

variable (h : 2 * size ≤ l.length)
include h

theorem length_mirror : (mirror size l).length = l.length := by
  have hparts := congrArg List.length (parts h)
  have hbelow := length_below h
  have htop := length_top h
  simp only [List.length_append] at hparts
  simp only [mirror, List.length_append]
  omega

theorem rest_mirror : rest size (mirror size l) = rest size l :=
  rest_append (length_top h) (length_top h)

theorem below_mirror : below size (mirror size l) = top size l :=
  below_append (length_top h) (length_top h)

theorem top_mirror : top size (mirror size l) = top size l := top_append (length_top h)

theorem mirrored_mirror : Mirrored size (mirror size l) := by
  rw [Mirrored, below_mirror h, top_mirror h]

theorem sameOutsideCopy_mirror : SameOutsideCopy size (mirror size l) l :=
  ⟨rest_mirror h, top_mirror h⟩

theorem mirror_eq_self_iff : mirror size l = l ↔ Mirrored size l := by
  constructor
  · intro heq
    rw [← heq]
    exact mirrored_mirror h
  · intro hm
    have hm : below size l = top size l := hm
    calc mirror size l = rest size l ++ below size l ++ top size l := by rw [mirror, hm]
      _ = l := parts h

theorem mirror_mirror : mirror size (mirror size l) = mirror size l := by
  have hlen : 2 * size ≤ (mirror size l).length := by
    rw [length_mirror h]
    exact h
  exact (mirror_eq_self_iff hlen).mpr (mirrored_mirror h)

end Mirror

/-! ## A foreign top block -/

theorem top_withTop (hm : 2 * size ≤ m.length) : top size (withTop size l m) = top size m :=
  top_append (length_top hm)

section WithTop

variable (hl : 2 * size ≤ l.length) (hm : 2 * size ≤ m.length)
include hl hm

theorem rest_withTop : rest size (withTop size l m) = rest size l :=
  rest_append (length_below hl) (length_top hm)

theorem below_withTop : below size (withTop size l m) = below size l :=
  below_append (length_below hl) (length_top hm)

theorem length_withTop : (withTop size l m).length = l.length := by
  have hparts := congrArg List.length (parts hl)
  have htop := length_top hl
  have htop' := length_top hm
  simp only [List.length_append] at hparts
  simp only [withTop, List.length_append]
  omega

/-- **Under a foreign top block, a list is seen through the exchange exactly if it is mirrored.** -/
theorem sameOutsideCopy_swap_withTop_iff :
    SameOutsideCopy size (swap size (withTop size l m)) l ↔ Mirrored size l := by
  have hlen : 2 * size ≤ (withTop size l m).length := by
    rw [length_withTop hl hm]
    exact hl
  have hrest : rest size (swap size (withTop size l m)) = rest size l := by
    rw [rest_swap hlen, rest_withTop hl hm]
  have htop : top size (swap size (withTop size l m)) = below size l := by
    rw [top_swap hlen, below_withTop hl hm]
  constructor
  · intro hsame
    rw [Mirrored, ← htop, hsame.top]
  · intro hmirrored
    exact ⟨hrest, htop.trans hmirrored⟩

end WithTop

end Libreboot.Infra.TopSwap
