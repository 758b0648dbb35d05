import Libreboot.Infra.Bytes

/-!
# Sums of 16-bit words

A block of memory as little-endian 16-bit words, and the sum of its first words modulo `2 ^ 16`.

The sum over the first `n` words looks at `2 * n` bytes only. So a word behind them can be chosen
to bring the sum to any total, and choosing it anew gives the same word. There is no other choice
(`wordSum_stored_eq_iff`).
-/

namespace Libreboot.Infra

/-- Word `i` of a buffer. -/
def word16 (l : Bytes) (i : Nat) : BitVec 16 := BitVec.ofNat 16 (leValue ((l.drop (2 * i)).take 2))

theorem word16_congr {a b : Bytes} {k i : Nat} (h : a.take k = b.take k) (hi : 2 * i + 2 ≤ k) :
    word16 a i = word16 b i := by
  have hslice : ∀ l : Bytes, (l.drop (2 * i)).take 2 = ((l.take k).drop (2 * i)).take 2 := by
    intro l
    rw [List.drop_take, List.take_take, Nat.min_eq_left (by omega)]
  rw [word16, word16, hslice a, hslice b, h]

/-- The sum of the first `n` words. -/
def wordSum (word : Nat → BitVec 16) (n : Nat) : BitVec 16 :=
  (List.range n).foldl (fun total i => total + word i) 0

theorem wordSum_succ (word : Nat → BitVec 16) (n : Nat) :
    wordSum word (n + 1) = wordSum word n + word n := by
  rw [wordSum, List.range_succ, List.foldl_append]
  rfl

theorem wordSum_congr {f g : Nat → BitVec 16} : ∀ {n : Nat}, (∀ i < n, f i = g i) →
    wordSum f n = wordSum g n
  | 0, _ => rfl
  | n + 1, h => by
    rw [wordSum_succ, wordSum_succ, wordSum_congr fun i hi => h i (by omega), h n (by omega)]

/-- A word behind `n` others. -/
theorem word16_stored {a : Bytes} {n : Nat} (ha : a.length = 2 * n) (v : BitVec 16)
    (rest : Bytes) : word16 (a ++ leBytes 2 v.toNat ++ rest) n = v := by
  rw [word16, List.append_assoc, List.drop_left' ha, List.take_left' (length_leBytes 2 _),
    leValue_leBytes, Nat.mod_eq_of_lt v.isLt, BitVec.ofNat_toNat, BitVec.setWidth_eq]

/-- **Exactly one value of the last word brings the sum to a given total.** -/
theorem wordSum_stored_eq_iff {a : Bytes} {n : Nat} (ha : a.length = 2 * n)
    (v total : BitVec 16) (rest : Bytes) :
    wordSum (word16 (a ++ leBytes 2 v.toNat ++ rest)) (n + 1) = total
      ↔ v = total - wordSum (word16 a) n := by
  have hfront : wordSum (word16 (a ++ leBytes 2 v.toNat ++ rest)) n = wordSum (word16 a) n := by
    refine wordSum_congr fun i hi => word16_congr (k := 2 * n) ?_ (by omega)
    rw [List.append_assoc, List.take_left' ha, List.take_of_length_le (by omega)]
  rw [wordSum_succ, word16_stored ha, hfront, BitVec.eq_sub_iff_add_eq, BitVec.add_comm]

end Libreboot.Infra
