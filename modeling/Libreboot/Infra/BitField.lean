import Mathlib.Data.Nat.Bitwise

/-!
# Records of C bit-fields

The allocation of bit-fields by a little-endian compiler: members are placed in declaration
order, least significant bit first, and a member that would cross a boundary of a unit of its
declared type starts at the next unit.

`pack` and `unpack` go through the computed places. Distinct members never overlap, so a packed
record reads back. The other direction needs the members to leave no gap, which is `tight`, a
check on the declaration alone.
-/

namespace Libreboot.Infra

/-- A member `T name : width`, where `T` has `unit` bits. -/
structure BitField where
  unit : Nat
  width : Nat

/-- The member `uint8_t name : w`. -/
abbrev u8 (w : Nat) : BitField := ⟨8, w⟩

/-- The member `uint16_t name : w`. -/
abbrev u16 (w : Nat) : BitField := ⟨16, w⟩

/-- The first bit of a member declared when `off` bits are already taken. -/
def BitField.place (f : BitField) (off : Nat) : Nat :=
  if off / f.unit = (off + f.width - 1) / f.unit then off else (off / f.unit + 1) * f.unit

theorem BitField.le_place (f : BitField) (off : Nat) : off ≤ f.place off := by
  unfold BitField.place
  split
  · exact Nat.le_refl off
  · next h =>
    have hu : 0 < f.unit := by
      rcases Nat.eq_zero_or_pos f.unit with h0 | h0
      · exact absurd (by simp [h0]) h
      · exact h0
    have := Nat.lt_div_mul_add hu (a := off)
    rw [Nat.add_mul, Nat.one_mul]
    omega

/-- One value in range for each member. -/
def Values : List BitField → Type
  | [] => Unit
  | f :: fs => BitVec f.width × Values fs

namespace BitField

/-! ## Packing and unpacking -/

/-- The word that holds the values, the first member starting at or after bit `off`. -/
def pack : (fs : List BitField) → Nat → Values fs → Nat
  | [], _, _ => 0
  | f :: fs, off, (v, vs) => v.toNat <<< f.place off ||| pack fs (f.place off + f.width) vs

/-- The values of the members in a word. -/
def unpack : (fs : List BitField) → Nat → Nat → Values fs
  | [], _, _ => ()
  | f :: fs, off, w =>
    (BitVec.ofNat f.width (w >>> f.place off), unpack fs (f.place off + f.width) w)

/-- A packed record has no bit below its first member. -/
theorem testBit_pack_of_lt : ∀ (fs : List BitField) (off : Nat) (vs : Values fs) (p : Nat),
    p < off → (pack fs off vs).testBit p = false
  | [], _, _, _, _ => Nat.zero_testBit _
  | f :: fs, off, (v, vs), p, hp => by
    have hle := f.le_place off
    rw [pack, Nat.testBit_or, testBit_pack_of_lt fs _ vs p (by omega), Bool.or_false,
      Nat.testBit_shiftLeft]
    simp only [Bool.and_eq_false_imp, decide_eq_true_eq]
    intro h
    omega

/-- Bit `p` of a packed record, when `p` lies in the first member. -/
theorem testBit_pack_head (f : BitField) (fs : List BitField) (off : Nat) (v : BitVec f.width)
    (vs : Values fs) {p : Nat} (hp : p < f.place off + f.width) :
    (pack (f :: fs) off (v, vs)).testBit p
      = (decide (f.place off ≤ p) && v.getLsbD (p - f.place off)) := by
  rw [pack, Nat.testBit_or, testBit_pack_of_lt fs _ vs p hp, Bool.or_false,
    Nat.testBit_shiftLeft, ← BitVec.testBit_toNat]

/-- Bit `p` of a packed record, when `p` lies behind the first member. -/
theorem testBit_pack_tail (f : BitField) (fs : List BitField) (off : Nat) (v : BitVec f.width)
    (vs : Values fs) {p : Nat} (hp : f.place off + f.width ≤ p) :
    (pack (f :: fs) off (v, vs)).testBit p
      = (pack fs (f.place off + f.width) vs).testBit p := by
  have hv : v.toNat.testBit (p - f.place off) = false := by
    rw [BitVec.testBit_toNat]
    exact BitVec.getLsbD_of_ge v _ (by omega)
  rw [pack, Nat.testBit_or, Nat.testBit_shiftLeft, hv, Bool.and_false, Bool.false_or]

/-- A word that agrees with a packed record from bit `off` on unpacks to its values. -/
theorem unpack_of_testBit_eq : ∀ (fs : List BitField) (off w : Nat) (vs : Values fs),
    (∀ p, off ≤ p → w.testBit p = (pack fs off vs).testBit p) → unpack fs off w = vs
  | [], _, _, _, _ => rfl
  | f :: fs, off, w, (v, vs), h => by
    -- the head and the rest are read from different bits, and `h` speaks about both
    have hle := f.le_place off
    have hv : BitVec.ofNat f.width (w >>> f.place off) = v := by
      apply BitVec.eq_of_getLsbD_eq
      intro j hj
      rw [BitVec.getLsbD_ofNat, Nat.testBit_shiftRight, h _ (by omega),
        testBit_pack_head f fs off v vs (by omega)]
      simp [hj]
    have hvs : unpack fs (f.place off + f.width) w = vs := by
      apply unpack_of_testBit_eq
      intro p hp
      rw [h p (by omega), testBit_pack_tail f fs off v vs hp]
    rw [unpack, hv, hvs]

/-- **Packing is injective:** a packed record reads back. -/
theorem unpack_pack (fs : List BitField) (off : Nat) (vs : Values fs) :
    unpack fs off (pack fs off vs) = vs :=
  unpack_of_testBit_eq fs off _ vs fun _ _ => rfl

/-! ## Records without gaps -/

/-- The members fill the bits from `off` up to `n` without a gap. -/
def tight : List BitField → Nat → Nat → Bool
  | [], off, n => off == n
  | f :: fs, off, n => f.place off == off && tight fs (off + f.width) n

theorem le_of_tight : ∀ (fs : List BitField) (off n : Nat), tight fs off n = true → off ≤ n
  | [], off, n, h => by simp only [tight, beq_iff_eq] at h; omega
  | f :: fs, off, n, h => by
    simp only [tight, Bool.and_eq_true, beq_iff_eq] at h
    have := le_of_tight fs _ n h.2
    omega

/-- A record without gaps has no bit behind its last member. -/
theorem testBit_pack_of_ge : ∀ (fs : List BitField) (off n : Nat) (vs : Values fs) (p : Nat),
    tight fs off n = true → n ≤ p → (pack fs off vs).testBit p = false
  | [], _, _, _, _, _, _ => Nat.zero_testBit _
  | f :: fs, off, n, (v, vs), p, ht, hp => by
    simp only [tight, Bool.and_eq_true, beq_iff_eq] at ht
    have hlast := testBit_pack_of_ge fs (off + f.width) n vs p ht.2 hp
    have hend := le_of_tight fs (off + f.width) n ht.2
    rw [testBit_pack_tail f fs off v vs (by omega), ht.1, hlast]

theorem pack_lt {fs : List BitField} {n : Nat} (ht : tight fs 0 n = true) (vs : Values fs) :
    pack fs 0 vs < 2 ^ n :=
  Nat.lt_pow_two_of_testBit _ fun p hp => testBit_pack_of_ge fs 0 n vs p ht hp

theorem testBit_pack_unpack : ∀ (fs : List BitField) (off n w p : Nat),
    tight fs off n = true → off ≤ p → p < n →
    (pack fs off (unpack fs off w)).testBit p = w.testBit p
  | [], off, n, w, p, ht, _, _ => by simp only [tight, beq_iff_eq] at ht; omega
  | f :: fs, off, n, w, p, ht, ho, hn => by
    simp only [tight, Bool.and_eq_true, beq_iff_eq] at ht
    -- without gaps the first member starts at `off`, so bit `p` is in it or in a later one
    by_cases hp : p < off + f.width
    · rw [unpack, testBit_pack_head _ _ _ _ _ (by omega), ht.1, BitVec.getLsbD_ofNat,
        Nat.testBit_shiftRight]
      have h1 : p - off < f.width := by omega
      have h2 : off + (p - off) = p := by omega
      simp [ho, h1, h2]
    · rw [unpack, testBit_pack_tail _ _ _ _ _ (by omega), ht.1]
      exact testBit_pack_unpack fs (off + f.width) n w p ht.2 (by omega) hn

/-- **A record without gaps loses nothing:** writing back what was read gives the same word. -/
theorem pack_unpack {fs : List BitField} {n w : Nat} (ht : tight fs 0 n = true)
    (hw : w < 2 ^ n) : pack fs 0 (unpack fs 0 w) = w := by
  apply Nat.eq_of_testBit_eq
  intro p
  by_cases hp : p < n
  · exact testBit_pack_unpack fs 0 n w p ht (Nat.zero_le p) hp
  · have hwp : w < 2 ^ p := Nat.lt_of_lt_of_le hw (Nat.pow_le_pow_right (by omega) (by omega))
    rw [testBit_pack_of_ge fs 0 n _ p ht (by omega), Nat.testBit_lt_two_pow hwp]

/-! ## Frames -/

/-- Two records agree on every member that contains bit `p`. -/
def AgreeAt : (fs : List BitField) → Nat → Values fs → Values fs → Nat → Prop
  | [], _, _, _, _ => True
  | f :: fs, off, (v, vs), (v', vs'), p =>
    (f.place off ≤ p → p < f.place off + f.width → v = v')
      ∧ AgreeAt fs (f.place off + f.width) vs vs' p

/-- A bit changes only if a member that contains it does. -/
theorem testBit_pack_congr : ∀ (fs : List BitField) (off : Nat) (vs vs' : Values fs) (p : Nat),
    AgreeAt fs off vs vs' p → (pack fs off vs).testBit p = (pack fs off vs').testBit p
  | [], _, _, _, _, _ => rfl
  | f :: fs, off, (v, vs), (v', vs'), p, h => by
    by_cases hp : p < f.place off + f.width
    · rw [testBit_pack_head f fs off v vs hp, testBit_pack_head f fs off v' vs' hp]
      by_cases hle : f.place off ≤ p
      · rw [h.1 hle hp]
      · simp [hle]
    · rw [testBit_pack_tail f fs off v vs (by omega), testBit_pack_tail f fs off v' vs' (by omega)]
      exact testBit_pack_congr fs _ vs vs' p h.2

end BitField

end Libreboot.Infra
