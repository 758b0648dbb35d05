import Mathlib.Data.Nat.Bitwise
import Mathlib.Data.List.Basic

/-!
# Byte strings and little-endian words

A file or a piece of memory is a list of bytes. A `k`-byte word is stored least significant
byte first. Bit `p` of a byte string is bit `p % 8` of byte `p / 8`, so that bit `p` of a stored
word is bit `p` of its value.
-/

namespace Libreboot.Infra

abbrev Byte := BitVec 8

abbrev Bytes := List Byte

/-! ## Little-endian words -/

/-- The `k` low bytes of `v`, least significant first. -/
def leBytes : Nat → Nat → Bytes
  | 0, _ => []
  | k + 1, v => BitVec.ofNat 8 v :: leBytes k (v / 2 ^ 8)

/-- The value of a byte string read as one little-endian word. -/
def leValue : Bytes → Nat
  | [] => 0
  | b :: rest => b.toNat + 2 ^ 8 * leValue rest

@[simp] theorem length_leBytes : ∀ k v : Nat, (leBytes k v).length = k
  | 0, _ => rfl
  | k + 1, v => by rw [leBytes, List.length_cons, length_leBytes k]

theorem leValue_lt : ∀ l : Bytes, leValue l < 2 ^ (8 * l.length)
  | [] => by simp [leValue]
  | b :: rest => by
    have hb := b.isLt
    have ih := leValue_lt rest
    rw [leValue, List.length_cons, Nat.mul_succ, Nat.pow_add, Nat.mul_comm (2 ^ (8 * _))]
    calc b.toNat + 2 ^ 8 * leValue rest
        < 2 ^ 8 + 2 ^ 8 * leValue rest := by omega
      _ = 2 ^ 8 * (leValue rest + 1) := by omega
      _ ≤ 2 ^ 8 * 2 ^ (8 * rest.length) := Nat.mul_le_mul_left _ ih

/-- Reading back the `k` stored bytes of `v` gives `v` modulo the word size. -/
theorem leValue_leBytes : ∀ k v : Nat, leValue (leBytes k v) = v % 2 ^ (8 * k)
  | 0, v => by simp [leBytes, leValue, Nat.mod_one]
  | k + 1, v => by
    rw [leBytes, leValue, leValue_leBytes k, BitVec.toNat_ofNat, Nat.mul_succ, Nat.add_comm (8 * k),
      Nat.pow_add, Nat.mod_mul]

/-- Storing the value of a byte string gives the byte string back. -/
theorem leBytes_leValue : ∀ l : Bytes, leBytes l.length (leValue l) = l
  | [] => rfl
  | b :: rest => by
    have hb := b.isLt
    have hlo : BitVec.ofNat 8 (b.toNat + 2 ^ 8 * leValue rest) = b := by
      apply BitVec.eq_of_toNat_eq
      rw [BitVec.toNat_ofNat]
      omega
    have hhi : (b.toNat + 2 ^ 8 * leValue rest) / 2 ^ 8 = leValue rest := by omega
    rw [List.length_cons, leValue, leBytes, hlo, hhi, leBytes_leValue rest]

/-! ## Bits of a byte string -/

/-- Bit `p` of a byte string; bits past its end read as zero. -/
def bit (l : Bytes) (p : Nat) : Bool := (l.getD (p / 8) 0).getLsbD (p % 8)

theorem bit_append_left {a b : Bytes} {p : Nat} (h : p < 8 * a.length) :
    bit (a ++ b) p = bit a p := by
  have hk : p / 8 < a.length := by omega
  simp only [bit, List.getD_eq_getElem?_getD, List.getElem?_append_left hk]

theorem bit_append_right {a b : Bytes} {p : Nat} (h : 8 * a.length ≤ p) :
    bit (a ++ b) p = bit b (p - 8 * a.length) := by
  have hk : a.length ≤ p / 8 := by omega
  have hdiv : (p - 8 * a.length) / 8 = p / 8 - a.length := by omega
  have hmod : (p - 8 * a.length) % 8 = p % 8 := by omega
  simp only [bit, List.getD_eq_getElem?_getD, List.getElem?_append_right hk, hdiv, hmod]

/-- Bit `p` of a stored word is bit `p` of its value. -/
theorem bit_leBytes : ∀ k v p : Nat, p < 8 * k → bit (leBytes k v) p = v.testBit p
  | 0, v, p, h => absurd h (by omega)
  | k + 1, v, p, h => by
    by_cases hp : p < 8
    · have hdiv : p / 8 = 0 := by omega
      have hmod : p % 8 = p := by omega
      simp only [bit, leBytes, hdiv, hmod, List.getD_cons_zero, BitVec.getLsbD_ofNat, hp,
        decide_true, Bool.true_and]
    · have hsplit : leBytes (k + 1) v = [BitVec.ofNat 8 v] ++ leBytes k (v / 2 ^ 8) := rfl
      rw [hsplit, bit_append_right (by simp; omega), List.length_singleton, Nat.mul_one,
        bit_leBytes k (v / 2 ^ 8) (p - 8) (by omega), Nat.testBit_div_two_pow]
      congr 1
      omega

theorem bit_drop (l : Bytes) (k p : Nat) : bit (l.drop k) p = bit l (8 * k + p) := by
  have hdiv : (8 * k + p) / 8 = k + p / 8 := by omega
  have hmod : (8 * k + p) % 8 = p % 8 := by omega
  simp only [bit, List.getD_eq_getElem?_getD, List.getElem?_drop, hdiv, hmod]

theorem bit_take {l : Bytes} {k p : Nat} (h : p < 8 * k) : bit (l.take k) p = bit l p := by
  have hk : p / 8 < k := by omega
  simp only [bit, List.getD_eq_getElem?_getD, List.getElem?_take_of_lt hk]

/-- Bit `p` of a byte string is bit `p` of the word at its beginning. -/
theorem testBit_leValue_take {l : Bytes} {k p : Nat} (hlen : k ≤ l.length) (hp : p < 8 * k) :
    (leValue (l.take k)).testBit p = bit l p := by
  have htake : (l.take k).length = k := by rw [List.length_take, Nat.min_eq_left hlen]
  rw [← bit_leBytes (l.take k).length _ p (by omega), leBytes_leValue, bit_take hp]

/-- A byte is determined by its bits. -/
theorem getD_eq_of_bit_eq {a b : Bytes} {k : Nat}
    (h : ∀ j < 8, bit a (8 * k + j) = bit b (8 * k + j)) : a.getD k 0 = b.getD k 0 := by
  apply BitVec.eq_of_getLsbD_eq
  intro j hj
  have hp := h j hj
  have hdiv : (8 * k + j) / 8 = k := by omega
  have hmod : (8 * k + j) % 8 = j := by omega
  simpa only [bit, hdiv, hmod] using hp

theorem eq_of_bit_eq {a b : Bytes} (hlen : a.length = b.length)
    (h : ∀ p < 8 * a.length, bit a p = bit b p) : a = b := by
  apply List.ext_getElem hlen
  intro k hk hk'
  have hbyte := getD_eq_of_bit_eq (k := k) fun j hj => h (8 * k + j) (by omega)
  rwa [List.getD_eq_getElem _ _ hk, List.getD_eq_getElem _ _ hk'] at hbyte

/-! ## Sets of bits -/

/-- Bits `lo` to `hi`, counted from the first bit of byte `byte`. -/
def inBits (byte lo hi p : Nat) : Prop := 8 * byte + lo ≤ p ∧ p ≤ 8 * byte + hi

instance (byte lo hi p : Nat) : Decidable (inBits byte lo hi p) :=
  inferInstanceAs (Decidable (_ ∧ _))

/-- The bits in a table of bit ranges: a byte and the first and the last bit from there. -/
def AmongBits (table : List (Nat × Nat × Nat)) (p : Nat) : Prop :=
  ∃ b ∈ table, inBits b.1 b.2.1 b.2.2 p

instance (table : List (Nat × Nat × Nat)) (p : Nat) : Decidable (AmongBits table p) :=
  inferInstanceAs (Decidable (∃ b ∈ table, _))

theorem AmongBits.of {table : List (Nat × Nat × Nat)} {byte lo hi p : Nat}
    (hmem : (byte, lo, hi) ∈ table) (hp : inBits byte lo hi p) : AmongBits table p :=
  ⟨(byte, lo, hi), hmem, hp⟩

/-! ## Arrays -/

theorem vector_get_set {α : Type} {n : Nat} (v : Vector α n) (i j : Fin n) (a : α) :
    (v.set i a i.isLt).get j = if i = j then a else v.get j := by
  show (v.set i a i.isLt)[(j : Nat)] = if i = j then a else v[(j : Nat)]
  rw [Vector.getElem_set]
  simp only [Fin.ext_iff]

theorem vector_ext_get {α : Type} {n : Nat} {u v : Vector α n} (h : ∀ i, u.get i = v.get i) :
    u = v :=
  Vector.ext fun i hi => h ⟨i, hi⟩

theorem vector_set_get {α : Type} {n : Nat} (v : Vector α n) (i : Fin n) :
    v.set i (v.get i) i.isLt = v := by
  refine vector_ext_get fun j => ?_
  rw [vector_get_set]
  split
  · next hij => rw [hij]
  · rfl

/-! ## Text -/

/-- The bytes of a text. -/
def ascii (s : String) : Bytes := s.toByteArray.data.toList.map UInt8.toBitVec

theorem ascii_append (a b : String) : ascii (a ++ b) = ascii a ++ ascii b := by
  rw [ascii, String.toByteArray_append, ByteArray.data_append, Array.toList_append, List.map_append]
  rfl

/-- A C string, given by the bytes in front of its terminating zero. -/
structure CString where
  bytes : Bytes
  noNul : (0 : Byte) ∉ bytes

namespace CString

/-- `strlen (s)` -/
def strlen (s : CString) : Nat := s.bytes.length

/-- `s[i]`, where the terminator can be read as well. -/
def char (s : CString) (i : Nat) : Byte := s.bytes.getD i 0

/-- `0 == strcmp (s, text)` -/
def equals (s : CString) (text : String) : Bool := s.bytes = ascii text

end CString

end Libreboot.Infra
