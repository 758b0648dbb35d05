import Libreboot.Infra.Bytes
import Libreboot.Infra.Hex
import Mathlib.Data.List.FinRange
import Mathlib.Data.Vector.Basic
import Mathlib.Tactic.SplitIfs

/-!
# Reading a MAC address

`ich9gen --macaddress AA:BB:CC:DD:EE:FF` checks the length and four of the five colons, and reads
two digits of either case for each of the six bytes.

* `readMacAddress_eq_some` — every byte that was read is the number its two digits denote
* `readMacAddress_isSome` — an address is read exactly if its twelve digits are there
-/

namespace Libreboot.Ich9gen

open Infra

/-! ## Reading -/

/-- Some character that should separate two bytes is no colon. The last separator is not checked. -/
def wrongSpacing (arg : CString) : Bool := (List.range' 2 4 3).any fun i => arg.char i ≠ 0x3A

/-- The value of a digit, shifted to its place in the byte. -/
def nibble (c : Byte) (shift : Nat) : Option Byte :=
  if 0x61 ≤ c.toNat ∧ c.toNat ≤ 0x66 then some (BitVec.ofNat 8 ((c.toNat - 87) <<< shift))
  else if 0x41 ≤ c.toNat ∧ c.toNat ≤ 0x46 then some (BitVec.ofNat 8 ((c.toNat - 55) <<< shift))
  else if 0x30 ≤ c.toNat ∧ c.toNat ≤ 0x39 then some (BitVec.ofNat 8 ((c.toNat - 48) <<< shift))
  else none

/-- Go through each nibble of byte `i`. -/
def readMacByte (arg : CString) (i : Nat) : Option Byte :=
  (List.range 2).foldlM (fun byte j =>
    (nibble (arg.char (i * 3 + j)) ((j ^^^ 1) <<< 2)).map (byte ||| ·)) 0

def readMacAddress (arg : CString) (macAddress : Vector Byte 6) : Option (Vector Byte 6) :=
  (List.finRange 6).foldlM (fun macAddress (i : Fin 6) =>
    (readMacByte arg i).map (macAddress.set i · i.isLt)) macAddress

/-! ## What is read -/

/-- The value of a hexadecimal digit. -/
def hexValue (c : Byte) : Option Nat := Hex.digitValue (Char.ofNat c.toNat)

theorem nibble_eq (c : Byte) (shift : Nat) :
    nibble c shift = (hexValue c).map fun v => BitVec.ofNat 8 (v <<< shift) := by
  have hvalid : c.toNat.isValidChar := Or.inl (by have := c.isLt; omega)
  have hchar : (Char.ofNat c.toNat).toNat = c.toNat := by
    rw [Char.ofNat, dif_pos hvalid]
    rfl
  unfold nibble hexValue Hex.digitValue
  simp only [hchar]
  split_ifs
  all_goals first
    | omega
    | rfl
    | (rw [Option.map_some]; congr 3; omega)

theorem hexValue_lt {c : Byte} {v : Nat} (h : hexValue c = some v) : v < 16 := by
  unfold hexValue Hex.digitValue at h
  simp only at h
  split_ifs at h <;> simp only [Option.some.injEq] at h <;> omega

/-- Two digits make up a byte. -/
theorem toNat_nibbles : ∀ hi < 16, ∀ lo < 16,
    ((0 ||| BitVec.ofNat 8 (hi <<< 4)) ||| BitVec.ofNat 8 (lo <<< 0)).toNat = 16 * hi + lo := by
  decide

/-- Both digits of a byte have to be there. -/
theorem readMacByte_eq (arg : CString) (i : Nat) :
    readMacByte arg i = (hexValue (arg.char (3 * i))).bind fun hi =>
      (hexValue (arg.char (3 * i + 1))).map fun lo =>
        ((0 : Byte) ||| BitVec.ofNat 8 (hi <<< 4)) ||| BitVec.ofNat 8 (lo <<< 0) := by
  have hsteps : readMacByte arg i = ((nibble (arg.char (3 * i)) 4).map (0 ||| ·)).bind fun high =>
      (nibble (arg.char (3 * i + 1)) 0).map (high ||| ·) := by
    rw [Nat.mul_comm 3 i]
    show List.foldlM _ 0 [0, 1] = _
    simp only [List.foldlM_cons, List.foldlM_nil, bind_pure]
    rfl
  rw [hsteps, nibble_eq, nibble_eq]
  cases hexValue (arg.char (3 * i)) with
  | none => rfl
  | some hi => simp only [Option.map_map, Option.map_some, Option.bind_some, Function.comp_def]

theorem readMacByte_eq_some {arg : CString} {i : Nat} {byte : Byte}
    (h : readMacByte arg i = some byte) :
    ∃ hi lo, hexValue (arg.char (3 * i)) = some hi ∧ hexValue (arg.char (3 * i + 1)) = some lo
      ∧ byte.toNat = 16 * hi + lo := by
  rw [readMacByte_eq, Option.bind_eq_some_iff] at h
  obtain ⟨hi, hhi, h⟩ := h
  obtain ⟨lo, hlo, rfl⟩ := Option.map_eq_some_iff.mp h
  exact ⟨hi, lo, hhi, hlo, toNat_nibbles hi (hexValue_lt hhi) lo (hexValue_lt hlo)⟩

theorem readMacByte_isSome (arg : CString) (i : Nat) :
    (readMacByte arg i).isSome ↔
      (hexValue (arg.char (3 * i))).isSome ∧ (hexValue (arg.char (3 * i + 1))).isSome := by
  rw [readMacByte_eq]
  cases hexValue (arg.char (3 * i)) with
  | none => simp
  | some hi => simp

/-- A loop that sets one element after the other, and may give up. -/
theorem foldlM_set_eq_some {α : Type} {n : Nat} {f : Fin n → Option α} :
    ∀ {is : List (Fin n)} {v v' : Vector α n},
      is.foldlM (fun v i => (f i).map (v.set i · i.isLt)) v = some v' →
        ∀ j : Fin n, if j ∈ is then f j = some (v'.get j) else v'.get j = v.get j
  | [], v, v', h, j => by
    cases h
    simp
  | i :: is, v, v', h, j => by
    rw [List.foldlM_cons] at h
    cases hf : f i with
    | none => rw [hf] at h; cases h
    | some a =>
      rw [hf] at h
      have ih := foldlM_set_eq_some h j
      -- a later step for `j` decides; if there is none, the step for `i` may be it
      by_cases hj : j ∈ is
      · rw [if_pos hj] at ih
        rw [if_pos (List.mem_cons_of_mem _ hj), ih]
      · rw [if_neg hj] at ih
        by_cases hij : i = j
        · subst hij
          rw [if_pos List.mem_cons_self, hf, ih, vector_get_set, if_pos rfl]
        · have hnot : j ∉ i :: is := by
            rw [List.mem_cons]
            exact fun h => h.elim (fun h => hij h.symm) hj
          rw [if_neg hnot, ih, vector_get_set, if_neg hij]

/-- It gives up if there is no value for some element. -/
theorem foldlM_set_isSome {α : Type} {n : Nat} {f : Fin n → Option α} :
    ∀ (is : List (Fin n)) (v : Vector α n),
      (is.foldlM (fun v i => (f i).map (v.set i · i.isLt)) v).isSome ↔ ∀ i ∈ is, (f i).isSome
  | [], v => by simp
  | i :: is, v => by
    rw [List.foldlM_cons, List.forall_mem_cons]
    cases f i with
    | none => simp
    | some a => simpa using foldlM_set_isSome is (v.set i a i.isLt)

/-- **Every byte of the address is the number its two digits denote.** -/
theorem readMacAddress_eq_some {arg : CString} {old macAddress : Vector Byte 6}
    (h : readMacAddress arg old = some macAddress) (i : Fin 6) :
    ∃ hi lo, hexValue (arg.char (3 * i)) = some hi ∧ hexValue (arg.char (3 * i + 1)) = some lo
      ∧ (macAddress.get i).toNat = 16 * hi + lo := by
  have hbyte := foldlM_set_eq_some h i
  rw [if_pos (List.mem_finRange i)] at hbyte
  exact readMacByte_eq_some hbyte

/-- An address is read exactly if all twelve digits are there. -/
theorem readMacAddress_isSome (arg : CString) (old : Vector Byte 6) :
    (readMacAddress arg old).isSome ↔ ∀ i < 6,
      (hexValue (arg.char (3 * i))).isSome ∧ (hexValue (arg.char (3 * i + 1))).isSome := by
  rw [readMacAddress, foldlM_set_isSome]
  simp only [readMacByte_isSome]
  exact ⟨fun h i hi => h ⟨i, hi⟩ (List.mem_finRange _), fun h i _ => h i i.isLt⟩

end Libreboot.Ich9gen
