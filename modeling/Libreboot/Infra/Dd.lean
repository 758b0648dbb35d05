import Libreboot.Infra.Bytes
import Libreboot.Infra.Splice

/-!
# dd

What `dd` reads from its input and writes to its output. The numbers of blocks come from the
arithmetic of the shell, and a negative one ends `dd` before it touches a file. A number of blocks to
skip that reaches beyond the input is no error; nothing is read then.

* `write_eq_splice` — inside of a file, `conv=notrunc` puts a patch over it
* `write_zero` — a write to the beginning of a file
-/

namespace Libreboot.Infra.Dd

/-- The number in `skip=…` or `seek=…`. -/
def operand (n : Int) : Option Nat := if n < 0 then none else some n.toNat

/-- The bytes that are read from `bs=… skip=… count=…`. -/
def read (bs skip count : Nat) (input : Bytes) : Bytes := (input.drop (skip * bs)).take (count * bs)

/-- `conv=notrunc`: the bytes are written over the file, behind zeros if the file is too short. -/
def write (offset : Nat) (data file : Bytes) : Bytes :=
  if data = [] then file
  else file.take offset ++ List.replicate (offset - file.length) 0 ++ data
    ++ file.drop (offset + data.length)

theorem operand_of_nonneg {n : Int} (h : 0 ≤ n) : operand n = some n.toNat := if_neg (by omega)

theorem operand_of_neg {n : Int} (h : n < 0) : operand n = none := if_pos h

variable {offset : Nat} {data file : Bytes}

/-- **A write inside of a file is a patch.** -/
theorem write_eq_splice (h : offset + data.length ≤ file.length) :
    write offset data file = Patch.splice file ⟨offset, data⟩ := by
  have hfill : offset - file.length = 0 := by omega
  unfold write Patch.splice Patch.stop
  split
  · next hnil =>
    subst hnil
    rw [List.length_nil, Nat.add_zero, List.append_nil, List.take_append_drop]
  · rw [hfill, List.replicate_zero, List.append_nil]

/-- A write to the beginning leaves what lies behind it. -/
theorem write_zero (data file : Bytes) : write 0 data file = data ++ file.drop data.length := by
  unfold write
  split
  · next hnil =>
    subst hnil
    rfl
  · rw [List.take_zero, Nat.zero_sub, List.replicate_zero, Nat.zero_add]
    rfl

end Libreboot.Infra.Dd
