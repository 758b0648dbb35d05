import Libreboot.Infra.Hex
import Libreboot.Infra.Shell

/-!
# Numbers in any base

What `strtoimax` with base 0 makes of a word that has to be a number as a whole. Blanks and a sign may
stand in front of the digits, and `0x` or `0` says which base they have. What does not fit into 64 bits
is cut off. Newer C libraries read `0b` as well, so this is an argument.

* `read_bounds` — the number fits into 64 bits
* `read_hex` — a number that has been printed with `0x%x`
-/

namespace Libreboot.Infra.Strtoimax

open Shell

def isDigit (base : Nat) (c : Char) : Bool := (Hex.digitValue c).any (· < base)

/-- The number that digits denote. -/
def value (base : Nat) (digits : Text) : Nat :=
  digits.foldl (fun number c => base * number + (Hex.digitValue c).getD 0) 0

/-- Digits, and nothing else. -/
def natural (base : Nat) (digits : Text) : Option Nat :=
  if digits ≠ [] ∧ digits.all (isDigit base) then some (value base digits) else none

/-- The base in front of the digits. -/
def unsigned (binary : Bool) : Text → Option Nat
  | '0' :: c :: digits =>
    if c = 'x' ∨ c = 'X' then natural 16 digits
    else if binary ∧ (c = 'b' ∨ c = 'B') then natural 2 digits
    else natural 8 (c :: digits)
  | digits => natural 10 digits

def clamp (number : Int) : Int := max (-0x8000000000000000) (min number 0x7fffffffffffffff)

/-- The sign in front of them. -/
def signed (binary : Bool) : Text → Option Int
  | '-' :: digits => (unsigned binary digits).map fun number : Nat => clamp (-number)
  | '+' :: digits => (unsigned binary digits).map fun number : Nat => clamp number
  | digits => (unsigned binary digits).map fun number : Nat => clamp number

def read (binary : Bool) (word : Text) : Option Int := signed binary (word.dropWhile isSpace)

theorem clamp_bounds (number : Int) :
    -0x8000000000000000 ≤ clamp number ∧ clamp number < 0x8000000000000000 := by
  unfold clamp
  omega

theorem clamp_of_lt {number : Nat} (h : number < 0x8000000000000000) : clamp number = number := by
  unfold clamp
  omega

/-- **The number fits into 64 bits.** -/
theorem read_bounds {binary : Bool} {word : Text} {number : Int}
    (h : read binary word = some number) :
    -0x8000000000000000 ≤ number ∧ number < 0x8000000000000000 := by
  unfold read signed at h
  split at h <;>
  · obtain ⟨digits, -, rfl⟩ := Option.map_eq_some_iff.mp h
    exact clamp_bounds _

theorem isDigit_sixteen {c : Char} (h : (Hex.digitValue c).isSome) : isDigit 16 c = true := by
  obtain ⟨d, hd⟩ := Option.isSome_iff_exists.mp h
  have hlt : d < 16 := by
    unfold Hex.digitValue at hd
    grind
  simp [isDigit, hd, hlt]

/-- **A number that has been printed with `0x%x`** is read back. -/
theorem read_hex (binary : Bool) {width number : Nat} (h : number < 0x8000000000000000) :
    read binary ('0' :: 'x' :: Hex.padded width number) = some (number : Int) := by
  have hne : Hex.padded width number ≠ [] :=
    List.append_ne_nil_of_right_ne_nil _ (Hex.digits_ne_nil number)
  have hall : (Hex.padded width number).all (isDigit 16) = true :=
    List.all_eq_true.mpr fun c hc => isDigit_sixteen (Hex.isSome_of_mem_padded hc)
  have hnatural : natural 16 (Hex.padded width number) = some number := by
    rw [natural, if_pos ⟨hne, hall⟩]
    exact congrArg some (Hex.value_padded width number)
  have hunsigned : unsigned binary ('0' :: 'x' :: Hex.padded width number) = some number := by
    rw [unsigned, if_pos (Or.inl rfl), hnatural]
  have hspace : ¬ isSpace '0' = true := by decide
  rw [read, List.dropWhile_cons_of_neg hspace]
  show (unsigned binary ('0' :: 'x' :: Hex.padded width number)).map (fun n : Nat => clamp n) = _
  rw [hunsigned]
  exact congrArg some (clamp_of_lt h)

example : ["-0X10", "+010", " 10", "", "10 ", "08", "0b1"].map (fun word => read false word.toList)
    = [some (-16), some 8, some 10, none, none, none, none] := by decide

end Libreboot.Infra.Strtoimax
