import Mathlib.Data.Nat.Notation

/-!
# Hexadecimal numerals

`printf` with `%0Nx` writes at least `N` lower-case digits and never drops a digit; a C literal
`0x…` and a typed-in number are read digit by digit, in either case. Reading back what was
printed gives the number, whatever the width.
-/

namespace Libreboot.Infra.Hex

/-- The digit `printf` writes for a value below 16. -/
def digitChar (d : Nat) : Char :=
  if d < 10 then Char.ofNat (0x30 + d) else Char.ofNat (0x61 + (d - 10))

/-- The value of a hexadecimal digit of either case. -/
def digitValue (c : Char) : Option Nat :=
  let n := c.toNat
  if 0x30 ≤ n ∧ n ≤ 0x39 then some (n - 0x30)
  else if 0x61 ≤ n ∧ n ≤ 0x66 then some (n - 0x61 + 10)
  else if 0x41 ≤ n ∧ n ≤ 0x46 then some (n - 0x41 + 10)
  else none

theorem digitValue_digitChar {d : Nat} (h : d < 16) : digitValue (digitChar d) = some d := by
  have hall : ∀ e ∈ List.range 16, digitValue (digitChar e) = some e := by decide
  exact hall d (List.mem_range.mpr h)

/-- The digits of a number, most significant first (`%x`). -/
def digits (n : Nat) : List Char :=
  if n < 16 then [digitChar n] else digits (n / 16) ++ [digitChar (n % 16)]
termination_by n
decreasing_by exact Nat.div_lt_self (by omega) (by omega)

/-- The digits of a number, filled up with zeros to `width` (`%0Nx`). -/
def padded (width n : Nat) : List Char :=
  List.replicate (width - (digits n).length) '0' ++ digits n

/-- The text `printf` writes for `%0Nx`. -/
def format (width n : Nat) : String := String.ofList (padded width n)

theorem digits_ne_nil (n : Nat) : digits n ≠ [] := by
  rw [digits]
  split
  · exact List.cons_ne_nil _ _
  · exact List.append_ne_nil_of_right_ne_nil _ (List.cons_ne_nil _ _)

theorem isSome_of_mem_digits (n : Nat) : ∀ c ∈ digits n, (digitValue c).isSome := by
  induction n using Nat.strongRecOn with
  | _ n ih =>
    intro c hc
    rw [digits] at hc
    split at hc
    · next h =>
      rw [List.mem_singleton.mp hc, digitValue_digitChar h]
      rfl
    · next h =>
      rcases List.mem_append.mp hc with hfront | hlast
      · exact ih (n / 16) (Nat.div_lt_self (by omega) (by omega)) c hfront
      · rw [List.mem_singleton.mp hlast, digitValue_digitChar (Nat.mod_lt n (by omega))]
        rfl

/-- Everything that is printed is a digit. -/
theorem isSome_of_mem_padded {width n : Nat} {c : Char} (h : c ∈ padded width n) :
    (digitValue c).isSome := by
  rcases List.mem_append.mp h with hzero | hdigit
  · rw [List.eq_of_mem_replicate hzero]
    decide
  · exact isSome_of_mem_digits n c hdigit

/-- One step of reading a numeral from the left. -/
def readDigit (acc : Nat) (c : Char) : Nat := 16 * acc + (digitValue c).getD 0

/-- The number a numeral denotes. -/
def value (l : List Char) : Nat := l.foldl readDigit 0

theorem value_digits (n : Nat) : value (digits n) = n := by
  induction n using Nat.strongRecOn with
  | _ n ih =>
    rw [digits]
    split
    · next h => simp [value, readDigit, digitValue_digitChar h]
    · next h =>
      have hq : n / 16 < n := Nat.div_lt_self (by omega) (by omega)
      have hr : n % 16 < 16 := Nat.mod_lt n (by omega)
      have hvalue : value (digits (n / 16)) = n / 16 := ih (n / 16) hq
      rw [value] at hvalue ⊢
      rw [List.foldl_append, hvalue]
      simp only [List.foldl_cons, List.foldl_nil, readDigit, digitValue_digitChar hr,
        Option.getD_some]
      omega

/-- Leading zeros do not change a numeral. -/
theorem value_replicate_zero : ∀ (k : Nat) (l : List Char),
    value (List.replicate k '0' ++ l) = value l
  | 0, _ => rfl
  | k + 1, l => by
    have h0 : readDigit 0 '0' = 0 := by decide
    have ih := value_replicate_zero k l
    rw [value] at ih ⊢
    rw [List.replicate_succ, List.cons_append, List.foldl_cons, h0, ih]

/-- **A printed number reads back,** at every field width. -/
@[simp] theorem value_padded (width n : Nat) : value (padded width n) = n := by
  rw [padded, value_replicate_zero, value_digits]

end Libreboot.Infra.Hex
