import Libreboot.Infra.CReader

/-!
# Printed expressions are read back

An expression is read back if its operators stand where the grammar has them, which `Fits` says.

* `readExpr_tokens` — the tokens of an expression are read back
* `lexes_text` — they are the tokens of its text
-/

namespace Libreboot.Infra

open CText

/-! ## The tokens of expressions -/

namespace Expr

variable {ι : Type}

def tokens (name : ι → String) : Expr ι → List Token
  | hex digits => ['0' :: 'x' :: digits]
  | dec n => [Nat.toDigits 10 n]
  | atom a => CText.tokens (name a)
  | add a b => a.tokens name ++ (CText.tokens "+" ++ b.tokens name)
  | sub a b => a.tokens name ++ (CText.tokens "-" ++ b.tokens name)
  | shr a b => a.tokens name ++ (CText.tokens ">>" ++ b.tokens name)
  | cond c a b =>
    c.tokens name ++ (CText.tokens "?" ++ (a.tokens name ++ (CText.tokens ":" ++ b.tokens name)))
  | paren a => CText.tokens "(" ++ (a.tokens name ++ CText.tokens ")")

/-- The number of operators and operands. -/
def size : Expr ι → Nat
  | hex _ => 1
  | dec _ => 1
  | atom _ => 1
  | add a b => a.size + b.size + 1
  | sub a b => a.size + b.size + 1
  | shr a b => a.size + b.size + 1
  | cond c a b => c.size + a.size + b.size + 1
  | paren a => a.size + 1

end Expr

namespace CText

def Level.rank : Level → Nat
  | prime => 0
  | sum => 1
  | shift => 2
  | cond => 3

variable {ι : Type}

/-- Nothing that is printed needs brackets that are not there. -/
def Fits (names : List ι) : Level → Expr ι → Prop
  | _, .hex digits => IsHex digits
  | _, .dec _ => True
  | _, .atom a => a ∈ names
  | l, .add a b => 1 ≤ l.rank ∧ Fits names .prime a ∧ Fits names .prime b
  | l, .sub a b => 1 ≤ l.rank ∧ Fits names .prime a ∧ Fits names .prime b
  | l, .shr a b => 2 ≤ l.rank ∧ Fits names .sum a ∧ Fits names .sum b
  | l, .cond c a b => 3 ≤ l.rank ∧ Fits names .shift c ∧ Fits names .cond a ∧ Fits names .cond b
  | _, .paren a => Fits names .cond a

instance Fits.decidable [DecidableEq ι] (names : List ι) : ∀ (l : Level) (e : Expr ι),
    Decidable (Fits names l e)
  | _, .hex digits => inferInstanceAs (Decidable (IsHex digits))
  | _, .dec _ => inferInstanceAs (Decidable True)
  | _, .atom a => inferInstanceAs (Decidable (a ∈ names))
  | l, .add a b =>
    have := Fits.decidable names .prime a
    have := Fits.decidable names .prime b
    inferInstanceAs (Decidable (1 ≤ l.rank ∧ Fits names .prime a ∧ Fits names .prime b))
  | l, .sub a b =>
    have := Fits.decidable names .prime a
    have := Fits.decidable names .prime b
    inferInstanceAs (Decidable (1 ≤ l.rank ∧ Fits names .prime a ∧ Fits names .prime b))
  | l, .shr a b =>
    have := Fits.decidable names .sum a
    have := Fits.decidable names .sum b
    inferInstanceAs (Decidable (2 ≤ l.rank ∧ Fits names .sum a ∧ Fits names .sum b))
  | l, .cond c a b =>
    have := Fits.decidable names .shift c
    have := Fits.decidable names .cond a
    have := Fits.decidable names .cond b
    inferInstanceAs
      (Decidable (3 ≤ l.rank ∧ Fits names .shift c ∧ Fits names .cond a ∧ Fits names .cond b))
  | _, .paren a => Fits.decidable names .cond a

/-- Nothing follows with which an expression of this level goes on. -/
def Stops : Level → List Token → Prop
  | .prime, _ => True
  | .sum, ts => skip "+" ts = none ∧ skip "-" ts = none
  | .shift, ts => (skip "+" ts = none ∧ skip "-" ts = none) ∧ skip ">>" ts = none
  | .cond, ts =>
    ((skip "+" ts = none ∧ skip "-" ts = none) ∧ skip ">>" ts = none) ∧ skip "?" ts = none

/-- The names begin with different tokens, and none of these is a number or a bracket. -/
structure Distinct (names : List ι) (name : ι → String) : Prop where
  heads : (names.map fun a => (tokens (name a)).head?).Nodup
  other : ∀ a ∈ names, ∃ t ts, tokens (name a) = t :: ts ∧ t ≠ ['(']
    ∧ (readNumber t : Option (Expr ι)).isNone
  lexes : ∀ a ∈ names, Lexes (letters (name a)) (tokens (name a))

variable {names : List ι} {name : ι → String}

theorem tokens_plus : tokens "+" = [['+']] := by decide
theorem tokens_minus : tokens "-" = [['-']] := by decide
theorem tokens_shift : tokens ">>" = [['>', '>']] := by decide
theorem tokens_question : tokens "?" = [['?']] := by decide
theorem tokens_colon : tokens ":" = [[':']] := by decide
theorem tokens_open : tokens "(" = [['(']] := by decide
theorem tokens_close : tokens ")" = [[')']] := by decide

/-- A token that is no operator. -/
theorem stops_cons {t : Token} (h : t ∉ [['+'], ['-'], ['>', '>'], ['?']]) (l : Level)
    (ts : List Token) : Stops l (t :: ts) := by
  simp only [List.mem_cons, List.not_mem_nil, or_false, not_or] at h
  have hplus : skip "+" (t :: ts) = none := skip_of_head_ne tokens_plus (Ne.symm h.1)
  have hminus : skip "-" (t :: ts) = none := skip_of_head_ne tokens_minus (Ne.symm h.2.1)
  have hshift : skip ">>" (t :: ts) = none := skip_of_head_ne tokens_shift (Ne.symm h.2.2.1)
  have hquestion : skip "?" (t :: ts) = none := skip_of_head_ne tokens_question (Ne.symm h.2.2.2)
  cases l with
  | prime => trivial
  | sum => exact ⟨hplus, hminus⟩
  | shift => exact ⟨⟨hplus, hminus⟩, hshift⟩
  | cond => exact ⟨⟨⟨hplus, hminus⟩, hshift⟩, hquestion⟩

/-! ## From one level to the next -/

section Levels

variable {fuel : Nat} {ts rest : List Token} {e : Expr ι}

theorem readExpr_sum (h : readExpr names name fuel .prime ts = some (e, rest))
    (hstops : Stops .sum rest) : readExpr names name (fuel + 1) .sum ts = some (e, rest) := by
  simp only [readExpr_succ_sum, h, Option.bind_eq_bind, Option.bind_some, hstops.1, hstops.2]

theorem readExpr_shift (h : readExpr names name fuel .sum ts = some (e, rest))
    (hstops : Stops .shift rest) : readExpr names name (fuel + 1) .shift ts = some (e, rest) := by
  simp only [readExpr_succ_shift, h, Option.bind_eq_bind, Option.bind_some, hstops.2]

theorem readExpr_cond (h : readExpr names name fuel .shift ts = some (e, rest))
    (hstops : Stops .cond rest) : readExpr names name (fuel + 1) .cond ts = some (e, rest) := by
  simp only [readExpr_succ_cond, h, Option.bind_eq_bind, Option.bind_some, hstops.2]

theorem readExpr_of_shift {l : Level} (h : readExpr names name fuel .shift ts = some (e, rest))
    (hl : 2 ≤ l.rank) (hstops : Stops l rest) :
    readExpr names name (fuel + (l.rank - 2)) l ts = some (e, rest) := by
  cases l with
  | prime => exact absurd hl (by decide)
  | sum => exact absurd hl (by decide)
  | shift => exact h
  | cond => exact readExpr_cond h hstops

theorem readExpr_of_sum {l : Level} (h : readExpr names name fuel .sum ts = some (e, rest))
    (hl : 1 ≤ l.rank) (hstops : Stops l rest) :
    readExpr names name (fuel + (l.rank - 1)) l ts = some (e, rest) := by
  cases l with
  | prime => exact absurd hl (by decide)
  | sum => exact h
  | shift => exact readExpr_shift h hstops
  | cond => exact readExpr_cond (readExpr_shift h hstops.1) hstops

theorem readExpr_of_prime {l : Level} (h : readExpr names name fuel .prime ts = some (e, rest))
    (hstops : Stops l rest) :
    readExpr names name (fuel + l.rank) l ts = some (e, rest) := by
  cases l with
  | prime => exact h
  | sum => exact readExpr_sum h hstops
  | shift => exact readExpr_shift (readExpr_sum h hstops.1) hstops
  | cond => exact readExpr_cond (readExpr_shift (readExpr_sum h hstops.1.1) hstops.1) hstops

/-- With enough fuel an operand is read at every level. -/
theorem readExpr_operand {l : Level} (h : ∀ k, readExpr names name (k + 1) .prime ts = some (e, rest))
    (hstops : Stops l rest) (hfuel : 1 + l.rank ≤ fuel) :
    readExpr names name fuel l ts = some (e, rest) := by
  obtain ⟨k, rfl⟩ : ∃ k, fuel = k + 1 + l.rank := ⟨fuel - 1 - l.rank, by omega⟩
  exact readExpr_of_prime (h k) hstops

end Levels

/-! ## Operands -/

theorem readName_tokens (hnames : Distinct names name) {a : ι} (ha : a ∈ names)
    (rest : List Token) : readName names name (tokens (name a) ++ rest) = some (.atom a, rest) := by
  obtain ⟨before, after, rfl⟩ := List.append_of_mem ha
  have hbefore : ∀ b ∈ before, skip (name b) (tokens (name a) ++ rest) = none := by
    intro b hb
    have hmem : b ∈ before ++ a :: after := List.mem_append_left _ hb
    obtain ⟨t, ts, ht, -, -⟩ := hnames.other b hmem
    obtain ⟨u, us, hu, -, -⟩ := hnames.other a ha
    rw [hu, List.cons_append]
    refine skip_of_head_ne ht fun heq => ?_
    have hnodup := hnames.heads
    rw [List.map_append, List.nodup_append] at hnodup
    refine hnodup.2.2 _ (List.mem_map_of_mem hb) _ (List.mem_map_of_mem List.mem_cons_self) ?_
    rw [ht, hu, List.head?_cons, List.head?_cons, heq]
  have hnone : before.findSome? (fun b => (skip (name b) (tokens (name a) ++ rest)).map
      fun rest => ((.atom b : Expr ι), rest)) = none :=
    List.findSome?_eq_none_iff.mpr fun b hb => by rw [hbefore b hb, Option.map_none]
  rw [readName, List.findSome?_append, hnone, List.findSome?_cons, skip_tokens]
  rfl

theorem readNumber_hex {digits : List Char} (h : IsHex digits) :
    readNumber ('0' :: 'x' :: digits) = some (.hex digits : Expr ι) := if_pos h

/-- The digits of a decimal numeral. -/
theorem isDigit_toDigits (n : Nat) : ∀ c ∈ Nat.toDigits 10 n, c.isDigit = true := by
  intro c hc
  exact Nat.isDigit_of_mem_toDigits (b := 10) (by decide) (by decide) hc

theorem readNumber_dec (n : Nat) : readNumber (Nat.toDigits 10 n) = some (.dec n : Expr ι) := by
  have hdec := readDecimal_toDigits n
  unfold readNumber
  split
  · next digits heq =>
    have hx := isDigit_toDigits n 'x' (by rw [heq]; simp)
    exact absurd hx (by decide)
  · rw [hdec]
    rfl

theorem readExpr_number {t : Token} {e : Expr ι} (h : readNumber t = some e) (ht : t ≠ ['('])
    (fuel : Nat) (rest : List Token) :
    readExpr names name (fuel + 1) .prime (t :: rest) = some (e, rest) := by
  have hopen : skip "(" (t :: rest) = none := skip_of_head_ne tokens_open ht.symm
  simp only [readExpr_succ_prime, hopen, h]

theorem readExpr_atom (hnames : Distinct names name) {a : ι} (ha : a ∈ names) (fuel : Nat)
    (rest : List Token) : readExpr names name (fuel + 1) .prime (tokens (name a) ++ rest)
      = some (.atom a, rest) := by
  have hread := readName_tokens hnames ha rest
  obtain ⟨t, ts, ht, hne, hnumber⟩ := hnames.other a ha
  rw [ht, List.cons_append] at hread ⊢
  have hopen : skip "(" (t :: (ts ++ rest)) = none := skip_of_head_ne tokens_open hne.symm
  simp only [readExpr_succ_prime, hopen, Option.isNone_iff_eq_none.mp hnumber, hread]

/-! ## Expressions -/

/-! ### What ends an operand -/

theorem stops_shift (ts : List Token) : Stops .sum (tokens ">>" ++ ts) := by
  rw [tokens_shift]
  exact ⟨skip_of_head_ne tokens_plus (by decide), skip_of_head_ne tokens_minus (by decide)⟩

theorem stops_question (ts : List Token) : Stops .shift (tokens "?" ++ ts) := by
  rw [tokens_question]
  exact ⟨⟨skip_of_head_ne tokens_plus (by decide), skip_of_head_ne tokens_minus (by decide)⟩,
    skip_of_head_ne tokens_shift (by decide)⟩

theorem stops_colon (ts : List Token) : Stops .cond (tokens ":" ++ ts) := by
  rw [tokens_colon]
  exact stops_cons (by decide) .cond ts

theorem stops_close (ts : List Token) : Stops .cond (tokens ")" ++ ts) := by
  rw [tokens_close]
  exact stops_cons (by decide) .cond ts

/-- What ends a looser level ends a sum. -/
theorem Stops.sum {l : Level} {ts : List Token} (h : Stops l ts) (hl : 1 ≤ l.rank) :
    Stops .sum ts := by
  cases l with
  | prime => exact absurd hl (by decide)
  | sum => exact h
  | shift => exact h.1
  | cond => exact h.1.1

section Operators

variable {fuel : Nat} {ts us rest : List Token} {a b c : Expr ι}

theorem readExpr_add (ha : readExpr names name fuel .prime ts = some (a, tokens "+" ++ us))
    (hb : readExpr names name fuel .prime us = some (b, rest)) :
    readExpr names name (fuel + 1) .sum ts = some (.add a b, rest) := by
  simp only [readExpr_succ_sum, ha, Option.bind_eq_bind, Option.bind_some, skip_tokens, hb]

theorem readExpr_sub (ha : readExpr names name fuel .prime ts = some (a, tokens "-" ++ us))
    (hb : readExpr names name fuel .prime us = some (b, rest)) :
    readExpr names name (fuel + 1) .sum ts = some (.sub a b, rest) := by
  have hplus : skip "+" (tokens "-" ++ us) = none :=
    skip_of_head_ne tokens_plus (by decide)
  simp only [readExpr_succ_sum, ha, Option.bind_eq_bind, Option.bind_some, skip_tokens, hplus, hb]

theorem readExpr_shr (ha : readExpr names name fuel .sum ts = some (a, tokens ">>" ++ us))
    (hb : readExpr names name fuel .sum us = some (b, rest)) :
    readExpr names name (fuel + 1) .shift ts = some (.shr a b, rest) := by
  simp only [readExpr_succ_shift, ha, Option.bind_eq_bind, Option.bind_some, skip_tokens, hb]

theorem readExpr_choice {vs : List Token}
    (hc : readExpr names name fuel .shift ts = some (c, tokens "?" ++ us))
    (ha : readExpr names name fuel .cond us = some (a, tokens ":" ++ vs))
    (hb : readExpr names name fuel .cond vs = some (b, rest)) :
    readExpr names name (fuel + 1) .cond ts = some (.cond c a b, rest) := by
  simp only [readExpr_succ_cond, hc, Option.bind_eq_bind, Option.bind_some, skip_tokens, ha, hb]

theorem readExpr_paren (ha : readExpr names name fuel .cond ts = some (a, tokens ")" ++ rest)) :
    readExpr names name (fuel + 1) .prime (tokens "(" ++ ts) = some (.paren a, rest) := by
  simp only [readExpr_succ_prime, skip_tokens, ha, Option.bind_eq_bind, Option.bind_some]

end Operators

/-- **A printed expression is read back.** -/
theorem readExpr_tokens (hnames : Distinct names name) :
    ∀ (e : Expr ι) (l : Level) (fuel : Nat) (rest : List Token), Fits names l e → Stops l rest →
      4 * e.size + l.rank ≤ fuel + 3 →
        readExpr names name fuel l (e.tokens name ++ rest) = some (e, rest) := by
  intro e
  induction e with
  | hex digits =>
    intro l fuel rest hfits hstops hfuel
    simp only [Expr.size] at hfuel
    exact readExpr_operand (fun k => readExpr_number (readNumber_hex hfits) (by simp) k rest) hstops
      (by omega)
  | dec n =>
    intro l fuel rest hfits hstops hfuel
    simp only [Expr.size] at hfuel
    have hopen : Nat.toDigits 10 n ≠ ['('] := by
      intro heq
      have hdigit := isDigit_toDigits n '(' (by rw [heq]; simp)
      exact absurd hdigit (by decide)
    exact readExpr_operand (fun k => readExpr_number (readNumber_dec n) hopen k rest) hstops
      (by omega)
  | atom a =>
    intro l fuel rest hfits hstops hfuel
    simp only [Expr.size] at hfuel
    exact readExpr_operand (fun k => readExpr_atom hnames hfits k rest) hstops (by omega)
  | add a b iha ihb =>
    intro l fuel rest hfits hstops hfuel
    obtain ⟨hl, ha, hb⟩ := hfits
    simp only [Expr.size] at hfuel
    obtain ⟨k, rfl⟩ : ∃ k, fuel = k + 1 + (l.rank - 1) := ⟨fuel - l.rank, by omega⟩
    rw [Expr.tokens, List.append_assoc, List.append_assoc]
    exact readExpr_of_sum (readExpr_add
      (iha .prime k _ ha trivial (by simp only [Level.rank]; omega))
      (ihb .prime k rest hb trivial (by simp only [Level.rank]; omega))) hl hstops
  | sub a b iha ihb =>
    intro l fuel rest hfits hstops hfuel
    obtain ⟨hl, ha, hb⟩ := hfits
    simp only [Expr.size] at hfuel
    obtain ⟨k, rfl⟩ : ∃ k, fuel = k + 1 + (l.rank - 1) := ⟨fuel - l.rank, by omega⟩
    rw [Expr.tokens, List.append_assoc, List.append_assoc]
    exact readExpr_of_sum (readExpr_sub
      (iha .prime k _ ha trivial (by simp only [Level.rank]; omega))
      (ihb .prime k rest hb trivial (by simp only [Level.rank]; omega))) hl hstops
  | shr a b iha ihb =>
    intro l fuel rest hfits hstops hfuel
    obtain ⟨hl, ha, hb⟩ := hfits
    simp only [Expr.size] at hfuel
    obtain ⟨k, rfl⟩ : ∃ k, fuel = k + 1 + (l.rank - 2) := ⟨fuel - 1 - (l.rank - 2), by omega⟩
    rw [Expr.tokens, List.append_assoc, List.append_assoc]
    exact readExpr_of_shift (readExpr_shr
      (iha .sum k _ ha (stops_shift _) (by simp only [Level.rank]; omega))
      (ihb .sum k rest hb (hstops.sum (by omega)) (by simp only [Level.rank]; omega))) hl hstops
  | cond c a b ihc iha ihb =>
    intro l fuel rest hfits hstops hfuel
    obtain ⟨hl, hc, ha, hb⟩ := hfits
    simp only [Expr.size] at hfuel
    have hlevel : l = .cond := by
      cases l with
      | cond => rfl
      | prime => exact absurd hl (by decide)
      | sum => exact absurd hl (by decide)
      | shift => exact absurd hl (by decide)
    subst hlevel
    obtain ⟨k, rfl⟩ : ∃ k, fuel = k + 1 := ⟨fuel - 1, by simp only [Level.rank] at hfuel; omega⟩
    simp only [Level.rank] at hfuel
    simp only [Expr.tokens, List.append_assoc]
    exact readExpr_choice
      (ihc .shift k _ hc (stops_question _) (by simp only [Level.rank]; omega))
      (iha .cond k _ ha (stops_colon _) (by simp only [Level.rank]; omega))
      (ihb .cond k rest hb hstops (by simp only [Level.rank]; omega))
  | paren a iha =>
    intro l fuel rest hfits hstops hfuel
    simp only [Expr.size] at hfuel
    obtain ⟨k, rfl⟩ : ∃ k, fuel = k + 1 + l.rank := ⟨fuel - 1 - l.rank, by omega⟩
    rw [Expr.tokens, List.append_assoc, List.append_assoc]
    exact readExpr_of_prime (readExpr_paren
      (iha .cond k _ hfits (stops_close _) (by simp only [Level.rank]; omega))) hstops

/-! ## The text of expressions -/

theorem kind_hex {c : Char} (h : (Hex.digitValue c).isSome) : kind c = .word ∧ c.toNat < 128 := by
  have hall : ∀ n < 128, (Hex.digitValue (Char.ofNat n)).isSome → kind (Char.ofNat n) = .word := by
    decide +kernel
  have hlt : c.toNat < 128 := by
    unfold Hex.digitValue at h
    by_contra hge
    rw [if_neg (by omega), if_neg (by omega), if_neg (by omega)] at h
    cases h
  have hword := hall c.toNat hlt
  rw [Char.ofNat_toNat] at hword
  exact ⟨hword h, hlt⟩

theorem kind_digit {c : Char} (h : c.isDigit = true) : kind c = .word ∧ c.toNat < 128 := by
  have hall : ∀ n < 128, (Char.ofNat n).isDigit = true → kind (Char.ofNat n) = .word := by
    decide +kernel
  have hlt : c.toNat < 128 := by
    have hle : c.toNat ≤ 57 := (Char.isDigit_iff_toNat.mp h).2
    omega
  have hword := hall c.toNat hlt
  rw [Char.ofNat_toNat] at hword
  exact ⟨hword h, hlt⟩

theorem letters_hex {digits : List Char} (h : IsHex digits) :
    letters (String.ofList digits) = digits :=
  letters_ofList fun c hc => (kind_hex (h.2 c hc)).2

/-- A hexadecimal number is one token. -/
theorem lexes_hex {digits : List Char} (h : IsHex digits) :
    Lexes (letters ("0x" ++ String.ofList digits)) ['0' :: 'x' :: digits] := by
  have hletters : letters ("0x" ++ String.ofList digits) = '0' :: 'x' :: digits := by
    rw [letters_append, letters_hex h]
    rfl
  rw [hletters]
  refine lexes_word ⟨by simp, fun c hc => ?_⟩
  rcases List.mem_cons.mp hc with rfl | hc
  · decide
  rcases List.mem_cons.mp hc with rfl | hc
  · decide
  exact (kind_hex (h.2 c hc)).1

theorem letters_toString (n : Nat) : letters (toString n) = Nat.toDigits 10 n := by
  rw [Nat.toString_eq_ofList_toDigits]
  exact letters_ofList fun c hc =>
    (kind_digit (isDigit_toDigits n c hc)).2

/-- A decimal number is one token. -/
theorem lexes_dec (n : Nat) : Lexes (letters (toString n)) [Nat.toDigits 10 n] := by
  rw [letters_toString]
  exact lexes_word ⟨Nat.toDigits_ne_nil, fun c hc => (kind_digit (isDigit_toDigits n c hc)).1⟩

/-- Two texts with an operator and its blanks between them. -/
theorem lexes_operator {a b op : String} {s t u : List Token}
    (ha : Lexes (letters a) s) (hb : Lexes (letters b) t)
    (hop : Separates (letters op) u) :
    Lexes (letters (a ++ op ++ b)) (s ++ (u ++ t)) := by
  rw [letters_append, letters_append, ← List.append_assoc]
  exact (ha.closed hop).append_lexes hb

/-- The text of an expression has its tokens. -/
theorem lexes_text (hnames : Distinct names name) : ∀ (e : Expr ι) (l : Level), Fits names l e →
    Lexes (letters (e.text name)) (e.tokens name) := by
  intro e
  induction e with
  | hex digits => exact fun l hfits => lexes_hex hfits
  | dec n => exact fun l _ => lexes_dec n
  | atom a => exact fun l hfits => hnames.lexes a hfits
  | add a b iha ihb =>
    exact fun l hfits => lexes_operator (iha _ hfits.2.1) (ihb _ hfits.2.2) (by decide)
  | sub a b iha ihb =>
    exact fun l hfits => lexes_operator (iha _ hfits.2.1) (ihb _ hfits.2.2) (by decide)
  | shr a b iha ihb =>
    exact fun l hfits => lexes_operator (iha _ hfits.2.1) (ihb _ hfits.2.2) (by decide)
  | cond c a b ihc iha ihb =>
    intro l hfits
    have hcolon : Separates (letters " : ") (CText.tokens ":") := by decide
    have hquestion : Separates (letters " ? ") (CText.tokens "?") := by decide
    have htail := lexes_operator (iha _ hfits.2.2.1) (ihb _ hfits.2.2.2) hcolon
    have hall := lexes_operator (ihc _ hfits.2.1) htail hquestion
    simpa only [Expr.text, Expr.tokens, String.append_assoc] using hall
  | paren a iha =>
    intro l hfits
    have hopen : Closed (letters "(") (tokens "(") := by decide
    have hclose : Lexes (letters ")") (tokens ")") := by decide
    rw [Expr.text, Expr.tokens, letters_append, letters_append, List.append_assoc]
    exact hopen.append_lexes ((iha _ hfits).append hclose (by decide))

/-- Every operator and operand has a token of its own. -/
theorem size_le_length (hnames : Distinct names name) : ∀ (e : Expr ι) (l : Level), Fits names l e →
    e.size ≤ (e.tokens name).length := by
  intro e
  induction e with
  | hex digits => exact fun l _ => Nat.le_refl 1
  | dec n => exact fun l _ => Nat.le_refl 1
  | atom a =>
    intro l hfits
    obtain ⟨t, ts, ht, -, -⟩ := hnames.other a hfits
    simp [Expr.tokens, Expr.size, ht]
  | add a b iha ihb =>
    intro l hfits
    have ha := iha _ hfits.2.1
    have hb := ihb _ hfits.2.2
    simp only [Expr.tokens, Expr.size, tokens_plus, List.length_append, List.length_cons]
    omega
  | sub a b iha ihb =>
    intro l hfits
    have ha := iha _ hfits.2.1
    have hb := ihb _ hfits.2.2
    simp only [Expr.tokens, Expr.size, tokens_minus, List.length_append, List.length_cons]
    omega
  | shr a b iha ihb =>
    intro l hfits
    have ha := iha _ hfits.2.1
    have hb := ihb _ hfits.2.2
    simp only [Expr.tokens, Expr.size, tokens_shift, List.length_append, List.length_cons]
    omega
  | cond c a b ihc iha ihb =>
    intro l hfits
    have hc := ihc _ hfits.2.1
    have ha := iha _ hfits.2.2.1
    have hb := ihb _ hfits.2.2.2
    simp only [Expr.tokens, Expr.size, tokens_question, List.length_append, List.length_cons]
    omega
  | paren a iha =>
    intro l hfits
    have ha := iha _ hfits
    simp only [Expr.tokens, Expr.size, tokens_open, List.length_append, List.length_cons]
    omega

/-- What follows does not matter when enough fuel is reckoned from all tokens. -/
theorem readExpr_fuelFor (hnames : Distinct names name) {e : Expr ι} {l : Level}
    (hfits : Fits names l e) {rest : List Token} (hstops : Stops l rest) :
    readExpr names name (fuelFor (e.tokens name ++ rest)) l (e.tokens name ++ rest)
      = some (e, rest) := by
  have hsize := size_le_length hnames e l hfits
  have hrank : l.rank ≤ 3 := by cases l <;> decide
  refine readExpr_tokens hnames e l _ rest hfits hstops ?_
  rw [fuelFor, List.length_append]
  omega

end CText

end Libreboot.Infra
