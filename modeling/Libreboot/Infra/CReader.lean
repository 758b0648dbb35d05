import Mathlib.Data.List.Nodup
import Libreboot.Infra.CProgram
import Libreboot.Infra.CTokens

/-!
# Reading straight-line C functions

The inverse of `Stmt.render`: expressions and statements are read from the tokens of a text, with
the precedences of C. A reader gives nothing for a text that it does not understand, among them
texts that C allows, such as chains of operators of one level.

Members are found by their names in a list of places, the members of the struct that the function
fills.
-/

namespace Libreboot.Infra.CText

/-! ## Tokens that are expected -/

/-- The tokens of a text. -/
def tokens (text : String) : List Token := lex (letters text)

def dropTokens : List Token → List Token → Option (List Token)
  | [], ts => some ts
  | _ :: _, [] => none
  | t :: expected, u :: ts => if t = u then dropTokens expected ts else none

/-- What follows on a text. -/
def skip (text : String) (ts : List Token) : Option (List Token) := dropTokens (tokens text) ts

theorem dropTokens_append : ∀ expected ts : List Token,
    dropTokens expected (expected ++ ts) = some ts
  | [], _ => rfl
  | t :: expected, ts => by
    rw [List.cons_append, dropTokens, if_pos rfl, dropTokens_append]

@[simp] theorem skip_tokens (text : String) (ts : List Token) :
    skip text (tokens text ++ ts) = some ts := dropTokens_append _ ts

theorem skip_of_head_ne {text : String} {t u : Token} {expected ts : List Token}
    (htext : tokens text = t :: expected) (hne : t ≠ u) : skip text (u :: ts) = none := by
  rw [skip, htext, dropTokens, if_neg hne]

/-! ## Numbers -/

/-- A decimal numeral is the one that is written for its number. -/
def readDecimal (t : Token) : Option Nat :=
  if Nat.toDigits 10 (Nat.ofDigitChars 10 t 0) = t then some (Nat.ofDigitChars 10 t 0) else none

theorem readDecimal_toDigits (n : Nat) : readDecimal (Nat.toDigits 10 n) = some n := by
  rw [readDecimal, Nat.ofDigitChars_ten_toDigits, if_pos rfl]

section Expr

variable {ι : Type} (names : List ι) (name : ι → String)

/-- Digits behind `0x`. -/
def IsHex (digits : List Char) : Prop := digits ≠ [] ∧ ∀ c ∈ digits, (Hex.digitValue c).isSome

instance (digits : List Char) : Decidable (IsHex digits) :=
  @instDecidableAnd _ _ inferInstance (List.decidableBAll _ digits)

def readNumber : Token → Option (Expr ι)
  | '0' :: 'x' :: digits => if IsHex digits then some (.hex digits) else none
  | t => (readDecimal t).map .dec

/-! ## Expressions -/

/-- The levels of the grammar, from the loosest to the tightest. -/
inductive Level
  | cond
  | shift
  | sum
  | prime

def readName (ts : List Token) : Option (Expr ι × List Token) :=
  names.findSome? fun a => (skip (name a) ts).map fun rest => (.atom a, rest)

def readExpr : Nat → Level → List Token → Option (Expr ι × List Token)
  | 0, _, _ => none
  | fuel + 1, .cond, ts => do
    let (c, ts) ← readExpr fuel .shift ts
    match skip "?" ts with
    | none => some (c, ts)
    | some ts =>
      let (a, ts) ← readExpr fuel .cond ts
      let (b, ts) ← readExpr fuel .cond (← skip ":" ts)
      some (.cond c a b, ts)
  | fuel + 1, .shift, ts => do
    let (a, ts) ← readExpr fuel .sum ts
    match skip ">>" ts with
    | none => some (a, ts)
    | some ts =>
      let (b, ts) ← readExpr fuel .sum ts
      some (.shr a b, ts)
  | fuel + 1, .sum, ts => do
    let (a, ts) ← readExpr fuel .prime ts
    match skip "+" ts, skip "-" ts with
    | some ts, _ =>
      let (b, ts) ← readExpr fuel .prime ts
      some (.add a b, ts)
    | none, some ts =>
      let (b, ts) ← readExpr fuel .prime ts
      some (.sub a b, ts)
    | none, none => some (a, ts)
  | fuel + 1, .prime, ts =>
    match skip "(" ts, ts with
    | some ts, _ => do
      let (a, ts) ← readExpr fuel .cond ts
      some (.paren a, ← skip ")" ts)
    | none, [] => none
    | none, t :: rest =>
      match readNumber t with
      | some e => some (e, rest)
      | none => readName names name (t :: rest)

/-! ### The levels -/

section Levels

variable (fuel : Nat) (ts : List Token)

theorem readExpr_succ_cond : readExpr names name (fuel + 1) .cond ts = (do
    let (c, ts) ← readExpr names name fuel .shift ts
    match skip "?" ts with
    | none => some (c, ts)
    | some ts =>
      let (a, ts) ← readExpr names name fuel .cond ts
      let (b, ts) ← readExpr names name fuel .cond (← skip ":" ts)
      some (.cond c a b, ts)) := rfl

theorem readExpr_succ_shift : readExpr names name (fuel + 1) .shift ts = (do
    let (a, ts) ← readExpr names name fuel .sum ts
    match skip ">>" ts with
    | none => some (a, ts)
    | some ts =>
      let (b, ts) ← readExpr names name fuel .sum ts
      some (.shr a b, ts)) := rfl

theorem readExpr_succ_sum : readExpr names name (fuel + 1) .sum ts = (do
    let (a, ts) ← readExpr names name fuel .prime ts
    match skip "+" ts, skip "-" ts with
    | some ts, _ =>
      let (b, ts) ← readExpr names name fuel .prime ts
      some (.add a b, ts)
    | none, some ts =>
      let (b, ts) ← readExpr names name fuel .prime ts
      some (.sub a b, ts)
    | none, none => some (a, ts)) := rfl

theorem readExpr_succ_prime : readExpr names name (fuel + 1) .prime ts
    = (match skip "(" ts, ts with
      | some ts, _ => do
        let (a, ts) ← readExpr names name fuel .cond ts
        some (.paren a, ← skip ")" ts)
      | none, [] => none
      | none, t :: rest =>
        match readNumber t with
        | some e => some (e, rest)
        | none => readName names name (t :: rest)) := rfl

end Levels

end Expr

/-! ## Statements -/

/-- A member that a text can name. -/
inductive Place (σ : Type)
  | scalar {w : Nat} (lv : LValue σ (BitVec w))
  | array {n w : Nat} (lv : LValue σ (Vector (BitVec w) n))

namespace Place

variable {σ τ : Type}

def text : Place σ → String
  | scalar lv => lv.text
  | array lv => lv.text

/-- The same member, of the part `lv` of a larger variable. -/
def within (lv : LValue τ σ) : Place σ → Place τ
  | scalar m => scalar (lv.dot m)
  | array m => array (lv.dot m)

def find (places : List (Place σ)) (t : Token) : Option (Place σ) :=
  places.find? fun p => letters p.text = t

end Place

section Stmt

variable {σ ι : Type} (places : List (Place σ)) (names : List ι) (name : ι → String)

/-- Enough for an expression at the beginning of these tokens. -/
def fuelFor (ts : List Token) : Nat := 4 * ts.length + 4

def readAssignment (ts : List Token) : Option (Stmt σ ι × List Token) :=
  match ts with
  | [] => none
  | t :: ts =>
    match Place.find places t with
    | none => none
    | some (.scalar lv) => do
      let ts ← skip "=" ts
      let (e, ts) ← readExpr names name (fuelFor ts) .cond ts
      some (.assign lv e "", ← skip ";" ts)
    | some (@Place.array _ n _ lv) =>
      match skip "[" ts with
      | some (i :: ts) => do
        let i ← readDecimal i
        if h : i < n then
          let ts ← skip "] =" ts
          let (e, ts) ← readExpr names name (fuelFor ts) .cond ts
          some (.assign (lv.elem ⟨i, h⟩) e "", ← skip ";" ts)
        else none
      | _ => none

/-- `for (i = 0; i < n; i++) { … }`, when the loop goes through the whole array. -/
def readLoop (ts : List Token) : Option (Stmt σ ι × List Token) :=
  match skip "for (i = 0; i <" ts with
  | some (bound :: ts) => do
    let bound ← readDecimal bound
    match skip "; i++) \x7b" ts with
    | some (t :: ts) =>
      match Place.find places t with
      | some (@Place.array _ n _ lv) =>
        if bound = n then do
          let ts ← skip "[i] =" ts
          let (e, ts) ← readExpr names name (fuelFor ts) .cond ts
          some (.fill lv e, ← skip "; \x7d" ts)
        else none
      | _ => none
    | _ => none
  | _ => none

def readStmt (ts : List Token) : Option (Stmt σ ι × List Token) :=
  match skip "for" ts with
  | some _ => readLoop places names name ts
  | none => readAssignment places names name ts

/-- Statements up to the `return`. -/
def readBlock : Nat → List Token → Option (List (Stmt σ ι) × List Token)
  | 0, _ => none
  | fuel + 1, ts =>
    match skip "return" ts with
    | some _ => some ([], ts)
    | none => do
      let (c, ts) ← readStmt places names name ts
      let (p, ts) ← readBlock fuel ts
      some (c :: p, ts)

/-- A function with this head, and this end behind its statements. -/
def readFunction (head foot : String) (ts : List Token) :
    Option (List (Stmt σ ι) × List Token) := do
  let ts ← skip head ts
  let (p, ts) ← readBlock places names name (ts.length + 1) ts
  some (p, ← skip foot ts)

end Stmt

end Libreboot.Infra.CText
