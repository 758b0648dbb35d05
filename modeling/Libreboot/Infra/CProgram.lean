import Mathlib.Data.List.FinRange
import Mathlib.Data.Vector.Basic
import Libreboot.Infra.Bytes
import Libreboot.Infra.Hex

/-!
# Straight-line C functions

The body of a C function that fills a local variable by assignments and returns it: lvalues,
integer expressions, statements, how they are written and what they do. An initial value of the
local variable is an argument of `exec`, since C leaves it undefined.

Values are those of `unsigned int`. Storing into a member of `w` bits keeps the low `w` bits.
-/

namespace Libreboot.Infra

/-! ## Lvalues -/

/--
A part of a variable of type `σ`: how the source writes it, and how it is read and written.

The laws say that a write is read back, that writing what is there changes nothing and that
the last write counts.
-/
structure LValue (σ α : Type) where
  text : String
  get : σ → α
  set : α → σ → σ
  get_set : ∀ v s, get (set v s) = v := by intros; rfl
  set_get : ∀ s, set (get s) s = s := by intros; rfl
  set_set : ∀ u v s, set v (set u s) = set v s := by intros; rfl

namespace LValue

variable {σ α β : Type}

attribute [simp] get_set set_get set_set

/-- The whole variable. -/
def var (name : String) : LValue σ σ where
  text := name
  get s := s
  set v _ := v

/-- The member `m` of `lv`. -/
def dot (lv : LValue σ α) (m : LValue α β) : LValue σ β where
  text := lv.text ++ "." ++ m.text
  get s := m.get (lv.get s)
  set v s := lv.set (m.set v (lv.get s)) s
  get_set v s := by simp
  set_get s := by simp
  set_set u v s := by simp

/-- The element `lv[i]`. -/
def elem {n : Nat} (lv : LValue σ (Vector α n)) (i : Fin n) : LValue σ α where
  text := lv.text ++ "[" ++ toString i.val ++ "]"
  get s := (lv.get s).get i
  set v s := lv.set ((lv.get s).set i v i.isLt) s
  get_set v s := by rw [get_set, vector_get_set, if_pos rfl]
  set_get s := by rw [vector_set_get, set_get]
  set_set u v s := by rw [get_set, set_set, Vector.set_set]

end LValue

/-! ## Expressions -/

/-- Expressions over the named constants and arguments `ι`. -/
inductive Expr (ι : Type) where
  | hex (digits : List Char)
  | dec (n : Nat)
  | atom (a : ι)
  | add (a b : Expr ι)
  | sub (a b : Expr ι)
  | shr (a b : Expr ι)
  | cond (c a b : Expr ι)
  | paren (a : Expr ι)

namespace Expr

variable {ι : Type}

/-- The literal `printf` writes for `v` with the format `0x%0Nx`. -/
def ofHex {w : Nat} (width : Nat) (v : BitVec w) : Expr ι := .hex (Hex.padded width v.toNat)

def eval (env : ι → BitVec 32) : Expr ι → BitVec 32
  | hex digits => BitVec.ofNat 32 (Hex.value digits)
  | dec n => BitVec.ofNat 32 n
  | atom a => env a
  | add a b => a.eval env + b.eval env
  | sub a b => a.eval env - b.eval env
  | shr a b => a.eval env >>> b.eval env
  | cond c a b => if c.eval env ≠ 0 then a.eval env else b.eval env
  | paren a => a.eval env

def text (name : ι → String) : Expr ι → String
  | hex digits => "0x" ++ String.ofList digits
  | dec n => toString n
  | atom a => name a
  | add a b => a.text name ++ " + " ++ b.text name
  | sub a b => a.text name ++ " - " ++ b.text name
  | shr a b => a.text name ++ " >> " ++ b.text name
  | cond c a b => c.text name ++ " ? " ++ a.text name ++ " : " ++ b.text name
  | paren a => "(" ++ a.text name ++ ")"

/-- A printed field has its value, when the field fits an `unsigned int`. -/
theorem setWidth_eval_ofHex {w : Nat} (hw : w ≤ 32) (env : ι → BitVec 32) (width : Nat)
    (v : BitVec w) : ((ofHex width v).eval env).setWidth w = v := by
  have hpow : (2 : Nat) ^ w ≤ 2 ^ 32 := Nat.pow_le_pow_right (by omega) hw
  have hv := v.isLt
  apply BitVec.eq_of_toNat_eq
  rw [ofHex, eval, Hex.value_padded, BitVec.toNat_setWidth, BitVec.toNat_ofNat,
    Nat.mod_eq_of_lt (show v.toNat < 2 ^ 32 by omega), Nat.mod_eq_of_lt hv]

end Expr

/-! ## Statements -/

/-- Statements over a local variable of type `σ`. -/
inductive Stmt (σ ι : Type) where
  /-- A line without effect: a comment, a declaration or a blank line. -/
  | line (text : String)
  /-- `lhs = rhs;`, followed by a comment. -/
  | assign {w : Nat} (lhs : LValue σ (BitVec w)) (rhs : Expr ι) (comment : String)
  /-- `for (i = 0; i < n; i++) { lhs[i] = rhs; }` -/
  | fill {n w : Nat} (lhs : LValue σ (Vector (BitVec w) n)) (rhs : Expr ι)

namespace Stmt

variable {σ τ ι : Type}

/-- Assignment to a member keeps the bits that fit. -/
def store {w : Nat} (env : ι → BitVec 32) (lhs : LValue σ (BitVec w)) (rhs : Expr ι) (s : σ) : σ :=
  lhs.set ((rhs.eval env).setWidth w) s

def step (env : ι → BitVec 32) (s : σ) : Stmt σ ι → σ
  | line _ => s
  | assign lhs rhs _ => store env lhs rhs s
  | @fill _ _ n _ lhs rhs => (List.finRange n).foldl (fun s i => store env (lhs.elem i) rhs s) s

/-- Running a block from an initial value of the local variable. -/
def exec (env : ι → BitVec 32) (p : List (Stmt σ ι)) (s : σ) : σ := p.foldl (step env) s

/-- The lines of a statement, indented as a function body. -/
def render (name : ι → String) : Stmt σ ι → List String
  | line text => [text ++ "\n"]
  | assign lhs rhs comment =>
    ["    " ++ lhs.text ++ " = " ++ rhs.text name ++ ";" ++ comment ++ "\n"]
  | @fill _ _ n _ lhs rhs => [
    "    for (i = 0; i < " ++ toString n ++ "; i++) \x7b\n",
    "        " ++ lhs.text ++ "[i] = " ++ rhs.text name ++ ";\n",
    "    \x7d\n"]

/-- The same statement about the part `lv` of a larger variable. -/
def within (lv : LValue τ σ) : Stmt σ ι → Stmt τ ι
  | line text => line text
  | assign lhs rhs comment => assign (lv.dot lhs) rhs comment
  | fill lhs rhs => fill (lv.dot lhs) rhs

/-! ## Running a block -/

@[simp] theorem exec_nil (env : ι → BitVec 32) (s : σ) : exec env [] s = s := rfl

@[simp] theorem exec_cons (env : ι → BitVec 32) (c : Stmt σ ι) (p : List (Stmt σ ι)) (s : σ) :
    exec env (c :: p) s = exec env p (step env s c) := rfl

@[simp] theorem exec_append (env : ι → BitVec 32) (p q : List (Stmt σ ι)) (s : σ) :
    exec env (p ++ q) s = exec env q (exec env p s) := List.foldl_append

theorem step_line (env : ι → BitVec 32) (text : String) (s : σ) : step env s (.line text) = s := rfl

theorem step_assign {w : Nat} (env : ι → BitVec 32) (lhs : LValue σ (BitVec w)) (rhs : Expr ι)
    (comment : String) (s : σ) : step env s (.assign lhs rhs comment) = store env lhs rhs s := rfl

/-- A member that is assigned its printed value holds it afterwards. -/
theorem store_ofHex {w : Nat} (hw : w ≤ 32) (env : ι → BitVec 32) (lhs : LValue σ (BitVec w))
    (width : Nat) (v : BitVec w) (s : σ) : store env lhs (.ofHex width v) s = lhs.set v s := by
  rw [store, Expr.setWidth_eval_ofHex hw]

/-! ## Arrays -/

variable {n w : Nat}

/-- Writing every element in `is` leaves the others alone. -/
theorem get_foldl_set {α : Type} (f : Fin n → α) :
    ∀ (is : List (Fin n)) (v : Vector α n) (j : Fin n),
      (is.foldl (fun v i => v.set i (f i) i.isLt) v).get j = if j ∈ is then f j else v.get j
  | [], v, j => by simp
  | i :: is, v, j => by
    rw [List.foldl_cons, get_foldl_set f is, vector_get_set]
    by_cases hj : j ∈ is
    · simp [hj]
    · by_cases hij : i = j
      · subst hij
        simp [hj]
      · have hji : ¬ j = i := fun h => hij h.symm
        simp [hj, hij, hji]

/-- Writing the elements of `v` through an lvalue writes `v`. -/
theorem foldl_elem_set {α : Type} (lhs : LValue σ (Vector α n)) {f : Fin n → α} {v : Vector α n}
    (h : ∀ i, v.get i = f i) (s : σ) :
    (List.finRange n).foldl (fun s i => (lhs.elem i).set (f i) s) s = lhs.set v s := by
  -- the loop over the lvalue is a loop over its array, for any part of the indices
  have hfold : ∀ (is : List (Fin n)) (u : Vector α n),
      is.foldl (fun s i => (lhs.elem i).set (f i) s) (lhs.set u s)
        = lhs.set (is.foldl (fun u (i : Fin n) => u.set i (f i) i.isLt) u) s := by
    intro is
    induction is with
    | nil => intro u; rfl
    | cons i is ih =>
      intro u
      rw [List.foldl_cons, List.foldl_cons, ← ih]
      simp [LValue.elem]
  -- over all indices nothing of the old array is left
  have hall : (List.finRange n).foldl (fun u (i : Fin n) => u.set i (f i) i.isLt) (lhs.get s)
      = v := by
    refine vector_ext_get fun j => ?_
    rw [get_foldl_set f, if_pos (List.mem_finRange j), h]
  calc (List.finRange n).foldl (fun s i => (lhs.elem i).set (f i) s) s
      = (List.finRange n).foldl (fun s i => (lhs.elem i).set (f i) s) (lhs.set (lhs.get s) s) := by
        rw [lhs.set_get]
    _ = lhs.set v s := by rw [hfold, hall]

/-- A fill loop writes the array whose elements all have that value. -/
theorem step_fill (env : ι → BitVec 32) (lhs : LValue σ (Vector (BitVec w) n)) {rhs : Expr ι}
    {v : Vector (BitVec w) n} (h : ∀ i, v.get i = (rhs.eval env).setWidth w) (s : σ) :
    step env s (.fill lhs rhs) = lhs.set v s :=
  foldl_elem_set lhs h s

/-- One assignment for each element, printed with the format `0x%0Nx`. -/
def elements (lhs : LValue σ (Vector (BitVec w) n)) (width : Nat) (v : Vector (BitVec w) n) :
    List (Stmt σ ι) :=
  (List.finRange n).map fun i => .assign (lhs.elem i) (.ofHex width (v.get i)) ""

/-- Assigning all printed elements restores the array. -/
theorem exec_elements (hw : w ≤ 32) (env : ι → BitVec 32) (lhs : LValue σ (Vector (BitVec w) n))
    (width : Nat) (v : Vector (BitVec w) n) (s : σ) :
    exec env (elements lhs width v) s = lhs.set v s := by
  have hstep : ∀ s : σ, exec env (elements lhs width v) s
      = (List.finRange n).foldl (fun s i => (lhs.elem i).set (v.get i) s) s := by
    intro s
    rw [exec, elements, List.foldl_map]
    simp only [step, store_ofHex hw]
  rw [hstep, foldl_elem_set lhs (fun _ => rfl) s]

/-! ## Searching an array -/

/-- A search that stops at the first hit, and at the last index if there is none. -/
theorem findSome?_finRange {n : Nat} (hn : 0 < n) {β : Type} (hit : Fin n → Prop)
    [DecidablePred hit] (found missed : β) :
    ((List.finRange n).findSome? fun i =>
      if hit i then some found else if i.val = n - 1 then some missed else none)
      = some (if ∃ i, hit i then found else missed) := by
  generalize hf : (fun i : Fin n =>
    if hit i then some found else if i.val = n - 1 then some missed else none) = f
  have hhit : ∀ i, hit i → f i = some found := fun i hi => by rw [← hf]; exact if_pos hi
  have hmiss : ∀ i, ¬ hit i → f i = if i.val = n - 1 then some missed else none :=
    fun i hi => by rw [← hf]; exact if_neg hi
  cases hsearch : (List.finRange n).findSome? f with
  | none =>
    have hlast := List.findSome?_eq_none_iff.mp hsearch ⟨n - 1, by omega⟩ (List.mem_finRange _)
    by_cases hi : hit ⟨n - 1, by omega⟩
    · rw [hhit _ hi] at hlast
      cases hlast
    · rw [hmiss _ hi, if_pos rfl] at hlast
      cases hlast
  | some b =>
    obtain ⟨before, i, after, hlist, hi, hbefore⟩ := List.findSome?_eq_some_iff.mp hsearch
    congr 1
    by_cases hp : hit i
    · rw [hhit i hp] at hi
      rw [if_pos ⟨i, hp⟩]
      exact (Option.some.inj hi).symm
    · -- the search came to the last index, so nothing before it is a hit
      rw [hmiss i hp] at hi
      split at hi
      · next hlast =>
        have hnone : ¬ ∃ j, hit j := by
          rintro ⟨j, hj⟩
          have hsorted := List.pairwise_lt_finRange n
          have hmem : j ∈ before ++ i :: after := hlist ▸ List.mem_finRange j
          rw [hlist, List.pairwise_append, List.pairwise_cons] at hsorted
          rw [List.mem_append, List.mem_cons] at hmem
          rcases hmem with hmem | rfl | hmem
          · have hskipped := hbefore j hmem
            rw [hhit j hj] at hskipped
            cases hskipped
          · exact hp hj
          · have hbehind : i.val < j.val := hsorted.2.1.1 j hmem
            have hbound := j.isLt
            omega
        rw [if_neg hnone]
        exact (Option.some.inj hi).symm
      · cases hi

/-! ## Parts of a variable -/

theorem step_within (env : ι → BitVec 32) (lv : LValue τ σ) (c : Stmt σ ι) (t : τ) :
    step env t (c.within lv) = lv.set (step env (lv.get t) c) t := by
  cases c with
  | line text =>
    -- a line leaves the part as it is, and writing it back leaves the rest
    exact (lv.set_get t).symm
  | assign lhs rhs comment => rfl
  | @fill n w lhs rhs =>
    have hall : ∀ i : Fin n, (Vector.ofFn fun _ : Fin n => (rhs.eval env).setWidth w).get i
        = (rhs.eval env).setWidth w := fun i => Vector.getElem_ofFn i.isLt
    rw [within, step_fill env _ hall, step_fill env _ hall]
    rfl

/-- **A block about a part of a variable changes that part only,** as if it ran alone. -/
theorem exec_within (env : ι → BitVec 32) (lv : LValue τ σ) (p : List (Stmt σ ι)) :
    ∀ t : τ, exec env (p.map (within lv)) t = lv.set (exec env p (lv.get t)) t := by
  induction p with
  | nil => intro t; exact (lv.set_get t).symm
  | cons c p ih =>
    intro t
    rw [List.map_cons, exec_cons, ih, step_within, lv.get_set, lv.set_set, exec_cons]

end Stmt

end Libreboot.Infra
