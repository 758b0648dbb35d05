import Libreboot.Infra.CRoundTrip

/-!
# Printed functions are read back

A `Table` lists the members of a struct with names that a reader can tell apart. Tables of larger
structs are put together from those of their parts.

* `Stmt.closed_render` — the text of a statement has the tokens of the statement
* `readBlock_tokens`, `readFunction_tokens` — a printed function is read back, without its comments
-/

namespace Libreboot.Infra.CText

/-! ## Members with different names -/

namespace Place

variable {σ τ : Type}

def name (p : Place σ) : Token := letters p.text

/-- The first member of a path. -/
def head (t : Token) : Token := t.takeWhile (· ≠ '.')

@[simp] theorem name_within (lv : LValue τ σ) (p : Place σ) :
    (p.within lv).name = letters lv.text ++ '.' :: p.name := by
  have hdot : letters "." = ['.'] := by decide
  cases p with
  | scalar m => simp [name, within, text, LValue.dot, hdot]
  | array m => simp [name, within, text, LValue.dot, hdot]

theorem head_path {t : Token} (h : '.' ∉ t) (rest : Token) : head (t ++ '.' :: rest) = t := by
  have hall : ∀ c ∈ t, decide (c ≠ '.') = true := by
    intro c hc
    exact decide_eq_true fun heq => h (heq ▸ hc)
  rw [head, List.takeWhile_append_of_pos hall, List.takeWhile_cons_of_neg (by decide),
    List.append_nil]

end Place

/-- Members with different names. The heads are those of the paths in it. -/
structure Table (σ : Type) where
  places : List (Place σ)
  heads : List Token
  word : ∀ p ∈ places, IsWord p.name
  head_mem : ∀ p ∈ places, Place.head p.name ∈ heads
  nodup : (places.map Place.name).Nodup

namespace Table

variable {σ τ : Type}

def members (places : List (Place σ))
    (h : (∀ p ∈ places, IsWord p.name) ∧ (places.map Place.name).Nodup := by decide) :
    Table σ where
  places := places
  heads := places.map fun p => Place.head p.name
  word := h.1
  head_mem _ hp := List.mem_map_of_mem hp
  nodup := h.2

/-- The members of a part of a larger variable. -/
def within (lv : LValue τ σ) (t : Table σ)
    (h : IsWord (letters lv.text) ∧ '.' ∉ letters lv.text := by decide) : Table τ where
  places := t.places.map (.within lv)
  heads := [letters lv.text]
  word := by
    intro p hp
    obtain ⟨q, hq, rfl⟩ := List.mem_map.mp hp
    rw [Place.name_within]
    refine ⟨by simp, fun c hc => ?_⟩
    rcases List.mem_append.mp hc with hc | hc
    · exact h.1.2 c hc
    rcases List.mem_cons.mp hc with rfl | hc
    · decide
    exact (t.word q hq).2 c hc
  head_mem := by
    intro p hp
    obtain ⟨q, -, rfl⟩ := List.mem_map.mp hp
    rw [Place.name_within, Place.head_path h.2]
    exact List.mem_singleton_self _
  nodup := by
    have hnames : (t.places.map (.within lv)).map Place.name
        = (t.places.map Place.name).map fun n => letters lv.text ++ '.' :: n := by
      simp only [List.map_map]
      exact List.map_congr_left fun p _ => Place.name_within lv p
    rw [hnames]
    refine t.nodup.map fun m n heq => ?_
    exact (List.cons.inj (List.append_cancel_left heq)).2

def append (t u : Table σ) (h : ∀ a ∈ t.heads, a ∉ u.heads := by decide) : Table σ where
  places := t.places ++ u.places
  heads := t.heads ++ u.heads
  word p hp := (List.mem_append.mp hp).elim (t.word p) (u.word p)
  head_mem p hp := List.mem_append.mpr
    ((List.mem_append.mp hp).imp (t.head_mem p) (u.head_mem p))
  nodup := by
    rw [List.map_append]
    refine List.nodup_append'.mpr ⟨t.nodup, u.nodup, ?_⟩
    intro n ht hu
    obtain ⟨p, hp, rfl⟩ := List.mem_map.mp ht
    obtain ⟨q, hq, heq⟩ := List.mem_map.mp hu
    exact h _ (t.head_mem p hp) (heq ▸ u.head_mem q hq)

variable {t u : Table σ}

theorem mem_members {places : List (Place σ)}
    {h : (∀ p ∈ places, IsWord p.name) ∧ (places.map Place.name).Nodup} {p : Place σ} :
    p ∈ (members places h).places ↔ p ∈ places := Iff.rfl

theorem mem_append {h : ∀ a ∈ t.heads, a ∉ u.heads} {p : Place σ} :
    p ∈ (t.append u h).places ↔ p ∈ t.places ∨ p ∈ u.places := List.mem_append

theorem mem_within {lv : LValue τ σ} {h : IsWord (letters lv.text) ∧ '.' ∉ letters lv.text}
    {p : Place σ} (hp : p ∈ t.places) : p.within lv ∈ (t.within lv h).places :=
  List.mem_map_of_mem hp

/-- A member is found by its name. -/
theorem find_name {p : Place σ} (hp : p ∈ t.places) : Place.find t.places p.name = some p := by
  obtain ⟨before, after, hsplit⟩ := List.append_of_mem hp
  have hnodup := t.nodup
  rw [hsplit, List.map_append, List.map_cons] at hnodup
  rw [Place.find, hsplit, List.find?_eq_some_iff_append]
  refine ⟨decide_eq_true rfl, before, after, rfl, fun q hq => ?_⟩
  -- a member further in front has another name
  have hne : q.name ≠ p.name := fun heq =>
    (List.nodup_append.mp hnodup).2.2 _ (List.mem_map_of_mem hq) _ List.mem_cons_self heq
  exact congrArg not (decide_eq_false hne)

/-- No member has a name that begins a loop or ends a function. -/
def Free (t : Table σ) : Prop := ∀ a ∈ t.heads, a ≠ letters "for" ∧ a ≠ letters "return"

instance (t : Table σ) : Decidable t.Free :=
  inferInstanceAs (Decidable (∀ a ∈ t.heads, a ≠ letters "for" ∧ a ≠ letters "return"))

theorem Free.name_ne (h : t.Free) {p : Place σ} (hp : p ∈ t.places) :
    letters "for" ≠ p.name ∧ letters "return" ≠ p.name := by
  have hfor : Place.head (letters "for") = letters "for" := by decide
  have hreturn : Place.head (letters "return") = letters "return" := by decide
  have hhead := h _ (t.head_mem p hp)
  constructor
  · rintro heq
    exact hhead.1 (by rw [← heq, hfor])
  · rintro heq
    exact hhead.2 (by rw [← heq, hreturn])

end Table

end CText

/-! ## The tokens of statements -/

open CText

namespace Stmt

variable {σ τ ι : Type}

def tokens (name : ι → String) : Stmt σ ι → List Token
  | line _ => []
  | assign lhs rhs _ =>
    CText.tokens lhs.text ++ (CText.tokens "=" ++ (rhs.tokens name ++ CText.tokens ";"))
  | @fill _ _ n _ lhs rhs =>
    CText.tokens "for (i = 0; i <" ++ (Nat.toDigits 10 n :: (CText.tokens "; i++) \x7b"
      ++ (CText.tokens lhs.text ++ (CText.tokens "[i] ="
        ++ (rhs.tokens name ++ CText.tokens "; \x7d")))))

/-- What a reader keeps of a statement: no comments, and no lines without effect. -/
def code : Stmt σ ι → List (Stmt σ ι)
  | line _ => []
  | assign lhs rhs _ => [assign lhs rhs ""]
  | fill lhs rhs => [fill lhs rhs]

theorem exec_code (env : ι → BitVec 32) (p : List (Stmt σ ι)) :
    ∀ s : σ, exec env (p.flatMap code) s = exec env p s := by
  induction p with
  | nil => exact fun s => rfl
  | cons c p ih =>
    intro s
    rw [List.flatMap_cons, exec_append, exec_cons, ih]
    cases c with
    | line text => rfl
    | assign lhs rhs comment => rfl
    | fill lhs rhs => rfl

/-- The statement is about members of the table, and its comments are closed. -/
def Readable (names : List ι) (t : Table σ) : Stmt σ ι → Prop
  | line text => Closed (letters (text ++ "\n")) []
  | @assign _ _ w lhs rhs comment =>
    (.scalar lhs ∈ t.places ∨ ∃ (n : Nat) (m : LValue σ (Vector (BitVec w) n)) (i : Fin n),
      .array m ∈ t.places ∧ lhs = m.elem i)
    ∧ Fits names .cond rhs ∧ Closed (letters (comment ++ "\n")) []
  | fill lhs rhs => .array lhs ∈ t.places ∧ Fits names .cond rhs

/-- Every statement can be read. -/
def Legible (names : List ι) (t : Table σ) (p : List (Stmt σ ι)) : Prop :=
  ∀ c ∈ p, c.Readable names t

section Legible

variable {names : List ι} {t : Table σ} {u : Table τ} {c : Stmt σ ι} {p q : List (Stmt σ ι)}

theorem Readable.within (h : c.Readable names t) {lv : LValue τ σ}
    (hsub : ∀ m ∈ t.places, m.within lv ∈ u.places) : (c.within lv).Readable names u := by
  cases c with
  | line text => exact h
  | assign lhs rhs comment =>
    refine ⟨h.1.imp (hsub _) ?_, h.2⟩
    rintro ⟨n, m, i, hm, rfl⟩
    refine ⟨n, lv.dot m, i, hsub _ hm, ?_⟩
    simp only [LValue.dot, LValue.elem, String.append_assoc]
  | fill lhs rhs => exact ⟨hsub _ h.1, h.2⟩

theorem legible_nil : Legible names t [] := fun _ h => nomatch h

theorem legible_cons : Legible names t (c :: p) ↔ c.Readable names t ∧ Legible names t p :=
  List.forall_mem_cons

theorem legible_append : Legible names t (p ++ q) ↔ Legible names t p ∧ Legible names t q :=
  List.forall_mem_append

theorem Legible.within (h : Legible names t p) {lv : LValue τ σ}
    (hsub : ∀ m ∈ t.places, m.within lv ∈ u.places) : Legible names u (p.map (within lv)) := by
  intro c hc
  obtain ⟨b, hb, rfl⟩ := List.mem_map.mp hc
  exact (h b hb).within hsub

theorem isHex_padded (width n : Nat) : IsHex (Hex.padded width n) :=
  ⟨List.append_ne_nil_of_right_ne_nil _ (Hex.digits_ne_nil n),
    fun _ hc => Hex.isSome_of_mem_padded hc⟩

theorem readable_line {text : String} (h : Closed (letters (text ++ "\n")) []) :
    (line text : Stmt σ ι).Readable names t := h

theorem readable_assign {w : Nat} {m : LValue σ (BitVec w)} (hm : .scalar m ∈ t.places)
    {rhs : Expr ι} (hfits : Fits names .cond rhs) {comment : String}
    (hcomment : Closed (letters (comment ++ "\n")) []) :
    (assign m rhs comment).Readable names t := ⟨.inl hm, hfits, hcomment⟩

theorem readable_ofHex {w : Nat} {m : LValue σ (BitVec w)} (hm : .scalar m ∈ t.places) (width : Nat)
    (v : BitVec w) {comment : String} (hcomment : Closed (letters (comment ++ "\n")) []) :
    (assign m (.ofHex width v) comment).Readable names t :=
  ⟨.inl hm, isHex_padded width v.toNat, hcomment⟩

theorem legible_elements {n w : Nat} {m : LValue σ (Vector (BitVec w) n)}
    (hm : .array m ∈ t.places) (width : Nat) (v : Vector (BitVec w) n) :
    Legible names t (elements m width v) := by
  intro c hc
  obtain ⟨i, -, rfl⟩ := List.mem_map.mp hc
  exact ⟨.inr ⟨n, m, i, hm, rfl⟩, isHex_padded width _, by decide⟩

end Legible

/-! ## The text of statements -/

section Text

variable {names : List ι} {name : ι → String} {t : Table σ}

theorem tokens_scalar {w : Nat} {lhs : LValue σ (BitVec w)} (h : .scalar lhs ∈ t.places) :
    CText.tokens lhs.text = [letters lhs.text] := (lexes_word (t.word _ h)).2

theorem tokens_array {n w : Nat} {m : LValue σ (Vector (BitVec w) n)} (h : .array m ∈ t.places) :
    CText.tokens m.text = [letters m.text] := (lexes_word (t.word _ h)).2

theorem lexes_elem {n w : Nat} {m : LValue σ (Vector (BitVec w) n)} (h : .array m ∈ t.places)
    (i : Fin n) : Lexes (letters (m.elem i).text)
      [letters m.text, ['['], Nat.toDigits 10 i.val, [']']] := by
  have hname := lexes_word (t.word _ h)
  have hopen : Separates (letters "[") [['[']] := by decide
  have hclose : Lexes (letters "]") [[']']] ∧ Ends (letters "]") := by decide
  have hletters : letters (m.elem i).text
      = letters m.text ++ letters "[" ++ letters (toString i.val) ++ letters "]" := by
    simp only [LValue.elem, letters_append]
  rw [hletters]
  exact ((hname.closed hopen).append_lexes (lexes_dec i.val)).append hclose.1 hclose.2

/-- What stands on the left of an assignment. -/
theorem lexes_target {w : Nat} {lhs : LValue σ (BitVec w)}
    (h : .scalar lhs ∈ t.places ∨ ∃ (n : Nat) (m : LValue σ (Vector (BitVec w) n)) (i : Fin n),
      .array m ∈ t.places ∧ lhs = m.elem i) : Lexes (letters lhs.text) (CText.tokens lhs.text) := by
  rcases h with hm | ⟨n, m, i, hm, rfl⟩
  · rw [tokens_scalar hm]
    exact lexes_word (t.word _ hm)
  · exact ⟨(lexes_elem hm i).1, rfl⟩

/-- **The text of a statement has the tokens of the statement.** -/
theorem closed_render (hnames : Distinct names name) {c : Stmt σ ι} (h : c.Readable names t) :
    Closed ((c.render name).flatMap letters) (c.tokens name) := by
  cases c with
  | line text =>
    rw [render, List.flatMap_singleton]
    exact h
  | assign lhs rhs comment =>
    obtain ⟨hlhs, hfits, hcomment⟩ := h
    have hindent : Closed (letters "    ") [] := by decide
    have hequals : Separates (letters " = ") (CText.tokens "=") := by decide
    have hsemicolon : Separates (letters ";") (CText.tokens ";") := by decide
    have hleft := (hindent.append_lexes (lexes_target hlhs)).closed hequals
    have hright := (hleft.append_lexes (lexes_text hnames rhs .cond hfits)).closed
      (hsemicolon.append hcomment)
    simpa only [render, tokens, List.flatMap_singleton, letters_append, List.append_assoc,
      List.nil_append, List.append_nil] using hright
  | @fill n w lhs rhs =>
    obtain ⟨hlhs, hfits⟩ := h
    have hfor : Closed (letters "    for (i = 0; i < ") (CText.tokens "for (i = 0; i <") := by
      decide
    have hbrace : Separates (letters "; i++) \x7b\n        ") (CText.tokens "; i++) \x7b") := by
      decide
    have hindex : Separates (letters "[i] = ") (CText.tokens "[i] =") := by decide
    have hend : Separates (letters ";\n    \x7d\n") (CText.tokens "; \x7d") := by decide
    have hhead := (hfor.append_lexes (lexes_dec n)).closed hbrace
    have hleft := (hhead.append_lexes (lexes_word (t.word _ hlhs))).closed hindex
    have hall := (hleft.append_lexes (lexes_text hnames rhs .cond hfits)).closed hend
    have hbraces : letters "; i++) \x7b\n        "
        = letters "; i++) \x7b\n" ++ letters "        " := by
      decide
    have hends : letters ";\n    \x7d\n" = letters ";\n" ++ letters "    \x7d\n" := by decide
    rw [hbraces, hends] at hall
    simpa only [render, tokens, tokens_array hlhs, Place.name, Place.text, List.flatMap_cons,
      List.flatMap_nil, letters_append, List.append_assoc, List.append_nil, List.cons_append,
      List.nil_append] using hall

/-- The tokens of a block are those of its text. -/
theorem closed_block (hnames : Distinct names name) {p : List (Stmt σ ι)}
    (h : Legible names t p) :
    Closed ((p.flatMap (render name)).flatMap letters) (p.flatMap (tokens name)) := by
  induction p with
  | nil => rfl
  | cons c p ih =>
    obtain ⟨hc, hp⟩ := legible_cons.mp h
    rw [List.flatMap_cons, List.flatMap_append, List.flatMap_cons]
    exact (closed_render hnames hc).append (ih hp)

end Text

/-! ## Reading statements -/

section Read

variable {names : List ι} {name : ι → String} {t : Table σ} (hnames : Distinct names name)
include hnames

/-- An expression in front of a semicolon. -/
theorem readExpr_semicolon {e : Expr ι} (hfits : Fits names .cond e) (text : String)
    (htext : (CText.tokens text).head? = some [';']) (rest : List Token) :
    readExpr names name (fuelFor (e.tokens name ++ (CText.tokens text ++ rest))) .cond
      (e.tokens name ++ (CText.tokens text ++ rest)) = some (e, CText.tokens text ++ rest) := by
  refine readExpr_fuelFor hnames hfits ?_
  obtain ⟨us, hus⟩ : ∃ us, CText.tokens text = [';'] :: us := by
    cases hlist : CText.tokens text with
    | nil => rw [hlist] at htext; cases htext
    | cons u us =>
      rw [hlist, List.head?_cons] at htext
      exact ⟨us, by rw [Option.some.inj htext]⟩
  rw [hus, List.cons_append]
  exact stops_cons (by decide) .cond _

theorem readAssignment_scalar {w : Nat} {lhs : LValue σ (BitVec w)} (hlhs : .scalar lhs ∈ t.places)
    {rhs : Expr ι} (hfits : Fits names .cond rhs) (comment : String) (rest : List Token) :
    readAssignment t.places names name (tokens name (.assign lhs rhs comment) ++ rest)
      = some (.assign lhs rhs "", rest) := by
  have hfind : Place.find t.places (letters lhs.text) = some (.scalar lhs) := Table.find_name hlhs
  have hexpr := readExpr_semicolon hnames hfits ";" (by decide) rest
  simp only [tokens, tokens_scalar hlhs, List.append_assoc, List.cons_append, List.nil_append,
    readAssignment, hfind, skip_tokens, hexpr, Option.bind_eq_bind, Option.bind_some]

theorem readAssignment_elem {n w : Nat} {m : LValue σ (Vector (BitVec w) n)}
    (hm : .array m ∈ t.places) (i : Fin n) {rhs : Expr ι} (hfits : Fits names .cond rhs)
    (comment : String) (rest : List Token) :
    readAssignment t.places names name (tokens name (.assign (m.elem i) rhs comment) ++ rest)
      = some (.assign (m.elem i) rhs "", rest) := by
  have hfind : Place.find t.places (letters m.text) = some (.array m) := Table.find_name hm
  have hexpr := readExpr_semicolon hnames hfits ";" (by decide) rest
  have htarget : CText.tokens (m.elem i).text
      = [letters m.text, ['['], Nat.toDigits 10 i.val, [']']] := (lexes_elem hm i).2
  have hopen : ∀ ts, skip "[" (['['] :: ts) = some ts := skip_tokens "["
  have hclose : skip "] =" ([']'] :: (CText.tokens "="
      ++ (rhs.tokens name ++ (CText.tokens ";" ++ rest))))
      = some (rhs.tokens name ++ (CText.tokens ";" ++ rest)) := skip_tokens "] =" _
  simp only [tokens, htarget, List.append_assoc, List.cons_append, List.nil_append,
    readAssignment, hfind, hopen, readDecimal_toDigits, i.isLt, hclose, hexpr, skip_tokens,
    Option.bind_eq_bind, Option.bind_some, dite_true]

theorem readLoop_fill {n w : Nat} {lhs : LValue σ (Vector (BitVec w) n)}
    (hlhs : .array lhs ∈ t.places) {rhs : Expr ι} (hfits : Fits names .cond rhs)
    (rest : List Token) :
    readLoop t.places names name (tokens name (.fill lhs rhs) ++ rest)
      = some (.fill lhs rhs, rest) := by
  have hfind : Place.find t.places (letters lhs.text) = some (.array lhs) := Table.find_name hlhs
  have hexpr := readExpr_semicolon hnames hfits "; \x7d" (by decide) rest
  simp only [tokens, tokens_array hlhs, List.append_assoc, List.cons_append, List.nil_append,
    readLoop, skip_tokens, readDecimal_toDigits, hfind, hexpr, if_true, Option.bind_eq_bind,
    Option.bind_some]

omit hnames in
/-- An assignment begins with the name of its member. -/
theorem readStmt_assign (hfree : t.Free) {w : Nat} {lhs : LValue σ (BitVec w)} {rhs : Expr ι}
    {comment : String} {p : Place σ} {us rest : List Token} (hp : p ∈ t.places)
    (htokens : tokens name (.assign lhs rhs comment) = p.name :: us)
    (hread : readAssignment t.places names name (tokens name (.assign lhs rhs comment) ++ rest)
      = some (.assign lhs rhs "", rest)) :
    tokens name (.assign lhs rhs comment) ≠ []
      ∧ skip "return" (tokens name (.assign lhs rhs comment) ++ rest) = none
      ∧ readStmt t.places names name (tokens name (.assign lhs rhs comment) ++ rest)
        = some (.assign lhs rhs "", rest) := by
  have hfor : CText.tokens "for" = [letters "for"] := by decide
  have hreturn : CText.tokens "return" = [letters "return"] := by decide
  have hne := hfree.name_ne hp
  rw [htokens, List.cons_append] at hread ⊢
  refine ⟨List.cons_ne_nil _ _, skip_of_head_ne hreturn hne.2, ?_⟩
  rw [readStmt, skip_of_head_ne hfor hne.1]
  exact hread

/-- A statement that is kept is read, and it does not end the function. -/
theorem readStmt_tokens (hfree : t.Free) {c : Stmt σ ι} (h : c.Readable names t)
    (rest : List Token) :
    (c.code = [] ∧ tokens name c = []) ∨ ∃ kept, c.code = [kept] ∧ tokens name c ≠ []
      ∧ skip "return" (tokens name c ++ rest) = none
      ∧ readStmt t.places names name (tokens name c ++ rest) = some (kept, rest) := by
  cases c with
  | line text => exact .inl ⟨rfl, rfl⟩
  | assign lhs rhs comment =>
    obtain ⟨hlhs, hfits, -⟩ := h
    rcases hlhs with hm | ⟨n, m, i, hm, rfl⟩
    · exact .inr ⟨_, rfl, readStmt_assign hfree hm (congrArg (· ++ _) (tokens_scalar hm))
        (readAssignment_scalar hnames hm hfits comment rest)⟩
    · exact .inr ⟨_, rfl, readStmt_assign hfree hm (congrArg (· ++ _) (lexes_elem hm i).2)
        (readAssignment_elem hnames hm i hfits comment rest)⟩
  | @fill n w lhs rhs =>
    have hloop := readLoop_fill hnames h.1 h.2 rest
    have hfor : CText.tokens "for" = [letters "for"] := by decide
    have hreturn : CText.tokens "return" = [letters "return"] := by decide
    have hhead : CText.tokens "for (i = 0; i <" = letters "for" :: CText.tokens "(i = 0; i <" := by
      decide
    obtain ⟨vs, hvs⟩ : ∃ vs, tokens name (.fill lhs rhs) = letters "for" :: vs := by
      simp only [tokens, hhead, List.cons_append]
      exact ⟨_, rfl⟩
    rw [hvs, List.cons_append] at hloop ⊢
    refine .inr ⟨_, rfl, List.cons_ne_nil _ _, skip_of_head_ne hreturn (by decide), ?_⟩
    have hskip : skip "for" (letters "for" :: (vs ++ rest)) = some (vs ++ rest) := by
      rw [skip, hfor, dropTokens, if_pos rfl, dropTokens]
    rw [readStmt, hskip]
    exact hloop

/-- **Printed statements are read back** up to the `return`. -/
theorem readBlock_tokens (hfree : t.Free) {rest : List Token}
    (hrest : (skip "return" rest).isSome) :
    ∀ (p : List (Stmt σ ι)) (fuel : Nat), Legible names t p →
      (p.flatMap (tokens name)).length < fuel →
        readBlock t.places names name fuel (p.flatMap (tokens name) ++ rest)
          = some (p.flatMap code, rest)
  | [], 0, _, hfuel => absurd hfuel (Nat.not_lt_zero _)
  | [], fuel + 1, _, _ => by
    obtain ⟨us, hus⟩ := Option.isSome_iff_exists.mp hrest
    rw [List.flatMap_nil, List.nil_append, readBlock, hus]
    rfl
  | c :: p, fuel, h, hfuel => by
    obtain ⟨hc, hp⟩ := legible_cons.mp h
    rw [List.flatMap_cons, List.append_assoc]
    rw [List.flatMap_cons, List.length_append] at hfuel
    rcases readStmt_tokens hnames hfree hc (p.flatMap (tokens name) ++ rest) with
      ⟨hcode, htokens⟩ | ⟨kept, hcode, htokens, hreturn, hread⟩
    · rw [htokens, List.nil_append, List.flatMap_cons, hcode, List.nil_append]
      exact readBlock_tokens hfree hrest p fuel hp (by omega)
    · have hlength := List.length_pos_iff.mpr htokens
      obtain ⟨k, rfl⟩ : ∃ k, fuel = k + 1 := ⟨fuel - 1, by omega⟩
      have ih := readBlock_tokens hfree hrest p k hp (by omega)
      rw [readBlock, hreturn]
      simp only [hread, ih, Option.bind_eq_bind, Option.bind_some, List.flatMap_cons, hcode]
      rfl

/-- **A printed function is read back,** up to what stands behind it. -/
theorem readFunction_tokens (hfree : t.Free) (head : String) {foot : String}
    (hfoot : (CText.tokens foot).head? = some (letters "return")) {p : List (Stmt σ ι)}
    (h : Legible names t p) (rest : List Token) :
    readFunction t.places names name head foot
      (CText.tokens head ++ (p.flatMap (tokens name) ++ (CText.tokens foot ++ rest)))
        = some (p.flatMap code, rest) := by
  have hreturn : CText.tokens "return" = [letters "return"] := by decide
  have hstop : (skip "return" (CText.tokens foot ++ rest)).isSome := by
    cases hlist : CText.tokens foot with
    | nil => rw [hlist] at hfoot; cases hfoot
    | cons u us =>
      rw [hlist, List.head?_cons] at hfoot
      rw [List.cons_append, skip, hreturn, Option.some.inj hfoot, dropTokens, if_pos rfl]
      rfl
  have hblock := readBlock_tokens hnames hfree hstop p
    ((p.flatMap (tokens name) ++ (CText.tokens foot ++ rest)).length + 1) h
    (by rw [List.length_append]; omega)
  simp only [readFunction, skip_tokens, hblock, Option.bind_eq_bind, Option.bind_some]

end Read

end Stmt

end Libreboot.Infra
