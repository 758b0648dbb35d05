import Libreboot.Infra.Bytes

/-!
# The tokens of a C text

A text is cut into words, operators and marks. Blanks, comments and preprocessor lines stand
between tokens. A path such as `s.a.b` is one word, and operators that stand together are one token,
so that texts with tokens like `->` or `=-` are cut, but not understood by anyone.

* `Lexes` — the tokens of a text whose end is not inside of a comment
* `Lexes.append`, `Closed.append_lexes` — the tokens of texts one behind the other
-/

namespace Libreboot.Infra.CText

abbrev Token := List Char

inductive Kind
  | blank
  | word
  | op
  | mark
  deriving DecidableEq

def kind (c : Char) : Kind :=
  if c.isWhitespace then .blank
  else if c.isAlphanum || c == '_' || c == '.' then .word
  else if c ∈ ['+', '-', '<', '>', '=', '?', ':', '&'] then .op
  else .mark

/-- Where the lexer is. -/
inductive Mode
  | start
  | word (read : Token)
  | op (read : Token)
  | slash
  | comment
  | star
  | directive
  deriving DecidableEq

/-- A character between two tokens. -/
def begin (c : Char) : Mode × List Token :=
  if c = '/' then (.slash, [])
  else if c = '#' then (.directive, [])
  else match kind c with
    | .blank => (.start, [])
    | .mark => (.start, [[c]])
    | .word => (.word [c], [])
    | .op => (.op [c], [])

def step : Mode → Char → Mode × List Token
  | .start, c => begin c
  | .word read, c =>
    if kind c = .word then (.word (read ++ [c]), []) else ((begin c).1, read :: (begin c).2)
  | .op read, c =>
    if kind c = .op then (.op (read ++ [c]), []) else ((begin c).1, read :: (begin c).2)
  | .slash, c => if c = '*' then (.comment, []) else ((begin c).1, ['/'] :: (begin c).2)
  | .comment, c => (if c = '*' then .star else .comment, [])
  | .star, c => (if c = '/' then .start else if c = '*' then .star else .comment, [])
  | .directive, c => (if c = '\n' then .start else .directive, [])

/-- The tokens that are complete at the end of a text. -/
def scan : Mode → List Char → Mode × List Token
  | m, [] => (m, [])
  | m, c :: cs => ((scan (step m c).1 cs).1, (step m c).2 ++ (scan (step m c).1 cs).2)

/-- The token that ends with the text. -/
def Mode.pending : Mode → List Token
  | .word read => [read]
  | .op read => [read]
  | .slash => [['/']]
  | _ => []

def lex (text : List Char) : List Token :=
  (scan .start text).2 ++ (scan .start text).1.pending

/-- The characters of a file. -/
def chars (content : Bytes) : List Char := content.map fun b => Char.ofNat b.toNat

/-- The characters of a text that is written to a file and read again. -/
def letters (text : String) : List Char := chars (ascii text)

/-! ## Texts one behind the other -/

@[simp] theorem letters_append (a b : String) : letters (a ++ b) = letters a ++ letters b := by
  rw [letters, ascii_append, chars, List.map_append]
  rfl

theorem chars_flatMap_ascii (texts : List String) :
    chars (texts.flatMap ascii) = texts.flatMap letters := by
  rw [chars, List.map_flatMap]
  rfl

/-- An ASCII character is one byte. -/
theorem utf8EncodeChar_of_lt {c : Char} (h : c.toNat < 128) :
    String.utf8EncodeChar c = [UInt8.ofNat c.toNat] := by
  have hle : c.val.toNat ≤ 0x7f := Nat.le_of_lt_succ h
  rw [String.utf8EncodeChar, if_pos hle]
  rfl

/-- ASCII characters stay what they are. -/
theorem letters_ofList : ∀ {l : List Char}, (∀ c ∈ l, c.toNat < 128) → letters (String.ofList l) = l
  | [], _ => rfl
  | c :: l, h => by
    have hc : c.toNat < 128 := h c List.mem_cons_self
    have ih := letters_ofList fun d hd => h d (List.mem_cons_of_mem _ hd)
    have hfirst : letters (String.ofList [c]) = [c] := by
      rw [letters, ascii, String.toByteArray_ofList, List.utf8Encode, List.flatMap_singleton,
        List.toList_data_toByteArray, utf8EncodeChar_of_lt hc]
      show [Char.ofNat (UInt8.ofNat c.toNat).toNat] = [c]
      rw [UInt8.toNat_ofNat_of_lt' (Nat.lt_trans hc (by decide)), Char.ofNat_toNat]
    rw [← List.singleton_append, String.ofList_append, letters_append, hfirst, ih]

theorem scan_append : ∀ (m : Mode) (a b : List Char),
    scan m (a ++ b) = ((scan (scan m a).1 b).1, (scan m a).2 ++ (scan (scan m a).1 b).2)
  | m, [], b => rfl
  | m, c :: a, b => by
    rw [List.cons_append, scan, scan_append (step m c).1 a b, scan, List.append_assoc]

/-- The end of a text is between two tokens, or a token ends there. -/
def Mode.between : Mode → Bool
  | .start => true
  | .word _ => true
  | .op _ => true
  | _ => false

/-- The tokens of a text that does not end in a comment or in a preprocessor line. -/
def Lexes (text : List Char) (tokens : List Token) : Prop :=
  (scan .start text).1.between = true ∧ lex text = tokens

instance (text : List Char) (tokens : List Token) : Decidable (Lexes text tokens) :=
  inferInstanceAs (Decidable (_ ∧ _))

/-- The last token of the text is complete. -/
def Closed (text : List Char) (tokens : List Token) : Prop := scan .start text = (.start, tokens)

instance (text : List Char) (tokens : List Token) : Decidable (Closed text tokens) :=
  inferInstanceAs (Decidable (_ = _))

/-- The first character does not go on with a token. -/
def Ends : List Char → Prop
  | [] => True
  | c :: _ => kind c ≠ .word ∧ kind c ≠ .op

instance : (text : List Char) → Decidable (Ends text)
  | [] => inferInstanceAs (Decidable True)
  | c :: _ => inferInstanceAs (Decidable (kind c ≠ .word ∧ kind c ≠ .op))

/-- A text that is complete itself, and completes the token in front of it. -/
structure Separates (text : List Char) (tokens : List Token) : Prop where
  closed : Closed text tokens
  ends : Ends text
  ne_nil : text ≠ []

instance (text : List Char) (tokens : List Token) : Decidable (Separates text tokens) :=
  decidable_of_iff (Closed text tokens ∧ Ends text ∧ text ≠ [])
    ⟨fun ⟨hclosed, hends, hne⟩ => ⟨hclosed, hends, hne⟩, fun h => ⟨h.closed, h.ends, h.ne_nil⟩⟩

section Append

variable {a b : List Char} {s t : List Token}

theorem Closed.append (ha : Closed a s) (hb : Closed b t) : Closed (a ++ b) (s ++ t) := by
  unfold Closed
  rw [scan_append, ha, hb]

/-- Behind a complete token anything may follow. -/
theorem Closed.append_lexes (ha : Closed a s) (hb : Lexes b t) : Lexes (a ++ b) (s ++ t) := by
  unfold Lexes lex at hb ⊢
  rw [scan_append, ha, List.append_assoc]
  exact ⟨hb.1, by rw [hb.2]⟩

/-- A token that ends where the next text begins. -/
theorem scan_pending {m : Mode} (hm : m.between = true) {c : Char} (cs : List Char)
    (hc : kind c ≠ .word ∧ kind c ≠ .op) :
    scan m (c :: cs)
      = ((scan .start (c :: cs)).1, m.pending ++ (scan .start (c :: cs)).2) := by
  cases m with
  | start => rfl
  | word read => rw [scan, step, if_neg hc.1]; rfl
  | op read => rw [scan, step, if_neg hc.2]; rfl
  | slash => cases hm
  | comment => cases hm
  | star => cases hm
  | directive => cases hm

theorem Lexes.append (ha : Lexes a s) (hb : Lexes b t) (hends : Ends b) :
    Lexes (a ++ b) (s ++ t) := by
  cases b with
  | nil =>
    rw [List.append_nil]
    have ht : t = [] := hb.2.symm
    rw [ht, List.append_nil]
    exact ha
  | cons c cs =>
    have hrest := scan_pending ha.1 cs hends
    unfold Lexes lex at ha hb ⊢
    rw [scan_append, hrest]
    refine ⟨hb.1, ?_⟩
    rw [← ha.2, ← hb.2]
    simp only [List.append_assoc]

/-- The token that is open at the end of the first text is complete behind the second one. -/
theorem Lexes.closed (ha : Lexes a s) (hb : Separates b t) : Closed (a ++ b) (s ++ t) := by
  cases b with
  | nil => exact absurd rfl hb.ne_nil
  | cons c cs =>
    have hclosed := hb.closed
    have hrest := scan_pending ha.1 cs hb.ends
    have hall := ha.2
    unfold lex at hall
    unfold Closed at hclosed ⊢
    rw [scan_append, hrest, hclosed, ← hall, List.append_assoc]

theorem Separates.append (ha : Separates a s) (hb : Closed b t) : Separates (a ++ b) (s ++ t) := by
  cases a with
  | nil => exact absurd rfl ha.ne_nil
  | cons c cs => exact ⟨ha.closed.append hb, ha.ends, List.cons_ne_nil _ _⟩

end Append

/-! ## Words and comments -/

theorem scan_word : ∀ {w : List Char} (read : Token), (∀ c ∈ w, kind c = .word) →
    scan (.word read) w = (.word (read ++ w), [])
  | [], read, _ => by rw [List.append_nil, scan]
  | c :: w, read, h => by
    have hstep : step (.word read) c = (.word (read ++ [c]), []) := if_pos (h c List.mem_cons_self)
    rw [scan, hstep, scan_word (read ++ [c]) fun d hd => h d (List.mem_cons_of_mem _ hd)]
    simp

/-- Characters that may stand in a name or in a number. -/
def IsWord (w : List Char) : Prop := w ≠ [] ∧ ∀ c ∈ w, kind c = .word

instance (w : List Char) : Decidable (IsWord w) :=
  @instDecidableAnd _ _ inferInstance (List.decidableBAll _ w)

theorem kind_slash : kind '/' ≠ .word := by decide

theorem kind_hash : kind '#' ≠ .word := by decide

theorem begin_of_word {c : Char} (h : kind c = .word) : begin c = (.word [c], []) := by
  have hslash : c ≠ '/' := by
    rintro rfl
    exact kind_slash h
  have hhash : c ≠ '#' := by
    rintro rfl
    exact kind_hash h
  rw [begin, if_neg hslash, if_neg hhash, h]

/-- A word is one token. -/
theorem lexes_word {w : List Char} (h : IsWord w) : Lexes w [w] := by
  obtain ⟨hne, hall⟩ := h
  cases w with
  | nil => exact absurd rfl hne
  | cons c w =>
    have hstep : step .start c = (.word [c], []) := begin_of_word (hall c List.mem_cons_self)
    have hscan : scan .start (c :: w) = (.word (c :: w), []) := by
      rw [scan, hstep, scan_word [c] fun d hd => hall d (List.mem_cons_of_mem _ hd)]
      rfl
    unfold Lexes lex
    rw [hscan]
    exact ⟨rfl, rfl⟩

/-- In a comment nothing is read, as long as there is no star. -/
theorem scan_comment : ∀ {text : List Char}, '*' ∉ text → scan .comment text = (.comment, [])
  | [], _ => rfl
  | c :: text, h => by
    have hne : c ≠ '*' := fun heq => h (heq ▸ List.mem_cons_self)
    have hstep : step .comment c = (.comment, []) := by rw [step, if_neg hne]
    rw [scan, hstep, scan_comment fun hmem => h (List.mem_cons_of_mem _ hmem)]
    rfl

/-- A comment with a text in it that has no star. -/
theorem closed_comment {before text after : List Char} (hbefore : scan .start before = (.comment, []))
    (htext : '*' ∉ text) (hafter : scan .comment after = (.start, [])) :
    Closed (before ++ text ++ after) [] := by
  unfold Closed
  rw [scan_append, scan_append, hbefore, scan_comment htext, hafter]
  rfl

end Libreboot.Infra.CText
