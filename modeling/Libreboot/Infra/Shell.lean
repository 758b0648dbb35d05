import Mathlib.Data.List.DropRight

/-!
# Words of the shell

An expansion that is not quoted is split at blanks, and each word is replaced by the names of the
files that match it as a pattern. A command substitution loses the newlines at its end.

What a pattern matches depends on the directory, so it is an argument (`Globbing`). A plain word,
without blanks and pattern characters, stands for itself.

* `words_append_blank` — the words of a text with a blank in it
* `unquoted_plain` — a plain word survives
* `unquoted_substitute` — the words of a substituted file are those of its lines
-/

namespace Libreboot.Infra

abbrev Text := List Char

namespace Shell

/-! ## Words -/

def isBlank (c : Char) : Bool := c == ' ' || c == '\t' || c == '\n'

/-- `[[:space:]]` -/
def isSpace (c : Char) : Bool := c == ' ' || (0x09 ≤ c.toNat && c.toNat ≤ 0x0D)

def isPattern (c : Char) : Bool := c == '*' || c == '?' || c == '[' || c == '\\'

/-- The words of a text. -/
def words (t : Text) : List Text := (t.splitOnP isBlank).filter (· ≠ [])

@[simp] theorem words_nil : words [] = [] := by
  simp [words, List.splitOnP_nil]

theorem words_append_blank (a b : Text) {c : Char} (hc : isBlank c = true) :
    words (a ++ c :: b) = words a ++ words b := by
  rw [words, List.splitOnP_append_cons a b hc, List.filter_append]
  rfl

/-- Blanks are no word. -/
theorem words_append_blanks (a : Text) {bs : Text} (h : ∀ c ∈ bs, isBlank c = true) :
    words (a ++ bs) = words a := by
  induction bs generalizing a with
  | nil => rw [List.append_nil]
  | cons c bs ih =>
    have hrest := ih [] fun d hd => h d (List.mem_cons_of_mem _ hd)
    rw [List.nil_append, words_nil] at hrest
    rw [words_append_blank a bs (h c List.mem_cons_self), hrest, List.append_nil]

/-- A word of a text, as it stands there: a part without blanks that cannot be made longer. -/
structure IsWord (t w : Text) : Prop where
  ne_nil : w ≠ []
  no_blank : ∀ c ∈ w, isBlank c = false
  between : ∃ front back, t = front ++ w ++ back ∧
    (∀ c ∈ front.getLast?, isBlank c = true) ∧ (∀ c ∈ back.head?, isBlank c = true)

/-- A text without blanks is one word. -/
theorem words_of_no_blank {w : Text} (hne : w ≠ []) (h : ∀ c ∈ w, isBlank c = false) :
    words w = [w] := by
  rw [words, List.splitOnP_eq_singleton h]
  simp [hne]

/-- What stands between blanks is a word. -/
theorem IsWord.mem_words {t w : Text} (h : IsWord t w) : w ∈ words t := by
  obtain ⟨front, back, rfl, hfront, hback⟩ := h.between
  have hword : w ∈ words (w ++ back) := by
    cases back with
    | nil => simp [words_of_no_blank h.ne_nil h.no_blank]
    | cons c back =>
      rw [words_append_blank w back (hback c rfl), words_of_no_blank h.ne_nil h.no_blank]
      exact List.mem_cons_self
  rcases List.eq_nil_or_concat front with rfl | ⟨front, c, rfl⟩
  · exact hword
  · rw [List.concat_eq_append, List.append_assoc, List.append_assoc, List.singleton_append,
      words_append_blank front _ (hfront c (by simp))]
    exact List.mem_append_right _ hword

theorem mem_words_of_no_blank {a w : Text} (h : ∀ c ∈ a, isBlank c = false) :
    w ∈ words a ↔ a ≠ [] ∧ w = a := by
  by_cases hne : a = []
  · subst hne
    simp
  · simp [words_of_no_blank hne h, hne]

/-- A word behind a blank. -/
theorem IsWord.behind_blank {t w : Text} (a : Text) {c : Char} (hc : isBlank c = true)
    (h : IsWord t w) : IsWord (a ++ c :: t) w where
  ne_nil := h.ne_nil
  no_blank := h.no_blank
  between := by
    obtain ⟨front, back, rfl, hfront, hback⟩ := h.between
    refine ⟨a ++ c :: front, back, by simp, fun d hd => ?_, hback⟩
    rcases List.eq_nil_or_concat front with rfl | ⟨front, e, rfl⟩
    · obtain rfl : c = d := by simpa using hd
      exact hc
    · refine hfront d ?_
      rw [List.concat_eq_append, ← List.cons_append, ← List.append_assoc,
        List.getLast?_concat] at hd
      rwa [List.concat_eq_append, List.getLast?_concat]

/-- **The words of a text are what stands between its blanks.** -/
theorem mem_words_iff {t w : Text} : w ∈ words t ↔ IsWord t w := by
  refine ⟨fun hw => ?_, IsWord.mem_words⟩
  induction hlen : t.length using Nat.strong_induction_on generalizing t with
  | _ n ih =>
    -- up to the first blank
    have hfirst : ∀ c ∈ t.takeWhile (!isBlank ·), isBlank c = false := by
      intro c hc
      simpa using List.mem_takeWhile_imp hc
    have hsplit : t.takeWhile (!isBlank ·) ++ t.dropWhile (!isBlank ·) = t :=
      List.takeWhile_append_dropWhile
    generalize t.takeWhile (!isBlank ·) = a at hfirst hsplit
    cases hrest : t.dropWhile (!isBlank ·) with
    | nil =>
      obtain rfl : a = t := by simpa [hrest] using hsplit
      obtain ⟨hne, rfl⟩ := (mem_words_of_no_blank hfirst).mp hw
      exact ⟨hne, hfirst, [], [], by simp, by simp, by simp⟩
    | cons c back =>
      have hc : isBlank c = true := by
        have hne : t.dropWhile (!isBlank ·) ≠ [] := by simp [hrest]
        have hhead := List.head_dropWhile_not (!isBlank ·) hne
        simpa [hrest] using hhead
      rw [hrest] at hsplit
      subst hsplit
      rw [words_append_blank a back hc, List.mem_append] at hw
      rcases hw with hw | hw
      · obtain ⟨hne, rfl⟩ := (mem_words_of_no_blank hfirst).mp hw
        exact ⟨hne, hfirst, [], c :: back, by simp, by simp, by simpa using hc⟩
      · exact (ih back.length (by simp [← hlen]; omega) hw rfl).behind_blank a hc

/-! ## Patterns -/

/-- A word that stands for itself. -/
structure Plain (w : Text) : Prop where
  ne_nil : w ≠ []
  no_blank : ∀ c ∈ w, isBlank c = false
  no_pattern : ∀ c ∈ w, isPattern c = false

theorem Plain.append {a b : Text} (ha : Plain a) (hb : Plain b) : Plain (a ++ b) where
  ne_nil := List.append_ne_nil_of_left_ne_nil ha.ne_nil b
  no_blank c hc := (List.mem_append.mp hc).elim (ha.no_blank c) (hb.no_blank c)
  no_pattern c hc := (List.mem_append.mp hc).elim (ha.no_pattern c) (hb.no_pattern c)

/-- What words are replaced by. Plain words are left alone. -/
structure Globbing where
  expand : Text → List Text
  plain : ∀ w, Plain w → expand w = [w]

/-- No word is replaced (`set -f`). -/
def Globbing.off : Globbing where
  expand w := [w]
  plain _ _ := rfl

variable (g : Globbing)

/-- The words of an expansion that is not quoted. -/
def Globbing.unquoted (t : Text) : List Text := (words t).flatMap g.expand

theorem unquoted_plain {w : Text} (h : Plain w) : g.unquoted w = [w] := by
  rw [Globbing.unquoted, words_of_no_blank h.ne_nil h.no_blank, List.flatMap_singleton,
    g.plain w h]

/-- `"$@"` without the quotes. -/
theorem flatMap_unquoted_plain {ws : List Text} (h : ∀ w ∈ ws, Plain w) :
    ws.flatMap g.unquoted = ws := by
  induction ws with
  | nil => rfl
  | cons w ws ih =>
    rw [List.flatMap_cons, unquoted_plain g (h w List.mem_cons_self),
      ih fun v hv => h v (List.mem_cons_of_mem _ hv)]
    rfl

/-! ## Lines -/

/-- The text of a file with these lines. -/
def unlines (ls : List Text) : Text := ls.flatMap (· ++ ['\n'])

/-- The value of `$(…)`. -/
def substitute (t : Text) : Text := t.rdropWhile (· == '\n')

/-- A single line is kept. -/
theorem substitute_unlines_singleton {l : Text} (h : ∀ c ∈ l, c ≠ '\n') :
    substitute (unlines [l]) = l := by
  have hline : unlines [l] = l ++ ['\n'] := by simp [unlines]
  rw [substitute, hline, List.rdropWhile_concat_pos _ _ _ rfl, List.rdropWhile_eq_self_iff]
  intro hne hlast
  exact h _ (List.getLast_mem hne) (eq_of_beq hlast)

/-- What a substitution drops is no part of a word. -/
theorem words_substitute (t : Text) : words (substitute t) = words t := by
  have hdropped : ∀ c ∈ t.rtakeWhile (· == '\n'), isBlank c = true := by
    intro c hc
    have hnewline := List.mem_rtakeWhile_imp hc
    rw [eq_of_beq hnewline]
    rfl
  have hsplit : t = substitute t ++ t.rtakeWhile (· == '\n') := by
    rw [substitute, List.rdropWhile, List.rtakeWhile, ← List.reverse_append,
      List.takeWhile_append_dropWhile, List.reverse_reverse]
  conv_rhs => rw [hsplit]
  rw [words_append_blanks _ hdropped]

/-- The lines of a file. Behind the last newline there is an empty one. -/
def lines (t : Text) : List Text := t.splitOn '\n'

theorem words_intercalate {c : Char} (hc : isBlank c = true) :
    ∀ ls : List Text, words ([c].intercalate ls) = ls.flatMap words
  | [] => words_nil
  | [l] => by simp
  | l :: m :: ls => by
    have ih := words_intercalate hc (m :: ls)
    have hsplit : [c].intercalate (l :: m :: ls) = l ++ c :: [c].intercalate (m :: ls) := by
      simp [List.intercalate]
    rw [hsplit, words_append_blank l _ hc, ih]
    rfl

/-- **An unquoted substitution of a file gives the words of its lines.** -/
theorem unquoted_substitute (t : Text) :
    g.unquoted (substitute t) = (lines t).flatMap g.unquoted := by
  have hwords : words t = (lines t).flatMap words := by
    have hlines : ['\n'].intercalate (lines t) = t := List.intercalate_splitOn '\n'
    conv_lhs => rw [← hlines]
    exact words_intercalate rfl (lines t)
  rw [Globbing.unquoted, words_substitute, hwords, List.flatMap_assoc]
  rfl

end Shell

end Libreboot.Infra
