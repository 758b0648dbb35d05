import Libreboot.Infra.Stdio

/-!
# Writing whole files

Functions that write files one after another and stop at the first failure, and rules to reason
about them:

* `Succeeds` — the function returns 0
* `Delivers name content` — when it returns 0, the file has these contents
* `Preserves name` — the file stays as it is, whatever the function returns
* `Agrees names` — two functions, started with the same files in `names`, return the same and end
  with the same files in `names`

`orReturn1` composes each of them. The two ways of writing a file are `writeTextFile`, which looks
at no result, and `createImage`, which looks at what `fwrite` returns.
`createImage_exact_iff` says exactly when that is good enough.
-/

namespace Libreboot.Infra

namespace CFun

/-! ## Sequencing -/

def return0 : CFun := fun w => (some 0, w)

def return1 : CFun := fun w => (some 1, w)

/-- `printf (…); … k` -/
def printf (texts : List String) (k : CFun) : CFun := fun w => k (w.printAll texts)

/-- `if (f (…)) { return 1; } k` -/
def orReturn1 (f k : CFun) : CFun := fun w =>
  match f w with
  | (none, w) => (none, w)
  | (some 0, w) => k w
  | (some _, w) => (some 1, w)

/-- Printing changes no file. -/
theorem printf_eq (texts : List String) (k : CFun) (w : World) :
    ∃ w₁, w₁.files = w.files ∧ printf texts k w = k w₁ :=
  ⟨w.printAll texts, w.files_printAll texts, rfl⟩

theorem orReturn1_return0 (k : CFun) : orReturn1 return0 k = k := rfl

theorem orReturn1_of_zero {f k : CFun} {w w₁ : World} (h : f w = (some 0, w₁)) :
    orReturn1 f k w = k w₁ := by
  simp [orReturn1, h]

/-- The whole succeeded only if both parts did. -/
theorem orReturn1_eq_zero {f k : CFun} {w : World} (h : (orReturn1 f k w).1 = some 0) :
    ∃ w₁, f w = (some 0, w₁) ∧ orReturn1 f k w = k w₁ ∧ (k w₁).1 = some 0 := by
  unfold orReturn1 at h ⊢
  split at h
  · cases h
  · next w₁ hf => exact ⟨w₁, hf, rfl, h⟩
  · cases h

/-! ## What a function does to files -/

def Succeeds (f : CFun) : Prop := ∀ w, (f w).1 = some 0

def Delivers (f : CFun) (name : String) (content : Bytes) : Prop :=
  ∀ w, (f w).1 = some 0 → (f w).2.files name = some content

def Preserves (f : CFun) (name : String) : Prop := ∀ w, (f w).2.files name = w.files name

/-- Two worlds with the same files in `names`. -/
def AgreeOn (names : String → Prop) (w w' : World) : Prop :=
  ∀ name, names name → w.files name = w'.files name

def Agrees (names : String → Prop) (f f' : CFun) : Prop :=
  ∀ w w', AgreeOn names w w' → (f w).1 = (f' w').1 ∧ AgreeOn names (f w).2 (f' w').2

variable {f f' k k' : CFun} {name : String} {content : Bytes} {names : String → Prop}

theorem succeeds_return0 : Succeeds return0 := fun _ => rfl

theorem preserves_return0 : Preserves return0 name := fun _ => rfl

theorem agrees_return0 : Agrees names return0 return0 := fun _ _ h => ⟨rfl, h⟩

theorem Succeeds.printf (texts : List String) (h : Succeeds k) : Succeeds (printf texts k) :=
  fun _ => h _

theorem Preserves.printf (texts : List String) (h : Preserves k name) :
    Preserves (printf texts k) name := fun w => by
  rw [CFun.printf, h, World.files_printAll]

/-- What is printed has no influence, so it may differ. -/
theorem Agrees.printf (texts texts' : List String) (h : Agrees names k k') :
    Agrees names (CFun.printf texts k) (CFun.printf texts' k') := by
  intro w w' hw
  refine h _ _ fun name hname => ?_
  rw [World.files_printAll, World.files_printAll]
  exact hw name hname

theorem Succeeds.orReturn1 (hf : Succeeds f) (hk : Succeeds k) : Succeeds (orReturn1 f k) := by
  intro w
  rw [orReturn1_of_zero (Prod.ext (hf w) rfl)]
  exact hk _

theorem Preserves.orReturn1 (hf : Preserves f name) (hk : Preserves k name) :
    Preserves (orReturn1 f k) name := by
  intro w
  have hfw := hf w
  unfold CFun.orReturn1
  split
  · next w₁ h => rw [h] at hfw; exact hfw
  · next w₁ h => rw [h] at hfw; rw [hk, hfw]
  · next w₁ h => rw [h] at hfw; exact hfw

/-- A file that the first part delivers and the second leaves alone. -/
theorem Delivers.orReturn1_left (hf : Delivers f name content) (hk : Preserves k name) :
    Delivers (orReturn1 f k) name content := by
  intro w h
  obtain ⟨w₁, hfw, hrest, -⟩ := orReturn1_eq_zero h
  have hdelivered := hf w
  rw [hfw] at hdelivered
  rw [hrest, hk]
  exact hdelivered rfl

/-- A file that the second part delivers. -/
theorem Delivers.orReturn1_right (hk : Delivers k name content) :
    Delivers (CFun.orReturn1 f k) name content := by
  intro w h
  obtain ⟨w₁, -, hrest, hzero⟩ := orReturn1_eq_zero h
  rw [hrest]
  exact hk w₁ hzero

theorem Agrees.orReturn1 (hf : Agrees names f f') (hk : Agrees names k k') :
    Agrees names (CFun.orReturn1 f k) (CFun.orReturn1 f' k') := by
  intro w w' hw
  obtain ⟨hstatus, hfiles⟩ := hf w w' hw
  unfold CFun.orReturn1
  rcases hfw : f w with ⟨s, w₁⟩
  rcases hfw' : f' w' with ⟨s', w₁'⟩
  rw [hfw, hfw'] at hstatus hfiles
  subst hstatus
  cases s with
  | none => exact ⟨rfl, hfiles⟩
  | some s =>
    cases s with
    | zero => exact hk w₁ w₁' hfiles
    | succ _ => exact ⟨rfl, hfiles⟩

end CFun

/-! ## Single calls -/

section Calls

variable (lib : CLib) {name other : String} {names : String → Prop}

theorem files_remove_of_ne (h : other ≠ name) (w : World) :
    (remove lib name w).files other = w.files other := by
  unfold remove
  split
  · exact World.files_setFile_of_ne h _ _
  · rfl

theorem agreeOn_setFile {w w' : World} (h : CFun.AgreeOn names w w') (content : Option Bytes) :
    CFun.AgreeOn names (w.setFile name content) (w'.setFile name content) := by
  intro other hother
  by_cases hne : other = name
  · subst hne
    rw [World.files_setFile_self, World.files_setFile_self]
  · rw [World.files_setFile_of_ne hne, World.files_setFile_of_ne hne]
    exact h other hother

theorem agreeOn_remove {w w' : World} (h : CFun.AgreeOn names w w') :
    CFun.AgreeOn names (remove lib name w) (remove lib name w') := by
  unfold remove
  split
  · exact agreeOn_setFile h none
  · exact h

end Calls

/-! ## Text files -/

section TextFile

variable (lib : CLib)

/-- A sequence of `fprintf`s. -/
def fprintfAll (texts : List String) (s : Stream) : Stream :=
  texts.foldl (fun s t => fprintf lib t s) s

theorem name_fprintfAll (texts : List String) (s : Stream) :
    (fprintfAll lib texts s).name = s.name := by
  unfold fprintfAll
  induction texts generalizing s with
  | nil => rfl
  | cons t ts ih => rw [List.foldl_cons, ih]; rfl

theorem fprintfAll_of_reliable {s : Stream} (h : (lib s.name).Reliable) (texts : List String) :
    fprintfAll lib texts s
      = { s with
          accepted := s.accepted ++ texts.flatMap ascii
          calls := s.calls + texts.length } := by
  unfold fprintfAll
  induction texts generalizing s with
  | nil => simp
  | cons t ts ih =>
    have hstep : fprintf lib t s
        = { s with accepted := s.accepted ++ ascii t, calls := s.calls + 1 } := by
      simp only [fprintf, fwrite, h.accepts, upTo_none]
    rw [List.foldl_cons, ih (by rw [hstep]; exact h), hstep]
    simp [List.append_assoc, Nat.add_comm, Nat.add_left_comm]

/-- `remove`, `fopen "w+"`, a sequence of `fprintf`s, `fclose`, `return 0`. -/
def writeTextFile (name : String) (texts : List String) : CFun := fun w =>
  let w := remove lib name w
  match fopenTruncate lib name w with
  -- the result of `fopen` is not looked at
  | none => (none, w)
  | some (fp, w) => (some 0, fclose lib (fprintfAll lib texts fp) w)

variable {lib} {name : String} (texts : List String)

theorem writeTextFile_succeeds (h : (lib name).Reliable) :
    (writeTextFile lib name texts).Succeeds := by
  intro w
  simp only [writeTextFile, fopenTruncate, h.opens, if_true]

/-- If nothing fails, the file holds the text. -/
theorem writeTextFile_delivers (h : (lib name).Reliable) :
    (writeTextFile lib name texts).Delivers name (texts.flatMap ascii) := by
  intro w _
  simp only [writeTextFile, fopenTruncate, h.opens, if_true]
  rw [fprintfAll_of_reliable lib h]
  simp only [fclose, h.flushes, upTo_none, List.nil_append, World.files_setFile_self]

variable (lib name)

theorem writeTextFile_preserves {other : String} (h : other ≠ name) :
    (writeTextFile lib name texts).Preserves other := by
  intro w
  have hremoved := files_remove_of_ne lib h w
  unfold writeTextFile fopenTruncate
  cases (lib name).opens with
  | false => exact hremoved
  | true =>
    simp only [if_true, fclose, name_fprintfAll, World.files_setFile_of_ne h, hremoved]

theorem writeTextFile_agrees (names : String → Prop) :
    CFun.Agrees names (writeTextFile lib name texts) (writeTextFile lib name texts) := by
  intro w w' hw
  have hremoved : CFun.AgreeOn names (remove lib name w) (remove lib name w') :=
    agreeOn_remove lib hw
  unfold writeTextFile fopenTruncate
  cases (lib name).opens with
  | false => exact ⟨rfl, hremoved⟩
  | true => exact ⟨rfl, agreeOn_setFile (agreeOn_setFile hremoved _) _⟩

end TextFile

/-! ## Image files -/

/-- A checked `fwrite`: the size it must report, the memory, and what to print if it does not. -/
structure ImagePart where
  size : Nat
  memory : Bytes
  complaint : String
  length_memory : memory.length = size

/-- The parts of an image, one behind the other. -/
def imageBytes (parts : List ImagePart) : Bytes := parts.flatMap ImagePart.memory

section Image

variable (lib : CLib)

/-- Write the parts, up to the first that is not accepted in full. -/
def fwriteParts : List ImagePart → Stream → Option String × Stream
  | [], s => (none, s)
  | part :: rest, s =>
    let (written, s) := fwrite lib part.memory s
    if part.size ≠ written then (some part.complaint, s) else fwriteParts rest s

/--
`remove`, `fopen "ab"`, a sequence of checked `fwrite`s, `fclose`, `return 0`.

A failed check returns 1 without closing the stream, which is flushed when the program exits.
-/
def createImage (parts : List ImagePart) (report : List String) (name : String) : CFun := fun w =>
  let w := remove lib name w
  match fopenAppend lib name w with
  -- the result of `fopen` is not looked at
  | none => (none, w)
  | some (fileStream, w) =>
    match fwriteParts lib parts fileStream with
    | (some complaint, fileStream) => (some 1, fclose lib fileStream (w.printf complaint))
    | (none, fileStream) => CFun.printf report .return0 (fclose lib fileStream w)

/-- Some `fwrite`, counted from the `k`-th, comes back short. -/
def Outcome.Short (o : Outcome) : Nat → List ImagePart → Prop
  | _, [] => False
  | k, part :: rest => CutsOff (o.accepts k) part.size ∨ o.Short (k + 1) rest

theorem Outcome.Reliable.not_short {o : Outcome} (h : o.Reliable) :
    ∀ (parts : List ImagePart) (k : Nat), ¬ o.Short k parts
  | [], _ => id
  | part :: rest, k => by
    rintro (hcut | hrest)
    · rw [h.accepts] at hcut
      exact not_cutsOff_none _ hcut
    · exact h.not_short rest (k + 1) hrest

/-- The check of one part finds out whether it was cut. -/
theorem size_ne_fwrite_iff (part : ImagePart) (s : Stream) :
    part.size ≠ (fwrite lib part.memory s).1
      ↔ CutsOff ((lib s.name).accepts s.calls) part.size := by
  rw [fwrite, ← part.length_memory, ne_comm, ne_eq, length_upTo_eq_iff, not_not]

theorem fwriteParts_of_not_short : ∀ (parts : List ImagePart) (s : Stream),
    ¬ (lib s.name).Short s.calls parts →
      fwriteParts lib parts s
        = (none, { s with
            accepted := s.accepted ++ imageBytes parts
            calls := s.calls + parts.length })
  | [], s, _ => by simp [fwriteParts, imageBytes]
  | part :: rest, s, h => by
    have hcut : ¬ CutsOff ((lib s.name).accepts s.calls) part.size := fun hc => h (Or.inl hc)
    have hfull : upTo ((lib s.name).accepts s.calls) part.memory = part.memory :=
      upTo_of_not_cutsOff (by rw [part.length_memory]; exact hcut)
    rw [fwriteParts]
    simp only [if_neg (fun hne => hcut ((size_ne_fwrite_iff lib part s).mp hne))]
    rw [fwriteParts_of_not_short rest _ (fun hs => h (Or.inr hs))]
    simp [fwrite, hfull, imageBytes, List.append_assoc, Nat.add_comm, Nat.add_left_comm]

theorem fwriteParts_of_short : ∀ (parts : List ImagePart) (s : Stream),
    (lib s.name).Short s.calls parts → ∃ complaint s', s'.name = s.name
      ∧ fwriteParts lib parts s = (some complaint, s')
  | [], _, h => h.elim
  | part :: rest, s, h => by
    rw [fwriteParts]
    by_cases hcut : CutsOff ((lib s.name).accepts s.calls) part.size
    · simp only [if_pos ((size_ne_fwrite_iff lib part s).mpr hcut)]
      exact ⟨part.complaint, (fwrite lib part.memory s).2, rfl, rfl⟩
    · simp only [if_neg (fun hne => hcut ((size_ne_fwrite_iff lib part s).mp hne))]
      exact fwriteParts_of_short rest (fwrite lib part.memory s).2 (h.resolve_left hcut)

theorem name_fwriteParts : ∀ (parts : List ImagePart) (s : Stream),
    (fwriteParts lib parts s).2.name = s.name
  | [], _ => rfl
  | part :: rest, s => by
    rw [fwriteParts]
    split
    next written s' hwrite =>
      have hname : s'.name = s.name := by
        rw [fwrite] at hwrite
        cases hwrite
        rfl
      split
      · exact hname
      · rw [name_fwriteParts rest, hname]

variable (parts : List ImagePart) (report : List String) (name : String)

/-- What is in the file when it is opened: nothing, if the old file could be removed. -/
def leftOver (o : Outcome) (old : Option Bytes) : Bytes := if o.removes then [] else old.getD []

theorem files_remove_self (w : World) :
    ((remove lib name w).files name).getD [] = leftOver (lib name) (w.files name) := by
  unfold remove leftOver
  split
  · rw [World.files_setFile_self]
    rfl
  · rfl

theorem createImage_of_not_opens (w : World) (h : (lib name).opens = false) :
    createImage lib parts report name w = (none, remove lib name w) := by
  simp [createImage, fopenAppend, h]

theorem createImage_of_short (w : World) (hopen : (lib name).opens = true)
    (h : (lib name).Short 0 parts) : (createImage lib parts report name w).1 = some 1 := by
  simp only [createImage, fopenAppend, hopen, if_true]
  obtain ⟨complaint, s', -, hs⟩ := fwriteParts_of_short lib parts
    ⟨name, ((remove lib name w).files name).getD [], [], 0⟩ h
  rw [hs]

theorem createImage_of_not_short (w : World) (hopen : (lib name).opens = true)
    (h : ¬ (lib name).Short 0 parts) :
    (createImage lib parts report name w).1 = some 0
      ∧ (createImage lib parts report name w).2.files name
        = some (leftOver (lib name) (w.files name)
            ++ upTo (lib name).flushes (imageBytes parts)) := by
  simp only [createImage, fopenAppend, hopen, if_true]
  rw [fwriteParts_of_not_short lib parts
    ⟨name, ((remove lib name w).files name).getD [], [], 0⟩ h]
  refine ⟨rfl, ?_⟩
  simp [CFun.printf, CFun.return0, fclose, files_remove_self]

/-- What has to go right so that a reported success is one. -/
def Outcome.Exact (o : Outcome) (old : Option Bytes) (parts : List ImagePart) : Prop :=
  o.opens = false
    ∨ o.Short 0 parts
    ∨ ((o.removes = true ∨ old.getD [] = []) ∧ ¬ CutsOff o.flushes (imageBytes parts).length)
    -- the old file happens to begin the image, and the flush stops where it ends
    ∨ (o.removes = false ∧ ∃ n, o.flushes = some n ∧ n < (imageBytes parts).length
        ∧ old.getD [] = (imageBytes parts).take ((imageBytes parts).length - n)
        ∧ (imageBytes parts).drop ((imageBytes parts).length - n) = (imageBytes parts).take n)

/-- **When a reported success means that the file is the image.** -/
theorem createImage_exact_iff (w : World) :
    ((createImage lib parts report name w).1 = some 0 →
        (createImage lib parts report name w).2.files name = some (imageBytes parts))
      ↔ (lib name).Exact (w.files name) parts := by
  unfold Outcome.Exact
  cases hopen : (lib name).opens with
  | false =>
    rw [createImage_of_not_opens lib parts report name w hopen]
    simp
  | true =>
    by_cases hshort : (lib name).Short 0 parts
    · rw [createImage_of_short lib parts report name w hopen hshort]
      simp [hshort]
    · obtain ⟨hzero, hfile⟩ := createImage_of_not_short lib parts report name w hopen hshort
      rw [hzero, hfile, forall_prop_of_true rfl, Option.some.injEq, append_upTo_eq_iff]
      unfold leftOver
      cases hrem : (lib name).removes with
      | false => simp [hshort]
      | true =>
        -- nothing is left of the old file, so a cut image has nothing to make up for the cut
        have hne : ∀ n < (imageBytes parts).length,
            ¬ [] = (imageBytes parts).take ((imageBytes parts).length - n) := by
          intro n hn h
          have hlen := congrArg List.length h
          rw [List.length_take, List.length_nil] at hlen
          omega
        simp only [if_true, true_and, hshort, true_or, false_or, Bool.true_eq_false, false_and,
          or_false]
        constructor
        · rintro (hcut | ⟨n, -, hn, hnil, -⟩)
          · exact hcut
          · exact absurd hnil (hne n hn)
        · exact Or.inl

variable {lib name}

theorem createImage_succeeds (h : (lib name).Reliable) :
    (createImage lib parts report name).Succeeds := fun w =>
  (createImage_of_not_short lib parts report name w h.opens (h.not_short parts 0)).1

theorem createImage_delivers (h : (lib name).NoSilentLoss) :
    (createImage lib parts report name).Delivers name (imageBytes parts) := fun w =>
  (createImage_exact_iff lib parts report name w).mpr
    (Or.inr (Or.inr (Or.inl ⟨Or.inl h.removes, by rw [h.flushes]; exact not_cutsOff_none _⟩)))

variable (lib name)

theorem createImage_preserves {other : String} (h : other ≠ name) :
    (createImage lib parts report name).Preserves other := by
  intro w
  cases hopen : (lib name).opens with
  | false =>
    rw [createImage_of_not_opens lib parts report name w hopen]
    exact files_remove_of_ne lib h w
  | true =>
    simp only [createImage, fopenAppend, hopen, if_true]
    have hname := name_fwriteParts lib parts
      ⟨name, ((remove lib name w).files name).getD [], [], 0⟩
    split <;> next s hs =>
      rw [hs] at hname
      simp only at hname
      simp [CFun.printf, CFun.return0, fclose, hname, World.files_setFile_of_ne h,
        files_remove_of_ne lib h]

theorem createImage_agrees {names : String → Prop} (hname : names name) :
    CFun.Agrees names (createImage lib parts report name) (createImage lib parts report name) := by
  intro w w' hw
  have hremoved : CFun.AgreeOn names (remove lib name w) (remove lib name w') :=
    agreeOn_remove lib hw
  cases hopen : (lib name).opens with
  | false =>
    rw [createImage_of_not_opens lib parts report name w hopen,
      createImage_of_not_opens lib parts report name w' hopen]
    exact ⟨rfl, hremoved⟩
  | true =>
    simp only [createImage, fopenAppend, hopen, if_true, hremoved name hname]
    split
    · exact ⟨rfl, agreeOn_setFile (agreeOn_setFile hremoved _) _⟩
    · exact CFun.agrees_return0.printf _ _ _ _ (agreeOn_setFile (agreeOn_setFile hremoved _) _)

end Image

end Libreboot.Infra
