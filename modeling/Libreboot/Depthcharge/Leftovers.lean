import Libreboot.Depthcharge.Replacement

/-!
# Leftovers of an earlier run

`before.img` and `after.img` may be there when the loop starts. A copy is written over the old file,
but where there is nothing to copy the file is only touched, and its old contents become a part of
the flash image. The first part that is replaced decides, since the files are removed after it.

* `requested_of_apart` — the checks do not look at the leftovers
* `replaceImage_of_accepted` — what the first part that is replaced makes of them
* `replaceImages_leftovers` — when they do not matter
-/

namespace Libreboot.Depthcharge

open Infra Shell

namespace Setup

variable (env : Setup)

/-- The file of the part that a word asks for is none of the temporary ones. -/
def Apart (word : Text) : Prop :=
  ∀ name ∈ env.partFile word :: env.glob.unquoted (env.partFile word),
    name ≠ beforeImg ∧ name ≠ afterImg

/-- `$start` and `$stop` in a directory without leftovers, if no check ends in `continue`. -/
def accepted (flashsize : Nat) (word : Text) : Option (Nat × Nat) :=
  env.requested flashsize word { flash := [], before := none, after := none }

section Step

variable {env} {flashsize start stop : Nat} {word : Text}

theorem Apart.expanded (h : env.Apart word) :
    ∀ name ∈ env.glob.unquoted (env.partFile word), name ≠ beforeImg ∧ name ≠ afterImg :=
  fun name hname => h name (List.mem_cons_of_mem _ hname)

/-- **The checks do not look at the leftovers.** -/
theorem requested_of_apart (h : env.Apart word) (s : State) :
    env.requested flashsize word s = env.accepted flashsize word := by
  have hfile : ∀ s, env.file s (env.partFile word) = env.parts (env.partFile word) :=
    file_of_ne (h _ List.mem_cons_self)
  simp only [accepted, requested, hfile, filterMap_file h.expanded]

theorem replaceImage_of_accepted_none (hapart : env.Apart word)
    (h : env.accepted flashsize word = none) (s : State) :
    env.replaceImage flashsize s word = s := by
  rw [replaceImage, requested_of_apart hapart, h]

/-- **What becomes of the leftovers.** -/
theorem replaceImage_of_accepted (hapart : env.Apart word)
    (h : env.accepted flashsize word = some (start, stop)) (s : State) :
    env.replaceImage flashsize s word =
      { flash := (makeBefore s.flash start s.before).getD []
          ++ ((env.glob.unquoted (env.partFile word)).filterMap env.parts).flatten
          ++ (makeAfter s.flash flashsize stop s.after).getD []
        before := none
        after := none } := by
  rw [replaceImage, requested_of_apart hapart, h]
  exact assemble_eq hapart.expanded flashsize start stop s

/-- In front of a part at the first byte, an old `before.img` is put. -/
theorem length_replaceImage_stale (hapart : env.Apart word)
    (h : env.accepted flashsize word = some (0, stop)) (flash before : Bytes)
    (after : Option Bytes) :
    (env.replaceImage flashsize ⟨flash, some before, after⟩ word).flash.length
      = before.length + (env.replaceImage flashsize ⟨flash, none, after⟩ word).flash.length := by
  rw [replaceImage_of_accepted hapart h, replaceImage_of_accepted hapart h]
  simp only [makeBefore_zero, List.length_append, Option.getD_some, Option.getD_none,
    List.length_nil]
  omega

end Step

/-! ## Runs from two directories -/

/-- After these words the flash image is the same, whatever was left in the directory. -/
def Independent (flash : Bytes) (words : List Text) : Prop :=
  ∀ before after before' after' : Option Bytes,
    (words.foldl (env.replaceImage flash.length) ⟨flash, before, after⟩).flash
      = (words.foldl (env.replaceImage flash.length) ⟨flash, before', after'⟩).flash

section Run

variable {env} {words : List Text}

/-- A first part inside the flash image overwrites both files. -/
theorem independent_of_inside {flash : Bytes} (hsize : flash.length < 2 ^ 63)
    (hapart : ∀ word ∈ words, env.Apart word)
    (h : ∀ start stop, words.findSome? (env.accepted flash.length) = some (start, stop) →
      0 < start ∧ stop + 1 < flash.length) : env.Independent flash words := by
  intro before after before' after'
  induction words with
  | nil => rfl
  | cons word words ih =>
    have hword := hapart word List.mem_cons_self
    rw [List.foldl_cons, List.foldl_cons]
    cases haccepted : env.accepted flash.length word with
    | none =>
      rw [replaceImage_of_accepted_none hword haccepted,
        replaceImage_of_accepted_none hword haccepted]
      refine ih (fun w hw => hapart w (List.mem_cons_of_mem _ hw)) fun start stop hfirst => ?_
      refine h start stop ?_
      rw [List.findSome?_cons, haccepted]
      exact hfirst
    | some range =>
      obtain ⟨start, stop⟩ := range
      obtain ⟨hstart, hstop⟩ := h start stop (by rw [List.findSome?_cons, haccepted])
      rw [replaceImage_of_accepted hword haccepted, replaceImage_of_accepted hword haccepted]
      simp only [makeBefore_of_pos hstart, makeAfter_of_lt hsize hstop]

/-- If the first part that is accepted is the last word, an old file at either end is seen. -/
theorem inside_of_independent {flash : Bytes} {done : List Text} {word : Text} {start stop : Nat}
    (hapart : ∀ w ∈ done ++ [word], env.Apart w)
    (hdone : ∀ w ∈ done, env.accepted flash.length w = none)
    (haccepted : env.accepted flash.length word = some (start, stop))
    (h : env.Independent flash (done ++ [word])) : 0 < start ∧ stop + 1 < flash.length := by
  have hword := hapart word (List.mem_append_right _ (List.mem_singleton.mpr rfl))
  have hrun : ∀ s : State, (done ++ [word]).foldl (env.replaceImage flash.length) s
      = env.replaceImage flash.length s word := by
    intro s
    have hnothing : done.foldl (env.replaceImage flash.length) s = s :=
      foldl_replaceImage_eq_self fun w hw =>
        replaceImage_of_accepted_none (hapart w (List.mem_append_left _ hw)) (hdone w hw) s
    rw [List.foldl_append, hnothing]
    rfl
  have hlength : ∀ before after before' after' : Option Bytes,
      ((makeBefore flash start before).getD []).length
          + ((makeAfter flash flash.length stop after).getD []).length
        = ((makeBefore flash start before').getD []).length
          + ((makeAfter flash flash.length stop after').getD []).length := by
    intro before after before' after'
    have hsame := congrArg List.length (h before after before' after')
    rw [hrun, hrun, replaceImage_of_accepted hword haccepted,
      replaceImage_of_accepted hword haccepted] at hsame
    simp only [List.length_append] at hsame
    omega
  constructor
  · -- otherwise an old `before.img` is put in front
    by_contra hzero
    have hstart : start = 0 := by omega
    subst hstart
    have hbefore := hlength none none (some [0]) none
    simp only [makeBefore_zero, Option.getD_none, Option.getD_some, List.length_nil,
      List.length_singleton] at hbefore
    omega
  · -- otherwise an old `after.img` is put behind
    by_contra hend
    have hafter := hlength none none none (some [0])
    rw [makeAfter_of_le (requested_lt haccepted) (by omega),
      makeAfter_of_le (requested_lt haccepted) (by omega)] at hafter
    simp only [Option.getD_none, Option.getD_some, List.length_nil, List.length_singleton] at hafter
    omega

end Run

end Setup

theorem apart_coreboot : veyronSpeedy.Apart coreboot.name := by
  unfold Setup.Apart
  decide +kernel

theorem apart_roFrid : veyronSpeedy.Apart roFrid.name := by
  unfold Setup.Apart
  decide +kernel

theorem accepted_coreboot : veyronSpeedy.accepted 0x400000 coreboot.name = some (0, 0xFFFFF) := by
  rw [Setup.accepted, Setup.requested_of_finds finds_coreboot accepts_coreboot.part,
    List.length_replicate]
  decide +kernel

theorem accepted_roFrid :
    veyronSpeedy.accepted 0x400000 roFrid.name = some (0x1EFF00, 0x1EFFFF) := by
  rw [Setup.accepted, Setup.requested_of_finds finds_roFrid accepts_roFrid.part,
    List.length_replicate]
  decide +kernel

end Libreboot.Depthcharge
