import Libreboot.Infra.FileTree

/-!
# coreboot-libre/deblob

The script goes through the board directories of `resources/libreboot/config`, and removes the files
that the lists of their coreboot and vboot revisions name from the tree of the coreboot revision. An
assignment from `cat` ends the script if the file is missing; the words of a `for` loop do not, and
a missing list is an empty one.

`none` stands for an exit status other than 0. What the script reads is not among the files that it
removes, and what a pattern stands for does not change on the way.

* `deblob_eq_some_iff` — which files are left
* `exists_mem_paths_iff` — what the words of the lists are
* `deblob_failsClosed_iff` — when an exit status of 0 means that the blobs are gone
* `covered_of_plain` — lists that have a plain word on each line
-/

namespace Libreboot.CorebootLibre

open Infra Shell Directories

/-- A directory `config/*/*` with its revision files. -/
structure Board where
  payload : Text
  cbrevision : Option Text
  vbootrevision : Option Text

def crossgcc : Text := "crossgcc".toList

/-- `coreboot/${cbrevision}/${cbrevision}` -/
def boardpath (cbrevision : Text) : Text :=
  "coreboot/".toList ++ cbrevision ++ '/' :: cbrevision

/-- `${root}/${blob}` -/
def inside (root blob : Text) : Text := root ++ '/' :: blob

/-- `"$( cat … )"` in an assignment. -/
def cat (file : Option Text) : Option Text := file.map substitute

/-- The directories, and `blobs/coreboot/*/blobs.list` and `blobs/vboot/*/blobs.list`. -/
structure Checkout where
  tree : Directories
  glob : Globbing
  coreboot : Text → Option Text
  vboot : Text → Option Text

namespace Checkout

variable (env : Checkout)

/-- `$( cat … )` in a `for` loop. That `cat` fails is not seen. -/
def blobs (list : Option Text) : List Text := env.glob.unquoted (substitute (list.getD []))

/-- The loop over a list. -/
def removeBlobs (root : Text) (list : Option Text) (files : List Path) : Option (List Path) :=
  env.tree.removeAll ((env.blobs list).map (inside root)) files

/-- One board. -/
def deblobBoard (files : List Path) (board : Board) : Option (List Path) := do
  let cbrevision ← cat board.cbrevision
  let vbootrevision ← cat board.vbootrevision
  let files ← env.removeBlobs (boardpath cbrevision) (env.coreboot cbrevision) files
  -- only non-crossgcc archives have 3rdparty (vboot) present
  if board.payload ≠ crossgcc then
    env.removeBlobs (boardpath cbrevision) (env.vboot vbootrevision) files
  else some files

def deblob (boards : List Board) (files : List Path) : Option (List Path) := do
  let files ← boards.foldlM env.deblobBoard files
  env.removeBlobs crossgcc (env.coreboot crossgcc) files

end Checkout

/-! ## What is removed -/

namespace Board

variable (board : Board)

/-- Both revision files exist. -/
def Complete : Prop := board.cbrevision.isSome ∧ board.vbootrevision.isSome

/-- `$cbrevision` -/
def coreboot : Text := substitute (board.cbrevision.getD [])

/-- `$vbootrevision` -/
def vboot : Text := substitute (board.vbootrevision.getD [])

def path : Text := boardpath board.coreboot

end Board

namespace Checkout

variable (env : Checkout)

/-- What `rm -f` is called with for a board. -/
def boardPaths (board : Board) : List Text :=
  (env.blobs (env.coreboot board.coreboot)
    ++ if board.payload ≠ crossgcc then env.blobs (env.vboot board.vboot) else []).map
      (inside board.path)

/-- What `rm -f` is called with. -/
def paths (boards : List Board) : List Text :=
  boards.flatMap env.boardPaths ++ (env.blobs (env.coreboot crossgcc)).map (inside crossgcc)

variable {env} {boards : List Board} {files final : List Path}

theorem deblobBoard_eq_some_iff {board : Board} :
    env.deblobBoard files board = some final ↔
      board.Complete ∧ env.tree.removeAll (env.boardPaths board) files = some final := by
  obtain ⟨payload, cbrevision, vbootrevision⟩ := board
  unfold Board.Complete
  cases cbrevision with
  | none => simp [deblobBoard, cat]
  | some cbrevision =>
    cases vbootrevision with
    | none => simp [deblobBoard, cat]
    | some vbootrevision =>
      simp only [deblobBoard, cat, Option.map_some, Option.isSome_some, and_self, true_and,
        boardPaths, Board.path, Board.coreboot, Board.vboot, Option.getD_some, removeBlobs]
      by_cases hpayload : payload = crossgcc
      · simp [hpayload]
      · simp [hpayload, removeAll_append]

theorem foldlM_deblobBoard_eq_some_iff :
    boards.foldlM env.deblobBoard files = some final ↔
      (∀ board ∈ boards, board.Complete) ∧
        env.tree.removeAll (boards.flatMap env.boardPaths) files = some final := by
  induction boards generalizing files with
  | nil => simp [removeAll]
  | cons board boards ih =>
    rw [List.foldlM_cons, Option.bind_eq_bind, Option.bind_eq_some_iff, List.flatMap_cons,
      removeAll_append, Option.bind_eq_some_iff]
    constructor
    · rintro ⟨mid, hmid, hrest⟩
      obtain ⟨hcomplete, hboard⟩ := deblobBoard_eq_some_iff.mp hmid
      obtain ⟨hothers, hremove⟩ := ih.mp hrest
      exact ⟨List.forall_mem_cons.mpr ⟨hcomplete, hothers⟩, mid, hboard, hremove⟩
    · rintro ⟨hcomplete, mid, hboard, hremove⟩
      obtain ⟨hhead, hothers⟩ := List.forall_mem_cons.mp hcomplete
      exact ⟨mid, deblobBoard_eq_some_iff.mpr ⟨hhead, hboard⟩, ih.mpr ⟨hothers, hremove⟩⟩

/-- **A run ends with 0 if all revision files exist and no word leads to a directory. The files that
are left are those that no word leads to.** -/
theorem deblob_eq_some_iff :
    env.deblob boards files = some final ↔
      (∀ board ∈ boards, board.Complete) ∧
      (∀ path ∈ env.paths boards, ∀ place, env.tree.locate path = some place →
        place ∉ env.tree.dirs) ∧
      final = files.filter (fun f => ∀ path ∈ env.paths boards, env.tree.locate path ≠ some f) := by
  rw [← removeAll_eq_some_iff, paths, removeAll_append, deblob, Option.bind_eq_bind,
    Option.bind_eq_some_iff, Option.bind_eq_some_iff]
  constructor
  · rintro ⟨mid, hmid, hrest⟩
    obtain ⟨hcomplete, hremove⟩ := foldlM_deblobBoard_eq_some_iff.mp hmid
    exact ⟨hcomplete, mid, hremove, hrest⟩
  · rintro ⟨hcomplete, mid, hremove, hrest⟩
    exact ⟨mid, foldlM_deblobBoard_eq_some_iff.mpr ⟨hcomplete, hremove⟩, hrest⟩

/-- The order of the boards does not matter. -/
theorem deblob_perm {boards' : List Board} (hperm : boards'.Perm boards)
    (h : env.deblob boards files = some final) : env.deblob boards' files = some final := by
  have hpaths : ∀ path, path ∈ env.paths boards' ↔ path ∈ env.paths boards := by
    intro path
    simp only [paths, List.mem_append, List.mem_flatMap, hperm.mem_iff]
  rw [deblob_eq_some_iff] at h ⊢
  simpa only [hpaths, hperm.mem_iff] using h

end Checkout

/-! ## What the lists say -/

/-- A tree, and a list that applies to it. -/
abbrev Source := Text × Option Text

namespace Checkout

variable (env : Checkout)

/-- The lists that apply to the trees. -/
def sources (boards : List Board) : List Source :=
  boards.flatMap (fun board =>
    [(board.path, env.coreboot board.coreboot), (board.path, env.vboot board.vboot)])
  ++ [(crossgcc, env.coreboot crossgcc)]

/-- The lists of a board that there is a loop for. -/
def boardLoops (board : Board) : List Source :=
  (board.path, env.coreboot board.coreboot)
    :: if board.payload ≠ crossgcc then [(board.path, env.vboot board.vboot)] else []

/-- The lists that there is a loop for. -/
def loops (boards : List Board) : List Source :=
  boards.flatMap env.boardLoops ++ [(crossgcc, env.coreboot crossgcc)]

/-- A line of the list names a file below the directory. -/
def Names (root list : Text) (f : Path) : Prop :=
  (∃ d, env.tree.directory root = some d ∧ d <+: f) ∧
    ∃ line ∈ lines list, env.tree.locate (inside root line) = some f

/-- A list names the file in the tree that it applies to. -/
def Listed (boards : List Board) (f : Path) : Prop :=
  ∃ source ∈ env.sources boards, ∃ list, source.2 = some list ∧ env.Names source.1 list f

/-- What stands between the blanks of a line, or a name that it matches as a pattern. -/
def HasWord (list word : Text) : Prop :=
  ∃ line ∈ lines list, ∃ w, IsWord line w ∧ word ∈ env.glob.expand w

/-- A word of a list that there is a loop for leads to the place. -/
def Reached (boards : List Board) (place : Path) : Prop :=
  ∃ source ∈ env.loops boards, ∃ list, source.2 = some list ∧
    ∃ word, env.HasWord list word ∧ env.tree.locate (inside source.1 word) = some place

/-- What an exit status of 0 should say: the lists of all boards existed, what a list names in its
tree is gone, everything else is there, and any other order of the boards gives the same. -/
structure Guarantee (boards : List Board) (files final : List Path) : Prop where
  lists : ∀ board ∈ boards,
    (env.coreboot board.coreboot).isSome ∧ (env.vboot board.vboot).isSome
  gone : ∀ f, env.Listed boards f → f ∉ final
  kept : ∀ f ∈ files, ¬ env.Listed boards f → f ∈ final
  order : ∀ boards', boards'.Perm boards → env.deblob boards' files = some final

/-- A revision file is missing, or a word leads to a directory. -/
def Fails (boards : List Board) : Prop :=
  (∃ board ∈ boards, ¬ board.Complete) ∨ ∃ place ∈ env.tree.dirs, env.Reached boards place

/-- All lists exist. A line that is not a plain word, or whose list has no loop, names a file that
is not there, or that a word leads to. A word that is no line, or has a `..`, leads to nothing that
is there, or to what a line names. -/
structure Covered (boards : List Board) (files : List Path) : Prop where
  lists : ∀ board ∈ boards,
    (env.coreboot board.coreboot).isSome ∧ (env.vboot board.vboot).isSome
  line : ∀ source ∈ env.sources boards, ∀ list, source.2 = some list → ∀ line ∈ lines list,
    ¬ Plain line ∨ source ∉ env.loops boards →
    ∀ f ∈ files, env.tree.locate (inside source.1 line) = some f →
    (∃ d, env.tree.directory source.1 = some d ∧ d <+: f) → env.Reached boards f
  word : ∀ source ∈ env.loops boards, ∀ list, source.2 = some list →
    ∀ word, env.HasWord list word → word ∉ lines list ∨ "..".toList ∈ components word →
    ∀ f ∈ files, env.tree.locate (inside source.1 word) = some f → env.Listed boards f

variable {env} {boards : List Board} {files final : List Path}

/-- What a loop goes through. -/
theorem mem_blobs_iff {list : Option Text} {blob : Text} :
    blob ∈ env.blobs list ↔ ∃ l, list = some l ∧ env.HasWord l blob := by
  cases list with
  | none => simp [blobs, substitute, Globbing.unquoted]
  | some list =>
    rw [blobs, Option.getD_some, unquoted_substitute, List.mem_flatMap]
    simp only [Globbing.unquoted, List.mem_flatMap, mem_words_iff, Option.some.injEq,
      exists_eq_left', HasWord]

theorem mem_boardPaths_iff {board : Board} {path : Text} :
    path ∈ env.boardPaths board ↔
      ∃ source ∈ env.boardLoops board, ∃ blob ∈ env.blobs source.2, inside source.1 blob = path := by
  by_cases hpayload : board.payload = crossgcc
  · simp [boardPaths, boardLoops, hpayload]
  · simp [boardPaths, boardLoops, hpayload, or_and_right, exists_or]

/-- **`rm -f` is called with the words of the lists that there are loops for.** -/
theorem mem_paths_iff {path : Text} :
    path ∈ env.paths boards ↔
      ∃ source ∈ env.loops boards, ∃ list, source.2 = some list ∧
        ∃ word, env.HasWord list word ∧ inside source.1 word = path := by
  have hloops : path ∈ env.paths boards ↔
      ∃ source ∈ env.loops boards, ∃ blob ∈ env.blobs source.2, inside source.1 blob = path := by
    rw [paths, List.mem_append, List.mem_flatMap, List.mem_map]
    simp only [mem_boardPaths_iff, loops, List.mem_append, List.mem_flatMap, List.mem_singleton,
      or_and_right, exists_or, exists_eq_left]
    refine or_congr_left ⟨?_, ?_⟩
    · rintro ⟨board, hboard, source, hsource, hpath⟩
      exact ⟨source, ⟨board, hboard, hsource⟩, hpath⟩
    · rintro ⟨source, ⟨board, hboard, hsource⟩, hpath⟩
      exact ⟨board, hboard, source, hsource, hpath⟩
  rw [hloops]
  refine exists_congr fun source => and_congr_right fun _ => ?_
  simp only [mem_blobs_iff]
  constructor
  · rintro ⟨word, ⟨list, hlist, hword⟩, hpath⟩
    exact ⟨list, hlist, word, hword, hpath⟩
  · rintro ⟨list, hlist, word, hword, hpath⟩
    exact ⟨word, ⟨list, hlist, hword⟩, hpath⟩

/-- A word of a list leads to what a path of `rm -f` leads to. -/
theorem exists_mem_paths_iff {place : Path} :
    (∃ path ∈ env.paths boards, env.tree.locate path = some place) ↔ env.Reached boards place := by
  simp only [mem_paths_iff]
  constructor
  · rintro ⟨-, ⟨source, hsource, list, hlist, word, hword, rfl⟩, hlocate⟩
    exact ⟨source, hsource, list, hlist, word, hword, hlocate⟩
  · rintro ⟨source, hsource, list, hlist, word, hword, hlocate⟩
    exact ⟨_, ⟨source, hsource, list, hlist, word, hword, rfl⟩, hlocate⟩

theorem mem_final_iff (h : env.deblob boards files = some final) (f : Path) :
    f ∈ final ↔ f ∈ files ∧ ¬ env.Reached boards f := by
  obtain ⟨-, -, rfl⟩ := deblob_eq_some_iff.mp h
  rw [List.mem_filter, decide_eq_true_eq, ← exists_mem_paths_iff]
  simp only [not_exists, not_and, ne_eq]

/-- A plain line is itself a word. -/
theorem hasWord_of_plain {list line : Text} (hline : line ∈ lines list) (hplain : Plain line) :
    env.HasWord list line := by
  refine ⟨line, hline, line, ?_, ?_⟩
  · exact ⟨hplain.ne_nil, hplain.no_blank, [], [], by simp, by simp, by simp⟩
  · rw [env.glob.plain line hplain]
    exact List.mem_singleton_self line

theorem mem_sources_of_mem_loops {source : Source} (h : source ∈ env.loops boards) :
    source ∈ env.sources boards := by
  rcases List.mem_append.mp h with h | h
  · obtain ⟨board, hboard, h⟩ := List.mem_flatMap.mp h
    refine List.mem_append_left _ (List.mem_flatMap.mpr ⟨board, hboard, ?_⟩)
    rcases List.mem_cons.mp h with rfl | h
    · exact List.mem_cons_self
    · split at h
      · exact List.mem_cons_of_mem _ h
      · exact absurd h List.not_mem_nil
  · exact List.mem_append_right _ h

theorem Covered.reached_iff (hcovered : env.Covered boards files) {f : Path} (hf : f ∈ files) :
    env.Reached boards f ↔ env.Listed boards f := by
  constructor
  · rintro ⟨source, hsource, list, hlist, word, hword, hlocate⟩
    by_cases hline : word ∉ lines list ∨ "..".toList ∈ components word
    · exact hcovered.word source hsource list hlist word hword hline f hf hlocate
    · obtain ⟨hline, hdots⟩ := not_or.mp hline
      have hbelow := prefix_of_locate (fun name hname hdot => hdots (hdot ▸ hname)) hlocate
      exact ⟨source, mem_sources_of_mem_loops hsource, list, hlist, hbelow, word,
        not_not.mp hline, hlocate⟩
  · rintro ⟨source, hsource, list, hlist, hbelow, line, hline, hlocate⟩
    by_cases hodd : ¬ Plain line ∨ source ∉ env.loops boards
    · exact hcovered.line source hsource list hlist line hline hodd f hf hlocate hbelow
    · obtain ⟨hplain, hloop⟩ := not_or.mp hodd
      exact ⟨source, not_not.mp hloop, list, hlist, line,
        hasWord_of_plain hline (not_not.mp hplain), hlocate⟩

theorem guarantee_of_covered (hcovered : env.Covered boards files)
    (h : env.deblob boards files = some final) : env.Guarantee boards files final where
  lists := hcovered.lists
  gone f hlisted hf := by
    obtain ⟨hmem, hnot⟩ := (mem_final_iff h f).mp hf
    exact hnot ((hcovered.reached_iff hmem).mpr hlisted)
  kept f hf hnot := (mem_final_iff h f).mpr ⟨hf, fun hreached =>
    hnot ((hcovered.reached_iff hf).mp hreached)⟩
  order _ hperm := deblob_perm hperm h

theorem covered_of_guarantee (hguarantee : env.Guarantee boards files final)
    (h : env.deblob boards files = some final) : env.Covered boards files where
  lists := hguarantee.lists
  line source hsource list hlist line hline _ f hf hlocate hbelow := by
    by_contra hnot
    exact hguarantee.gone f ⟨source, hsource, list, hlist, hbelow, line, hline, hlocate⟩
      ((mem_final_iff h f).mpr ⟨hf, hnot⟩)
  word source hsource list hlist word hword _ f hf hlocate := by
    by_contra hnot
    exact ((mem_final_iff h f).mp (hguarantee.kept f hf hnot)).2
      ⟨source, hsource, list, hlist, word, hword, hlocate⟩

/-- A run that does not end with 0. -/
theorem deblob_eq_none_iff : env.deblob boards files = none ↔ env.Fails boards := by
  constructor
  · intro h
    by_contra hnot
    simp only [Fails, not_or, not_exists, not_and, not_not] at hnot
    obtain ⟨hcomplete, hplaces⟩ := hnot
    have hsome : env.deblob boards files = some _ := deblob_eq_some_iff.mpr ⟨hcomplete,
      fun path hpath place hlocate hdir =>
        hplaces place hdir (exists_mem_paths_iff.mp ⟨path, hpath, hlocate⟩), rfl⟩
    rw [h] at hsome
    cases hsome
  · intro h
    cases hrun : env.deblob boards files with
    | none => rfl
    | some final =>
      obtain ⟨hcomplete, hplaces, -⟩ := deblob_eq_some_iff.mp hrun
      rcases h with ⟨board, hboard, hmissing⟩ | ⟨place, hdir, hreached⟩
      · exact absurd (hcomplete board hboard) hmissing
      · obtain ⟨path, hpath, hlocate⟩ := exists_mem_paths_iff.mpr hreached
        exact absurd hdir (hplaces path hpath place hlocate)

end Checkout

/-- A board whose coreboot revision has no list. -/
def unlisted : Board where
  payload := "grub".toList
  cbrevision := some "r\n".toList
  vbootrevision := some "v\n".toList

/-- The lists of its vboot revision and of crossgcc are there, and empty. -/
def unlistedCheckout : Checkout where
  tree :=
    { dirs := [[], ["coreboot".toList], ["coreboot".toList, ['r']], ["coreboot".toList, ['r'], ['r']]]
      cwd := []
      cwd_mem := by decide
      parent_mem := by decide }
  glob := Globbing.off
  coreboot revision := if revision = crossgcc then some [] else none
  vboot _ := some []

/-- Each line of the list is empty, or a plain word that does not lead upwards. -/
def PlainList (list : Text) : Prop :=
  ∀ line ∈ lines list, line ≠ [] → Plain line ∧ "..".toList ∉ components line

namespace Checkout

variable {env : Checkout} {boards : List Board} {files final : List Path}

/-- The words of a plain list are its lines. -/
theorem HasWord.of_plainList {list word : Text} (h : env.HasWord list word)
    (hplain : PlainList list) : word ∈ lines list ∧ word ≠ [] := by
  obtain ⟨line, hline, w, hw, hword⟩ := h
  have hmem : w ∈ words line := hw.mem_words
  have hne : line ≠ [] := by
    rintro rfl
    simp at hmem
  have hp : Plain line := (hplain line hline hne).1
  rw [words_of_no_blank hp.ne_nil hp.no_blank, List.mem_singleton] at hmem
  rw [hmem, env.glob.plain line hp, List.mem_singleton] at hword
  subst hword
  exact ⟨hline, hne⟩

/-- If no payload is called crossgcc, every list that applies to a tree has a loop. -/
theorem mem_loops_of_mem_sources (h : ∀ board ∈ boards, board.payload ≠ crossgcc) {source : Source}
    (hsource : source ∈ env.sources boards) : source ∈ env.loops boards := by
  rcases List.mem_append.mp hsource with hsource | hsource
  · obtain ⟨board, hboard, hsource⟩ := List.mem_flatMap.mp hsource
    refine List.mem_append_left _ (List.mem_flatMap.mpr ⟨board, hboard, ?_⟩)
    rwa [boardLoops, if_pos (h board hboard)]
  · exact List.mem_append_right _ hsource

/-- **If all lists exist and have a plain word on each line, their words lead to what they name.** -/
theorem covered_of_plain
    (hlists : ∀ board ∈ boards,
      (env.coreboot board.coreboot).isSome ∧ (env.vboot board.vboot).isSome)
    (hplain : ∀ source ∈ env.sources boards, ∀ list, source.2 = some list → PlainList list)
    (hpayload : ∀ board ∈ boards, board.payload ≠ crossgcc)
    (hfiles : ∀ f ∈ files, f ∉ env.tree.dirs) : env.Covered boards files where
  lists := hlists
  line source hsource list hlist line hline hodd f hf hlocate _ := by
    have hne : line ≠ [] := by
      rintro rfl
      exact hfiles f hf (mem_dirs_of_locate_slash hlocate)
    rcases hodd with hodd | hodd
    · exact absurd (hplain source hsource list hlist line hline hne).1 hodd
    · exact absurd (mem_loops_of_mem_sources hpayload hsource) hodd
  word source hsource list hlist word hword hodd f hf hlocate := by
    have hlist := hplain source (mem_sources_of_mem_loops hsource) list hlist
    obtain ⟨hline, hne⟩ := hword.of_plainList hlist
    rcases hodd with hodd | hodd
    · exact absurd hline hodd
    · exact absurd hodd (hlist word hline hne).2

end Checkout

end Libreboot.CorebootLibre
