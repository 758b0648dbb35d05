import Libreboot.Infra.Creation
import Libreboot.Infra.Git

/-!
# The branches of the boards

`helpers/build/module/coreboot`. The sources of a coreboot revision, and those of vboot in them, become
git repositories, and in both of them every board that uses the revision gets a branch with its patches:
those that all boards have, those that it shares with other boards, and its own.

The sources have just been downloaded, so they are no repositories yet. Whether a patch applies and which
names git takes for a branch are arguments. A board whose revision files are not there ends the script.

* `forEach_withRevisions_eq_ok` — a loop over the directories of the boards
* `appends_applyPatches` — the three steps put the series of a board on its branch
* `patchPart_creates` — a round of the loop creates one branch
* `moduleCoreboot_eq_ok` — when the script gets through, and all branches that there are then
-/

namespace Libreboot.Coreboot

open Infra Script

/-! ## The script -/

inductive Part
  | coreboot
  | vboot
  deriving DecidableEq

def parts : List Part := [.coreboot, .vboot]

/-- A directory `resources/libreboot/config/${payload}/${boardname}/`, whose files may be missing. -/
structure BoardConfig where
  payload : String
  boardname : String
  cbrevision : Option String
  vbootrevision : Option String

/-- What has been read from it. -/
structure Board where
  payload : String
  boardname : String
  cbrevision : String
  vbootrevision : String

def BoardConfig.board (boardconfig : BoardConfig) : Option Board :=
  boardconfig.cbrevision.bind fun cbrevision =>
    boardconfig.vbootrevision.map fun vbootrevision =>
      ⟨boardconfig.payload, boardconfig.boardname, cbrevision, vbootrevision⟩

namespace Board

def branchname (board : Board) : String := board.payload ++ "_" ++ board.boardname

def revision (board : Board) : Part → String
  | .coreboot => board.cbrevision
  | .vboot => board.vbootrevision

/-- The directory with both files. -/
def config (board : Board) : BoardConfig :=
  ⟨board.payload, board.boardname, some board.cbrevision, some board.vbootrevision⟩

end Board

/-- `cbrevision=$(cat …)` and `vbootrevision=$(cat …)` -/
def withRevisions {σ : Type} (body : Board → Command σ) (boardconfig : BoardConfig) : Command σ :=
  match boardconfig.board with
  | none => .error
  | some board => body board

/-- What lies under `resources/libreboot/patch/`. -/
structure Patches (P : Type) where
  /-- `common/${part}/${revision}/*.patch`, in ascending order -/
  common : Part → String → List P
  /-- The words of `${part}/${revision}/${payload}/${boardname}/reused.list`, none without the file. -/
  reused : Part → Board → List String
  /-- The patch of this name. -/
  file : String → Option P
  /-- `${part}/${revision}/${payload}/${boardname}/*.patch`, in ascending order -/
  own : Part → Board → List P

/-- The repositories of the sources of a revision. -/
abbrev Sources (P : Type) := String × Part → Option (Repository P)

section Script

variable {P : Type} (takes : String → Bool) (applies : String → Part → List P → P → Bool)
  (patches : Patches P)

/-- Check for invalid paths in the reused.list patch lists before proceeding. -/
def checkLists (boardconfigs : List BoardConfig) : Command (Sources P) :=
  forEach (withRevisions fun board => forEach (fun part => forEach (fun patch =>
    if (patches.file patch).isSome then .ok else .error) (patches.reused part board)) parts)
      boardconfigs

/-- Use git-init on everything. -/
def initRepositories (revisions : List String) : Command (Sources P) :=
  forEach (fun revision => forEach (fun part =>
    onEntry (revision, part) fun _ => .ok (some Repository.init)) parts) revisions

def applyPatchesFromDirectory (applies : List P → P → Bool) (directory : List P) :
    Command (Repository P) :=
  forEach (Repository.am applies) directory

def applyPatchesFromFile (applies : List P → P → Bool) (patchList : List String) :
    Command (Repository P) :=
  forEach (fun patchname repo =>
    match patches.file patchname with
    | none => .error repo
    | some patch => Repository.am applies patch repo) patchList

/-- The patches of a board. -/
def applyPatches (board : Board) (part : Part) : Command (Repository P) :=
  let applies := applies board.cbrevision part
  both (applyPatchesFromDirectory applies (patches.common part (board.revision part))) <|
  both (applyPatchesFromFile patches applies (patches.reused part board)) <|
  applyPatchesFromDirectory applies (patches.own part board)

/-- `cd` ends the script if there is no such directory. -/
def inDirectory (command : Command (Repository P)) : Command (Option (Repository P))
  | none => .error none
  | some repo =>
    match command repo with
    | .ok repo => .ok (some repo)
    | .error repo => .error (some repo)

/-- Create the branch of a board, in coreboot or in vboot. -/
def patchPart (board : Board) (part : Part) : Command (Sources P) :=
  onEntry (board.cbrevision, part)
    (inDirectory
      (Repository.makeBranch takes board.branchname (applyPatches applies patches board part)))

/-- Everything up to the coreboot utilities. -/
def moduleCoreboot (revisions : List String) (boardconfigs : List BoardConfig) :
    Except (Sources P) (Sources P) :=
  both (checkLists patches boardconfigs)
    (both (initRepositories revisions)
      (forEach (withRevisions fun board => forEach (patchPart takes applies patches board) parts)
        boardconfigs))
    fun _ => none

end Script

/-! ## The directories of the boards -/

/-- The boards that are read from the directories, in their order. All files are there. -/
def Reads (boardconfigs : List BoardConfig) (boards : List Board) : Prop :=
  boardconfigs.map BoardConfig.board = boards.map some

section Reads

variable {boardconfigs : List BoardConfig} {boards boards' : List Board}

theorem Reads.mem (h : Reads boardconfigs boards) {boardconfig : BoardConfig} {board : Board}
    (hmem : boardconfig ∈ boardconfigs) (hboard : boardconfig.board = some board) :
    board ∈ boards := by
  have hread : some board ∈ boards.map some := h ▸ List.mem_map.mpr ⟨boardconfig, hmem, hboard⟩
  simpa using hread

theorem Reads.unique (h : Reads boardconfigs boards) (h' : Reads boardconfigs boards') :
    boards = boards' :=
  List.map_injective_iff.mpr (fun _ _ => Option.some.inj) (h.symm.trans h')

theorem reads_config (boards : List Board) : Reads (boards.map Board.config) boards :=
  List.map_map

/-- **A loop over the directories** ends if a file is missing, and is a loop over the boards otherwise. -/
theorem forEach_withRevisions_eq_ok {σ : Type} {body : Board → Command σ} :
    ∀ {boardconfigs : List BoardConfig} {s s' : σ},
      forEach (withRevisions body) boardconfigs s = .ok s' ↔
        ∃ boards, Reads boardconfigs boards ∧ forEach body boards s = .ok s'
  | [], s, s' => by
    refine ⟨fun h => ⟨[], rfl, h⟩, ?_⟩
    rintro ⟨boards, hreads, h⟩
    obtain rfl := List.map_eq_nil_iff.mp hreads.symm
    exact h
  | boardconfig :: boardconfigs, s, s' => by
    rw [forEach, both_eq_ok]
    constructor
    · rintro ⟨mid, hround, hloop⟩
      unfold withRevisions at hround
      cases hboard : boardconfig.board with
      | none => simp [hboard] at hround
      | some board =>
        rw [hboard] at hround
        obtain ⟨boards, hreads, hloop⟩ := forEach_withRevisions_eq_ok.mp hloop
        refine ⟨board :: boards, ?_, both_eq_ok.mpr ⟨mid, hround, hloop⟩⟩
        rw [Reads, List.map_cons, List.map_cons, hboard, hreads]
    · rintro ⟨boards, hreads, hloop⟩
      cases boards with
      | nil => cases hreads
      | cons board boards =>
        obtain ⟨hboard, hreads⟩ := List.cons_eq_cons.mp hreads
        obtain ⟨mid, hround, hloop⟩ := both_eq_ok.mp hloop
        refine ⟨mid, ?_, forEach_withRevisions_eq_ok.mpr ⟨boards, hreads, hloop⟩⟩
        unfold withRevisions
        rw [hboard]
        exact hround

end Reads

/-! ## The series of a board -/

/-- A list of words names patches. -/
def Patches.Listed {P : Type} (patches : Patches P) (board : Board) (part : Part) : Prop :=
  ∀ patch ∈ patches.reused part board, ∃ p, patches.file patch = some p

/-- All patches of a board, in the order in which they are applied. -/
def Patches.series {P : Type} (patches : Patches P) (board : Board) (part : Part) : List P :=
  patches.common part (board.revision part)
    ++ ((patches.reused part board).flatMap (fun patch => (patches.file patch).toList)
      ++ patches.own part board)

section Series

variable {P : Type} {applies : String → Part → List P → P → Bool} {patches : Patches P}
  {board : Board} {part : Part}

theorem appends_directory (applies : List P → P → Bool) (directory : List P) :
    Repository.Appends applies directory (applyPatchesFromDirectory applies directory) := by
  have h : Repository.Appends applies (directory.flatMap fun patch => [patch])
      (applyPatchesFromDirectory applies directory) :=
    Repository.appends_forEach fun patch _ => Repository.appends_am patch
  rw [List.flatMap_singleton'] at h
  exact h

theorem appends_file {applies : List P → P → Bool} (h : patches.Listed board part) :
    Repository.Appends applies
      ((patches.reused part board).flatMap fun patch => (patches.file patch).toList)
      (applyPatchesFromFile patches applies (patches.reused part board)) := by
  refine Repository.appends_forEach fun patch hpatch => ?_
  obtain ⟨p, hp⟩ := h patch hpatch
  rw [hp]
  exact Repository.appends_am p

/-- **The three steps** put the series of the board on its branch. -/
theorem appends_applyPatches (h : patches.Listed board part) :
    Repository.Appends (applies board.cbrevision part) (patches.series board part)
      (applyPatches applies patches board part) :=
  (appends_directory _ _).both ((appends_file h).both (appends_directory _ _))

/-- A patch that is missing ends the script. -/
theorem listed_of_ok {repo repo' : Repository P}
    (h : applyPatches applies patches board part repo = .ok repo') : patches.Listed board part := by
  obtain ⟨_, -, hrest⟩ := both_eq_ok.mp h
  obtain ⟨_, hfile, -⟩ := both_eq_ok.mp hrest
  intro patch hpatch
  obtain ⟨u, v, hround⟩ := rounds_of_forEach hfile patch hpatch
  cases hp : patches.file patch with
  | none => simp [hp] at hround
  | some p => exact ⟨p, rfl⟩

end Series

/-! ## What the script leaves -/

section Spec

variable {P : Type} (takes : String → Bool) (applies : String → Part → List P → P → Bool)
  (patches : Patches P) (revisions : List String) (boards : List Board)

/-- All that a board needs. -/
structure Patchable (board : Board) : Prop where
  branchname : takes board.branchname = true
  revision : board.cbrevision ∈ revisions
  listed : ∀ part, patches.Listed board part
  applies : ∀ part,
    Repository.Applies (applies board.cbrevision part) [] (patches.series board part)

/-- The repositories of all revisions, with a branch for each of their boards and no other one. -/
structure Branched (sources : Sources P) : Prop where
  absent : ∀ revision, revision ∉ revisions → ∀ part, sources (revision, part) = none
  onMaster : ∀ revision ∈ revisions, ∀ part,
    ∃ repo, sources (revision, part) = some repo ∧ Repository.OnMaster repo
  branch : ∀ board ∈ boards, ∀ part, ∃ repo, sources (board.cbrevision, part) = some repo
    ∧ repo.branches board.branchname = some (patches.series board part)
  other : ∀ revision part repo, sources (revision, part) = some repo → ∀ name,
    name ≠ Repository.master →
      (∀ board ∈ boards, board.cbrevision = revision → board.branchname ≠ name) →
        repo.branches name = none

variable {takes applies patches revisions boards}

theorem branchname_ne_master (board : Board) : board.branchname ≠ Repository.master := by
  intro heq
  have hmem : '_' ∈ board.branchname.toList := by
    simp [Board.branchname]
  rw [heq] at hmem
  revert hmem
  decide

/-- It is known what the repositories look like. -/
theorem Branched.unique {sources sources' : Sources P}
    (h : Branched patches revisions boards sources)
    (h' : Branched patches revisions boards sources') : sources = sources' := by
  funext ⟨revision, part⟩
  by_cases hrevision : revision ∈ revisions
  · obtain ⟨repo, hrepo, hmaster⟩ := h.onMaster revision hrevision part
    obtain ⟨repo', hrepo', hmaster'⟩ := h'.onMaster revision hrevision part
    have hbranches : repo.branches = repo'.branches := by
      funext name
      by_cases hname : name = Repository.master
      · rw [hname, hmaster.pristine, hmaster'.pristine]
      · by_cases hboard : ∃ board ∈ boards, board.cbrevision = revision ∧ board.branchname = name
        · obtain ⟨board, hmem, rfl, rfl⟩ := hboard
          obtain ⟨_, hsome, hbranch⟩ := h.branch board hmem part
          obtain ⟨_, hsome', hbranch'⟩ := h'.branch board hmem part
          obtain rfl := Option.some.inj (hrepo.symm.trans hsome)
          obtain rfl := Option.some.inj (hrepo'.symm.trans hsome')
          rw [hbranch, hbranch']
        · have hnone : ∀ board ∈ boards, board.cbrevision = revision → board.branchname ≠ name :=
            fun board hmem heq hname => hboard ⟨board, hmem, heq, hname⟩
          rw [h.other revision part repo hrepo name hname hnone,
            h'.other revision part repo' hrepo' name hname hnone]
    have hhead : repo.head = repo'.head := hmaster.head.trans hmaster'.head.symm
    cases repo
    cases repo'
    rw [hrepo, hrepo']
    exact congrArg some (congr (congrArg Repository.mk hbranches) hhead)
  · rw [h.absent revision hrevision part, h'.absent revision hrevision part]

end Spec

/-! ## The loops -/

section Loops

variable {P : Type} {takes : String → Bool} {applies : String → Part → List P → P → Bool}
  {patches : Patches P} {revisions : List String} {boardconfigs : List BoardConfig}
  {boards : List Board}

/-- What the loop over the boards keeps. -/
structure Initialised (revisions : List String) (sources : Sources P) : Prop where
  there : ∀ key, (∃ repo, sources key = some repo) ↔ key.1 ∈ revisions
  onMaster : ∀ key repo, sources key = some repo → Repository.OnMaster repo

/-- The branches of all repositories. -/
def branchesOf (sources : Sources P) (key : (String × Part) × String) : Option (List P) :=
  (sources key.1).bind fun repo => repo.branches key.2

theorem inDirectory_eq_ok {command : Command (Repository P)} {u v : Option (Repository P)} :
    inDirectory command u = .ok v ↔
      ∃ repo repo', u = some repo ∧ command repo = .ok repo' ∧ v = some repo' := by
  cases u with
  | none => simp [inDirectory]
  | some repo =>
    cases hrun : command repo with
    | error repo' => simp [inDirectory, hrun]
    | ok repo' => simp [inDirectory, hrun, eq_comm]

/-- **The branch of a board** in one repository. -/
theorem patchPart_eq_ok {board : Board} {part : Part} {sources sources' : Sources P}
    (h : Initialised revisions sources) :
    patchPart takes applies patches board part sources = .ok sources' ↔
      ∃ repo, sources (board.cbrevision, part) = some repo
        ∧ takes board.branchname = true ∧ repo.branches board.branchname = none
        ∧ patches.Listed board part
        ∧ Repository.Applies (applies board.cbrevision part) [] (patches.series board part)
        ∧ sources' = Function.update sources (board.cbrevision, part)
          (some (repo.withBranch board.branchname (patches.series board part))) := by
  unfold patchPart
  rw [onEntry_eq_ok, inDirectory_eq_ok]
  constructor
  · rintro ⟨⟨repo, repo', hrepo, hmake, hrepo'⟩, hframe⟩
    obtain ⟨_, _, happly⟩ := Repository.apply_of_makeBranch hmake
    have hlisted : patches.Listed board part := listed_of_ok happly
    obtain ⟨htakes, hnone, happlies, rfl⟩ := (Repository.makeBranch_eq_ok (h.onMaster _ _ hrepo)
      (appends_applyPatches hlisted)).mp hmake
    exact ⟨repo, hrepo, htakes, hnone, hlisted, happlies,
      Function.eq_update_iff.mpr ⟨hrepo', hframe⟩⟩
  · rintro ⟨repo, hrepo, htakes, hnone, hlisted, happlies, rfl⟩
    refine ⟨⟨repo, _, hrepo, (Repository.makeBranch_eq_ok (h.onMaster _ _ hrepo)
      (appends_applyPatches hlisted)).mpr ⟨htakes, hnone, happlies, rfl⟩,
      Function.update_self _ _ _⟩,
      fun key hne => Function.update_of_ne hne _ _⟩

/-- **A board** gets two new branches. -/
theorem patchPart_creates :
    CreatesEntries (Initialised revisions) branchesOf
      (fun x : Board × Part => ((x.1.cbrevision, x.2), x.1.branchname))
      (fun x => patches.series x.1 x.2)
      (fun x => takes x.1.branchname = true ∧ x.1.cbrevision ∈ revisions
        ∧ patches.Listed x.1 x.2
        ∧ Repository.Applies (applies x.1.cbrevision x.2) [] (patches.series x.1 x.2))
      (fun x => patchPart takes applies patches x.1 x.2) where
  goes_on := by
    rintro ⟨board, part⟩ sources h
    constructor
    · rintro ⟨sources', hrun⟩
      obtain ⟨repo, hrepo, htakes, hnone, hlisted, happlies, -⟩ := (patchPart_eq_ok h).mp hrun
      refine ⟨?_, htakes, (h.there _).mp ⟨repo, hrepo⟩, hlisted, happlies⟩
      rw [branchesOf, hrepo, Option.bind_some, hnone]
    · rintro ⟨hnone, htakes, hrevision, hlisted, happlies⟩
      obtain ⟨repo, hrepo⟩ := (h.there (board.cbrevision, part)).mpr hrevision
      rw [branchesOf, hrepo, Option.bind_some] at hnone
      exact ⟨_, (patchPart_eq_ok h).mpr ⟨repo, hrepo, htakes, hnone, hlisted, happlies, rfl⟩⟩
  creates := by
    rintro ⟨board, part⟩ sources sources' h hrun
    obtain ⟨repo, hrepo, -, -, -, -, rfl⟩ := (patchPart_eq_ok h).mp hrun
    refine ⟨⟨fun key => ?_, fun key other hother => ?_⟩, ?_⟩
    · by_cases hkey : key = (board.cbrevision, part)
      · rw [hkey, Function.update_self, ← h.there, hrepo]
        simp
      · rw [Function.update_of_ne hkey, h.there]
    · by_cases hkey : key = (board.cbrevision, part)
      · rw [hkey, Function.update_self] at hother
        obtain rfl := Option.some.inj hother
        exact (h.onMaster _ _ hrepo).withBranch (branchname_ne_master board) _
      · rw [Function.update_of_ne hkey] at hother
        exact h.onMaster key other hother
    · funext ⟨key, name⟩
      by_cases hkey : key = (board.cbrevision, part)
      · subst hkey
        by_cases hname : name = board.branchname
        · rw [hname, Function.update_self, branchesOf, Function.update_self, Option.bind_some,
            Repository.withBranch_self]
        · rw [Function.update_of_ne (by simp [hname]), branchesOf, Function.update_self,
            Option.bind_some, Repository.withBranch_of_ne hname, branchesOf, hrepo,
            Option.bind_some]
      · rw [Function.update_of_ne (by simp [hkey]), branchesOf, Function.update_of_ne hkey,
          branchesOf]

/-- The lists are read before anything is done. -/
theorem checkLists_eq_ok {sources sources' : Sources P} :
    checkLists patches boardconfigs sources = .ok sources' ↔
      ∃ boards, Reads boardconfigs boards ∧ sources' = sources
        ∧ ∀ board ∈ boards, ∀ part ∈ parts, patches.Listed board part := by
  have hlisted : ∀ board part (s s' : Sources P), forEach (fun patch =>
      if (patches.file patch).isSome then .ok else .error) (patches.reused part board) s = .ok s'
        ↔ s' = s ∧ patches.Listed board part := by
    refine fun board part _ _ => forEach_tests fun patch s s' => ?_
    rw [← Option.isSome_iff_exists]
    cases (patches.file patch).isSome <;> simp [eq_comm]
  unfold checkLists
  rw [forEach_withRevisions_eq_ok]
  exact exists_congr fun boards => and_congr_right fun _ =>
    forEach_tests fun board s s' => forEach_tests (hlisted board)

theorem mem_parts (part : Part) : part ∈ parts := by cases part <;> decide

/-- Every repository has its first commit. -/
theorem initRepositories_eq_ok (revisions : List String) (sources : Sources P) :
    initRepositories revisions sources =
      .ok fun key => if key.1 ∈ revisions then some Repository.init else sources key := by
  induction revisions generalizing sources with
  | nil => simp [initRepositories, forEach]
  | cons revision revisions ih =>
    have hboth : forEach (fun part : Part => onEntry (revision, part) fun _ =>
        .ok (some Repository.init)) parts sources
          = .ok fun key => if key.1 = revision then some Repository.init else sources key := by
      show Except.ok _ = Except.ok _
      congr 1
      funext key
      obtain ⟨other, part⟩ := key
      cases part <;> simp [Function.update_apply]
    show (forEach (fun part : Part => onEntry (revision, part) fun _ =>
      .ok (some Repository.init)) parts sources).bind (initRepositories revisions) = _
    rw [hboth]
    show initRepositories revisions _ = _
    rw [ih]
    congr 1
    funext key
    by_cases hkey : key.1 ∈ revisions
    · rw [if_pos hkey, if_pos (List.mem_cons_of_mem _ hkey)]
    · simp [hkey]

theorem initialised (revisions : List String) :
    Initialised (P := P) revisions
      fun key => if key.1 ∈ revisions then some Repository.init else none where
  there key := by
    by_cases hkey : key.1 ∈ revisions <;> simp [hkey]
  onMaster key repo h := by
    split at h
    · obtain rfl := Option.some.inj h
      exact Repository.onMaster_init
    · cases h

/-! ### The loop over the boards -/

def targets (boards : List Board) : List (Board × Part) :=
  boards.flatMap fun board => parts.map fun part => (board, part)

theorem mem_targets {board : Board} {part : Part} : (board, part) ∈ targets boards ↔ board ∈ boards := by
  simp [targets, mem_parts]

/-- Where a board has its branch. -/
def Board.place (board : Board) : String × String := (board.cbrevision, board.branchname)

theorem nodup_targets : ∀ {boards : List Board},
    ((targets boards).map fun x => ((x.1.cbrevision, x.2), x.1.branchname)).Nodup
      ↔ (boards.map Board.place).Nodup
  | [] => by simp [targets]
  | board :: boards => by
    have hnew : ∀ part, ((board.cbrevision, part), board.branchname)
        ∉ (targets boards).map (fun x => ((x.1.cbrevision, x.2), x.1.branchname))
          ↔ board.place ∉ boards.map Board.place := by
      intro part
      rw [not_iff_not, List.mem_map, List.mem_map]
      constructor
      · rintro ⟨⟨other, part'⟩, hmem, heq⟩
        obtain ⟨⟨hrevision, -⟩, hname⟩ : (other.cbrevision = board.cbrevision ∧ part' = part)
            ∧ other.branchname = board.branchname := by simpa using heq
        exact ⟨other, mem_targets.mp hmem, Prod.ext hrevision hname⟩
      · rintro ⟨other, hmem, heq⟩
        refine ⟨(other, part), mem_targets.mpr hmem, ?_⟩
        show ((other.place.1, part), other.place.2) = _
        rw [heq]
        rfl
    show (((board.cbrevision, Part.coreboot), board.branchname) ::
      ((board.cbrevision, Part.vboot), board.branchname) ::
        (targets boards).map fun x => ((x.1.cbrevision, x.2), x.1.branchname)).Nodup ↔ _
    rw [List.nodup_cons, List.nodup_cons, List.mem_cons, not_or, hnew, hnew, nodup_targets,
      List.map_cons, List.nodup_cons]
    constructor
    · rintro ⟨-, hboard, hboards⟩
      exact ⟨hboard, hboards⟩
    · rintro ⟨hboard, hboards⟩
      exact ⟨⟨by simp, hboard⟩, hboard, hboards⟩

/-- What is done after the lists have been read. -/
theorem moduleCoreboot_eq {sources : Sources P} :
    moduleCoreboot takes applies patches revisions boardconfigs = .ok sources ↔
      ∃ boards, Reads boardconfigs boards
        ∧ (∀ board ∈ boards, ∀ part ∈ parts, patches.Listed board part)
        ∧ forEach (fun x => patchPart takes applies patches x.1 x.2) (targets boards)
          (fun key => if key.1 ∈ revisions then some Repository.init else none) = .ok sources := by
  have hloop : ∀ (boards : List Board) (mid : Sources P),
      forEach (fun board => forEach (patchPart takes applies patches board) parts) boards mid
        = forEach (fun x => patchPart takes applies patches x.1 x.2) (targets boards) mid := by
    intro boards mid
    rw [targets, ← forEach_flatMap]
    rfl
  unfold moduleCoreboot
  rw [both_eq_ok]
  constructor
  · rintro ⟨_, hcheck, hrun⟩
    obtain ⟨boards, hreads, rfl, hlisted⟩ := checkLists_eq_ok.mp hcheck
    obtain ⟨_, hinit, hrun⟩ := both_eq_ok.mp hrun
    rw [initRepositories_eq_ok] at hinit
    obtain rfl := Except.ok.inj hinit
    obtain ⟨boards', hreads', hrun⟩ := forEach_withRevisions_eq_ok.mp hrun
    obtain rfl := hreads.unique hreads'
    rw [hloop] at hrun
    exact ⟨boards, hreads, hlisted, hrun⟩
  · rintro ⟨boards, hreads, hlisted, hrun⟩
    refine ⟨_, checkLists_eq_ok.mpr ⟨boards, hreads, rfl, hlisted⟩, both_eq_ok.mpr
      ⟨_, initRepositories_eq_ok revisions _, forEach_withRevisions_eq_ok.mpr
        ⟨boards, hreads, ?_⟩⟩⟩
    rw [hloop]
    exact hrun

end Loops

/-! ## The whole script -/

section Whole

variable {P : Type} {takes : String → Bool} {applies : String → Part → List P → P → Bool}
  {patches : Patches P} {revisions : List String} {boardconfigs : List BoardConfig}
  {sources : Sources P}

theorem branched_of_ok
    (h : moduleCoreboot takes applies patches revisions boardconfigs = .ok sources) :
    ∃ boards, Reads boardconfigs boards ∧ Branched patches revisions boards sources := by
  obtain ⟨boards, hreads, -, hrun⟩ := moduleCoreboot_eq.mp h
  obtain ⟨hkept, hcreated, hframe⟩ :=
    patchPart_creates.forEach_eq_ok (initialised revisions) hrun
  refine ⟨boards, hreads, fun revision hrevision part => ?_, fun revision hrevision part => ?_,
    fun board hboard part => ?_, fun revision part repo hrepo name hname hnone => ?_⟩
  · by_contra hsome
    obtain ⟨repo, hrepo⟩ := Option.ne_none_iff_exists'.mp hsome
    exact hrevision ((hkept.there _).mp ⟨repo, hrepo⟩)
  · obtain ⟨repo, hrepo⟩ := (hkept.there (revision, part)).mpr hrevision
    exact ⟨repo, hrepo, hkept.onMaster _ _ hrepo⟩
  · have hbranch := hcreated (board, part) (mem_targets.mpr hboard)
    exact Option.bind_eq_some_iff.mp hbranch
  · have hkey := hframe ((revision, part), name) ?_
    · have hrevision := (hkept.there (revision, part)).mp ⟨repo, hrepo⟩
      rw [branchesOf, hrepo, Option.bind_some, branchesOf, if_pos hrevision] at hkey
      rw [hkey]
      simp [Repository.init, hname]
    · intro hmem
      obtain ⟨⟨board, part'⟩, htarget, heq⟩ := List.mem_map.mp hmem
      obtain ⟨⟨hrevision, -⟩, hbranch⟩ : (board.cbrevision = revision ∧ part' = part)
          ∧ board.branchname = name := by simpa using heq
      exact hnone board (mem_targets.mp htarget) hrevision hbranch

theorem moduleCoreboot_gets_through :
    (∃ sources, moduleCoreboot takes applies patches revisions boardconfigs = .ok sources) ↔
      ∃ boards, Reads boardconfigs boards
        ∧ (∀ board ∈ boards, Patchable takes applies patches revisions board)
        ∧ (boards.map Board.place).Nodup := by
  have hcreates := @patchPart_creates P takes applies patches revisions
  have hnew : ∀ boards, ∀ x ∈ targets boards, branchesOf
      (fun key => if key.1 ∈ revisions then some (Repository.init : Repository P) else none)
      ((x.1.cbrevision, x.2), x.1.branchname) = none := by
    rintro boards ⟨board, part⟩ -
    by_cases hrevision : board.cbrevision ∈ revisions
    · simp [branchesOf, hrevision, Repository.init, branchname_ne_master]
    · simp [branchesOf, hrevision]
  constructor
  · rintro ⟨sources, h⟩
    obtain ⟨boards, hreads, -, hrun⟩ := moduleCoreboot_eq.mp h
    obtain ⟨hgood, hnodup⟩ := (hcreates.exists_forEach (initialised revisions)).mp ⟨sources, hrun⟩
    refine ⟨boards, hreads, fun board hboard => ?_, nodup_targets.mp hnodup⟩
    have hpart := fun part => (hgood (board, part) (mem_targets.mpr hboard)).2
    exact ⟨(hpart .coreboot).1, (hpart .coreboot).2.1, fun part => (hpart part).2.2.1,
      fun part => (hpart part).2.2.2⟩
  · rintro ⟨boards, hreads, hboards, hnodup⟩
    obtain ⟨sources, hrun⟩ := (hcreates.exists_forEach (initialised revisions)).mpr
      ⟨fun x hx => by
        have hboard := hboards x.1 (mem_targets.mp hx)
        exact ⟨hnew boards x hx, hboard.branchname, hboard.revision, hboard.listed x.2,
          hboard.applies x.2⟩, nodup_targets.mpr hnodup⟩
    exact ⟨sources, moduleCoreboot_eq.mpr
      ⟨boards, hreads, fun board hboard part _ => (hboards board hboard).listed part, hrun⟩⟩

/--
**The repositories after the script.** It gets through exactly if both revision files of every board are
there, all lists name patches, the revision of every board is there, git takes the names of the
branches, no two boards of a revision have a branch of the same name, and the patches of each board
apply one after the other. Then all repositories are back on the first commit, and every board has a
branch with its own series in both, whatever the order of the boards.
-/
theorem moduleCoreboot_eq_ok :
    moduleCoreboot takes applies patches revisions boardconfigs = .ok sources ↔
      ∃ boards, Reads boardconfigs boards
        ∧ (∀ board ∈ boards, Patchable takes applies patches revisions board)
        ∧ (boards.map Board.place).Nodup ∧ Branched patches revisions boards sources := by
  constructor
  · intro h
    obtain ⟨boards, hreads, hbranched⟩ := branched_of_ok h
    obtain ⟨boards', hreads', hboards, hnodup⟩ := moduleCoreboot_gets_through.mp ⟨sources, h⟩
    obtain rfl := hreads.unique hreads'
    exact ⟨boards, hreads, hboards, hnodup, hbranched⟩
  · rintro ⟨boards, hreads, hboards, hnodup, hbranched⟩
    obtain ⟨sources', h⟩ := moduleCoreboot_gets_through.mpr ⟨boards, hreads, hboards, hnodup⟩
    obtain ⟨boards', hreads', hbranched'⟩ := branched_of_ok h
    obtain rfl := hreads.unique hreads'
    rw [h, hbranched'.unique hbranched]

end Whole

end Libreboot.Coreboot
