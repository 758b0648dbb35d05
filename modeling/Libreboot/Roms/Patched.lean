import Libreboot.Coreboot.Branches
import Libreboot.Roms.Runs

/-!
# From the patches to the images

`make` in the sources of a revision compiles the branch that is checked out, in coreboot and in vboot.
So the branches that `helpers/build/module/coreboot` makes are what the images of a board are made of,
and no board gets patches of another one.

* `toolchainOf` — the tools of a revision, with these branches
* `withgrub_patched` — the images of a board, from its own series of patches
* `withseabios_isolated` — they stay the same when other boards get other patches
-/

namespace Libreboot.Roms

open Infra Script Coreboot

/-! ## The tools of a revision -/

/-- What compiles the sources of a revision. -/
structure Compiler (P : Type) where
  /-- `make`, from the patches in coreboot and in vboot and from what `Toolchain.make` reads -/
  make : List P → List P → Bytes → Bytes → Bytes → Option Bytes
  /-- `cbfstool` is built once, from the first commit. -/
  cbfstool : Bytes → String → Bytes → Option Bytes

section Tools

variable {P : Type}

/-- The tools of a revision, with the branches of its repositories. -/
def toolchainOf (compiler : String → Compiler P) (sources : Sources P) (revision : String) :
    Toolchain where
  checkout name := (branchesOf sources ((revision, .coreboot), name)).isSome
    && (branchesOf sources ((revision, .vboot), name)).isSome
  make name version config elf :=
    (branchesOf sources ((revision, .coreboot), name)).bind fun coreboot =>
      (branchesOf sources ((revision, .vboot), name)).bind fun vboot =>
        (compiler revision).make coreboot vboot version config elf
  cbfstool := (compiler revision).cbfstool

/-- The tools with the patches of one board. -/
def seriesToolchain (compiler : Compiler P) (series : Part → List P) : Toolchain where
  checkout _ := true
  make _ := compiler.make (series .coreboot) (series .vboot)
  cbfstool := compiler.cbfstool

variable {applies : String → Part → List P → P → Bool} {patches : Patches P}
  {revisions : List String} {boards : List Board} {sources : Sources P}
  (compiler : String → Compiler P)

/-- A board finds its own branch. -/
theorem branchesOf_board (h : Branched patches revisions boards sources) {board : Board}
    (hboard : board ∈ boards) (part : Part) :
    branchesOf sources ((board.cbrevision, part), board.branchname)
      = some (patches.series board part) := by
  obtain ⟨repo, hrepo, hbranch⟩ := h.branch board hboard part
  rw [branchesOf, hrepo, Option.bind_some, hbranch]

/-- **What is compiled for a board.** -/
theorem toolchainOf_make (h : Branched patches revisions boards sources) {board : Board}
    (hboard : board ∈ boards) :
    (toolchainOf compiler sources board.cbrevision).make board.branchname
      = (compiler board.cbrevision).make (patches.series board .coreboot)
        (patches.series board .vboot) := by
  funext version config elf
  unfold toolchainOf
  simp only [branchesOf_board h hboard, Option.bind_some]

/-- Both branches of a board can be checked out, and the first commit as well. -/
theorem toolchainOf_checkout (h : Branched patches revisions boards sources) {board : Board}
    (hboard : board ∈ boards) (hrevision : board.cbrevision ∈ revisions) :
    (toolchainOf compiler sources board.cbrevision).checkout board.branchname = true
      ∧ (toolchainOf compiler sources board.cbrevision).checkout "master" = true := by
  have hmaster : ∀ part, branchesOf sources ((board.cbrevision, part), "master") = some [] := by
    intro part
    obtain ⟨repo, hrepo, honmaster⟩ := h.onMaster _ hrevision part
    rw [branchesOf, hrepo, Option.bind_some]
    exact honmaster.pristine
  unfold toolchainOf
  simp only [branchesOf_board h hboard, hmaster, Option.isSome_some, Bool.and_self, and_self]

end Tools

/-! ## The boards -/

section Boards

variable {P : Type} (r : Resources) (boardconfigs : List BoardConfig)

/-- `resources/libreboot/config/${payload}/${name}/` -/
def boardConfig (payload : Payload) (name : String) : BoardConfig :=
  ⟨payload.text, name, r.cbrevision payload name, r.vbootrevision payload name⟩

/-- The configuration of a board, as `helpers/build/module/coreboot` reads it. -/
def boardOf (payload : Payload) (name : String) : Option Board := (boardConfig r payload name).board

/-- It goes through all directories of `resources/libreboot/config/`. -/
def Complete : Prop :=
  ∀ payload name, (r.config payload name).isSome → boardConfig r payload name ∈ boardconfigs

variable {r boardconfigs} {boards : List Board} {payload : Payload} {name : String} {board : Board}

/-- The board is one of those that are read. -/
theorem Complete.mem (h : Complete r boardconfigs) (hreads : Reads boardconfigs boards)
    (hconfig : (r.config payload name).isSome) (hboard : boardOf r payload name = some board) :
    board ∈ boards :=
  hreads.mem (h payload name hconfig) hboard

theorem boardOf_eq_some : boardOf r payload name = some board ↔
    r.cbrevision payload name = some board.cbrevision
      ∧ r.vbootrevision payload name = some board.vbootrevision
      ∧ board.payload = payload.text ∧ board.boardname = name := by
  unfold boardOf BoardConfig.board boardConfig
  simp only [Option.bind_eq_some_iff, Option.map_eq_some_iff]
  constructor
  · rintro ⟨cbrevision, hcoreboot, vbootrevision, hvboot, rfl⟩
    exact ⟨hcoreboot, hvboot, rfl, rfl⟩
  · rintro ⟨hcoreboot, hvboot, hpayload, rfl⟩
    exact ⟨_, hcoreboot, _, hvboot, by rw [← hpayload]⟩

theorem branchname_of_boardOf (h : boardOf r payload name = some board) :
    board.branchname = branchname payload name := by
  obtain ⟨-, -, hpayload, hname⟩ := boardOf_eq_some.mp h
  rw [Board.branchname, hpayload, hname, branchname]

/-- A board whose helper gets through has a configuration. -/
theorem Ready.boardOf {t : String → Toolchain} {revision : String}
    (h : Ready r t payload name revision) : ∃ board, boardOf r payload name = some board := by
  obtain ⟨vbootrevision, hvboot⟩ := h.vbootrevision
  exact ⟨⟨payload.text, name, revision, vbootrevision⟩,
    boardOf_eq_some.mpr ⟨h.cbrevision, hvboot, rfl, rfl⟩⟩

variable {applies : String → Part → List P → P → Bool} {patches : Patches P}
  {revisions : List String} {sources : Sources P} (compiler : String → Compiler P)

/-- What the helpers of a board need is there. -/
theorem ready_of_branched (h : boardOf r payload name = some board)
    (hbranched : Branched patches revisions boards sources) (hboard : board ∈ boards)
    (hrevision : board.cbrevision ∈ revisions) :
    Ready r (toolchainOf compiler sources) payload name board.cbrevision := by
  obtain ⟨hbranch, hmaster⟩ := toolchainOf_checkout compiler hbranched hboard hrevision
  obtain ⟨hcoreboot, hvboot, -, -⟩ := boardOf_eq_some.mp h
  exact ⟨hcoreboot, ⟨_, hvboot⟩, branchname_of_boardOf h ▸ hbranch, hmaster⟩

/-- **The GRUB image of a board** has its patches and no other ones. -/
theorem boardImage_patched (h : boardOf r .grub name = some board)
    (hbranched : Branched patches revisions boards sources) (hboard : board ∈ boards)
    (version : String) (files : Files) (keymap : String) (romtype : Romtype) :
    boardImage r (toolchainOf compiler sources) version files name keymap romtype
      = boardImage r (fun revision => seriesToolchain (compiler revision) (patches.series board))
        version files name keymap romtype := by
  have hmake := toolchainOf_make compiler hbranched hboard
  rw [branchname_of_boardOf h] at hmake
  unfold boardImage
  rw [(boardOf_eq_some.mp h).1, Option.bind_some, Option.bind_some]
  unfold image plainRom
  rw [hmake]
  rfl

/-- **The SeaBIOS image of a board** has its patches and no other ones. -/
theorem boardSeabiosImage_patched (h : boardOf r .seabios name = some board)
    (hbranched : Branched patches revisions boards sources) (hboard : board ∈ boards)
    (version : String) (out : SeabiosOut) :
    boardSeabiosImage r (toolchainOf compiler sources) version out name
      = boardSeabiosImage r
        (fun revision => seriesToolchain (compiler revision) (patches.series board)) version out
          name := by
  have hmake := toolchainOf_make compiler hbranched hboard
  rw [branchname_of_boardOf h] at hmake
  unfold boardSeabiosImage
  rw [(boardOf_eq_some.mp h).1, Option.bind_some, Option.bind_some]
  unfold seabiosImage
  rw [hmake]
  rfl

end Boards

/-! ## Two patch trees -/

section Sample

/-- A patch for all boards, one that they share, and their own ones. -/
def samplePatches (own : String → List String) : Patches String where
  common _ _ := ["0001-common.patch"]
  reused _ _ := ["0001-shared.patch"]
  file name := some name
  own _ board := own board.boardname

def sampleBoards : List Board :=
  grubBoards.map (fun name => ⟨"grub", name, "0", "0"⟩)
    ++ seabiosBoards.map (fun name => ⟨"seabios", name, "0", "0"⟩)

/-- An image with the names of the patches that are in it. -/
def patchedRom (series : List String) : Bytes := series.flatMap ascii ++ sampleRom

def sampleCompiler (_ : String) : Compiler String where
  make coreboot vboot _ _ _ := some (patchedRom (coreboot ++ vboot))
  cbfstool rom _ _ := some rom

theorem complete_sample : Complete sampleResources (sampleBoards.map Board.config) := by
  intro payload name hconfig
  have hmem := sampleResources.config_board payload name hconfig
  refine List.mem_map.mpr ⟨⟨payload.text, name, "0", "0"⟩, ?_, rfl⟩
  cases payload with
  | grub => exact List.mem_append_left _ (List.mem_map_of_mem hmem)
  | seabios => exact List.mem_append_right _ (List.mem_map_of_mem hmem)

/-- All patches apply. -/
theorem applies_of_true : ∀ series patches : List String,
    Repository.Applies (fun _ _ => true) series patches
  | _, [] => trivial
  | series, patch :: patches => ⟨rfl, applies_of_true (series ++ [patch]) patches⟩

theorem moduleCoreboot_sample (own : String → List String) : ∃ sources,
    moduleCoreboot (fun _ => true) (fun _ _ _ _ => true) (samplePatches own) ["0"]
      (sampleBoards.map Board.config) = .ok sources := by
  refine moduleCoreboot_gets_through.mpr ⟨sampleBoards, reads_config _, fun board hboard =>
    ⟨rfl, ?_, fun part patch _ => ⟨patch, rfl⟩, fun part => applies_of_true _ _⟩, by decide⟩
  rcases List.mem_append.mp hboard with hmem | hmem
  · obtain ⟨name, -, rfl⟩ := List.mem_map.mp hmem
    exact List.mem_cons_self
  · obtain ⟨name, -, rfl⟩ := List.mem_map.mp hmem
    exact List.mem_cons_self

/-- The patches of a board in coreboot, then those in vboot. -/
def sampleSeries (own : List String) : List String :=
  ["0001-common.patch", "0001-shared.patch"] ++ own
    ++ (["0001-common.patch", "0001-shared.patch"] ++ own)

end Sample

/-! ## The images -/

section Images

variable {P : Type} (r : Resources) (shell : Shell) (run : Run) {takes : String → Bool}
  {applies : String → Part → List P → P → Bool} {patches : Patches P} {revisions : List String}
  {boardconfigs : List BoardConfig} {sources : Sources P} (compiler : String → Compiler P)
  {ws ws' : Workspace}

/--
**From the patches to the images.** A GRUB run with the branches that have been made delivers, for each
board, the images that are compiled from its own series of patches, those that are common to all boards
first, then those that it shares, then its own.
-/
theorem withgrub_patched (hcomplete : Complete r boardconfigs)
    (hsources : moduleCoreboot takes applies patches revisions boardconfigs = .ok sources)
    (hlib : ∀ name, (run.lib name).NoSilentLoss) (hreach : Reachable r ws)
    (hrun : withgrub r shell { run with toolchain := toolchainOf compiler sources } ws = .ok ws')
    {name : String} (hname : name ∈ Payload.grub.boardsOf run.args)
    (hconfig : (r.config .grub name).isSome) :
    ∃ board dir, boardOf r .grub name = some board ∧ ws'.bin .grub name = some dir
      ∧ FinishedDirectory r { run with
          toolchain := fun revision => seriesToolchain (compiler revision) (patches.series board) }
          name dir := by
  obtain ⟨boards, hreads, hbranched⟩ := branched_of_ok hsources
  obtain ⟨built, -, hbuild, -, -, -⟩ := withgrub_eq_ok r shell _ hrun
  obtain ⟨revision, hready⟩ :=
    (((buildroms_gets_through r _).mp ⟨built, hbuild⟩).2 name hname hconfig).ready
  obtain ⟨board, hboard⟩ := hready.boardOf
  obtain ⟨dir, hdir, hfinished⟩ := (delivered_of_withgrub r shell
    { run with toolchain := toolchainOf compiler sources } hlib hreach.clean hrun).1 name hname
      hconfig
  refine ⟨board, dir, hboard, hdir, hfinished.congr r rfl fun romtype keymap => ?_⟩
  exact (boardImage_patched compiler hboard hbranched (hcomplete.mem hreads hconfig hboard) _ _
    keymap romtype).symm

/-- All boards have patches of their own, and the image has those of its board. -/
theorem withgrub_patched_sample : ∃ (sources : Sources String) (shell : Shell) (ws' : Workspace)
    (dir : Files),
    withgrub sampleResources shell { sampleRun (fun _ => some []) with
        toolchain := toolchainOf sampleCompiler sources } sampleWorkspace = .ok ws'
      ∧ ws'.bin .grub "x60" = some dir
      ∧ dir (imageName "x60" "usqwerty" .txtmode)
        = some (TopSwap.mirror blockSize (patchedRom (sampleSeries ["x60"]))) := by
  obtain ⟨sources, hsources⟩ := moduleCoreboot_sample fun name => [name]
  obtain ⟨shell⟩ := nonempty_shell
  obtain ⟨boards, hreads, hbranched⟩ := branched_of_ok hsources
  have hboard : boardOf sampleResources .grub "x60" = some ⟨"grub", "x60", "0", "0"⟩ := rfl
  have hmem := complete_sample.mem hreads rfl hboard
  have hready := ready_of_branched sampleCompiler hboard hbranched hmem (by decide)
  have himage : ∀ keymap ∈ sampleResources.keymaps, ∀ romtype,
      builtImage sampleResources { sampleRun (fun _ => some []) with
        toolchain := fun revision => seriesToolchain (sampleCompiler revision)
          ((samplePatches fun name => [name]).series ⟨"grub", "x60", "0", "0"⟩) } "x60" keymap
        romtype = some (patchedRom (sampleSeries ["x60"])) := fun keymap hkeymap romtype =>
    builtImage_sample (fun _ _ _ => rfl) (fun _ _ _ => rfl) hkeymap romtype
  obtain ⟨ws', hrun⟩ := @x60_gets_through shell sampleWorkspace _ ⟨_, hready⟩
    (fun keymap hkeymap romtype => by
      refine ⟨_, (boardImage_patched sampleCompiler hboard hbranched hmem _ _ keymap romtype).trans
        (himage keymap hkeymap romtype), ?_⟩
      rw [patchedRom, List.length_append, sampleRom, List.length_replicate]
      exact Nat.le_add_left _ _) reachable_sample fun _ _ => rfl
  obtain ⟨board, dir, hboard', hdir, hfinished⟩ := withgrub_patched sampleResources shell
    (sampleRun fun _ => some []) sampleCompiler complete_sample hsources
    (fun name => (CLib.reliable_reliable name).noSilentLoss) reachable_sample hrun List.mem_cons_self
    rfl
  obtain rfl := Option.some.inj (hboard.symm.trans hboard')
  obtain ⟨built, rom, hbuilt, hfile, hrom⟩ := hfinished.image .txtmode rfl "usqwerty" (by decide)
  obtain rfl := Option.some.inj (hbuilt.symm.trans (himage "usqwerty" (by decide) .txtmode))
  exact ⟨sources, shell, ws', dir, hrun, hdir, hfile.trans
    (congrArg some (hrom.i945 (by decide)).2)⟩

end Images

section Isolated

variable {P : Type} (r : Resources) (run : SeabiosRun) {takes takes' : String → Bool}
  {applies applies' : String → Part → List P → P → Bool} {patches patches' : Patches P}
  {revisions revisions' : List String} {boardconfigs boardconfigs' : List BoardConfig}
  {sources sources' : Sources P} (compiler : String → Compiler P) {ws₁ ws₁' ws₂ ws₂' : Workspace}

/--
**Boards do not get patches of each other.** Two SeaBIOS runs deliver the same directory of a board if
its own series has stayed the same, whatever has been done to the patches of all other boards in
between, and whichever boards have been added or removed.
-/
theorem withseabios_isolated (hcomplete : Complete r boardconfigs)
    (hcomplete' : Complete r boardconfigs')
    (hsources : moduleCoreboot takes applies patches revisions boardconfigs = .ok sources)
    (hsources' : moduleCoreboot takes' applies' patches' revisions' boardconfigs' = .ok sources')
    (hreach : Reachable r ws₁) (hreach' : Reachable r ws₂)
    (hrun : withseabios r { run with toolchain := toolchainOf compiler sources } ws₁ = .ok ws₁')
    (hrun' : withseabios r { run with toolchain := toolchainOf compiler sources' } ws₂ = .ok ws₂')
    {name : String} (hname : name ∈ Payload.seabios.boardsOf run.args)
    (hconfig : (r.config .seabios name).isSome)
    (hseries : ∀ board, boardOf r .seabios name = some board →
      patches.series board = patches'.series board) :
    ws₁'.bin .seabios name = ws₂'.bin .seabios name := by
  obtain ⟨boards, hreads, hbranched⟩ := branched_of_ok hsources
  obtain ⟨boards', hreads', hbranched'⟩ := branched_of_ok hsources'
  obtain ⟨dir, hdir, hdirectory⟩ :=
    (delivered_of_withseabios r _ hreach.clean hrun).built name hname hconfig
  obtain ⟨dir', hdir', hdirectory'⟩ :=
    (delivered_of_withseabios r _ hreach'.clean hrun').built name hname hconfig
  obtain ⟨revision, hready⟩ :=
    ((withseabios_gets_through r _).mp ⟨ws₁', hrun⟩ name hname hconfig).1
  obtain ⟨board, hboard⟩ := hready.boardOf
  have himage : boardSeabiosImage r (toolchainOf compiler sources) run.version run.out name
      = boardSeabiosImage r (toolchainOf compiler sources') run.version run.out name := by
    rw [boardSeabiosImage_patched compiler hboard hbranched (hcomplete.mem hreads hconfig hboard),
      boardSeabiosImage_patched compiler hboard hbranched' (hcomplete'.mem hreads' hconfig hboard),
      hseries board hboard]
  rw [hdir, hdir', SeabiosDirectory.unique himage hdirectory hdirectory']

/-- Both boards are built. -/
def bothSeabiosRun (sources : Sources String) : SeabiosRun where
  toolchain := toolchainOf sampleCompiler sources
  out := sampleOut
  version := "r20160907"
  args := ["kgpe-d16", "kcma-d8"]

/-- A run for two boards, and the images that it delivers. -/
theorem seabios_sample (own : String → List String) {sources : Sources String}
    (hsources : moduleCoreboot (fun _ => true) (fun _ _ _ _ => true) (samplePatches own) ["0"]
      (sampleBoards.map Board.config) = .ok sources) :
    ∃ ws, withseabios sampleResources (bothSeabiosRun sources) sampleWorkspace = .ok ws
      ∧ ∀ name ∈ ["kgpe-d16", "kcma-d8"], ∃ dir, ws.bin .seabios name = some dir
        ∧ dir (romName name .txtmode) = some (patchedRom (sampleSeries (own name))) := by
  obtain ⟨boards, hreads, hbranched⟩ := branched_of_ok hsources
  have hconfig : ∀ name ∈ ["kgpe-d16", "kcma-d8"],
      (sampleResources.config .seabios name).isSome := by decide
  have hboard : ∀ name, boardOf sampleResources .seabios name
    = some ⟨"seabios", name, "0", "0"⟩ := fun _ => rfl
  have himage : ∀ name ∈ ["kgpe-d16", "kcma-d8"], boardSeabiosImage sampleResources
      (toolchainOf sampleCompiler sources) "r20160907" sampleOut name
        = some (patchedRom (sampleSeries (own name))) := fun name hname =>
    boardSeabiosImage_patched sampleCompiler (hboard name) hbranched
      (complete_sample.mem hreads (hconfig name hname) (hboard name)) _ _
  obtain ⟨ws, hrun⟩ : ∃ ws, withseabios sampleResources (bothSeabiosRun sources) sampleWorkspace
      = .ok ws := by
    refine (withseabios_gets_through _ _).mpr fun name hname _ => ?_
    exact ⟨⟨_, ready_of_branched sampleCompiler (hboard name) hbranched
      (complete_sample.mem hreads (hconfig name hname) (hboard name)) List.mem_cons_self⟩, _,
      himage name hname⟩
  refine ⟨ws, hrun, fun name hname => ?_⟩
  obtain ⟨dir, hdir, hdirectory⟩ := (delivered_of_withseabios _ _ reachable_sample.clean hrun).built
    name hname (hconfig name hname)
  obtain ⟨rom, hrom, hfile⟩ := hdirectory.image
  obtain rfl := Option.some.inj (hrom.symm.trans (himage name hname))
  exact ⟨dir, hdir, hfile .txtmode rfl⟩

/-- All boards but one lose their patches. Its directory stays the same, and that of another
changes. -/
theorem withseabios_isolated_sample : ∃ (sources sources' : Sources String) (ws₁ ws₂ : Workspace),
    withseabios sampleResources (bothSeabiosRun sources) sampleWorkspace = .ok ws₁
      ∧ withseabios sampleResources (bothSeabiosRun sources') sampleWorkspace = .ok ws₂
      ∧ ws₁.bin .seabios "kgpe-d16" = ws₂.bin .seabios "kgpe-d16"
      ∧ ws₁.bin .seabios "kcma-d8" ≠ ws₂.bin .seabios "kcma-d8" := by
  obtain ⟨sources, hsources⟩ := moduleCoreboot_sample fun name => [name]
  obtain ⟨sources', hsources'⟩ :=
    moduleCoreboot_sample fun name => if name = "kgpe-d16" then [name] else []
  obtain ⟨ws₁, hrun, himages⟩ := seabios_sample _ hsources
  obtain ⟨ws₂, hrun', himages'⟩ := seabios_sample _ hsources'
  refine ⟨sources, sources', ws₁, ws₂, hrun, hrun', withseabios_isolated sampleResources
    (bothSeabiosRun sources) sampleCompiler complete_sample complete_sample hsources hsources'
    reachable_sample reachable_sample hrun hrun' List.mem_cons_self rfl fun board h => ?_, ?_⟩
  · obtain rfl := Option.some.inj h
    rfl
  · obtain ⟨dir, hdir, hfile⟩ := himages "kcma-d8" (by decide)
    obtain ⟨dir', hdir', hfile'⟩ := himages' "kcma-d8" (by decide)
    intro heq
    obtain rfl := Option.some.inj (hdir.symm.trans (heq.trans hdir'))
    have hsame := congrArg List.length (Option.some.inj (hfile.symm.trans hfile'))
    rw [patchedRom, patchedRom, List.length_append, List.length_append, Nat.add_right_cancel_iff]
      at hsame
    revert hsame
    decide

end Isolated

end Libreboot.Roms
