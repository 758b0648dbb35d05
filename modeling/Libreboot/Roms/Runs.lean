import Libreboot.Roms.Withgrub
import Libreboot.Roms.Withseabios

/-!
# Runs of the build

Any sequence of runs of `withgrub` and `withseabios`, each of which ends at the first tool that fails or
gets through. They share the coreboot sources, and later runs start from what earlier ones have left.

* `Reachable.clean` — what all runs keep
* `withgrub_delivers`, `withseabios_delivers` — what a run that gets through leaves in `bin/`
* `withgrub_reproducible` — that does not depend on the runs before
-/

namespace Libreboot.Roms

open Infra Script

/--
The sources as they are downloaded, then any runs, interrupted or not. Before each of them, everything
under `resources/` may have been changed but the keyboard layouts.
-/
inductive Reachable (r : Resources) : Workspace → Prop
  | downloaded {ws : Workspace}
      (h : ∀ revision, ∀ target : Target, ∀ name, isBoardRom target.board name = true →
        ws.source revision name = none) : Reachable r ws
  | withgrub {ws : Workspace} (h : Reachable r ws) {r' : Resources} (hkeymaps : r'.keymaps = r.keymaps)
      (shell : Shell) (run : Run) : Reachable r (left (Roms.withgrub r' shell run ws))
  | withseabios {ws : Workspace} (h : Reachable r ws) {r' : Resources}
      (hkeymaps : r'.keymaps = r.keymaps) (run : SeabiosRun) :
      Reachable r (left (Roms.withseabios r' run ws))

/-- The names of the images depend on the keyboard layouts alone. -/
theorem CleanSources.congr {r r' : Resources} (hkeymaps : r'.keymaps = r.keymaps) {ws : Workspace}
    (h : CleanSources r ws) : CleanSources r' ws := by
  intro revision target name hrom hne
  have hmakes := h revision target name hrom hne
  obtain ⟨payload, board, hmem⟩ := target
  cases payload with
  | grub =>
    obtain ⟨romtype, hskips, hcreates⟩ := hmakes
    refine ⟨romtype, hskips, hcreates.imp_right ?_⟩
    rw [hkeymaps]
    exact id
  | seabios => exact hmakes

/-- **The sources are always clean.** -/
theorem Reachable.clean {r : Resources} {ws : Workspace} (h : Reachable r ws) :
    CleanSources r ws := by
  induction h with
  | downloaded h =>
    intro revision target name hrom hne
    exact absurd (h revision target name hrom) hne
  | withgrub h hkeymaps shell run ih =>
    exact (keeps_withgrub _ shell run _ (ih.congr hkeymaps)).congr hkeymaps.symm
  | withseabios h hkeymaps run ih =>
    exact (keeps_withseabios _ run _ (ih.congr hkeymaps)).congr hkeymaps.symm

/-! ## A run for the X60 -/

section Sample

/-- One configuration for all boards. -/
theorem mem_boards_of_isSome (config : Bytes) (payload : Payload) (board : String)
    (h : (if board ∈ payload.boards then some config else none : Option Bytes).isSome) :
    board ∈ payload.boards := by
  split at h
  · next hmem => exact hmem
  · cases h

/-- One keyboard layout. -/
def sampleResources : Resources where
  extra _ := []
  menuentries _ := []
  keymaps := ["usqwerty"]
  keymaps_ne_nil := List.cons_ne_nil _ _
  background _ := []
  seabiosConfig := some []
  config payload board := if board ∈ payload.boards then some [] else none
  config_board := mem_boards_of_isSome []
  cbrevision _ _ := some "0"
  vbootrevision _ _ := some "0"

/-- An image of 128 KiB. -/
def sampleRom : Bytes := List.replicate (2 * blockSize) 0

def sampleToolchain : Toolchain where
  checkout _ := true
  make _ _ _ _ := some sampleRom
  cbfstool rom _ _ := some rom

def sampleRun (gen : Romtype → Option Bytes) : Run where
  toolchain _ := sampleToolchain
  gen := gen
  version := "r20160907"
  args := ["x60"]
  lib := .reliable
  gm45macaddress := none

def sampleOut : SeabiosOut := ⟨some [], some []⟩

def sampleSeabiosRun : SeabiosRun where
  toolchain _ := sampleToolchain
  out := sampleOut
  version := "r20160907"
  args := ["kgpe-d16"]

/-- The sources as they are downloaded. -/
def sampleWorkspace : Workspace := ⟨fun _ => none, fun _ _ => none, fun _ _ => none⟩

/-- The image of tools that make one from nothing but the branch. -/
theorem builtImage_sample {t : String → Toolchain} {rom : Bytes}
    (hmake : ∀ version config elf, (t "0").make "grub_x60" version config elf = some rom)
    (hcbfstool : ∀ rom name file, (t "0").cbfstool rom name file = some rom) {keymap : String}
    (hkeymap : keymap ∈ sampleResources.keymaps) (romtype : Romtype) :
    builtImage sampleResources { sampleRun (fun _ => some []) with toolchain := t } "x60" keymap
      romtype = some rom := by
  have h := prepared_payloadOf sampleResources fun _ => some []
  obtain ⟨config, hconfig⟩ : ∃ config, configOf sampleResources "x60" romtype = some config :=
    ⟨_, rfl⟩
  have hplain : plainRom sampleResources (t "0") "r20160907"
      (payloadOf sampleResources fun _ => some []) "x60" romtype = some rom := by
    rw [plainRom, hconfig, h.elf romtype]
    show ((t "0").make "grub_x60" _ _ _).bind _ = _
    rw [hmake, Option.bind_some]
    cases romtype with
    | txtmode => rfl
    | vesafb => exact hcbfstool _ _ _
  show (plainRom sampleResources (t "0") "r20160907"
    (payloadOf sampleResources fun _ => some []) "x60" romtype).bind
      (configuredRom (t "0") (payloadOf sampleResources fun _ => some []) keymap romtype) = _
  rw [hplain, Option.bind_some, configuredRom, h.cfg romtype keymap hkeymap,
    h.test romtype keymap hkeymap, Option.bind_some, hcbfstool, Option.bind_some, Option.bind_some,
    hcbfstool]

theorem reachable_sample : Reachable sampleResources sampleWorkspace :=
  .downloaded fun _ _ _ _ => rfl

variable {shell : Shell} {ws : Workspace}

/-- A run for this board gets through if there are no other directories. -/
theorem x60_gets_through {t : String → Toolchain}
    (hready : ∃ revision, Ready sampleResources t .grub "x60" revision)
    (himage : ∀ keymap ∈ sampleResources.keymaps, ∀ romtype, ∃ rom,
      builtImage sampleResources { sampleRun (fun _ => some []) with toolchain := t } "x60" keymap
        romtype = some rom ∧ 2 * blockSize ≤ rom.length)
    (hreach : Reachable sampleResources ws)
    (hbin : ∀ board, board ≠ "x60" → ws.bin .grub board = none) :
    ∃ ws', withgrub sampleResources shell { sampleRun (fun _ => some []) with toolchain := t } ws
      = .ok ws' := by
  obtain ⟨built, hbuild⟩ : ∃ built, buildroms sampleResources
      { sampleRun (fun _ => some []) with toolchain := t } ws = .ok built := by
    refine (buildroms_gets_through _ _).mpr ⟨fun _ => ⟨_, rfl⟩, fun board hboard _ => ?_⟩
    obtain rfl := List.mem_singleton.mp hboard
    exact ⟨hready, ⟨_, rfl⟩, fun romtype _ keymap hkeymap =>
      (himage keymap hkeymap romtype).imp fun _ h => h.1⟩
  have hdelivered := buildroms_delivers _ _ hreach.clean hbuild
  obtain ⟨dir, hdir, hbuilt⟩ := hdelivered.built "x60" List.mem_cons_self rfl
  have hnone : ∀ board, board ≠ "x60" → built.bin .grub board = none := by
    intro board hne
    rw [hdelivered.other board (.inl fun hmem => hne (List.mem_singleton.mp hmem)), hbin board hne]
  obtain ⟨mirrored, hi945⟩ : ∃ mirrored, i945 shell (built.bin .grub) = .ok mirrored := by
    refine exists_i945.mpr fun board _ files hfiles => ?_
    by_cases heq : board = "x60"
    · subst heq
      obtain rfl := Option.some.inj (hdir.symm.trans hfiles)
      have hmem := fun name => @BuiltDirectory.mem_star _ _ _ _ shell hbuilt (by decide) name
      refine buctsTrick_eq_ok_iff.mpr ⟨fun htop => ?_, fun rom hrom => ?_⟩
      · exact (by decide : ¬ ".rom".toList.isSuffixOf top64k.toList = true)
          (isRom_of_isImage _ ((hmem top64k).mp htop))
      · obtain ⟨romtype, hskips, keymap, hkeymap, rfl⟩ := (hmem rom).mp hrom
        obtain ⟨image, hbuiltimage, hfile⟩ := hbuilt.image romtype hskips keymap hkeymap
        obtain ⟨rom, hrom, hlen⟩ := himage keymap hkeymap romtype
        obtain rfl := Option.some.inj (hrom.symm.trans hbuiltimage)
        exact ⟨rom, hfile, hlen⟩
    · rw [hnone board heq] at hfiles
      cases hfiles
  have hgm45 : ∀ d ∈ gm45Directories, mirrored d.name = none := by
    have hapart : ∀ d ∈ gm45Directories, d.name ∉ i945Boards ∧ d.name ≠ "x60" := by decide
    intro d hd
    rw [(i945_directories hi945).1 _ (.inl (hapart d hd).1), hnone _ (hapart d hd).2]
  obtain ⟨filled, hfilled⟩ := (gm45_gets_through CLib.reliable_reliable
    (fun name rom hrom => isRom_of_mem_starRom shell hrom)).mpr (.inl hgm45)
  exact withgrub_gets_through _ _ _ hbuild hi945 hfilled

theorem sample_gets_through (hreach : Reachable sampleResources ws)
    (hbin : ∀ board, board ≠ "x60" → ws.bin .grub board = none) :
    ∃ ws', withgrub sampleResources shell (sampleRun fun _ => some []) ws = .ok ws' :=
  x60_gets_through ⟨"0", rfl, ⟨_, rfl⟩, rfl, rfl⟩ (fun _ hkeymap romtype =>
    ⟨sampleRom, builtImage_sample (fun _ _ _ => rfl) (fun _ _ _ => rfl) hkeymap romtype,
      Nat.le_of_eq List.length_replicate.symm⟩) hreach hbin

end Sample

/-! ## What is delivered -/

section Delivered

variable (r : Resources) (shell : Shell) (run : Run) {ws ws' : Workspace}

/--
**What a run delivers,** whatever runs for GRUB or SeaBIOS before it have left, interrupted or not. The
directory of each board that is built holds one image for every keyboard layout and every kind of
graphics that works there, and nothing else. The i945 images are mirrored, the GM45 images have the
regions of their size and the MAC address of this run, and the others are as they were built. The
directories of boards that are not built stay, unless they belong to one of these two families, and
so do those of SeaBIOS.
-/
theorem withgrub_delivers (hlib : ∀ name, (run.lib name).NoSilentLoss) (hreach : Reachable r ws)
    (hrun : withgrub r shell run ws = .ok ws') :
    (∀ board ∈ Payload.grub.boardsOf run.args, (r.config .grub board).isSome →
        ∃ dir, ws'.bin .grub board = some dir ∧ FinishedDirectory r run board dir)
      ∧ (∀ board, board ∉ Payload.grub.boardsOf run.args ∨ r.config .grub board = none →
        board ∉ i945Boards → board ∉ gm45Directories.map Gm45Directory.name →
          ws'.bin .grub board = ws.bin .grub board)
      ∧ ws'.bin .seabios = ws.bin .seabios :=
  delivered_of_withgrub r shell run hlib hreach.clean hrun

/-- The first run. -/
theorem withgrub_delivers_sample : ∃ (shell : Shell) (ws' : Workspace),
    withgrub sampleResources shell (sampleRun fun _ => some []) sampleWorkspace = .ok ws'
      ∧ ∃ dir, ws'.bin .grub "x60" = some dir
        ∧ FinishedDirectory sampleResources (sampleRun fun _ => some []) "x60" dir := by
  obtain ⟨shell⟩ := nonempty_shell
  obtain ⟨ws', hrun⟩ := @sample_gets_through shell _ reachable_sample fun _ _ => rfl
  exact ⟨shell, ws', hrun, (withgrub_delivers sampleResources shell _
    (fun name => (CLib.reliable_reliable name).noSilentLoss) reachable_sample hrun).1 "x60"
      List.mem_cons_self rfl⟩

/--
**The images are reproducible.** Two runs with the same tools and the same MAC address deliver the
same directory of a board, after any other runs, whichever other boards they are called with and in
which order the shell lists the names.
-/
theorem withgrub_reproducible {shell' : Shell} {ws₁ ws₁' ws₂ ws₂' : Workspace} {args : List String}
    {lib : CLib} (hlib : ∀ name, (run.lib name).NoSilentLoss)
    (hlib' : ∀ name, (lib name).NoSilentLoss) (hreach : Reachable r ws₁)
    (hreach' : Reachable r ws₂) (hrun : withgrub r shell run ws₁ = .ok ws₁')
    (hrun' : withgrub r shell' { run with args := args, lib := lib } ws₂ = .ok ws₂')
    {board : String} (hboard : board ∈ Payload.grub.boardsOf run.args)
    (hboard' : board ∈ Payload.grub.boardsOf args) (hconfig : (r.config .grub board).isSome) :
    ws₁'.bin .grub board = ws₂'.bin .grub board := by
  obtain ⟨dir, hdir, hfinished⟩ :=
    (delivered_of_withgrub r shell run hlib hreach.clean hrun).1 board hboard hconfig
  obtain ⟨dir', hdir', hfinished'⟩ :=
    (delivered_of_withgrub r shell' _ hlib' hreach'.clean hrun').1 board hboard' hconfig
  rw [hdir, hdir', hfinished.unique r run (hfinished'.congr r rfl fun _ _ => rfl)]

/-- The second run comes after one that has ended without a payload. -/
theorem withgrub_reproducible_sample : ∃ (shell : Shell) (ws₁' ws₂' : Workspace),
    withgrub sampleResources shell (sampleRun fun _ => some []) sampleWorkspace = .ok ws₁'
      ∧ withgrub sampleResources shell (sampleRun fun _ => some [])
        (left (withgrub sampleResources shell (sampleRun fun _ => none) sampleWorkspace)) = .ok ws₂'
      ∧ ws₁'.bin .grub "x60" = ws₂'.bin .grub "x60" := by
  obtain ⟨shell⟩ := nonempty_shell
  have hreach := reachable_sample.withgrub rfl shell (sampleRun fun _ => none)
  obtain ⟨ws₁', hrun₁⟩ := @sample_gets_through shell _ reachable_sample fun _ _ => rfl
  obtain ⟨ws₂', hrun₂⟩ := @sample_gets_through shell _ hreach fun _ _ => rfl
  have hlib : ∀ name, (CLib.reliable name).NoSilentLoss := fun name =>
    (CLib.reliable_reliable name).noSilentLoss
  exact ⟨shell, ws₁', ws₂', hrun₁, hrun₂, withgrub_reproducible sampleResources shell _ hlib hlib
    reachable_sample hreach hrun₁ hrun₂ List.mem_cons_self List.mem_cons_self rfl⟩

end Delivered

section Seabios

variable (r : Resources) (run : SeabiosRun) {ws ws' : Workspace}

/--
**What a SeaBIOS run delivers,** whatever runs for GRUB or SeaBIOS before it have left. The directory
of each board that is built holds one image for every kind of graphics that works there, all the same,
and nothing else. All other directories stay, and those of GRUB as well.
-/
theorem withseabios_delivers (hreach : Reachable r ws) (hrun : withseabios r run ws = .ok ws') :
    (∀ board ∈ Payload.seabios.boardsOf run.args, (r.config .seabios board).isSome →
        ∃ dir, ws'.bin .seabios board = some dir
          ∧ SeabiosDirectory r run.toolchain run.version run.out board dir)
      ∧ (∀ board, board ∉ Payload.seabios.boardsOf run.args ∨ r.config .seabios board = none →
        ws'.bin .seabios board = ws.bin .seabios board)
      ∧ ws'.bin .grub = ws.bin .grub := by
  have hdelivered := delivered_of_withseabios r run hreach.clean hrun
  exact ⟨hdelivered.built, hdelivered.other, hdelivered.payload .grub (by decide)⟩

theorem sampleSeabios_gets_through (config : Payload → String → Option Bytes)
    (hconfig : ∀ payload board, (config payload board).isSome → board ∈ payload.boards)
    (ws : Workspace) : ∃ ws', withseabios
      { sampleResources with config := config, config_board := hconfig } sampleSeabiosRun ws
        = .ok ws' :=
  (withseabios_gets_through _ _).mpr fun _ _ _ => ⟨⟨"0", rfl, ⟨_, rfl⟩, rfl, rfl⟩, _, rfl⟩

/-- After a GRUB run that has ended without a payload. -/
theorem withseabios_delivers_sample : ∃ (ws ws' : Workspace),
    Reachable sampleResources ws ∧ withseabios sampleResources sampleSeabiosRun ws = .ok ws'
      ∧ ∃ dir, ws'.bin .seabios "kgpe-d16" = some dir
        ∧ SeabiosDirectory sampleResources (fun _ => sampleToolchain) "r20160907" sampleOut "kgpe-d16"
          dir := by
  obtain ⟨shell⟩ := nonempty_shell
  have hreach := reachable_sample.withgrub rfl shell (sampleRun fun _ => none)
  obtain ⟨ws', hrun⟩ := sampleSeabios_gets_through sampleResources.config
    sampleResources.config_board _
  exact ⟨_, ws', hreach, hrun, (withseabios_delivers sampleResources sampleSeabiosRun hreach hrun).1
    "kgpe-d16" List.mem_cons_self rfl⟩

/--
**The configuration of a board is not used.** Two SeaBIOS runs with the same tools deliver the same
directory of a board, after any other runs, also if its configuration has been changed in between.
-/
theorem withseabios_reproducible {config : Payload → String → Option Bytes}
    (hconfig : ∀ payload board, (config payload board).isSome → board ∈ payload.boards)
    {ws₁ ws₁' ws₂ ws₂' : Workspace} {args : List String} (hreach : Reachable r ws₁)
    (hreach' : Reachable r ws₂) (hrun : withseabios r run ws₁ = .ok ws₁')
    (hrun' : withseabios { r with config := config, config_board := hconfig }
      { run with args := args } ws₂ = .ok ws₂')
    {board : String} (hboard : board ∈ Payload.seabios.boardsOf run.args)
    (hboard' : board ∈ Payload.seabios.boardsOf args) (hsome : (r.config .seabios board).isSome)
    (hsome' : (config .seabios board).isSome) :
    ws₁'.bin .seabios board = ws₂'.bin .seabios board := by
  obtain ⟨dir, hdir, hdirectory⟩ :=
    (delivered_of_withseabios r run hreach.clean hrun).built board hboard hsome
  have hclean : CleanSources { r with config := config, config_board := hconfig } ws₂ :=
    hreach'.clean
  obtain ⟨dir', hdir', hdirectory'⟩ :=
    (delivered_of_withseabios _ _ hclean hrun').built board hboard' hsome'
  have hsame : dir = dir' := SeabiosDirectory.unique (by rfl) hdirectory hdirectory'
  rw [hdir, hdir', hsame]

/-- The second run has another configuration, and comes after the first one. -/
theorem withseabios_reproducible_sample : ∃ (ws₁ ws₂ : Workspace),
    withseabios sampleResources sampleSeabiosRun sampleWorkspace = .ok ws₁
      ∧ withseabios { sampleResources with
          config := fun payload board => if board ∈ payload.boards then some [1] else none
          config_board := mem_boards_of_isSome [1] } sampleSeabiosRun ws₁ = .ok ws₂
      ∧ ws₁.bin .seabios "kgpe-d16" = ws₂.bin .seabios "kgpe-d16" := by
  obtain ⟨ws₁, hrun⟩ := sampleSeabios_gets_through sampleResources.config
    sampleResources.config_board sampleWorkspace
  obtain ⟨ws₂, hrun'⟩ := sampleSeabios_gets_through _ (mem_boards_of_isSome [1]) ws₁
  have hreach : Reachable sampleResources ws₁ := by
    have hleft := reachable_sample.withseabios rfl sampleSeabiosRun
    rw [hrun] at hleft
    exact hleft
  exact ⟨ws₁, ws₂, hrun, hrun', withseabios_reproducible sampleResources sampleSeabiosRun
    (mem_boards_of_isSome [1]) reachable_sample hreach hrun hrun' List.mem_cons_self
      List.mem_cons_self rfl rfl⟩

end Seabios

end Libreboot.Roms
