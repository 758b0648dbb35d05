import Libreboot.Roms.Gm45
import Libreboot.Roms.SharedSources

/-!
# ROM images with GRUB

The whole of `helpers/build/roms/withgrub`: the payloads, the images of every board, the dd of the
bucts trick, and the descriptor and GbE regions. A run ends at the first tool that fails.

* `keeps_withgrub` — what every run keeps
* `buildroms_gets_through`, `buildroms_delivers` — the images before they are finished
* `delivered_of_withgrub` — what a run that gets through leaves in `bin/grub/`
-/

namespace Libreboot.Roms

open Infra Script

/-! ## The script -/

/-- A name for `*.rom`. -/
def isRom (name : String) : Bool := ".rom".toList.isSuffixOf name.toList

/-- `*.rom`, and the pattern itself if nothing matches. -/
def Shell.starRom (shell : Shell) (dir : Files) : List String :=
  if ((shell.star dir).filter isRom).isEmpty then ["*.rom"] else (shell.star dir).filter isRom

/-- The tools and the arguments of one run. -/
structure Run where
  /-- For each revision of coreboot. -/
  toolchain : String → Toolchain
  /-- The payload of `gen.sh`. -/
  gen : Romtype → Option Bytes
  version : String
  args : List String
  lib : CLib
  gm45macaddress : Option (List CString)

/-- The files of a directory of `bin/grub/`. -/
def Bin.dir (bin : Bin) (board : String) : Files := (bin board).getD fun _ => none

section Script

variable (r : Resources) (shell : Shell) (run : Run)

/-- The payloads and the images of all boards. -/
def buildroms : Command Workspace :=
  both (removeInSources isGrubFile) <|
  both (onPayload (preparePayload r run.gen)) <|
  forEach (buildrom r .grub (withgrubHelper r run.toolchain run.version))
    (Payload.grub.boardsOf run.args)

def withgrub : Command Workspace :=
  both (buildroms r run) <|
  both (onBin .grub (i945 shell)) <|
  both (onBin .grub fun bin =>
    gm45 run.lib run.gm45macaddress (fun name => shell.starRom (bin.dir name)) bin) <|
  -- the GRUB files are no longer needed
  both (onPayload (removeWhere isGrubFile)) (removeInSources isElfOrCfg)

end Script

/-! ## Interrupted runs -/

section Runs

variable (r : Resources) (shell : Shell) (run : Run)

/-- **The sources stay clean,** wherever the run ends. -/
theorem keeps_withgrub : Keeps (CleanSources r) (withgrub r shell run) := by
  have hbuild : Keeps (CleanSources r) (buildroms r run) :=
    (keeps_removeInSources r _).both ((keeps_onPayload r _).both
      (Keeps.forEach fun board _ => keeps_buildrom r .grub
        (fun board hboard => keeps_withgrubHelper r run.version run.toolchain hboard) board))
  exact hbuild.both ((keeps_onBin r _ _).both ((keeps_onBin r _ _).both
    ((keeps_onPayload r _).both (keeps_removeInSources r _))))

end Runs

/-! ## The images of a run -/

section Images

variable (r : Resources) (run : Run)

/-- The image for a keyboard layout, with what the run has prepared. -/
def builtImage (board keymap : String) (romtype : Romtype) : Option Bytes :=
  boardImage r run.toolchain run.version (payloadOf r run.gen) board keymap romtype

theorem image_eq_builtImage {payload : Files} (h : Prepared r run.gen payload)
    {board keymap : String} (hkeymap : keymap ∈ r.keymaps) (romtype : Romtype) :
    boardImage r run.toolchain run.version payload board keymap romtype
      = builtImage r run board keymap romtype := by
  have h' := prepared_payloadOf r run.gen
  unfold builtImage boardImage image plainRom configuredRom
  rw [h.elf, h'.elf, h.cfg romtype keymap hkeymap, h'.cfg romtype keymap hkeymap,
    h.test romtype keymap hkeymap, h'.test romtype keymap hkeymap]

/-- A directory with the images of a run and nothing else. -/
structure BuiltDirectory (board : String) (dir : Files) : Prop where
  image : ∀ romtype, skips board romtype = false → ∀ keymap ∈ r.keymaps,
    ∃ rom, builtImage r run board keymap romtype = some rom
      ∧ dir (imageName board keymap romtype) = some rom
  other : ∀ name, (∀ romtype, skips board romtype = false → ∀ keymap ∈ r.keymaps,
    name ≠ imageName board keymap romtype) → dir name = none

variable {ws ws' : Workspace}

/-- One board. -/
theorem withgrubHelper_delivers_built {board : String} (hconfig : (r.config .grub board).isSome)
    (hclean : CleanSources r ws) (hprepared : Prepared r run.gen ws.payload)
    (hrun : withgrubHelper r run.toolchain run.version board ws = .ok ws') :
    (CleanSources r ws' ∧ Prepared r run.gen ws'.payload)
      ∧ Delivers .grub (BuiltDirectory r run board) board ws ws' := by
  have hboard := r.config_board .grub board hconfig
  obtain ⟨hpayload, dir, himages, hbin⟩ := withgrubHelper_delivers r _ _ hclean hboard hrun
  refine ⟨⟨(keeps_withgrubHelper r _ _ hboard).of_ok hclean hrun, hpayload ▸ hprepared⟩, dir,
    ⟨fun romtype hskips keymap hkeymap => ?_, himages.other⟩, hbin⟩
  rw [← image_eq_builtImage r run hprepared hkeymap]
  exact himages.image romtype hskips keymap hkeymap

/-- **What lies in `bin/grub/` before the images are finished.** -/
theorem buildroms_delivers (hclean : CleanSources r ws) (hrun : buildroms r run ws = .ok ws') :
    Delivered r .grub (BuiltDirectory r run) (Payload.grub.boardsOf run.args) ws ws' := by
  obtain ⟨removed, hremove, hrun⟩ := both_eq_ok.mp hrun
  obtain ⟨start, hpayload, hloop⟩ := both_eq_ok.mp hrun
  have hremoved : CleanSources r removed := (keeps_removeInSources r isGrubFile).of_ok hclean hremove
  have hstart : CleanSources r start := (keeps_onPayload r _).of_ok hremoved hpayload
  obtain ⟨payload, hprepare, rfl⟩ := onPart_eq_ok.mp hpayload
  obtain rfl := Except.ok.inj hremove
  have hprepared := (preparePayload_eq_ok r run.gen _).2 payload hprepare
  have hloop := delivered_of_forEach
    (P := fun ws => CleanSources r ws ∧ Prepared r run.gen ws.payload)
    (fun _ hconfig _ _ hws => withgrubHelper_delivers_built r run hconfig hws.1 hws.2)
    ⟨hstart, hprepared⟩ hloop
  exact ⟨hloop.built, hloop.other, hloop.payload⟩

/-- What lies in `coreboot/` besides the GRUB files does not matter. -/
theorem buildable_iff {payload : Files} (h : Prepared r run.gen payload) (board : String) :
    Buildable r run.toolchain run.version payload board
      ↔ Buildable r run.toolchain run.version (payloadOf r run.gen) board := by
  have himage : ∀ romtype, ∀ keymap ∈ r.keymaps,
      boardImage r run.toolchain run.version payload board keymap romtype
        = boardImage r run.toolchain run.version (payloadOf r run.gen) board keymap romtype :=
    fun romtype keymap hkeymap => image_eq_builtImage r run h hkeymap romtype
  exact ⟨fun hbuildable => hbuildable.of_image fun romtype keymap hkeymap =>
      (himage romtype keymap hkeymap).symm,
    fun hbuildable => hbuildable.of_image himage⟩

/--
**When the images are built.** Both payloads can be generated, and all that the helper needs is there
for each board, whatever the runs before have left.
-/
theorem buildroms_gets_through :
    (∃ ws', buildroms r run ws = .ok ws') ↔
      (∀ romtype, ∃ elf, run.gen romtype = some elf)
        ∧ ∀ board ∈ Payload.grub.boardsOf run.args, (r.config .grub board).isSome →
          Buildable r run.toolchain run.version (payloadOf r run.gen) board := by
  have hloop : ∀ ws : Workspace, Prepared r run.gen ws.payload →
      ((∃ ws', forEach (buildrom r .grub (withgrubHelper r run.toolchain run.version))
          (Payload.grub.boardsOf run.args) ws = .ok ws') ↔
        ∀ board ∈ Payload.grub.boardsOf run.args, (r.config .grub board).isSome →
          Buildable r run.toolchain run.version (payloadOf r run.gen) board) := by
    refine fun ws hprepared => exists_forEach_buildrom
      (P := fun ws => Prepared r run.gen ws.payload) (fun board ws h => ?_)
      (fun board ws ws' h hhelper => ?_) hprepared
    · rw [withgrubHelper_gets_through, buildable_iff r run h]
    · obtain ⟨revision, files, -, -, rfl⟩ := onBoard_eq_ok.mp hhelper
      exact h
  constructor
  · rintro ⟨ws', hrun⟩
    obtain ⟨removed, hremove, hrun⟩ := both_eq_ok.mp hrun
    obtain ⟨start, hstart, hrun⟩ := both_eq_ok.mp hrun
    obtain ⟨payload, hprepare, rfl⟩ := onPart_eq_ok.mp hstart
    obtain ⟨hgen, hprepared⟩ := preparePayload_eq_ok r run.gen removed.payload
    exact ⟨hgen.mp ⟨payload, hprepare⟩, (hloop _ (hprepared payload hprepare)).mp ⟨ws', hrun⟩⟩
  · rintro ⟨hgen, hbuildable⟩
    have hprepare := preparePayload_eq_ok r run.gen ws.payload
    obtain ⟨payload, hpayload⟩ := hprepare.1.mpr hgen
    obtain ⟨ws', hrun⟩ := (hloop ⟨payload, fun revision name =>
      if isGrubFile name then none else ws.source revision name, ws.bin⟩
        (hprepare.2 payload hpayload)).mpr hbuildable
    exact ⟨ws', both_eq_ok.mpr ⟨_, rfl, both_eq_ok.mpr ⟨_, onPart_eq_ok.mpr ⟨payload, hpayload, rfl⟩,
      hrun⟩⟩⟩

end Images

/-! ## The finished images -/

section Finished

variable (r : Resources) (run : Run)

/-- The names of the images of a board. -/
def IsImage (board name : String) : Prop :=
  ∃ romtype, skips board romtype = false ∧ ∃ keymap ∈ r.keymaps,
    name = imageName board keymap romtype

/-- What becomes of an image that has been built. -/
structure FinishedRom (board : String) (built rom : Bytes) : Prop where
  i945 : board ∈ i945Boards → 2 * blockSize ≤ built.length ∧ rom = TopSwap.mirror blockSize built
  gm45 : ∀ d ∈ gm45Directories, d.name = board →
    Gm45Rom d.romsize (ich9genArgv run.gm45macaddress) built rom
  other : board ∉ i945Boards → board ∉ gm45Directories.map Gm45Directory.name → rom = built

/-- A directory with the finished images and nothing else. -/
structure FinishedDirectory (board : String) (dir : Files) : Prop where
  image : ∀ romtype, skips board romtype = false → ∀ keymap ∈ r.keymaps,
    ∃ built rom, builtImage r run board keymap romtype = some built
      ∧ dir (imageName board keymap romtype) = some rom ∧ FinishedRom run board built rom
  other : ∀ name, ¬ IsImage r board name → dir name = none

theorem FinishedRom.unique {board : String} {built rom rom' : Bytes}
    (h : FinishedRom run board built rom) (h' : FinishedRom run board built rom') : rom = rom' := by
  by_cases hi945 : board ∈ i945Boards
  · rw [(h.i945 hi945).2, (h'.i945 hi945).2]
  · by_cases hgm45 : board ∈ gm45Directories.map Gm45Directory.name
    · obtain ⟨d, hd, hname⟩ := List.mem_map.mp hgm45
      have hrom := h.gm45 d hd hname
      have hrom' := h'.gm45 d hd hname
      rw [← List.take_append_drop 0x3000 rom, ← List.take_append_drop 0x3000 rom', hrom.behind,
        hrom'.behind, hrom.regions.unique hrom'.regions]
    · rw [h.other hi945 hgm45, h'.other hi945 hgm45]

variable {board : String} {dir : Files}

/-- Every board has an image. -/
theorem exists_isImage (board : String) : ∃ name, IsImage r board name := by
  obtain ⟨keymap, hkeymap⟩ := List.exists_mem_of_ne_nil _ r.keymaps_ne_nil
  by_cases htxtmode : skips board .txtmode = false
  · exact ⟨_, .txtmode, htxtmode, keymap, hkeymap, rfl⟩
  · refine ⟨_, .vesafb, ?_, keymap, hkeymap, rfl⟩
    have hvesafb : ∀ board ∈ gm45Targets, skips board .vesafb = false := by decide
    exact hvesafb board (by simpa [skips] using htxtmode)

theorem isRom_of_isImage {name : String} (h : IsImage r board name) : IsRom name := by
  obtain ⟨romtype, -, keymap, -, rfl⟩ := h
  exact List.isSuffixOf_iff_suffix.mpr ((suffix_append _ _).trans (suffix_imageName _ _ _))

theorem visible_of_isImage (hboard : Visible board) {name : String} (h : IsImage r board name) :
    Visible name := by
  obtain ⟨romtype, -, keymap, -, rfl⟩ := h
  unfold Visible imageName at *
  simp only [String.toList_append]
  cases hname : board.toList with
  | nil => simp
  | cons c cs => simpa [hname] using hboard

theorem BuiltDirectory.ne_none_iff (h : BuiltDirectory r run board dir) {name : String} :
    dir name ≠ none ↔ IsImage r board name := by
  constructor
  · intro hne
    by_contra hnot
    refine hne (h.other name fun romtype hskips keymap hkeymap heq => hnot ?_)
    exact ⟨romtype, hskips, keymap, hkeymap, heq⟩
  · rintro ⟨romtype, hskips, keymap, hkeymap, rfl⟩
    obtain ⟨rom, -, hfile⟩ := h.image romtype hskips keymap hkeymap
    rw [hfile]
    exact Option.some_ne_none rom

theorem BuiltDirectory.finiteFiles (h : BuiltDirectory r run board dir) : FiniteFiles dir := by
  refine ⟨romtypes.flatMap fun romtype =>
    r.keymaps.map fun keymap => imageName board keymap romtype, fun name hne => ?_⟩
  obtain ⟨romtype, -, keymap, hkeymap, rfl⟩ := (h.ne_none_iff).mp hne
  exact List.mem_flatMap.mpr ⟨romtype, mem_romtypes romtype, List.mem_map.mpr ⟨keymap, hkeymap, rfl⟩⟩

variable (shell : Shell)

/-- `*` stands for the images. -/
theorem BuiltDirectory.mem_star (h : BuiltDirectory r run board dir) (hboard : Visible board)
    {name : String} : name ∈ shell.star dir ↔ IsImage r board name := by
  obtain ⟨image, himage⟩ := exists_isImage r board
  rw [shell.mem_star dir h.finiteFiles image (visible_of_isImage r hboard himage)
    (h.ne_none_iff.mpr himage), h.ne_none_iff]
  exact and_iff_right_of_imp (visible_of_isImage r hboard)

/-- So does `*.rom`. -/
theorem BuiltDirectory.mem_starRom (h : BuiltDirectory r run board dir) (hboard : Visible board)
    {name : String} : name ∈ shell.starRom dir ↔ IsImage r board name := by
  have hmem : ∀ name, name ∈ (shell.star dir).filter isRom ↔ IsImage r board name := by
    intro name
    rw [List.mem_filter, h.mem_star r run shell hboard]
    exact and_iff_left_of_imp fun himage => isRom_of_isImage r himage
  obtain ⟨image, himage⟩ := exists_isImage r board
  have hne : ((shell.star dir).filter isRom).isEmpty = false := by
    rw [List.isEmpty_eq_false_iff_exists_mem]
    exact ⟨image, (hmem image).mpr himage⟩
  rw [Shell.starRom, hne, if_neg (by decide), hmem]

theorem isRom_of_mem_starRom {name : String} (h : name ∈ shell.starRom dir) : IsRom name := by
  unfold Shell.starRom at h
  split at h
  · rw [List.mem_singleton.mp h]
    exact (by decide : ".rom".toList.isSuffixOf "*.rom".toList = true)
  · exact (List.mem_filter.mp h).2

variable {dir' : Files}

/-- **The images of the i945 boards.** -/
theorem BuiltDirectory.finish_i945 (h : BuiltDirectory r run board dir) (hboard : board ∈ i945Boards)
    (hrun : buctsTrick (shell.star dir) dir = .ok dir') : FinishedDirectory r run board dir' := by
  have hmirrors := buctsTrick_mirrors hrun
  have hvisible : ∀ board ∈ i945Boards, Visible board := by decide
  have hmem := fun name => @BuiltDirectory.mem_star r run board dir shell h (hvisible board hboard) name
  refine ⟨fun romtype hskips keymap hkeymap => ?_, fun name hnot => ?_⟩
  · obtain ⟨built, hbuilt, hfile⟩ := h.image romtype hskips keymap hkeymap
    obtain ⟨image, hold, hlen, hnew⟩ := hmirrors.image (imageName board keymap romtype)
      ((hmem _).mpr ⟨romtype, hskips, keymap, hkeymap, rfl⟩)
    obtain rfl := Option.some.inj (hfile.symm.trans hold)
    refine ⟨built, _, hbuilt, hnew, fun _ => ⟨hlen, rfl⟩, fun d hd hname => ?_,
      fun hother => absurd hboard hother⟩
    have hapart : ∀ d ∈ gm45Directories.map Gm45Directory.name, d ∉ i945Boards := by decide
    exact absurd hboard (hname ▸ hapart d.name (List.mem_map_of_mem hd))
  · by_cases htop : name = top64k
    · obtain ⟨image, himage⟩ := exists_isImage r board
      rw [htop]
      exact hmirrors.no_copy (List.ne_nil_of_mem ((hmem image).mpr himage))
    · rw [hmirrors.other name htop fun hstar => hnot ((hmem name).mp hstar)]
      by_contra hne
      exact hnot ((h.ne_none_iff r run).mp hne)

/-- **The images of the GM45 boards.** -/
theorem BuiltDirectory.finish_gm45 {d : Gm45Directory} (hd : d ∈ gm45Directories)
    (h : BuiltDirectory r run d.name dir)
    (hfilled : Filled d.romsize (ich9genArgv run.gm45macaddress) (shell.starRom dir) dir dir') :
    FinishedDirectory r run d.name dir' := by
  have hvisible : ∀ d ∈ gm45Directories, Visible d.name := by decide
  have hmem := fun name => @BuiltDirectory.mem_starRom r run d.name dir shell h (hvisible d hd) name
  refine ⟨fun romtype hskips keymap hkeymap => ?_, fun name hnot => ?_⟩
  · obtain ⟨built, hbuilt, hfile⟩ := h.image romtype hskips keymap hkeymap
    obtain ⟨rom, hnew, hrom⟩ := hfilled.rom (imageName d.name keymap romtype)
      ((hmem _).mpr ⟨romtype, hskips, keymap, hkeymap, rfl⟩)
    rw [hfile, Option.getD_some] at hrom
    refine ⟨built, rom, hbuilt, hnew, fun hi945 => ?_, fun d' hd' hname => ?_, fun _ hother => ?_⟩
    · have hapart : ∀ board ∈ i945Boards, board ∉ gm45Directories.map Gm45Directory.name := by
        decide
      exact absurd (List.mem_map_of_mem hd) (hapart d.name hi945)
    · obtain rfl := List.inj_on_of_nodup_map nodup_gm45Directories hd' hd hname
      exact hrom
    · exact absurd (List.mem_map_of_mem hd) hother
  · cases hleftover : isLeftover name with
    | true => exact hfilled.leftover name hleftover
    | false =>
      rw [hfilled.other name hleftover fun hstar => hnot ((hmem name).mp hstar)]
      by_contra hne
      exact hnot ((h.ne_none_iff r run).mp hne)

/-- The images of all other boards are finished already. -/
theorem BuiltDirectory.finish_other (h : BuiltDirectory r run board dir)
    (hi945 : board ∉ i945Boards) (hgm45 : board ∉ gm45Directories.map Gm45Directory.name) :
    FinishedDirectory r run board dir := by
  refine ⟨fun romtype hskips keymap hkeymap => ?_, fun name hnot => ?_⟩
  · obtain ⟨built, hbuilt, hfile⟩ := h.image romtype hskips keymap hkeymap
    exact ⟨built, built, hbuilt, hfile, fun hmem => absurd hmem hi945,
      fun d hd hname => absurd (hname ▸ List.mem_map_of_mem hd) hgm45, fun _ _ => rfl⟩
  · by_contra hne
    exact hnot ((h.ne_none_iff r run).mp hne)

/-- The files of a finished directory are determined. -/
theorem FinishedDirectory.unique (h : FinishedDirectory r run board dir)
    (h' : FinishedDirectory r run board dir') : dir = dir' := by
  funext name
  by_cases himage : IsImage r board name
  · obtain ⟨romtype, hskips, keymap, hkeymap, rfl⟩ := himage
    obtain ⟨built, rom, hbuilt, hfile, hrom⟩ := h.image romtype hskips keymap hkeymap
    obtain ⟨built', rom', hbuilt', hfile', hrom'⟩ := h'.image romtype hskips keymap hkeymap
    obtain rfl := Option.some.inj (hbuilt.symm.trans hbuilt')
    rw [hfile, hfile', hrom.unique run hrom']
  · rw [h.other name himage, h'.other name himage]

/-- Only the MAC address and the images that are built matter. -/
theorem FinishedDirectory.congr {run run' : Run} (h : FinishedDirectory r run board dir)
    (hmac : run'.gm45macaddress = run.gm45macaddress)
    (himage : ∀ romtype keymap,
      builtImage r run' board keymap romtype = builtImage r run board keymap romtype) :
    FinishedDirectory r run' board dir := by
  refine ⟨fun romtype hskips keymap hkeymap => ?_, h.other⟩
  obtain ⟨built, rom, hbuilt, hfile, hrom⟩ := h.image romtype hskips keymap hkeymap
  refine ⟨built, rom, (himage romtype keymap).trans hbuilt, hfile, hrom.i945, fun d hd hname => ?_,
    hrom.other⟩
  rw [hmac]
  exact hrom.gm45 d hd hname

end Finished

/-! ## A whole run -/

section Whole

variable (r : Resources) (shell : Shell) (run : Run) {ws ws' : Workspace}

/-- The three parts of a run that gets through. -/
theorem withgrub_eq_ok (hrun : withgrub r shell run ws = .ok ws') :
    ∃ built mirrored, buildroms r run ws = .ok built
      ∧ i945 shell (built.bin .grub) = .ok mirrored
      ∧ gm45 run.lib run.gm45macaddress (fun name => shell.starRom (Bin.dir mirrored name)) mirrored
        = .ok (ws'.bin .grub)
      ∧ ∀ other, other ≠ .grub → ws'.bin other = built.bin other := by
  obtain ⟨built, hbuild, hrun⟩ := both_eq_ok.mp hrun
  obtain ⟨_, htrick, hrun⟩ := both_eq_ok.mp hrun
  obtain ⟨mirrored, hi945, rfl⟩ := onPart_eq_ok.mp htrick
  obtain ⟨_, hregions, hrun⟩ := both_eq_ok.mp hrun
  obtain ⟨filled, hgm45, rfl⟩ := onPart_eq_ok.mp hregions
  obtain ⟨_, hremove, hrun⟩ := both_eq_ok.mp hrun
  obtain ⟨payload, hpayload, rfl⟩ := onPart_eq_ok.mp hremove
  obtain rfl := Except.ok.inj hpayload
  obtain rfl := Except.ok.inj hrun
  refine ⟨built, mirrored, hbuild, hi945, hgm45, fun other hne => ?_⟩
  show Function.update (Function.update built.bin .grub mirrored) .grub filled other = _
  rw [Function.update_of_ne hne, Function.update_of_ne hne]

/-- It gets through if they do. -/
theorem withgrub_gets_through {built : Workspace} {mirrored filled : Bin}
    (hbuild : buildroms r run ws = .ok built)
    (hi945 : i945 shell (built.bin .grub) = .ok mirrored)
    (hgm45 : gm45 run.lib run.gm45macaddress
      (fun name => shell.starRom (Bin.dir mirrored name)) mirrored = .ok filled) :
    ∃ ws', withgrub r shell run ws = .ok ws' :=
  ⟨_, both_eq_ok.mpr ⟨built, hbuild, both_eq_ok.mpr ⟨_, onPart_eq_ok.mpr ⟨mirrored, hi945, rfl⟩,
    both_eq_ok.mpr ⟨_, onPart_eq_ok.mpr ⟨filled, hgm45, rfl⟩,
      both_eq_ok.mpr ⟨_, onPart_eq_ok.mpr ⟨_, rfl, rfl⟩, rfl⟩⟩⟩⟩⟩

theorem Bin.dir_of_some {bin : Bin} {board : String} {dir : Files} (h : bin board = some dir) :
    Bin.dir bin board = dir := by
  rw [Bin.dir, h, Option.getD_some]

/-- The directories that have been built are finished. -/
theorem finish_all {built mirrored bin' : Bin} (hlib : ∀ name, (run.lib name).NoSilentLoss)
    (hi945 : i945 shell built = .ok mirrored)
    (hgm45 : gm45 run.lib run.gm45macaddress (fun name => shell.starRom (Bin.dir mirrored name))
      mirrored = .ok bin') {board : String} {dir : Files} (hdir : built board = some dir)
    (hbuilt : BuiltDirectory r run board dir) :
    ∃ dir', bin' board = some dir' ∧ FinishedDirectory r run board dir' := by
  obtain ⟨hframe, hdirectories⟩ := i945_directories hi945
  have hfills := gm45_fills hlib (fun name rom hrom => isRom_of_mem_starRom shell hrom) hgm45
  have hapart : ∀ board ∈ i945Boards, board ∉ gm45Directories.map Gm45Directory.name := by decide
  by_cases hmem : board ∈ i945Boards
  · obtain ⟨dir', hdir', htrick⟩ := hdirectories board hmem dir hdir
    refine ⟨dir', ?_, hbuilt.finish_i945 r run shell hmem htrick⟩
    rw [hfills.other board (hapart board hmem), hdir']
  · have hdir' : mirrored board = some dir := by rw [hframe board (.inl hmem), hdir]
    by_cases hname : board ∈ gm45Directories.map Gm45Directory.name
    · obtain ⟨d, hd, rfl⟩ := List.mem_map.mp hname
      obtain ⟨dir'', hdir'', hfilled⟩ := hfills.directory d hd dir hdir'
      rw [Bin.dir_of_some hdir'] at hfilled
      exact ⟨dir'', hdir'', hbuilt.finish_gm45 r run shell hd hfilled⟩
    · refine ⟨dir, ?_, hbuilt.finish_other r run hmem hname⟩
      rw [hfills.other board hname, hdir']

/-- **What a run that gets through leaves in `bin/`,** from clean sources. -/
theorem delivered_of_withgrub (hlib : ∀ name, (run.lib name).NoSilentLoss)
    (hclean : CleanSources r ws) (hrun : withgrub r shell run ws = .ok ws') :
    (∀ board ∈ Payload.grub.boardsOf run.args, (r.config .grub board).isSome →
        ∃ dir, ws'.bin .grub board = some dir ∧ FinishedDirectory r run board dir)
      ∧ (∀ board, board ∉ Payload.grub.boardsOf run.args ∨ r.config .grub board = none →
        board ∉ i945Boards → board ∉ gm45Directories.map Gm45Directory.name →
          ws'.bin .grub board = ws.bin .grub board)
      ∧ ws'.bin .seabios = ws.bin .seabios := by
  obtain ⟨built, mirrored, hbuild, hi945, hgm45, hpayload⟩ := withgrub_eq_ok r shell run hrun
  have hdelivered := buildroms_delivers r run hclean hbuild
  refine ⟨fun board hboard hconfig => ?_, fun board hboard hmem hname => ?_, ?_⟩
  · obtain ⟨dir, hdir, hdirectory⟩ := hdelivered.built board hboard hconfig
    exact finish_all r shell run hlib hi945 hgm45 hdir hdirectory
  · have hfills := gm45_fills hlib (fun name rom hrom => isRom_of_mem_starRom shell hrom) hgm45
    rw [hfills.other board hname, (i945_directories hi945).1 board (.inl hmem),
      hdelivered.other board hboard]
  · rw [hpayload .seabios (by decide), hdelivered.payload .seabios (by decide)]

end Whole

end Libreboot.Roms
