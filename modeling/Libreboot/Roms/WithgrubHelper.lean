import Libreboot.Roms.GrubConfig

/-!
# The GRUB images of one board

What `helpers/build/roms/withgrub_helper` does in the sources, up to the move to `bin/grub/`.

* `buildRomtype_eq_ok` — the images of one kind of graphics
* `buildImages_touches` — what changes in the sources at most
* `buildImages_eq_ok` — all images of a board
-/

namespace Libreboot.Roms

open Infra Script

/-! ## The script -/

def imageName (board keymap : String) (romtype : Romtype) : String :=
  board ++ "_" ++ keymap ++ "_" ++ romtype.text ++ ".rom"

def configName (romtype : Romtype) : String := "config_" ++ romtype.text

def gm45Targets : List String :=
  ["x200_8mb", "x200_4mb", "r400_8mb", "r400_4mb", "t400_8mb", "t400_4mb", "t500_8mb", "t500_4mb"]

/-- Text mode graphics is broken on the GM45 boards, and only text mode works on some others. -/
def skips (board : String) : Romtype → Bool
  | .txtmode => gm45Targets.contains board
  | .vesafb => ["kgpe-d16", "ga-g41m-es2l", "kcma-d8", "d510mo"].contains board

/-- The other kind of graphics, made with sed from the configuration of the board. -/
def switchVesaMode (pattern replacement : String) (config : Bytes) : Bytes :=
  Sed.substitute newline (literal pattern) (ascii replacement) config

section Script

variable (r : Resources) (t : Toolchain) (version : String) (payload : Files)

/-- The configurations for both kinds of graphics. -/
def prepareConfigs (board : String) : Command Files :=
  if board = "qemu_i440fx_piix4" ∨ board = "qemu_q35_ich9" then
    -- assume that the default config enables framebuffer mode
    both (put "config_vesafb" (r.config .grub board)) fun files =>
      put "config_txtmode" ((files "config_vesafb").map
        (switchVesaMode "CONFIG_FRAMEBUFFER_KEEP_VESA_MODE=y"
          "# CONFIG_FRAMEBUFFER_KEEP_VESA_MODE is not set")) files
  else
    -- assume that the default config enables text-mode
    both (put "config_txtmode" (r.config .grub board)) fun files =>
      put "config_vesafb" ((files "config_txtmode").map
        (switchVesaMode "# CONFIG_FRAMEBUFFER_KEEP_VESA_MODE is not set"
          "CONFIG_FRAMEBUFFER_KEEP_VESA_MODE=y")) files

/-- Build coreboot ROM image. -/
def compileRom (board : String) (romtype : Romtype) : Command Files :=
  -- `make clean`
  both (rm corebootRom) <|
  both (mv (configName romtype) ".config") <|
  both (put "grub.elf" (payload (grubElf romtype))) <|
  both (makeRom t (branchname .grub board) "grub.elf") <|
  both (rm "grub.elf") <|
  both (mv corebootRom (romName board romtype)) <|
  rm ".config"

def backgroundImage (board : String) : String :=
  if board = "macbook21" ∨ board ∈ gm45Targets then "background1280x800.png"
  else "background1024x768.png"

/-- Add the background image. -/
def addBackground (board : String) (romtype : Romtype) (rom : Bytes) : Option Bytes :=
  match romtype with
  | .vesafb => t.cbfstool rom "background.png" (r.background (backgroundImage board))
  | .txtmode => some rom

/-- Add the correct GRUB configuration file for this image. -/
def addConfigs (board : String) (romtype : Romtype) (keymap : String) : Command Files :=
  let image := imageName board keymap romtype
  both (cp (romName board romtype) image) <|
  both (rewrite image fun rom => (payload (grubCfg keymap romtype)).bind (t.cbfstool rom "grub.cfg"))
    (rewrite image fun rom =>
      (payload (grubtestCfg keymap romtype)).bind (t.cbfstool rom "grubtest.cfg"))

/-- The body of the loop over the kinds of graphics. -/
def buildRomtype (board : String) (romtype : Romtype) : Command Files :=
  both (compileRom t payload board romtype) <|
  both (rewrite (romName board romtype) (addBackground r t board romtype)) <|
  both (forEach (addConfigs t payload board romtype) r.keymaps) <|
  rm (romName board romtype)

/-- The loop goes on with the next kind of graphics if this one does not work on the board. -/
def buildUnlessSkipped (board : String) (romtype : Romtype) : Command Files :=
  if skips board romtype then .ok else buildRomtype r t payload board romtype

/-- `rm -f "grub."*{elf,cfg}` -/
def isGrubLeftover (name : String) : Bool := glob "grub." "elf" name || glob "grub." "cfg" name

/-- Everything that happens in the directory of the sources, up to the move. -/
def buildImages (board : String) : Command Files :=
  both (removeWhere isGrubLeftover) <|
  both (put corebootVersion (some (versionLine version))) <|
  both (prepareConfigs r board) <|
  forEach (buildUnlessSkipped r t payload board) romtypes

end Script

def withgrubHelper (r : Resources) (t : String → Toolchain) (version board : String) :
    Command Workspace :=
  onBoard r t .grub (fun t ws => buildImages r t version ws.payload board) board

/-! ## The images -/

section Images

variable (r : Resources) (t : Toolchain) (version : String) (payload : Files)

/-- The configuration for a kind of graphics. -/
def configOf (board : String) (romtype : Romtype) : Option Bytes :=
  (r.config .grub board).map fun config =>
    if board = "qemu_i440fx_piix4" ∨ board = "qemu_q35_ich9" then
      match romtype with
      | .vesafb => config
      | .txtmode => switchVesaMode "CONFIG_FRAMEBUFFER_KEEP_VESA_MODE=y"
          "# CONFIG_FRAMEBUFFER_KEEP_VESA_MODE is not set" config
    else
      match romtype with
      | .txtmode => config
      | .vesafb => switchVesaMode "# CONFIG_FRAMEBUFFER_KEEP_VESA_MODE is not set"
          "CONFIG_FRAMEBUFFER_KEEP_VESA_MODE=y" config

/-- The image without a keyboard layout. -/
def plainRom (board : String) (romtype : Romtype) : Option Bytes :=
  (configOf r board romtype).bind fun config => (payload (grubElf romtype)).bind fun elf =>
    (t.make (branchname .grub board) (versionLine version) config elf).bind
      (addBackground r t board romtype)

/-- The two configuration files are added. -/
def configuredRom (keymap : String) (romtype : Romtype) (rom : Bytes) : Option Bytes :=
  ((payload (grubCfg keymap romtype)).bind (t.cbfstool rom "grub.cfg")).bind fun rom =>
    (payload (grubtestCfg keymap romtype)).bind (t.cbfstool rom "grubtest.cfg")

/-- The image for a keyboard layout. -/
def image (board keymap : String) (romtype : Romtype) : Option Bytes :=
  (plainRom r t version payload board romtype).bind (configuredRom t payload keymap romtype)

end Images

/-! ## The names -/

theorem suffix_imageName (board keymap : String) (romtype : Romtype) :
    (romtype.text ++ ".rom").toList <:+ (imageName board keymap romtype).toList := by
  rw [imageName, String.append_assoc]
  exact suffix_append _ _

theorem imageName_inj {board keymap keymap' : String} {romtype romtype' : Romtype}
    (h : imageName board keymap romtype = imageName board keymap' romtype') :
    keymap = keymap' ∧ romtype = romtype' := by
  have hfront := (String.append_left_inj ".rom").mp h
  obtain rfl := Romtype.eq_of_append hfront
  have hword := (String.append_left_inj "_").mp ((String.append_left_inj romtype.text).mp hfront)
  exact ⟨(String.append_right_inj (board ++ "_")).mp hword, rfl⟩

/-- The image without a layout has the shortest name. -/
theorem imageName_ne_romName (board keymap : String) (romtype romtype' : Romtype) :
    imageName board keymap romtype ≠ romName board romtype' := by
  intro h
  have hfront := (String.append_left_inj ".rom").mp h
  obtain rfl := Romtype.eq_of_append hfront
  have hword := (String.append_left_inj "_").mp ((String.append_left_inj romtype.text).mp hfront)
  have hlength := congrArg String.length hword
  simp only [String.length_append] at hlength
  have hunderscore : "_".length = 1 := rfl
  omega

/-- The files that are used on the way to an image. -/
def scratch (romtype : Romtype) : List String :=
  [corebootRom, configName romtype, ".config", "grub.elf"]

theorem romName_not_scratch (board : String) (romtype romtype' : Romtype) :
    romName board romtype ∉ scratch romtype' := by
  have hall : ∀ name ∈ scratch romtype',
      ¬ (romtype.text ++ ".rom").toList.isSuffixOf name.toList = true := by
    cases romtype <;> cases romtype' <;> decide
  intro hmem
  exact hall _ hmem (List.isSuffixOf_iff_suffix.mpr (suffix_romName board romtype))

theorem imageName_not_scratch (board keymap : String) (romtype romtype' : Romtype) :
    imageName board keymap romtype ∉ scratch romtype' := by
  have hall : ∀ name ∈ scratch romtype',
      ¬ (romtype.text ++ ".rom").toList.isSuffixOf name.toList = true := by
    cases romtype <;> cases romtype' <;> decide
  intro hmem
  exact hall _ hmem (List.isSuffixOf_iff_suffix.mpr (suffix_imageName board keymap romtype))

/-! ## One kind of graphics -/

section Romtype

variable (r : Resources) (t : Toolchain) (payload : Files) {board : String} {romtype : Romtype}
  {files files' : Files}

/-- **The compilation** leaves the image and nothing else. -/
theorem compileRom_eq_ok {version config : Bytes} (hversion : files corebootVersion = some version)
    (hconfig : files (configName romtype) = some config) :
    compileRom t payload board romtype files = .ok files' ↔
      ∃ elf rom, payload (grubElf romtype) = some elf
        ∧ t.make (branchname .grub board) version config elf = some rom
        ∧ files' = Function.update (fun name => if name ∈ scratch romtype then none else files name)
          (romName board romtype) (some rom) := by
  have hrom := romName_not_scratch board romtype romtype
  simp only [scratch, List.mem_cons, List.not_mem_nil, or_false, not_or] at hrom
  obtain ⟨hrom₁, hrom₂, hrom₃, hrom₄⟩ := hrom
  have hcv : corebootVersion ≠ corebootRom ∧ corebootVersion ≠ ".config"
      ∧ corebootVersion ≠ "grub.elf" ∧ corebootVersion ≠ configName romtype := by
    cases romtype <;> decide
  have hcn : configName romtype ≠ corebootRom ∧ configName romtype ≠ ".config"
      ∧ configName romtype ≠ "grub.elf" := by
    cases romtype <;> decide
  have hcr : corebootRom ≠ ".config" ∧ corebootRom ≠ "grub.elf" := by decide
  unfold compileRom
  simp only [both_eq_ok, rm, mv_eq_ok, put_eq_ok, makeRom, Except.ok.injEq]
  constructor
  · rintro ⟨_, rfl, _, ⟨c, hc, rfl⟩, _, ⟨elf, helf, rfl⟩, _, ⟨rom, hmake, rfl⟩, _, rfl, _,
      ⟨rom', hrom', rfl⟩, rfl⟩
    simp [Function.update_apply, hcn, hcv, hcr, hversion, hconfig] at hc hmake hrom'
    subst hc hrom'
    refine ⟨elf, rom, helf, hmake, ?_⟩
    funext name
    simp only [Function.update_apply, scratch, List.mem_cons, List.not_mem_nil, or_false]
    grind
  · rintro ⟨elf, rom, helf, hmake, rfl⟩
    refine ⟨_, rfl, _, ⟨config, ?_, rfl⟩, _, ⟨elf, helf, rfl⟩, _, ⟨rom, ?_, rfl⟩, _, rfl, _,
      ⟨rom, ?_, rfl⟩, ?_⟩
    · rw [Function.update_of_ne hcn.1, hconfig]
    · simp [hcn.2.1.symm, hcv, hversion, hmake]
    · simp [hcr]
    · funext name
      simp only [Function.update_apply, scratch, List.mem_cons, List.not_mem_nil, or_false]
      grind

/-- The image of a keyboard layout. -/
theorem addConfigs_eq_ok {keymap : String} {rom : Bytes}
    (hrom : files (romName board romtype) = some rom) :
    addConfigs t payload board romtype keymap files = .ok files' ↔
      ∃ image, configuredRom t payload keymap romtype rom = some image
        ∧ files' = Function.update files (imageName board keymap romtype) (some image) := by
  unfold addConfigs configuredRom
  simp only [both_eq_ok, cp_eq_ok, rewrite_eq_ok, hrom, Option.some.injEq, Option.bind_eq_some_iff]
  constructor
  · rintro ⟨_, ⟨v, rfl, rfl⟩, _, ⟨v, w, hv, hw, rfl⟩, v', w', hv', hw', rfl⟩
    simp only [Function.update_self, Option.some.injEq] at hv hv'
    subst hv hv'
    exact ⟨w', ⟨w, hw, hw'⟩, by rw [Function.update_idem, Function.update_idem]⟩
  · rintro ⟨image, ⟨w, hw, himage⟩, rfl⟩
    exact ⟨_, ⟨rom, rfl, rfl⟩, _, ⟨rom, w, Function.update_self _ _ _, hw, rfl⟩, w, image,
      Function.update_self _ _ _, himage, by rw [Function.update_idem, Function.update_idem]⟩

/-- The names of the images, and of the one that they are copied from. -/
def Creates (board : String) (romtype : Romtype) (name : String) : Prop :=
  name = romName board romtype ∨ ∃ keymap ∈ r.keymaps, name = imageName board keymap romtype

theorem compileRom_touches (board : String) (romtype : Romtype) :
    Touches (fun name => name ∈ scratch romtype ∨ name = romName board romtype)
      (compileRom t payload board romtype) := by
  have hscratch : corebootRom ∈ scratch romtype ∧ configName romtype ∈ scratch romtype
      ∧ ".config" ∈ scratch romtype ∧ "grub.elf" ∈ scratch romtype := by simp [scratch]
  obtain ⟨hbuilt, hname, hconfig, helf⟩ := hscratch
  refine ((touches_rm _).mono ?_).both (((touches_mv _ _).mono ?_).both
    (((touches_put _ _).mono ?_).both (((makeRom_touches t _ _).mono ?_).both
      (((touches_rm _).mono ?_).both (((touches_mv _ _).mono ?_).both ((touches_rm _).mono ?_))))))
  · rintro _ rfl
    exact .inl hbuilt
  · rintro _ (rfl | rfl)
    · exact .inl hname
    · exact .inl hconfig
  · rintro _ rfl
    exact .inl helf
  · rintro _ rfl
    exact .inl hbuilt
  · rintro _ rfl
    exact .inl helf
  · rintro _ (rfl | rfl)
    · exact .inl hbuilt
    · exact .inr rfl
  · rintro _ rfl
    exact .inl hconfig

theorem addConfigs_touches (board : String) (romtype : Romtype) (keymap : String) :
    Touches (fun name => name = imageName board keymap romtype)
      (addConfigs t payload board romtype keymap) :=
  (touches_cp _ _).both ((touches_rewrite _ _).both (touches_rewrite _ _))

/-- **What one kind of graphics changes,** whether it gets through or not. -/
theorem buildRomtype_touches (board : String) (romtype : Romtype) :
    Touches (fun name => name ∈ scratch romtype ∨ Creates r board romtype name)
      (buildRomtype r t payload board romtype) := by
  refine ((compileRom_touches t payload board romtype).mono ?_).both
    (((touches_rewrite _ _).mono ?_).both ((Touches.forEach fun keymap hkeymap =>
      (addConfigs_touches t payload board romtype keymap).mono ?_).both ((touches_rm _).mono ?_)))
  · rintro name (hname | rfl)
    · exact .inl hname
    · exact .inr (.inl rfl)
  · rintro _ rfl
    exact .inr (.inl rfl)
  · rintro _ rfl
    exact .inr (.inr ⟨keymap, hkeymap, rfl⟩)
  · rintro _ rfl
    exact .inr (.inl rfl)

/-- The sources when a kind of graphics is built: version and configuration are there. -/
structure Configured (version board : String) (romtype : Romtype) (files : Files) : Prop where
  version : files corebootVersion = some (versionLine version)
  config : files (configName romtype) = configOf r board romtype

/-- The image that is then copied for every keyboard layout. -/
theorem plainRom_eq_ok {version : String} (h : Configured r version board romtype files) :
    both (compileRom t payload board romtype)
        (rewrite (romName board romtype) (addBackground r t board romtype)) files = .ok files' ↔
      ∃ rom, plainRom r t version payload board romtype = some rom
        ∧ files' = Function.update (fun name => if name ∈ scratch romtype then none else files name)
          (romName board romtype) (some rom) := by
  unfold plainRom
  rw [both_eq_ok]
  cases hconfig : configOf r board romtype with
  | none =>
    -- there is nothing to be moved to `.config`
    refine iff_of_false ?_ (by simp)
    rintro ⟨mid, hcompile, -⟩
    obtain ⟨_, hclean, hcompile⟩ := both_eq_ok.mp hcompile
    obtain rfl := Except.ok.inj hclean
    obtain ⟨_, hmv, -⟩ := both_eq_ok.mp hcompile
    obtain ⟨config, hsome, -⟩ := mv_eq_ok.mp hmv
    have hne : configName romtype ≠ corebootRom := by cases romtype <;> decide
    rw [Function.update_of_ne hne, h.config, hconfig] at hsome
    cases hsome
  | some config =>
    simp only [compileRom_eq_ok t payload h.version (h.config.trans hconfig), rewrite_eq_ok,
      Option.bind_some, Option.bind_eq_some_iff]
    constructor
    · rintro ⟨_, ⟨elf, rom, helf, hmake, rfl⟩, v, w, hv, hw, rfl⟩
      rw [Function.update_self, Option.some.injEq] at hv
      subst hv
      exact ⟨w, ⟨elf, helf, rom, hmake, hw⟩, Function.update_idem _ _ _⟩
    · rintro ⟨w, ⟨elf, helf, rom, hmake, hw⟩, rfl⟩
      exact ⟨_, ⟨elf, rom, helf, hmake, rfl⟩, rom, w, Function.update_self _ _ _, hw,
        (Function.update_idem _ _ _).symm⟩

/-- The image is made, copied for every keyboard layout, and removed. -/
theorem buildRomtype_split {version : String} (h : Configured r version board romtype files) :
    buildRomtype r t payload board romtype files = .ok files' ↔
      ∃ rom, plainRom r t version payload board romtype = some rom
        ∧ ∃ mid, forEach (addConfigs t payload board romtype) r.keymaps
            (Function.update (fun name => if name ∈ scratch romtype then none else files name)
              (romName board romtype) (some rom)) = .ok mid
          ∧ Function.update mid (romName board romtype) none = files' := by
  unfold buildRomtype
  constructor
  · intro hrun
    obtain ⟨compiled, hcompile, hrun⟩ := both_eq_ok.mp hrun
    obtain ⟨plain, hbackground, hrun⟩ := both_eq_ok.mp hrun
    obtain ⟨mid, hloop, hrm⟩ := both_eq_ok.mp hrun
    obtain ⟨rom, hrom, rfl⟩ :=
      (plainRom_eq_ok r t payload h).mp (both_eq_ok.mpr ⟨compiled, hcompile, hbackground⟩)
    exact ⟨rom, hrom, mid, hloop, Except.ok.inj hrm⟩
  · rintro ⟨rom, hrom, mid, hloop, rfl⟩
    obtain ⟨compiled, hcompile, hbackground⟩ :=
      both_eq_ok.mp ((plainRom_eq_ok r t payload h).mpr ⟨rom, hrom, rfl⟩)
    exact both_eq_ok.mpr ⟨compiled, hcompile, both_eq_ok.mpr ⟨_, hbackground,
      both_eq_ok.mpr ⟨mid, hloop, rfl⟩⟩⟩

/-- **The images of one kind of graphics.** -/
theorem buildRomtype_eq_ok {version : String} (h : Configured r version board romtype files) :
    ((∃ files', buildRomtype r t payload board romtype files = .ok files') ↔
        ∀ keymap ∈ r.keymaps, ∃ rom, image r t version payload board keymap romtype = some rom)
      ∧ ∀ files', buildRomtype r t payload board romtype files = .ok files' →
        (∀ keymap ∈ r.keymaps, ∃ rom, image r t version payload board keymap romtype = some rom
            ∧ files' (imageName board keymap romtype) = some rom)
          ∧ files' (romName board romtype) = none := by
  have hbody : ∀ rom, ∀ keymap ∈ r.keymaps, ∀ s : Files, s (romName board romtype) = some rom →
      ∀ s', addConfigs t payload board romtype keymap s = .ok s' ↔
        ∃ v, configuredRom t payload keymap romtype rom = some v
          ∧ s' = Function.update s (imageName board keymap romtype) (some v) :=
    fun rom keymap _ s hs s' => addConfigs_eq_ok t payload hs
  have hkept : ∀ rom, ∀ keymap ∈ r.keymaps, ∀ (s : Files) (v : Bytes),
      s (romName board romtype) = some rom →
        Function.update s (imageName board keymap romtype) (some v) (romName board romtype)
          = some rom := by
    intro rom keymap _ s v hs
    rw [Function.update_of_ne (imageName_ne_romName board keymap romtype romtype).symm, hs]
  constructor
  · simp only [buildRomtype_split r t payload h]
    cases hplain : plainRom r t version payload board romtype with
    | none =>
      obtain ⟨keymap, hkeymap⟩ := List.exists_mem_of_ne_nil _ r.keymaps_ne_nil
      refine iff_of_false (by simp) fun hall => ?_
      obtain ⟨rom, hrom⟩ := hall keymap hkeymap
      rw [image, hplain] at hrom
      cases hrom
    | some rom =>
      have hloop := exists_forEach_puts (hbody rom) (hkept rom)
        (s := Function.update (fun name => if name ∈ scratch romtype then none else files name)
          (romName board romtype) (some rom)) (Function.update_self _ _ _)
      simp only [image, hplain, Option.bind_some, ← hloop]
      constructor
      · rintro ⟨_, _, hrom, mid, hmid, -⟩
        cases hrom
        exact ⟨mid, hmid⟩
      · rintro ⟨mid, hmid⟩
        exact ⟨_, rom, rfl, mid, hmid, rfl⟩
  · intro files' hrun
    obtain ⟨rom, hplain, mid, hloop, rfl⟩ := (buildRomtype_split r t payload h).mp hrun
    have hwritten := ((forEach_puts (hbody rom) (hkept rom)
      (fun keymap _ keymap' _ hname => by rw [(imageName_inj hname).1]) (fun _ hkeymap => hkeymap)
      (Function.update_self _ _ _)).mp hloop).1
    refine ⟨fun keymap hkeymap => ?_, Function.update_self _ _ _⟩
    obtain ⟨v, hv, hmid⟩ := hwritten keymap hkeymap
    refine ⟨v, ?_, ?_⟩
    · rw [image, hplain, Option.bind_some, hv]
    · rw [Function.update_of_ne (imageName_ne_romName board keymap romtype romtype), hmid]

end Romtype

/-! ## All images of a board -/

section Board

variable (r : Resources) (t : Toolchain) (version : String) (payload : Files) {board : String}
  {files files' : Files}

/-- **Both configurations** are written if the board has one. -/
theorem prepareConfigs_eq_ok :
    ((∃ files', prepareConfigs r board files = .ok files') ↔ ∃ config, r.config .grub board = some config)
      ∧ ∀ files', prepareConfigs r board files = .ok files' →
        ∀ romtype, files' (configName romtype) = configOf r board romtype := by
  unfold prepareConfigs configOf
  cases hconfig : r.config .grub board with
  | none =>
    split
    · simp [both, put, Except.bind]
    · simp [both, put, Except.bind]
  | some config =>
    split
    · simp only [both, put, Except.bind, Function.update_self, Option.map_some]
      refine ⟨iff_of_true ⟨_, rfl⟩ ⟨config, rfl⟩, ?_⟩
      rintro _ ⟨⟩ romtype
      cases romtype <;> simp [configName, Romtype.text]
    · simp only [both, put, Except.bind, Function.update_self, Option.map_some]
      refine ⟨iff_of_true ⟨_, rfl⟩ ⟨config, rfl⟩, ?_⟩
      rintro _ ⟨⟩ romtype
      cases romtype <;> simp [configName, Romtype.text]

theorem prepareConfigs_touches (board : String) :
    Touches (fun name => ∃ romtype, name = configName romtype) (prepareConfigs r board) := by
  have hput : ∀ (romtype : Romtype) (content : Files → Option Bytes),
      Touches (fun name => ∃ romtype, name = configName romtype)
        (fun files : Files => put (configName romtype) (content files) files) :=
    fun romtype content files name hname =>
      touches_put _ _ files name fun heq => hname ⟨romtype, heq⟩
  unfold prepareConfigs
  split
  · exact (hput .vesafb fun _ => r.config .grub board).both (hput .txtmode _)
  · exact (hput .txtmode fun _ => r.config .grub board).both (hput .vesafb _)

/-- The names that a round may change. -/
def Owns (board : String) (romtype : Romtype) (name : String) : Prop :=
  name ∈ scratch romtype ∨ Creates r board romtype name

theorem Creates.suffix {romtype : Romtype} {name : String} (h : Creates r board romtype name) :
    (romtype.text ++ ".rom").toList <:+ name.toList := by
  rcases h with rfl | ⟨keymap, -, rfl⟩
  · exact suffix_romName board romtype
  · exact suffix_imageName board keymap romtype

/-- What ends differently is not changed by a round. -/
theorem not_owns {romtype : Romtype} {name : String} (hscratch : name ∉ scratch romtype)
    (hsuffix : ¬ (romtype.text ++ ".rom").toList <:+ name.toList) :
    ¬ Owns r board romtype name := by
  rintro (h | h)
  · exact hscratch h
  · exact hsuffix (Creates.suffix r h)

theorem corebootVersion_not_owned (romtype : Romtype) :
    ¬ Owns r board romtype corebootVersion := by
  refine not_owns r ?_ ?_ <;> cases romtype <;> decide

theorem configName_not_owned {romtype romtype' : Romtype} (hne : romtype ≠ romtype') :
    ¬ Owns r board romtype (configName romtype') := by
  refine not_owns r ?_ ?_ <;> revert hne <;> cases romtype <;> cases romtype' <;> decide

/-- The images of the other kind of graphics are left alone. -/
theorem creates_not_owned {romtype romtype' : Romtype} (hne : romtype ≠ romtype') {name : String}
    (h : Creates r board romtype' name) : ¬ Owns r board romtype name := by
  have hsuffix := Creates.suffix r h
  have happend : ∀ {romtype'' : Romtype},
      (romtype''.text ++ ".rom").toList <:+ name.toList → romtype'' = romtype' := by
    intro romtype'' h''
    by_contra hne''
    refine ne_of_suffix h'' hsuffix ?_ ?_ rfl <;>
      revert hne'' <;> cases romtype'' <;> cases romtype' <;> decide
  rintro (hscratch | hcreates)
  · rcases h with rfl | ⟨keymap, -, rfl⟩
    · exact romName_not_scratch board romtype' romtype hscratch
    · exact imageName_not_scratch board keymap romtype' romtype hscratch
  · exact hne (happend (Creates.suffix r hcreates))

theorem buildUnlessSkipped_touches (board : String) (romtype : Romtype) :
    Touches (fun name => skips board romtype = false ∧ Owns r board romtype name)
      (buildUnlessSkipped r t payload board romtype) := by
  unfold buildUnlessSkipped
  cases skips board romtype with
  | true => exact fun _ _ _ => rfl
  | false => exact (buildRomtype_touches r t payload board romtype).mono fun _ h => ⟨rfl, h⟩

/-- What a round has made. -/
structure Made (board : String) (romtype : Romtype) (files : Files) : Prop where
  image : ∀ keymap ∈ r.keymaps, ∃ rom, image r t version payload board keymap romtype = some rom
    ∧ files (imageName board keymap romtype) = some rom
  plain : files (romName board romtype) = none

theorem buildUnlessSkipped_eq_ok {romtype : Romtype} (h : Configured r version board romtype files) :
    ((∃ files', buildUnlessSkipped r t payload board romtype files = .ok files') ↔
        (skips board romtype = false → ∀ keymap ∈ r.keymaps,
          ∃ rom, Roms.image r t version payload board keymap romtype = some rom))
      ∧ ∀ files', buildUnlessSkipped r t payload board romtype files = .ok files' →
        skips board romtype = false → Made r t version payload board romtype files' := by
  unfold buildUnlessSkipped
  cases skips board romtype with
  | true => simp
  | false =>
    obtain ⟨hiff, hmade⟩ := buildRomtype_eq_ok r t payload h
    refine ⟨?_, fun files' hrun _ => ?_⟩
    · simpa using hiff
    · obtain ⟨himage, hplain⟩ := hmade files' hrun
      exact ⟨himage, hplain⟩

/-- The other rounds do not undo it. -/
theorem Made.of_touches {romtype romtype' : Romtype} (hne : romtype' ≠ romtype)
    {command : Command Files}
    (htouches : Touches (fun name => skips board romtype' = false ∧ Owns r board romtype' name)
      command)
    (hrun : command files = .ok files') (h : Made r t version payload board romtype files) :
    Made r t version payload board romtype files' := by
  have hkeep : ∀ name, Creates r board romtype name → files' name = files name :=
    fun name hname => htouches.of_ok hrun fun howns => creates_not_owned r hne hname howns.2
  refine ⟨fun keymap hkeymap => ?_, ?_⟩
  · obtain ⟨rom, himage, hfile⟩ := h.image keymap hkeymap
    exact ⟨rom, himage, by rw [hkeep _ (.inr ⟨keymap, hkeymap, rfl⟩), hfile]⟩
  · rw [hkeep _ (.inl rfl), h.plain]

/-- **The loop over the kinds of graphics.** -/
theorem buildRomtypes_eq_ok (h : ∀ romtype, Configured r version board romtype files) :
    ((∃ files', forEach (buildUnlessSkipped r t payload board) romtypes files = .ok files') ↔
        ∀ romtype, skips board romtype = false → ∀ keymap ∈ r.keymaps,
          ∃ rom, image r t version payload board keymap romtype = some rom)
      ∧ ∀ files', forEach (buildUnlessSkipped r t payload board) romtypes files = .ok files' →
        ∀ romtype, skips board romtype = false → Made r t version payload board romtype files' := by
  have hne : Romtype.txtmode ≠ .vesafb := by decide
  have htext := buildUnlessSkipped_touches r t payload board .txtmode
  have hvesa := buildUnlessSkipped_touches r t payload board .vesafb
  -- the first round leaves the configuration of the second one alone
  have hsecond : ∀ mid, buildUnlessSkipped r t payload board .txtmode files = .ok mid →
      Configured r version board .vesafb mid := by
    intro mid hrun
    refine ⟨?_, ?_⟩
    · rw [htext.of_ok hrun fun howns => corebootVersion_not_owned r .txtmode howns.2]
      exact (h .vesafb).version
    · rw [htext.of_ok hrun fun howns => configName_not_owned r hne howns.2]
      exact (h .vesafb).config
  obtain ⟨hiff, hmade⟩ := buildUnlessSkipped_eq_ok r t version payload (h .txtmode)
  rw [forEach_romtypes]
  constructor
  · constructor
    · rintro ⟨files', hrun⟩
      obtain ⟨mid, hfirst, hrun⟩ := both_eq_ok.mp hrun
      obtain ⟨last, hlast, -⟩ := both_eq_ok.mp hrun
      obtain ⟨hiff', -⟩ := buildUnlessSkipped_eq_ok r t version payload (hsecond mid hfirst)
      intro romtype
      cases romtype with
      | txtmode => exact hiff.mp ⟨mid, hfirst⟩
      | vesafb => exact hiff'.mp ⟨last, hlast⟩
    · intro hall
      obtain ⟨mid, hfirst⟩ := hiff.mpr (hall .txtmode)
      obtain ⟨hiff', -⟩ := buildUnlessSkipped_eq_ok r t version payload (hsecond mid hfirst)
      obtain ⟨last, hlast⟩ := hiff'.mpr (hall .vesafb)
      exact ⟨last, both_eq_ok.mpr ⟨mid, hfirst, both_eq_ok.mpr ⟨last, hlast, rfl⟩⟩⟩
  · intro files' hrun romtype hskips
    obtain ⟨mid, hfirst, hrun⟩ := both_eq_ok.mp hrun
    obtain ⟨last, hlast, hend⟩ := both_eq_ok.mp hrun
    obtain rfl := Except.ok.inj hend
    obtain ⟨-, hmade'⟩ := buildUnlessSkipped_eq_ok r t version payload (hsecond mid hfirst)
    cases romtype with
    | txtmode => exact (hmade mid hfirst hskips).of_touches r t version payload hne.symm hvesa hlast
    | vesafb => exact hmade' last hlast hskips

/-- **What changes in the sources at most,** whether the script gets through or not. -/
theorem buildImages_touches (board : String) :
    Touches (fun name => isGrubLeftover name = true ∨ name = corebootVersion
        ∨ (∃ romtype, name = configName romtype)
        ∨ ∃ romtype, skips board romtype = false ∧ Owns r board romtype name)
      (buildImages r t version payload board) := by
  unfold buildImages
  refine ((touches_removeWhere _).mono ?_).both (((touches_put _ _).mono ?_).both
    (((prepareConfigs_touches r board).mono ?_).both
      (Touches.forEach fun romtype _ =>
        (buildUnlessSkipped_touches r t payload board romtype).mono ?_)))
  · exact fun _ h => .inl h
  · exact fun _ h => .inr (.inl h)
  · exact fun _ h => .inr (.inr (.inl h))
  · exact fun _ h => .inr (.inr (.inr ⟨romtype, h⟩))

/-- **All images of a board.** -/
theorem buildImages_eq_ok :
    ((∃ files', buildImages r t version payload board files = .ok files') ↔
        (∃ config, r.config .grub board = some config)
          ∧ ∀ romtype, skips board romtype = false → ∀ keymap ∈ r.keymaps,
            ∃ rom, image r t version payload board keymap romtype = some rom)
      ∧ ∀ files', buildImages r t version payload board files = .ok files' →
        ∀ romtype, skips board romtype = false → Made r t version payload board romtype files' := by
  have hstart : ∀ start : Files,
      start corebootVersion = some (versionLine version) →
        ∀ mid, prepareConfigs r board start = .ok mid →
          ∀ romtype, Configured r version board romtype mid := by
    intro start hversion mid hconfigs romtype
    refine ⟨?_, (prepareConfigs_eq_ok r).2 mid hconfigs romtype⟩
    have hname : ¬ ∃ romtype, corebootVersion = configName romtype := by
      rintro ⟨romtype, heq⟩
      revert heq
      cases romtype <;> decide
    rw [(prepareConfigs_touches r board).of_ok hconfigs hname, hversion]
  constructor
  · constructor
    · rintro ⟨files', hrun⟩
      obtain ⟨removed, -, hrun⟩ := both_eq_ok.mp hrun
      obtain ⟨start, hversion, hrun⟩ := both_eq_ok.mp hrun
      obtain ⟨mid, hconfigs, hloop⟩ := both_eq_ok.mp hrun
      obtain ⟨v, hv, rfl⟩ := put_eq_ok.mp hversion
      obtain rfl := Option.some.inj hv
      exact ⟨(prepareConfigs_eq_ok r).1.mp ⟨mid, hconfigs⟩,
        (buildRomtypes_eq_ok r t version payload
          (hstart _ (Function.update_self _ _ _) mid hconfigs)).1.mp ⟨files', hloop⟩⟩
    · rintro ⟨hconfig, hall⟩
      obtain ⟨mid, hconfigs⟩ := (@prepareConfigs_eq_ok r board _).1.mpr hconfig
      obtain ⟨files', hloop⟩ := (buildRomtypes_eq_ok r t version payload
        (hstart _ (Function.update_self _ _ _) mid hconfigs)).1.mpr hall
      exact ⟨files', both_eq_ok.mpr ⟨_, rfl, both_eq_ok.mpr ⟨_, put_eq_ok.mpr ⟨_, rfl, rfl⟩,
        both_eq_ok.mpr ⟨mid, hconfigs, hloop⟩⟩⟩⟩
  · intro files' hrun
    obtain ⟨removed, -, hrun⟩ := both_eq_ok.mp hrun
    obtain ⟨start, hversion, hrun⟩ := both_eq_ok.mp hrun
    obtain ⟨mid, hconfigs, hloop⟩ := both_eq_ok.mp hrun
    obtain ⟨v, hv, rfl⟩ := put_eq_ok.mp hversion
    obtain rfl := Option.some.inj hv
    exact (buildRomtypes_eq_ok r t version payload
      (hstart _ (Function.update_self _ _ _) mid hconfigs)).2 files' hloop

end Board

end Libreboot.Roms
