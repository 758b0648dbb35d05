import Libreboot.Infra.Sed
import Libreboot.Infra.Stdio
import Libreboot.Roms.Workspace

/-!
# The GRUB payloads and their configuration

The first half of `helpers/build/roms/withgrub`. For each kind of graphics the payload is generated,
and for each keyboard layout a `grub.cfg` is put together, and a `grubtest.cfg` from it. They lie in
`coreboot/` until the images have been built.

* `preparePayload_eq_ok` — what lies there afterwards
-/

namespace Libreboot.Roms

open Infra Script

/-! ## The configuration files -/

/-- The bytes of a pattern without special characters. -/
def literal (s : String) : List (Sed.Atom Byte) := (ascii s).map .char

/-- `\n` -/
def newline : Byte := 0x0a

/-- `sed "s/grubtest.cfg/grub.cfg/"` -/
def switchBack (cfg : Bytes) : Bytes :=
  Sed.substitute newline (literal "grubtest" ++ .any :: literal "cfg") (ascii "grub.cfg") cfg

-- the entry of the menu leads back
example : Sed.substituteLine (literal "grubtest" ++ .any :: literal "cfg") (ascii "grub.cfg")
    (ascii "configfile /grubtest.cfg") = ascii "configfile /grub.cfg" := by decide

def grubElf (romtype : Romtype) : String := "grub_" ++ romtype.text ++ ".elf"

/-- `grub_${keymap}_${romtype}…` -/
def cfgName (tail keymap : String) (romtype : Romtype) : String :=
  "grub_" ++ keymap ++ "_" ++ romtype.text ++ tail

/-- `grub_${keymap}_${romtype}.cfg` -/
def grubCfg : String → Romtype → String := cfgName ".cfg"

/-- `grub_${keymap}_${romtype}_test.cfg` -/
def grubtestCfg : String → Romtype → String := cfgName "_test.cfg"

section Payload

variable (r : Resources)

/-- The body of the loop over the keyboard layouts. -/
def writeCfgs (romtype : Romtype) (keymap : String) : Command Files :=
  let cfg := grubCfg keymap romtype
  both (put cfg (some (r.extra "common" ++ r.extra romtype.text))) <|
  both (rewrite cfg fun text => some (text ++ ascii ("keymap " ++ keymap ++ "\n"))) <|
  both (rewrite cfg fun text => some (text ++ (r.menuentries "common"
    ++ r.menuentries romtype.text))) fun files =>
  -- grubtest.cfg should be able to switch back to grub.cfg
  put (grubtestCfg keymap romtype) ((files cfg).map switchBack) files

/-- `rm -f "coreboot/grub"*.{elf,cfg}` -/
def isGrubFile (name : String) : Bool := glob "grub" ".elf" name || glob "grub" ".cfg" name

/-- Put GRUB payloads and config files in the coreboot directory, with what `gen.sh` generates. -/
def preparePayload (gen : Romtype → Option Bytes) : Command Files :=
  both (removeWhere isGrubFile) <|
  forEach (fun romtype => both (put (grubElf romtype) (gen romtype))
    (forEach (writeCfgs r romtype) r.keymaps)) romtypes

/-! ## What is written -/

/-- `grub.cfg` for a keyboard layout. -/
def cfgText (keymap : String) (romtype : Romtype) : Bytes :=
  r.extra "common" ++ r.extra romtype.text ++ ascii ("keymap " ++ keymap ++ "\n")
    ++ (r.menuentries "common" ++ r.menuentries romtype.text)

/-- Both configuration files of a layout. -/
def cfgFiles (romtype : Romtype) (keymap : String) : List (String × Option Bytes) :=
  [(grubCfg keymap romtype, some (cfgText r keymap romtype)),
    (grubtestCfg keymap romtype, some (switchBack (cfgText r keymap romtype)))]

/-- All files, in the order in which they are written. -/
def payloadFiles (gen : Romtype → Option Bytes) : List (String × Option Bytes) :=
  romtypes.flatMap fun romtype =>
    (grubElf romtype, gen romtype) :: r.keymaps.flatMap (cfgFiles r romtype)

/-- A file and what is written to it. -/
def putFile (file : String × Option Bytes) : Command Files := put file.1 file.2

end Payload

/-! ## The names -/

theorem suffix_grubElf (romtype : Romtype) : ".elf".toList <:+ (grubElf romtype).toList :=
  suffix_append _ _

theorem suffix_cfgName (tail keymap : String) (romtype : Romtype) :
    (romtype.text ++ tail).toList <:+ (cfgName tail keymap romtype).toList := by
  rw [cfgName, String.append_assoc]
  exact suffix_append _ _

theorem grubElf_inj {romtype romtype' : Romtype} (h : grubElf romtype = grubElf romtype') :
    romtype = romtype' := by
  revert h
  cases romtype <;> cases romtype' <;> decide

/-- The words between the fixed parts of a name are known. -/
theorem cfgName_inj {tail keymap keymap' : String} {romtype romtype' : Romtype}
    (h : cfgName tail keymap romtype = cfgName tail keymap' romtype') :
    keymap = keymap' ∧ romtype = romtype' := by
  have hfront := (String.append_left_inj tail).mp h
  obtain rfl := Romtype.eq_of_append hfront
  have hword := (String.append_left_inj "_").mp ((String.append_left_inj romtype.text).mp hfront)
  exact ⟨(String.append_right_inj "grub_").mp hword, rfl⟩

theorem grubCfg_ne_grubtestCfg (keymap keymap' : String) (romtype romtype' : Romtype) :
    grubCfg keymap romtype ≠ grubtestCfg keymap' romtype' := by
  refine ne_of_suffix (suffix_cfgName _ keymap romtype) (suffix_cfgName _ keymap' romtype') ?_ ?_
    <;> cases romtype <;> cases romtype' <;> decide

theorem grubElf_ne_cfgName (romtype romtype' : Romtype) {tail : String} (keymap : String)
    (htail : ".cfg".toList <:+ tail.toList) : grubElf romtype ≠ cfgName tail keymap romtype' := by
  have hcfg := htail.trans (suffix_append (romtype'.text) tail)
  exact ne_of_suffix (suffix_grubElf romtype) (hcfg.trans (suffix_cfgName _ _ _)) (by decide)
    (by decide)

/-! ## The files that are there afterwards -/

section Payload

variable (r : Resources)

/-- The three commands that append and the one that edits write two files. -/
theorem writeCfgs_eq (romtype : Romtype) (keymap : String) (files : Files) :
    writeCfgs r romtype keymap files = forEach putFile (cfgFiles r romtype keymap) files := by
  have hne := (grubCfg_ne_grubtestCfg keymap keymap romtype romtype).symm
  simp [writeCfgs, cfgFiles, forEach, both, putFile, put, rewrite, cfgText, Except.bind]

/-- **What is prepared** is one list of files. -/
theorem preparePayload_eq (gen : Romtype → Option Bytes) (files : Files) :
    preparePayload r gen files
      = forEach putFile (payloadFiles r gen) (fun name => if isGrubFile name then none
          else files name) := by
  have hround : ∀ romtype : Romtype, (fun files : Files =>
      both (put (grubElf romtype) (gen romtype)) (forEach (writeCfgs r romtype) r.keymaps) files)
        = forEach putFile ((grubElf romtype, gen romtype) :: r.keymaps.flatMap (cfgFiles r romtype)) := by
    intro romtype
    have hbody : writeCfgs r romtype = fun keymap => forEach putFile (cfgFiles r romtype keymap) := by
      funext keymap files
      exact writeCfgs_eq r romtype keymap files
    funext files
    rw [hbody]
    have hloop : forEach (fun keymap => forEach putFile (cfgFiles r romtype keymap)) r.keymaps
        = forEach putFile (r.keymaps.flatMap (cfgFiles r romtype)) := by
      funext files
      exact forEach_flatMap _ _
    rw [hloop]
    rfl
  have hrounds : (fun romtype : Romtype => both (put (grubElf romtype) (gen romtype))
      (forEach (writeCfgs r romtype) r.keymaps))
        = fun romtype => forEach putFile
          ((grubElf romtype, gen romtype) :: r.keymaps.flatMap (cfgFiles r romtype)) :=
    funext hround
  rw [preparePayload, hrounds]
  exact forEach_flatMap _ _

theorem mem_payloadFiles {gen : Romtype → Option Bytes} {file : String × Option Bytes} :
    file ∈ payloadFiles r gen ↔ ∃ romtype : Romtype, file = (grubElf romtype, gen romtype)
      ∨ ∃ keymap ∈ r.keymaps, file ∈ cfgFiles r romtype keymap := by
  simp only [payloadFiles, List.mem_flatMap, List.mem_cons, mem_romtypes, true_and]

/-- One name is one file. -/
theorem payloadFiles_functional {gen : Romtype → Option Bytes} :
    ∀ file ∈ payloadFiles r gen, ∀ file' ∈ payloadFiles r gen, file.1 = file'.1 →
      file.2 = file'.2 := by
  intro file hfile file' hfile' hname
  rw [mem_payloadFiles] at hfile hfile'
  obtain ⟨romtype, hfile⟩ := hfile
  obtain ⟨romtype', hfile'⟩ := hfile'
  simp only [cfgFiles, List.mem_cons, List.not_mem_nil, or_false] at hfile hfile'
  rcases hfile with rfl | ⟨keymap, -, rfl | rfl⟩ <;>
    rcases hfile' with rfl | ⟨keymap', -, rfl | rfl⟩
  · rw [grubElf_inj hname]
  · exact absurd hname (grubElf_ne_cfgName _ _ _ (by decide))
  · exact absurd hname (grubElf_ne_cfgName _ _ _ (by decide))
  · exact absurd hname.symm (grubElf_ne_cfgName _ _ _ (by decide))
  · obtain ⟨rfl, rfl⟩ := cfgName_inj hname
    rfl
  · exact absurd hname (grubCfg_ne_grubtestCfg _ _ _ _)
  · exact absurd hname.symm (grubElf_ne_cfgName _ _ _ (by decide))
  · exact absurd hname.symm (grubCfg_ne_grubtestCfg _ _ _ _)
  · obtain ⟨rfl, rfl⟩ := cfgName_inj hname
    rfl

/-- The payloads and the configuration files, as the images need them. -/
structure Prepared (gen : Romtype → Option Bytes) (files : Files) : Prop where
  elf : ∀ romtype, files (grubElf romtype) = gen romtype
  cfg : ∀ romtype, ∀ keymap ∈ r.keymaps,
    files (grubCfg keymap romtype) = some (cfgText r keymap romtype)
  test : ∀ romtype, ∀ keymap ∈ r.keymaps,
    files (grubtestCfg keymap romtype) = some (switchBack (cfgText r keymap romtype))

theorem prepared_of_mem {gen : Romtype → Option Bytes} {files : Files}
    (h : ∀ file ∈ payloadFiles r gen, files file.1 = file.2) : Prepared r gen files := by
  refine ⟨fun romtype => h _ ((mem_payloadFiles r).mpr ⟨romtype, .inl rfl⟩),
    fun romtype keymap hkeymap => ?_, fun romtype keymap hkeymap => ?_⟩
  · exact h _ ((mem_payloadFiles r).mpr
      ⟨romtype, .inr ⟨keymap, hkeymap, List.mem_cons_self⟩⟩)
  · exact h _ ((mem_payloadFiles r).mpr
      ⟨romtype, .inr ⟨keymap, hkeymap, List.mem_cons_of_mem _ List.mem_cons_self⟩⟩)

/--
**The GRUB files.** They are prepared exactly if both payloads can be generated, whatever lay there
before.
-/
theorem preparePayload_eq_ok (gen : Romtype → Option Bytes) (files : Files) :
    ((∃ files', preparePayload r gen files = .ok files') ↔
        ∀ romtype, ∃ elf, gen romtype = some elf)
      ∧ ∀ files', preparePayload r gen files = .ok files' → Prepared r gen files' := by
  rw [preparePayload_eq]
  have hput : ∀ file ∈ payloadFiles r gen, ∀ s : Files, True → ∀ s', putFile file s = .ok s' ↔
      ∃ v, file.2 = some v ∧ s' = Function.update s file.1 (some v) :=
    fun _ _ _ _ _ => put_eq_ok
  have hkept : ∀ file ∈ payloadFiles r gen, ∀ (s : Files) (v : Bytes), True →
      (fun _ : Files => True) (Function.update s file.1 (some v)) := fun _ _ _ _ _ => trivial
  constructor
  · rw [exists_forEach_puts hput hkept trivial]
    constructor
    · intro hall romtype
      exact hall _ ((mem_payloadFiles r).mpr ⟨romtype, .inl rfl⟩)
    · intro hgen file hfile
      obtain ⟨romtype, rfl | ⟨keymap, -, hcfg⟩⟩ := (mem_payloadFiles r).mp hfile
      · exact hgen romtype
      · simp only [cfgFiles, List.mem_cons, List.not_mem_nil, or_false] at hcfg
        rcases hcfg with rfl | rfl <;> exact ⟨_, rfl⟩
  · intro files' hrun
    have hwritten := ((forEach_puts hput hkept (payloadFiles_functional r) (fun _ hfile => hfile)
      trivial).mp hrun).1
    have hfile : ∀ file ∈ payloadFiles r gen, files' file.1 = file.2 := by
      intro file hfile
      obtain ⟨v, hv, hnew⟩ := hwritten file hfile
      rw [hnew, hv]
    exact prepared_of_mem r hfile

/-- The files as they are written, and no others. -/
def payloadOf (gen : Romtype → Option Bytes) : Files := fun name =>
  ((payloadFiles r gen).find? fun file => file.1 == name).bind Prod.snd

theorem prepared_payloadOf (gen : Romtype → Option Bytes) : Prepared r gen (payloadOf r gen) := by
  have hfile : ∀ file ∈ payloadFiles r gen, payloadOf r gen file.1 = file.2 := by
    intro file hfile
    unfold payloadOf
    cases hfind : (payloadFiles r gen).find? fun other => other.1 == file.1 with
    | none =>
      have hno := List.find?_eq_none.mp hfind file hfile
      simp at hno
    | some other =>
      have hname : other.1 = file.1 := by simpa using List.find?_some hfind
      exact payloadFiles_functional r other (List.mem_of_find?_eq_some hfind) file hfile hname
  exact prepared_of_mem r hfile

end Payload

end Libreboot.Roms
