import Libreboot.Depthcharge.Replacement
import Libreboot.Infra.Conditions
import Libreboot.Infra.Creation
import Libreboot.Infra.Dd
import Libreboot.Infra.FileCommands
import Libreboot.Infra.FileNames
import Libreboot.Infra.Stdio
import Libreboot.Infra.Strtoimax
import Libreboot.Roms.Workspace

/-!
# ROM images with depthcharge

The whole of `helpers/build/roms/withdepthcharge`: libpayload, depthcharge and coreboot are built one
after the other from the branch of a board, and the parts of the flash image, the script that installs
them and its layout are put into `bin/depthcharge/`. A run ends at the first tool that fails.

The tools that compile are arguments (`Tools`), for each revision of coreboot. The size in the
configuration is read as `printf` does in the C locale, in any base and with a sign.

* `makeImages_gives` — the two images that are made in the sources
* `withdepthcharge_delivers` — what a run leaves in `bin/depthcharge/`, whatever has been left before
-/

namespace Libreboot.Depthcharge

open Infra Shell Script
open Roms (corebootRom versionLine)

/-! ## What is read -/

structure Resources where
  /-- `config/depthcharge/${board}/…` -/
  config : String → Option Bytes
  cbrevision : String → Option String
  vbootrevision : String → Option String
  boards : List String
  /-- `install/depthcharge/cros-flash-replace` -/
  crosFlashReplace : Option Bytes
  /-- `install/depthcharge/${board}/layout.txt` -/
  layout : String → Option Bytes

/-- What is not part of the repository, for one revision of coreboot. -/
structure Tools where
  /-- `git checkout`, in coreboot and in vboot -/
  checkout : String → Bool
  /-- `make install` of libpayload, from the branch and `configs/config.${family}` -/
  libpayload : String → String → Option Bytes
  /-- `make depthcharge_unified`, from the branch of vboot, for a board, with libpayload -/
  depthcharge : String → String → Bytes → Option Bytes
  /-- `make defconfig`, from the branch and the configuration of the board -/
  defconfig : String → Bytes → Option Bytes
  /-- `make`, from the branch, `.coreboot-version`, `.config` and, if it is there, the payload -/
  make : String → Bytes → Bytes → Option Bytes → Option Bytes
  /-- The C library reads `0b` as well. -/
  binary : Bool

/-- `depthcharge_${board}` -/
def branchname (board : String) : String := "depthcharge_" ++ board

/-- `$( echo ${board} |sed "s/_.*//g" )` -/
def family (board : String) : String := String.ofList (board.toList.takeWhile (· != '_'))

/-! ## The size of the image -/

/-- `sed "s/.*[[:space:]]*=[[:space:]]*//g"`, for one line -/
def afterEquals (line : Text) : Text :=
  if line.contains '=' then (line.rtakeWhile (· != '=')).dropWhile isSpace else line

/-- `printf "%d\n"`, which fails if the word is no number. A quotation mark asks for the code of a
character. -/
def printfNumber (binary : Bool) : Text → Option Int
  | [] => some 0
  | c :: rest =>
    if c.toNat = 0x22 ∨ c.toNat = 0x27 then some ((rest.head?.map Char.toNat).getD 0 : Nat)
    else Strtoimax.read binary (c :: rest)

/-- `grep CONFIG_CBFS_SIZE ".config"`, and what becomes of the lines that are found. -/
def cbfsSize (binary : Bool) (config : Bytes) : Option Int :=
  let lines := (config.map fun b => Char.ofNat b.toNat).splitOn '\n'
  printfNumber binary
    (substitute (unlines ((fixedGrep "CONFIG_CBFS_SIZE".toList lines).map afterEquals)))

/-- `count=$(( $cbfs_size / 1024 ))`, which `dd` takes unless it is negative. -/
def cbfsBlocks (binary : Bool) (config : Bytes) : Option Nat :=
  (cbfsSize binary config).bind fun size => Dd.operand (size.tdiv 1024)

/-- **A size that Kconfig has written.** -/
theorem printfNumber_hex (binary : Bool) {width number : Nat}
    (h : number < 0x8000000000000000) :
    printfNumber binary ('0' :: 'x' :: Hex.padded width number) = some (number : Int) :=
  Strtoimax.read_hex binary h

/-! ## The script -/

/-- The files of a revision. -/
structure Source where
  files : Files
  /-- `${board}/` -/
  dirs : String → Option Files

structure Workspace where
  /-- `coreboot/${cbrevision}/${cbrevision}/` -/
  source : String → Source
  /-- `depthcharge/` -/
  depthcharge : Files
  /-- `bin/depthcharge/` -/
  bin : String → Option Files

def onFiles : Command Files → Command Source :=
  onPart Source.files fun files source => { source with files := files }

def onDirs : Command (String → Option Files) → Command Source :=
  onPart Source.dirs fun dirs source => { source with dirs := dirs }

def onSource (revision : String) : Command Source → Command Workspace :=
  onPart (fun ws => ws.source revision)
    fun source ws => { ws with source := Function.update ws.source revision source }

def onDepthcharge : Command Files → Command Workspace :=
  onPart Workspace.depthcharge fun files ws => { ws with depthcharge := files }

def onBin : Command (String → Option Files) → Command Workspace :=
  onPart Workspace.bin fun bin ws => { ws with bin := bin }

/-- `payloads/libpayload/install/` -/
def libpayloadInstall : String := "payloads/libpayload/install/"

def depthchargeElf : String := "depthcharge.elf"

/-- `*.img` -/
def isImg (name : String) : Bool := glob "" ".img" name

/-- `printf 'libreboot-%s' "${version}"` -/
def frid (version : String) : Bytes := ascii ("libreboot-" ++ version)

/-- `objcopy -I binary -O binary --pad-to=0x100 --gap-fill=0x00` -/
def padTo (size : Nat) (content : Bytes) : Bytes :=
  content ++ List.replicate (size - content.length) 0

section Script

variable (r : Resources) (t : Tools) (version : String)

/-- Up to the last `git checkout master`. -/
def buildlibpayload (board revision : String) : Command Workspace :=
  both (tool (t.checkout (branchname board))) <|
  both (onSource revision (onFiles (rm libpayloadInstall))) <|
  both (onSource revision (onFiles
    (put libpayloadInstall (t.libpayload (branchname board) (family board))))) <|
  tool (t.checkout "master")

def builddepthcharge (board revision : String) : Command Workspace :=
  both (tool (t.checkout (branchname board))) <|
  -- `make distclean`
  both (onDepthcharge (rm "build/depthcharge.elf")) <|
  both (onSource revision (onFiles (rm depthchargeElf))) <|
  both (fun ws => onDepthcharge (put "build/depthcharge.elf"
    (((ws.source revision).files libpayloadInstall).bind
      (t.depthcharge (branchname board) board))) ws) <|
  both (fun ws => onSource revision
    (onFiles (put depthchargeElf (ws.depthcharge "build/depthcharge.elf"))) ws) <|
  tool (t.checkout "master")

/-- Up to `make defconfig`. -/
def configureCoreboot (board : String) : Command Files :=
  -- `make distclean`
  both (rm corebootRom) <|
  both (rm ".config") <|
  both (rm ".coreboot-version") <|
  both (removeWhere isImg) <|
  both (put "ro-frid" (some (frid version))) <|
  both (put ".coreboot-version" (some (versionLine version))) <|
  put ".config" ((r.config board).bind (t.defconfig (branchname board)))

/-- The two images. -/
def makeImages (board : String) : Command Files :=
  both (fun files => put corebootRom ((files ".coreboot-version").bind fun version =>
    (files ".config").bind fun config =>
      t.make (branchname board) version config (files depthchargeElf)) files) <|
  both (fun files => put "coreboot.img" ((files ".config").bind fun config =>
    (cbfsBlocks t.binary config).bind fun count => (files corebootRom).map
      (Dd.read 1024 0 count)) files) <|
  fun files => put "ro-frid.img" ((files "ro-frid").map (padTo 0x100)) files

/-- The directory that is moved to `bin/`. -/
def corebootDirectory (board : String) : Command Source :=
  both (onDirs fun dirs => .ok (Function.update dirs board (some fun _ => none))) <|
  both (fun source => onDirs (rewrite board fun dir => (source.files "coreboot.img").map fun rom =>
    Function.update dir "coreboot.img" (some rom)) source) <|
  both (onFiles (rm "coreboot.img")) <|
  both (fun source => onDirs (rewrite board fun dir => (source.files "ro-frid.img").map fun rom =>
    Function.update dir "ro-frid.img" (some rom)) source) <|
  both (onFiles (rm "ro-frid.img")) <|
  both (onDirs (rewrite board fun dir => r.crosFlashReplace.map fun script =>
    Function.update dir "cros-flash-replace" (some script))) <|
  onDirs (rewrite board fun dir => (r.layout board).map fun layout =>
    Function.update dir "layout.txt" (some layout))

/-- Put the new images into `bin/`, and clean up. -/
def moveDirectory (board revision : String) : Command Workspace :=
  both (onBin (rm board)) <|
  both (fun ws => onBin (put board ((ws.source revision).dirs board)) ws) <|
  both (onSource revision (onDirs (rm board))) <|
  both (onSource revision (onFiles (rm depthchargeElf))) <|
  both (onSource revision (onFiles (removeWhere isImg))) <|
  tool (t.checkout "master")

def buildcoreboot (board revision : String) : Command Workspace :=
  both (tool (t.checkout (branchname board))) <|
  both (onSource revision (onFiles (configureCoreboot r t version board))) <|
  both (onSource revision (onFiles (makeImages t board))) <|
  both (onSource revision (corebootDirectory r board)) <|
  moveDirectory t board revision

end Script

section Run

variable (r : Resources) (t : String → Tools) (version : String)

def buildrom (board : String) : Command Workspace := fun ws =>
  match r.cbrevision board, r.vbootrevision board with
  | some revision, some _ =>
    if (r.config board).isSome then
      both (buildlibpayload (t revision) board revision)
        (both (builddepthcharge (t revision) board revision)
          (buildcoreboot r (t revision) version board revision)) ws
    else .ok ws
  | _, _ => .error ws

/-- The boards in the arguments, or all boards. -/
def boardsOf (args : List String) : List String := if args.isEmpty then r.boards else args

def withdepthcharge (args : List String) : Command Workspace :=
  forEach (buildrom r t version) (boardsOf r args)

end Run

/-! ## What is built -/

section Images

variable (r : Resources) (t : Tools) (version board : String)

/-- The image with depthcharge in it, cut off at the size that the configuration names. -/
def corebootImg (elf : Option Bytes) : Option Bytes :=
  ((r.config board).bind (t.defconfig (branchname board))).bind fun config =>
    (cbfsBlocks t.binary config).bind fun count =>
      (t.make (branchname board) (versionLine version) config elf).map (Dd.read 1024 0 count)

/-- What depthcharge is built of. -/
def payloadElf : Option Bytes :=
  (t.libpayload (branchname board) (family board)).bind (t.depthcharge (branchname board) board)

variable {r t version board}

/-- What `make` reads, whatever has been left in the sources. -/
theorem configureCoreboot_gives {files : Files} {elf : Option Bytes}
    (h : Known [(depthchargeElf, elf)] files) :
    Gives (configureCoreboot r t version board files)
      (∃ config, (r.config board).bind (t.defconfig (branchname board)) = some config)
      (Known [(".config", (r.config board).bind (t.defconfig (branchname board))),
        (".coreboot-version", some (versionLine version)), ("ro-frid", some (frid version)),
        (depthchargeElf, elf)]) := by
  have himg : isImg depthchargeElf = false := by decide
  unfold configureCoreboot
  refine Gives.imp ((gives_rm_known h (by simp [corebootRom, depthchargeElf])).both fun _ _ h =>
    (gives_rm_known h (by simp [depthchargeElf])).both fun _ _ h =>
    (gives_rm_known h (by simp [depthchargeElf])).both fun _ _ h =>
    (gives_removeWhere_known h (by simp [himg])).both fun _ _ h =>
    (gives_put_known _ h (by simp [depthchargeElf]) rfl).both fun _ _ h =>
    (gives_put_known _ h (by simp [depthchargeElf]) rfl).both fun _ _ h =>
    gives_put_known _ h (by simp [depthchargeElf]) rfl) (by simp) fun _ _ h => h

/-- **The two images** depend on nothing else. -/
theorem makeImages_gives {files : Files} {elf : Option Bytes}
    (h : Known [(".config", (r.config board).bind (t.defconfig (branchname board))),
      (".coreboot-version", some (versionLine version)), ("ro-frid", some (frid version)),
      (depthchargeElf, elf)] files) :
    Gives (makeImages t board files) (∃ rom, corebootImg r t version board elf = some rom)
      (Known [("ro-frid.img", some (padTo 0x100 (frid version))),
        ("coreboot.img", corebootImg r t version board elf)]) := by
  obtain ⟨built, hbuilt⟩ : ∃ built, ((r.config board).bind (t.defconfig (branchname board))).bind
    (fun config => t.make (branchname board) (versionLine version) config elf) = built := ⟨_, rfl⟩
  unfold makeImages
  refine Gives.imp ((gives_put_known built h (by simp [corebootRom, depthchargeElf]) ?_).both
    fun _ _ h => (gives_put_known (corebootImg r t version board elf) h
      (by simp [corebootRom, depthchargeElf]) ?_).both
    fun _ _ h => gives_put_known (some (padTo 0x100 (frid version))) h
      (by simp [corebootRom, depthchargeElf]) ?_) ?_ ?_
  · obtain ⟨hconfig, hversion, -, helf, -⟩ := by simpa only [known_cons] using h
    rw [hversion, hconfig, helf, Option.bind_some, hbuilt]
  · obtain ⟨hrom, hconfig, -⟩ := by simpa only [known_cons] using h
    rw [hconfig, hrom, ← hbuilt, corebootImg]
    cases (r.config board).bind (t.defconfig (branchname board)) with
    | none => rfl
    | some config => rfl
  · obtain ⟨-, -, -, -, hfrid, -⟩ := by simpa only [known_cons] using h
    rw [hfrid, Option.map_some]
  · refine ⟨fun ⟨_, hrom, _⟩ => hrom, fun ⟨rom, hrom⟩ => ⟨?_, ⟨rom, hrom⟩, _, rfl⟩⟩
    obtain ⟨config, hconfig, count, -, himg⟩ : ∃ config, (r.config board).bind
        (t.defconfig (branchname board)) = some config
          ∧ ∃ count, cbfsBlocks t.binary config = some count
          ∧ (t.make (branchname board) (versionLine version) config elf).map
            (Dd.read 1024 0 count) = some rom := by
      simpa only [corebootImg, Option.bind_eq_some_iff] using hrom
    obtain ⟨made, hmade, -⟩ := Option.map_eq_some_iff.mp himg
    exact ⟨made, by rw [← hbuilt, hconfig, Option.bind_some, hmade]⟩
  · intro _ files' hknown
    simp only [known_cons] at hknown ⊢
    exact ⟨hknown.1, hknown.2.1, fun _ hmem => absurd hmem List.not_mem_nil⟩

/-! ### The directory that is moved -/

/-- What is known of the files, and the directory as far as it is filled. -/
def At (board : String) (facts : List (String × Option Bytes)) (dir : Files) (source : Source) :
    Prop :=
  Known facts source.files ∧ source.dirs board = some dir

/-- One more file in the directory. -/
theorem gives_fill {facts : List (String × Option Bytes)} {dir : Files} {source : Source}
    {content : Option Bytes} {name : String} (known : Option Bytes) (h : At board facts dir source)
    (hcontent : content = known) :
    Gives (onDirs (rewrite board fun dir => content.map fun v => Function.update dir name (some v))
        source) (∃ v, known = some v) (At board facts (Function.update dir name known)) := by
  subst hcontent
  refine (gives_onPart (gives_rewrite board _ source.dirs)).imp ?_ ?_
  · rw [h.2, Option.bind_some]
    simp
  · rintro ⟨v, hv⟩ _ ⟨dirs, rfl, rfl⟩
    rw [h.2, Option.bind_some] at hv
    obtain ⟨w, hw, rfl⟩ := Option.map_eq_some_iff.mp hv
    refine ⟨h.1, ?_⟩
    show Function.update _ board _ board = _
    rw [Function.update_self, h.2, Option.bind_some, hw]
    rfl

/-- A file that has been moved into the directory. -/
theorem gives_rm_file {facts facts' : List (String × Option Bytes)} {dir : Files} {source : Source}
    {name : String} (h : At board facts dir source) (hsub : ∀ fact ∈ facts', fact ∈ facts)
    (hnew : name ∉ facts'.map Prod.fst) :
    Gives (onFiles (rm name) source) True (At board facts' dir) := by
  have hknown : Known facts' source.files := fun fact hfact => h.1 fact (hsub fact hfact)
  refine (gives_onPart (gives_rm_known hknown hnew)).imp Iff.rfl ?_
  rintro - _ ⟨files, hfiles, rfl⟩
  exact ⟨hfiles, h.2⟩

variable (r version board) in
/-- The files that are put into `bin/depthcharge/${board}/`. -/
structure Directory (img : Option Bytes) (dir : Files) : Prop where
  coreboot : ∃ rom, img = some rom ∧ dir "coreboot.img" = some rom
  roFrid : dir "ro-frid.img" = some (padTo 0x100 (frid version))
  script : ∃ script, r.crosFlashReplace = some script ∧ dir "cros-flash-replace" = some script
  layout : ∃ layout, r.layout board = some layout ∧ dir "layout.txt" = some layout
  other : ∀ name, name ∉ ["coreboot.img", "ro-frid.img", "cros-flash-replace", "layout.txt"] →
    dir name = none

theorem corebootDirectory_gives {source : Source} {img : Option Bytes}
    (h : Known [("ro-frid.img", some (padTo 0x100 (frid version))), ("coreboot.img", img)]
      source.files) :
    Gives (corebootDirectory r board source)
      ((∃ rom, img = some rom) ∧ (∃ script, r.crosFlashReplace = some script)
        ∧ ∃ layout, r.layout board = some layout)
      fun source' => ∃ dir, source'.dirs board = some dir
        ∧ Directory r version board img dir := by
  have hmade : At board [("ro-frid.img", some (padTo 0x100 (frid version))), ("coreboot.img", img)]
      (fun _ => none) { source with dirs := Function.update source.dirs board (some fun _ => none) } :=
    ⟨h, Function.update_self _ _ _⟩
  unfold corebootDirectory
  refine Gives.imp ((gives_ok _).next fun _ =>
    (gives_fill img hmade ?_).both fun _ _ h =>
    (@gives_rm_file _ _ [("ro-frid.img", some (padTo 0x100 (frid version)))] _ _ _ h
      (by simp) (by simp)).both fun _ _ h =>
    (gives_fill (some (padTo 0x100 (frid version))) h ?_).both fun _ _ h =>
    (@gives_rm_file _ _ [] _ _ _ h (by simp) (by simp)).both fun _ _ h =>
    (gives_fill r.crosFlashReplace h rfl).both fun _ _ h =>
    gives_fill (r.layout board) h rfl) ?_ ?_
  · exact h ("coreboot.img", img) (by simp)
  · exact h.1 ("ro-frid.img", _) (by simp)
  · simp
  · rintro ⟨-, hrom, -, -, -, hscript, hlayout⟩ source' ⟨-, hdir⟩
    refine ⟨_, hdir, ?_⟩
    obtain ⟨rom, rfl⟩ := hrom
    obtain ⟨script, hscript⟩ := hscript
    obtain ⟨layout, hlayout⟩ := hlayout
    refine ⟨⟨rom, rfl, ?_⟩, ?_, ⟨script, hscript, ?_⟩, ⟨layout, hlayout, ?_⟩, fun name hname => ?_⟩
    · simp
    · simp
    · simp [hscript]
    · simp [hlayout]
    · simp only [List.mem_cons, List.not_mem_nil, or_false, not_or] at hname
      simp [hname]

end Images

/-! ## A board -/

section Board

variable {r : Resources} {t : Tools} {version board revision : String} {ws : Workspace}
  {bin : String → Option Files}

/-- What is known of the files of a revision, while `bin/depthcharge/` stays the same. -/
def InSource (revision : String) (facts : List (String × Option Bytes)) (bin : String → Option Files)
    (ws : Workspace) : Prop :=
  Known facts (ws.source revision).files ∧ ws.bin = bin

theorem gives_onSource {command : Command Source} {good : Prop} {post : Source → Prop}
    (h : Gives (command (ws.source revision)) good post) :
    Gives (onSource revision command ws) good
      fun ws' => post (ws'.source revision) ∧ ws'.depthcharge = ws.depthcharge ∧ ws'.bin = ws.bin := by
  have honPart : Gives (onSource revision command ws) good fun ws' => ∃ source, post source
      ∧ ws' = { ws with source := Function.update ws.source revision source } :=
    gives_onPart h
  refine honPart.imp Iff.rfl ?_
  rintro - _ ⟨source, hsource, rfl⟩
  refine ⟨?_, rfl, rfl⟩
  simp only [Function.update_self]
  exact hsource

theorem gives_onDepthcharge {command : Command Files} {good : Prop} {post : Files → Prop}
    (h : Gives (command ws.depthcharge) good post) :
    Gives (onDepthcharge command ws) good
      fun ws' => post ws'.depthcharge ∧ ws'.source = ws.source ∧ ws'.bin = ws.bin := by
  have honPart : Gives (onDepthcharge command ws) good fun ws' => ∃ files, post files
      ∧ ws' = { ws with depthcharge := files } :=
    gives_onPart h
  refine honPart.imp Iff.rfl ?_
  rintro - _ ⟨files, hfiles, rfl⟩
  exact ⟨hfiles, rfl, rfl⟩

theorem InSource.of_eq {facts : List (String × Option Bytes)} {ws' : Workspace}
    (h : InSource revision facts bin ws) (hsource : ws'.source = ws.source) (hbin : ws'.bin = ws.bin) :
    InSource revision facts bin ws' := by
  unfold InSource
  rw [hsource, hbin]
  exact h

theorem gives_inSource {facts facts' : List (String × Option Bytes)} {good : Prop}
    {command : Command Files} (h : InSource revision facts bin ws)
    (hcommand : ∀ files, Known facts files → Gives (command files) good (Known facts')) :
    Gives (onSource revision (onFiles command) ws) good
      fun ws' => InSource revision facts' bin ws' ∧ ws'.depthcharge = ws.depthcharge := by
  refine (gives_onSource (gives_onPart (hcommand _ h.1))).imp Iff.rfl ?_
  rintro - ws' ⟨⟨files, hfiles, hsource⟩, hdepthcharge, hbin⟩
  refine ⟨⟨?_, hbin.trans h.2⟩, hdepthcharge⟩
  rw [hsource]
  exact hfiles

theorem buildlibpayload_gives (h : InSource revision [] bin ws) :
    Gives (buildlibpayload t board revision ws)
      (t.checkout (branchname board) = true
        ∧ (∃ lib, t.libpayload (branchname board) (family board) = some lib)
        ∧ t.checkout "master" = true)
      (InSource revision
        [(libpayloadInstall, t.libpayload (branchname board) (family board))] bin) := by
  unfold buildlibpayload
  refine Gives.imp ((gives_tool _ _).next fun _ =>
    (gives_inSource h fun _ hfiles => gives_rm_known hfiles List.not_mem_nil).both fun _ _ h =>
    (gives_inSource h.1 fun _ hfiles => gives_put_known _ hfiles List.not_mem_nil rfl).both
      fun _ _ h => (gives_tool _ _).imp Iff.rfl fun _ _ heq => heq ▸ h.1) (by simp) fun _ _ h => h

theorem builddepthcharge_gives
    (h : InSource revision [(libpayloadInstall, t.libpayload (branchname board) (family board))] bin
      ws) :
    Gives (builddepthcharge t board revision ws)
      (t.checkout (branchname board) = true ∧ (∃ elf, payloadElf t board = some elf)
        ∧ t.checkout "master" = true)
      (InSource revision [(depthchargeElf, payloadElf t board)] bin) := by
  unfold builddepthcharge
  refine Gives.imp ((gives_tool _ _).next fun _ =>
    (gives_onDepthcharge (gives_rm _ _)).both fun _ _ hclean =>
    (gives_inSource (h.of_eq hclean.2.1 hclean.2.2) fun _ hfiles =>
      gives_rm_known hfiles (by simp [libpayloadInstall, depthchargeElf])).both fun _ _ h =>
    (gives_onDepthcharge (gives_put (payloadElf t board) ?_)).both fun _ _ helf =>
    (gives_inSource (h.1.of_eq helf.2.1 helf.2.2) fun _ hfiles =>
      gives_put_known (payloadElf t board) hfiles (by simp [libpayloadInstall, depthchargeElf])
        ?_).both fun _ _ h =>
    (gives_tool _ _).imp Iff.rfl fun _ _ heq => heq ▸ h.1) ?_ ?_
  · rw [h.1.1 (libpayloadInstall, _) List.mem_cons_self]
    rfl
  · rw [helf.1, Function.update_self]
  · simp
  · exact fun _ ws' h => ⟨fun fact hfact => h.1 fact (by simp_all), h.2⟩

theorem gives_onBin {command : Command (String → Option Files)} {good : Prop}
    {post : (String → Option Files) → Prop} (h : Gives (command ws.bin) good post) :
    Gives (onBin command ws) good fun ws' => post ws'.bin ∧ ws'.source = ws.source := by
  have honPart : Gives (onBin command ws) good fun ws' => ∃ bin, post bin
      ∧ ws' = { ws with bin := bin } :=
    gives_onPart h
  refine honPart.imp Iff.rfl ?_
  rintro - _ ⟨bin, hbin, rfl⟩
  exact ⟨hbin, rfl⟩

theorem moveDirectory_gives {dir : Files} (hdir : (ws.source revision).dirs board = some dir) :
    Gives (moveDirectory t board revision ws) (t.checkout "master" = true)
      fun ws' => ws'.bin = Function.update ws.bin board (some dir) := by
  unfold moveDirectory
  refine Gives.imp ((gives_onBin (gives_rm _ _)).both fun _ mid hrm =>
    (gives_onBin (gives_put (some dir) ?_)).both fun _ _ hput =>
    (gives_onSource (gives_onPart (gives_rm _ _))).both fun _ _ hdirs =>
    (gives_onSource (gives_onPart (gives_rm _ _))).both fun _ _ helf =>
    (gives_onSource (gives_onPart (gives_removeWhere _ _))).both fun _ _ himg =>
    (gives_tool _ _).imp Iff.rfl fun _ ws' heq => ?_) ?_ fun _ _ h => h
  · rw [hrm.2, hdir]
  · rw [heq, himg.2.2, helf.2.2, hdirs.2.2, hput.1, hrm.1, Function.update_idem]
  · simp

/-- **The directory of a board,** whatever there has been. -/
theorem buildcoreboot_gives {elf : Option Bytes}
    (h : InSource revision [(depthchargeElf, elf)] bin ws) :
    Gives (buildcoreboot r t version board revision ws)
      (t.checkout (branchname board) = true
        ∧ (∃ rom, corebootImg r t version board elf = some rom)
        ∧ (∃ script, r.crosFlashReplace = some script) ∧ (∃ layout, r.layout board = some layout)
        ∧ t.checkout "master" = true)
      fun ws' => ∃ dir, Directory r version board (corebootImg r t version board elf) dir
        ∧ ws'.bin = Function.update bin board (some dir) := by
  have hmove : ∀ mid : Workspace, (∃ dir, (mid.source revision).dirs board = some dir
      ∧ Directory r version board (corebootImg r t version board elf) dir) → mid.bin = bin →
        Gives (moveDirectory t board revision mid) (t.checkout "master" = true) fun ws' =>
          ∃ dir, Directory r version board (corebootImg r t version board elf) dir
            ∧ ws'.bin = Function.update bin board (some dir) := by
    rintro mid ⟨dir, hdir, hdirectory⟩ rfl
    exact (moveDirectory_gives hdir).imp Iff.rfl fun _ _ hbin => ⟨dir, hdirectory, hbin⟩
  unfold buildcoreboot
  refine Gives.imp ((gives_tool _ _).next fun _ =>
    (gives_inSource h fun _ hfiles => configureCoreboot_gives hfiles).both fun _ _ h =>
    (gives_inSource h.1 fun _ hfiles => makeImages_gives hfiles).both fun _ _ h =>
    (gives_onSource (corebootDirectory_gives h.1.1)).both fun _ mid hmid =>
    hmove mid hmid.1 (hmid.2.2.trans h.1.2)) ?_ fun _ _ h => h
  constructor
  · rintro ⟨hbranch, -, -, ⟨hrom, hscript, hlayout⟩, hmaster⟩
    exact ⟨hbranch, hrom, hscript, hlayout, hmaster⟩
  · rintro ⟨hbranch, ⟨rom, hrom⟩, hscript, hlayout, hmaster⟩
    obtain ⟨config, hconfig, -⟩ := Option.bind_eq_some_iff.mp hrom
    exact ⟨hbranch, ⟨config, hconfig⟩, ⟨rom, hrom⟩, ⟨⟨rom, hrom⟩, hscript, hlayout⟩, hmaster⟩

end Board

/-! ## All boards -/

section Run

variable (r : Resources) (t : String → Tools) (version : String)

/-- The image of a board, from the revision that it uses. -/
def boardImg (board : String) : Option Bytes :=
  (r.cbrevision board).bind fun revision =>
    (payloadElf (t revision) board).bind fun elf =>
      corebootImg r (t revision) version board (some elf)

/-- What a board needs, besides its revisions, if it has a configuration. -/
structure Buildable (board revision : String) : Prop where
  branch : (t revision).checkout (branchname board) = true
  master : (t revision).checkout "master" = true
  image : ∃ rom, boardImg r t version board = some rom
  script : ∃ script, r.crosFlashReplace = some script
  layout : ∃ layout, r.layout board = some layout

variable {r t version} {board : String} {ws : Workspace}

variable (r t version) in
/-- What a board needs. -/
def Builds (board : String) : Prop :=
  ∃ revision, r.cbrevision board = some revision
    ∧ (∃ vbootrevision, r.vbootrevision board = some vbootrevision)
    ∧ ((r.config board).isSome → Buildable r t version board revision)

/-- The three parts, for a board with a configuration. -/
theorem buildparts_gives {revision : String} (hrevision : r.cbrevision board = some revision) :
    Gives (both (buildlibpayload (t revision) board revision)
        (both (builddepthcharge (t revision) board revision)
          (buildcoreboot r (t revision) version board revision)) ws)
      (Buildable r t version board revision)
      fun ws' => ∃ dir, Directory r version board (boardImg r t version board) dir
        ∧ ws'.bin = Function.update ws.bin board (some dir) := by
  have himg : ∀ elf, payloadElf (t revision) board = some elf → boardImg r t version board
      = corebootImg r (t revision) version board (payloadElf (t revision) board) := by
    intro elf helf
    rw [boardImg, hrevision, Option.bind_some, helf, Option.bind_some]
  have hstart : InSource revision [] ws.bin ws := ⟨fun _ hmem => absurd hmem List.not_mem_nil, rfl⟩
  refine Gives.imp ((buildlibpayload_gives hstart).both fun _ _ h =>
    (builddepthcharge_gives h).both fun _ _ h => buildcoreboot_gives h) ?_ ?_
  · constructor
    · rintro ⟨-, ⟨-, ⟨elf, helf⟩, -⟩, hbranch, hrom, hscript, hlayout, hmaster⟩
      exact ⟨hbranch, hmaster, himg elf helf ▸ hrom, hscript, hlayout⟩
    · rintro ⟨hbranch, hmaster, ⟨rom, hrom⟩, hscript, hlayout⟩
      obtain ⟨elf, helf⟩ : ∃ elf, payloadElf (t revision) board = some elf := by
        rw [boardImg, hrevision, Option.bind_some] at hrom
        obtain ⟨elf, helf, -⟩ := Option.bind_eq_some_iff.mp hrom
        exact ⟨elf, helf⟩
      obtain ⟨lib, hlib, -⟩ := Option.bind_eq_some_iff.mp helf
      rw [himg elf helf] at hrom
      exact ⟨⟨hbranch, ⟨lib, hlib⟩, hmaster⟩, ⟨hbranch, ⟨elf, helf⟩, hmaster⟩, hbranch, ⟨rom, hrom⟩,
        hscript, hlayout, hmaster⟩
  · rintro ⟨-, ⟨-, ⟨elf, helf⟩, -⟩, -⟩ ws' hws'
    rw [himg elf helf]
    exact hws'

/-- **One board.** -/
theorem buildrom_gives :
    Gives (buildrom r t version board ws) (Builds r t version board)
      fun ws' => ((r.config board).isSome → ∃ dir,
          Directory r version board (boardImg r t version board) dir
            ∧ ws'.bin = Function.update ws.bin board (some dir))
        ∧ (¬ (r.config board).isSome → ws' = ws) := by
  unfold buildrom Builds
  cases hrevision : r.cbrevision board with
  | none => exact ⟨by simp, fun _ hrun => by cases hrun⟩
  | some revision =>
    cases r.vbootrevision board with
    | none => exact ⟨by simp, fun _ hrun => by cases hrun⟩
    | some vbootrevision =>
      by_cases hconfig : (r.config board).isSome
      · simp only [hconfig, if_true]
        exact (buildparts_gives hrevision).imp (by simp) fun _ ws' hws' =>
          ⟨fun _ => hws', fun hnot => absurd trivial hnot⟩
      · simp only [hconfig]
        exact (gives_ok ws).imp (by simp) fun _ _ heq => by simpa using heq

theorem withdepthcharge_gets_through (args : List String) :
    (∃ ws', withdepthcharge r t version args ws = .ok ws') ↔
      ∀ board ∈ boardsOf r args, Builds r t version board := by
  have hround : ∀ board ∈ boardsOf r args, ∀ now : Workspace, True →
      Gives (buildrom r t version board now) (Builds r t version board) fun _ => True :=
    fun board _ now _ => buildrom_gives.imp Iff.rfl fun _ _ _ => trivial
  exact (gives_forEach hround trivial).ok_iff

theorem delivered_of_withdepthcharge {args : List String} {ws' : Workspace}
    (hrun : withdepthcharge r t version args ws = .ok ws') :
    (∀ board ∈ boardsOf r args, (r.config board).isSome →
      ∃ dir, ws'.bin board = some dir ∧ Directory r version board (boardImg r t version board) dir)
      ∧ ∀ board, board ∉ boardsOf r args ∨ ¬ (r.config board).isSome →
        ws'.bin board = ws.bin board := by
  have hfills : FillsEntries (fun _ => True) Workspace.bin
      (fun board => Directory r version board (boardImg r t version board))
      (fun board => (r.config board).isSome) (buildrom r t version) :=
    ⟨fun _ _ _ _ _ => trivial,
      fun board now now' _ hconfig hround => (buildrom_gives.post now' hround).1 hconfig,
      fun board now now' _ hconfig hround => by
        rw [(buildrom_gives.post now' hround).2 hconfig]⟩
  exact (hfills.forEach trivial hrun).2

/--
**What a run delivers,** whatever has been left in the sources, in `depthcharge/` and in `bin/` before.
It gets through exactly if everything is there that the boards with a configuration need. The directory
of each of them is replaced by four files, and those of all other boards stay.
-/
theorem withdepthcharge_delivers (args : List String) :
    ((∃ ws', withdepthcharge r t version args ws = .ok ws') ↔
      ∀ board ∈ boardsOf r args, Builds r t version board)
      ∧ ∀ ws', withdepthcharge r t version args ws = .ok ws' →
        (∀ board ∈ boardsOf r args, (r.config board).isSome →
          ∃ dir, ws'.bin board = some dir
            ∧ Directory r version board (boardImg r t version board) dir)
        ∧ ∀ board, board ∉ boardsOf r args ∨ ¬ (r.config board).isSome →
          ws'.bin board = ws.bin board :=
  ⟨withdepthcharge_gets_through args, fun _ hrun => delivered_of_withdepthcharge hrun⟩

end Run

end Libreboot.Depthcharge
