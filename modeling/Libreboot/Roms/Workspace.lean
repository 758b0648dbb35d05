import Libreboot.Infra.Creation
import Libreboot.Infra.FileCommands
import Libreboot.Infra.FileNames
import Libreboot.Roms.BuctsTrick

/-!
# The directories of the build

What the scripts of `helpers/build/roms/` read and write, and the frame of their helpers. The coreboot
sources of a revision are shared by all boards that use it, for all payloads. The images of a board
are made there and then moved to `bin/`.

The branches of the sources, `make` and `cbfstool` are arguments (`Toolchain`), for each revision; any
of them may fail.

* `onBoard_eq_ok` — when a helper gets through, and where its images are put
* `delivered_of_forEach` — what lies in `bin/` after the loop over the boards
-/

namespace Libreboot.Roms

open Infra Script

/-! ## What is read -/

inductive Payload
  | grub
  | seabios
  deriving DecidableEq

def Payload.text : Payload → String
  | grub => "grub"
  | seabios => "seabios"

/-- `resources/libreboot/config/grub/*` -/
def grubBoards : List String :=
  ["d510mo", "ga-g41m-es2l", "macbook21", "qemu_i440fx_piix4", "qemu_q35_ich9", "r400_4mb",
    "r400_8mb", "t400_4mb", "t400_8mb", "t500_4mb", "t500_8mb", "t60", "x200_4mb", "x200_8mb", "x60"]

/-- `resources/libreboot/config/seabios/*` -/
def seabiosBoards : List String := ["kcma-d8", "kfsn4-dre", "kgpe-d16"]

def Payload.boards : Payload → List String
  | grub => grubBoards
  | seabios => seabiosBoards

inductive Romtype
  | txtmode
  | vesafb
  deriving DecidableEq

def Romtype.text : Romtype → String
  | txtmode => "txtmode"
  | vesafb => "vesafb"

/-- `for romtype in txtmode vesafb` -/
def romtypes : List Romtype := [.txtmode, .vesafb]

theorem mem_romtypes (romtype : Romtype) : romtype ∈ romtypes := by cases romtype <;> decide

/-- The two rounds of a loop over the kinds of graphics. -/
theorem forEach_romtypes {body : Romtype → Command Files} :
    forEach body romtypes = both (body .txtmode) (both (body .vesafb) .ok) := rfl

/-- The files under `resources/` that the images are made of. -/
structure Resources where
  /-- `grub/config/extra/…` and `grub/config/menuentries/…` -/
  extra : String → Bytes
  menuentries : String → Bytes
  /-- `keymap/original/*`, and the pattern itself if there is no layout -/
  keymaps : List String
  keymaps_ne_nil : keymaps ≠ []
  /-- `grub/background/…` -/
  background : String → Bytes
  /-- `seabios/config/config` -/
  seabiosConfig : Option Bytes
  /-- `libreboot/config/${payload}/${board}/…` -/
  config : Payload → String → Option Bytes
  config_board : ∀ payload board, (config payload board).isSome → board ∈ payload.boards
  cbrevision : Payload → String → Option String
  vbootrevision : Payload → String → Option String

/-- What is not part of the repository, for one revision of coreboot. -/
structure Toolchain where
  /-- `git checkout`, in coreboot and in vboot -/
  checkout : String → Bool
  /-- `make`, from the branch, `.coreboot-version`, `.config` and the ELF file of the payload -/
  make : String → Bytes → Bytes → Bytes → Option Bytes
  /-- `cbfstool rom add -f file -n name -t raw` -/
  cbfstool : Bytes → String → Bytes → Option Bytes

/-- `${payload}_${boardtarget}` -/
def branchname (payload : Payload) (board : String) : String := payload.text ++ "_" ++ board

/-! ## The files of the sources -/

def romName (board : String) (romtype : Romtype) : String :=
  board ++ "_" ++ romtype.text ++ ".rom"

def corebootVersion : String := ".coreboot-version"

/-- The file that `make` writes. -/
def corebootRom : String := "build/coreboot.rom"

/-- `"${boardtarget}"*.rom` -/
def isBoardRom (board name : String) : Bool := glob board ".rom" name

/-- What `printf 'libreboot-%s\n'` prints. -/
def versionLine (version : String) : Bytes := ascii ("libreboot-" ++ version ++ "\n")

/-- `make -j${cores}` -/
def makeRom (t : Toolchain) (branch elf : String) : Command Files := fun files =>
  put corebootRom ((files corebootVersion).bind fun version => (files ".config").bind fun config =>
    (files elf).bind fun payload => t.make branch version config payload) files

theorem makeRom_touches (t : Toolchain) (branch elf : String) :
    Touches (fun name => name = corebootRom) (makeRom t branch elf) :=
  fun files name hname => touches_put _ _ files name hname

theorem suffix_romName (board : String) (romtype : Romtype) :
    (romtype.text ++ ".rom").toList <:+ (romName board romtype).toList := by
  rw [romName, String.append_assoc]
  exact suffix_append _ _

/-- The kind of graphics at the end of a name is known. -/
theorem Romtype.eq_of_append {front front' : String} {romtype romtype' : Romtype}
    (h : front ++ romtype.text = front' ++ romtype'.text) : romtype = romtype' := by
  by_contra hne
  refine ne_of_suffix (suffix_append _ romtype.text) (suffix_append _ romtype'.text) ?_ ?_ h <;>
    revert hne <;> cases romtype <;> cases romtype' <;> decide

theorem romName_inj {board : String} {romtype romtype' : Romtype}
    (h : romName board romtype = romName board romtype') : romtype = romtype' :=
  Romtype.eq_of_append ((String.append_left_inj ".rom").mp h)

/-! ## The directories -/

structure Workspace where
  /-- `coreboot/` -/
  payload : Files
  /-- `coreboot/${cbrevision}/${cbrevision}/` -/
  source : String → Files
  /-- `bin/${payload}/` -/
  bin : Payload → Bin

def onPayload : Command Files → Command Workspace :=
  onPart Workspace.payload fun payload ws => { ws with payload := payload }

def onBin (payload : Payload) : Command Bin → Command Workspace :=
  onPart (fun ws => ws.bin payload)
    fun bin ws => { ws with bin := Function.update ws.bin payload bin }

/-- `rm -f "coreboot/"*/*/…` -/
def removeInSources (p : String → Bool) : Command Workspace := fun ws =>
  .ok { ws with source := fun revision name => if p name then none else ws.source revision name }

/-- `*.{elf,cfg}` -/
def isElfOrCfg (name : String) : Bool := glob "" ".elf" name || glob "" ".cfg" name

/-! ## A helper -/

/-- The new images replace the directory of the board. -/
def moveImages (payload : Payload) (cbrevision board : String) (files : Files) (ws : Workspace) :
    Workspace :=
  { ws with
    source := Function.update ws.source cbrevision fun name =>
      if isBoardRom board name || name = corebootVersion then none else files name
    bin := Function.update ws.bin payload (Function.update (ws.bin payload) board
      (some fun name => if isBoardRom board name then files name else none)) }

section Helper

variable (r : Resources) (t : String → Toolchain) (payload : Payload)
  (build : Toolchain → Workspace → Command Files) (board : String)

/-- The frame of the helpers: the images of a board are built in the sources of its revision. -/
def onBoard : Command Workspace := fun ws =>
  match r.cbrevision payload board, r.vbootrevision payload board with
  | some cbrevision, some _ =>
    if (t cbrevision).checkout (branchname payload board) then
      match build (t cbrevision) ws (ws.source cbrevision) with
      | .error files => .error { ws with source := Function.update ws.source cbrevision files }
      | .ok files =>
        let ws := moveImages payload cbrevision board files ws
        if (t cbrevision).checkout "master" then .ok ws else .error ws
    else .error ws
  | _, _ => .error ws

/-- What a helper needs besides its images. -/
structure Ready (revision : String) : Prop where
  cbrevision : r.cbrevision payload board = some revision
  vbootrevision : ∃ vbootrevision, r.vbootrevision payload board = some vbootrevision
  branch : (t revision).checkout (branchname payload board) = true
  master : (t revision).checkout "master" = true

variable {r t payload build board} {ws ws' : Workspace}

/-- **When a helper gets through,** and what it leaves then. -/
theorem onBoard_eq_ok :
    onBoard r t payload build board ws = .ok ws' ↔
      ∃ cbrevision files, Ready r t payload board cbrevision
        ∧ build (t cbrevision) ws (ws.source cbrevision) = .ok files
        ∧ ws' = moveImages payload cbrevision board files ws := by
  unfold onBoard
  constructor
  · intro hrun
    cases hrevision : r.cbrevision payload board with
    | none => simp [hrevision] at hrun
    | some cbrevision =>
      cases hvboot : r.vbootrevision payload board with
      | none => simp [hrevision, hvboot] at hrun
      | some vbootrevision =>
        simp only [hrevision, hvboot] at hrun
        split at hrun
        · next hbranch =>
          cases hbuild : build (t cbrevision) ws (ws.source cbrevision) with
          | error files => simp [hbuild] at hrun
          | ok files =>
            simp only [hbuild] at hrun
            split at hrun
            · next hmaster =>
              cases hrun
              exact ⟨cbrevision, files, ⟨hrevision, ⟨_, hvboot⟩, hbranch, hmaster⟩, hbuild, rfl⟩
            · cases hrun
        · cases hrun
  · rintro ⟨cbrevision, files, ⟨hrevision, ⟨vbootrevision, hvboot⟩, hbranch, hmaster⟩, hbuild, rfl⟩
    simp only [hrevision, hvboot, hbranch, hbuild, hmaster, if_true]

/-- What holds of all sources holds afterwards, also if the helper ends early. -/
theorem keeps_onBoard {P : Files → Prop} (hbuild : ∀ t ws, Keeps P (build t ws))
    (hmono : ∀ files files' : Files, P files →
      (∀ name, files' name ≠ none → files name ≠ none) → P files') :
    Keeps (fun ws => ∀ revision, P (ws.source revision)) (onBoard r t payload build board) := by
  intro ws h
  have hupdate : ∀ {cbrevision : String} {files : Files}, P files →
      ∀ revision, P (Function.update ws.source cbrevision files revision) := fun hfiles =>
    (Function.forall_update_iff _ fun _ => P).mpr ⟨hfiles, fun revision _ => h revision⟩
  unfold onBoard
  cases r.cbrevision payload board with
  | none => exact h
  | some cbrevision =>
    cases r.vbootrevision payload board with
    | none => exact h
    | some vbootrevision =>
      have hbuilt := hbuild (t cbrevision) ws (ws.source cbrevision) (h cbrevision)
      dsimp only
      cases (t cbrevision).checkout (branchname payload board) with
      | false => exact h
      | true =>
        rw [if_pos rfl]
        cases hrun : build (t cbrevision) ws (ws.source cbrevision) with
        | error files =>
          rw [hrun] at hbuilt
          exact hupdate hbuilt
        | ok files =>
          rw [hrun] at hbuilt
          -- the move only takes files away
          have hmoved : ∀ revision,
              P ((moveImages payload cbrevision board files ws).source revision) := by
            refine hupdate (hmono files _ hbuilt fun name hne hnone => hne ?_)
            rw [hnone, ite_self]
          cases (t cbrevision).checkout "master" with
          | false => exact hmoved
          | true => exact hmoved

end Helper

/-! ## All boards -/

section Boards

variable (r : Resources) (payload : Payload)

/-- The boards in the arguments, or all boards. -/
def Payload.boardsOf (args : List String) : List String :=
  if args.isEmpty then payload.boards else args

/-- A board that has no configuration is passed over. -/
def buildrom (helper : String → Command Workspace) (board : String) : Command Workspace :=
  if (r.config payload board).isSome then helper board else .ok

/-- A helper has put a directory into `bin/` and has changed nothing else there. -/
def Delivers (built : Files → Prop) (board : String) (ws ws' : Workspace) : Prop :=
  ∃ dir, built dir ∧ ws'.bin = Function.update ws.bin payload
    (Function.update (ws.bin payload) board (some dir))

/-- What lies in `bin/` after the loop over the boards. -/
structure Delivered (built : String → Files → Prop) (boards : List String) (ws ws' : Workspace) :
    Prop where
  built : ∀ board ∈ boards, (r.config payload board).isSome →
    ∃ dir, ws'.bin payload board = some dir ∧ built board dir
  other : ∀ board, board ∉ boards ∨ r.config payload board = none →
    ws'.bin payload board = ws.bin payload board
  payload : ∀ other, other ≠ payload → ws'.bin other = ws.bin other

variable {r payload} {helper : String → Command Workspace} {P : Workspace → Prop}
  {built : String → Files → Prop}

/-- **The loop over the boards** delivers what its rounds deliver. -/
theorem delivered_of_forEach
    (hhelper : ∀ board, (r.config payload board).isSome → ∀ ws ws', P ws →
      helper board ws = .ok ws' → P ws' ∧ Delivers payload (built board) board ws ws')
    {boards : List String} {ws ws' : Workspace} (hws : P ws)
    (hrun : forEach (buildrom r payload helper) boards ws = .ok ws') :
    Delivered r payload built boards ws ws' := by
  have hfills : FillsEntries
      (fun now => P now ∧ ∀ other, other ≠ payload → now.bin other = ws.bin other)
      (fun now => now.bin payload) built (fun board => (r.config payload board).isSome)
      (buildrom r payload helper) := by
    refine ⟨fun board now now' hnow hround => ?_, fun board now now' hnow hconfig hround => ?_,
      fun board now now' hnow hconfig hround => ?_⟩
    · unfold buildrom at hround
      split at hround
      · next hconfig =>
        obtain ⟨hkept, dir, -, hbin⟩ := hhelper board hconfig now now' hnow.1 hround
        refine ⟨hkept, fun other hne => ?_⟩
        rw [hbin, Function.update_of_ne hne, hnow.2 other hne]
      · obtain rfl := Except.ok.inj hround
        exact hnow
    · rw [buildrom, if_pos hconfig] at hround
      obtain ⟨-, dir, hdir, hbin⟩ := hhelper board hconfig now now' hnow.1 hround
      refine ⟨dir, hdir, ?_⟩
      simp only [hbin, Function.update_self]
    · rw [buildrom, if_neg hconfig] at hround
      rw [Except.ok.inj hround]
  obtain ⟨⟨-, hothers⟩, hbuilt, hframe⟩ := hfills.forEach ⟨hws, fun _ _ => rfl⟩ hrun
  refine ⟨hbuilt, fun board hboard => hframe board (hboard.imp_right fun hnone => ?_), hothers⟩
  rw [hnone]
  exact Bool.false_ne_true

/-- It gets through if its rounds do. -/
theorem exists_forEach_buildrom {good : String → Prop} {boards : List String} {ws : Workspace}
    (hgood : ∀ board, ∀ ws, P ws → ((∃ ws', helper board ws = .ok ws') ↔ good board))
    (hkept : ∀ board ws ws', P ws → helper board ws = .ok ws' → P ws') (hws : P ws) :
    (∃ ws', forEach (buildrom r payload helper) boards ws = .ok ws')
      ↔ ∀ board ∈ boards, (r.config payload board).isSome → good board := by
  refine exists_forEach (P := P) (fun board _ ws h => ?_) (fun board _ ws ws' h hrun => ?_) hws
  · unfold buildrom
    by_cases hconfig : (r.config payload board).isSome
    · rw [if_pos hconfig, hgood board ws h]
      exact ⟨fun hboard _ => hboard, fun hboard => hboard hconfig⟩
    · rw [if_neg hconfig]
      exact ⟨fun _ hsome => absurd hsome hconfig, fun _ => ⟨ws, rfl⟩⟩
  · unfold buildrom at hrun
    split at hrun
    · exact hkept board ws ws' h hrun
    · obtain rfl := Except.ok.inj hrun
      exact h

end Boards

end Libreboot.Roms
