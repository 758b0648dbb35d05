import Libreboot.Infra.Builders
import Libreboot.Roms.WithgrubHelper
import Libreboot.Roms.WithseabiosHelper

/-!
# Boards that share their sources

All boards of a revision are built in one directory, one after the other and for both payloads, and a
run may end at any tool that fails. What it leaves there are images of its own board, so that the next
run, for this or for another board, moves exactly the images that it has made.

* `builders` — the pattern of a board finds no image of another one
* `keeps_withgrubHelper`, `keeps_withseabiosHelper` — what every run keeps, also one that ends early
* `withgrubHelper_delivers`, `withseabiosHelper_delivers` — what is put into `bin/`
-/

namespace Libreboot.Roms

open Infra Script

/-! ## The names of the boards -/

/-- A board with the payload that it is built for. -/
structure Target where
  payload : Payload
  board : String
  mem : board ∈ payload.boards

/-- No name is the beginning of another one. -/
theorem Target.eq_of_prefix {target target' : Target}
    (h : target.board.toList <+: target'.board.toList) : target = target' := by
  have hall : ∀ payload payload' : Payload, ∀ board ∈ payload.boards, ∀ board' ∈ payload'.boards,
      board.toList.isPrefixOf board'.toList = true → payload = payload' ∧ board = board' := by
    intro payload payload'
    cases payload <;> cases payload' <;> decide
  obtain ⟨payload, board, hboard⟩ := target
  obtain ⟨payload', board', hboard'⟩ := target'
  obtain ⟨rfl, rfl⟩ := hall payload payload' board hboard board' hboard'
    (List.isPrefixOf_iff_prefix.mpr h)
  rfl

theorem Target.not_built (target : Target) : ¬ target.board.toList <+: corebootRom.toList := by
  have hall : ∀ payload : Payload, ∀ board ∈ payload.boards,
      board.toList.isPrefixOf corebootRom.toList = false := by
    intro payload
    cases payload <;> decide
  intro h
  have hno := hall target.payload target.board target.mem
  rw [List.isPrefixOf_iff_prefix.mpr h] at hno
  cases hno

section Names

variable (r : Resources) {payload : Payload} {board name : String}

/-- The images that a helper makes for a board, finished or not. -/
def Makes : Payload → String → String → Prop
  | .grub, board, name => ∃ romtype, skips board romtype = false ∧ Creates r board romtype name
  | .seabios, board, name =>
    ∃ romtype, seabiosSkips board romtype = false ∧ name = romName board romtype

theorem front_romName (board : String) (romtype : Romtype) :
    board.toList <+: (romName board romtype).toList := by
  rw [romName, String.append_assoc, String.append_assoc]
  exact prefix_append _ _

theorem Creates.front {romtype : Romtype} (h : Creates r board romtype name) :
    board.toList <+: name.toList := by
  rcases h with rfl | ⟨keymap, -, rfl⟩
  · exact front_romName board romtype
  · rw [imageName, String.append_assoc, String.append_assoc, String.append_assoc,
      String.append_assoc]
    exact prefix_append _ _

/-- The pattern of a board finds all its images. -/
theorem Makes.isBoardRom (h : Makes r payload board name) : isBoardRom board name = true := by
  have hrom : ∀ romtype : Romtype, ".rom".toList <:+ (romtype.text ++ ".rom").toList :=
    fun _ => suffix_append _ _
  cases payload with
  | grub =>
    obtain ⟨romtype, -, hcreates⟩ := h
    exact glob_iff.mpr ⟨Creates.front r hcreates, (hrom romtype).trans (Creates.suffix r hcreates)⟩
  | seabios =>
    obtain ⟨romtype, -, rfl⟩ := h
    exact glob_iff.mpr ⟨front_romName board romtype, (hrom romtype).trans (suffix_romName _ _)⟩

/-- **The pattern of a board** finds no image of another one. -/
theorem Target.eq_of_makes {target target' : Target} (hrom : Roms.isBoardRom target.board name = true)
    (h : Makes r target'.payload target'.board name) : target = target' := by
  rcases List.prefix_or_prefix_of_prefix (glob_iff.mp hrom).1
    (glob_iff.mp (Makes.isBoardRom r h)).1 with hpre | hpre
  · exact Target.eq_of_prefix hpre
  · exact (Target.eq_of_prefix hpre).symm

/-- The helpers, as builders that share the sources of a revision. -/
def builders : Builders Target String where
  finds target name := isBoardRom target.board name = true
  makes target := Makes r target.payload target.board
  apart _ _ _ := Target.eq_of_makes r

/-- No other file that the helpers use is an image. -/
theorem not_image {target : Target} {back : List Char}
    (hrom : isBoardRom target.board name = true) (hback : back <:+ name.toList)
    (h : ¬ back <:+ ".rom".toList) (h' : ¬ ".rom".toList <:+ back) : False :=
  ne_of_suffix hback (glob_iff.mp hrom).2 h h' rfl

end Names

/-! ## What interrupted runs leave -/

section Clean

variable (r : Resources) (t : Toolchain) (version : String)

/-- The sources of all revisions are clean. -/
def CleanSources (ws : Workspace) : Prop := ∀ revision, (builders r).Clean (ws.source revision)

theorem keeps_buildImages (payload : Files) {board : String} (hboard : board ∈ grubBoards) :
    Keeps (builders r).Clean (buildImages r t version payload board) := by
  refine @Builders.keeps_clean _ _ _ (builders r) ⟨.grub, board, hboard⟩ _ _
    (buildImages_touches r t version payload board) ?_
  rintro target name hrom (hgrub | rfl | ⟨romtype, rfl⟩ | ⟨romtype, hskips, hscratch | hcreates⟩)
  · rcases Bool.or_eq_true_iff.mp hgrub with h | h
    · exact (not_image hrom (glob_iff.mp h).2 (by decide) (by decide)).elim
    · exact (not_image hrom (glob_iff.mp h).2 (by decide) (by decide)).elim
  · exact (not_image hrom (List.suffix_refl _) (by decide) (by decide)).elim
  · exact (not_image hrom (List.suffix_refl _) (by cases romtype <;> decide)
      (by cases romtype <;> decide)).elim
  · simp only [scratch, List.mem_cons, List.not_mem_nil, or_false] at hscratch
    rcases hscratch with rfl | rfl | rfl | rfl
    · exact (target.not_built (glob_iff.mp hrom).1).elim
    · exact (not_image hrom (List.suffix_refl _) (by cases romtype <;> decide)
        (by cases romtype <;> decide)).elim
    · exact (not_image hrom (List.suffix_refl _) (by decide) (by decide)).elim
    · exact (not_image hrom (List.suffix_refl _) (by decide) (by decide)).elim
  · exact ⟨romtype, hskips, hcreates⟩

theorem keeps_buildSeabiosImages (out : SeabiosOut) {board : String}
    (hboard : board ∈ seabiosBoards) :
    Keeps (builders r).Clean (buildSeabiosImages r t version out board) := by
  refine @Builders.keeps_clean _ _ _ (builders r) ⟨.seabios, board, hboard⟩ _ _
    (buildSeabiosImages_touches r t version out board) ?_
  rintro target name hrom (hseabios | rfl | hscratch | hmakes)
  · rcases Bool.or_eq_true_iff.mp hseabios with h | h
    · exact (not_image hrom (glob_iff.mp h).2 (by decide) (by decide)).elim
    · exact (not_image hrom (glob_iff.mp h).2 (by decide) (by decide)).elim
  · exact (not_image hrom (List.suffix_refl _) (by decide) (by decide)).elim
  · simp only [seabiosScratch, List.mem_cons, List.not_mem_nil, or_false] at hscratch
    rcases hscratch with rfl | rfl | rfl
    · exact (target.not_built (glob_iff.mp hrom).1).elim
    · exact (not_image hrom (List.suffix_refl _) (by decide) (by decide)).elim
    · exact (not_image hrom (List.suffix_refl _) (by decide) (by decide)).elim
  · exact hmakes

/-- **The sources stay clean,** also if a helper ends early. -/
theorem keeps_withgrubHelper (t : String → Toolchain) {board : String}
    (hboard : board ∈ grubBoards) : Keeps (CleanSources r) (withgrubHelper r t version board) :=
  keeps_onBoard (fun t ws => keeps_buildImages r t version ws.payload hboard)
    fun _ _ h hsub => h.mono hsub

theorem keeps_withseabiosHelper (t : String → Toolchain) (out : SeabiosOut) {board : String}
    (hboard : board ∈ seabiosBoards) :
    Keeps (CleanSources r) (withseabiosHelper r t version out board) :=
  keeps_onBoard (fun t _ => keeps_buildSeabiosImages r t version out hboard)
    fun _ _ h hsub => h.mono hsub

/-! ### The other commands -/

theorem keeps_removeInSources (p : String → Bool) : Keeps (CleanSources r) (removeInSources p) := by
  intro ws h revision
  refine (h revision).mono fun name hne hnone => hne ?_
  show (if p name = true then none else ws.source revision name) = none
  rw [hnone, ite_self]

theorem keeps_onPayload (command : Command Files) :
    Keeps (CleanSources r) (onPayload command) :=
  keeps_onPart command fun _ _ h => h

theorem keeps_onBin (payload : Payload) (command : Command Bin) :
    Keeps (CleanSources r) (onBin payload command) :=
  keeps_onPart command fun _ _ h => h

/-- A loop over boards keeps what its helper keeps. -/
theorem keeps_buildrom (payload : Payload) {helper : String → Command Workspace}
    (hhelper : ∀ board ∈ payload.boards, Keeps (CleanSources r) (helper board)) (board : String) :
    Keeps (CleanSources r) (buildrom r payload helper board) := by
  intro ws h
  unfold buildrom
  split
  · next hconfig => exact hhelper board (r.config_board payload board hconfig) ws h
  · exact h

end Clean

/-! ## What is moved to `bin/` -/

/-- The GRUB image for a keyboard layout, from the revision that the board uses. -/
def boardImage (r : Resources) (t : String → Toolchain) (version : String) (payload : Files)
    (board keymap : String) (romtype : Romtype) : Option Bytes :=
  (r.cbrevision .grub board).bind fun revision =>
    image r (t revision) version payload board keymap romtype

/-- The SeaBIOS image, from the revision that the board uses. -/
def boardSeabiosImage (r : Resources) (t : String → Toolchain) (version : String)
    (out : SeabiosOut) (board : String) : Option Bytes :=
  (r.cbrevision .seabios board).bind fun revision => seabiosImage r (t revision) version out board

section Moved

variable (r : Resources) (t : String → Toolchain) (version : String) {board : String}
  {ws ws' : Workspace}

/-- **The directory that is moved** holds the images that have been made, and nothing else. -/
theorem onBoard_delivers {target : Target} {build : Toolchain → Workspace → Command Files}
    (hbuild : ∀ t ws, Keeps (builders r).Clean (build t ws)) (h : CleanSources r ws)
    (hrun : onBoard r t target.payload build target.board ws = .ok ws') :
    ws'.payload = ws.payload ∧ ∃ revision files dir, Ready r t target.payload target.board revision
      ∧ build (t revision) ws (ws.source revision) = .ok files
      ∧ ws'.bin = Function.update ws.bin target.payload
        (Function.update (ws.bin target.payload) target.board (some dir))
      ∧ (∀ name, Makes r target.payload target.board name → dir name = files name)
      ∧ ∀ name, ¬ Makes r target.payload target.board name → dir name = none := by
  obtain ⟨revision, files, hready, hbuilt, rfl⟩ := onBoard_eq_ok.mp hrun
  have hclean : (builders r).Clean files := (hbuild _ ws).of_ok (h revision) hbuilt
  refine ⟨rfl, revision, files, _, hready, hbuilt, rfl, fun name hmakes => ?_, fun name hnot => ?_⟩
  · exact if_pos (Makes.isBoardRom r hmakes)
  · show (if isBoardRom target.board name = true then files name else none) = none
    split
    · next hrom => exact @Builders.Clean.collects _ _ _ (builders r) target _ hclean _ hrom hnot
    · rfl

/-- A directory with the GRUB images of a board and nothing else. -/
structure BoardImages (payload : Files) (board : String) (dir : Files) : Prop where
  image : ∀ romtype, skips board romtype = false → ∀ keymap ∈ r.keymaps,
    ∃ rom, boardImage r t version payload board keymap romtype = some rom
      ∧ dir (imageName board keymap romtype) = some rom
  other : ∀ name, (∀ romtype, skips board romtype = false → ∀ keymap ∈ r.keymaps,
    name ≠ imageName board keymap romtype) → dir name = none

/-- **What a GRUB run that gets through puts into `bin/`.** -/
theorem withgrubHelper_delivers (h : CleanSources r ws) (hboard : board ∈ grubBoards)
    (hrun : withgrubHelper r t version board ws = .ok ws') :
    ws'.payload = ws.payload
      ∧ Delivers .grub (BoardImages r t version ws.payload board) board ws ws' := by
  obtain ⟨hpayload, revision, files, dir, hready, hbuild, hbin, hmakes, hother⟩ :=
    @onBoard_delivers r t _ _ ⟨.grub, board, hboard⟩ _
      (fun t ws => keeps_buildImages r t version ws.payload hboard) h hrun
  have hmade := (buildImages_eq_ok r (t revision) version ws.payload).2 files hbuild
  refine ⟨hpayload, dir, ⟨fun romtype hskips keymap hkeymap => ?_, fun name hname => ?_⟩, hbin⟩
  · obtain ⟨rom, himage, hfile⟩ := (hmade romtype hskips).image keymap hkeymap
    refine ⟨rom, ?_, ?_⟩
    · rw [boardImage, hready.cbrevision, Option.bind_some, himage]
    · rw [hmakes _ ⟨romtype, hskips, .inr ⟨keymap, hkeymap, rfl⟩⟩, hfile]
  · by_cases hmake : Makes r .grub board name
    · rw [hmakes name hmake]
      obtain ⟨romtype, hskips, rfl | ⟨keymap, hkeymap, rfl⟩⟩ := hmake
      · exact (hmade romtype hskips).plain
      · exact absurd rfl (hname romtype hskips keymap hkeymap)
    · exact hother name hmake

/-- A directory with the SeaBIOS images of a board, all the same, and nothing else. -/
structure SeabiosDirectory (out : SeabiosOut) (board : String) (dir : Files) : Prop where
  image : ∃ rom, boardSeabiosImage r t version out board = some rom
    ∧ ∀ romtype, seabiosSkips board romtype = false → dir (romName board romtype) = some rom
  other : ∀ name, (∀ romtype, seabiosSkips board romtype = false → name ≠ romName board romtype) →
    dir name = none

/-- The image determines the directory. -/
theorem SeabiosDirectory.unique {r r' : Resources} {t t' : String → Toolchain} {version : String}
    {out : SeabiosOut} {dir dir' : Files}
    (himage : boardSeabiosImage r t version out board = boardSeabiosImage r' t' version out board)
    (h : SeabiosDirectory r t version out board dir)
    (h' : SeabiosDirectory r' t' version out board dir') : dir = dir' := by
  obtain ⟨rom, hrom, hfile⟩ := h.image
  obtain ⟨rom', hrom', hfile'⟩ := h'.image
  obtain rfl := Option.some.inj ((hrom.symm.trans himage).trans hrom')
  funext name
  by_cases hname : ∃ romtype, seabiosSkips board romtype = false ∧ name = romName board romtype
  · obtain ⟨romtype, hskips, rfl⟩ := hname
    rw [hfile romtype hskips, hfile' romtype hskips]
  · have hother : ∀ romtype, seabiosSkips board romtype = false → name ≠ romName board romtype :=
      fun romtype hskips heq => hname ⟨romtype, hskips, heq⟩
    rw [h.other name hother, h'.other name hother]

/-- **What a SeaBIOS run that gets through puts into `bin/`.** -/
theorem withseabiosHelper_delivers (out : SeabiosOut) (h : CleanSources r ws)
    (hboard : board ∈ seabiosBoards) (hrun : withseabiosHelper r t version out board ws = .ok ws') :
    Delivers .seabios (SeabiosDirectory r t version out board) board ws ws' := by
  obtain ⟨-, revision, files, dir, hready, hbuild, hbin, hmakes, hother⟩ :=
    @onBoard_delivers r t _ _ ⟨.seabios, board, hboard⟩ _
      (fun t _ => keeps_buildSeabiosImages r t version out hboard) h hrun
  obtain ⟨hiff, hmade⟩ := @buildSeabiosImages_eq_ok r (t revision) version out board
    (ws.source revision)
  obtain ⟨rom, hrom⟩ := hiff.mp ⟨files, hbuild⟩
  refine ⟨dir, ⟨⟨rom, ?_, fun romtype hskips => ?_⟩, fun name hname => hother name ?_⟩, hbin⟩
  · rw [boardSeabiosImage, hready.cbrevision, Option.bind_some, hrom]
  · rw [hmakes _ ⟨romtype, hskips, rfl⟩, hmade files hbuild romtype hskips, hrom]
  · rintro ⟨romtype, hskips, heq⟩
    exact hname romtype hskips heq

end Moved

/-! ## When a helper gets through -/

section Buildable

variable (r : Resources) (t : String → Toolchain) (version : String) (payload : Files)
  {board : String} {ws : Workspace}

/-- What the GRUB helper needs to get through. -/
structure Buildable (board : String) : Prop where
  ready : ∃ revision, Ready r t .grub board revision
  config : ∃ config, r.config .grub board = some config
  image : ∀ romtype, skips board romtype = false → ∀ keymap ∈ r.keymaps,
    ∃ rom, boardImage r t version payload board keymap romtype = some rom

variable {r t version payload} in
theorem Buildable.of_image {payload' : Files} (h : Buildable r t version payload board)
    (himage : ∀ romtype, ∀ keymap ∈ r.keymaps, boardImage r t version payload' board keymap romtype
      = boardImage r t version payload board keymap romtype) :
    Buildable r t version payload' board := by
  refine { h with image := fun romtype hskips keymap hkeymap => ?_ }
  rw [himage romtype keymap hkeymap]
  exact h.image romtype hskips keymap hkeymap

/-- It gets through exactly if all it needs is there. -/
theorem withgrubHelper_gets_through :
    (∃ ws', withgrubHelper r t version board ws = .ok ws')
      ↔ Buildable r t version ws.payload board := by
  have himage : ∀ {revision : String}, Ready r t .grub board revision → ∀ keymap romtype,
      boardImage r t version ws.payload board keymap romtype
        = image r (t revision) version ws.payload board keymap romtype :=
    fun hready _ _ => by rw [boardImage, hready.cbrevision, Option.bind_some]
  constructor
  · rintro ⟨ws', hrun⟩
    obtain ⟨revision, files, hready, hbuild, -⟩ := onBoard_eq_ok.mp hrun
    obtain ⟨hconfig, himages⟩ :=
      (buildImages_eq_ok r (t revision) version ws.payload).1.mp ⟨files, hbuild⟩
    refine ⟨⟨revision, hready⟩, hconfig, fun romtype hskips keymap hkeymap => ?_⟩
    rw [himage hready]
    exact himages romtype hskips keymap hkeymap
  · intro h
    obtain ⟨revision, hready⟩ := h.ready
    obtain ⟨files, hbuild⟩ :=
      (@buildImages_eq_ok r (t revision) version ws.payload board (ws.source revision)).1.mpr
        ⟨h.config, fun romtype hskips keymap hkeymap => by
          rw [← himage hready]
          exact h.image romtype hskips keymap hkeymap⟩
    exact ⟨_, onBoard_eq_ok.mpr ⟨revision, files, hready, hbuild, rfl⟩⟩

theorem withseabiosHelper_gets_through (out : SeabiosOut) :
    (∃ ws', withseabiosHelper r t version out board ws = .ok ws')
      ↔ (∃ revision, Ready r t .seabios board revision)
        ∧ ∃ rom, boardSeabiosImage r t version out board = some rom := by
  have himage : ∀ {revision : String}, Ready r t .seabios board revision →
      boardSeabiosImage r t version out board = seabiosImage r (t revision) version out board :=
    fun hready => by rw [boardSeabiosImage, hready.cbrevision, Option.bind_some]
  constructor
  · rintro ⟨ws', hrun⟩
    obtain ⟨revision, files, hready, hbuild, -⟩ := onBoard_eq_ok.mp hrun
    refine ⟨⟨revision, hready⟩, ?_⟩
    rw [himage hready]
    exact (buildSeabiosImages_eq_ok r (t revision) version out).1.mp ⟨files, hbuild⟩
  · rintro ⟨⟨revision, hready⟩, hrom⟩
    rw [himage hready] at hrom
    obtain ⟨files, hbuild⟩ :=
      (@buildSeabiosImages_eq_ok r (t revision) version out board (ws.source revision)).1.mpr hrom
    exact ⟨_, onBoard_eq_ok.mpr ⟨revision, files, hready, hbuild, rfl⟩⟩

end Buildable

end Libreboot.Roms
