import Libreboot.Flash.Script
import Libreboot.Roms.BuctsTrick

/-!
# A machine under the flash script

The manual describes how libreboot comes onto an i945 ThinkPad while the Lenovo BIOS runs. That
firmware protects the last 64 KiB of the flash chip. With BUC.TS set, the last two 64 KiB of the chip
change places for the processor, so that it starts from the block that could be written. The bit
falls back to 0 if the battery is removed.

The tools and the firmware are no part of this repository. Whether a call of a tool takes effect is
an argument, and which firmware comes up is said by a `Board`. A call that takes effect does what the
manual says, and another one does nothing.

* `Board.run` — a machine that is flashed, shut down and deprived of its battery
* `Inv`, `inv_run` — what can be on the chip after any run
* `OnChip.boot_isSome_iff` — when the machine comes up again
-/

namespace Libreboot.Flash

open Infra TopSwap
open Roms (blockSize)

/-! ## The machine -/

inductive Firmware
  | vendor
  | libreboot
  deriving DecidableEq

/-- The flash chip, BUC.TS, and the firmware that has come up, if any has. -/
structure Machine where
  chip : Bytes
  ts : Bool
  running : Option Firmware

/-- What happens when a tool is called. -/
structure Tools where
  /-- The bit can be written. -/
  bucts : Machine → Bool
  /-- With that programmer, the binary finds the chip. -/
  flashrom : Flashrom → String → Machine → Bool

/-- The chip after an image is written to it. The firmware of the vendor protects the last block. -/
def Machine.written (m : Machine) (image : Bytes) : Bytes :=
  if m.running = some .vendor then withTop blockSize image m.chip else image

/-- A call. flashrom takes images that are as long as the chip. -/
def Call.exec (host : Host) (tools : Tools) (m : Machine) : Call → Machine
  | .bucts ts => if tools.bucts m then { m with ts := ts } else m
  | .write tool programmer rompath =>
    match host.files rompath with
    | none => m
    | some image =>
      if image.length = m.chip.length ∧ tools.flashrom tool programmer m then
        { m with chip := m.written image }
      else m

theorem exec_bucts (host : Host) (tools : Tools) (m : Machine) (ts : Bool) :
    Call.exec host tools m (.bucts ts) = if tools.bucts m then { m with ts := ts } else m := rfl

def execAll (host : Host) (tools : Tools) (calls : List Call) (m : Machine) : Machine :=
  calls.foldl (Call.exec host tools) m

/--
A model of laptop: the firmware it comes with, the images that are built for it, and which firmware
comes up when the processor sees an image. The block below the last one of a built image is not used.
-/
structure Board where
  size : Nat
  vendor : Bytes
  IsRom : Bytes → Prop
  comesUp : Bytes → Option Firmware
  two_blocks : 2 * blockSize ≤ size
  length_vendor : vendor.length = size
  length_rom : ∀ rom, IsRom rom → rom.length = size
  vendor_comesUp : comesUp vendor = some .vendor
  rom_comesUp : ∀ rom image, IsRom rom → image.length = size →
    SameOutsideCopy blockSize image rom → comesUp image = some .libreboot
  /-- There is nothing to start from below the last block of the vendor. -/
  swapped_vendor : comesUp (swap blockSize vendor) = none
  /-- The last block of the vendor does not start anything else. -/
  vendor_top : ∀ rom image, IsRom rom → image.length = size →
    rest blockSize image = rest blockSize rom → top blockSize image = top blockSize vendor →
    comesUp image = none

/-- What can happen to a machine. -/
inductive Action
  /-- `sudo ./flash …` -/
  | flash (host : Host) (tools : Tools) (args : List String)
  | shutDown
  | removeBattery

namespace Board

variable (board : Board)

def boot (m : Machine) : Machine :=
  { m with running := board.comesUp (seen blockSize m.ts m.chip) }

def step (m : Machine) : Action → Machine
  | .flash host tools args =>
    if m.running = none then m
    else
      match flash host args with
      | .error _ => m
      | .ok calls => execAll host tools calls m
  | .shutDown => board.boot m
  | .removeBattery => board.boot { m with ts := false }

def run (m : Machine) (actions : List Action) : Machine := actions.foldl board.step m

/-- The machine as it is sold. -/
def delivered : Machine := ⟨board.vendor, false, some .vendor⟩

/-- An image that the build system has mirrored. -/
def Built (image : Bytes) : Prop := ∃ rom, board.IsRom rom ∧ image = mirror blockSize rom

/-- An action that flashes nothing but such images. Images of another size are not flashed at all. -/
def Flashes : Action → Prop
  | .flash host _ args => ∀ rompath image, args[1]? = some rompath →
      host.files rompath = some image → image.length = board.size → board.Built image
  | _ => True

/-! ## What is on the chip -/

/-- An image below the last block of the vendor. -/
def half (image : Bytes) : Bytes := withTop blockSize image board.vendor

/-- The vendor's image, a built image below the vendor's last block, or a built image. -/
def OnChip (chip : Bytes) : Prop :=
  chip = board.vendor ∨ (∃ image, board.Built image ∧ chip = board.half image) ∨ board.Built chip

/--
What a run keeps. A machine that does not come up has two firmwares on its chip, or a bit that does
not fit its chip.
-/
structure Inv (m : Machine) : Prop where
  chip : board.OnChip m.chip
  protected_top : m.running = some .vendor → top blockSize m.chip = top blockSize board.vendor
  bricked : m.running = none → (m.chip = board.vendor ∧ m.ts = true)
    ∨ ((∃ image, board.Built image ∧ m.chip = board.half image) ∧ m.ts = false)

variable {board} {m : Machine} {image : Bytes}

theorem Built.length (h : board.Built image) : image.length = board.size := by
  obtain ⟨rom, hrom, himage⟩ := h
  have hlen := board.length_rom rom hrom
  rw [himage, length_mirror (by rw [hlen]; exact board.two_blocks), hlen]

theorem Built.two_blocks (h : board.Built image) : 2 * blockSize ≤ image.length := by
  rw [h.length]
  exact board.two_blocks

theorem Built.mirrored (h : board.Built image) : Mirrored blockSize image := by
  obtain ⟨rom, hrom, himage⟩ := h
  rw [himage]
  exact mirrored_mirror (by rw [board.length_rom rom hrom]; exact board.two_blocks)

/-- Outside of the copy, it is an image that comes up. -/
theorem Built.sameOutsideCopy (h : board.Built image) :
    ∃ rom, board.IsRom rom ∧ SameOutsideCopy blockSize image rom := by
  obtain ⟨rom, hrom, himage⟩ := h
  rw [himage]
  exact ⟨rom, hrom,
    sameOutsideCopy_mirror (by rw [board.length_rom rom hrom]; exact board.two_blocks)⟩

theorem vendor_two_blocks : 2 * blockSize ≤ board.vendor.length := by
  rw [board.length_vendor]
  exact board.two_blocks

theorem Built.length_half (h : board.Built image) : (board.half image).length = board.size := by
  rw [half, length_withTop h.two_blocks vendor_two_blocks, h.length]

theorem top_half : top blockSize (board.half image) = top blockSize board.vendor :=
  top_withTop vendor_two_blocks

/-- Every chip has the size of the board. -/
theorem OnChip.length {chip : Bytes} (h : board.OnChip chip) : chip.length = board.size := by
  rcases h with hvendor | ⟨image, himage, hhalf⟩ | hbuilt
  · rw [hvendor, board.length_vendor]
  · rw [hhalf, himage.length_half]
  · exact hbuilt.length

/-! ## What comes up -/

theorem comesUp_seen_vendor (ts : Bool) :
    board.comesUp (seen blockSize ts board.vendor) = if ts then none else some .vendor := by
  cases ts with
  | false => exact board.vendor_comesUp
  | true => exact board.swapped_vendor

/-- A built image comes up whatever the bit is. -/
theorem Built.comesUp_seen (h : board.Built image) (ts : Bool) :
    board.comesUp (seen blockSize ts image) = some .libreboot := by
  obtain ⟨rom, hrom, hsame⟩ := h.sameOutsideCopy
  rw [seen_of_mirrored h.two_blocks h.mirrored]
  exact board.rom_comesUp rom image hrom h.length hsame

/-- **Below the last block of the vendor, it comes up exactly if the bit is set.** -/
theorem Built.comesUp_seen_half (h : board.Built image) (ts : Bool) :
    board.comesUp (seen blockSize ts (board.half image))
      = if ts then some .libreboot else none := by
  obtain ⟨rom, hrom, hsame⟩ := h.sameOutsideCopy
  have hvendor : 2 * blockSize ≤ board.vendor.length := vendor_two_blocks
  have hlen : (board.half image).length = board.size := h.length_half
  cases ts with
  | false =>
    refine board.vendor_top rom (board.half image) hrom hlen ?_ top_half
    rw [half, rest_withTop h.two_blocks hvendor, hsame.rest]
  | true =>
    -- the processor sees the copy at the end, and the vendor's block in the place of the copy
    have hseen := (sameOutsideCopy_swap_withTop_iff h.two_blocks hvendor).mpr h.mirrored
    refine board.rom_comesUp rom _ hrom ?_ ⟨hseen.rest.trans hsame.rest, hseen.top.trans hsame.top⟩
    show (swap blockSize (board.half image)).length = board.size
    rw [length_swap (by rw [hlen]; exact board.two_blocks), hlen]

/-- What comes up is decided by what is on the chip and by the bit. -/
theorem OnChip.comesUp_cases {chip : Bytes} (h : board.OnChip chip) (ts : Bool) :
    (chip = board.vendor ∧ board.comesUp (seen blockSize ts chip)
        = if ts then none else some .vendor)
      ∨ ((∃ image, board.Built image ∧ chip = board.half image)
        ∧ board.comesUp (seen blockSize ts chip) = if ts then some .libreboot else none)
      ∨ (board.Built chip ∧ board.comesUp (seen blockSize ts chip) = some .libreboot) := by
  rcases h with hvendor | ⟨image, himage, hhalf⟩ | hbuilt
  · refine .inl ⟨hvendor, ?_⟩
    rw [hvendor]
    exact comesUp_seen_vendor ts
  · refine .inr (.inl ⟨⟨image, himage, hhalf⟩, ?_⟩)
    rw [hhalf]
    exact himage.comesUp_seen_half ts
  · exact .inr (.inr ⟨hbuilt, hbuilt.comesUp_seen ts⟩)

/-! ## Every step keeps the invariant -/

theorem inv_delivered : board.Inv board.delivered where
  chip := .inl rfl
  protected_top _ := rfl
  bricked h := nomatch h

theorem inv_boot (h : board.OnChip m.chip) : board.Inv (board.boot m) where
  chip := h
  protected_top hrunning := by
    rcases h.comesUp_cases m.ts with ⟨hchip, -⟩ | ⟨-, hup⟩ | ⟨-, hup⟩
    · exact congrArg _ hchip
    · rw [boot, hup] at hrunning
      cases hts : m.ts <;> rw [hts] at hrunning <;> cases hrunning
    · rw [boot, hup] at hrunning
      cases hrunning
  bricked hrunning := by
    rcases h.comesUp_cases m.ts with ⟨hchip, hup⟩ | ⟨hchip, hup⟩ | ⟨-, hup⟩
    · rw [boot, hup] at hrunning
      cases hts : m.ts with
      | false => rw [hts] at hrunning; cases hrunning
      | true => exact .inl ⟨hchip, hts⟩
    · rw [boot, hup] at hrunning
      cases hts : m.ts with
      | false => exact .inr ⟨hchip, hts⟩
      | true => rw [hts] at hrunning; cases hrunning
    · rw [boot, hup] at hrunning
      cases hrunning

/-- Under the vendor's firmware a built image comes below the vendor's last block. -/
theorem Inv.written (h : board.Inv m) (image : Bytes) (hup : m.running ≠ none) :
    (m.running = some .vendor ∧ m.written image = board.half image)
      ∨ (m.running = some .libreboot ∧ m.written image = image) := by
  unfold Machine.written
  cases hrunning : m.running with
  | none => exact absurd hrunning hup
  | some firmware =>
    cases firmware with
    | vendor =>
      refine .inl ⟨rfl, ?_⟩
      rw [if_pos rfl, half, withTop, withTop, h.protected_top hrunning]
    | libreboot => exact .inr ⟨rfl, if_neg (by decide)⟩

theorem Inv.written_of_vendor (h : board.Inv m) (hrunning : m.running = some .vendor)
    (image : Bytes) : m.written image = board.half image := by
  rcases h.written image (by rw [hrunning]; exact Option.some_ne_none _) with
    ⟨-, hhalf⟩ | ⟨hlibreboot, -⟩
  · exact hhalf
  · rw [hrunning] at hlibreboot
    cases hlibreboot

/-- The images that a call writes. -/
def Writes (board : Board) (host : Host) : Call → Prop
  | .bucts _ => True
  | .write _ _ rompath => ∀ image, host.files rompath = some image → image.length = board.size →
      board.Built image

/-- What a call does. -/
theorem exec_cases {host : Host} {tools : Tools} {call : Call} (h : board.Inv m)
    (hcall : board.Writes host call) :
    Call.exec host tools m call = m
      ∨ (∃ ts, call = .bucts ts ∧ tools.bucts m = true
        ∧ Call.exec host tools m call = { m with ts := ts })
      ∨ ∃ tool programmer rompath image, call = .write tool programmer rompath
        ∧ tools.flashrom tool programmer m = true ∧ host.files rompath = some image
        ∧ board.Built image ∧ Call.exec host tools m call = { m with chip := m.written image } := by
  cases call with
  | bucts ts =>
    by_cases hbucts : tools.bucts m = true
    · exact .inr (.inl ⟨ts, rfl, hbucts, if_pos hbucts⟩)
    · exact .inl (if_neg hbucts)
  | write tool programmer rompath =>
    simp only [Call.exec]
    cases himage : host.files rompath with
    | none => exact .inl rfl
    | some image =>
      by_cases hflash : image.length = m.chip.length ∧ tools.flashrom tool programmer m
      · refine .inr (.inr ⟨tool, programmer, rompath, image, rfl, hflash.2, himage, ?_, ?_⟩)
        · exact hcall image himage (hflash.1.trans h.chip.length)
        · simp only [if_pos hflash]
      · exact .inl (by simp only [if_neg hflash])

theorem inv_exec {host : Host} (tools : Tools) {call : Call} (h : board.Inv m)
    (hup : m.running ≠ none) (hcall : board.Writes host call) :
    board.Inv (Call.exec host tools m call)
      ∧ (Call.exec host tools m call).running = m.running := by
  rcases exec_cases h hcall with
    hexec | ⟨ts, -, -, hexec⟩ | ⟨tool, programmer, rompath, image, -, -, -, himage, hexec⟩
  · rw [hexec]
    exact ⟨h, rfl⟩
  · rw [hexec]
    exact ⟨⟨h.chip, h.protected_top, fun hnone => absurd hnone hup⟩, rfl⟩
  · rw [hexec]
    refine ⟨⟨?_, fun hvendor => ?_, fun hnone => absurd hnone hup⟩, rfl⟩
    · rcases h.written image hup with ⟨-, hhalf⟩ | ⟨-, hwhole⟩
      · exact .inr (.inl ⟨image, himage, hhalf⟩)
      · exact .inr (.inr (by
        show board.Built (m.written image)
        rw [hwhole]
        exact himage))
    · rcases h.written image hup with ⟨-, hhalf⟩ | ⟨hlibreboot, -⟩
      · exact (congrArg _ hhalf).trans top_half
      · rw [hlibreboot] at hvendor
        cases hvendor

theorem inv_execAll {host : Host} {tools : Tools} : ∀ {calls : List Call} {m : Machine},
    board.Inv m → m.running ≠ none → (∀ call ∈ calls, board.Writes host call) →
      board.Inv (execAll host tools calls m) ∧ (execAll host tools calls m).running = m.running
  | [], _, h, _, _ => ⟨h, rfl⟩
  | call :: calls, m, h, hup, hcalls => by
    obtain ⟨hinv, hrunning⟩ := inv_exec tools h hup (hcalls call List.mem_cons_self)
    obtain ⟨hall, hsame⟩ := inv_execAll hinv (by rw [hrunning]; exact hup)
      fun c hc => hcalls c (List.mem_cons_of_mem _ hc)
    exact ⟨hall, hsame.trans hrunning⟩

/-! ## Runs -/

/-- A run of the script writes no file but its second argument. -/
theorem writes_of_flash {host : Host} {tools : Tools} {args : List String} {calls : List Call}
    (hflashes : board.Flashes (.flash host tools args)) (hcalls : Flash.flash host args = .ok calls) :
    ∀ call ∈ calls, board.Writes host call := by
  obtain ⟨-, -, mode, rompath, rest, -, rfl, -, -, rfl⟩ := flash_eq_ok hcalls
  intro call hcall
  rcases mode.mem_calls hcall with ⟨ts, rfl⟩ | ⟨tool, programmer, rfl⟩
  · trivial
  · exact fun image hfile hsize => hflashes rompath image rfl hfile hsize

section Step

variable {host : Host} {tools : Tools} {args : List String}

/-- Nothing can be flashed from a machine that is not up. -/
theorem step_of_none (hnone : m.running = none) :
    board.step m (.flash host tools args) = m := if_pos hnone

theorem step_flash (hup : m.running ≠ none) :
    board.step m (.flash host tools args) = match Flash.flash host args with
      | .error _ => m
      | .ok calls => execAll host tools calls m := if_neg hup

end Step

/-- **Every step keeps the invariant.** -/
theorem inv_step {action : Action} (h : board.Inv m) (hflashes : board.Flashes action) :
    board.Inv (board.step m action) := by
  cases action with
  | flash host tools args =>
    by_cases hup : m.running = none
    · rw [step_of_none hup]
      exact h
    · rw [step_flash hup]
      cases hcalls : Flash.flash host args with
      | error _ => exact h
      | ok calls => exact (inv_execAll h hup (writes_of_flash hflashes hcalls)).1
  | shutDown => exact inv_boot h.chip
  | removeBattery =>
    have hchip : board.OnChip { m with ts := false }.chip := h.chip
    exact inv_boot hchip

theorem run_cons (m : Machine) (action : Action) (actions : List Action) :
    board.run m (action :: actions) = board.run (board.step m action) actions := rfl

/-- **So every run does.** -/
theorem inv_run : ∀ {actions : List Action} {m : Machine}, board.Inv m →
    (∀ action ∈ actions, board.Flashes action) → board.Inv (board.run m actions)
  | [], _, h, _ => h
  | action :: actions, m, h, hflashes => by
    have hstep := inv_step h (hflashes action List.mem_cons_self)
    rw [run_cons]
    exact inv_run hstep fun a ha => hflashes a (List.mem_cons_of_mem _ ha)

theorem run_append (m : Machine) (actions later : List Action) :
    board.run m (actions ++ later) = board.run (board.run m actions) later := List.foldl_append

/-- **When the machine comes up,** by what is on the chip. -/
theorem OnChip.boot_isSome_iff (h : board.OnChip m.chip) :
    (board.boot m).running ≠ none ↔
      (m.chip = board.vendor ∧ m.ts = false)
        ∨ ((∃ image, board.Built image ∧ m.chip = board.half image) ∧ m.ts = true)
        ∨ board.Built m.chip := by
  constructor
  · intro hup
    rcases h.comesUp_cases m.ts with ⟨hchip, hseen⟩ | ⟨hchip, hseen⟩ | ⟨hbuilt, -⟩
    · cases hts : m.ts with
      | false => exact .inl ⟨hchip, rfl⟩
      | true =>
        rw [hts] at hseen
        rw [boot, hts] at hup
        exact absurd hseen hup
    · cases hts : m.ts with
      | false =>
        rw [hts] at hseen
        rw [boot, hts] at hup
        exact absurd hseen hup
      | true => exact .inr (.inl ⟨hchip, rfl⟩)
    · exact .inr (.inr hbuilt)
  · unfold boot
    rintro (⟨hchip, hts⟩ | ⟨⟨image, himage, hchip⟩, hts⟩ | hbuilt)
    · rw [hchip, hts, comesUp_seen_vendor]
      exact Option.some_ne_none _
    · rw [hchip, hts, himage.comesUp_seen_half]
      exact Option.some_ne_none _
    · rw [hbuilt.comesUp_seen]
      exact Option.some_ne_none _

/-! ## The images of the build -/

/-- The script is run with images from a directory. -/
def FlashesFrom (roms : List String) (files : Files) : Action → Prop
  | .flash host _ args => ∀ rompath, args[1]? = some rompath →
      ∃ rom ∈ roms, host.files rompath = files rom
  | _ => True

/-- **What `withgrub` has mirrored can be flashed.** -/
theorem flashes_of_mirrors {roms : List String} {files files' : Files} {action : Action}
    (hmirrors : Roms.Mirrors roms files files')
    (hroms : ∀ rom ∈ roms, ∀ image, files rom = some image → board.IsRom image)
    (haction : FlashesFrom roms files' action) : board.Flashes action := by
  cases action with
  | flash host tools args =>
    intro rompath image hrompath hfile _
    obtain ⟨rom, hrom, hsame⟩ := haction rompath hrompath
    obtain ⟨old, hold, -, hnew⟩ := hmirrors.image rom hrom
    rw [hsame, hnew] at hfile
    exact ⟨old, hroms rom hrom old hold, (Option.some.inj hfile).symm⟩
  | shutDown => trivial
  | removeBattery => trivial

end Board

/-! ## An example of a board -/

/-- A block with the same byte everywhere. -/
def block (b : Byte) : Bytes := List.replicate blockSize b

theorem length_block (b : Byte) : (block b).length = blockSize := List.length_replicate

theorem block_ne {a b : Byte} (h : a ≠ b) : block a ≠ block b := by
  intro heq
  have hpos : blockSize ≠ 0 := by decide
  rcases List.replicate_inj.mp heq with ⟨-, hzero | hsame⟩
  · exact hpos hzero
  · exact h hsame

/-- An image of three blocks. -/
def threeBlocks (a b c : Byte) : Bytes := block a ++ block b ++ block c

section ThreeBlocks

variable (a b c : Byte)

theorem rest_threeBlocks : rest blockSize (threeBlocks a b c) = block a :=
  rest_append (length_block b) (length_block c)

theorem below_threeBlocks : below blockSize (threeBlocks a b c) = block b :=
  below_append (length_block b) (length_block c)

theorem top_threeBlocks : top blockSize (threeBlocks a b c) = block c :=
  top_append (length_block c)

theorem length_threeBlocks : (threeBlocks a b c).length = 3 * blockSize := by
  simp only [threeBlocks, List.length_append, length_block]
  omega

end ThreeBlocks

/-- A board with three blocks of flash and one image. -/
def sampleBoard : Board where
  size := 3 * blockSize
  vendor := threeBlocks 0 1 2
  IsRom rom := rom = threeBlocks 3 4 5
  comesUp image :=
    if image = threeBlocks 0 1 2 then some .vendor
    else if rest blockSize image = block 3 ∧ top blockSize image = block 5 then some .libreboot
    else none
  two_blocks := by omega
  length_vendor := length_threeBlocks 0 1 2
  length_rom := by
    intro rom hrom
    rw [hrom, length_threeBlocks]
  vendor_comesUp := if_pos rfl
  rom_comesUp := by
    intro rom image hrom _ hsame
    have hrest : rest blockSize image = block 3 := by rw [hsame.rest, hrom, rest_threeBlocks]
    have htop : top blockSize image = block 5 := by rw [hsame.top, hrom, top_threeBlocks]
    have hne : image ≠ threeBlocks 0 1 2 := by
      intro heq
      rw [heq, rest_threeBlocks] at hrest
      exact block_ne (by decide) hrest
    rw [if_neg hne, if_pos ⟨hrest, htop⟩]
  swapped_vendor := by
    have hswap : swap blockSize (threeBlocks 0 1 2) = threeBlocks 0 2 1 := by
      rw [swap, rest_threeBlocks, top_threeBlocks, below_threeBlocks, threeBlocks]
    have hne : threeBlocks 0 2 1 ≠ threeBlocks 0 1 2 := by
      intro heq
      have htop := congrArg (top blockSize) heq
      rw [top_threeBlocks, top_threeBlocks] at htop
      exact block_ne (by decide) htop
    rw [hswap, if_neg hne, rest_threeBlocks, if_neg fun h => block_ne (by decide) h.1]
  vendor_top := by
    intro rom image hrom _ hrest htop
    rw [hrom, rest_threeBlocks] at hrest
    rw [top_threeBlocks] at htop
    have hne : image ≠ threeBlocks 0 1 2 := by
      intro heq
      rw [heq, rest_threeBlocks] at hrest
      exact block_ne (by decide) hrest
    rw [if_neg hne, htop, if_neg fun h => block_ne (by decide) h.2]

/-- A host with everything in place. -/
def sampleHost : Host where
  euid := 0
  unameI := "unknown"
  unameM := "x86_64"
  files _ := some (mirror blockSize (threeBlocks 3 4 5))

/-- All calls take effect. -/
def sampleTools : Tools := ⟨fun _ => true, fun _ _ _ => true⟩

/-- flashrom does not find the chip. -/
def sampleBuctsOnly : Tools := ⟨fun _ => true, fun _ _ _ => false⟩

theorem sampleBoard_built : sampleBoard.Built (mirror blockSize (threeBlocks 3 4 5)) :=
  ⟨_, rfl, rfl⟩

theorem sampleBoard_flashes (tools : Tools) (args : List String) :
    sampleBoard.Flashes (.flash sampleHost tools args) := by
  intro rompath image _ hfile _
  obtain rfl := Option.some.inj hfile
  exact sampleBoard_built

theorem flash_sampleHost (mode : Mode) (rompath : String) :
    flash sampleHost [mode.text, rompath] = .ok (mode.calls rompath) := by
  have harch : sampleHost.arch = some "x86_64" := by decide
  refine flash_of_ready rfl harch rfl ?_
  cases mode <;> rfl

end Libreboot.Flash
