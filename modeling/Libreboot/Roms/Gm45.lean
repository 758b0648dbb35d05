import Libreboot.Ich9gen.Rebuild
import Libreboot.Infra.FileNames
import Libreboot.Roms.BuctsTrick

/-!
# Descriptor and GbE region in the GM45 images

The loop of `helpers/build/roms/withgrub` over the GM45 boards. In each directory ich9gen is run, with
the MAC address of the file `gm45macaddress` if there is one, and the 12 KiB that fit the size of the
flash chip are put over the beginning of each image.

What `*.rom` stands for and the words of `gm45macaddress` are arguments.

* `insertRegions_onEntries` — what a round does to an image
* `fillDirectory_eq_ok_iff`, `filled_of_eq_ok` — when a directory is filled, and what becomes of it
* `gm45_eq_ok` — all directories
-/

namespace Libreboot.Roms

open Infra Script

/-! ## The loop -/

/-- What ich9gen is called with: `--macaddress $(cat ../../../gm45macaddress)`, or nothing. -/
def ich9genArgv (gm45macaddress : Option (List CString)) : List CString :=
  Ich9gen.programName ::
    match gm45macaddress with
    | none => []
    | some words => Ich9gen.macaddressOption :: words

/-- A program ends the script unless it returns 0. -/
def program (main : CFun) : Command Files := fun files =>
  let result := main ⟨files, []⟩
  if result.1 = some 0 then .ok result.2.files else .error result.2.files

/-- `dd if="ich9fdgbe_${romsize}.bin" of="${rom}" bs=1 count=12k conv=notrunc` -/
def insertRegions (ich9fdgbe rom : String) : Command Files := fun files =>
  match files ich9fdgbe with
  | none => .error files
  | some regions =>
    .ok (Function.update files rom
      (some (Dd.write 0 (Dd.read 1 0 0x3000 regions) ((files rom).getD []))))

/-- `"ich9fd"*.bin "mk"*.[ch]` -/
def isLeftover (name : String) : Bool :=
  glob "ich9fd" ".bin" name || glob "mk" ".c" name || glob "mk" ".h" name

/-- `rm -f "ich9fd"*.bin "mk"*.[ch]` -/
def removeLeftovers : Command Files := fun files =>
  .ok fun name => if isLeftover name then none else files name

inductive RomSize
  | m4
  | m8
  deriving DecidableEq

namespace RomSize

def text : RomSize → String
  | m4 => "4m"
  | m8 => "8m"

/-- The number of bytes. -/
def bytes : RomSize → Nat
  | m4 => ROMSIZE_4MB
  | m8 => ROMSIZE_8MB

/-- `ich9fdgbe_${romsize}.bin` -/
def ich9fdgbe (romsize : RomSize) : String := "ich9fdgbe_" ++ romsize.text ++ ".bin"

end RomSize

/-- `${board}_${romsize}b/` -/
structure Gm45Directory where
  board : String
  romsize : RomSize
  deriving DecidableEq

def Gm45Directory.name (d : Gm45Directory) : String := d.board ++ "_" ++ d.romsize.text ++ "b"

/-- The body of the loop, with what `*.rom` stands for. -/
def fillDirectory (lib : CLib) (gm45macaddress : Option (List CString)) (roms : List String)
    (romsize : RomSize) : Command Files :=
  both (program (Ich9gen.main lib (ich9genArgv gm45macaddress))) <|
  both (forEach (insertRegions romsize.ich9fdgbe) roms) removeLeftovers

def gm45Boards : List String := ["x200", "r400", "t400", "t500"]

def romsizes : List RomSize := [.m4, .m8]

/-- `for board in "x200" "r400" "t400" "t500"` and `for romsize in "4m" "8m"` -/
def gm45 (lib : CLib) (gm45macaddress : Option (List CString)) (star : String → List String) :
    Command Bin :=
  forEach (fun board => forEach (fun d : Gm45Directory =>
    onEntry d.name (ifPresent (fillDirectory lib gm45macaddress (star d.name) d.romsize)))
      (romsizes.map (⟨board, ·⟩))) gm45Boards

/-- All directories that the loop looks for. -/
def gm45Directories : List Gm45Directory := gm45Boards.flatMap fun board => romsizes.map (⟨board, ·⟩)

theorem gm45_eq (lib : CLib) (gm45macaddress : Option (List CString)) (star : String → List String)
    (bin : Bin) :
    gm45 lib gm45macaddress star bin
      = forEach (fun d : Gm45Directory => onEntry d.name
          (ifPresent (fillDirectory lib gm45macaddress (star d.name) d.romsize)))
        gm45Directories bin :=
  forEach_flatMap _ _

theorem nodup_gm45Directories : (gm45Directories.map Gm45Directory.name).Nodup := by decide

/-! ## The names -/

/-- A name that ends with `.rom`, as the names that `*.rom` stands for do. -/
def IsRom (name : String) : Prop := ".rom".toList.isSuffixOf name.toList = true

theorem getLast?_of_suffix {back l : List Char} (hback : back ≠ [])
    (h : back.isSuffixOf l = true) : l.getLast? = back.getLast? := by
  obtain ⟨front, rfl⟩ := List.isSuffixOf_iff_suffix.mp h
  rw [List.getLast?_append]
  cases hlast : back.getLast? with
  | none => exact absurd (List.getLast?_eq_none_iff.mp hlast) hback
  | some c => rfl

theorem IsRom.getLast? {name : String} (h : IsRom name) : name.toList.getLast? = some 'm' :=
  getLast?_of_suffix (by decide) h

/-- The images are not removed. -/
theorem IsRom.not_leftover {name : String} (h : IsRom name) : isLeftover name = false := by
  have hlast := h.getLast?
  have hglob : ∀ front back : String, back.toList ≠ [] → back.toList.getLast? ≠ some 'm' →
      glob front back name = false := by
    intro front back hne hm
    rw [glob, Bool.and_eq_false_iff]
    refine .inr (Bool.eq_false_iff.mpr fun hsuffix => hm ?_)
    rw [← getLast?_of_suffix hne hsuffix, hlast]
  rw [isLeftover, hglob _ ".bin" (by decide) (by decide), hglob _ ".c" (by decide) (by decide),
    hglob _ ".h" (by decide) (by decide)]
  rfl

theorem isLeftover_ich9fdgbe (romsize : RomSize) : isLeftover romsize.ich9fdgbe = true := by
  cases romsize <;> decide

/-- Everything that ich9gen writes is removed. -/
theorem isLeftover_output : ∀ name ∈ Ich9gen.gbeImageNames ++ Ich9gen.noGbeImageNames
    ++ ["mkgbe.h", "mkgbe.c"], isLeftover name = true := by decide

/-! ## ich9gen -/

section Ich9gen

open Ich9gen

variable {lib : CLib} {argv : List CString}

/-- ich9gen touches nothing that is not removed afterwards. -/
theorem ich9gen_preserves (lib : CLib) (argv : List CString) {name : String}
    (h : isLeftover name = false) : (Ich9gen.main lib argv).Preserves name := by
  have hnot : name ∉ gbeImageNames ++ noGbeImageNames ++ ["mkgbe.h", "mkgbe.c"] := by
    intro hmem
    rw [isLeftover_output name hmem] at h
    cases h
  rw [List.mem_append, not_or, List.mem_cons, not_or, List.mem_singleton] at hnot
  obtain ⟨himages, hheader, hsource⟩ := hnot
  intro w
  cases harg : macArgument argv with
  | none =>
    rw [main_of_shipped lib w harg]
    exact createImages_preserves _ himages w
  | some argument =>
    by_cases haccepted : Accepted argument
    · obtain ⟨macAddress, -, hmain⟩ := main_of_accepted lib w harg haccepted
      rw [hmain]
      have himages :
          (createImages lib (withMacAddress generatedGbeStruct8k macAddress)).Preserves name :=
        createImages_preserves _ himages
      exact CFun.Preserves.orReturn1 (writeTextFile_preserves _ _ _ hheader)
        (CFun.Preserves.orReturn1 (writeTextFile_preserves _ _ _ hsource) (himages.printf _)) w
    · rw [(main_of_not_accepted lib w harg haccepted).2]

/-- Descriptor and GbE region, as the arguments ask for them. -/
def Regions (romsize : RomSize) (argv : List CString) (regions : Bytes) : Prop :=
  ∃ g, Selected argv g ∧ regions = (descriptorStruct romsize.bytes WITHGBE).toBytes ++ g.toBytes

theorem selected_unique {g g' : GbeRegionRecord8k} (h : Selected argv g) (h' : Selected argv g') :
    g = g' := by
  cases h with
  | shipped hnone =>
    cases h' with
    | shipped => rfl
    | given hsome => rw [hnone] at hsome; cases hsome
  | given hsome _ hmac =>
    cases h' with
    | shipped hnone => rw [hnone] at hsome; cases hsome
    | given hsome' _ hmac' =>
      obtain rfl := Option.some.inj (hsome.symm.trans hsome')
      obtain rfl := Option.some.inj (hmac.symm.trans hmac')
      rfl

/-- Only the arguments decide what the regions are. -/
theorem Regions.unique {romsize : RomSize} {regions regions' : Bytes}
    (h : Regions romsize argv regions) (h' : Regions romsize argv regions') :
    regions = regions' := by
  obtain ⟨g, hg, rfl⟩ := h
  obtain ⟨g', hg', rfl⟩ := h'
  rw [selected_unique hg hg']

theorem Regions.gbeImage {romsize : RomSize} {regions : Bytes} (h : Regions romsize argv regions) :
    GbeImage romsize.bytes (macArgument argv) regions := by
  obtain ⟨g, hg, rfl⟩ := h
  cases romsize with
  | m4 => exact gbeImage_append (.inl rfl) hg
  | m8 => exact gbeImage_append (.inr rfl) hg

/-- What ich9gen leaves for a size of the flash chip. -/
theorem ich9gen_delivers (hlib : ∀ name, (lib name).NoSilentLoss) {w : World}
    (h : (Ich9gen.main lib argv w).1 = some 0) (romsize : RomSize) :
    ∃ regions, (Ich9gen.main lib argv w).2.files romsize.ich9fdgbe = some regions
      ∧ Regions romsize argv regions := by
  obtain ⟨g, w₁, hg, hmain⟩ := main_eq_zero h
  obtain ⟨hgbe4, hgbe8, -, -⟩ := createImages_delivers hlib g
  rw [hmain] at h ⊢
  cases romsize with
  | m4 =>
    have hname : RomSize.ich9fdgbe .m4 = "ich9fdgbe_4m.bin" := by decide
    rw [hname]
    exact ⟨_, hgbe4 w₁ h, g, hg, rfl⟩
  | m8 =>
    have hname : RomSize.ich9fdgbe .m8 = "ich9fdgbe_8m.bin" := by decide
    rw [hname]
    exact ⟨_, hgbe8 w₁ h, g, hg, rfl⟩

end Ich9gen

theorem program_eq_ok {main : CFun} {files files' : Files} :
    program main files = .ok files' ↔
      (main ⟨files, []⟩).1 = some 0 ∧ (main ⟨files, []⟩).2.files = files' := by
  unfold program
  by_cases hzero : (main ⟨files, []⟩).1 = some 0
  · simp [hzero]
  · simp [hzero]

/-! ## One image -/

/-- What a round makes of an image. A missing one is created. -/
def insertBytes (regions : Bytes) : Command (Option Bytes) := fun file =>
  .ok (some (regions ++ (file.getD []).drop 0x3000))

theorem insertBytes_again {regions : Bytes} (hlen : regions.length = 0x3000) {u v : Option Bytes}
    (h : insertBytes regions u = .ok v) : insertBytes regions v = .ok v := by
  obtain rfl := Except.ok.inj h
  rw [insertBytes, Option.getD_some, List.drop_left' hlen]

/-- **A round puts the 12 KiB over the beginning of its image.** -/
theorem insertRegions_onEntries {regions : Bytes} (hlen : regions.length = 0x3000)
    (ich9fdgbe : String) :
    OnEntries (fun name => name = ich9fdgbe) (fun files => files ich9fdgbe = some regions)
      (fun _ => insertBytes regions) (insertRegions ich9fdgbe) where
  goes_on rom files v hname hkept hok := by
    obtain rfl := Except.ok.inj hok
    have hread : Dd.read 1 0 0x3000 regions = regions := by
      rw [Dd.read, Nat.zero_mul, List.drop_zero, List.take_of_length_le (by omega)]
    have hbody : insertRegions ich9fdgbe rom files = .ok (Function.update files rom
        (some (regions ++ ((files rom).getD []).drop 0x3000))) := by
      unfold insertRegions
      rw [hkept]
      simp only [hread, Dd.write_zero, hlen]
    refine ⟨_, hbody, ?_, Function.update_self _ _ _, fun y _ hne => Function.update_of_ne hne _ _⟩
    show Function.update files rom _ ich9fdgbe = some regions
    rw [Function.update_of_ne (Ne.symm hname), hkept]
  ends rom files v _ _ herror := nomatch herror

/-! ## A directory -/

/--
An image before and after: the regions at the beginning, and the rest as it was. If the image is as
large as the flash chip, the rest is the BIOS region of the descriptor.
-/
structure Gm45Rom (romsize : RomSize) (argv : List CString) (old new : Bytes) : Prop where
  regions : Regions romsize argv (new.take 0x3000)
  gbe : Ich9gen.GbeImage romsize.bytes (Ich9gen.macArgument argv) (new.take 0x3000)
  behind : new.drop 0x3000 = old.drop 0x3000
  length : new.length = max 0x3000 old.length
  bios : old.length = romsize.bytes →
    (DescriptorRegionRecord.ofBytes new).regionSection.flReg1.region = Set.Ico 0x3000 new.length

/-- What becomes of the files of a directory. -/
structure Filled (romsize : RomSize) (argv : List CString) (roms : List String)
    (files files' : Files) : Prop where
  rom : ∀ rom ∈ roms, ∃ new, files' rom = some new
    ∧ Gm45Rom romsize argv ((files rom).getD []) new
  leftover : ∀ name, isLeftover name = true → files' name = none
  other : ∀ name, isLeftover name = false → name ∉ roms → files' name = files name

theorem shippedSize_bytes (romsize : RomSize) : Ich9gen.ShippedSize romsize.bytes := by
  cases romsize with
  | m4 => exact .inl rfl
  | m8 => exact .inr rfl

/-- The descriptor announces the size that it was made for. -/
theorem capacity_eq (romsize : RomSize) :
    2 ^ (19 + (Ich9gen.descriptorStruct romsize.bytes
      Ich9gen.WITHGBE).componentSection.flcomp.component1Density.toNat) = romsize.bytes := by
  show 2 ^ (19 + ((componentDensity (BitVec.ofNat 32 romsize.bytes)).setWidth 3).toNat)
    = romsize.bytes
  cases romsize <;> decide

/-- **An image under the regions of ich9gen.** -/
theorem gm45Rom_append {romsize : RomSize} {argv : List CString} {regions : Bytes}
    (hregions : Regions romsize argv regions) (old : Bytes) :
    Gm45Rom romsize argv old (regions ++ old.drop 0x3000) := by
  have h := hregions.gbeImage
  have hlen : regions.length = 0x3000 := h.length
  have hlength : (regions ++ old.drop 0x3000).length = max 0x3000 old.length := by
    rw [List.length_append, List.length_drop, hlen]
    omega
  refine ⟨by rw [List.take_left' hlen]; exact hregions, by rw [List.take_left' hlen]; exact h,
    by rw [List.drop_left' hlen], hlength, ?_⟩
  intro hsize
  -- the descriptor lies at the very beginning
  have hsplit : regions ++ old.drop 0x3000 = (Ich9gen.descriptorStruct romsize.bytes
      Ich9gen.WITHGBE).toBytes ++ (regions.drop 4096 ++ old.drop 0x3000) := by
    rw [← List.append_assoc, ← h.descriptor, List.take_append_drop]
  have hchip : 0x3000 ≤ romsize.bytes := by cases romsize <;> decide
  rw [hlength, hsize, Nat.max_eq_right hchip, hsplit,
    DescriptorRegionRecord.ofBytes_toBytes_append,
    Ich9gen.bios_descriptorStruct (shippedSize_bytes romsize), capacity_eq]
  rfl

section Directory

variable {lib : CLib} {mac : Option (List CString)} {roms : List String} {romsize : RomSize}
  {files files' : Files}

/-- A directory is filled exactly if ich9gen returns 0. -/
theorem fillDirectory_eq_ok_iff (hlib : ∀ name, (lib name).NoSilentLoss)
    (hroms : ∀ rom ∈ roms, IsRom rom) :
    (∃ files', fillDirectory lib mac roms romsize files = .ok files') ↔
      (Ich9gen.main lib (ich9genArgv mac) ⟨files, []⟩).1 = some 0 := by
  constructor
  · rintro ⟨files', h⟩
    obtain ⟨mid, hprogram, -⟩ := both_eq_ok.mp h
    exact (program_eq_ok.mp hprogram).1
  · intro hzero
    obtain ⟨regions, hregions, hright⟩ := ich9gen_delivers hlib hzero romsize
    have himage := hright.gbeImage
    have hnot : ∀ rom ∈ roms, rom ≠ romsize.ich9fdgbe := by
      intro rom hrom heq
      have hleftover := isLeftover_ich9fdgbe romsize
      rw [← heq, (hroms rom hrom).not_leftover] at hleftover
      cases hleftover
    obtain ⟨mid, hloop, -⟩ := (insertRegions_onEntries himage.length romsize.ich9fdgbe).forEach_ok
      (.inr fun _ _ _ h => insertBytes_again himage.length h) hnot hregions
      (fun _ _ => ⟨_, rfl⟩)
    exact ⟨_, both_eq_ok.mpr ⟨_, program_eq_ok.mpr ⟨hzero, rfl⟩, both_eq_ok.mpr ⟨mid, hloop, rfl⟩⟩⟩

/-- **Then every image has its regions,** and ich9gen leaves no trace. -/
theorem filled_of_eq_ok (hlib : ∀ name, (lib name).NoSilentLoss)
    (hroms : ∀ rom ∈ roms, IsRom rom) (h : fillDirectory lib mac roms romsize files = .ok files') :
    Filled romsize (ich9genArgv mac) roms files files' := by
  obtain ⟨start, hprogram, hrest⟩ := both_eq_ok.mp h
  obtain ⟨mid, hloop, hremove⟩ := both_eq_ok.mp hrest
  obtain ⟨hzero, hstart⟩ := program_eq_ok.mp hprogram
  obtain rfl := Except.ok.inj hremove
  obtain ⟨regions, hregions, hright⟩ := ich9gen_delivers hlib hzero romsize
  have himage := hright.gbeImage
  rw [hstart] at hregions
  have hkeeps : ∀ name, isLeftover name = false → start name = files name := by
    intro name hname
    rw [← hstart]
    exact ich9gen_preserves lib _ hname ⟨files, []⟩
  have hnot : ∀ name, isLeftover name = false → name ≠ romsize.ich9fdgbe := by
    intro name hname heq
    rw [heq, isLeftover_ich9fdgbe] at hname
    cases hname
  obtain ⟨mid', hloop', -, hwritten, hframe⟩ :=
    (insertRegions_onEntries himage.length romsize.ich9fdgbe).forEach_ok
      (.inr fun _ _ _ h => insertBytes_again himage.length h)
      (fun rom hrom => hnot rom (hroms rom hrom).not_leftover) hregions (fun _ _ => ⟨_, rfl⟩)
  obtain rfl := Except.ok.inj (hloop.symm.trans hloop')
  refine ⟨fun rom hrom => ?_, fun name hname => if_pos hname, fun name hname hmem => ?_⟩
  · have hleftover := (hroms rom hrom).not_leftover
    refine ⟨regions ++ ((files rom).getD []).drop 0x3000, ?_, gm45Rom_append hright _⟩
    have hnew := Except.ok.inj (hwritten rom hrom)
    rw [hkeeps rom hleftover] at hnew
    rw [hleftover, if_neg (by decide), ← hnew]
  · rw [hname, if_neg (by decide), hframe name (hnot name hname) hmem, hkeeps name hname]

/-- **The images depend on nothing but the last MAC address** and what lies behind the regions. -/
theorem Filled.again {argv argv' : List CString} {files₁ files₂ files₂' : Files}
    (hfirst : Filled romsize argv roms files files₁)
    (hsecond : Filled romsize argv' roms files₁ files₂)
    (hdirect : Filled romsize argv' roms files files₂') : files₂ = files₂' := by
  funext name
  cases hname : isLeftover name with
  | true => rw [hsecond.leftover name hname, hdirect.leftover name hname]
  | false =>
    by_cases hmem : name ∈ roms
    · obtain ⟨new₁, hnew₁, hrom₁⟩ := hfirst.rom name hmem
      obtain ⟨new₂, hnew₂, hrom₂⟩ := hsecond.rom name hmem
      obtain ⟨new₂', hnew₂', hrom₂'⟩ := hdirect.rom name hmem
      rw [hnew₁, Option.getD_some] at hrom₂
      have hbehind : new₂.drop 0x3000 = new₂'.drop 0x3000 := by
        rw [hrom₂.behind, hrom₁.behind, hrom₂'.behind]
      rw [hnew₂, hnew₂', ← List.take_append_drop 0x3000 new₂, hbehind,
        hrom₂.regions.unique hrom₂'.regions, List.take_append_drop]
    · rw [hsecond.other name hname hmem, hfirst.other name hname hmem,
        hdirect.other name hname hmem]

end Directory

/-! ## All directories -/

section Bin

variable {lib lib' : CLib} {mac mac' : Option (List CString)} {star : String → List String}
  {bin bin' : Bin}

/-- What becomes of the directories of `bin/grub`. -/
structure Gm45Filled (mac : Option (List CString)) (star : String → List String)
    (bin bin' : Bin) : Prop where
  directory : ∀ d ∈ gm45Directories, ∀ files, bin d.name = some files →
    ∃ files', bin' d.name = some files'
      ∧ Filled d.romsize (ich9genArgv mac) (star d.name) files files'
  missing : ∀ d ∈ gm45Directories, bin d.name = none → bin' d.name = none
  other : ∀ name, name ∉ gm45Directories.map Gm45Directory.name → bin' name = bin name

/-- The loop fills every directory that it finds. -/
theorem gm45_fills (hlib : ∀ name, (lib name).NoSilentLoss)
    (hstar : ∀ name, ∀ rom ∈ star name, IsRom rom) (h : gm45 lib mac star bin = .ok bin') :
    Gm45Filled mac star bin bin' := by
  rw [gm45_eq] at h
  obtain ⟨hall, hframe⟩ := (forEach_onEntry_eq_ok nodup_gm45Directories).mp h
  refine ⟨fun d hd files hfiles => ?_, fun d hd hnone => ?_, hframe⟩
  · rcases ifPresent_eq_ok.mp (hall d hd) with ⟨hnone, -⟩ | ⟨files₀, files', hold, hfill, hnew⟩
    · rw [hfiles] at hnone
      cases hnone
    · obtain rfl := Option.some.inj (hold.symm.trans hfiles)
      exact ⟨files', hnew, filled_of_eq_ok hlib (hstar d.name) hfill⟩
  · rcases ifPresent_eq_ok.mp (hall d hd) with ⟨-, hmissing⟩ | ⟨files₀, files', hold, -, -⟩
    · exact hmissing
    · rw [hnone] at hold
      cases hold

/-- It gets through if ich9gen takes the MAC address, or if there is nothing to do. -/
theorem gm45_gets_through (hlib : ∀ name, (lib name).Reliable)
    (hstar : ∀ name, ∀ rom ∈ star name, IsRom rom) :
    (∃ bin', gm45 lib mac star bin = .ok bin') ↔
      (∀ d ∈ gm45Directories, bin d.name = none)
        ∨ ∀ argument, Ich9gen.macArgument (ich9genArgv mac) = some argument →
          Ich9gen.Accepted argument := by
  have hfill : ∀ (d : Gm45Directory) (files : Files),
      (∃ files', fillDirectory lib mac (star d.name) d.romsize files = .ok files') ↔
        ∀ argument, Ich9gen.macArgument (ich9genArgv mac) = some argument →
          Ich9gen.Accepted argument := by
    intro d files
    rw [fillDirectory_eq_ok_iff (fun name => (hlib name).noSilentLoss) (hstar d.name),
      Ich9gen.main_eq_zero_iff hlib]
  rw [gm45_eq, exists_forEach_onEntry nodup_gm45Directories]
  constructor
  · intro hall
    by_cases hempty : ∀ d ∈ gm45Directories, bin d.name = none
    · exact .inl hempty
    · rw [not_forall₂] at hempty
      obtain ⟨d, hd, hsome⟩ := hempty
      obtain ⟨v, hv⟩ := hall d hd
      rcases ifPresent_eq_ok.mp hv with ⟨hnone, -⟩ | ⟨files, files', -, hrun, -⟩
      · exact absurd hnone hsome
      · exact .inr ((hfill d files).mp ⟨files', hrun⟩)
  · intro h d hd
    cases hdir : bin d.name with
    | none => exact ⟨none, rfl⟩
    | some files =>
      have haccepted := h.resolve_left fun hempty => by
        have hnone := hempty d hd
        rw [hdir] at hnone
        cases hnone
      obtain ⟨files', hrun⟩ := (hfill d files).mpr haccepted
      exact ⟨some files', ifPresent_eq_ok.mpr (.inr ⟨files, files', rfl, hrun, rfl⟩)⟩

def sampleGm45Name : String := "x200_8mb_usqwerty_vesafb.rom"

/-- `*.rom` in a directory with one image. -/
def sampleRoms (_ : String) : List String := [sampleGm45Name]

theorem isRom_sampleRoms : ∀ name, ∀ rom ∈ sampleRoms name, IsRom rom := by
  intro name rom hrom
  rw [List.mem_singleton.mp hrom]
  exact (by decide : ".rom".toList.isSuffixOf sampleGm45Name.toList = true)

def sampleBios : Bytes := List.replicate (ROMSIZE_8MB - 0x3000) 0x55

/-- A directory of the X200, with an image and notes beside it. -/
def sampleGm45Files : Files := fun name =>
  if name = sampleGm45Name then some (List.replicate 0x3000 0xaa ++ sampleBios)
  else if name = "README" then some (ascii "X200")
  else none

def sampleGm45 : Bin := fun board => if board = "x200_8mb" then some sampleGm45Files else none

/--
**The last MAC address wins.** The loop over images that have their regions already leaves exactly
what it leaves of the images without them.
-/
theorem gm45_again {bin₁ bin₂ bin₂' : Bin} (hlib : ∀ name, (lib name).NoSilentLoss)
    (hlib' : ∀ name, (lib' name).NoSilentLoss) (hstar : ∀ name, ∀ rom ∈ star name, IsRom rom)
    (hfirst : gm45 lib mac star bin = .ok bin₁) (hsecond : gm45 lib' mac' star bin₁ = .ok bin₂)
    (hdirect : gm45 lib' mac' star bin = .ok bin₂') : bin₂ = bin₂' := by
  have hfirst := gm45_fills hlib hstar hfirst
  have hsecond := gm45_fills hlib' hstar hsecond
  have hdirect := gm45_fills hlib' hstar hdirect
  funext name
  by_cases hname : name ∈ gm45Directories.map Gm45Directory.name
  · obtain ⟨d, hd, rfl⟩ := List.mem_map.mp hname
    cases hdir : bin d.name with
    | none =>
      rw [hsecond.missing d hd (hfirst.missing d hd hdir), hdirect.missing d hd hdir]
    | some files =>
      obtain ⟨files₁, hbin₁, hfill₁⟩ := hfirst.directory d hd files hdir
      obtain ⟨files₂, hbin₂, hfill₂⟩ := hsecond.directory d hd files₁ hbin₁
      obtain ⟨files₂', hbin₂', hfill₂'⟩ := hdirect.directory d hd files hdir
      rw [hbin₂, hbin₂', hfill₁.again hfill₂ hfill₂']
  · rw [hsecond.other name hname, hfirst.other name hname, hdirect.other name hname]

/-- First with the shipped MAC address, then with another one. -/
theorem gm45_again_sample : ∃ bin₁ bin₂,
    gm45 .reliable none sampleRoms sampleGm45 = .ok bin₁
      ∧ gm45 .reliable (some [Ich9gen.sampleAddress]) sampleRoms bin₁ = .ok bin₂
      ∧ gm45 .reliable (some [Ich9gen.sampleAddress]) sampleRoms sampleGm45 = .ok bin₂ := by
  have haccepted : ∀ argument, Ich9gen.macArgument (ich9genArgv (some [Ich9gen.sampleAddress]))
      = some argument → Ich9gen.Accepted argument := by
    intro argument hargument
    cases (show some Ich9gen.sampleAddress = some argument from hargument)
    decide
  have hlib : ∀ name, (CLib.reliable name).NoSilentLoss := fun name =>
    (CLib.reliable_reliable name).noSilentLoss
  obtain ⟨bin₁, hfirst⟩ : ∃ bin₁, gm45 .reliable none sampleRoms sampleGm45 = .ok bin₁ :=
    (gm45_gets_through CLib.reliable_reliable isRom_sampleRoms).mpr (.inr nofun)
  have hthrough : ∀ bin : Bin, ∃ bin',
      gm45 .reliable (some [Ich9gen.sampleAddress]) sampleRoms bin = .ok bin' := fun _ =>
    (gm45_gets_through CLib.reliable_reliable isRom_sampleRoms).mpr (.inr haccepted)
  obtain ⟨bin₂, hsecond⟩ := hthrough bin₁
  obtain ⟨bin₂', hdirect⟩ := hthrough sampleGm45
  refine ⟨bin₁, bin₂, hfirst, hsecond, ?_⟩
  rw [gm45_again hlib hlib isRom_sampleRoms hfirst hsecond hdirect]
  exact hdirect

end Bin

end Libreboot.Roms
