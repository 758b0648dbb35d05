import Libreboot.Depthcharge.Withdepthcharge

/-!
# What is installed on a Chromebook

`withdepthcharge` makes the parts of the flash image, with the layout and the script that puts them
there. A part is put into the flash image if it has exactly the size of its line in the layout, so that
an image of another size is left out, and a version that is too long as well.

* `answers_part` — a part of the wrong size is refused
* `veyronSpeedy_installed` — the flash image after the build and the installation
-/

namespace Libreboot.Depthcharge

open Infra Shell Script

/-! ## A part that may not fit -/

section Parts

variable {env : Setup} {line : LayoutLine} {content flash flash' : Bytes} {flashsize : Nat}

/-- The file of a part has the size of its line. -/
def LayoutLine.Fits (line : LayoutLine) (content : Bytes) : Prop :=
  content.length + line.first = line.last + 1

instance (line : LayoutLine) (content : Bytes) : Decidable (line.Fits content) :=
  inferInstanceAs (Decidable (_ = _))

theorem not_accepts_of_not_fits (hdistinct : (env.layout.map LayoutLine.name).Nodup)
    (hmem : line ∈ env.layout) (hcontent : env.parts line.file = some content)
    (hfits : ¬ line.Fits content) :
    ∀ line' ∈ env.layout, line'.name = line.name →
      ∀ content', ¬ env.Accepts flashsize line' content' := by
  intro line' hmem' hname content' haccepts
  obtain rfl := List.inj_on_of_nodup_map hdistinct hmem' hmem hname
  obtain rfl := Option.some.inj (hcontent.symm.trans haccepts.part)
  exact hfits haccepts.size

/-- **A part is put into the flash image or refused.** -/
theorem answers_part (hdistinct : (env.layout.map LayoutLine.name).Nodup) (hmem : line ∈ env.layout)
    (hfinds : env.Finds line.name line) (haligned : line.Aligned flashsize)
    (hcontent : env.parts line.file = some content)
    (hsize : line.size + line.first = line.last + 1) : env.Answers flashsize line.name := by
  have hinside := haligned.inside
  by_cases hfits : line.Fits content
  · refine .inl ⟨line, hmem, rfl, hfinds, haligned, content, hcontent, hfits, ?_⟩
    unfold LayoutLine.Fits at hfits
    omega
  · refine .inr ⟨not_accepts_of_not_fits hdistinct hmem hcontent hfits, fun word hword => ?_⟩
    rw [unquoted_plain _ line.name_plain, List.mem_singleton] at hword
    subst hword
    refine .inr (.inr ⟨line, hfinds, fun content' hcontent' => .inl fun heq => hfits ?_⟩)
    obtain rfl := Option.some.inj (hcontent.symm.trans hcontent')
    unfold LayoutLine.Fits
    omega

/-- The flash image after a request. -/
theorem getElem?_of_replaces (h : env.Replaces line.name flash flash')
    (hdistinct : (env.layout.map LayoutLine.name).Nodup) (hmem : line ∈ env.layout)
    (hinside : line.last < flash.length) (hcontent : env.parts line.file = some content) :
    flash'.length = flash.length ∧ ∀ i, flash'[i]? =
      if line.Covers i ∧ line.Fits content then content[i - line.first]? else flash[i]? := by
  by_cases hfits : line.Fits content
  · have haccepts : env.Accepts flash.length line content := by
      refine ⟨hcontent, hfits, ?_⟩
      unfold LayoutLine.Fits at hfits
      omega
    obtain ⟨hlength, hbytes⟩ := h.part line hmem rfl content haccepts
    exact ⟨hlength, fun i => by simp only [hbytes i, hfits, and_true]⟩
  · have hsame := h.other (not_accepts_of_not_fits hdistinct hmem hcontent hfits)
    exact ⟨by rw [hsame], fun i => by simp only [hsame, hfits, and_false, if_false]⟩

/-- **Two requests,** one after the other. -/
theorem replaces_two {line line' : LayoutLine} (flash : FlashImage)
    (hdistinct : (env.layout.map LayoutLine.name).Nodup)
    (h : env.Answers flash.bytes.length line.name) (h' : env.Answers flash.bytes.length line'.name) :
    ∃ mid : Bytes, env.Replaces line.name flash.bytes mid
      ∧ env.Replaces line'.name mid
        (env.replaceImages [line.name, line'.name] flash.state).flash := by
  have hstart : flash.state.Clean flash.bytes.length := ⟨rfl, rfl, rfl⟩
  obtain ⟨hmid, hfirst⟩ :=
    Setup.foldl_replaceImage_replaces hstart flash.length_lt hdistinct h
  obtain ⟨-, hsecond⟩ := Setup.foldl_replaceImage_replaces hmid flash.length_lt hdistinct h'
  refine ⟨_, hfirst, ?_⟩
  have hrun : env.replaceImages [line.name, line'.name] flash.state
      = (env.glob.unquoted line'.name).foldl (env.replaceImage flash.bytes.length)
        ((env.glob.unquoted line.name).foldl (env.replaceImage flash.bytes.length) flash.state) := by
    show env.replaceImages ([line.name] ++ [line'.name]) flash.state = _
    rw [Setup.replaceImages_concat, Setup.replaceImages, List.flatMap_singleton]
    rfl
  rw [hrun]
  exact hsecond

end Parts

/-! ## The directory on the device -/

theorem length_padTo (size : Nat) (content : Bytes) :
    (padTo size content).length = max size content.length := by
  rw [padTo, List.length_append, List.length_replicate]
  omega

/-- `layout.txt` -/
def layoutFile (lines : List LayoutLine) : Bytes :=
  ascii (String.ofList (unlines (lines.map LayoutLine.text)))

section Device

variable {r : Resources} {version board : String} {img : Option Bytes} {dir : Files}

/-- The files that have been built, for the script that installs them. -/
def Directory.setup (h : Directory r version board img dir) (glob : Globbing)
    (layout : List LayoutLine) : Setup where
  glob := glob
  grep := fixedGrep
  layout := layout
  parts name := dir (String.ofList name)
  no_before := h.other _ (by decide)
  no_after := h.other _ (by decide)

end Device

/-! ### The layout of the veyron_speedy -/

theorem range_coreboot : coreboot.first = 0 ∧ coreboot.last = 0xfffff ∧ coreboot.size = 0x100000 := by
  decide +kernel

theorem range_roFrid : roFrid.first = 0x1eff00 ∧ roFrid.last = 0x1effff ∧ roFrid.size = 0x100 := by
  decide +kernel

theorem distinct_veyronSpeedy : ([coreboot, roFrid].map LayoutLine.name).Nodup := by decide

theorem found_veyronSpeedy {line : LayoutLine} (hmem : line ∈ [coreboot, roFrid]) :
    fixedGrep line.name ([coreboot, roFrid].map LayoutLine.text) = [line.text] := by
  have hall : ∀ line ∈ [coreboot, roFrid],
      fixedGrep line.name ([coreboot, roFrid].map LayoutLine.text) = [line.text] := by
    simp only [List.forall_mem_cons]
    decide +kernel
  exact hall line hmem

theorem aligned_veyronSpeedy {line : LayoutLine} {flashsize : Nat} (hmem : line ∈ [coreboot, roFrid])
    (hsize : 0x1f0000 ≤ flashsize) (hblocks : 256 ∣ flashsize) :
    line.Aligned flashsize ∧ line.size + line.first = line.last + 1 := by
  obtain ⟨hfirst, hlast, hrange⟩ := range_coreboot
  obtain ⟨hfirst', hlast', hrange'⟩ := range_roFrid
  simp only [List.mem_cons, List.not_mem_nil, or_false] at hmem
  rcases hmem with rfl | rfl
  · refine ⟨⟨by omega, by omega, .inr ⟨by omega, hblocks⟩⟩, by omega⟩
  · refine ⟨⟨by omega, by omega, .inr ⟨by omega, hblocks⟩⟩, by omega⟩

/-- The two ranges, in numbers. -/
theorem covers_coreboot (i : Nat) (rom : Bytes) :
    (coreboot.Covers i ∧ coreboot.Fits rom) ↔ i < 0x100000 ∧ rom.length = 0x100000 := by
  obtain ⟨hfirst, hlast, -⟩ := range_coreboot
  unfold LayoutLine.Covers LayoutLine.Fits
  omega

theorem covers_roFrid (i : Nat) (content : Bytes) :
    (roFrid.Covers i ∧ roFrid.Fits (padTo 0x100 content)) ↔
      (0x1eff00 ≤ i ∧ i < 0x1f0000) ∧ content.length ≤ 0x100 := by
  obtain ⟨hfirst, hlast, -⟩ := range_roFrid
  unfold LayoutLine.Covers LayoutLine.Fits
  rw [length_padTo]
  omega

section Installed

variable {r : Resources} {t : String → Tools} {version : String} {args : List String}
  {ws ws' : Workspace}

/--
**The flash image of a veyron_speedy,** after the build and `cros-flash-replace` with both parts. Only
these two ranges change. The first one has coreboot in it if the image has been cut off at exactly this
size, and the second one has the version in it, with zeros behind it, if it is not too long.
-/
theorem veyronSpeedy_installed (hrun : withdepthcharge r t version args ws = .ok ws')
    (hboard : "veyron_speedy" ∈ boardsOf r args) (hconfig : (r.config "veyron_speedy").isSome)
    (hlayout : r.layout "veyron_speedy" = some (layoutFile [coreboot, roFrid])) (glob : Globbing)
    (flash : FlashImage) (hsize : 0x1f0000 ≤ flash.bytes.length)
    (hblocks : 256 ∣ flash.bytes.length) :
    ∃ dir rom, ∃ h : Directory r version "veyron_speedy" (some rom) dir,
      ws'.bin "veyron_speedy" = some dir ∧ boardImg r t version "veyron_speedy" = some rom
        ∧ dir "layout.txt" = some (layoutFile (h.setup glob [coreboot, roFrid]).layout)
        ∧ ∃ flash', ((h.setup glob [coreboot, roFrid]).replaceImages [coreboot.name, roFrid.name]
            flash.state).flash = flash'
          ∧ flash'.length = flash.bytes.length
          ∧ ∀ i, flash'[i]? =
            if i < 0x100000 ∧ rom.length = 0x100000 then rom[i]?
            else if (0x1eff00 ≤ i ∧ i < 0x1f0000) ∧ (frid version).length ≤ 0x100 then
              (padTo 0x100 (frid version))[i - 0x1eff00]?
            else flash.bytes[i]? := by
  obtain ⟨dir, hdir, hdirectory⟩ := (delivered_of_withdepthcharge hrun).1 _ hboard hconfig
  obtain ⟨rom, hrom, hfile⟩ := hdirectory.coreboot
  obtain ⟨layout, hlayout', htext⟩ := hdirectory.layout
  rw [hrom] at hdirectory
  refine ⟨dir, rom, hdirectory, hdir, hrom, ?_, _, rfl, ?_⟩
  · rw [htext, ← hlayout', hlayout]
    rfl
  have hall : ∀ line ∈ [coreboot, roFrid], ∀ content, dir (String.ofList line.file) = some content →
      (hdirectory.setup glob [coreboot, roFrid]).Answers flash.bytes.length line.name := by
    intro line hmem content hcontent
    obtain ⟨haligned, hrange⟩ := aligned_veyronSpeedy hmem hsize hblocks
    exact answers_part distinct_veyronSpeedy hmem (found_veyronSpeedy hmem) haligned hcontent hrange
  have hsecond : roFrid ∈ [coreboot, roFrid] := List.mem_cons_of_mem _ List.mem_cons_self
  obtain ⟨mid, hcoreboot, hroFrid⟩ := @replaces_two (hdirectory.setup glob [coreboot, roFrid])
    coreboot roFrid flash distinct_veyronSpeedy (hall _ List.mem_cons_self _ hfile)
    (hall _ hsecond _ hdirectory.roFrid)
  obtain ⟨hlength, hmid⟩ := getElem?_of_replaces hcoreboot distinct_veyronSpeedy List.mem_cons_self
    (aligned_veyronSpeedy List.mem_cons_self hsize hblocks).1.inside hfile
  obtain ⟨hlength', hlast⟩ := getElem?_of_replaces hroFrid distinct_veyronSpeedy hsecond
    (hlength ▸ (aligned_veyronSpeedy hsecond hsize hblocks).1.inside) hdirectory.roFrid
  refine ⟨hlength'.trans hlength, fun i => ?_⟩
  rw [hlast i, hmid i, range_coreboot.1, range_roFrid.1, Nat.sub_zero]
  simp only [covers_coreboot, covers_roFrid]
  -- the two ranges are apart
  by_cases hin : i < 0x100000 ∧ rom.length = 0x100000
  · rw [if_pos hin, if_pos hin, if_neg (by omega)]
  · rw [if_neg hin, if_neg hin]

end Installed

/-! ## A build for an erased chip -/

section Sample

def speedyConfig : Bytes := ascii "CONFIG_CBFS_SIZE=0x100000\n"

def speedyResources : Resources where
  config board := if board = "veyron_speedy" then some speedyConfig else none
  cbrevision _ := some "0"
  vbootrevision _ := some "0"
  boards := ["veyron_speedy"]
  crosFlashReplace := some []
  layout _ := some (layoutFile [coreboot, roFrid])

def speedyTools : Tools where
  checkout _ := true
  libpayload _ _ := some []
  depthcharge _ _ _ := some []
  defconfig _ config := some config
  make _ _ _ _ := some (List.replicate 0x400000 0x00)
  binary := false

theorem speedy_gets_through : ∃ ws', withdepthcharge speedyResources (fun _ => speedyTools) "r20160907"
    [] ⟨fun _ => ⟨fun _ => none, fun _ => none⟩, fun _ => none, fun _ => none⟩ = .ok ws' := by
  refine (withdepthcharge_gets_through []).mpr fun board hboard => ?_
  obtain rfl := List.mem_singleton.mp hboard
  have hcount : cbfsBlocks false speedyConfig = some 0x400 := by decide +kernel
  refine ⟨"0", rfl, ⟨_, rfl⟩, fun _ => ⟨rfl, rfl, ?_, ⟨_, rfl⟩, ⟨_, rfl⟩⟩⟩
  show ∃ rom, ((cbfsBlocks false speedyConfig).bind fun count => some (Dd.read 1024 0 count
    (List.replicate 0x400000 0x00))) = some rom
  rw [hcount]
  exact ⟨_, rfl⟩

/-- The version can be read in the flash image. -/
theorem veyronSpeedy_installed_erased : ∃ (ws' : Workspace) (dir : Files) (rom : Bytes)
    (h : Directory speedyResources "r20160907" "veyron_speedy" (some rom) dir),
    ws'.bin "veyron_speedy" = some dir
      ∧ ((h.setup Globbing.off [coreboot, roFrid]).replaceImages [coreboot.name, roFrid.name]
        erased.state).flash[0x1eff00]? = some 0x6c := by
  obtain ⟨ws', hrun⟩ := speedy_gets_through
  have hlength : erased.bytes.length = 0x400000 := List.length_replicate
  obtain ⟨dir, rom, h, hdir, -, -, flash', rfl, -, hbytes⟩ := veyronSpeedy_installed hrun
    List.mem_cons_self rfl rfl Globbing.off erased (by omega) (by omega)
  refine ⟨ws', dir, rom, h, hdir, ?_⟩
  rw [hbytes, if_neg (by omega), if_pos ⟨by omega, by decide⟩, Nat.sub_self]
  decide +kernel

end Sample

end Libreboot.Depthcharge
