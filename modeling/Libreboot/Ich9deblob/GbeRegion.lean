import Libreboot.Descriptor.RegionMap
import Libreboot.Gbe.Repair
import Libreboot.Ich9deblob.FixedPoint

/-!
# What ich9deblob takes for the GbE region

The test for a GbE region is not thorough: it knows two values that stand for a removed region, and
the two straps. It does not compare BASE with LIMIT, and 8 KiB are read from BASE on, wherever LIMIT
is.

* `Writes` — a run creates a file, even if it was not there before
* `copied_region` — the copied bytes lie inside the image, and they are the region that the
  descriptor describes exactly if LIMIT is the page behind BASE
-/

namespace Libreboot.Ich9deblob

open Infra

/-! ## The region -/

/-- The factory descriptor describes a used region of 8 KiB inside the image, the one that is read. -/
def ReadsGbeRegion (fp : Bytes) : Prop :=
  let d := DescriptorRegionRecord.ofBytes fp
  d.regionSection.flReg3.base.toNat ≤ d.regionSection.flReg3.limit.toNat
    ∧ d.regionSection.flReg3.region = Set.Ico (gbeRegionStart d) (gbeRegionStart d + 8192)
    ∧ gbeRegionStart d + 8192 ≤ fp.length

theorem gbeRegionStart_eq (d : DescriptorRegionRecord) :
    gbeRegionStart d = d.regionSection.flReg3.base.toNat * 4096 :=
  Nat.shiftLeft_eq _ _

theorem readsGbeRegion_iff {fp : Bytes}
    (hinside : gbeRegionStart (.ofBytes fp) + 8192 ≤ fp.length) :
    ReadsGbeRegion fp ↔
      (DescriptorRegionRecord.ofBytes fp).regionSection.flReg3.limit.toNat
        = (DescriptorRegionRecord.ofBytes fp).regionSection.flReg3.base.toNat + 1 := by
  unfold ReadsGbeRegion
  simp only [hinside, and_true]
  rw [gbeRegionStart_eq, FlReg.region_eq_iff]
  constructor
  · exact And.right
  · intro h
    exact ⟨by omega, h⟩

/-- What the test for a GbE region looks at. -/
theorem descriptorDefinesGbeRegion_ne_zero {d : DescriptorRegionRecord}
    (h : descriptorDefinesGbeRegion d ≠ 0) :
    ¬ ((d.regionSection.flReg3.base = 0x1FFF ∨ d.regionSection.flReg3.base = 0xFFF)
        ∧ d.regionSection.flReg3.limit = 0)
      ∧ d.ichStraps.ichStrap0.integratedGbe ≠ 0 ∧ d.ichStraps.ichStrap0.lanPhy ≠ 0 := by
  unfold descriptorDefinesGbeRegion at h
  split at h
  · exact absurd rfl h
  · next hused =>
    split at h
    · exact absurd rfl h
    · next hstraps => exact ⟨hused, not_or.mp hstraps⟩

/-! ## Writing the file -/

/-- The file is there after the run, even if it was not there before. -/
def Writes (f : CFun) (name : String) (w : World) : Prop :=
  (f (w.setFile name none)).2.files name ≠ none

section Runs

variable {lib : CLib} {w : World} (descriptorStruct : DescriptorRegionRecord)
  (gbeStruct8k : GbeRegionRecord8k)

/-- Without a GbE region, the file for both is left alone. -/
theorem createFiles_preserves {d : DescriptorRegionRecord} (g : GbeRegionRecord8k)
    (h : descriptorDefinesGbeRegion d = 0) :
    (createFiles lib d g).Preserves descriptorGbeFilename := by
  have himage : (createImageFile lib d g).Preserves descriptorGbeFilename := by
    rw [createImageFile, if_neg (fun hne => hne h)]
    exact createImage_preserves lib _ _ _ (by decide)
  exact himage.orReturn1 <| (writeTextFile_preserves lib _ _ (by decide)).orReturn1 <|
    (writeTextFile_preserves lib _ _ (by decide)).orReturn1 <|
    (createGbeSource_preserves d g (by decide) (by decide)).orReturn1 <|
    CFun.preserves_return0.printf _

/-- A run that writes this file has found a GbE region. -/
theorem definesGbeRegion_of_writes {fp : Bytes} (hopen : fopenRead lib romFilename w = some fp)
    (hcomplete : Complete fp)
    (hwrites : Writes (main lib descriptorStruct gbeStruct8k) descriptorGbeFilename w) :
    descriptorDefinesGbeRegion (.ofBytes fp) ≠ 0 := by
  intro hnone
  -- the factory image is another file
  have hopen' : fopenRead lib romFilename (w.setFile descriptorGbeFilename none) = some fp := by
    rw [fopenRead, World.files_setFile_of_ne (by decide)]
    exact hopen
  obtain ⟨w₁, hw₁, hmain⟩ := main_of_complete descriptorStruct gbeStruct8k hopen' hcomplete
  refine hwrites ?_
  rw [hmain, createFiles_preserves _ ((definesGbeRegion_output fp).trans hnone), hw₁,
    World.files_setFile_self]

/--
**What is copied as GbE.** If a run returns 0 and writes the file with descriptor and GbE region,
then the descriptor of the factory image passed the test, and the 8192 bytes from BASE on lie inside
the image. If no loss goes unnoticed, it is their repair that the file has behind the descriptor.
They are the region that the descriptor describes exactly if LIMIT is the page behind BASE.
-/
theorem copied_region (hzero : (main lib descriptorStruct gbeStruct8k w).1 = some 0)
    (hwrites : Writes (main lib descriptorStruct gbeStruct8k) descriptorGbeFilename w) :
    ∃ fp, w.files romFilename = some fp
      ∧ let d := DescriptorRegionRecord.ofBytes fp
        ¬ ((d.regionSection.flReg3.base = 0x1FFF ∨ d.regionSection.flReg3.base = 0xFFF)
            ∧ d.regionSection.flReg3.limit = 0)
          ∧ d.ichStraps.ichStrap0.integratedGbe ≠ 0 ∧ d.ichStraps.ichStrap0.lanPhy ≠ 0
          ∧ gbeRegionStart d + 8192 ≤ fp.length
          ∧ ((lib descriptorGbeFilename).NoSilentLoss →
            (main lib descriptorStruct gbeStruct8k w).2.files descriptorGbeFilename
              = some ((outputDescriptor fp).toBytes
                ++ deblobbedGbeBytes ((fp.drop (gbeRegionStart d)).take 8192)))
          ∧ (ReadsGbeRegion fp ↔
            d.regionSection.flReg3.limit.toNat = d.regionSection.flReg3.base.toNat + 1) := by
  obtain ⟨fp, hopen, hcomplete⟩ := complete_of_main_eq_zero descriptorStruct gbeStruct8k hzero
  have hdef := definesGbeRegion_of_writes descriptorStruct gbeStruct8k hopen hcomplete hwrites
  have hread := hcomplete.2 hdef
  have hinside : gbeRegionStart (.ofBytes fp) + 8192 ≤ fp.length := by
    rw [List.length_drop] at hread
    omega
  have hrom : w.files romFilename = some fp := by
    rw [fopenRead] at hopen
    split at hopen
    · exact hopen
    · cases hopen
  obtain ⟨hused, hgbe, hphy⟩ := descriptorDefinesGbeRegion_ne_zero hdef
  refine ⟨fp, hrom, hused, hgbe, hphy, hinside, fun hlib => ?_, readsGbeRegion_iff hinside⟩
  obtain ⟨w₁, -, hmain⟩ := main_of_complete descriptorStruct gbeStruct8k hopen hcomplete
  have houtput : descriptorDefinesGbeRegion (outputDescriptor fp) ≠ 0 := by
    rw [definesGbeRegion_output]
    exact hdef
  have hname : imageFilename (outputDescriptor fp) = descriptorGbeFilename := if_pos houtput
  have hcontent : imageContent (outputDescriptor fp) (outputGbe fp)
      = (outputDescriptor fp).toBytes ++ (outputGbe fp).toBytes := if_pos houtput
  rw [hmain] at hzero ⊢
  have hdelivered := createFiles_delivers_image (outputDescriptor fp) (outputGbe fp)
    (hname ▸ hlib) w₁ hzero
  rw [hname, hcontent] at hdelivered
  rw [hdelivered, deblobbedGbeBytes, GbeRegionRecord8k.ofBytes_take hread]
  rfl

/-- A complete image with a GbE region is deblobbed into that file. -/
theorem main_writes_descriptorGbe {fp : Bytes} (hcomplete : Complete fp)
    (hdef : descriptorDefinesGbeRegion (.ofBytes fp) ≠ 0) :
    (main .reliable descriptorStruct gbeStruct8k (.holding fp)).1 = some 0
      ∧ Writes (main .reliable descriptorStruct gbeStruct8k) descriptorGbeFilename
        (.holding fp) := by
  have hname : imageFilename (outputDescriptor fp) = descriptorGbeFilename :=
    if_pos (by rw [definesGbeRegion_output]; exact hdef)
  have hrom : ((World.holding fp).setFile descriptorGbeFilename none).files romFilename
      = some fp := World.files_setFile_of_ne (by decide) _ _
  have hfile := (main_creates_image descriptorStruct gbeStruct8k CLib.reliable_reliable hrom
    hcomplete).2
  rw [hname] at hfile
  refine ⟨(main_creates_image descriptorStruct gbeStruct8k CLib.reliable_reliable rfl
    hcomplete).1, ?_⟩
  rw [Writes, hfile]
  exact Option.some_ne_none _

/-- What is copied from the shipped image. -/
theorem copied_region_shipped :
    gbeRegionStart (.ofBytes shippedImage) + 8192 ≤ shippedImage.length := by
  obtain ⟨hzero, hwrites⟩ := main_writes_descriptorGbe (.ofBytes []) (.ofBytes [])
    complete_shippedImage definesGbeRegion_shippedImage
  obtain ⟨fp, hrom, -, -, -, hinside, -⟩ := copied_region (.ofBytes []) (.ofBytes []) hzero hwrites
  cases (show some shippedImage = some fp from hrom)
  exact hinside

end Runs

/-! ## A region that is not in use -/

/-- The shipped descriptor with the GbE region removed, by a BASE behind LIMIT. -/
def unusedRegionDescriptor : DescriptorRegionRecord :=
  { generatedDescriptorStruct (BitVec.ofNat 32 ROMSIZE_4MB) 1 with regionSection.flReg3.limit := 0 }

def unusedRegionImage : Bytes := unusedRegionDescriptor.toBytes ++ generatedGbeStruct8k.toBytes

/-- Its 8 KiB are copied all the same. -/
theorem unused_region_copied :
    (main .reliable (.ofBytes []) (.ofBytes []) (.holding unusedRegionImage)).1 = some 0
      ∧ Writes (main .reliable (.ofBytes []) (.ofBytes [])) descriptorGbeFilename
        (.holding unusedRegionImage)
      ∧ ¬ ReadsGbeRegion unusedRegionImage := by
  have hdescriptor : DescriptorRegionRecord.ofBytes unusedRegionImage = unusedRegionDescriptor := by
    rw [unusedRegionImage, DescriptorRegionRecord.ofBytes_toBytes_append]
  have hdef : descriptorDefinesGbeRegion (.ofBytes unusedRegionImage) ≠ 0 := by
    rw [hdescriptor]
    decide
  have hcomplete : Complete unusedRegionImage := complete_append rfl _
  obtain ⟨hzero, hwrites⟩ := main_writes_descriptorGbe (.ofBytes []) (.ofBytes []) hcomplete hdef
  refine ⟨hzero, hwrites, ?_⟩
  rintro ⟨hused, -⟩
  rw [hdescriptor] at hused
  exact absurd hused (by decide)

end Libreboot.Ich9deblob
