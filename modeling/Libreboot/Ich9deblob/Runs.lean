import Libreboot.Ich9deblob.Main
import Libreboot.Ich9gen.MkDescriptor
import Libreboot.Ich9gen.MkGbe

/-!
# Runs of ich9deblob

A run either ends before it has written anything, or it creates files from two structs that depend
on the factory image alone.

* `Complete` — the image has everything that is to be read
* `main_of_not_complete` — otherwise the run returns 1 and changes no file
* `main_of_complete` — the run creates the files for `outputDescriptor` and `outputGbe`

The initial contents of the local structs occur in none of these results. The descriptor is read
over one of the structs in full. The other one is used only if the *modified* descriptor defines a
GbE region, and it has been read if the factory descriptor does. `definesGbe_deblobbed` says that
these two conditions are the same.
-/

namespace Libreboot.Ich9deblob

open Infra

/-! ## Reading the GbE region -/

section Read

variable {fp : Bytes} {d : DescriptorRegionRecord} (g : GbeRegionRecord8k)
  (k : GbeRegionRecord8k → CFun)

theorem withGbeRegion_of_not (h : descriptorDefinesGbeRegion d = 0) :
    withGbeRegion fp d g k = k g :=
  if_neg (fun hne => hne h)

theorem withGbeRegion_of_le (h : descriptorDefinesGbeRegion d ≠ 0)
    (hlen : 8192 ≤ (fp.drop (gbeRegionStart d)).length) :
    withGbeRegion fp d g k
      = .printf ["\ngbe (8KiB) region read successfully\n"]
        (k (.ofBytes (fp.drop (gbeRegionStart d)))) := by
  have hread : (fread fp (gbeRegionStart d) 8192 g.toBytes).1 = 8192 :=
    ((fread_fst_eq_iff fp _ 8192 g.toBytes).mpr hlen).symm
  have hbuffer : (fread fp (gbeRegionStart d) 8192 g.toBytes).2
      = (fp.drop (gbeRegionStart d)).take 8192 :=
    fread_snd_of_le g.length_toBytes hlen
  unfold withGbeRegion GBEREGIONSIZE_8K
  simp only [h, hread, hbuffer, ne_eq, not_false_eq_true, not_true_eq_false, if_true, if_false,
    GbeRegionRecord8k.ofBytes_take hlen]

theorem withGbeRegion_of_lt (h : descriptorDefinesGbeRegion d ≠ 0)
    (hlen : (fp.drop (gbeRegionStart d)).length < 8192) :
    withGbeRegion fp d g k
      = .printf ["\nerror: could not read GBe region from " ++ romFilename ++ " ("
        ++ toString (fp.drop (gbeRegionStart d)).length ++ ") bytes read\n"] .return1 := by
  have hread : (fread fp (gbeRegionStart d) 8192 g.toBytes).1
      = (fp.drop (gbeRegionStart d)).length := by
    rw [fread, List.take_of_length_le (show (fp.drop (gbeRegionStart d)).length ≤ 8192 by omega)]
  have hne : 8192 ≠ (fp.drop (gbeRegionStart d)).length := by omega
  unfold withGbeRegion GBEREGIONSIZE_8K
  simp only [h, hread, ne_eq, hne, not_false_eq_true, if_true]

end Read

/-! ## The modified structs -/

theorem definesGbeRegion_deblobbed (d : DescriptorRegionRecord) (romSize : BitVec 32) :
    descriptorDefinesGbeRegion (deblobbedDescriptor d romSize) = descriptorDefinesGbeRegion d :=
  descriptorDefinesGbeRegion_congr (definesGbe_deblobbed d romSize)

/-- Without a GbE region the GbE struct is not looked at. -/
theorem createFiles_congr {d : DescriptorRegionRecord} (h : descriptorDefinesGbeRegion d = 0)
    (lib : CLib) (g g' : GbeRegionRecord8k) : createFiles lib d g = createFiles lib d g' := by
  unfold createFiles createImageFile createGbeSource
  simp only [h, ne_eq, not_true_eq_false, if_false]

/-- Nor is it printed, so that the whole rest of the run is the same. -/
theorem deblob_congr {d : DescriptorRegionRecord} (h : descriptorDefinesGbeRegion d = 0)
    (lib : CLib) (g g' : GbeRegionRecord8k) (romSize : BitVec 32) :
    deblob lib d g romSize = deblob lib d g' romSize := by
  have hmodified : descriptorDefinesGbeRegion (deblobbedDescriptor d romSize) = 0 := by
    rw [definesGbeRegion_deblobbed, h]
  unfold deblob showRegions
  simp only [h, hmodified, ne_eq, not_true_eq_false, if_false]
  rw [createFiles_congr hmodified lib _ (modifiedGbe (deblobbedDescriptor d romSize) g')]

/-- The descriptor that is created from an image. -/
def outputDescriptor (fp : Bytes) : DescriptorRegionRecord :=
  deblobbedDescriptor (.ofBytes fp) (BitVec.ofNat 32 fp.length)

/-- The GbE region that is created from an image, if there is one. -/
def outputGbe (fp : Bytes) : GbeRegionRecord8k :=
  deblobbedGbeStructFromFactory (.ofBytes (fp.drop (gbeRegionStart (.ofBytes fp))))

theorem definesGbeRegion_output (fp : Bytes) :
    descriptorDefinesGbeRegion (outputDescriptor fp) = descriptorDefinesGbeRegion (.ofBytes fp) :=
  definesGbeRegion_deblobbed _ _

/-- The image has a descriptor and, if that defines a GbE region, the GbE region as well. -/
def Complete (fp : Bytes) : Prop :=
  4096 ≤ fp.length
    ∧ (descriptorDefinesGbeRegion (.ofBytes fp) ≠ 0 →
      8192 ≤ (fp.drop (gbeRegionStart (.ofBytes fp))).length)

/-! ## Whole runs -/

section Run

variable {lib : CLib} {w : World} {fp : Bytes} (descriptorStruct : DescriptorRegionRecord)
  (gbeStruct8k : GbeRegionRecord8k)

/-- A run prints, and goes on with what it read. -/
theorem main_of_opens (hopen : fopenRead lib romFilename w = some fp) :
    ∃ w₁, w₁.files = w.files
      ∧ main lib descriptorStruct gbeStruct8k w
        = withDescriptor fp descriptorStruct (fun d =>
          withGbeRegion fp d gbeStruct8k fun g => withRomSize fp fun r => deblob lib d g r) w₁ := by
  rw [main, systemOrCompilerIncompatible_eq, CFun.orReturn1_return0, withFactoryRom, hopen]
  exact CFun.printf_eq _ _ w

/-- **An image that is not complete ends the run, and no file is touched.** -/
theorem main_of_not_complete (hopen : fopenRead lib romFilename w = some fp)
    (h : ¬ Complete fp) :
    (main lib descriptorStruct gbeStruct8k w).1 = some 1
      ∧ (main lib descriptorStruct gbeStruct8k w).2.files = w.files := by
  obtain ⟨w₁, hw₁, hmain⟩ := main_of_opens descriptorStruct gbeStruct8k hopen
  rw [hmain, ← hw₁]
  by_cases hlen : 4096 ≤ fp.length
  · have hgbe : descriptorDefinesGbeRegion (.ofBytes fp) ≠ 0
        ∧ (fp.drop (gbeRegionStart (.ofBytes fp))).length < 8192 := by
      by_contra hno
      refine h ⟨hlen, fun hdef => ?_⟩
      by_contra hlt
      exact hno ⟨hdef, by omega⟩
    rw [withDescriptor_of_le hlen, withGbeRegion_of_lt _ _ hgbe.1 hgbe.2]
    obtain ⟨w₂, hw₂, hread⟩ := CFun.printf_eq _ _ w₁
    obtain ⟨w₃, hw₃, herror⟩ := CFun.printf_eq _ _ w₂
    rw [hread, herror, ← hw₂, ← hw₃]
    exact ⟨rfl, rfl⟩
  · rw [withDescriptor_of_lt (by omega)]
    obtain ⟨w₂, hw₂, herror⟩ := CFun.printf_eq _ _ w₁
    rw [herror, ← hw₂]
    exact ⟨rfl, rfl⟩

/-- After reading, a run prints and creates files. -/
theorem deblob_eq (lib : CLib) (fp : Bytes) (g : GbeRegionRecord8k) (w : World) :
    ∃ w₁, w₁.files = w.files
      ∧ (withRomSize fp fun r => deblob lib (.ofBytes fp) g r) w
        = createFiles lib (outputDescriptor fp) (modifiedGbe (outputDescriptor fp) g) w₁ := by
  rw [withRomSize]
  obtain ⟨w₁, hw₁, hsize⟩ := CFun.printf_eq _ _ w
  rw [hsize, deblob]
  obtain ⟨w₂, hw₂, hregions⟩ := CFun.printf_eq _ _ w₁
  exact ⟨w₂, by rw [hw₂, hw₁], hregions⟩

/-- **A complete image is deblobbed,** whatever was in the local structs. -/
theorem main_of_complete (hopen : fopenRead lib romFilename w = some fp) (h : Complete fp) :
    ∃ w₁, w₁.files = w.files
      ∧ main lib descriptorStruct gbeStruct8k w
        = createFiles lib (outputDescriptor fp) (outputGbe fp) w₁ := by
  obtain ⟨w₁, hw₁, hmain⟩ := main_of_opens descriptorStruct gbeStruct8k hopen
  obtain ⟨hlen, hgbe⟩ := h
  have hmodified : descriptorDefinesGbeRegion (outputDescriptor fp)
      = descriptorDefinesGbeRegion (.ofBytes fp) := definesGbeRegion_deblobbed _ _
  rw [hmain, withDescriptor_of_le hlen]
  obtain ⟨w₂, hw₂, hread⟩ := CFun.printf_eq _ _ w₁
  rw [hread]
  by_cases hdef : descriptorDefinesGbeRegion (.ofBytes fp) = 0
  · -- the GbE struct was not read, and is not looked at
    rw [withGbeRegion_of_not _ _ hdef]
    obtain ⟨w₃, hw₃, hrest⟩ := deblob_eq lib fp gbeStruct8k w₂
    rw [hrest, createFiles_congr (hmodified.trans hdef) lib _ (outputGbe fp)]
    exact ⟨w₃, by rw [hw₃, hw₂, hw₁], rfl⟩
  · -- the GbE struct was read in full, and the modified descriptor says so as well
    rw [withGbeRegion_of_le _ _ hdef (hgbe hdef)]
    obtain ⟨w₃, hw₃, hreadGbe⟩ := CFun.printf_eq _ _ w₂
    rw [hreadGbe]
    obtain ⟨w₄, hw₄, hrest⟩ :=
      deblob_eq lib fp (.ofBytes (fp.drop (gbeRegionStart (.ofBytes fp)))) w₃
    have hmodifiedGbe : modifiedGbe (outputDescriptor fp)
        (.ofBytes (fp.drop (gbeRegionStart (.ofBytes fp)))) = outputGbe fp :=
      if_pos (by rw [hmodified]; exact hdef)
    rw [hrest, hmodifiedGbe]
    exact ⟨w₄, by rw [hw₄, hw₃, hw₂, hw₁], rfl⟩

/-- A run that returns 0 has read a complete image. -/
theorem complete_of_main_eq_zero (h : (main lib descriptorStruct gbeStruct8k w).1 = some 0) :
    ∃ fp, fopenRead lib romFilename w = some fp ∧ Complete fp := by
  cases hopen : fopenRead lib romFilename w with
  | none =>
    rw [main, systemOrCompilerIncompatible_eq, CFun.orReturn1_return0, withFactoryRom,
      hopen] at h
    cases h
  | some fp =>
    refine ⟨fp, rfl, ?_⟩
    by_contra hnot
    rw [(main_of_not_complete descriptorStruct gbeStruct8k hopen hnot).1] at h
    cases h

end Run

/-! ## The created files -/

/-- The name of the file to be flashed. -/
def imageFilename (d : DescriptorRegionRecord) : String :=
  if descriptorDefinesGbeRegion d ≠ 0 then descriptorGbeFilename else descriptorNoGbeFilename

theorem imageFilename_output (fp : Bytes) :
    imageFilename (outputDescriptor fp) = imageFilename (.ofBytes fp) := by
  rw [imageFilename, imageFilename, definesGbeRegion_output]

/-- What is to be flashed. -/
def imageContent (d : DescriptorRegionRecord) (g : GbeRegionRecord8k) : Bytes :=
  if descriptorDefinesGbeRegion d ≠ 0 then d.toBytes ++ g.toBytes else d.toBytes

section Files

variable {lib : CLib} (d : DescriptorRegionRecord) (g : GbeRegionRecord8k)

theorem createImageFile_delivers (h : (lib (imageFilename d)).NoSilentLoss) :
    (createImageFile lib d g).Delivers (imageFilename d) (imageContent d g) := by
  unfold createImageFile imageFilename imageContent at *
  by_cases hdef : descriptorDefinesGbeRegion d ≠ 0
  · simp only [if_pos hdef] at *
    exact descriptorGbeFile_delivers h d g
  · simp only [if_neg hdef] at *
    exact descriptor4kFile_delivers h d

theorem createImageFile_succeeds (h : ∀ name, (lib name).Reliable) :
    (createImageFile lib d g).Succeeds := by
  unfold createImageFile
  split
  · exact createImage_succeeds _ _ (h _)
  · exact createImage_succeeds _ _ (h _)

theorem createGbeSource_succeeds (h : ∀ name, (lib name).Reliable) :
    (createGbeSource lib d g).Succeeds := by
  unfold createGbeSource
  split
  · exact (writeTextFile_succeeds _ (h _)).orReturn1 (writeTextFile_succeeds _ (h _))
  · exact CFun.succeeds_return0

theorem createGbeSource_preserves {other : String} (hh : other ≠ "mkgbe.h")
    (hc : other ≠ "mkgbe.c") : (createGbeSource lib d g).Preserves other := by
  unfold createGbeSource
  split
  · exact (writeTextFile_preserves lib _ _ hh).orReturn1 (writeTextFile_preserves lib _ _ hc)
  · exact CFun.preserves_return0

/-- If nothing fails, all files are created. -/
theorem createFiles_succeeds (h : ∀ name, (lib name).Reliable) :
    (createFiles lib d g).Succeeds :=
  (createImageFile_succeeds d g h).orReturn1 <|
  (writeTextFile_succeeds _ (h _)).orReturn1 <|
  (writeTextFile_succeeds _ (h _)).orReturn1 <|
  (createGbeSource_succeeds d g h).orReturn1 <|
  CFun.succeeds_return0.printf _

theorem createFiles_delivers_image (h : (lib (imageFilename d)).NoSilentLoss) :
    (createFiles lib d g).Delivers (imageFilename d) (imageContent d g) := by
  have hother : imageFilename d ≠ "mkdescriptor.h" ∧ imageFilename d ≠ "mkdescriptor.c"
      ∧ imageFilename d ≠ "mkgbe.h" ∧ imageFilename d ≠ "mkgbe.c" := by
    unfold imageFilename descriptorGbeFilename descriptorNoGbeFilename
    split <;> decide
  -- the image comes first, and what follows writes other files
  exact (createImageFile_delivers d g h).orReturn1_left <|
    (writeTextFile_preserves lib _ _ hother.1).orReturn1 <|
    (writeTextFile_preserves lib _ _ hother.2.1).orReturn1 <|
    (createGbeSource_preserves d g hother.2.2.1 hother.2.2.2).orReturn1 <|
    CFun.preserves_return0.printf _

/-- The C code for the descriptor. -/
theorem createFiles_delivers_descriptorSource (h : ∀ name, (lib name).Reliable) :
    (createFiles lib d g).Delivers "mkdescriptor.c"
      ((descriptorSource d "mkdescriptor.c" "mkdescriptor.h").flatMap ascii) :=
  CFun.Delivers.orReturn1_right <| CFun.Delivers.orReturn1_right <|
  (writeTextFile_delivers _ (h _)).orReturn1_left <|
  (createGbeSource_preserves d g (by decide) (by decide)).orReturn1 <|
  CFun.preserves_return0.printf _

/-- The C code for the GbE region. -/
theorem createFiles_delivers_gbeSource (h : ∀ name, (lib name).Reliable)
    (hdef : descriptorDefinesGbeRegion d ≠ 0) :
    (createFiles lib d g).Delivers "mkgbe.c"
      ((gbeSource g.backup "mkgbe.c" "mkgbe.h").flatMap ascii) := by
  have hsource : createGbeSource lib d g = .orReturn1 (notCreatedHFileForGbeCFile lib _ _)
      (notCreatedCFileFromGbeStruct4k lib g.backup "mkgbe.c" "mkgbe.h") := if_pos hdef
  refine CFun.Delivers.orReturn1_right <| CFun.Delivers.orReturn1_right <|
    CFun.Delivers.orReturn1_right <| CFun.Delivers.orReturn1_left ?_
      (CFun.preserves_return0.printf _)
  rw [hsource]
  exact CFun.Delivers.orReturn1_right (writeTextFile_delivers _ (h _))

/-- **If nothing fails, the image file is created from a complete image.** -/
theorem main_creates_image (hlib : ∀ name, (lib name).Reliable) {w : World} {I : Bytes}
    (hI : w.files romFilename = some I) (h : Complete I) :
    (main lib d g w).1 = some 0
      ∧ (main lib d g w).2.files (imageFilename (outputDescriptor I))
        = some (imageContent (outputDescriptor I) (outputGbe I)) := by
  have hopen : fopenRead lib romFilename w = some I := by
    rw [fopenRead, if_pos (hlib _).opens, hI]
  obtain ⟨w₁, -, hmain⟩ := main_of_complete d g hopen h
  have hzero := createFiles_succeeds (outputDescriptor I) (outputGbe I) hlib w₁
  rw [hmain]
  exact ⟨hzero, createFiles_delivers_image _ _ (hlib _).noSilentLoss w₁ hzero⟩

/-- The run does not depend on files that it does not write. -/
theorem createFiles_agrees {names : String → Prop} (hgbe : names descriptorGbeFilename)
    (hnogbe : names descriptorNoGbeFilename) :
    CFun.Agrees names (createFiles lib d g) (createFiles lib d g) := by
  have himage : CFun.Agrees names (createImageFile lib d g) (createImageFile lib d g) := by
    unfold createImageFile
    split
    · exact createImage_agrees lib _ _ _ hgbe
    · exact createImage_agrees lib _ _ _ hnogbe
  have hsource : CFun.Agrees names (createGbeSource lib d g) (createGbeSource lib d g) := by
    unfold createGbeSource
    split
    · exact (writeTextFile_agrees lib _ _ names).orReturn1 (writeTextFile_agrees lib _ _ names)
    · exact CFun.agrees_return0
  exact himage.orReturn1 <| (writeTextFile_agrees lib _ _ names).orReturn1 <|
    (writeTextFile_agrees lib _ _ names).orReturn1 <| hsource.orReturn1 <|
    CFun.agrees_return0.printf _ _

end Files

/-! ## The shipped image -/

/-- A GbE region is where the descriptor in front of it says. -/
theorem complete_append {d : DescriptorRegionRecord} (h : gbeRegionStart d = 4096)
    (g : GbeRegionRecord8k) : Complete (d.toBytes ++ g.toBytes) := by
  have hlength : (d.toBytes ++ g.toBytes).length = 12288 := by
    rw [List.length_append, d.length_toBytes, g.length_toBytes]
  refine ⟨by omega, fun _ => ?_⟩
  rw [d.ofBytes_toBytes_append, h, List.length_drop, hlength]

/-- An image made of what `ich9gen` ships. -/
def shippedImage : Bytes :=
  (generatedDescriptorStruct (BitVec.ofNat 32 ROMSIZE_4MB) 1).toBytes
    ++ generatedGbeStruct8k.toBytes

theorem length_shippedImage : shippedImage.length = 12288 := by
  rw [shippedImage, List.length_append, DescriptorRegionRecord.length_toBytes,
    GbeRegionRecord8k.length_toBytes]

theorem ofBytes_shippedImage : DescriptorRegionRecord.ofBytes shippedImage
    = generatedDescriptorStruct (BitVec.ofNat 32 ROMSIZE_4MB) 1 := by
  rw [shippedImage, DescriptorRegionRecord.ofBytes_toBytes_append]

theorem definesGbeRegion_shippedImage :
    descriptorDefinesGbeRegion (.ofBytes shippedImage) ≠ 0 := by
  rw [ofBytes_shippedImage]
  decide

theorem gbeRegionStart_shippedImage : gbeRegionStart (.ofBytes shippedImage) = 4096 := by
  rw [ofBytes_shippedImage]
  rfl

theorem complete_shippedImage : Complete shippedImage := complete_append rfl _

end Libreboot.Ich9deblob
