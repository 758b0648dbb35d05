import Libreboot.Ich9deblob.Runs

/-!
# Running ich9deblob on its own output

The output file is meant to replace the beginning of the image (the `dd` step that the program
prints). A second run on the patched image finds the same descriptor, and where that descriptor now
says the GbE region is, it finds the region that the first run made. Every part of the rewriting is
idempotent, so the second run creates the same files.
-/

namespace Libreboot.Ich9deblob

open Infra

/-! ## The patched image -/

/-- An image whose beginning is replaced by what was created from it. -/
def patched (fp : Bytes) : Bytes :=
  imageContent (outputDescriptor fp) (outputGbe fp)
    ++ fp.drop (imageContent (outputDescriptor fp) (outputGbe fp)).length

theorem length_imageContent (d : DescriptorRegionRecord) (g : GbeRegionRecord8k) :
    (imageContent d g).length = if descriptorDefinesGbeRegion d ≠ 0 then 12288 else 4096 := by
  unfold imageContent
  split
  · rw [List.length_append, d.length_toBytes, g.length_toBytes]
  · exact d.length_toBytes

theorem length_patched {fp : Bytes} (h : 12288 ≤ fp.length) :
    (patched fp).length = fp.length := by
  have hle : (imageContent (outputDescriptor fp) (outputGbe fp)).length ≤ 12288 := by
    rw [length_imageContent]
    split <;> omega
  rw [patched, List.length_append, List.length_drop]
  omega

/-- The patched image begins with the modified descriptor. -/
theorem ofBytes_patched (fp : Bytes) :
    DescriptorRegionRecord.ofBytes (patched fp) = outputDescriptor fp := by
  unfold patched
  -- what is left of the old image plays no role
  generalize fp.drop _ = rest
  unfold imageContent
  split
  · rw [List.append_assoc, DescriptorRegionRecord.ofBytes_toBytes_append]
  · rw [DescriptorRegionRecord.ofBytes_toBytes_append]

theorem outputDescriptor_patched {fp : Bytes} (h : 12288 ≤ fp.length) :
    outputDescriptor (patched fp) = outputDescriptor fp := by
  have hagain : outputDescriptor (patched fp)
      = deblobbedDescriptor (outputDescriptor fp) (BitVec.ofNat 32 fp.length) := by
    rw [outputDescriptor, ofBytes_patched, length_patched h]
  rw [hagain]
  exact deblobbed_deblobbed _ _ _

/-- The modified descriptor says that the GbE region comes next. -/
theorem gbeRegionStart_output {fp : Bytes}
    (hdef : descriptorDefinesGbeRegion (.ofBytes fp) ≠ 0) :
    gbeRegionStart (outputDescriptor fp) = 4096 := by
  have hgbe : definesGbe (.ofBytes fp) = true := definesGbe_eq_true.mpr hdef
  rw [outputDescriptor, deblobbedDescriptor_eq, hgbe]
  rfl

/-- And that is where it is in the patched image. -/
theorem drop_patched {fp : Bytes} (hdef : descriptorDefinesGbeRegion (.ofBytes fp) ≠ 0) :
    (patched fp).drop 4096
      = (outputGbe fp).toBytes
        ++ fp.drop (imageContent (outputDescriptor fp) (outputGbe fp)).length := by
  unfold patched
  generalize fp.drop _ = rest
  rw [imageContent, if_pos (by rw [definesGbeRegion_output]; exact hdef), List.append_assoc]
  exact List.drop_left' (outputDescriptor fp).length_toBytes

theorem outputGbe_patched {fp : Bytes} (hdef : descriptorDefinesGbeRegion (.ofBytes fp) ≠ 0) :
    outputGbe (patched fp) = outputGbe fp := by
  have hread : GbeRegionRecord8k.ofBytes ((patched fp).drop 4096) = outputGbe fp := by
    rw [drop_patched hdef, GbeRegionRecord8k.ofBytes_toBytes_append]
  have hagain : outputGbe (patched fp) = deblobbedGbeStructFromFactory (outputGbe fp) := by
    rw [outputGbe, ofBytes_patched, gbeRegionStart_output hdef, hread]
  rw [hagain]
  exact deblobbedGbe_idem _

theorem complete_patched {fp : Bytes} (h : 12288 ≤ fp.length) : Complete (patched fp) := by
  refine ⟨by rw [length_patched h]; omega, fun hdef => ?_⟩
  rw [ofBytes_patched, definesGbeRegion_output] at hdef
  rw [ofBytes_patched, gbeRegionStart_output hdef, drop_patched hdef, List.length_append,
    GbeRegionRecord8k.length_toBytes]
  omega

/-- The second run creates the files of the first run. -/
theorem createFiles_patched {fp : Bytes} (h : 12288 ≤ fp.length) (lib : CLib) :
    createFiles lib (outputDescriptor (patched fp)) (outputGbe (patched fp))
      = createFiles lib (outputDescriptor fp) (outputGbe fp) := by
  rw [outputDescriptor_patched h]
  by_cases hdef : descriptorDefinesGbeRegion (.ofBytes fp) = 0
  · exact createFiles_congr (by rw [definesGbeRegion_output, hdef]) lib _ _
  · rw [outputGbe_patched hdef]

/-! ## Two runs -/

/--
**`ich9deblob` is a fixed point on its own output.** A second run, on the image whose beginning is
the file `T` of a first run that returned 0, returns 0, decides about GbE in the same way, creates
`T` again, and prints the same C code.
-/
theorem deblob_fixed_point {lib lib' : CLib} (hlib : ∀ name, (lib name).Reliable)
    (hlib' : ∀ name, (lib' name).Reliable) {w w' : World} {I T : Bytes}
    (hI : w.files romFilename = some I) (hsize : 12288 ≤ I.length)
    (d d' : DescriptorRegionRecord) (g g' : GbeRegionRecord8k)
    (hrun : (main lib d g w).1 = some 0)
    (hT : (main lib d g w).2.files (imageFilename (.ofBytes I)) = some T)
    (hI' : w'.files romFilename = some (T ++ I.drop T.length)) :
    T.length = (if descriptorDefinesGbeRegion (.ofBytes I) ≠ 0 then 12288 else 4096)
      ∧ descriptorDefinesGbeRegion (.ofBytes (T ++ I.drop T.length))
        = descriptorDefinesGbeRegion (.ofBytes I)
      ∧ (main lib' d' g' w').1 = some 0
      ∧ (main lib' d' g' w').2.files (imageFilename (.ofBytes I)) = some T
      ∧ (∃ source, (main lib d g w).2.files "mkdescriptor.c" = some source
          ∧ (main lib' d' g' w').2.files "mkdescriptor.c" = some source)
      ∧ (descriptorDefinesGbeRegion (.ofBytes I) ≠ 0 →
        ∃ source, (main lib d g w).2.files "mkgbe.c" = some source
          ∧ (main lib' d' g' w').2.files "mkgbe.c" = some source) := by
  have hopen : fopenRead lib romFilename w = some I := by
    rw [fopenRead, if_pos (hlib _).opens, hI]
  -- the first run returned 0, so the image has all that is read
  have hcomplete : Complete I := by
    obtain ⟨fp, hfp, hcomplete⟩ := complete_of_main_eq_zero d g hrun
    rw [hopen] at hfp
    cases hfp
    exact hcomplete
  obtain ⟨w₁, -, hmain⟩ := main_of_complete d g hopen hcomplete
  rw [hmain] at hrun hT ⊢
  have hname := (imageFilename_output I).symm
  have hTeq : T = imageContent (outputDescriptor I) (outputGbe I) := by
    rw [hname, createFiles_delivers_image _ _ (hlib _).noSilentLoss w₁ hrun] at hT
    exact (Option.some.inj hT).symm
  have hpatched : T ++ I.drop T.length = patched I := by rw [hTeq, patched]
  have hopen' : fopenRead lib' romFilename w' = some (patched I) := by
    rw [fopenRead, if_pos (hlib' _).opens, hI', hpatched]
  obtain ⟨w₂, -, hmain'⟩ := main_of_complete d' g' hopen' (complete_patched hsize)
  rw [hmain', createFiles_patched hsize, hpatched, ofBytes_patched, definesGbeRegion_output]
  have hrun' : (createFiles lib' (outputDescriptor I) (outputGbe I) w₂).1 = some 0 :=
    createFiles_succeeds _ _ hlib' w₂
  refine ⟨?_, rfl, hrun', ?_, ?_, fun hdef => ?_⟩
  · rw [hTeq, length_imageContent, definesGbeRegion_output]
  · rw [hname, hTeq]
    exact createFiles_delivers_image _ _ (hlib' _).noSilentLoss w₂ hrun'
  · exact ⟨_, createFiles_delivers_descriptorSource _ _ hlib w₁ hrun,
      createFiles_delivers_descriptorSource _ _ hlib' w₂ hrun'⟩
  · have hdef' : descriptorDefinesGbeRegion (outputDescriptor I) ≠ 0 := by
      rw [definesGbeRegion_output]
      exact hdef
    exact ⟨_, createFiles_delivers_gbeSource _ _ hlib hdef' w₁ hrun,
      createFiles_delivers_gbeSource _ _ hlib' hdef' w₂ hrun'⟩

/-- The shipped image, deblobbed twice. -/
theorem deblob_fixed_point_shipped :
    (main .reliable (.ofBytes []) (.ofBytes []) (.holding (patched shippedImage))).1 = some 0 := by
  have hrom : (World.holding shippedImage).files romFilename = some shippedImage := rfl
  obtain ⟨hzero, hfile⟩ := main_creates_image (.ofBytes []) (.ofBytes []) CLib.reliable_reliable
    hrom complete_shippedImage
  have hpatched : (World.holding (patched shippedImage)).files romFilename
      = some (imageContent (outputDescriptor shippedImage) (outputGbe shippedImage)
        ++ shippedImage.drop
          (imageContent (outputDescriptor shippedImage) (outputGbe shippedImage)).length) := by
    rw [← patched, World.holding]
  rw [imageFilename_output] at hfile
  exact (deblob_fixed_point CLib.reliable_reliable CLib.reliable_reliable hrom
    length_shippedImage.ge (.ofBytes []) (.ofBytes []) (.ofBytes []) (.ofBytes []) hzero hfile
    hpatched).2.2.1

end Libreboot.Ich9deblob
