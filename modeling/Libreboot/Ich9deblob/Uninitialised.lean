import Libreboot.Ich9deblob.Runs

/-!
# Uninitialised memory

The local structs of `main` are uninitialised, and one of them is not even always read. Two runs
that differ only in what these structs held before do the same, down to what they print.

* `uninitialised_irrelevant` — the two runs agree, and a short read touches no file
-/

namespace Libreboot.Ich9deblob

open Infra

/-- What follows the descriptor is the same from any contents of the GbE struct. -/
theorem withGbeRegion_congr (lib : CLib) (fp : Bytes) (d : DescriptorRegionRecord)
    (g g' : GbeRegionRecord8k) :
    withGbeRegion fp d g (fun g => withRomSize fp fun r => deblob lib d g r)
      = withGbeRegion fp d g' (fun g => withRomSize fp fun r => deblob lib d g r) := by
  by_cases h : descriptorDefinesGbeRegion d = 0
  · rw [withGbeRegion_of_not _ _ h, withGbeRegion_of_not _ _ h]
    simp only [deblob_congr h lib g g']
  · by_cases hlen : 8192 ≤ (fp.drop (gbeRegionStart d)).length
    · rw [withGbeRegion_of_le _ _ h hlen, withGbeRegion_of_le _ _ h hlen]
    · rw [withGbeRegion_of_lt _ _ h (by omega), withGbeRegion_of_lt _ _ h (by omega)]

/-- What follows opening the image is the same from any contents of both structs. -/
theorem withDescriptor_congr (lib : CLib) (fp : Bytes) (d d' : DescriptorRegionRecord)
    (g g' : GbeRegionRecord8k) :
    withDescriptor fp d (fun d => withGbeRegion fp d g fun g =>
        withRomSize fp fun r => deblob lib d g r)
      = withDescriptor fp d' (fun d => withGbeRegion fp d g' fun g =>
        withRomSize fp fun r => deblob lib d g r) := by
  by_cases hlen : 4096 ≤ fp.length
  · rw [withDescriptor_of_le hlen, withDescriptor_of_le hlen,
      withGbeRegion_congr lib fp (.ofBytes fp) g g']
  · rw [withDescriptor_of_lt (by omega), withDescriptor_of_lt (by omega)]

theorem main_congr (lib : CLib) (d d' : DescriptorRegionRecord) (g g' : GbeRegionRecord8k) :
    main lib d g = main lib d' g' := by
  unfold main
  simp only [withDescriptor_congr lib _ d d' g g']

/--
**No result depends on uninitialised memory.** Two runs on the same image return the same, leave the
same files and print the same, because the modified descriptor passes the GbE test exactly if the
factory descriptor does. If the image is too short for its descriptor, or for the GbE region that it
defines, the run returns 1 and leaves every file as it was.
-/
theorem uninitialised_irrelevant (lib : CLib) (w : World) (fp : Bytes)
    (hopens : (lib romFilename).opens = true) (hrom : w.files romFilename = some fp)
    (descriptorStruct descriptorStruct' : DescriptorRegionRecord)
    (gbeStruct8k gbeStruct8k' : GbeRegionRecord8k) :
    main lib descriptorStruct gbeStruct8k w = main lib descriptorStruct' gbeStruct8k' w
      ∧ (∀ romSize, descriptorDefinesGbeRegion (deblobbedDescriptor (.ofBytes fp) romSize)
          = descriptorDefinesGbeRegion (.ofBytes fp))
      ∧ (fp.length < 4096
          ∨ (descriptorDefinesGbeRegion (.ofBytes fp) ≠ 0
            ∧ (fp.drop (gbeRegionStart (.ofBytes fp))).length < 8192) →
        (main lib descriptorStruct gbeStruct8k w).1 = some 1
          ∧ (main lib descriptorStruct gbeStruct8k w).2.files = w.files) := by
  have hopen : fopenRead lib romFilename w = some fp := by rw [fopenRead, if_pos hopens, hrom]
  refine ⟨by rw [main_congr lib descriptorStruct descriptorStruct' gbeStruct8k gbeStruct8k'],
    definesGbeRegion_deblobbed (.ofBytes fp), fun hshort => ?_⟩
  refine main_of_not_complete descriptorStruct gbeStruct8k hopen ?_
  rintro ⟨hlen, hgbe⟩
  rcases hshort with hlt | ⟨hdef, hlt⟩
  · omega
  · have := hgbe hdef
    omega

/-- The shipped image without its last byte. -/
def shortImage : Bytes := shippedImage.take 12287

theorem ofBytes_shortImage :
    DescriptorRegionRecord.ofBytes shortImage = .ofBytes shippedImage := by
  have hlen : 4096 ≤ shortImage.length := by
    rw [shortImage, List.length_take, length_shippedImage]
    omega
  have htake : shortImage.take 4096 = shippedImage.take 4096 := by
    rw [shortImage, List.take_take]
    rfl
  rw [← DescriptorRegionRecord.ofBytes_take hlen, htake,
    DescriptorRegionRecord.ofBytes_take (by rw [length_shippedImage]; omega)]

/-- The shipped image, with zeros or with ones in the structs before. Without its last byte, the
run ends at the GbE region. -/
theorem uninitialised_irrelevant_shipped :
    let ones : Bytes := List.replicate 8192 0xff
    main .reliable (.ofBytes []) (.ofBytes []) (.holding shippedImage)
        = main .reliable (.ofBytes ones) (.ofBytes ones) (.holding shippedImage)
      ∧ (main .reliable (.ofBytes ones) (.ofBytes ones) (.holding shippedImage)).1 = some 0
      ∧ (main .reliable (.ofBytes []) (.ofBytes []) (.holding shortImage)).1 = some 1
      ∧ (main .reliable (.ofBytes []) (.ofBytes []) (.holding shortImage)).2.files
        = (World.holding shortImage).files := by
  intro ones
  have hstart : gbeRegionStart (.ofBytes shortImage) = 4096 := by
    rw [ofBytes_shortImage, gbeRegionStart_shippedImage]
  have hshort : (shortImage.drop (gbeRegionStart (.ofBytes shortImage))).length < 8192 := by
    rw [hstart, List.length_drop, shortImage, List.length_take]
    omega
  have hdef : descriptorDefinesGbeRegion (.ofBytes shortImage) ≠ 0 := by
    rw [ofBytes_shortImage]
    exact definesGbeRegion_shippedImage
  refine ⟨(uninitialised_irrelevant .reliable (.holding shippedImage) shippedImage rfl rfl
    (.ofBytes []) (.ofBytes ones) (.ofBytes []) (.ofBytes ones)).1, ?_,
    (uninitialised_irrelevant .reliable (.holding shortImage) shortImage rfl rfl
    (.ofBytes []) (.ofBytes ones) (.ofBytes []) (.ofBytes ones)).2.2 (.inr ⟨hdef, hshort⟩)⟩
  exact (main_creates_image (.ofBytes ones) (.ofBytes ones) CLib.reliable_reliable rfl
    complete_shippedImage).1

end Libreboot.Ich9deblob
