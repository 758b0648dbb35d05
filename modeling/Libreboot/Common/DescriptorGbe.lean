import Libreboot.Descriptor.Struct
import Libreboot.Gbe.Struct
import Libreboot.Infra.OutputFile

/-!
# Descriptor and GbE files

`common/descriptor_gbe.c`: the two functions that write what is to be flashed. Both write checked
parts into a file opened for appending, but neither looks at what `remove` and `fclose` return.

* `success_is_image_iff` — when a returned 0 means that the file is the image
* `success_not_image` — it does not when the old file cannot be removed
-/

namespace Libreboot

open Infra

/-! ## The functions -/

/-- The descriptor, written into the first part. -/
def descriptorPart (d : DescriptorRegionRecord) : ImagePart where
  size := DESCRIPTORREGIONSIZE
  memory := d.toBytes
  complaint := "\nerror: writing descriptor region failed\n"
  length_memory := d.length_toBytes

/-- The GbE region, added to the end of the file. -/
def gbePart (g : GbeRegionRecord8k) : ImagePart where
  size := GBEREGIONSIZE_8K
  memory := g.toBytes
  complaint := "\nerror: writing GBe region failed\n"
  length_memory := g.length_toBytes

/-- Create the 12 KiB file with the descriptor and GbE behind it. -/
def notCreatedDescriptorGbeFile (lib : CLib) (descriptorStruct : DescriptorRegionRecord)
    (gbeStruct8k : GbeRegionRecord8k) (fileName : String) : CFun :=
  createImage lib [descriptorPart descriptorStruct, gbePart gbeStruct8k]
    ["descriptor and gbe successfully written to the file: " ++ fileName ++ "\n",
      "Now do: dd if=" ++ fileName ++ " of=libreboot.rom bs=1 count=12k conv=notrunc\n",
      "(in other words, add the modified descriptor+gbe to your ROM image)\n\n"]
    fileName

/-- Create the 4 KiB file with the descriptor. -/
def notCreated4kDescriptorFile (lib : CLib) (descriptorStruct : DescriptorRegionRecord)
    (fileName : String) : CFun :=
  createImage lib [descriptorPart descriptorStruct]
    ["descriptor successfully written to the file: " ++ fileName ++ "\n",
      "Now do: dd if=" ++ fileName ++ " of=yourrom.rom bs=1 count=4k conv=notrunc\n",
      "(in other words, add the modified descriptor to your ROM image)\n\n"]
    fileName

theorem imageBytes_descriptorGbe (d : DescriptorRegionRecord) (g : GbeRegionRecord8k) :
    imageBytes [descriptorPart d, gbePart g] = d.toBytes ++ g.toBytes := by
  simp [imageBytes, descriptorPart, gbePart]

theorem imageBytes_descriptor (d : DescriptorRegionRecord) :
    imageBytes [descriptorPart d] = d.toBytes := by
  simp [imageBytes, descriptorPart]

/-! ## What the files hold -/

section Files

variable {lib : CLib} {fileName : String} (h : (lib fileName).NoSilentLoss)
  (d : DescriptorRegionRecord) (g : GbeRegionRecord8k)

include h

theorem descriptorGbeFile_delivers :
    (notCreatedDescriptorGbeFile lib d g fileName).Delivers fileName (d.toBytes ++ g.toBytes) := by
  rw [← imageBytes_descriptorGbe]
  exact createImage_delivers _ _ h

theorem descriptor4kFile_delivers :
    (notCreated4kDescriptorFile lib d fileName).Delivers fileName d.toBytes := by
  rw [← imageBytes_descriptor]
  exact createImage_delivers _ _ h

end Files

/-! ## Success and the file -/

theorem descriptorGbeFile_exact_iff (lib : CLib) (d : DescriptorRegionRecord)
    (g : GbeRegionRecord8k) (fileName : String) (w : World) :
    ((notCreatedDescriptorGbeFile lib d g fileName w).1 = some 0 →
        (notCreatedDescriptorGbeFile lib d g fileName w).2.files fileName
          = some (d.toBytes ++ g.toBytes))
      ↔ (lib fileName).Exact (w.files fileName) [descriptorPart d, gbePart g] := by
  rw [← imageBytes_descriptorGbe]
  exact createImage_exact_iff lib _ _ fileName w

theorem descriptor4kFile_exact_iff (lib : CLib) (d : DescriptorRegionRecord) (fileName : String)
    (w : World) :
    ((notCreated4kDescriptorFile lib d fileName w).1 = some 0 →
        (notCreated4kDescriptorFile lib d fileName w).2.files fileName = some d.toBytes)
      ↔ (lib fileName).Exact (w.files fileName) [descriptorPart d] := by
  rw [← imageBytes_descriptor]
  exact createImage_exact_iff lib _ _ fileName w

/--
**When success means that the file is exactly the image.** Either the function does not return 0,
because there is no stream or an `fwrite` comes back short; or nothing of an old file is left and
the flush passes everything; or an old file that could not be removed happens to begin the image
and the flush stops exactly where it makes up for that.
-/
theorem success_is_image_iff (lib : CLib) (d : DescriptorRegionRecord) (g : GbeRegionRecord8k)
    (fileName : String) (w : World) :
    (((notCreatedDescriptorGbeFile lib d g fileName w).1 = some 0 →
        (notCreatedDescriptorGbeFile lib d g fileName w).2.files fileName
          = some (d.toBytes ++ g.toBytes))
      ↔ (lib fileName).Exact (w.files fileName) [descriptorPart d, gbePart g])
    ∧ (((notCreated4kDescriptorFile lib d fileName w).1 = some 0 →
        (notCreated4kDescriptorFile lib d fileName w).2.files fileName = some d.toBytes)
      ↔ (lib fileName).Exact (w.files fileName) [descriptorPart d]) :=
  ⟨descriptorGbeFile_exact_iff lib d g fileName w, descriptor4kFile_exact_iff lib d fileName w⟩

/-- `remove` fails, everything else works. -/
def undeletable : Outcome := { Outcome.reliable with removes := false }

theorem not_short_undeletable : ∀ (parts : List ImagePart) (k : Nat), ¬ undeletable.Short k parts
  | [], _, h => h
  | _ :: _, _, Or.inl hcut => not_cutsOff_none _ hcut
  | _ :: rest, k, Or.inr hrest => not_short_undeletable rest (k + 1) hrest

theorem not_exact_undeletable (parts : List ImagePart) :
    ¬ undeletable.Exact (some [0]) parts := by
  -- the stream opens, every `fwrite` is complete, the old byte stays, and nothing is cut off
  rintro (hopen | hshort | ⟨hrem | hold, -⟩ | ⟨-, n, hn, -⟩)
  · cases hopen
  · exact not_short_undeletable parts 0 hshort
  · cases hrem
  · cases hold
  · cases hn

/-- Both functions report success over a file that they could not remove. -/
theorem success_not_image :
    ¬ (∀ (lib : CLib) (d : DescriptorRegionRecord) (g : GbeRegionRecord8k) (fileName : String)
        (w : World), (notCreatedDescriptorGbeFile lib d g fileName w).1 = some 0 →
          (notCreatedDescriptorGbeFile lib d g fileName w).2.files fileName
            = some (d.toBytes ++ g.toBytes))
      ∧ ¬ (∀ (lib : CLib) (d : DescriptorRegionRecord) (fileName : String) (w : World),
        (notCreated4kDescriptorFile lib d fileName w).1 = some 0 →
          (notCreated4kDescriptorFile lib d fileName w).2.files fileName = some d.toBytes) := by
  constructor
  · intro h
    exact not_exact_undeletable _ ((descriptorGbeFile_exact_iff (fun _ => undeletable) (.ofBytes [])
      (.ofBytes []) "deblobbed_descriptor.bin" (.holding [0])).mp (h _ _ _ _ _))
  · intro h
    exact not_exact_undeletable _ ((descriptor4kFile_exact_iff (fun _ => undeletable) (.ofBytes [])
      "ich9fdnogbe_4m.bin" (.holding [0])).mp (h _ _ _ _))

end Libreboot
