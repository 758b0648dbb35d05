import Libreboot.Common.DescriptorGbe
import Libreboot.Common.FactoryRom
import Libreboot.Common.X86Compatibility
import Libreboot.Descriptor.Generator

/-!
# demefactory

The program `demefactory.c`: read the descriptor of a factory image, disable the ME in it but leave
all regions where they are, and write the descriptor and C code for it.

* `main_creates_descriptor` — a run that returns 0 leaves the rewritten descriptor in its file
-/

namespace Libreboot.Demefactory

open Infra

def descriptorFilename : String := "demefactory_4kdescriptor.bin"

/-- All files, from the modified struct. -/
def createFiles (lib : CLib) (d : DescriptorRegionRecord) : CFun :=
  .orReturn1 (notCreated4kDescriptorFile lib d descriptorFilename) <|
  .orReturn1 (notCreatedHFileForDescriptorCFile lib "mkdescriptor.h" "mkdescriptor.c") <|
  .orReturn1 (notCreatedCFileFromDescriptorStruct lib d "mkdescriptor.c" "mkdescriptor.h") <|
  .printf ["The modified descriptor region has also been dumped as src files: "
    ++ "mkdescriptor.c, mkdescriptor.h\n\n"] .return0

/-- Modify the descriptor, and create the files. -/
def disableMe (lib : CLib) (descriptorStruct : DescriptorRegionRecord) : CFun :=
  let modified := disabledMeDescriptor descriptorStruct
  .printf (printDescriptorRegionLocations descriptorStruct "Original"
      ++ printDescriptorRegionLocations modified "Modified" ++ ["\n"])
    (createFiles lib modified)

/-- The ROM size is found out for the terminal only. -/
def main (lib : CLib) (descriptorStruct : DescriptorRegionRecord) : CFun :=
  .orReturn1 systemOrCompilerIncompatible <|
  withFactoryRom lib fun fp =>
  withDescriptor fp descriptorStruct fun descriptorStruct =>
  withRomSize fp fun _ =>
  disableMe lib descriptorStruct

/-! ## The created file -/

theorem createFiles_delivers {lib : CLib} (h : (lib descriptorFilename).NoSilentLoss)
    (d : DescriptorRegionRecord) :
    (createFiles lib d).Delivers descriptorFilename d.toBytes :=
  (descriptor4kFile_delivers h d).orReturn1_left <|
  (writeTextFile_preserves lib _ _ (by decide)).orReturn1 <|
  (writeTextFile_preserves lib _ _ (by decide)).orReturn1 <|
  CFun.preserves_return0.printf _

/-- **The file of a successful run is the descriptor with the ME disabled.** -/
theorem main_creates_descriptor {lib : CLib} (hlib : (lib descriptorFilename).NoSilentLoss)
    {w : World} {I : Bytes} (hI : w.files romFilename = some I)
    (descriptorStruct : DescriptorRegionRecord) (h : (main lib descriptorStruct w).1 = some 0) :
    4096 ≤ I.length
      ∧ (main lib descriptorStruct w).2.files descriptorFilename
        = some (disabledMeDescriptor (.ofBytes I)).toBytes := by
  rw [main, systemOrCompilerIncompatible_eq, CFun.orReturn1_return0, withFactoryRom,
    fopenRead] at h ⊢
  cases hopens : (lib romFilename).opens with
  | false =>
    rw [hopens] at h
    cases h
  | true =>
    simp only [hopens, if_true, hI] at h ⊢
    by_cases hlen : 4096 ≤ I.length
    · rw [withDescriptor_of_le hlen] at h ⊢
      exact ⟨hlen, createFiles_delivers hlib _ _ h⟩
    · rw [withDescriptor_of_lt (by omega)] at h
      cases h

end Libreboot.Demefactory
