import Libreboot.Common.DescriptorGbe
import Libreboot.Common.FactoryRom
import Libreboot.Common.X86Compatibility
import Libreboot.Descriptor.Generator
import Libreboot.Gbe.Generator

/-!
# ich9deblob

The program `ich9deblob.c`: read the descriptor and the GbE region of a factory image, rewrite
both, and create the file to be flashed and the C code for `ich9gen`.

The two local structs are uninitialised, so their contents are arguments of `main`. The GbE test is
made again before each use of the GbE struct.
-/

namespace Libreboot.Ich9deblob

open Infra

def descriptorGbeFilename : String := "deblobbed_descriptor.bin"

def descriptorNoGbeFilename : String := "deblobbed_4kdescriptor.bin"

/-- Where the descriptor says that the GbE region begins. -/
def gbeRegionStart (d : DescriptorRegionRecord) : Nat :=
  d.regionSection.flReg3.base.toNat <<< FLREGIONBITSHIFT

/-- Read the GbE region over the contents of a local variable, if there is one. -/
def withGbeRegion (fp : Bytes) (descriptorStruct : DescriptorRegionRecord)
    (gbeStruct8k : GbeRegionRecord8k) (k : GbeRegionRecord8k → CFun) : CFun :=
  if descriptorDefinesGbeRegion descriptorStruct ≠ 0 then
    let (bufferLength, gbeBuffer8k) :=
      fread fp (gbeRegionStart descriptorStruct) GBEREGIONSIZE_8K gbeStruct8k.toBytes
    if GBEREGIONSIZE_8K ≠ bufferLength then
      .printf ["\nerror: could not read GBe region from " ++ romFilename ++ " ("
        ++ toString bufferLength ++ ") bytes read\n"] .return1
    else
      .printf ["\ngbe (8KiB) region read successfully\n"] (k (.ofBytes gbeBuffer8k))
  else k gbeStruct8k

/-- Debugging output, before and after modification. -/
def showRegions (d : DescriptorRegionRecord) (g : GbeRegionRecord8k) (romName : String) :
    List String :=
  printDescriptorRegionLocations d romName
    ++ if descriptorDefinesGbeRegion d ≠ 0 then printGbeChecksumDataFromStruct8k g romName
      else ["NO GBE REGION\n"]

/-- The GbE struct is rewritten only if the descriptor defines a GbE region. -/
def modifiedGbe (d : DescriptorRegionRecord) (g : GbeRegionRecord8k) : GbeRegionRecord8k :=
  if descriptorDefinesGbeRegion d ≠ 0 then deblobbedGbeStructFromFactory g else g

/-- Create the file with the modified descriptor, and GbE if there is one. -/
def createImageFile (lib : CLib) (d : DescriptorRegionRecord) (g : GbeRegionRecord8k) : CFun :=
  if descriptorDefinesGbeRegion d ≠ 0 then
    notCreatedDescriptorGbeFile lib d g descriptorGbeFilename
  else notCreated4kDescriptorFile lib d descriptorNoGbeFilename

/-- Code for the GbE struct, from its backup block. -/
def createGbeSource (lib : CLib) (d : DescriptorRegionRecord) (g : GbeRegionRecord8k) : CFun :=
  if descriptorDefinesGbeRegion d ≠ 0 then
    .orReturn1 (notCreatedHFileForGbeCFile lib "mkgbe.h" "mkgbe.c")
      (notCreatedCFileFromGbeStruct4k lib g.backup "mkgbe.c" "mkgbe.h")
  else .return0

def closingWords (d : DescriptorRegionRecord) : List String :=
  if descriptorDefinesGbeRegion d ≠ 0 then
    ["The modified descriptor and gbe regions have also been dumped as src files: "
        ++ "mkdescriptor.c, mkdescriptor.h, mkgbe.c, mkgbe.h\n",
      "To use these in ich9gen, place them in src/ich9gen/ and re-build ich9gen.\n\n"]
  else
    ["The modified descriptor region have also been dumped as src files: "
        ++ "mkdescriptor.c, mkdescriptor.h\n",
      "To use these in ich9gen, place them in src/ich9gen/ and re-build ich9gen.\n\n"]

/-- All files, from the modified structs. -/
def createFiles (lib : CLib) (d : DescriptorRegionRecord) (g : GbeRegionRecord8k) : CFun :=
  .orReturn1 (createImageFile lib d g) <|
  .orReturn1 (notCreatedHFileForDescriptorCFile lib "mkdescriptor.h" "mkdescriptor.c") <|
  .orReturn1 (notCreatedCFileFromDescriptorStruct lib d "mkdescriptor.c" "mkdescriptor.h") <|
  .orReturn1 (createGbeSource lib d g) <|
  .printf (closingWords d) .return0

/-- Modify both regions, and create the files. -/
def deblob (lib : CLib) (descriptorStruct : DescriptorRegionRecord)
    (gbeStruct8k : GbeRegionRecord8k) (romSize : BitVec 32) : CFun :=
  let modified := deblobbedDescriptor descriptorStruct romSize
  let modifiedGbe8k := modifiedGbe modified gbeStruct8k
  .printf (showRegions descriptorStruct gbeStruct8k "Original"
      ++ showRegions modified modifiedGbe8k "Modified" ++ ["\n"])
    (createFiles lib modified modifiedGbe8k)

def main (lib : CLib) (descriptorStruct : DescriptorRegionRecord)
    (gbeStruct8k : GbeRegionRecord8k) : CFun :=
  .orReturn1 systemOrCompilerIncompatible <|
  withFactoryRom lib fun fp =>
  withDescriptor fp descriptorStruct fun descriptorStruct =>
  withGbeRegion fp descriptorStruct gbeStruct8k fun gbeStruct8k =>
  withRomSize fp fun romSize =>
  deblob lib descriptorStruct gbeStruct8k romSize

end Libreboot.Ich9deblob
