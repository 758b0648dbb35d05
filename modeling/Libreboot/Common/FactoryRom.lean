import Libreboot.Descriptor.Struct
import Libreboot.Gbe.Checksum
import Libreboot.Infra.Hex
import Libreboot.Infra.OutputFile

/-!
# Reading the factory image

`ich9deblob` and `demefactory` begin in the same way: they open `factory.rom`, read the descriptor
into a local struct, find out the size of the image and print where the regions are. The local
struct is uninitialised, so its contents are an argument; a complete read leaves nothing of them
(`withDescriptor_of_le`).
-/

namespace Libreboot

open Infra

def romFilename : String := "factory.rom"

/-! ## Debugging output -/

/-- One line of `printDescriptorRegionLocations`. -/
def regionLocation (romName region : String) (r : FlReg) : String :=
  romName ++ ": " ++ region ++ " start block: "
    ++ Hex.format 8 (r.base.toNat <<< FLREGIONBITSHIFT) ++ " ; " ++ region ++ " end block: "
    ++ Hex.format 8 (r.limit.toNat <<< FLREGIONBITSHIFT) ++ "\n"

def printDescriptorRegionLocations (d : DescriptorRegionRecord) (romName : String) : List String :=
  ["\n",
    regionLocation romName "Descriptor" d.regionSection.flReg0,
    regionLocation romName "BIOS" d.regionSection.flReg1,
    regionLocation romName "ME" d.regionSection.flReg2,
    regionLocation romName "GBe" d.regionSection.flReg3,
    regionLocation romName "Platform" d.regionSection.flReg4]

def printGbeChecksumDataFromStruct4k (g : GbeRegionRecord4k) (romName regionName : String) :
    List String :=
  [romName ++ " Gbe (" ++ regionName ++ "): calculated Gbe checksum: 0x"
    ++ Hex.format 1 (gbeGetChecksumFrom4kStruct g GBECHECKSUMTOTAL).toNat
    ++ " and actual GBe checksum: 0x" ++ Hex.format 1 g.checkSum.toNat ++ "\n"]

def printGbeChecksumDataFromStruct8k (g : GbeRegionRecord8k) (romName : String) : List String :=
  printGbeChecksumDataFromStruct4k g.main romName "main"
    ++ printGbeChecksumDataFromStruct4k g.backup romName "backup"

/-! ## Reading -/

/-- Open the image, or close the null stream. -/
def withFactoryRom (lib : CLib) (k : Bytes → CFun) : CFun := fun w =>
  match fopenRead lib romFilename w with
  -- the null stream is passed to `fclose`
  | none => (none, w.printf ("\nerror: could not open " ++ romFilename ++ "\n"))
  | some fp => CFun.printf ["\n" ++ romFilename ++ " opened successfully\n"] (k fp) w

/-- Read the descriptor over the contents of a local variable. -/
def withDescriptor (fp : Bytes) (descriptorStruct : DescriptorRegionRecord)
    (k : DescriptorRegionRecord → CFun) : CFun :=
  let (bufferLength, descriptorBuffer) := fread fp 0 DESCRIPTORREGIONSIZE descriptorStruct.toBytes
  if DESCRIPTORREGIONSIZE ≠ bufferLength then
    .printf ["\nerror: could not read descriptor from " ++ romFilename ++ " ("
      ++ toString bufferLength ++ ") bytes read\n"] .return1
  else
    .printf ["\ndescriptor region read successfully\n"] (k (.ofBytes descriptorBuffer))

/-- The size of the image, kept in an `unsigned int` and printed as an `int`. -/
def withRomSize (fp : Bytes) (k : BitVec 32 → CFun) : CFun :=
  let romSize := BitVec.ofNat 32 fp.length
  .printf ["\n" ++ romFilename ++ " size: [" ++ toString romSize.toInt ++ "] bytes\n"] (k romSize)

/-! ## What is read -/

/-- Only the first 4 KiB of a buffer are the descriptor. -/
theorem DescriptorRegionRecord.ofBytes_take {l : Bytes} (h : 4096 ≤ l.length) :
    ofBytes (l.take 4096) = ofBytes l := by
  have hback := ofBytes_toBytes_append (ofBytes l) []
  rwa [List.append_nil, toBytes_ofBytes h] at hback

/-- Only the first 8 KiB of a buffer are the GbE region. -/
theorem GbeRegionRecord8k.ofBytes_take {l : Bytes} (h : 8192 ≤ l.length) :
    ofBytes (l.take 8192) = ofBytes l := by
  have hback := ofBytes_toBytes_append (ofBytes l) []
  rwa [List.append_nil, toBytes_ofBytes h] at hback

theorem withDescriptor_of_le {fp : Bytes} (h : 4096 ≤ fp.length)
    (descriptorStruct : DescriptorRegionRecord) (k : DescriptorRegionRecord → CFun) :
    withDescriptor fp descriptorStruct k
      = .printf ["\ndescriptor region read successfully\n"] (k (.ofBytes fp)) := by
  have hread : (fread fp 0 4096 descriptorStruct.toBytes).1 = 4096 :=
    ((fread_fst_eq_iff fp 0 4096 descriptorStruct.toBytes).mpr (by rwa [List.drop_zero])).symm
  have hbuffer : (fread fp 0 4096 descriptorStruct.toBytes).2 = fp.take 4096 := by
    rw [fread_snd_of_le descriptorStruct.length_toBytes (by rwa [List.drop_zero]), List.drop_zero]
  unfold withDescriptor DESCRIPTORREGIONSIZE
  simp only [hread, hbuffer, ne_eq, not_true_eq_false, if_false,
    DescriptorRegionRecord.ofBytes_take h]

/-- A file that is too short ends the run. -/
theorem withDescriptor_of_lt {fp : Bytes} (h : fp.length < 4096)
    (descriptorStruct : DescriptorRegionRecord) (k : DescriptorRegionRecord → CFun) :
    withDescriptor fp descriptorStruct k
      = .printf ["\nerror: could not read descriptor from " ++ romFilename ++ " ("
        ++ toString fp.length ++ ") bytes read\n"] .return1 := by
  have hread : (fread fp 0 4096 descriptorStruct.toBytes).1 = fp.length := by
    rw [fread, List.drop_zero, List.take_of_length_le (by omega)]
  have hne : 4096 ≠ fp.length := by omega
  unfold withDescriptor DESCRIPTORREGIONSIZE
  simp only [hread, ne_eq, hne, not_false_eq_true, if_true]

end Libreboot
