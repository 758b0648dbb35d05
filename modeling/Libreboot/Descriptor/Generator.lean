import Libreboot.Descriptor.Members
import Libreboot.Descriptor.Rewrite
import Libreboot.Infra.OutputFile

/-!
# The descriptor code generator

`notCreatedCFileFromDescriptorStruct` prints a C function `generatedDescriptorStruct` that is to
rebuild a descriptor. Most members are printed as literals, but the ones that depend on the ROM
size or on the presence of a GbE region are printed as expressions over the arguments.

The emitted body is a list of statements, in the order of the `fprintf` calls. Its text goes into
the file.
-/

namespace Libreboot

open Infra

/-! ## The emitted language -/

/-- The names that occur in the generated function. -/
inductive GenName where
  | romSize
  | hasGbe
  | descriptorRegionSize
  | gbeRegionSize8k
  | flRegionBitShift
  | componentDensityOfRomSize
  deriving DecidableEq

def GenName.text : GenName → String
  | romSize => "romSize"
  | hasGbe => "hasGbe"
  | descriptorRegionSize => "DESCRIPTORREGIONSIZE"
  | gbeRegionSize8k => "GBEREGIONSIZE_8K"
  | flRegionBitShift => "FLREGIONBITSHIFT"
  | componentDensityOfRomSize => "componentDensity(romSize)"

/-- What the names stand for in a call `generatedDescriptorStruct(romSize, hasGbe)`. -/
def GenName.value (romSize hasGbe : BitVec 32) : GenName → BitVec 32
  | .romSize => romSize
  | .hasGbe => hasGbe
  | .descriptorRegionSize => BitVec.ofNat 32 DESCRIPTORREGIONSIZE
  | .gbeRegionSize8k => BitVec.ofNat 32 GBEREGIONSIZE_8K
  | .flRegionBitShift => BitVec.ofNat 32 FLREGIONBITSHIFT
  | .componentDensityOfRomSize => (componentDensity romSize).setWidth 32

abbrev GenStmt (σ : Type) := Stmt σ GenName

variable {σ : Type}

/-- The line that sets a member to its printed value. -/
def printed {w : Nat} (m : LValue σ (BitVec w)) (width : Nat) (s : σ) : GenStmt σ :=
  .assign m (.ofHex width (m.get s)) ""

/-- The same line with the comment that points to `descriptor.c`. -/
def printedSee {w : Nat} (m : LValue σ (BitVec w)) (width : Nat) (s : σ) : GenStmt σ :=
  .assign m (.ofHex width (m.get s)) " /* see ../descriptor/descriptor.c */"

/-- The line that only shows, as a comment, the value a member had. -/
def shown {w : Nat} (path : String) (width : Nat) (v : BitVec w) (trail : String) : GenStmt σ :=
  .line ("    /* descriptorStruct." ++ path ++ " = 0x"
    ++ String.ofList (Hex.padded width v.toNat) ++ "; */" ++ trail)

/-- `hasGbe ? a : b` -/
def ifHasGbe (a b : Expr GenName) : Expr GenName := .cond (.atom .hasGbe) a b

/--
The padding of a section: a loop if all bytes are `0xFF`, otherwise byte by byte.

The source decides while it looks at the bytes from the first on. It stops at the first byte that
is not `0xFF` and, if there is none, at the last one.
-/
def emitPadding {n : Nat} (m : LValue σ (Vector (BitVec 8) n)) (padding : Vector (BitVec 8) n) :
    List (GenStmt σ) :=
  .line "    /* Padding */" ::
    ((List.finRange n).findSome? fun i =>
      if padding.get i ≠ 0xFF then some (Stmt.elements m 2 padding)
      else if i.val = n - 1 then some [.fill m (.hex ['F', 'F'])]
      else none).getD []

/-! ## The sections -/

def FlValSig.emit (s : FlValSig) : List (GenStmt FlValSig) := [
  .line "    /* Flash Valid Signature Register */",
  printed Member.signature 8 s,
  .line ""]

def FlMap0.emit (s : FlMap0) : List (GenStmt FlMap0) := [
  .line "    /* FLMAP0 */",
  printed Member.fcba 2 s,
  printed Member.nc 1 s,
  printed Member.reserved1 2 s,
  printed Member.frba 2 s,
  shown "flMaps.flMap0.NR" 1 s.nr " /* see ../descriptor/descriptor.c */",
  .assign Member.nr (ifHasGbe (.hex ['2']) (.hex ['1'])) " /* see ../descriptor/descriptor.c */",
  printed Member.reserved2 2 s]

def FlMap1.emit (s : FlMap1) : List (GenStmt FlMap1) := [
  .line "    /* FLMAP1 */",
  printed Member.fmba 2 s,
  printed Member.nm 1 s,
  printed Member.reserved 2 s,
  printed Member.fisba 2 s,
  printed Member.isl 2 s]

def FlMap2.emit (s : FlMap2) : List (GenStmt FlMap2) := [
  .line "    /* FLMAP2 */",
  printed Member.fmsba 2 s,
  printed Member.msl 2 s,
  printed Member.reserved 4 s]

def FlMaps.emit (s : FlMaps) : List (GenStmt FlMaps) :=
  [.line "    /* Flash Map Registers */"]
    ++ s.flMap0.emit.map (.within Member.flMap0)
    ++ s.flMap1.emit.map (.within Member.flMap1)
    ++ s.flMap2.emit.map (.within Member.flMap2)
    ++ [.line ""]

def FlComp.emit (s : FlComp) : List (GenStmt FlComp) := [
  .line "    /* FLCOMP */",
  shown "componentSection.flcomp.component1Density" 1 s.component1Density "",
  shown "componentSection.flcomp.component2Density" 1 s.component2Density "",
  .assign Member.component1Density (.atom .componentDensityOfRomSize) "",
  .assign Member.component2Density (.atom .componentDensityOfRomSize) "",
  printed Member.reserved1 1 s,
  printed Member.reserved2 2 s,
  printed Member.reserved3 1 s,
  printed Member.readClockFrequency 1 s,
  printed Member.fastReadSupport 1 s,
  printed Member.fastreadClockFrequency 1 s,
  printed Member.writeEraseClockFrequency 1 s,
  printed Member.readStatusClockFrequency 1 s,
  printed Member.reserved4 1 s]

def ComponentSectionRecord.emit (s : ComponentSectionRecord) :
    List (GenStmt ComponentSectionRecord) :=
  [.line "    /* Component Section Record */"]
    ++ s.flcomp.emit.map (.within Member.flcomp)
    ++ [.line "    /* FLILL */",
      printed Member.flill 8 s,
      .line "    /* FLPB */",
      printed Member.flpb 8 s]
    ++ emitPadding Member.padding s.padding
    ++ [.line ""]

/-- The descriptor region, which stays as it is. -/
def FlReg.emit0 (s : FlReg) : List (GenStmt FlReg) := [
  .line "    /* FLREG0 (Descriptor) */",
  printed Member.base 4 s,
  printed Member.reserved1 1 s,
  printed Member.limit 4 s,
  printed Member.reserved2 1 s]

/-- The BIOS region, computed from the arguments. -/
def FlReg.emit1 (s : FlReg) : List (GenStmt FlReg) := [
  .line "    /* FLREG1 (BIOS) */",
  shown "regionSection.flReg1.BASE" 4 s.base "",
  .assign Member.base
    (.shr (.paren (.add (.atom .descriptorRegionSize)
      (.paren (ifHasGbe (.atom .gbeRegionSize8k) (.dec 0))))) (.atom .flRegionBitShift))
    " /* see ../descriptor/descriptor.c */",
  printed Member.reserved1 1 s,
  shown "regionSection.flReg1.LIMIT" 4 s.limit "",
  .assign Member.limit
    (.paren (.sub (.paren (.shr (.atom .romSize) (.atom .flRegionBitShift))) (.dec 1)))
    " /* see ../descriptor/descriptor.c */",
  printed Member.reserved2 1 s]

/-- The ME or the platform region, printed as it is. -/
def FlReg.emit24 (comment : String) (s : FlReg) : List (GenStmt FlReg) := [
  .line comment,
  printedSee Member.base 4 s,
  printed Member.reserved1 1 s,
  printedSee Member.limit 4 s,
  printed Member.reserved2 1 s]

/-- The GbE region, computed from the arguments. -/
def FlReg.emit3 (s : FlReg) : List (GenStmt FlReg) := [
  .line "    /* FLREG3 (Gbe) */",
  shown "regionSection.flReg3.BASE" 4 s.base "",
  .assign Member.base
    (ifHasGbe (.paren (.shr (.atom .descriptorRegionSize) (.atom .flRegionBitShift)))
      (.hex ['1', 'f', 'f', 'f']))
    " /* see ../descriptor/descriptor.c */",
  printed Member.reserved1 1 s,
  shown "regionSection.flReg3.LIMIT" 4 s.limit "",
  .assign Member.limit
    (ifHasGbe (.paren (.shr (.atom .gbeRegionSize8k) (.atom .flRegionBitShift)))
      (.hex ['0', '0', '0', '0']))
    " /* see ../descriptor/descriptor.c */",
  printed Member.reserved2 1 s]

def RegionSectionRecord.emit (s : RegionSectionRecord) : List (GenStmt RegionSectionRecord) :=
  [.line "    /* Flash Descriptor Region Section */"]
    ++ s.flReg0.emit0.map (.within Member.flReg0)
    ++ s.flReg1.emit1.map (.within Member.flReg1)
    ++ (s.flReg2.emit24 "    /* FLREG2 (ME) */").map (.within Member.flReg2)
    ++ s.flReg3.emit3.map (.within Member.flReg3)
    ++ (s.flReg4.emit24 "    /* FLREG4 (Platform) */").map (.within Member.flReg4)
    ++ emitPadding Member.padding s.padding
    ++ [.line ""]

/-- A master whose access bits are the tool's choice. -/
def FlMstr.emitSee (comment : String) (s : FlMstr) : List (GenStmt FlMstr) := [
  .line comment,
  printed Member.requesterId 4 s,
  printedSee Member.fdRegionReadAccess 1 s,
  printedSee Member.biosRegionReadAccess 1 s,
  printedSee Member.meRegionReadAccess 1 s,
  printedSee Member.gbeRegionReadAccess 1 s,
  printedSee Member.pdRegionReadAccess 1 s,
  printed Member.reserved1 1 s,
  printedSee Member.fdRegionWriteAccess 1 s,
  printedSee Member.biosRegionWriteAccess 1 s,
  printedSee Member.meRegionWriteAccess 1 s,
  printedSee Member.gbeRegionWriteAccess 1 s,
  printedSee Member.pdRegionWriteAccess 1 s,
  printed Member.reserved2 1 s]

/-- A master that the tool leaves alone. -/
def FlMstr.emit (comment : String) (s : FlMstr) : List (GenStmt FlMstr) := [
  .line comment,
  printed Member.requesterId 4 s,
  printed Member.fdRegionReadAccess 1 s,
  printed Member.biosRegionReadAccess 1 s,
  printed Member.meRegionReadAccess 1 s,
  printed Member.gbeRegionReadAccess 1 s,
  printed Member.pdRegionReadAccess 1 s,
  printed Member.reserved1 1 s,
  printed Member.fdRegionWriteAccess 1 s,
  printed Member.biosRegionWriteAccess 1 s,
  printed Member.meRegionWriteAccess 1 s,
  printed Member.gbeRegionWriteAccess 1 s,
  printed Member.pdRegionWriteAccess 1 s,
  printed Member.reserved2 1 s]

def MasterAccessSectionRecord.emit (s : MasterAccessSectionRecord) :
    List (GenStmt MasterAccessSectionRecord) :=
  [.line "    /* Master Access Section */"]
    ++ (s.flMstr1.emitSee "    /* FLMSTR1 (Host CPU / BIOS) */").map (.within Member.flMstr1)
    ++ (s.flMstr2.emitSee "    /* FLMSTR2 (ME) */").map (.within Member.flMstr2)
    ++ (s.flMstr3.emit "    /* FLMSTR3 (Gbe) */").map (.within Member.flMstr3)
    ++ emitPadding Member.padding s.padding
    ++ [.line ""]

def IchStrap0.emit (s : IchStrap0) : List (GenStmt IchStrap0) := [
  .line "    /* ICHSTRAP0 */",
  printedSee Member.meDisable 1 s,
  printed Member.reserved1 2 s,
  printed Member.tcoMode 1 s,
  printed Member.smBusAddress 2 s,
  printed Member.bmcMode 1 s,
  printed Member.tripPointSelect 1 s,
  printed Member.reserved2 1 s,
  .assign Member.integratedGbe (ifHasGbe (.hex ['1']) (.hex ['0'])) "",
  .assign Member.lanPhy (ifHasGbe (.hex ['1']) (.hex ['0'])) "",
  printed Member.reserved3 1 s,
  printed Member.dmiRequesterId 1 s,
  printed Member.smBus2Address 2 s]

def IchStrap1.emit (s : IchStrap1) : List (GenStmt IchStrap1) := [
  .line "    /* ICHSTRAP1 */",
  printed Member.northMlink 1 s,
  printed Member.southMlink 1 s,
  printed Member.meSmbus 1 s,
  printed Member.sstDynamic 1 s,
  printed Member.reserved1 1 s,
  printed Member.northMlink2 1 s,
  printed Member.reserved2 2 s,
  printed Member.reserved3 4 s]

def IchStrapsRecord.emit (s : IchStrapsRecord) : List (GenStmt IchStrapsRecord) :=
  [.line "    /* ICH straps */"]
    ++ s.ichStrap0.emit.map (.within Member.ichStrap0)
    ++ s.ichStrap1.emit.map (.within Member.ichStrap1)
    ++ emitPadding Member.padding s.padding
    ++ [.line ""]

def MchStrap0.emit (s : MchStrap0) : List (GenStmt MchStrap0) := [
  .line "    /* MCHSTRAP0 */",
  printedSee Member.meDisable 1 s,
  printed Member.meBootFromFlash 1 s,
  printedSee Member.tpmDisable 1 s,
  printed Member.reserved1 1 s,
  printed Member.spiFingerprint 1 s,
  printed Member.meAlternateDisable 1 s,
  printed Member.reserved2 2 s,
  printed Member.reserved3 4 s]

def MchStrapsRecord.emit (s : MchStrapsRecord) : List (GenStmt MchStrapsRecord) :=
  [.line "    /* MCH straps */"]
    ++ s.mchStrap0.emit.map (.within Member.mchStrap0)
    ++ emitPadding Member.padding s.padding
    ++ [.line ""]

def MeVsccTableRecord.emit (s : MeVsccTableRecord) : List (GenStmt MeVsccTableRecord) :=
  [.line "    /* ME VSCC Table */",
    printed Member.jid0 8 s,
    printed Member.vscc0 8 s,
    printed Member.jid1 8 s,
    printed Member.vscc1 8 s,
    printed Member.jid2 8 s,
    printed Member.vscc2 8 s]
    ++ emitPadding Member.padding s.padding
    ++ [.line ""]

def DescriptorMap2Record.emit (s : DescriptorMap2Record) :
    List (GenStmt DescriptorMap2Record) := [
  .line "    /* Descriptor Map 2 Record */",
  printed Member.meVsccTableBaseAddress 2 s,
  printed Member.meVsccTableLength 2 s,
  printed Member.reserved 4 s,
  .line ""]

def OemSectionRecord.emit (s : OemSectionRecord) : List (GenStmt OemSectionRecord) :=
  [.line "    /* OEM section */",
    .line "    /* see ../descriptor/descriptor.c */",
    .line "    /* Magic String (ascii characters) */"]
    ++ Stmt.elements Member.magicString 2 s.magicString
    ++ emitPadding Member.padding s.padding
    ++ [.line ""]

/-- The assignments of the generated function. -/
def DescriptorRegionRecord.emit (s : DescriptorRegionRecord) :
    List (GenStmt DescriptorRegionRecord) :=
  s.flValSig.emit.map (.within Member.flValSig)
    ++ s.flMaps.emit.map (.within Member.flMaps)
    ++ s.componentSection.emit.map (.within Member.componentSection)
    ++ s.regionSection.emit.map (.within Member.regionSection)
    ++ s.masterAccessSection.emit.map (.within Member.masterAccessSection)
    ++ s.ichStraps.emit.map (.within Member.ichStraps)
    ++ s.mchStraps.emit.map (.within Member.mchStraps)
    ++ s.meVsccTable.emit.map (.within Member.meVsccTable)
    ++ s.descriptor2Map.emit.map (.within Member.descriptor2Map)
    ++ s.oemSection.emit.map (.within Member.oemSection)

/-! ## The files -/

/-- The text of `mkdescriptor.c`. -/
def descriptorSource (d : DescriptorRegionRecord) (outFileName headerFileName : String) :
    List String :=
  ["/* " ++ outFileName ++ ": generated C code from ich9deblob */\n",
    "/* .c source file for the descriptor-generating C code */\n\n",
    "#include \"" ++ headerFileName ++ "\"\n\n",
    "/* Generate a 4KiB Descriptor struct, with default values. */\n",
    "/* Read ../descriptor/descriptor.h for an explanation of the default values used here */\n\n",
    "struct DESCRIPTORREGIONRECORD generatedDescriptorStruct(unsigned int romSize, int hasGbe)\n",
    "\x7b\n",
    "    int i;\n",
    "    struct DESCRIPTORREGIONRECORD descriptorStruct;\n",
    "\n"]
    ++ (d.emit.map (.within (.var "descriptorStruct"))).flatMap (Stmt.render GenName.text)
    ++ ["    return descriptorStruct;\n", "\x7d\n\n"]

def notCreatedCFileFromDescriptorStruct (lib : CLib) (d : DescriptorRegionRecord)
    (outFileName headerFileName : String) : CFun :=
  writeTextFile lib outFileName (descriptorSource d outFileName headerFileName)

def notCreatedHFileForDescriptorCFile (lib : CLib) (outFileName cFileName : String) : CFun :=
  writeTextFile lib outFileName
    ["/* " ++ outFileName ++ ": generated C code from ich9deblob */\n",
      "/* .h header file for the descriptor-generating C code (" ++ cFileName ++ ") */\n\n",
      "#ifndef ICH9GEN_MKDESCRIPTOR_H\n",
      "#define ICH9GEN_MKDESCRIPTOR_H\n\n",
      "#include <stdio.h>\n",
      "#include <string.h>\n",
      "#include \"../descriptor/descriptor.h\"\n\n",
      "struct DESCRIPTORREGIONRECORD generatedDescriptorStruct(unsigned int romSize, int hasGbe);\n",
      "#endif\n"]

end Libreboot
