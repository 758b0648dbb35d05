import Libreboot.Infra.Fields
import Libreboot.Descriptor.Struct

/-!
# The layout of the flash descriptor

The bits of every field of `descriptor/descriptor.h`. A table lists the members of a struct of
bit-fields with their first bit and their width, as the compiler places them.

* `DescriptorRegionRecord.fields` — all fields of the descriptor, from the first bit to the last
* `DescriptorRegionRecord.sectionsAt` — where the sections begin
-/

namespace Libreboot

open Infra

/-! ## Scalar members -/

def uint8.fields : Fields uint8 := Fields.uint 1
def uint16.fields : Fields uint16 := Fields.uint 2
def uint32.fields : Fields uint32 := Fields.uint 4

def uint8s.fields {n : Nat} : Fields (uint8s n) := Fields.array uint8.fields

def uint16s.fields {n : Nat} : Fields (uint16s n) := Fields.array uint16.fields

/-! ## Signature, flash map and components -/

def FlValSig.fields : Fields FlValSig.overlay :=
  uint32.fields |>.struct

def FlMap0.fields : Fields FlMap0.overlay :=
  Fields.bitFields.struct.named
    [⟨0, 8, fcba⟩, ⟨8, 2, nc⟩, ⟨10, 6, reserved1⟩, ⟨16, 8, frba⟩, ⟨24, 3, nr⟩, ⟨27, 5, reserved2⟩]

def FlMap1.fields : Fields FlMap1.overlay :=
  Fields.bitFields.struct.named
    [⟨0, 8, fmba⟩, ⟨8, 3, nm⟩, ⟨11, 5, reserved⟩, ⟨16, 8, fisba⟩, ⟨24, 8, isl⟩]

def FlMap2.fields : Fields FlMap2.overlay :=
  Fields.bitFields.struct.named
    [⟨0, 8, fmsba⟩, ⟨8, 8, msl⟩, ⟨16, 16, reserved⟩]

def FlMaps.fields : Fields FlMaps.overlay :=
  FlMap0.fields |>.seq FlMap1.fields |>.seq FlMap2.fields |>.struct

def FlComp.fields : Fields FlComp.overlay :=
  Fields.bitFields.struct.named
    [⟨0, 3, component1Density⟩, ⟨3, 3, component2Density⟩, ⟨6, 2, reserved1⟩, ⟨8, 8, reserved2⟩,
     ⟨16, 1, reserved3⟩, ⟨17, 3, readClockFrequency⟩, ⟨20, 1, fastReadSupport⟩,
     ⟨21, 3, fastreadClockFrequency⟩, ⟨24, 3, writeEraseClockFrequency⟩,
     ⟨27, 3, readStatusClockFrequency⟩, ⟨30, 2, reserved4⟩]

def ComponentSectionRecord.fields : Fields ComponentSectionRecord.overlay :=
  FlComp.fields |>.seq uint32.fields |>.seq uint32.fields |>.seq uint8s.fields |>.struct

/-! ## Regions and masters -/

def FlReg.fields : Fields FlReg.overlay :=
  Fields.bitFields.struct.named
    [⟨0, 13, base⟩, ⟨13, 3, reserved1⟩, ⟨16, 13, limit⟩, ⟨29, 3, reserved2⟩]

def RegionSectionRecord.fields : Fields RegionSectionRecord.overlay :=
  FlReg.fields |>.seq FlReg.fields |>.seq FlReg.fields |>.seq FlReg.fields |>.seq FlReg.fields
    |>.seq uint8s.fields |>.struct

def FlMstr.fields : Fields FlMstr.overlay :=
  Fields.bitFields.struct.named
    [⟨0, 16, requesterId⟩, ⟨16, 1, fdRegionReadAccess⟩, ⟨17, 1, biosRegionReadAccess⟩,
     ⟨18, 1, meRegionReadAccess⟩, ⟨19, 1, gbeRegionReadAccess⟩, ⟨20, 1, pdRegionReadAccess⟩,
     ⟨21, 3, reserved1⟩, ⟨24, 1, fdRegionWriteAccess⟩, ⟨25, 1, biosRegionWriteAccess⟩,
     ⟨26, 1, meRegionWriteAccess⟩, ⟨27, 1, gbeRegionWriteAccess⟩, ⟨28, 1, pdRegionWriteAccess⟩,
     ⟨29, 3, reserved2⟩]

def MasterAccessSectionRecord.fields : Fields MasterAccessSectionRecord.overlay :=
  FlMstr.fields |>.seq FlMstr.fields |>.seq FlMstr.fields |>.seq uint8s.fields |>.struct

/-! ## Soft straps -/

def IchStrap0.fields : Fields IchStrap0.overlay :=
  Fields.bitFields.struct.named
    [⟨0, 1, meDisable⟩, ⟨1, 6, reserved1⟩, ⟨7, 1, tcoMode⟩, ⟨8, 7, smBusAddress⟩, ⟨15, 1, bmcMode⟩,
     ⟨16, 1, tripPointSelect⟩, ⟨17, 2, reserved2⟩, ⟨19, 1, integratedGbe⟩, ⟨20, 1, lanPhy⟩,
     ⟨21, 3, reserved3⟩, ⟨24, 1, dmiRequesterId⟩, ⟨25, 7, smBus2Address⟩]

def IchStrap1.fields : Fields IchStrap1.overlay :=
  Fields.bitFields.struct.named
    [⟨0, 1, northMlink⟩, ⟨1, 1, southMlink⟩, ⟨2, 1, meSmbus⟩, ⟨3, 1, sstDynamic⟩, ⟨4, 4, reserved1⟩,
     ⟨8, 1, northMlink2⟩, ⟨9, 7, reserved2⟩, ⟨16, 16, reserved3⟩]

def IchStrapsRecord.fields : Fields IchStrapsRecord.overlay :=
  IchStrap0.fields |>.seq IchStrap1.fields |>.seq uint8s.fields |>.struct

def MchStrap0.fields : Fields MchStrap0.overlay :=
  Fields.bitFields.struct.named
    [⟨0, 1, meDisable⟩, ⟨1, 1, meBootFromFlash⟩, ⟨2, 1, tpmDisable⟩, ⟨3, 3, reserved1⟩,
     ⟨6, 1, spiFingerprint⟩, ⟨7, 1, meAlternateDisable⟩, ⟨8, 8, reserved2⟩, ⟨16, 16, reserved3⟩]

def MchStrapsRecord.fields : Fields MchStrapsRecord.overlay :=
  MchStrap0.fields |>.seq uint8s.fields |>.struct

/-! ## ME VSCC table, second map and OEM section -/

def MeVsccTableRecord.fields : Fields MeVsccTableRecord.overlay :=
  uint32.fields |>.seq uint32.fields |>.seq uint32.fields |>.seq uint32.fields |>.seq uint32.fields
    |>.seq uint32.fields |>.seq uint8s.fields |>.struct

def DescriptorMap2Record.fields : Fields DescriptorMap2Record.overlay :=
  Fields.bitFields.struct.named
    [⟨0, 8, meVsccTableBaseAddress⟩, ⟨8, 8, meVsccTableLength⟩, ⟨16, 16, reserved⟩]

def OemSectionRecord.fields : Fields OemSectionRecord.overlay :=
  uint8s.fields |>.seq uint8s.fields |>.struct

/-! ## The descriptor region -/

/-- All fields of the descriptor. -/
def DescriptorRegionRecord.fields : Fields DescriptorRegionRecord.overlay :=
  FlValSig.fields |>.seq FlMaps.fields |>.seq ComponentSectionRecord.fields
    |>.seq RegionSectionRecord.fields |>.seq MasterAccessSectionRecord.fields
    |>.seq IchStrapsRecord.fields |>.seq MchStrapsRecord.fields |>.seq MeVsccTableRecord.fields
    |>.seq DescriptorMap2Record.fields |>.seq OemSectionRecord.fields |>.struct

/-- Where the sections begin, with their first registers. -/
structure DescriptorRegionRecord.SectionsAt (l : Bytes) (d : DescriptorRegionRecord) : Prop where
  flMaps : FlMaps.overlay.StoredAt l 0x04 d.flMaps
  flMap0 : FlMap0.overlay.StoredAt l 0x04 d.flMaps.flMap0
  componentSection : ComponentSectionRecord.overlay.StoredAt l 0x10 d.componentSection
  flcomp : FlComp.overlay.StoredAt l 0x10 d.componentSection.flcomp
  regionSection : RegionSectionRecord.overlay.StoredAt l 0x40 d.regionSection
  flReg0 : FlReg.overlay.StoredAt l 0x40 d.regionSection.flReg0
  masterAccessSection : MasterAccessSectionRecord.overlay.StoredAt l 0x60 d.masterAccessSection
  flMstr1 : FlMstr.overlay.StoredAt l 0x60 d.masterAccessSection.flMstr1
  ichStraps : IchStrapsRecord.overlay.StoredAt l 0x100 d.ichStraps
  ichStrap0 : IchStrap0.overlay.StoredAt l 0x100 d.ichStraps.ichStrap0
  mchStraps : MchStrapsRecord.overlay.StoredAt l 0x200 d.mchStraps
  mchStrap0 : MchStrap0.overlay.StoredAt l 0x200 d.mchStraps.mchStrap0
  meVsccTable : MeVsccTableRecord.overlay.StoredAt l 0xEE0 d.meVsccTable
  descriptor2Map : DescriptorMap2Record.overlay.StoredAt l 0xEFC d.descriptor2Map
  oemSection : OemSectionRecord.overlay.StoredAt l 0xF00 d.oemSection

/-- **The sections of a descriptor.** -/
theorem DescriptorRegionRecord.sectionsAt (d : DescriptorRegionRecord) :
    SectionsAt d.toBytes d := by
  have hat := Overlay.StoredAt.encode overlay d
  exact
    { flMaps := hat.member (·.flMaps) 0x04
      flMap0 := hat.member (·.flMaps.flMap0) 0x04
      componentSection := hat.member (·.componentSection) 0x10
      flcomp := hat.member (·.componentSection.flcomp) 0x10
      regionSection := hat.member (·.regionSection) 0x40
      flReg0 := hat.member (·.regionSection.flReg0) 0x40
      masterAccessSection := hat.member (·.masterAccessSection) 0x60
      flMstr1 := hat.member (·.masterAccessSection.flMstr1) 0x60
      ichStraps := hat.member (·.ichStraps) 0x100
      ichStrap0 := hat.member (·.ichStraps.ichStrap0) 0x100
      mchStraps := hat.member (·.mchStraps) 0x200
      mchStrap0 := hat.member (·.mchStraps.mchStrap0) 0x200
      meVsccTable := hat.member (·.meVsccTable) 0xEE0
      descriptor2Map := hat.member (·.descriptor2Map) 0xEFC
      oemSection := hat.member (·.oemSection) 0xF00 }

end Libreboot
