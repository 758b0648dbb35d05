import Libreboot.Descriptor.Absorb
import Libreboot.Descriptor.Source

/-!
# The descriptor that ich9gen ships

`ich9gen/mkdescriptor.c` was once written by the generator and has been kept by hand since. It
assigns every member of its local struct exactly once, from its arguments only, so it is stated
here as one struct value.

It agrees with both programs it could drift from: deblobbing its result changes nothing but the
ROM size, and printing its result as C code gives the same function again.
-/

namespace Libreboot

open Infra

/-- `GBEREGIONSIZE_8K` or nothing, depending on whether there is a GbE region. -/
def gbeSizeIf (hasGbe : BitVec 32) : BitVec 32 :=
  if hasGbe ≠ 0 then BitVec.ofNat 32 GBEREGIONSIZE_8K else 0

/-- The function in `ich9gen/mkdescriptor.c`. -/
def generatedDescriptorStruct (romSize hasGbe : BitVec 32) : DescriptorRegionRecord where
  flValSig.signature := 0x0ff0a55a
  flMaps.flMap0 :=
    { fcba := 0x01
      nc := 0x0
      reserved1 := 0x00
      frba := 0x04
      nr := if hasGbe ≠ 0 then 0x2 else 0x1
      reserved2 := 0x00 }
  flMaps.flMap1 :=
    { fmba := 0x06
      nm := 0x2
      reserved := 0x00
      fisba := 0x10
      isl := 0x02 }
  flMaps.flMap2 :=
    { fmsba := 0x20
      msl := 0x01
      reserved := 0x0000 }
  componentSection.flcomp :=
    { component1Density := (componentDensity romSize).setWidth 3
      component2Density := (componentDensity romSize).setWidth 3
      reserved1 := 0x0
      reserved2 := 0x00
      reserved3 := 0x0
      readClockFrequency := 0x0
      fastReadSupport := 0x1
      fastreadClockFrequency := 0x1
      writeEraseClockFrequency := 0x0
      readStatusClockFrequency := 0x0
      reserved4 := 0x0 }
  componentSection.flill := 0x00000000
  componentSection.flpb := 0x00000000
  componentSection.padding := Vector.replicate 36 0xFF
  regionSection.flReg0 :=
    { base := 0x0000
      reserved1 := 0x0
      limit := 0x0000
      reserved2 := 0x0 }
  regionSection.flReg1 :=
    { base :=
        ((BitVec.ofNat 32 DESCRIPTORREGIONSIZE + gbeSizeIf hasGbe) >>> FLREGIONBITSHIFT).setWidth 13
      reserved1 := 0x0
      limit := ((romSize >>> FLREGIONBITSHIFT) - 1).setWidth 13
      reserved2 := 0x0 }
  regionSection.flReg2 :=
    { base := 0x1fff
      reserved1 := 0x0
      limit := 0x0000
      reserved2 := 0x0 }
  regionSection.flReg3 :=
    { base :=
        if hasGbe ≠ 0 then BitVec.ofNat 13 (DESCRIPTORREGIONSIZE >>> FLREGIONBITSHIFT) else 0x1fff
      reserved1 := 0x0
      limit :=
        if hasGbe ≠ 0 then BitVec.ofNat 13 (GBEREGIONSIZE_8K >>> FLREGIONBITSHIFT) else 0x0000
      reserved2 := 0x0 }
  regionSection.flReg4 :=
    { base := 0x1fff
      reserved1 := 0x0
      limit := 0x0000
      reserved2 := 0x0 }
  regionSection.padding := Vector.replicate 12 0xFF
  masterAccessSection.flMstr1 :=
    { requesterId := 0x0000
      fdRegionReadAccess := 0x1
      biosRegionReadAccess := 0x1
      meRegionReadAccess := 0x1
      gbeRegionReadAccess := 0x1
      pdRegionReadAccess := 0x1
      reserved1 := 0x0
      fdRegionWriteAccess := 0x1
      biosRegionWriteAccess := 0x1
      meRegionWriteAccess := 0x1
      gbeRegionWriteAccess := 0x1
      pdRegionWriteAccess := 0x1
      reserved2 := 0x0 }
  masterAccessSection.flMstr2 :=
    { requesterId := 0x0000
      fdRegionReadAccess := 0x0
      biosRegionReadAccess := 0x0
      meRegionReadAccess := 0x0
      gbeRegionReadAccess := 0x0
      pdRegionReadAccess := 0x0
      reserved1 := 0x0
      fdRegionWriteAccess := 0x0
      biosRegionWriteAccess := 0x0
      meRegionWriteAccess := 0x0
      gbeRegionWriteAccess := 0x0
      pdRegionWriteAccess := 0x0
      reserved2 := 0x0 }
  masterAccessSection.flMstr3 :=
    { requesterId := 0x0218
      fdRegionReadAccess := 0x0
      biosRegionReadAccess := 0x0
      meRegionReadAccess := 0x0
      gbeRegionReadAccess := 0x1
      pdRegionReadAccess := 0x0
      reserved1 := 0x0
      fdRegionWriteAccess := 0x0
      biosRegionWriteAccess := 0x0
      meRegionWriteAccess := 0x0
      gbeRegionWriteAccess := 0x1
      pdRegionWriteAccess := 0x0
      reserved2 := 0x0 }
  masterAccessSection.padding := Vector.replicate 148 0xFF
  ichStraps.ichStrap0 :=
    { meDisable := 0x1
      reserved1 := 0x04
      tcoMode := 0x1
      smBusAddress := 0x64
      bmcMode := 0x0
      tripPointSelect := 0x0
      reserved2 := 0x0
      integratedGbe := if hasGbe ≠ 0 then 0x1 else 0x0
      lanPhy := if hasGbe ≠ 0 then 0x1 else 0x0
      reserved3 := 0x0
      dmiRequesterId := 0x0
      smBus2Address := 0x00 }
  ichStraps.ichStrap1 :=
    { northMlink := 0x1
      southMlink := 0x1
      meSmbus := 0x1
      sstDynamic := 0x1
      reserved1 := 0x0
      northMlink2 := 0x1
      reserved2 := 0x00
      reserved3 := 0x0000 }
  ichStraps.padding := Vector.replicate 248 0xFF
  mchStraps.mchStrap0 :=
    { meDisable := 0x1
      meBootFromFlash := 0x0
      tpmDisable := 0x1
      reserved1 := 0x7
      spiFingerprint := 0x1
      meAlternateDisable := 0x0
      reserved2 := 0xff
      reserved3 := 0xffff }
  mchStraps.padding := Vector.replicate 3292 0xFF
  meVsccTable :=
    { jid0 := 0x001720c2
      vscc0 := 0x20052005
      jid1 := 0x001730ef
      vscc1 := 0x20052005
      jid2 := 0x0000481f
      vscc2 := 0x20152015
      padding := Vector.replicate 4 0xFF }
  descriptor2Map :=
    { meVsccTableBaseAddress := 0xee
      meVsccTableLength := 0x06
      reserved := 0x0000 }
  oemSection :=
    { magicString := #v[0x4c, 0x49, 0x42, 0x45, 0x52, 0x41, 0x54, 0x45]
      padding := Vector.replicate 248 0xFF }

/-! ## Agreement with the tools -/

/-- The shipped function depends on `hasGbe` as a truth value only. -/
theorem generated_eq_deblobbedAs (romSize hasGbe : BitVec 32) :
    generatedDescriptorStruct romSize hasGbe
      = deblobbedAs (hasGbe != 0) (generatedDescriptorStruct romSize hasGbe) romSize := by
  by_cases h : hasGbe = 0
  · subst h
    rfl
  · have hne : (hasGbe != 0) = true := by simpa using h
    rw [hne]
    unfold generatedDescriptorStruct gbeSizeIf
    simp only [ne_eq, h, not_false_eq_true, if_true]
    rfl

theorem definesGbe_generated (romSize hasGbe : BitVec 32) :
    definesGbe (generatedDescriptorStruct romSize hasGbe) = (hasGbe != 0) := by
  rw [generated_eq_deblobbedAs, definesGbe_deblobbedAs]

/-- Only the four kinds of dependent members tell two shipped descriptors apart. -/
theorem generated_deblobbedAs (romSize romSize' hasGbe hasGbe' : BitVec 32) :
    deblobbedAs (hasGbe' != 0) (generatedDescriptorStruct romSize hasGbe) romSize'
      = (generatedDescriptorStruct romSize' hasGbe').withDensities (densityField romSize) := by
  rw [generated_eq_deblobbedAs romSize' hasGbe']
  rfl

/--
**The shipped descriptor agrees with the tools.** Deblobbing it for its own ROM size changes
nothing, deblobbing it for another ROM size leaves only the density codes behind, and the C code
in the file that is written for it computes the shipped function again.
-/
theorem generated_agrees (romSize romSize' romSize'' hasGbe hasGbe' : BitVec 32)
    (descriptorStruct : DescriptorRegionRecord) :
    let d := deblobbedDescriptor (generatedDescriptorStruct romSize hasGbe) romSize'
    deblobbedDescriptor (generatedDescriptorStruct romSize hasGbe) romSize
        = generatedDescriptorStruct romSize hasGbe
      ∧ d = (generatedDescriptorStruct romSize' hasGbe).withDensities
          ((componentDensity romSize).setWidth 3)
      ∧ (∀ (lib : CLib) (w : World), (lib "mkdescriptor.c").Reliable →
          (notCreatedCFileFromDescriptorStruct lib d "mkdescriptor.c" "mkdescriptor.h" w).2.files
            "mkdescriptor.c" = some (descriptorSourceFile d))
      ∧ runDescriptorSource (descriptorSourceFile d) descriptorStruct romSize'' hasGbe'
        = some (generatedDescriptorStruct romSize'' hasGbe') := by
  intro d
  have hdeblob : ∀ r, deblobbedDescriptor (generatedDescriptorStruct romSize hasGbe) r
      = deblobbedAs (hasGbe != 0) (generatedDescriptorStruct romSize hasGbe) r := by
    intro r
    rw [deblobbedDescriptor_eq, definesGbe_generated]
  have hd : d = deblobbedAs (hasGbe != 0) (generatedDescriptorStruct romSize hasGbe) romSize' :=
    hdeblob romSize'
  refine ⟨?_, ?_, fun lib w hlib => descriptorSourceFile_written hlib d w, ?_⟩
  · rw [hdeblob, ← generated_eq_deblobbedAs]
  · rw [hd, generated_deblobbedAs]
    rfl
  · rw [runDescriptorSource_file, hd, regenerated_deblobbedAs, generated_deblobbedAs]
    rfl

end Libreboot
