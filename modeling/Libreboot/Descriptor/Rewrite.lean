import Libreboot.Descriptor.Struct

/-!
# Rewriting the descriptor

The functions of `descriptor/descriptor.c` that turn a factory descriptor into one for libreboot,
and the two sequences of them that `ich9deblob` and `demefactory` run.

* `deblobbedDescriptor` — the sequence of `ich9deblob`
* `disabledMeDescriptor` — the sequence of `demefactory`

Every setter is an assignment to named members. The only decision is the GbE test, and
`deblobbedDescriptor_eq` states the whole sequence as one update that depends on nothing else.
-/

namespace Libreboot

/-! ## Single setters -/

/-- The host CPU may read and write every region. -/
def descriptorHostRegionsUnlocked (d : DescriptorRegionRecord) : DescriptorRegionRecord :=
  { d with
    masterAccessSection.flMstr1.fdRegionReadAccess := 0x1
    masterAccessSection.flMstr1.biosRegionReadAccess := 0x1
    masterAccessSection.flMstr1.meRegionReadAccess := 0x1
    masterAccessSection.flMstr1.gbeRegionReadAccess := 0x1
    masterAccessSection.flMstr1.pdRegionReadAccess := 0x1
    masterAccessSection.flMstr1.fdRegionWriteAccess := 0x1
    masterAccessSection.flMstr1.biosRegionWriteAccess := 0x1
    masterAccessSection.flMstr1.meRegionWriteAccess := 0x1
    masterAccessSection.flMstr1.gbeRegionWriteAccess := 0x1
    masterAccessSection.flMstr1.pdRegionWriteAccess := 0x1 }

/-- The ME may neither read nor write any region. -/
def descriptorMeRegionsForbidden (d : DescriptorRegionRecord) : DescriptorRegionRecord :=
  { d with
    masterAccessSection.flMstr2.fdRegionReadAccess := 0x0
    masterAccessSection.flMstr2.biosRegionReadAccess := 0x0
    masterAccessSection.flMstr2.meRegionReadAccess := 0x0
    masterAccessSection.flMstr2.gbeRegionReadAccess := 0x0
    masterAccessSection.flMstr2.pdRegionReadAccess := 0x0
    masterAccessSection.flMstr2.fdRegionWriteAccess := 0x0
    masterAccessSection.flMstr2.biosRegionWriteAccess := 0x0
    masterAccessSection.flMstr2.meRegionWriteAccess := 0x0
    masterAccessSection.flMstr2.gbeRegionWriteAccess := 0x0
    masterAccessSection.flMstr2.pdRegionWriteAccess := 0x0 }

def descriptorMeRegionRemoved (d : DescriptorRegionRecord) : DescriptorRegionRecord :=
  { d with
    regionSection.flReg2.base := 0x1FFF
    regionSection.flReg2.limit := 0 }

def descriptorPlatformRegionRemoved (d : DescriptorRegionRecord) : DescriptorRegionRecord :=
  { d with
    regionSection.flReg4.base := 0x1FFF
    regionSection.flReg4.limit := 0 }

def descriptorDisableMe (d : DescriptorRegionRecord) : DescriptorRegionRecord :=
  { d with
    ichStraps.ichStrap0.meDisable := 1
    mchStraps.mchStrap0.meDisable := 1 }

def descriptorDisableTpm (d : DescriptorRegionRecord) : DescriptorRegionRecord :=
  { d with mchStraps.mchStrap0.tpmDisable := 1 }

/-- The GbE region begins right behind the descriptor. -/
def descriptorMoveGbeToStart (d : DescriptorRegionRecord) : DescriptorRegionRecord :=
  { d with
    regionSection.flReg3.base := BitVec.ofNat 13 (DESCRIPTORREGIONSIZE >>> FLREGIONBITSHIFT)
    regionSection.flReg3.limit := BitVec.ofNat 13 (GBEREGIONSIZE_8K >>> FLREGIONBITSHIFT) }

def descriptorGbeRegionRemoved (d : DescriptorRegionRecord) : DescriptorRegionRecord :=
  { d with
    regionSection.flReg3.base := 0x1FFF
    regionSection.flReg3.limit := 0 }

/-- The last page of the BIOS region, as assigned to the 13-bit member. -/
def biosLimit (romSize : BitVec 32) : BitVec 13 := ((romSize >>> FLREGIONBITSHIFT) - 1).setWidth 13

/-- The subtraction wraps below one page, and the member keeps 13 bits. -/
theorem toNat_biosLimit (romSize : BitVec 32) :
    (biosLimit romSize).toNat = (2 ^ 32 - 1 + romSize.toNat / 4096) % 2 ^ 32 % 2 ^ 13 := by
  rw [biosLimit, BitVec.toNat_setWidth, BitVec.toNat_sub, BitVec.toNat_ushiftRight,
    Nat.shiftRight_eq_div_pow]
  rfl

def descriptorBiosRegionFillImageAfterGbe (d : DescriptorRegionRecord) (romSize : BitVec 32) :
    DescriptorRegionRecord :=
  { d with
    regionSection.flReg1.base :=
      BitVec.ofNat 13 ((DESCRIPTORREGIONSIZE + GBEREGIONSIZE_8K) >>> FLREGIONBITSHIFT)
    regionSection.flReg1.limit := biosLimit romSize }

def descriptorBiosRegionFillImageAfterDescriptor (d : DescriptorRegionRecord)
    (romSize : BitVec 32) : DescriptorRegionRecord :=
  { d with
    regionSection.flReg1.base := BitVec.ofNat 13 (DESCRIPTORREGIONSIZE >>> FLREGIONBITSHIFT)
    regionSection.flReg1.limit := biosLimit romSize }

/-- `LIBERATE` in ASCII. -/
def liberate : Array (BitVec 8) := #[0x4C, 0x49, 0x42, 0x45, 0x52, 0x41, 0x54, 0x45]

def oemString : Vector (BitVec 8) 8 := ⟨liberate, rfl⟩

def descriptorOemString (d : DescriptorRegionRecord) : DescriptorRegionRecord :=
  { d with oemSection.magicString := oemString }

/-! ## The GbE test -/

/-- Whether the descriptor defines a GbE region, as a C truth value. -/
def descriptorDefinesGbeRegion (d : DescriptorRegionRecord) : BitVec 32 :=
  if (d.regionSection.flReg3.base = 0x1FFF ∨ d.regionSection.flReg3.base = 0xFFF)
      ∧ d.regionSection.flReg3.limit = 0 then 0
  else if d.ichStraps.ichStrap0.integratedGbe = 0 ∨ d.ichStraps.ichStrap0.lanPhy = 0 then 0
  else 1

theorem descriptorDefinesGbeRegion_eq_zero_or_one (d : DescriptorRegionRecord) :
    descriptorDefinesGbeRegion d = 0 ∨ descriptorDefinesGbeRegion d = 1 := by
  unfold descriptorDefinesGbeRegion
  split
  · exact Or.inl rfl
  · split
    · exact Or.inl rfl
    · exact Or.inr rfl

/-! ## The libreboot layout -/

def librebootSetGbeBiosDescriptorRegions (d : DescriptorRegionRecord) (romSize : BitVec 32) :
    DescriptorRegionRecord :=
  if descriptorDefinesGbeRegion d ≠ 0 then
    -- three regions: descriptor, GbE and BIOS
    let d := { d with flMaps.flMap0.nr := 2 }
    let d := descriptorMoveGbeToStart d
    let d := descriptorBiosRegionFillImageAfterGbe d romSize
    { d with
      ichStraps.ichStrap0.integratedGbe := 0x1
      ichStraps.ichStrap0.lanPhy := 0x1 }
  else
    -- two regions: descriptor and BIOS
    let d := { d with flMaps.flMap0.nr := 1 }
    let d := descriptorGbeRegionRemoved d
    let d := descriptorBiosRegionFillImageAfterDescriptor d romSize
    { d with
      ichStraps.ichStrap0.integratedGbe := 0x0
      ichStraps.ichStrap0.lanPhy := 0x0 }

/-- The density code of the flash component for a ROM size. -/
def componentDensity (romSizeInBytes : BitVec 32) : BitVec 8 :=
  if romSizeInBytes = BitVec.ofNat 32 ROMSIZE_512KB then 0
  else if romSizeInBytes = BitVec.ofNat 32 ROMSIZE_1MB then 1
  else if romSizeInBytes = BitVec.ofNat 32 ROMSIZE_2MB then 2
  else if romSizeInBytes = BitVec.ofNat 32 ROMSIZE_4MB then 3
  else if romSizeInBytes = BitVec.ofNat 32 ROMSIZE_8MB then 4
  else if romSizeInBytes = BitVec.ofNat 32 ROMSIZE_16MB then 5
  -- no density code for this size
  else 0x7

def librebootDescriptorStructFromFactory (d : DescriptorRegionRecord) (romSize : BitVec 32) :
    DescriptorRegionRecord :=
  let d := librebootSetGbeBiosDescriptorRegions d romSize
  let d := descriptorMeRegionRemoved d
  let d := descriptorPlatformRegionRemoved d
  let d := descriptorDisableMe d
  descriptorDisableTpm d

/-! ## The two tools -/

/-- What `ich9deblob` does to a descriptor. -/
def deblobbedDescriptor (d : DescriptorRegionRecord) (romSize : BitVec 32) :
    DescriptorRegionRecord :=
  let d := librebootDescriptorStructFromFactory d romSize
  let d := descriptorMeRegionsForbidden d
  let d := descriptorHostRegionsUnlocked d
  descriptorOemString d

/-- What `demefactory` does to a descriptor. -/
def disabledMeDescriptor (d : DescriptorRegionRecord) : DescriptorRegionRecord :=
  let d := descriptorDisableMe d
  let d := descriptorDisableTpm d
  let d := descriptorHostRegionsUnlocked d
  descriptorMeRegionsForbidden d

/-! ## One update -/

/-- The same access to all five regions; the requester and the reserved bits stay. -/
def FlMstr.withAccess (m : FlMstr) (access : BitVec 1) : FlMstr :=
  ⟨m.requesterId, access, access, access, access, access, m.reserved1, access, access, access,
    access, access, m.reserved2⟩

/-- A region register with a new range; its reserved bits stay. -/
def FlReg.withRange (g : FlReg) (base limit : BitVec 13) : FlReg :=
  { g with base := base, limit := limit }

/-- The region section for libreboot: BIOS behind GbE if there is one, no ME and no platform. -/
def RegionSectionRecord.libreboot (s : RegionSectionRecord) (gbe : Bool) (romSize : BitVec 32) :
    RegionSectionRecord :=
  { s with
    flReg1 := s.flReg1.withRange (bif gbe then 3 else 1) (biosLimit romSize)
    flReg2 := s.flReg2.withRange 0x1FFF 0
    flReg3 := s.flReg3.withRange (bif gbe then 1 else 0x1FFF) (bif gbe then 2 else 0)
    flReg4 := s.flReg4.withRange 0x1FFF 0 }

/-- The deblobbed descriptor as one update, with or without a GbE region. -/
def deblobbedAs (gbe : Bool) (d : DescriptorRegionRecord) (romSize : BitVec 32) :
    DescriptorRegionRecord :=
  { d with
    flMaps.flMap0.nr := bif gbe then 2 else 1
    regionSection := d.regionSection.libreboot gbe romSize
    masterAccessSection.flMstr1 := d.masterAccessSection.flMstr1.withAccess 1
    masterAccessSection.flMstr2 := d.masterAccessSection.flMstr2.withAccess 0
    ichStraps.ichStrap0.meDisable := 1
    ichStraps.ichStrap0.integratedGbe := bif gbe then 1 else 0
    ichStraps.ichStrap0.lanPhy := bif gbe then 1 else 0
    mchStraps.mchStrap0.meDisable := 1
    mchStraps.mchStrap0.tpmDisable := 1
    oemSection.magicString := oemString }

/-- The GbE test as a truth value. -/
def definesGbe (d : DescriptorRegionRecord) : Bool := descriptorDefinesGbeRegion d != 0

theorem definesGbe_eq_true {d : DescriptorRegionRecord} :
    definesGbe d = true ↔ descriptorDefinesGbeRegion d ≠ 0 := by
  simp [definesGbe]

/-- **The sequence of `ich9deblob` is one update,** steered by the GbE test alone. -/
theorem deblobbedDescriptor_eq (d : DescriptorRegionRecord) (romSize : BitVec 32) :
    deblobbedDescriptor d romSize = deblobbedAs (definesGbe d) d romSize := by
  unfold deblobbedDescriptor librebootDescriptorStructFromFactory
    librebootSetGbeBiosDescriptorRegions
  -- on either side the setters write the members of the update one after the other
  by_cases h : descriptorDefinesGbeRegion d ≠ 0
  · rw [if_pos h, definesGbe_eq_true.mpr h]
    rfl
  · have hfalse : definesGbe d = false := by simpa [definesGbe] using h
    rw [if_neg h, hfalse]
    rfl

/-- The sequence of `demefactory` as one update. -/
theorem disabledMeDescriptor_eq (d : DescriptorRegionRecord) :
    disabledMeDescriptor d =
      { d with
        masterAccessSection.flMstr1 := d.masterAccessSection.flMstr1.withAccess 1
        masterAccessSection.flMstr2 := d.masterAccessSection.flMstr2.withAccess 0
        ichStraps.ichStrap0.meDisable := 1
        mchStraps.mchStrap0.meDisable := 1
        mchStraps.mchStrap0.tpmDisable := 1 } := rfl

end Libreboot
