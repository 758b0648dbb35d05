import Libreboot.Descriptor.Regenerate

/-!
# The tools absorb each other

`deblobbedDescriptor`, `disabledMeDescriptor` and the generated function write overlapping sets of
members. Whatever is applied last decides, because

* none of them moves the GbE test except to the value it was told (`definesGbe_deblobbedAs`,
  `definesGbe_disabledMe`), and
* a member that is written is written with a value that depends on nothing else that is written.

The results below are equalities of whole descriptors.
-/

namespace Libreboot

/-! ## The GbE test -/

/-- The rewritten descriptor gives the answer that the rewriting was based on. -/
theorem definesGbe_deblobbedAs (gbe : Bool) (d : DescriptorRegionRecord) (romSize : BitVec 32) :
    definesGbe (deblobbedAs gbe d romSize) = gbe := by
  cases gbe <;> rfl

/-- **The GbE test is an invariant of the whole sequence.** -/
theorem definesGbe_deblobbed (d : DescriptorRegionRecord) (romSize : BitVec 32) :
    definesGbe (deblobbedDescriptor d romSize) = definesGbe d := by
  rw [deblobbedDescriptor_eq, definesGbe_deblobbedAs]

theorem descriptorDefinesGbeRegion_eq (d : DescriptorRegionRecord) :
    descriptorDefinesGbeRegion d = bif definesGbe d then 1 else 0 := by
  rcases descriptorDefinesGbeRegion_eq_zero_or_one d with h | h
  · rw [definesGbe, h]
    rfl
  · rw [definesGbe, h]
    rfl

/-- Descriptors with the same answer give the same C value. -/
theorem descriptorDefinesGbeRegion_congr {d d' : DescriptorRegionRecord}
    (h : definesGbe d = definesGbe d') :
    descriptorDefinesGbeRegion d = descriptorDefinesGbeRegion d' := by
  rw [descriptorDefinesGbeRegion_eq, descriptorDefinesGbeRegion_eq, h]

theorem definesGbe_disabledMe (d : DescriptorRegionRecord) :
    definesGbe (disabledMeDescriptor d) = definesGbe d := rfl

/-! ## Deblobbing again -/

theorem deblobbedAs_deblobbedAs (gbe gbe' : Bool) (d : DescriptorRegionRecord)
    (romSize romSize' : BitVec 32) :
    deblobbedAs gbe' (deblobbedAs gbe d romSize) romSize' = deblobbedAs gbe' d romSize' := rfl

/-- **Deblobbing a deblobbed descriptor** only adapts it to the ROM size. -/
theorem deblobbed_deblobbed (d : DescriptorRegionRecord) (romSize romSize' : BitVec 32) :
    deblobbedDescriptor (deblobbedDescriptor d romSize) romSize'
      = deblobbedDescriptor d romSize' := by
  rw [deblobbedDescriptor_eq (deblobbedDescriptor d romSize), definesGbe_deblobbed,
    deblobbedDescriptor_eq d romSize, deblobbedAs_deblobbedAs, ← deblobbedDescriptor_eq]

/-! ## Deblobbing and disabling the ME -/

theorem disabledMe_disabledMe (d : DescriptorRegionRecord) :
    disabledMeDescriptor (disabledMeDescriptor d) = disabledMeDescriptor d := by
  rw [disabledMeDescriptor_eq d, disabledMeDescriptor_eq]
  rfl

theorem deblobbedAs_disabledMe (gbe : Bool) (d : DescriptorRegionRecord) (romSize : BitVec 32) :
    deblobbedAs gbe (disabledMeDescriptor d) romSize = deblobbedAs gbe d romSize := rfl

theorem deblobbed_disabledMe (d : DescriptorRegionRecord) (romSize : BitVec 32) :
    deblobbedDescriptor (disabledMeDescriptor d) romSize = deblobbedDescriptor d romSize := by
  rw [deblobbedDescriptor_eq, definesGbe_disabledMe, deblobbedAs_disabledMe,
    ← deblobbedDescriptor_eq]

theorem disabledMe_deblobbed (d : DescriptorRegionRecord) (romSize : BitVec 32) :
    disabledMeDescriptor (deblobbedDescriptor d romSize) = deblobbedDescriptor d romSize := by
  rw [deblobbedDescriptor_eq]
  rfl

/-! ## Deblobbing and regenerating -/

/-- Both density codes of the flash components. -/
def DescriptorRegionRecord.withDensities (d : DescriptorRegionRecord) (density : BitVec 3) :
    DescriptorRegionRecord :=
  { d with
    componentSection.flcomp.component1Density := density
    componentSection.flcomp.component2Density := density }

/-- The density code that the generated function stores. -/
def densityField (romSize : BitVec 32) : BitVec 3 := (componentDensity romSize).setWidth 3

/-- The generated function decides about GbE anew, and it alone writes the densities. -/
theorem regenerated_deblobbedAs (gbe gbe' : Bool) (d : DescriptorRegionRecord)
    (romSize romSize' : BitVec 32) :
    regenerated (deblobbedAs gbe d romSize) romSize' gbe'
      = (deblobbedAs gbe' d romSize').withDensities (densityField romSize') := rfl

/-- Two descriptors that differ at most in what the GbE test looks at. -/
structure SameExceptGbe (d d' : DescriptorRegionRecord) : Prop where
  eq : d' = { d with
    regionSection.flReg3.base := d'.regionSection.flReg3.base
    regionSection.flReg3.limit := d'.regionSection.flReg3.limit
    ichStraps.ichStrap0.integratedGbe := d'.ichStraps.ichStrap0.integratedGbe
    ichStraps.ichStrap0.lanPhy := d'.ichStraps.ichStrap0.lanPhy }

theorem deblobbedAs_congr {d d' : DescriptorRegionRecord} (h : SameExceptGbe d d') (gbe : Bool)
    (romSize : BitVec 32) : deblobbedAs gbe d' romSize = deblobbedAs gbe d romSize := by
  rw [h.eq]
  rfl

end Libreboot
