import Mathlib.Tactic.SplitIfs
import Libreboot.Descriptor.Frame
import Libreboot.Ich9gen.MkDescriptor

/-!
# Self-writing code

Both tools print a C function that is meant to recreate the descriptor they have just written. The
generator computes ten members from the arguments of that function instead of printing them. What
the function returns is read from the text of the file.

* For the descriptors of `ich9deblob` these are the members that `ich9deblob` itself derives from
  the ROM size and the GbE test, apart from the two density codes, which it leaves alone
  (`generated_faithful`).
* `demefactory` derives nothing and keeps the factory layout. Its descriptor can be recreated
  exactly when the factory layout is the one of libreboot already (`demefactory_recreates_iff`).
-/

namespace Libreboot

open Infra

/-! ## Recreating a deblobbed descriptor -/

theorem withDensities_eq_self_iff (d : DescriptorRegionRecord) (density : BitVec 3) :
    d.withDensities density = d ↔
      d.componentSection.flcomp.component1Density = density
        ∧ d.componentSection.flcomp.component2Density = density := by
  constructor
  · intro h
    rw [← h]
    exact ⟨rfl, rfl⟩
  · rintro ⟨h1, h2⟩
    have hself : d.withDensities d.componentSection.flcomp.component1Density
        = { d with
            componentSection.flcomp.component2Density :=
              d.componentSection.flcomp.component1Density } := rfl
    rw [← h1, hself, h1, ← h2]

/-- The generated function, applied to the size and the GbE test of another descriptor. -/
theorem runSource_deblobbed {d d' : DescriptorRegionRecord} (hsame : SameExceptGbe d d')
    {hasGbe : BitVec 32} (hgbe : descriptorDefinesGbeRegion d' ≠ 0 ↔ hasGbe ≠ 0)
    (romSize romSize' : BitVec 32) (descriptorStruct : DescriptorRegionRecord) :
    runDescriptorSource (descriptorSourceFile (deblobbedDescriptor d romSize)) descriptorStruct
        romSize' hasGbe
      = some ((deblobbedDescriptor d' romSize').withDensities (densityField romSize')) := by
  have htest : definesGbe d' = (hasGbe != 0) := by
    rw [Bool.eq_iff_iff, definesGbe_eq_true, hgbe, bne_iff_ne]
  rw [runDescriptorSource_file, deblobbedDescriptor_eq, regenerated_deblobbedAs,
    deblobbedDescriptor_eq, htest, deblobbedAs_congr hsame]

theorem SameExceptGbe.refl (d : DescriptorRegionRecord) : SameExceptGbe d d := ⟨rfl⟩

/--
**Code generation is faithful.** If nothing fails, `mkdescriptor.c` holds the code for the deblobbed
descriptor. The function that is read from it returns, at any arguments and from any contents of
its local struct, the deblobbed descriptor for these arguments with the density codes of the ROM
size. At the arguments that the descriptor was made with, the 4 KiB are the same outside the
density codes, and the same altogether if and only if the factory descriptor announced that density
for both components.
-/
theorem generated_faithful (d d' descriptorStruct : DescriptorRegionRecord)
    (romSize romSize' hasGbe : BitVec 32) (hsame : SameExceptGbe d d')
    (hgbe : descriptorDefinesGbeRegion d' ≠ 0 ↔ hasGbe ≠ 0) :
    let deblobbed := deblobbedDescriptor d romSize
    let source := descriptorSourceFile deblobbed
    (∀ (lib : CLib) (w : World), (lib "mkdescriptor.c").Reliable →
        (notCreatedCFileFromDescriptorStruct lib deblobbed "mkdescriptor.c" "mkdescriptor.h"
          w).2.files "mkdescriptor.c" = some source)
      ∧ runDescriptorSource source descriptorStruct romSize' hasGbe
        = some ((deblobbedDescriptor d' romSize').withDensities
          ((componentDensity romSize').setWidth 3))
      ∧ ∃ generated,
        runDescriptorSource source descriptorStruct romSize (descriptorDefinesGbeRegion d)
          = some generated
        ∧ (∀ p < 8 * 4096, ¬ inBits 0x10 0 5 p →
            bit generated.toBytes p = bit deblobbed.toBytes p)
        ∧ (generated.toBytes = deblobbed.toBytes ↔
            d.componentSection.flcomp.component1Density = (componentDensity romSize).setWidth 3
              ∧ d.componentSection.flcomp.component2Density
                = (componentDensity romSize).setWidth 3) := by
  intro deblobbed source
  have hown : runDescriptorSource source descriptorStruct romSize (descriptorDefinesGbeRegion d)
      = some (deblobbed.withDensities (densityField romSize)) :=
    runSource_deblobbed (.refl d) Iff.rfl romSize romSize descriptorStruct
  refine ⟨fun lib w hlib => descriptorSourceFile_written hlib deblobbed w,
    runSource_deblobbed hsame hgbe romSize romSize' descriptorStruct, _, hown, ?_, ?_⟩
  · intro p hp hdensity
    exact withDensities_sameBits _ _ p hp (by simpa using hdensity)
  · have hcomponent : deblobbed.componentSection = d.componentSection := by
      show (deblobbedDescriptor d romSize).componentSection = _
      rw [deblobbedDescriptor_eq]
      rfl
    rw [DescriptorRegionRecord.overlay.encode_injective.eq_iff, withDensities_eq_self_iff,
      hcomponent]
    rfl

/-- A descriptor of zeros, printed without a GbE region and run with one. -/
theorem generated_faithful_zeros :
    let zeros := DescriptorRegionRecord.ofBytes []
    let gbe := { zeros with
      ichStraps.ichStrap0.integratedGbe := 1
      ichStraps.ichStrap0.lanPhy := 1 }
    runDescriptorSource (descriptorSourceFile (deblobbedDescriptor zeros 0x400000)) zeros 0x800000 1
      = some ((deblobbedDescriptor gbe 0x800000).withDensities 4) :=
  (generated_faithful (.ofBytes []) _ (.ofBytes []) 0x400000 0x800000 1 ⟨rfl⟩ (by decide)).2.1

/-! ## Which sizes can be announced -/

/-- The last page of the BIOS region is the last page of a flash component of that density. -/
def AnnouncesSize (density : BitVec 3) (limit : BitVec 13) : Prop :=
  density = 7 ∨ ∃ k < 6, density = BitVec.ofNat 3 k ∧ limit = BitVec.ofNat 13 (2 ^ (7 + k) - 1)

theorem announcesSize_densityField (romSize : BitVec 32) :
    AnnouncesSize (densityField romSize) (biosLimit romSize) := by
  unfold densityField componentDensity AnnouncesSize
  split_ifs with h0 h1 h2 h3 h4 h5
  · exact Or.inr ⟨0, by decide, rfl, by rw [h0]; rfl⟩
  · exact Or.inr ⟨1, by decide, rfl, by rw [h1]; rfl⟩
  · exact Or.inr ⟨2, by decide, rfl, by rw [h2]; rfl⟩
  · exact Or.inr ⟨3, by decide, rfl, by rw [h3]; rfl⟩
  · exact Or.inr ⟨4, by decide, rfl, by rw [h4]; rfl⟩
  · exact Or.inr ⟨5, by decide, rfl, by rw [h5]; rfl⟩
  · exact Or.inl rfl

/-- An odd ROM size ends the BIOS region on any page and announces no density. -/
theorem exists_romSize_of_limit (limit : BitVec 13) :
    ∃ romSize, densityField romSize = 7 ∧ biosLimit romSize = limit := by
  have hlimit := limit.isLt
  -- one byte more than whole pages, so the page count is right and no density has this size
  have hsize : (BitVec.ofNat 32 ((limit.toNat + 1) * 4096 + 1)).toNat
      = (limit.toNat + 1) * 4096 + 1 := by
    rw [BitVec.toNat_ofNat, Nat.mod_eq_of_lt (by omega)]
  have hne : ∀ n < 2 ^ 32, n % 2 = 0 →
      BitVec.ofNat 32 ((limit.toNat + 1) * 4096 + 1) ≠ BitVec.ofNat 32 n := by
    intro n hlt heven heq
    have := congrArg BitVec.toNat heq
    rw [hsize, BitVec.toNat_ofNat, Nat.mod_eq_of_lt hlt] at this
    omega
  refine ⟨BitVec.ofNat 32 ((limit.toNat + 1) * 4096 + 1), ?_, ?_⟩
  · unfold densityField componentDensity
    rw [if_neg (hne _ (by decide) (by decide)), if_neg (hne _ (by decide) (by decide)),
      if_neg (hne _ (by decide) (by decide)), if_neg (hne _ (by decide) (by decide)),
      if_neg (hne _ (by decide) (by decide)), if_neg (hne _ (by decide) (by decide))]
    rfl
  · apply BitVec.eq_of_toNat_eq
    rw [toNat_biosLimit, hsize]
    omega

theorem exists_romSize_iff (density : BitVec 3) (limit : BitVec 13) :
    (∃ romSize, densityField romSize = density ∧ biosLimit romSize = limit)
      ↔ AnnouncesSize density limit := by
  constructor
  · rintro ⟨romSize, rfl, rfl⟩
    exact announcesSize_densityField romSize
  · rintro (rfl | ⟨k, hk, rfl, rfl⟩)
    · exact exists_romSize_of_limit limit
    · refine ⟨BitVec.ofNat 32 (2 ^ (19 + k)), ?_⟩
      have hall : ∀ k < 6, densityField (BitVec.ofNat 32 (2 ^ (19 + k))) = BitVec.ofNat 3 k
          ∧ biosLimit (BitVec.ofNat 32 (2 ^ (19 + k))) = BitVec.ofNat 13 (2 ^ (7 + k) - 1) := by
        decide
      exact hall k hk

/-! ## Recreating a descriptor that keeps its layout -/

/-- The region count, the start of BIOS, the GbE region and its straps are those of libreboot. -/
structure LibrebootLayout (d : DescriptorRegionRecord) (gbe : Bool) : Prop where
  nr : d.flMaps.flMap0.nr = bif gbe then 2 else 1
  biosBase : d.regionSection.flReg1.base = bif gbe then 3 else 1
  gbeBase : d.regionSection.flReg3.base = bif gbe then 1 else 0x1FFF
  gbeLimit : d.regionSection.flReg3.limit = bif gbe then 2 else 0
  integratedGbe : d.ichStraps.ichStrap0.integratedGbe = bif gbe then 1 else 0
  lanPhy : d.ichStraps.ichStrap0.lanPhy = bif gbe then 1 else 0

/-- Printing and running a descriptor gives it back when every computed member is as computed. -/
theorem regenerated_eq_self_iff (d : DescriptorRegionRecord) (romSize : BitVec 32) (gbe : Bool) :
    regenerated d romSize gbe = d ↔
      LibrebootLayout d gbe
        ∧ d.componentSection.flcomp.component1Density = densityField romSize
        ∧ d.componentSection.flcomp.component2Density = densityField romSize
        ∧ d.regionSection.flReg1.limit = biosLimit romSize := by
  constructor
  · intro h
    refine ⟨⟨?_, ?_, ?_, ?_, ?_, ?_⟩, ?_, ?_, ?_⟩ <;> rw [← h] <;> rfl
  · -- every other member is copied, so these nine equations are all there is to show
    rintro ⟨⟨hnr, hbios, hbase, hlimit, hgbe, hphy⟩, h1, h2, hend⟩
    have hmap0 : (regenerated d romSize gbe).flMaps.flMap0 = d.flMaps.flMap0 :=
      FlMap0.ext rfl rfl rfl rfl hnr.symm rfl
    have hcomp : (regenerated d romSize gbe).componentSection.flcomp = d.componentSection.flcomp :=
      FlComp.ext h1.symm h2.symm rfl rfl rfl rfl rfl rfl rfl rfl rfl
    have hreg1 : (regenerated d romSize gbe).regionSection.flReg1 = d.regionSection.flReg1 :=
      FlReg.ext hbios.symm rfl hend.symm rfl
    have hreg3 : (regenerated d romSize gbe).regionSection.flReg3 = d.regionSection.flReg3 :=
      FlReg.ext hbase.symm rfl hlimit.symm rfl
    have hstrap0 : (regenerated d romSize gbe).ichStraps.ichStrap0 = d.ichStraps.ichStrap0 :=
      IchStrap0.ext rfl rfl rfl rfl rfl rfl rfl hgbe.symm hphy.symm rfl rfl rfl
    exact DescriptorRegionRecord.ext rfl (FlMaps.ext hmap0 rfl rfl)
      (ComponentSectionRecord.ext hcomp rfl rfl rfl)
      (RegionSectionRecord.ext rfl hreg1 rfl hreg3 rfl rfl) rfl
      (IchStrapsRecord.ext hstrap0 rfl rfl) rfl rfl rfl rfl

theorem exists_regenerated_eq_self_iff (d : DescriptorRegionRecord) :
    (∃ romSize gbe, regenerated d romSize gbe = d) ↔
      (∃ gbe, LibrebootLayout d gbe)
        ∧ d.componentSection.flcomp.component1Density
            = d.componentSection.flcomp.component2Density
        ∧ AnnouncesSize d.componentSection.flcomp.component1Density
            d.regionSection.flReg1.limit := by
  simp only [regenerated_eq_self_iff, ← exists_romSize_iff]
  constructor
  · rintro ⟨romSize, gbe, hlayout, h1, h2, hlimit⟩
    exact ⟨⟨gbe, hlayout⟩, by rw [h1, h2], romSize, h1.symm, hlimit.symm⟩
  · rintro ⟨⟨gbe, hlayout⟩, h12, romSize, h1, hlimit⟩
    exact ⟨romSize, gbe, hlayout, h1.symm, by rw [← h12, h1], hlimit.symm⟩

/-- A factory descriptor: five regions, and GbE behind the ME. -/
def factoryDescriptor : DescriptorRegionRecord :=
  { generatedDescriptorStruct 0x800000 1 with
    flMaps.flMap0.nr := 4
    regionSection.flReg1 := ⟨0x600, 0, 0x7FF, 0⟩
    regionSection.flReg2 := ⟨0x001, 0, 0x5F5, 0⟩
    regionSection.flReg3 := ⟨0x5F6, 0, 0x5F7, 0⟩
    regionSection.flReg4 := ⟨0x5F8, 0, 0x5FF, 0⟩
    ichStraps.ichStrap0.meDisable := 0
    mchStraps.mchStrap0.meDisable := 0 }

/--
**`demefactory` can recreate a descriptor exactly when it has the layout of libreboot.** Then the
region count, the start of BIOS, the GbE region and the GbE straps are those that the generator
computes, and the densities announce the ROM size at which the BIOS region ends.
-/
theorem demefactory_recreates_iff (d : DescriptorRegionRecord) :
    (∃ romSize hasGbe, ∀ descriptorStruct,
        runDescriptorSource (descriptorSourceFile (disabledMeDescriptor d)) descriptorStruct
          romSize hasGbe = some (disabledMeDescriptor d)) ↔
      (∃ gbe, LibrebootLayout d gbe)
        ∧ d.componentSection.flcomp.component1Density
            = d.componentSection.flcomp.component2Density
        ∧ AnnouncesSize d.componentSection.flcomp.component1Density
            d.regionSection.flReg1.limit := by
  have hlayout : ∀ gbe, LibrebootLayout (disabledMeDescriptor d) gbe ↔ LibrebootLayout d gbe :=
    fun gbe => ⟨fun ⟨a, b, c, d, e, f⟩ => ⟨a, b, c, d, e, f⟩,
      fun ⟨a, b, c, d, e, f⟩ => ⟨a, b, c, d, e, f⟩⟩
  have hiff := exists_regenerated_eq_self_iff (disabledMeDescriptor d)
  simp only [hlayout] at hiff
  refine Iff.trans ?_ hiff
  simp only [runDescriptorSource_file, Option.some.injEq]
  constructor
  · rintro ⟨romSize, hasGbe, h⟩
    exact ⟨romSize, hasGbe != 0, h d⟩
  · rintro ⟨romSize, gbe, h⟩
    refine ⟨romSize, bif gbe then 1 else 0, fun _ => ?_⟩
    cases gbe <;> exact h

/-- No arguments recreate what `demefactory` makes of a descriptor with an ME region. -/
theorem demefactory_not_recreated :
    ¬ ∃ romSize hasGbe, ∀ descriptorStruct,
      runDescriptorSource (descriptorSourceFile (disabledMeDescriptor factoryDescriptor))
        descriptorStruct romSize hasGbe = some (disabledMeDescriptor factoryDescriptor) := by
  rintro ⟨romSize, hasGbe, h⟩
  -- the region count is enough to see it: 4 in the factory, 1 or 2 afterwards
  have hread := h factoryDescriptor
  rw [runDescriptorSource_file] at hread
  have hnr := congrArg (fun d => d.flMaps.flMap0.nr) (Option.some.inj hread)
  have hne : ∀ gbe : Bool, (bif gbe then 2 else 1 : BitVec 3) ≠ 4 := by decide
  exact hne (hasGbe != 0) hnr

end Libreboot
